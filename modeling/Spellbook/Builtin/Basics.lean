import Spellbook.Builtin

/-!
# Basic builtins

Lengths, conversions, chance, sleep, and work on tomes and grimoires.
-/

namespace Spellbook.Builtin

open Spellbook.Action

/-- The length of a scroll, tome or grimoire. -/
def measure : List Value → Action Value
  | [value] => do
    match value with
    | .scroll text => return .rune text.length
    | .tome ref => return .rune (← items ref).size
    | .grimoire ref => return .rune (← entries ref).size
    | _ => forbid "Cannot measure this type"
  | _ => forbid "measure requires 1 argument"

/-- Turn a fault about a type or a value into an error; other trouble stays. -/
def orForbid {α : Type} (words : String) (action : Action α) : Action α :=
  recover action fun trouble =>
    if trouble.className == "ValueError" || trouble.className == "TypeError" then
      forbid (words ++ trouble.text)
    else throw trouble

/-- A value as an integer. -/
def transformToRune : List Value → Action Value
  | [value] => do return .rune (← orForbid "Cannot transform to rune: " (integer value))
  | _ => forbid "transform_to_rune requires 1 argument"

/-- A value as text. -/
def transformToScroll : List Value → Action Value
  | [value] => do return .scroll (← text value)
  | _ => forbid "transform_to_scroll requires 1 argument"

/-- A value as a float. -/
def transformToPotion : List Value → Action Value
  | [value] => do
    match value with
    | .potion .. => return value
    | value => newPotion (← orForbid "Cannot transform to potion: " (floating value))
  | _ => forbid "transform_to_potion requires 1 argument"

/-- An integer drawn between two bounds. -/
def randomFate : List Value → Action Value
  | [low, high] => do
    let low ← integer low
    let high ← integer high
    return .rune (← drawBetween low high)
  | _ => forbid "random_fate requires 2 arguments (min, max)"

/-- Wait for some seconds. -/
def slumber : List Value → Action Value
  | [seconds] => do
    let seconds ← floating seconds
    if seconds < 0 then fault .negativeSleep
    else
      note (.sleep seconds)
      return .void
  | _ => forbid "slumber requires 1 argument (seconds)"

/-- How many integers there are from one on, below another, with a step. -/
def progressionSize (start stop step : Int) : Nat :=
  if 0 < step then ((stop - start + step - 1).fdiv step).toNat
  else if step < 0 then ((start - stop - step - 1).fdiv (-step)).toNat
  else 0

/-- The bound below which the size of a progression must stay to be told. -/
def sizeBound : Nat := Nat.pow 2 63

/-- A tome of integers from one on, below another, with a step. -/
def progression (start stop step : Int) : Action Value :=
  if step == 0 then fault .zeroStep
  else
    let size := progressionSize start stop step
    if sizeBound ≤ size then fault .rangeTooLarge
    else if Store.capacity ≤ size then fault .outOfMemory
    else newTome ((List.range size).map fun (index : Nat) => .rune (start + index * step))

/-- The integers between bounds, with a step. -/
def range : List Value → Action Value
  | [stop] => do progression 0 (← integer stop) 1
  | [start, stop] => do
    let start ← integer start
    progression start (← integer stop) 1
  | [start, stop, step] => do
    let start ← integer start
    let stop ← integer stop
    progression start stop (← integer step)
  | _ => forbid "range requires 1-3 arguments"

/-- Put an item at the end of a tome. -/
def append : List Value → Action Value
  | [coll, item] => do
    match coll with
    | .tome _ =>
      appendTo coll item
      return .void
    | _ => forbid "First argument must be a tome (list)"
  | _ => forbid "append requires 2 arguments (list, item)"

/-- Take the first equal item out of a tome. -/
def remove : List Value → Action Value
  | [coll, item] => do
    match coll with
    | .tome ref =>
      let store ← store
      match ← ofResult ((store.tome ref).findIdxM? (store.same · item)) with
      | none => fault .notInList
      | some index =>
        modifyStore fun store => store.modifyTome ref fun items =>
          (items.toList.eraseIdx index).toArray
        return .void
    | _ => forbid "First argument must be a tome (list)"
  | _ => forbid "remove requires 2 arguments (list, item)"

/-- The keys of a grimoire, in order. -/
def keys : List Value → Action Value
  | [.grimoire ref] => do newTome (← entries ref).keys.toList
  | [_] => forbid "Argument must be a grimoire (dict)"
  | _ => forbid "keys requires 1 argument"

/-- The values of a grimoire, in order. -/
def values : List Value → Action Value
  | [.grimoire ref] => do newTome (← entries ref).values.toList
  | [_] => forbid "Argument must be a grimoire (dict)"
  | _ => forbid "values requires 1 argument"

/-- The word for the kind of a value. -/
def typeOf : List Value → Action Value
  | [value] => return .scroll value.kindName
  | _ => forbid "type_of requires 1 argument"

/-- The builtins on values of every kind. -/
def basics : List Builtin :=
  [⟨"measure", some 1, measure⟩,
    ⟨"transform_to_rune", some 1, transformToRune⟩,
    ⟨"transform_to_scroll", some 1, transformToScroll⟩,
    ⟨"transform_to_potion", some 1, transformToPotion⟩,
    ⟨"random_fate", some 2, randomFate⟩,
    ⟨"slumber", some 1, slumber⟩,
    ⟨"range", none, range⟩,
    ⟨"append", some 2, append⟩,
    ⟨"remove", some 2, remove⟩,
    ⟨"keys", some 1, keys⟩,
    ⟨"values", some 1, values⟩,
    ⟨"type_of", some 1, typeOf⟩]

end Spellbook.Builtin
