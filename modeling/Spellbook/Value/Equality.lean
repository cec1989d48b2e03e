import Spellbook.Number.Quantity
import Spellbook.Value

/-!
# Sameness of values

Two values can be one thing, or equal.  Numbers are equal by what they are worth, so that `1`,
`1.0` and `true` are equal; functions and devices are equal only to themselves.
-/

namespace Spellbook.Value

/-- What a value is worth as a number. -/
def quantity? : Value → Option Quantity
  | rune integer => some (.whole integer)
  | charm truth => some (.whole (if truth then 1 else 0))
  | potion number _ => some (.floating number)
  | complex real imaginary => some (.complex real imaginary)
  | _ => none

/-- What a value is worth as a number, if it is one that scripts can calculate with. -/
def number? : Value → Option Quantity
  | complex .. => none
  | value => value.quantity?

def scalarEqual (left right : Value) : Bool :=
  match left, right with
  | void, void => true
  | scroll text, scroll text' => text == text'
  | spell ref _ _, spell ref' _ _ => ref == ref'
  | builtin name mark, builtin name' mark' => name == name' && mark == mark'
  | handle ref .., handle ref' .. => ref == ref'
  | portal ref, portal ref' => ref == ref'
  | connection ref, connection ref' => ref == ref'
  | left, right =>
    match left.quantity?, right.quantity? with
    | some quantity, some quantity' => quantity.equal quantity'
    | _, _ => false

/--
Are two values one thing, although they may not be equal?  That matters for collections and for
what is not a number.
-/
def identical : Value → Value → Bool
  | tome ref, tome ref' => ref == ref'
  | grimoire ref, grimoire ref' => ref == ref'
  | potion number birth, potion number' birth' =>
    number.isNaN && number'.isNaN && birth == birth'
  | _, _ => false

def sameKey (left right : Value) : Bool := left.identical right || left.scalarEqual right

end Spellbook.Value
