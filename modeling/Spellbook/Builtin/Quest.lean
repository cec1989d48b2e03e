import Spellbook.Builtin
import Spellbook.Unicode.Case

/-!
# Builtins for quests

Heroes and creatures are records with health, and heroes gain experience and levels.  Scripts may
have changed the fields of a record, so arithmetic on them can fail like any other.
-/

namespace Spellbook.Builtin

open Spellbook.Action

/-! ## Arithmetic on fields -/

/-- A difference; the fault names the sign. -/
def lessBy (sign : String) (value amount : Value) : Action Value :=
  match value.quantity?, amount.quantity? with
  | some quantity, some quantity' => do newQuantity (← ofResult (quantity.subtract quantity'))
  | _, _ => fault (.unsupportedOperands sign value.typeName amount.typeName)

/-- The sum of a value and an integer. -/
def plusInteger (value : Value) (amount : Int) : Action Value :=
  match value with
  | .scroll _ => fault (.cannotConcatenate "str" "int")
  | .tome _ => fault (.cannotConcatenate "list" "int")
  | value =>
    match value.quantity? with
    | some quantity => do newQuantity (← ofResult (quantity.add (.whole amount)))
    | none => fault (.unsupportedOperands "+" value.typeName "int")

/-- Add an integer to a field in place. -/
def increase (ref : Nat) (name : String) (amount : Int) : Action Unit := do
  let value ← field ref name
  let increased ← match value with
    | .scroll _ => fault (.cannotConcatenate "str" "int")
    | .tome _ => fault (.notIterable "int")
    | value =>
      match value.quantity? with
      | some quantity => do newQuantity (← ofResult (quantity.add (.whole amount)))
      | none => fault (.unsupportedOperands "+=" value.typeName "int")
  put ref name increased

/-- A value taken so many times. -/
def timesNumber (value : Value) (count : Nat) : Action Value :=
  match value with
  | .scroll text => return .scroll (String.join (List.replicate count text))
  | .tome ref => do
    let items := (← items ref).toList
    newTome (List.replicate count items).flatten
  | value =>
    match value.quantity? with
    | some quantity => do newQuantity (← ofResult (quantity.multiply (.whole count)))
    | none => fault (.unsupportedOperands "*" value.typeName "int")

/-! ## Heroes and creatures -/

/-- The gifts that a hero has from the class. -/
structure Gifts where
  strength : Int
  agility : Int
  wisdom : Int
  vitality : Int

/-- The gifts of the classes; an unknown class has those of an adventurer. -/
def giftsOf : String → Gifts
  | "warrior" => ⟨14, 8, 6, 12⟩
  | "mage" => ⟨6, 8, 14, 8⟩
  | "rogue" => ⟨8, 14, 8, 8⟩
  | "ranger" => ⟨10, 12, 10, 8⟩
  | "cleric" => ⟨8, 6, 14, 10⟩
  | "paladin" => ⟨12, 6, 10, 12⟩
  | "bard" => ⟨8, 10, 12, 8⟩
  | _ => ⟨10, 10, 10, 10⟩

/-- A new hero, with the gifts of the class. -/
def heroOf (name heroClass : String) (level : Int) : Action Value := do
  let heroClass := Unicode.lowerText heroClass
  let gifts := giftsOf heroClass
  let health := gifts.vitality * 10 + (level - 1) * 5
  let mana := gifts.wisdom * 5 + (level - 1) * 3
  let inventory ← newTome []
  let equipped ← newRecord []
  newRecord
    [("name", .scroll name), ("class", .scroll heroClass), ("level", .rune level),
      ("experience", .rune 0), ("health", .rune health), ("max_health", .rune health),
      ("mana", .rune mana), ("max_mana", .rune mana), ("strength", .rune gifts.strength),
      ("agility", .rune gifts.agility), ("wisdom", .rune gifts.wisdom),
      ("vitality", .rune gifts.vitality), ("gold", .rune 100), ("inventory", inventory),
      ("equipped", equipped), ("alive", .charm true)]

/-- As `heroOf`, on arguments. -/
def forgeHero (args : List Value) : Action Value :=
  match args with
  | name :: others =>
    if 2 < others.length then
      forbid "forge_hero requires 1-3 arguments (name, [class], [level])"
    else do
      let name ← text name
      let heroClass ← textOr "adventurer" others
      heroOf name heroClass (← integerOr 1 (others.drop 1))
  | [] => forbid "forge_hero requires 1-3 arguments (name, [class], [level])"

/-- A new creature; single loot becomes a tome. -/
def creatureOf (name health damage : Value) (loot : List Value) : Action Value := do
  let name ← text name
  let health ← integer health
  let damage ← integer damage
  let loot ← match loot with
    | [] => newTome []
    | .tome ref :: _ => pure (.tome ref)
    | single :: _ => newTome [single]
  newRecord
    [("name", .scroll name), ("health", .rune health), ("max_health", .rune health),
      ("damage", .rune damage), ("loot", loot), ("alive", .charm true)]

/-- As `creatureOf`, on arguments. -/
def forgeCreature : List Value → Action Value
  | [name, health, damage] => creatureOf name health damage []
  | [name, health, damage, loot] => creatureOf name health damage [loot]
  | _ => forbid "forge_creature requires 3-4 arguments (name, health, damage, [loot])"

/-- The sum of so many rolls. -/
def rollSum (sides : Int) : (count : Nat) → Action Int
  | 0 => return 0
  | count + 1 => do
    let roll ← drawBetween 1 sides
    return roll + (← rollSum sides count)

/-- Roll dice and add a modifier. -/
def rollDestiny (args : List Value) : Action Value :=
  match args with
  | sides :: others =>
    if 2 < others.length then
      forbid "roll_destiny requires 1-3 arguments (sides, [count], [modifier])"
    else do
      let sides ← integer sides
      let count ← integerOr 1 others
      let modifier ← integerOr 0 (others.drop 1)
      if sides < 1 then refuse .questFailed "Dice must have at least 1 side"
      else if count < 1 then refuse .questFailed "Must roll at least 1 die"
      else return .rune ((← rollSum sides count.toNat) + modifier)
  | [] => forbid "roll_destiny requires 1-3 arguments (sides, [count], [modifier])"

/-- The grimoire of a target, which needs health. -/
def withHealth (target : Value) : Action Nat := do
  match target with
  | .grimoire ref =>
    if (← field? ref "health").isSome then return ref
    else refuse .questFailed "Target must be a hero or creature with health"
  | _ => refuse .questFailed "Target must be a hero or creature with health"

/-- Take health away; who has none left is dead. -/
def inflictWound : List Value → Action Value
  | [target, damage] => do
    let damage ← integer damage
    let ref ← withHealth target
    let left ← lessBy "-" (← field ref "health") (.rune damage)
    let health := if ← compare .greater left (.rune 0) then left else .rune 0
    put ref "health" health
    if ← compare .atMost health (.rune 0) then put ref "alive" (.charm false)
    return target
  | _ => forbid "inflict_wound requires 2 arguments (target, damage)"

/-- Give health back, up to the greatest health; who has some is alive. -/
def restoreVigor : List Value → Action Value
  | [target, amount] => do
    let amount ← integer amount
    let ref ← withHealth target
    let greatest ← fieldOr ref "max_health" (← field ref "health")
    let healed ← plusInteger (← field ref "health") amount
    let health := if ← compare .less healed greatest then healed else greatest
    put ref "health" health
    if ← compare .greater health (.rune 0) then put ref "alive" (.charm true)
    return target
  | _ => forbid "restore_vigor requires 2 arguments (target, amount)"

/-- Put an item into a hero's inventory. -/
def bestowArtifact : List Value → Action Value
  | [hero, item] => do
    match hero with
    | .grimoire ref =>
      match ← field? ref "inventory" with
      | some inventory =>
        appendTo inventory item
        return hero
      | none => refuse .questFailed "First argument must be a hero with an inventory"
    | _ => refuse .questFailed "First argument must be a hero with an inventory"
  | _ => forbid "bestow_artifact requires 2 arguments (hero, item)"

/-- Take the loot of a dead creature, which can be taken only once. -/
def claimLoot : List Value → Action Value
  | [creature] => do
    match creature with
    | .grimoire ref =>
      if ← truth (← fieldOr ref "alive" (.charm true)) then
        refuse .questFailed "Cannot loot a living creature!"
      else
        let loot ← match ← field? ref "loot" with
          | some loot => pure loot
          | none => newTome []
        put ref "loot" (← newTome [])
        return loot
    | _ => refuse .questFailed "Argument must be a creature"
  | _ => forbid "claim_loot requires 1 argument (creature)"

/-- Is the target alive, or else healthy? -/
def checkFate : List Value → Action Value
  | [target] => do
    match target with
    | .grimoire ref =>
      let healthy ← compare .greater (← fieldOr ref "health" (.rune 0)) (.rune 0)
      fieldOr ref "alive" (.charm healthy)
    | _ => refuse .questFailed "Argument must be a hero or creature"
  | _ => forbid "check_fate requires 1 argument (target)"

/-! ## Experience -/

/-- The size of a number without its sign and fraction. -/
def magnitude (value : Value) : Nat :=
  match value.quantity? with
  | some (.whole integer) => integer.natAbs
  | some (.floating num) =>
    match Number.integerOfFloat num with
    | .ok integer => integer.natAbs
    | .error _ => 0
  | _ => 0

/--
More levels than can be gained: from a level that is not positive on, every level up to the first
positive one adds experience, and every later level takes at least a hundred points.
-/
def levelBudget (level experience : Value) : Nat :=
  let size := magnitude level
  2 + size + (magnitude experience + 100 * Nat.pow (size + 1) 2) / 100

/-- What a hero gains with a level. -/
def raiseLevel (ref : Nat) : Action Unit := do
  increase ref "level" 1
  increase ref "max_health" 5
  put ref "health" (← field ref "max_health")
  increase ref "max_mana" 3
  put ref "mana" (← field ref "max_mana")
  increase ref "strength" 1
  increase ref "agility" 1
  increase ref "wisdom" 1
  increase ref "vitality" 1

/-- Turn experience into levels as long as there is enough for the next one. -/
def gainLevels (ref : Nat) : (budget : Nat) → Action Unit
  | 0 => fault .exhausted
  | budget + 1 => do
    let price ← timesNumber (← field ref "level") 100
    let experience ← field ref "experience"
    if ← compare .atLeast experience price then
      put ref "experience" (← lessBy "-=" experience price)
      raiseLevel ref
      gainLevels ref budget

/-- Give a hero experience and the levels it buys. -/
def gainExperience : List Value → Action Value
  | [hero, amount] => do
    let amount ← integer amount
    match hero with
    | .grimoire ref =>
      if (← field? ref "experience").isSome then
        increase ref "experience" amount
        let level ← field ref "level"
        gainLevels ref (levelBudget level (← field ref "experience"))
        return hero
      else refuse .questFailed "First argument must be a hero"
    | _ => refuse .questFailed "First argument must be a hero"
  | _ => forbid "gain_experience requires 2 arguments (hero, amount)"

/-! ## Chance -/

/-- Does something of the given chance happen? -/
def encounterChance : List Value → Action Value
  | [percent] => do
    let percent ← floating percent
    if percent < 0 || 100 < percent then
      refuse .questFailed "Percent must be between 0 and 100"
    else
      let num ← draw
      let part := Float.ofNat (num % 10000) / 10000
      return .charm (part * 100 < percent)
  | _ => forbid "encounter_chance requires 1 argument (percent)"

/-- An item drawn from a tome. -/
def chooseFate : List Value → Action Value
  | [options] => do
    match options with
    | .tome ref =>
      let items ← items ref
      if items.isEmpty then refuse .questFailed "Options must be a non-empty tome (list)"
      else
        let num ← draw
        return items.getD (num % items.size) .void
    | _ => refuse .questFailed "Options must be a non-empty tome (list)"
  | _ => forbid "choose_fate requires 1 argument (options)"

end Spellbook.Builtin
