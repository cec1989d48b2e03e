import Spellbook.Value.Conversion
import Spellbook.World.FileAccess
import Spellbook.World.Oracle
import Spellbook.World.Portal

/-!
# Builtins

A builtin has a name, a number of arguments that calls from scripts must have, and an action.  The
action checks its arguments itself, because a builtin can take varying numbers of them.

This module also holds what many builtins do with their arguments: conversions to numbers, access
to the fields of records, and the reaction to trouble with a device.
-/

namespace Spellbook

/-- A function that every script can call. -/
structure Builtin where
  name : String
  /-- How many arguments a call must have, if that is fixed. -/
  arity : Option Nat
  act : List Value → Action Value

namespace Action

/-- The integer that a value converts to. -/
def integer (value : Value) : Action Int := ofResult value.toInteger

/-- The float that a value converts to. -/
def floating (value : Value) : Action Float := ofResult value.toFloat

/-- The text of the next argument, or another text if there is none. -/
def textOr (standard : String) : List Value → Action String
  | [] => return standard
  | value :: _ => text value

/-- As `textOr`, with an integer. -/
def integerOr (standard : Int) : List Value → Action Int
  | [] => return standard
  | value :: _ => integer value

/-- Carry an action out; trouble becomes an error of the class that tells the trouble. -/
def orRefuse {α : Type} (errorClass : ErrorClass) (words : String) (action : Action α) :
    Action α :=
  recover action fun trouble => refuse errorClass (words ++ trouble.text)

/-- The fault of a value without that member. -/
def lacks {α : Type} (value : Value) (member : String) : Action α :=
  fault (.noAttribute value.typeName member)

/-- What a grimoire has under a text, if anything. -/
def field? (ref : Nat) (name : String) : Action (Option Value) := do
  return (← entries ref).get? (.scroll name)

/-- A field that has to be there. -/
def field (ref : Nat) (name : String) : Action Value := do
  match ← field? ref name with
  | some value => return value
  | none => fault (.missingKey (Text.quoted name))

/-- A field, or a standard value without it. -/
def fieldOr (ref : Nat) (name : String) (standard : Value) : Action Value := do
  return (← field? ref name).getD standard

/-- Put an item at the end of a tome. -/
def appendTo (coll item : Value) : Action Unit :=
  match coll with
  | .tome ref => modifyStore fun store => store.modifyTome ref (·.push item)
  | other => lacks other "append"

/-- What a value has at subscript 0. -/
def firstOf (value : Value) : Action Value := do
  match value with
  | .tome ref =>
    match (← items ref)[0]? with
    | some item => return item
    | none => fault .listOutOfRange
  | .grimoire ref =>
    match (← entries ref).get? (.rune 0) with
    | some item => return item
    | none => fault (.missingKey "0")
  | .scroll text =>
    match text.toList with
    | char :: _ => return .scroll char.toString
    | [] => fault .textOutOfRange
  | other => fault (.notSubscriptable other.typeName)

/-- Call the `close` of a value. -/
def close : Value → Action Unit
  | .handle ref .. => closeHandle ref
  | .portal _ => askNetwork .close
  | .connection _ => askDatabase .close
  | other => lacks other "close"

end Action

end Spellbook
