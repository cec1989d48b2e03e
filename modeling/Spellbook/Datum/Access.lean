import Spellbook.Datum
import Spellbook.Number.Conversion

/-!
# Access to plain data

Data from outside need not have the shape that a reader expects.  Each access says what shape it
needs, and is a fault where the data have another.
-/

namespace Spellbook.Datum

def typeName : Datum → String
  | void => "NoneType"
  | charm _ => "bool"
  | rune _ => "int"
  | potion _ => "float"
  | complex .. => "complex"
  | scroll _ => "str"
  | list _ | cycle _ => "list"
  | dict _ => "dict"
  | function kind _ => if kind == "builtin" then "BuiltinFunction" else "SlayFunction"
  | device type => type

/-- Is there nothing to a datum, so that a default takes its place? -/
def isEmpty : Datum → Bool
  | void => true
  | charm truth => !truth
  | rune integer => integer == 0
  | potion number => number == 0
  | scroll text => text.isEmpty
  | list items => items.isEmpty
  | dict entries => entries.isEmpty
  | _ => false

def getD (datum : Datum) (name : String) (standard : Datum) : Except Fault Datum :=
  match datum with
  | dict entries => .ok ((get? name (dict entries)).getD standard)
  | datum => .error (.noAttribute datum.typeName "get")

/-- What stands under a name, or a default where nothing stands or there is nothing to it. -/
def getFilled (datum : Datum) (name : String) (standard : Datum) : Except Fault Datum := do
  let found ← datum.getD name standard
  return if found.isEmpty then standard else found

/-- Enter a datum under a name, in the place of an earlier one. -/
def enter (entries : List (String × Datum)) (entry : String × Datum) : List (String × Datum) :=
  if entries.any (·.1 == entry.1) then
    entries.map fun other => if other.1 == entry.1 then entry else other
  else entries ++ [entry]

/-- The entries of a dictionary whose keys are texts, each key once. -/
def items : Datum → Except Fault (List (String × Datum))
  | dict entries =>
    let named := entries.filterMap fun
      | (scroll name, datum) => some (name, datum)
      | _ => none
    .ok (named.foldl enter [])
  | datum => .error (.noAttribute datum.typeName "items")

/-- The floating point number that a datum stands for. -/
def toFloat : Datum → Except Fault Float
  | potion number => .ok number
  | rune integer => Number.floatOfInteger integer
  | charm truth => .ok (if truth then 1 else 0)
  | scroll text => Number.floatOfText text
  | datum => .error (.notFloatArgument datum.typeName)

def number? : Datum → Option Float
  | potion number => some number
  | rune integer => Binary64.ofInt? integer
  | charm truth => some (if truth then 1 else 0)
  | _ => none

def integer? : Datum → Option Int
  | rune integer => some integer
  | charm truth => some (if truth then 1 else 0)
  | _ => none

def text? : Datum → Option String
  | scroll text => some text
  | _ => none

def elements : Datum → List Datum
  | list items => items
  | _ => []

/-- How many items or entries a datum has, if it can have any. -/
def size? : Datum → Option Nat
  | list items => some items.length
  | dict entries => some entries.length
  | scroll text => some text.length
  | _ => none

end Spellbook.Datum
