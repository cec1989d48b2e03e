import Spellbook.Number.Text
import Spellbook.Value

/-!
# Plain data

A datum is a value spread out as a tree, with no reference into any store.  Data come from outside
(save files, answers of servers and databases) and go there (the journal of what devices saw).
-/

namespace Spellbook

/-- A value as a tree. -/
inductive Datum where
  | void
  | charm (truth : Bool)
  | rune (integer : Int)
  | potion (num : Float)
  | complex (real imaginary : Float)
  | scroll (text : String)
  | list (items : List Datum)
  | dict (entries : List (Datum × Datum))
  /-- A function, of a kind and with a name. -/
  | function (kind name : String)
  | device (type : String)
  /-- A collection that contains itself: the one so many levels up. -/
  | cycle (levels : Nat)
  deriving Inhabited

namespace Datum

/-- The entry of a dictionary under a text; of several the last counts. -/
def get? (key : String) : Datum → Option Datum
  | dict entries =>
    (entries.reverse.find? fun
      | (scroll text, _) => text == key
      | _ => false).map Prod.snd
  | _ => none

def record (entries : List (String × Datum)) : Datum :=
  dict (entries.map fun (name, datum) => (scroll name, datum))

end Datum

end Spellbook
