/-!
# Values

The values of scripts.  Collections, spells and devices are shared by reference: such a value
holds a number under which the thing itself is kept.
-/

namespace Spellbook

/-- A value of a script. -/
inductive Value where
  | void
  | charm (truth : Bool)
  | rune (integer : Int)
  /--
  A floating point number.  Two that are not numbers differ unless they stem from the same
  computation or both from save files, which `birth` tells; for all others `birth` is without
  meaning.
  -/
  | potion (num : Float) (birth : Nat)
  /-- A complex number, the power of a negative number to a fraction. -/
  | complex (real imaginary : Float)
  | scroll (text : String)
  | tome (ref : Nat)
  | grimoire (ref : Nat)
  /-- A spell, or an incantation if its results are spoken aloud. -/
  | spell (ref : Nat) (name : String) (aloud : Bool)
  /-- A builtin.  The mark tells apart builtins of one name; zero marks those of the library. -/
  | builtin (name : String) (mark : Nat)
  /-- An open file, with the path and the mode it was opened with. -/
  | handle (ref : Nat) (path mode : String)
  | portal (ref : Nat)
  | connection (ref : Nat)

namespace Value

def typeName : Value → String
  | void => "NoneType"
  | charm _ => "bool"
  | rune _ => "int"
  | potion .. => "float"
  | complex .. => "complex"
  | scroll _ => "str"
  | tome _ => "list"
  | grimoire _ => "dict"
  | spell .. => "SlayFunction"
  | builtin .. => "BuiltinFunction"
  | handle .. => "_io.TextIOWrapper"
  | portal _ => "Socket"
  | connection _ => "Connection"

def kindName : Value → String
  | void => "void"
  | charm _ => "charm"
  | rune _ => "rune"
  | potion .. => "potion"
  | scroll _ => "scroll"
  | tome _ => "tome"
  | grimoire _ => "grimoire"
  | _ => "unknown"

def functionText (kind name : String) : String := "<" ++ kind ++ " " ++ name ++ ">"

def spellKind (aloud : Bool) : String := if aloud then "incantation" else "spell"

/-- The integer of a rune or charm. -/
def integer? : Value → Option Int
  | rune integer => some integer
  | charm truth => some (if truth then 1 else 0)
  | _ => none

/-- Can the value be a key of a grimoire? -/
def isHashable : Value → Bool
  | tome _ | grimoire _ => false
  | _ => true

end Value

end Spellbook
