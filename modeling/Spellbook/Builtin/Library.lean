import Spellbook.Builtin.Basics
import Spellbook.Builtin.Canvas
import Spellbook.Builtin.Console
import Spellbook.Builtin.Oracle
import Spellbook.Builtin.Portal
import Spellbook.Builtin.Realm
import Spellbook.Builtin.Saga
import Spellbook.Builtin.Scroll
import Spellbook.Builtin.Speech

/-!
# The library of builtins

All builtins, and how to find one by its name.
-/

namespace Spellbook.Builtin

/-- All builtins. -/
def library : List Builtin :=
  speech ++ portals ++ canvases ++ console ++ basics ++ scrolls ++ oracles ++ quests ++ realms

/-- The builtin with a name. -/
def named? (name : String) : Option Builtin := library.find? (·.name == name)

end Spellbook.Builtin
