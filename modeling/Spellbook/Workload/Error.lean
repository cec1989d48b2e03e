import Spellbook.Machine
import Spellbook.Token

/-!
# The workload on errors

Errors of every class, with and without a place, and what escapes from loops and spells.
-/

namespace Spellbook.Workload

def errorTexts (num : Nat) : List String :=
  match ErrorClass.all[num % ErrorClass.all.length]? with
  | none => []
  | some errorClass =>
    let cause : Cause := .told errorClass ("msg" ++ Nat.repr num)
    [(Trouble.caused cause (.known num (num + 1))).text,
      (Trouble.caused cause .unknown).text]

/-- Word errors of all classes. -/
def wording (size : Int) : Datum :=
  let token : Token := { kind := .integer, value := .rune 1, line := 1, column := 1 }
  .list (((List.range size.toNat).flatMap errorTexts ++
    [Halt.breaking.text, Halt.continuing.text, (Halt.casting .void).text, token.describe]).map
      .scroll)

end Spellbook.Workload
