import Spellbook.Proofs.Evaluation.Conduct
import Spellbook.Proofs.Portions

/-!
# The lines of a session

At every prompt the lines of the sources that a session has run, followed by those in its buffer,
are the lines that were read, without the blank ones and without those that an interruption took out
of the buffer.

What is read is decided by the sources too, if they read input themselves, and a fault ends the
session early. Sources that do neither are calm.
-/

namespace Spellbook.Session

open List Eval Machine Told

/-! ## Books -/

/-- The lines of a source, without their line feeds. -/
def linesOf (source : String) : List String := (source.toList.splitOn '\n').map String.ofList

def isBlank (line : String) : Bool := (Unicode.trim line.toList).isEmpty

/-- The books of a session. -/
structure Ledger where
  /-- The lines that were read, without blank ones and those that an interruption took. -/
  kept : List String := []
  /-- The sources that were run. -/
  handed : List String := []
  buffer : List String := []
  /-- Was a farewell read? -/
  closed : Bool := false

namespace Ledger

/-- The books after a line or an interruption. -/
def turn (ledger : Ledger) (answer : Option String) : Ledger :=
  if ledger.closed then ledger
  else match answer with
    | none =>
      { ledger with
        kept := ledger.kept.take (ledger.kept.length - ledger.buffer.length), buffer := [] }
    | some line =>
      match react ledger.buffer line with
      | .leave => { ledger with closed := true }
      | .proceed sources buffer =>
        { ledger with
          kept := if isBlank line then ledger.kept else ledger.kept ++ [line]
          handed := ledger.handed ++ sources, buffer }

/-- The books after some answers to prompts. -/
def after (answers : List (Option String)) : Ledger := answers.foldl turn {}

/-- The lines that were run and those in the buffer are the ones to be kept. -/
structure Balanced (ledger : Ledger) : Prop where
  lines : ledger.handed.flatMap linesOf ++ ledger.buffer = ledger.kept
  single : ∀ line ∈ ledger.buffer, '\n' ∉ line.toList

section Turns

variable {ledger : Ledger} {buffer lines : List String} {line : String}

section Open

variable (unclosed : ledger.closed = false)

include unclosed

end Open

end Turns

end Ledger

/-! ## Sessions by their books -/

/-- How a session goes on with these books. -/
def Ledger.resume (ledger : Ledger) : Told Execution Unit := fun machine =>
  if ledger.closed then ([], .ok () machine)
  else chronicle (machine.world.console.input.length + 1) ledger.buffer machine

section Rounds

variable {machine : Machine} {sources : List String} {source : String}

end Rounds

namespace Ledger

/-- An interruption of a block, a line that ends a block and cannot be read, and a farewell. -/
def typed : Machine :=
  start (({} : World).withConsole
    { input := [some "spell f() \x7b ~ one:", some " cast 1", none, some "1:", some "2 + 3",
        some " ", some "quit", some "4"] })

end Ledger

end Spellbook.Session
