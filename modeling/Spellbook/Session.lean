import Spellbook.Evaluator
import Spellbook.Node.Parser
import Spellbook.Token.Lexer

/-!
# Sessions

A session reads lines, collects those of a block, and runs what is complete.  Errors of the
language are printed and the session goes on; a fault ends it.

What is done with a line depends on the lines that are buffered only, and is described by `react`
apart from running anything.
-/

namespace Spellbook

def readSource (source : String) : Except Trouble Node := do
  Parser.parse (← Token.scan source)

namespace Eval

def ofResult {α : Type} : Except Trouble α → Eval α
  | .ok res => return res
  | .error failure => fail failure

/-- Carry out an evaluation; if it halts, go on with the halt. -/
def attempt {α : Type} (body : Eval α) : Eval (Except Halt α) := fun machine =>
  match body machine with
  | .ok res machine => .ok (.ok res) machine
  | .error halt machine => .ok (.error halt) machine

end Eval

namespace Session

open Eval

/-- Is the program a single expression? -/
def isExpression : Node → Bool
  | .program _ [.expression ..] => true
  | _ => false

/-- Run a source; the value of a single expression is shown unless it is void. -/
def execute (source : String) : Eval Unit := do
  let program ← ofResult (readSource source)
  let res ← Machine.interpret program
  match isExpression program, res with
  | false, _ | _, .void => return
  | true, res => act do Action.printLine (← Action.ofResult ((← Action.store).shown res))

/-- What is done with a line. -/
inductive Reaction where
  | leave
  /-- Run sources, then go on with a buffer. -/
  | proceed (sources buffer : List String)

/-- Lines as one text. -/
def joined (lines : List String) : String := String.intercalate "\n" lines

def opensBlock (line : List Char) : Bool := (Unicode.trimEnd line).getLast? == some ':'

def continuesBlock (line : List Char) : Bool :=
  let stripped := Unicode.trimStart line
  stripped.length < line.length ||
    "otherwise".toList.isPrefixOf stripped || "fate".toList.isPrefixOf stripped

/-- Does the line end the session, when nothing is buffered? -/
def isFarewell (line : List Char) : Bool :=
  let word := String.ofList (Unicode.trim line)
  word == "exit" || word == "quit"

/-- What is done with a line when some lines are buffered. -/
def react (buffer : List String) (line : String) : Reaction :=
  let characters := line.toList
  if isFarewell characters && buffer.isEmpty then .leave
  else if (Unicode.trim characters).isEmpty then
    .proceed (if buffer.isEmpty then [] else [joined buffer]) []
  else if opensBlock characters then .proceed [] (buffer ++ [line])
  else if buffer.isEmpty then .proceed [line] []
  else if continuesBlock characters then .proceed [] (buffer ++ [line])
  else .proceed [joined buffer, line] []

/-- Run a source and print the error it may end in. -/
def executeAndReport (source : String) : Eval Unit := do
  match ← attempt (execute source) with
  | .ok () => return
  | .error halt =>
    if halt.isScriptError then act (Action.printLine halt.text) else throw halt

def executeAll : List String → Eval Unit
  | [] => return
  | source :: sources => do
    executeAndReport source
    executeAll sources

def prompt (buffer : List String) : String := if buffer.isEmpty then "slay> " else "....> "

def depart : Eval Unit := act (Action.printLine "\nThe Slayer departs. Stay vigilant.")

def interrupted : Eval Unit := act (Action.printLine "\n^C - Spell interrupted")

/--
Read lines and react to them, with some lines in the buffer.  Every round reads a line, so a budget
of one more than there are lines suffices.
-/
def converse : (budget : Nat) → (buffer : List String) → Eval Unit
  | 0, _ => throw .weary
  | budget + 1, buffer => do
    match ← attempt (act (Action.readLine (prompt buffer))) with
    | .error (.trouble (.fault .endOfInput)) => depart
    | .error (.trouble (.fault .keyboardInterrupt)) =>
      interrupted
      converse budget []
    | .error halt => throw halt
    | .ok line =>
      match react buffer line with
      | .leave => act (Action.printLine "The Slayer departs. Stay vigilant.")
      | .proceed sources rest =>
        match ← attempt (executeAll sources) with
        | .ok () => converse budget rest
        | .error (.trouble (.fault .endOfInput)) => depart
        | .error (.trouble (.fault .keyboardInterrupt)) =>
          interrupted
          converse budget []
        | .error halt => throw halt

def version : String := "1.1.0"

def greeting : String :=
  "SlayScript REPL v" ++ version ++ "\nCast spells, slay bugs.\n" ++
    "Type 'exit' or 'quit' to leave the Hellmouth.\n\n"

def repl : Eval Unit := do
  act (Action.print greeting)
  converse ((← get).world.console.input.length + 1) []

end Session

end Spellbook
