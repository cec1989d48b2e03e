import Spellbook.Builtin

/-!
# Builtins for the console

Printing and reading lines.
-/

namespace Spellbook.Builtin

open Spellbook.Action

/-- The texts of the arguments with blanks between them. -/
def joinedTexts (args : List Value) : Action String := do
  return String.intercalate " " (← args.mapM text)

/-- Print the arguments and end the line. -/
def scribeLine (args : List Value) : Action Value := do
  printLine (← joinedTexts args)
  return .void

/-- Print the arguments on an open line. -/
def scribe (args : List Value) : Action Value := do
  print (← joinedTexts args)
  return .void

/-- Ask for a line of input. -/
def prophecyInput (args : List Value) : Action Value := do
  return .scroll (← readLine (← textOr "" args))

/-- The builtins for the console. -/
def console : List Builtin :=
  [⟨"scribe_line", none, scribeLine⟩,
    ⟨"scribe", none, scribe⟩,
    ⟨"prophecy_input", none, prophecyInput⟩]

end Spellbook.Builtin
