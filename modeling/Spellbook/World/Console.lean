/-!
# The console

What is printed, and the lines that are read.  The printed text is kept in chunks, one before each
line that is asked for.
-/

namespace Spellbook

structure Console where
  /-- The lines to be read; `none` is an interrupt in place of a line. -/
  input : List (Option String) := []
  /-- What was printed before each line that was asked for, the last first. -/
  earlier : List String := []
  /-- What was printed since then. -/
  output : String := ""
  errors : String := ""

namespace Console

def print (console : Console) (text : String) : Console :=
  { console with output := console.output ++ text }

def printError (console : Console) (text : String) : Console :=
  { console with errors := console.errors ++ text }

/-- Ask for a line, which there may not be; an interrupt in place of a line is `some none`. -/
def read (console : Console) : Option (Option String) × Console :=
  (console.input.head?,
    { console with
      input := console.input.tail
      earlier := console.output :: console.earlier
      output := "" })

/-- The chunks of what was printed, in order. -/
def chunks (console : Console) : List String := (console.output :: console.earlier).reverse

def printed (console : Console) : String := String.join console.chunks

def clear (console : Console) : Console := { console with earlier := [], output := "" }

end Console

end Spellbook
