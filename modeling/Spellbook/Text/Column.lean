/-!
# Columns

Texts padded with blanks to the width of a column, counted in characters.  A text that is wider
than its column stays whole.
-/

namespace Spellbook.Text

def blanks (count : Nat) : String := String.ofList (List.replicate count ' ')

def padEnd (width : Nat) (text : String) : String := text ++ blanks (width - text.length)

def padStart (width : Nat) (text : String) : String := blanks (width - text.length) ++ text

end Spellbook.Text
