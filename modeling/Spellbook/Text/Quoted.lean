import Spellbook.Unicode.Printable

/-!
# Quoted text

The form in which a text stands inside the text of a collection: between quotes, with escapes for
the quote, the backslash and whatever is not printable.  Single quotes are used, unless the text
has a single quote and no double one.
-/

namespace Spellbook.Text

def hexDigit (value : Nat) : Char :=
  if value < 10 then Char.ofNat ('0'.toNat + value) else Char.ofNat ('a'.toNat + (value - 10))

/-- A number in hexadecimal with exactly `width` digits. -/
def hexadecimal : (width value : Nat) → List Char
  | 0, _ => []
  | width + 1, value => hexadecimal width (value / 16) ++ [hexDigit (value % 16)]

def quoteChar (mark char : Char) : List Char :=
  if char == mark || char == '\\' then ['\\', char]
  else if char == '\n' then ['\\', 'n']
  else if char == '\r' then ['\\', 'r']
  else if char == '\t' then ['\\', 't']
  else if Unicode.isPrintable char then [char]
  else
    let point := char.toNat
    if point < 0x100 then ['\\', 'x'] ++ hexadecimal 2 point
    else if point < 0x10000 then ['\\', 'u'] ++ hexadecimal 4 point
    else ['\\', 'U'] ++ hexadecimal 8 point

def quoteMark (text : List Char) : Char :=
  if text.contains '\'' && !text.contains '"' then '"' else '\''

def quoted (text : String) : String :=
  let mark := quoteMark text.toList
  String.ofList (mark :: text.toList.flatMap (quoteChar mark) ++ [mark])

end Spellbook.Text
