/-!
# Lines

Two ways to see line ends: the three usual line ends become a line feed when text is read from a
file, and a text is divided into lines at every line boundary of Unicode.
-/

namespace Spellbook.Text

/-- Replace `\r\n` and `\r` by `\n`. -/
def unifyNewlines : List Char → List Char
  | [] => []
  | '\r' :: '\n' :: rest => '\n' :: unifyNewlines rest
  | char :: rest => (if char == '\r' then '\n' else char) :: unifyNewlines rest

def isLineBoundary (char : Char) : Bool :=
  [0x0A, 0x0B, 0x0C, 0x0D, 0x1C, 0x1D, 0x1E, 0x85, 0x2028, 0x2029].contains char.toNat

/--
Divide a text into its lines, the line boundaries left out.  `line` holds the characters of the
current line, the last first.  A boundary at the very end starts no further line.
-/
def splitLinesFrom (line : List Char) : List Char → List String
  | [] => if line.isEmpty then [] else [String.ofList line.reverse]
  | '\r' :: '\n' :: rest => String.ofList line.reverse :: splitLinesFrom [] rest
  | char :: rest =>
    if isLineBoundary char then String.ofList line.reverse :: splitLinesFrom [] rest
    else splitLinesFrom (char :: line) rest

def splitLines (text : String) : List String := splitLinesFrom [] text.toList

/--
Cut the first line off a text, its line feed included.  Without a line feed the whole text is the
line.
-/
def takeLine : List Char → List Char × List Char
  | [] => ([], [])
  | char :: rest =>
    if char == '\n' then ([char], rest)
    else
      let (line, others) := takeLine rest
      (char :: line, others)

end Spellbook.Text
