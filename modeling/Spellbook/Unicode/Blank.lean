import Spellbook.Unicode.Intervals

/-!
# Blank characters

White space in the wide sense: the characters of the bidirectional types WS, B and S and of the
category Zs of Unicode 14.0.  Trimming of text goes by this class.
-/

namespace Spellbook.Unicode

def blanks : Intervals := .ofRuns [
  9,5,14,5,100,1,26,1,5599,1,2431,11,29,2,5,1,47,1,4000,1]

def isBlank (char : Char) : Bool := blanks.holds char

def trimStart (text : List Char) : List Char := text.dropWhile isBlank

def trimEnd (text : List Char) : List Char := (text.reverse.dropWhile isBlank).reverse

def trim (text : List Char) : List Char := trimEnd (trimStart text)

end Spellbook.Unicode
