import Spellbook.Unicode.Letter

/-!
# Digits

Three classes of Unicode 14.0, each contained in the next: decimal digits, which stand for a
place value; digits, which add superscripts, circled digits and the like; and numeric characters,
which add fractions, letter numbers and ideographic numbers.
-/

namespace Spellbook.Unicode

/--
The decimal digits.  Every interval is a union of runs of ten, each of which spells `0` to `9` in
increasing order.
-/
def decimals : Intervals := .ofRuns [
  48,10,1574,10,134,10,198,10,412,10,118,10,118,10,118,10,118,10,118,10,118,10,118,10,118,10,118,
  10,96,10,118,10,70,10,278,10,70,10,1862,10,38,10,300,10,128,10,166,10,6,10,182,10,86,10,134,10,6,
  10,35270,10,678,10,38,10,198,10,22,10,86,10,406,10,21270,10,1414,10,2182,10,812,10,128,10,60,10,
  144,10,278,10,342,10,118,10,374,10,102,10,102,10,422,10,102,10,758,10,246,10,70,10,19638,10,86,
  10,134,10,27764,50,2368,10,422,10,1622,10,4758,10]

/-- The decimal digits together with the other characters of numeric type Digit. -/
def digits : Intervals := .ofRuns [
  48,10,120,2,5,1,1446,10,134,10,198,10,412,10,118,10,118,10,118,10,118,10,118,10,118,10,118,10,
  118,10,118,10,96,10,118,10,70,10,278,10,70,10,719,9,1134,10,38,10,300,10,128,11,165,10,6,10,182,
  10,86,10,134,10,6,10,1046,1,3,6,6,10,982,9,11,9,11,9,89,1,10,9,1,1,630,9,1,9,1,9,32397,10,678,10,
  38,10,198,10,22,10,86,10,406,10,21270,10,1414,10,1430,4,748,10,294,9,489,9,11,10,128,10,60,10,
  144,10,278,10,342,10,118,10,374,10,102,10,102,10,422,10,102,10,758,10,246,10,70,10,19638,10,86,
  10,134,10,27764,50,2368,10,422,10,1622,10,1958,11,2789,10]

/-- The characters with a numeric value that are not letters. -/
def numerals : Intervals := .ofRuns [
  48,10,120,2,5,1,2,3,1441,10,134,10,198,10,412,10,118,10,4,6,108,10,118,10,118,10,2,6,110,13,115,
  10,8,7,103,10,104,7,7,19,109,10,96,10,118,10,70,20,268,10,70,10,719,20,881,3,239,10,6,10,22,10,
  300,10,128,11,165,10,6,10,182,10,86,10,134,10,6,10,1046,1,3,6,6,10,198,51,2,5,726,60,78,22,630,
  30,1385,1,777,1,25,9,14,3,343,4,138,10,30,8,1,15,32,10,39,15,29536,10,188,10,320,6,154,10,38,10,
  198,10,22,10,86,10,406,10,21270,10,493,45,12,57,17,2,341,27,36,4,29,1,8,1,134,5,202,10,942,8,25,
  7,39,9,75,5,22,6,160,2,2,16,2,46,64,9,52,2,30,3,75,5,104,8,24,8,41,7,330,6,48,10,294,31,158,10,
  42,4,112,7,134,30,128,10,60,10,144,10,7,20,251,10,342,10,118,10,374,10,102,10,102,12,420,19,93,
  10,758,29,227,10,70,10,534,21,1067,111,17905,10,86,10,134,10,1,7,798,23,25673,20,108,25,1109,50,
  2368,10,422,10,1485,9,128,10,791,59,1,3,1,4,76,45,1,15,962,13,2787,10]

/-- The start of the interval of decimal digits that holds the code point. -/
def decimalBase? (point : Nat) : Option Nat :=
  (decimals.bounds.find? fun (first, last) => first ≤ point && point ≤ last).map Prod.fst

def decimalValue? (char : Char) : Option Nat :=
  (decimalBase? char.toNat).map fun base => (char.toNat - base) % 10

/-- Is the character a digit, in the wide sense that includes superscripts? -/
def isDigit (char : Char) : Bool := digits.holds char

/-- May the character continue a word: is it a letter or does it have a numeric value? -/
def isAlphanumeric (char : Char) : Bool :=
  isLetter char || numerals.holds char

end Spellbook.Unicode
