import Spellbook.Number.Text
import Spellbook.Unicode.Blank
import Spellbook.Unicode.Digit

/-!
# Reading numbers from text

The grammars of written integers and floating point numbers.  Blanks may surround a number, the
decimal digits of every script are digits, and single underscores may stand between digits.
-/

namespace Spellbook.Number

inductive IntegerFlaw where
  | malformed
  | tooLong (digits : Nat)

/--
The plain form of a character of a number: other blanks become spaces, other decimal digits their
ASCII twins, and whatever else lies outside ASCII a character that no number contains.
-/
def plain (char : Char) : Char :=
  if char.toNat < 127 then char
  else if Unicode.isBlank char then ' '
  else match Unicode.decimalValue? char with
    | some value => Char.ofNat ('0'.toNat + value)
    | none => '?'

/-- The blanks that may surround a number in its plain form. -/
def isPlainBlank (char : Char) : Bool :=
  char == ' ' || (9 ≤ char.toNat && char.toNat ≤ 13)

def isPlainDigit (char : Char) : Bool := '0' ≤ char && char ≤ '9'

def plainValue (char : Char) : Nat := char.toNat - '0'.toNat

def digitsValue (digits : List Char) : Nat :=
  digits.foldl (fun value digit => 10 * value + plainValue digit) 0

/-- Take an optional sign off a text; `true` stands for a minus. -/
def takeSign : List Char → Bool × List Char
  | '-' :: rest => (true, rest)
  | '+' :: rest => (false, rest)
  | rest => (false, rest)

/-- Are the underscores single and between digits? -/
def underscoresFit : (previous : Char) → List Char → Bool
  | previous, [] => previous != '_'
  | previous, char :: rest =>
    (if char == '_' then isPlainDigit previous
      else previous != '_' || isPlainDigit char) && underscoresFit char rest

def readInteger (text : List Char) : Except IntegerFlaw Int :=
  let (negative, body) := takeSign ((text.map plain).dropWhile isPlainBlank)
  let isPart (char : Char) : Bool := isPlainDigit char || char == '_'
  let numeral := body.takeWhile isPart
  let rest := body.dropWhile isPart
  let digits := numeral.filter isPlainDigit
  if digits.isEmpty || !underscoresFit ' ' numeral then .error .malformed
  else if digitLimit < digits.length then .error (.tooLong digits.length)
  else if !rest.all isPlainBlank then .error .malformed
  else
    let value : Int := digitsValue digits
    .ok (if negative then -value else value)

/-- The number nearest to `digits * 10 ^ exponent`, infinite when that is too large. -/
def nearestDecimal (negative : Bool) (digits : Nat) (exp : Int) : Float :=
  if digits = 0 then Binary64.ofMagnitude negative 0
  else
    let leading : Int := exp + (Nat.repr digits).length
    if 400 < leading then Binary64.infinity negative
    else if leading < -400 then Binary64.ofMagnitude negative 0
    else
      let (top, bottom) := Shortest.powerOfTen exp
      (Binary64.ofRatio? negative (digits * top) bottom).getD (Binary64.infinity negative)

/-- The exponent part of a number; an empty text stands for an exponent of zero. -/
def readExponent? : List Char → Option Int
  | [] => some 0
  | mark :: rest =>
    if mark == 'e' || mark == 'E' then
      let (negative, digits) := takeSign rest
      if digits.isEmpty || !digits.all isPlainDigit then none
      else
        let value : Int := digitsValue digits
        some (if negative then -value else value)
    else none

/-- Read digits with an optional fraction and an optional exponent. -/
def readDecimal? (negative : Bool) (text : List Char) : Option Float :=
  let whole := text.takeWhile isPlainDigit
  let afterWhole := text.dropWhile isPlainDigit
  let (frac, tail) := match afterWhole with
    | '.' :: rest => (rest.takeWhile isPlainDigit, rest.dropWhile isPlainDigit)
    | rest => ([], rest)
  if whole.isEmpty && frac.isEmpty then none
  else (readExponent? tail).map fun exp =>
    nearestDecimal negative (digitsValue (whole ++ frac)) (exp - frac.length)

def plainLower (char : Char) : Char :=
  if 'A' ≤ char && char ≤ 'Z' then Char.ofNat (char.toNat + 32) else char

def readFloat? (text : List Char) : Option Float :=
  let trimmed := (text.map plain).dropWhile isPlainBlank
  let trimmed := (trimmed.reverse.dropWhile isPlainBlank).reverse
  if !underscoresFit ' ' trimmed then none
  else
    let (negative, body) := takeSign (trimmed.filter (· != '_'))
    let word := String.ofList (body.map plainLower)
    if word == "inf" || word == "infinity" then some (Binary64.infinity negative)
    else if word == "nan" then some Binary64.notANumber
    else readDecimal? negative body

end Spellbook.Number
