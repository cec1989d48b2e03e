import Spellbook.Number.Shortest

/-!
# Numbers as text

Integers are written in decimal, floating point numbers with the fewest digits that read back.
An integer of more digits than the limit has no text.
-/

namespace Spellbook.Number

/-- The most digits an integer may have to be written or read. -/
def digitLimit : Nat := 4300

def integerText (integer : Int) : String :=
  if integer < 0 then "-" ++ Nat.repr integer.natAbs else Nat.repr integer.natAbs

def isWritable (integer : Int) : Bool := integer.natAbs < Nat.pow 10 digitLimit

/-- How floating point numbers are laid out. -/
structure FloatFormat where
  /-- Is `.0` added to a number that would otherwise read as an integer? -/
  pointZero : Bool

def zeros (count : Int) : String := String.ofList (List.replicate count.toNat '0')

/-- An exponent has a sign and at least two digits. -/
def exponentText (exp : Int) : String :=
  let digits := Nat.repr exp.natAbs
  "e" ++ (if exp < 0 then "-" else "+") ++
    (if digits.length < 2 then "0" ++ digits else digits)

/--
Lay out the digits of a positive number.  `point` is the number of digits before the decimal
point.  The positional form is used from `0.0001` up to sixteen digits before the point, and the
form with an exponent outside.
-/
def layOut (format : FloatFormat) (digits : String) (point : Int) : String :=
  let count : Int := digits.length
  if point ≤ -4 || 16 < point then
    let tail := digits.toList.drop 1
    String.ofList (digits.toList.take 1) ++
      (if tail.isEmpty then "" else "." ++ String.ofList tail) ++ exponentText (point - 1)
  else if point ≤ 0 then "0." ++ zeros (-point) ++ digits
  else if count ≤ point then
    digits ++ zeros (point - count) ++ (if format.pointZero then ".0" else "")
  else
    String.ofList (digits.toList.take point.toNat) ++ "." ++
      String.ofList (digits.toList.drop point.toNat)

def floatTextIn (format : FloatFormat) (num : Float) : String :=
  match Binary64.view num with
  | .notANumber => "nan"
  | .infinite negative => if negative then "-inf" else "inf"
  | .finite negative significand exp =>
    let sign := if negative then "-" else ""
    if significand = 0 then sign ++ "0" ++ (if format.pointZero then ".0" else "")
    else
      let (digits, place) := Shortest.digits significand exp
      let text := Nat.repr digits
      sign ++ layOut format text (place + text.length)

/-- The text of a floating point number, which never reads as an integer. -/
def floatText (num : Float) : String := floatTextIn ⟨true⟩ num

/--
The text of a complex number.  The real part is left out when it is zero, unless the zero is
negative.
-/
def complexText (real imaginary : Float) : String :=
  let imaginaryText := floatTextIn ⟨false⟩ imaginary
  if real == 0 && !Binary64.isNegative real then imaginaryText ++ "j"
  else
    let sign := if imaginaryText.startsWith "-" then "" else "+"
    "(" ++ floatTextIn ⟨false⟩ real ++ sign ++ imaginaryText ++ "j)"

/-- A finite number with a fixed number of decimal places, ties going to the even neighbour. -/
def fixedText (places : Nat) (num : Float) : String :=
  match Binary64.view num with
  | .notANumber => "nan"
  | .infinite negative => if negative then "-inf" else "inf"
  | .finite negative significand exp =>
    let (top, bottom) := Binary64.ratio significand exp
    let scaled := Binary64.roundDiv (top * Nat.pow 10 places) bottom
    let whole := Nat.repr (scaled / Nat.pow 10 places)
    let part := Nat.repr (scaled % Nat.pow 10 places)
    let sign := if negative then "-" else ""
    if places = 0 then sign ++ whole
    else sign ++ whole ++ "." ++ zeros ((places : Int) - part.length) ++ part

/-- The number rounded to a fixed number of decimal places, ties going to the even neighbour. -/
def roundTo (places : Nat) (num : Float) : Float :=
  match Binary64.view num with
  | .finite negative significand exp =>
    let (top, bottom) := Binary64.ratio significand exp
    let scaled := Binary64.roundDiv (top * Nat.pow 10 places) bottom
    (Binary64.ofRatio? negative scaled (Nat.pow 10 places)).getD num
  | _ => num

end Spellbook.Number
