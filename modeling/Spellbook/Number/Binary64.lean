/-!
# Binary floating point numbers as exact numbers

A finite floating point number of 64 bits is a sign, a natural significand and a power of two.
This module takes a number apart, finds the number nearest to a given ratio, and derives from the
two what the hardware operations do not offer: conversion from and to integers of any size, exact
comparison with integers, and the remainder of a division.
-/

namespace Spellbook.Binary64

/-- What the bits of a floating point number mean. -/
inductive View where
  | notANumber
  | infinite (negative : Bool)
  | finite (negative : Bool) (significand : Nat) (exp : Int)

/-- Take a number apart.  A finite one is `± significand * 2 ^ exponent`. -/
def view (num : Float) : View :=
  let bits := num.toBits.toNat
  let negative := Nat.pow 2 63 ≤ bits
  let exp : Nat := bits / Nat.pow 2 52 % Nat.pow 2 11
  let frac : Nat := bits % Nat.pow 2 52
  if exp = 2047 then
    if frac = 0 then .infinite negative else .notANumber
  else if exp = 0 then .finite negative frac (-1074)
  else .finite negative (Nat.pow 2 52 + frac) ((exp : Int) - 1075)

/-- The number of the given sign whose other bits spell `magnitude`. -/
def ofMagnitude (negative : Bool) (magnitude : Nat) : Float :=
  Float.ofBits (UInt64.ofNat (if negative then Nat.pow 2 63 + magnitude else magnitude))

def infinity (negative : Bool) : Float := ofMagnitude negative (2047 * Nat.pow 2 52)

def notANumber : Float := ofMagnitude false (2047 * Nat.pow 2 52 + Nat.pow 2 51)

/-- The quotient rounded to the nearest natural number, a tie going to the even neighbour. -/
def roundDiv (numerator den : Nat) : Nat :=
  let quotient := numerator / den
  let twice := 2 * (numerator % den)
  if twice < den then quotient
  else if den < twice then quotient + 1
  else if quotient % 2 = 0 then quotient
  else quotient + 1

/-- The ratio divided by `2 ^ exponent`, as a ratio again. -/
def scale (numerator den : Nat) (exp : Int) : Nat × Nat :=
  match exp with
  | .ofNat shift => (numerator, den <<< shift)
  | .negSucc shift => (numerator <<< (shift + 1), den)

/--
The bits, without the sign, of the number nearest to a ratio, a tie going to the number with the
even significand; `none` when that number would be infinite.
-/
def nearestMagnitude? (numerator den : Nat) : Option Nat :=
  if numerator = 0 then some 0
  else
    let guess : Int := (numerator.log2 : Int) - den.log2 - 53
    let (top, bottom) := scale numerator den guess
    let exact := if top / bottom < Nat.pow 2 53 then guess else guess + 1
    let exp := max exact (-1074)
    let (top, bottom) := scale numerator den exp
    let significand := roundDiv top bottom
    let magnitude :=
      if significand < Nat.pow 2 52 then significand
      else (exp + 1074).toNat * Nat.pow 2 52 + significand
    if magnitude < 2047 * Nat.pow 2 52 then some magnitude else none

/-- The number of the given sign nearest to a ratio, unless the ratio is too large. -/
def ofRatio? (negative : Bool) (numerator den : Nat) : Option Float :=
  (nearestMagnitude? numerator den).map (ofMagnitude negative)

def ofInt? (integer : Int) : Option Float :=
  ofRatio? (integer < 0) integer.natAbs 1

def ofQuotient? (dividend divisor : Int) : Option Float :=
  ofRatio? (decide (dividend < 0) != decide (divisor < 0)) dividend.natAbs divisor.natAbs

def ratio (significand : Nat) (exp : Int) : Nat × Nat :=
  scale significand 1 (-exp)

/-- The integer between zero and the number, both included, that is nearest to the number. -/
def truncate (negative : Bool) (significand : Nat) (exp : Int) : Int :=
  let (top, bottom) := ratio significand exp
  if negative then -(top / bottom : Nat) else (top / bottom : Nat)

def isOdd (num : Float) : Bool :=
  match view num with
  | .finite _ significand exp =>
    let (top, bottom) := ratio significand exp
    top % bottom == 0 && (top / bottom) % 2 == 1
  | _ => false

/-- The order of a number and an integer, in which no rounding takes part. -/
def compareInt? (num : Float) (integer : Int) : Option Ordering :=
  match view num with
  | .notANumber => none
  | .infinite negative => some (if negative then .lt else .gt)
  | .finite negative significand exp =>
    let (top, bottom) := ratio significand exp
    let signed : Int := if negative then -(top : Int) else top
    some (compare signed (integer * bottom))

/-- The order of two numbers; `none` when one of them is not a number. -/
def compare? (left right : Float) : Option Ordering :=
  if left < right then some .lt
  else if left == right then some .eq
  else if right < left then some .gt
  else none

/--
The remainder of a division whose quotient is cut off towards zero.  The remainder of two finite
numbers is a number exactly, with the sign of the dividend.
-/
def truncatedRemainder (dividend divisor : Float) : Float :=
  match view dividend, view divisor with
  | .finite negative significand exp, .finite _ significand' exp' =>
    if significand' = 0 then notANumber
    else
      let least := min exp exp'
      let remainder := (significand <<< (exp - least).toNat) %
        (significand' <<< (exp' - least).toNat)
      let (top, bottom) := ratio remainder least
      (ofRatio? negative top bottom).getD notANumber
  | .finite .., .infinite _ => dividend
  | _, _ => notANumber

/-- The remainder with the sign of the divisor; a remainder of zero takes that sign too. -/
def flooredRemainder (dividend divisor : Float) : Float :=
  let remainder := truncatedRemainder dividend divisor
  if remainder == 0 then ofMagnitude (divisor < 0) 0
  else if decide (divisor < 0) != decide (remainder < 0) then remainder + divisor
  else remainder

def isNaN (num : Float) : Bool :=
  match view num with
  | .notANumber => true
  | _ => false

def isNegative (num : Float) : Bool :=
  match view num with
  | .notANumber => false
  | .infinite negative => negative
  | .finite negative _ _ => negative

end Spellbook.Binary64
