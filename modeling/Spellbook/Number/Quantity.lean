import Spellbook.Number.Conversion

/-!
# Quantities

The numbers of scripts: integers of any size, floating point numbers, and the complex numbers that
powers of negative numbers give.  Operations between an integer and a floating point number are
carried out in floating point; comparisons are exact.
-/

namespace Spellbook

inductive Quantity where
  | whole (integer : Int)
  | floating (num : Float)
  | complex (real imaginary : Float)

namespace Quantity

/-- The floating point number nearest to a quantity that is not complex. -/
def toFloat : Quantity → Except Fault Float
  | whole integer => Number.floatOfInteger integer
  | floating num => .ok num
  | complex real _ => .ok real

def parts (quantity : Quantity) : Except Fault (Float × Float) :=
  match quantity with
  | complex real imaginary => .ok (real, imaginary)
  | quantity => quantity.toFloat.map fun num => (num, 0)

/-- The order of two quantities; `none` when one of them is not a number or is complex. -/
def compare? : Quantity → Quantity → Option Ordering
  | whole left, whole right => some (compare left right)
  | whole left, floating right => (Binary64.compareInt? right left).map Ordering.swap
  | floating left, whole right => Binary64.compareInt? left right
  | floating left, floating right => Binary64.compare? left right
  | _, _ => none

def equal (left right : Quantity) : Bool :=
  match left, right with
  | complex real imaginary, complex real' imaginary' => real == real' && imaginary == imaginary'
  | complex real imaginary, other => imaginary == 0 && compare? (.floating real) other == some .eq
  | other, complex real imaginary => imaginary == 0 && compare? other (.floating real) == some .eq
  | left, right => compare? left right == some .eq

def isZero (quantity : Quantity) : Bool := quantity.equal (whole 0)

/-- Carry out an operation on integers, on floating point numbers or on complex numbers. -/
def combine (onIntegers : Int → Int → Int) (onFloats : Float → Float → Float)
    (onComplex : Float × Float → Float × Float → Float × Float) (left right : Quantity) :
    Except Fault Quantity :=
  match left, right with
  | whole left, whole right => .ok (whole (onIntegers left right))
  | complex .., _ | _, complex .. => do
    let (real, imaginary) := onComplex (← left.parts) (← right.parts)
    return complex real imaginary
  | left, right => do return floating (onFloats (← left.toFloat) (← right.toFloat))

def add : Quantity → Quantity → Except Fault Quantity :=
  combine (· + ·) (· + ·) fun (a, b) (c, d) => (a + c, b + d)

def subtract : Quantity → Quantity → Except Fault Quantity :=
  combine (· - ·) (· - ·) fun (a, b) (c, d) => (a - c, b - d)

def multiply : Quantity → Quantity → Except Fault Quantity :=
  combine (· * ·) (· * ·) fun (a, b) (c, d) => (a * c - b * d, a * d + b * c)

/--
The quotient of two quantities, of which the second is not zero.  The quotient of two integers is
rounded once.
-/
def divide : Quantity → Quantity → Except Fault Quantity
  | whole left, whole right =>
    match Binary64.ofQuotient? left right with
    | some num => .ok (floating num)
    | none => .error .quotientTooLarge
  | left, right => do return floating ((← left.toFloat) / (← right.toFloat))

/-- The remainder, which has the sign of the divisor. -/
def modulo : Quantity → Quantity → Except Fault Quantity
  | whole left, whole right =>
    if right = 0 then .error .integerModuloZero else .ok (whole (left.fmod right))
  | left, right => do
    let dividend ← left.toFloat
    let divisor ← right.toFloat
    if divisor == 0 then .error .floatModuloZero
    else return floating (Binary64.flooredRemainder dividend divisor)

/-- A negative number to a power that is no integer. -/
def complexPower (base exp : Float) : Except Fault Quantity :=
  let length := base.abs.pow exp
  let phase := Float.atan2 0 base * exp
  let real := length * phase.cos
  let imaginary := length * phase.sin
  if real.isInf || imaginary.isInf then .error .complexPowerTooLarge
  else .ok (complex real imaginary)

/-- The power of two finite numbers of which the first is positive. -/
def positivePower (base exp : Float) : Except Fault Float :=
  let result := base.pow exp
  if result.isInf then .error .powerTooLarge else .ok result

def floatPower (base exp : Float) : Except Fault Quantity :=
  let odd := Binary64.isOdd exp
  if exp == 0 then .ok (floating 1)
  else if base.isNaN then .ok (floating base)
  else if exp.isNaN then .ok (floating (if base == 1 then 1 else exp))
  else if exp.isInf then
    if base.abs == 1 then .ok (floating 1)
    else if decide (0 < exp) == decide (1 < base.abs) then
      .ok (floating (Binary64.infinity false))
    else .ok (floating 0)
  else if base.isInf then
    if 0 < exp then .ok (floating (if odd then base else base.abs))
    else .ok (floating (if odd then Binary64.ofMagnitude (base < 0) 0 else 0))
  else if base == 0 then
    if exp < 0 then .error .zeroToNegativePower
    else .ok (floating (if odd then base else 0))
  else if base < 0 then
    if exp.floor != exp then complexPower base exp
    else do
      let result ← positivePower (-base) exp
      return floating (if odd then -result else result)
  else do return floating (← positivePower base exp)

/-- The bound below which the number of binary digits of an integer must stay. -/
def digitBound : Nat := Nat.pow 2 66

/-- The power of two quantities; that of two integers is an integer if the exponent allows it. -/
def power : Quantity → Quantity → Except Fault Quantity
  | whole base, whole exp =>
    if 0 ≤ exp then
      if digitBound ≤ base.natAbs.log2 * exp.toNat then .error .outOfMemory
      else .ok (whole (Int.pow base exp.toNat))
    else do floatPower (← Number.floatOfInteger base) (← Number.floatOfInteger exp)
  | base, exp => do floatPower (← base.toFloat) (← exp.toFloat)

def negate : Quantity → Quantity
  | whole integer => whole (-integer)
  | floating num => floating (-num)
  | complex real imaginary => complex (-real) (-imaginary)

end Quantity

end Spellbook
