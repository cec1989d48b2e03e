import Spellbook.Number.Binary64

/-!
# The fewest digits that read back

A finite floating point number is written with the fewest decimal digits that still read back as
the same number; among those of that length the nearest to the number is taken.

All the reals that read back as `significand * 2 ^ exponent` form an interval around it.  The
search tries grids of one digit, two digits and so on, and on each grid the two neighbours of the
number.
-/

namespace Spellbook.Shortest

/--
The interval of magnitudes that round to one number, over a common denominator.  Its ends belong
to it when the significand is even.
-/
structure Interval where
  low : Nat
  value : Nat
  high : Nat
  denominator : Nat
  closed : Bool

/--
The interval of a positive number.  Below a power of two the neighbours lie twice as close as
above it.
-/
def interval (significand : Nat) (exp : Int) : Interval :=
  let narrow := significand = Nat.pow 2 52 && exp > -1074
  let (unit, denominator) := Binary64.scale 1 4 (-exp)
  { low := (4 * significand - if narrow then 1 else 2) * unit
    value := 4 * significand * unit
    high := (4 * significand + 2) * unit
    denominator
    closed := significand % 2 == 0 }

def Interval.holds (range : Interval) (numerator denominator : Nat) : Bool :=
  let scaled := numerator * range.denominator
  if range.closed then
    range.low * denominator ≤ scaled && scaled ≤ range.high * denominator
  else
    range.low * denominator < scaled && scaled < range.high * denominator

def powerOfTen : (place : Int) → Nat × Nat
  | .ofNat shift => (Nat.pow 10 shift, 1)
  | .negSucc shift => (1, Nat.pow 10 (shift + 1))

/--
The neighbours of the value on the grid of the multiples of `10 ^ place`, the nearer one first, and
of two equally near the even one.
-/
def Interval.neighbours (range : Interval) (place : Int) : List Nat :=
  let (top, bottom) := powerOfTen place
  let below := range.value * bottom / (range.denominator * top)
  let above := below + 1
  let twiceOver := 2 * (range.value * bottom)
  let middle := (below + above) * (range.denominator * top)
  if twiceOver < middle || (twiceOver = middle && below % 2 = 0) then [below, above]
  else [above, below]

/-- Is the number read back from the digits with their last one at the place? -/
def Interval.isHit (range : Interval) (place : Int) (digits : Nat) : Bool :=
  let (top, bottom) := powerOfTen place
  0 < digits && range.holds (digits * top) bottom

/-- The first neighbour of the value on a grid that reads back. -/
def Interval.onGrid? (range : Interval) (place : Int) : Option Nat :=
  (range.neighbours place).find? (range.isHit place)

/--
The first grid with a neighbour that reads back.  Seventeen digits suffice for every number, so a
budget of eighteen grids is not used up.
-/
def Interval.search (range : Interval) (place : Int) : (grids : Nat) → Nat × Int
  | 0 => (1, place)
  | grids + 1 =>
    match range.onGrid? place with
    | some digits => (digits, place)
    | none => range.search (place - 1) grids

/-- An integer not below the decimal logarithm of a positive ratio, and at most one more. -/
def leadingPlace (numerator denominator : Nat) : Int :=
  let digits := (Nat.repr numerator).length
  let digits' := (Nat.repr denominator).length
  (digits : Int) - digits' + 1

/--
The digits of a positive number and the place of the last of them: the number is read back from
`digits * 10 ^ place`.
-/
def digits (significand : Nat) (exp : Int) : Nat × Int :=
  let range := interval significand exp
  range.search (leadingPlace range.value range.denominator) 20

end Spellbook.Shortest
