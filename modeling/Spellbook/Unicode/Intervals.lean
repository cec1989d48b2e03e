/-!
# Sets of code points

A property of characters is kept as an increasing sequence of closed intervals of code points.
Membership is decided by bisection.  Tables are written as runs: how many code points do not have
the property and how many have it, in turn.
-/

namespace Spellbook.Unicode

/-- A set of code points: closed intervals, disjoint and in increasing order. -/
structure Intervals where
  bounds : Array (Nat × Nat)

namespace Intervals

/-- The intervals of runs that begin at a code point. -/
def boundsFrom (start : Nat) : List Nat → List (Nat × Nat)
  | skipped :: taken :: runs =>
    (start + skipped, start + skipped + taken - 1) :: boundsFrom (start + skipped + taken) runs
  | _ => []

def ofRuns (runs : List Nat) : Intervals := ⟨(boundsFrom 0 runs).toArray⟩

/--
Bisection between two positions of the sequence.  Every round at least halves the distance, so a
budget of as many rounds as there are intervals is never used up.
-/
def seek (intervals : Intervals) (point : Nat) : (rounds low high : Nat) → Bool
  | 0, _, _ => false
  | rounds + 1, low, high =>
    if low < high then
      let middle := (low + high) / 2
      match intervals.bounds[middle]? with
      | none => false
      | some (first, last) =>
        if point < first then intervals.seek point rounds low middle
        else if last < point then intervals.seek point rounds (middle + 1) high
        else true
    else false

def contains (intervals : Intervals) (point : Nat) : Bool :=
  intervals.seek point (intervals.bounds.size + 1) 0 intervals.bounds.size

def holds (intervals : Intervals) (char : Char) : Bool :=
  intervals.contains char.toNat

end Intervals

end Spellbook.Unicode
