import Spellbook.Datum.Access
import Spellbook.Text.Column

/-!
# Timings

What part of the time of each benchmark passes in the program itself, and what outside code the
rest of the time goes to.  A part that is not at least zero stands for a benchmark that failed.
-/

namespace Spellbook.Survey

structure Timing where
  name : String
  /-- The part of the time that passes in the program, in percent; not at least zero after a failure. -/
  share : Float
  /-- The outside code that the time goes to, with its part in percent. -/
  outside : List (String × Float)

namespace Timing

/-- A benchmark is too low below this share. -/
def bound : Float := 45

def isFailed (timing : Timing) : Bool := !(0 ≤ timing.share)

/-- Is too little of the time spent in the program? -/
def isLow (timing : Timing) : Bool := !timing.isFailed && timing.share < bound

/-- One piece of outside code with its part of the time. -/
def outsideOf (datum : Datum) : Option (String × Float) :=
  match datum.elements with
  | [part, name] => do return (← name.text?, ← part.number?)
  | _ => none

def listOfDatum (datum : Datum) : Except Fault (List Timing) := do
  let shares ← (← datum.getFilled "repo_time_pct" (.dict [])).items
  let outside ← datum.getFilled "hot_ext" (.dict [])
  shares.mapM fun (name, share) => do
    let share ← share.toFloat
    let pieces := ((outside.get? name).getD (.list [])).elements.filterMap outsideOf
    return { name, share, outside := pieces }

def outsideText (timing : Timing) : String :=
  if timing.outside.isEmpty || !timing.isLow then ""
  else
    let pieces := timing.outside.map fun (name, part) =>
      name ++ " " ++ Number.fixedText 0 part ++ "%"
    " (hot: " ++ String.intercalate " " pieces ++ ")"

def line (timing : Timing) : String :=
  let mark := if timing.isLow then "  * " else "    "
  let share := if timing.isFailed then 0 else timing.share
  mark ++ Text.padEnd 32 timing.name ++ " " ++ Text.padStart 5 (Number.fixedText 1 share) ++ "%" ++
    (if timing.isFailed then "  <error>" else timing.outsideText)

/-- The section on timings, the lowest first; nothing without timings. -/
def report (timings : List Timing) : List String :=
  if timings.isEmpty then []
  else
    ["", "repo_time (target 50%; * = below 45%):"] ++
      (timings.mergeSort fun left right => left.share ≤ right.share).map line

/-- How many of the benchmarks that did not fail are too low, if there are any that did not. -/
def lowCount? (timings : List Timing) : Option Nat :=
  let sound := timings.filter (!·.isFailed)
  if sound.isEmpty then none else some (sound.countP isLow)

def summary (timings : List Timing) : String :=
  if timings.isEmpty then ""
  else
    let sound := timings.filter (!·.isFailed)
    s!", {sound.countP isLow}/{sound.length} below repo_time 45%"

end Timing

end Spellbook.Survey
