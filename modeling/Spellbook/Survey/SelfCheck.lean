import Spellbook.Datum.Access
import Spellbook.Text.Column

/-!
# Self-checks

A benchmark checks itself if what it returns can be compared between runs: it returns something,
the same each time, made by the program and not merely passed through, and different for different
parameters.  The evidence on a benchmark leads to one verdict, the first that applies.
-/

namespace Spellbook.Survey

/-- What was found out about a benchmark. -/
structure Evidence where
  /-- The type of what the benchmark returns; an error stands in angle brackets. -/
  returnType : String
  /-- What the results of equal runs look like. -/
  results : List Datum
  /-- What the results for different parameters look like. -/
  byParameter : List Datum
  /-- What the parameters look like. -/
  inputs : List Datum
  /-- The parts of the time that pass in the program. -/
  shares : List Float
  /-- The times in the program, in milliseconds. -/
  times : List Float

inductive Verdict where
  | failed
  | returnsNothing
  | unstable
  | returnsInput
  | mostlyOutside
  | tooFast
  | sameForAll
  | programChanged
  /-- Good, but with a single set of parameters. -/
  | unvaried
  | good
  deriving DecidableEq

namespace Verdict

def name : Verdict → String
  | failed => "error"
  | returnsNothing => "returns-none"
  | unstable => "unstable"
  | returnsInput => "returns-input"
  | mostlyOutside => "low-repo-time"
  | tooFast => "too-fast"
  | sameForAll => "param-invariant"
  | programChanged => "repo-modified"
  | unvaried => "ok-unparam"
  | good => "ok"

/-- Does the benchmark check itself? -/
def isGood : Verdict → Bool
  | unvaried | good => true
  | _ => false

end Verdict

mutual

/-- Are two data equal as texts and collections of texts? -/
def sameDatum : Datum → Datum → Bool
  | .void, .void => true
  | .charm left, .charm right => left == right
  | .rune left, .rune right => left == right
  | .potion left, .potion right => left == right
  | .scroll left, .scroll right => left == right
  | .list left, .list right => sameData left right
  | _, _ => false

def sameData : List Datum → List Datum → Bool
  | [], [] => true
  | left :: lefts, right :: rights => sameDatum left right && sameData lefts rights
  | _, _ => false

end

/-- Are all data of a list equal to the first? -/
def allSame : List Datum → Bool
  | [] => true
  | first :: others => others.all (sameDatum first)

/-- The number in the middle, or the mean of the two that are there; zero if there are none. -/
def median (numbers : List Float) : Float :=
  let sorted := numbers.mergeSort fun left right => left ≤ right
  let middle := numbers.length / 2
  match sorted[middle]? with
  | none => 0
  | some upper =>
    if numbers.length % 2 = 1 then upper else (sorted.getD (middle - 1) upper + upper) / 2

/-- The least of numbers; zero if there are none. -/
def least : List Float → Float
  | [] => 0
  | first :: others => others.foldl (fun least num => if num < least then num else least)
      first

namespace Evidence

def numbers (name : String) (datum : Datum) : Except Fault (List Float) := do
  (← (← datum.getFilled name (.dict [])).items).mapM fun (_, num) => num.toFloat

def ofDatum (datum : Datum) : Except Fault Evidence := do
  let returnType ← datum.getD "ret_type" (.scroll "?")
  let results ← datum.getFilled "fp_stable" (.list [])
  let byParameter ← (← datum.getFilled "fp_by_param" (.dict [])).items
  let inputs ← datum.getFilled "param_fps" (.list [])
  let times ← numbers "repo_tt_ms" datum
  let shares ← numbers "repo_frac" datum
  return {
    returnType := returnType.text?.getD "?"
    results := results.elements
    byParameter := byParameter.map Prod.snd
    inputs := inputs.elements
    shares
    times }

def isFailed (evidence : Evidence) : Bool :=
  evidence.returnType.startsWith "<" || evidence.returnType == "?"

/-- Does the benchmark return what it was given? -/
def returnsInput (evidence : Evidence) : Bool :=
  match evidence.results with
  | [] => false
  | res :: _ => evidence.inputs.any (sameDatum res)

/-- The verdict on a benchmark, where `changed` tells whether the program has been changed. -/
def verdict (changed : Bool) (evidence : Evidence) : Verdict :=
  if changed then .programChanged
  else if evidence.isFailed then .failed
  else if evidence.returnType == "NoneType" then .returnsNothing
  else if evidence.results.isEmpty || !allSame evidence.results then .unstable
  else if evidence.returnsInput then .returnsInput
  else if !evidence.shares.isEmpty && least evidence.shares < 0.5 then .mostlyOutside
  else if !evidence.times.isEmpty && median evidence.times < 1 then .tooFast
  else if 2 ≤ evidence.byParameter.length && allSame evidence.byParameter then .sameForAll
  else if evidence.byParameter.length < 2 then .unvaried
  else .good

end Evidence

/-- A benchmark with the evidence and the verdict. -/
structure SelfCheck where
  name : String
  evidence : Evidence
  verdict : Verdict

namespace SelfCheck

def listOfDatum (changed : Bool) (datum : Datum) : Except Fault (List SelfCheck) := do
  let benchmarks ← (← datum.getFilled "semcheck" (.dict [])).items
  let judged ← benchmarks.mapM fun (name, datum) => do
    match datum with
    | .dict _ =>
      let evidence ← Evidence.ofDatum datum
      return some { name, evidence, verdict := evidence.verdict changed }
    | _ => return none
  return judged.filterMap id

def line (check : SelfCheck) : String :=
  let mark := if check.verdict.isGood then "    " else "  * "
  let share := Number.fixedText 0 (least check.evidence.shares * 100)
  mark ++ Text.padEnd 32 check.name ++ " " ++ Text.padEnd 16 check.verdict.name ++ " (" ++
    check.evidence.returnType ++ ", repo " ++ share ++ "%) " ++
    Number.fixedText 1 (median check.evidence.times) ++ "ms"

def advice : List String :=
  ["  returns-none: run() has no return — collect and return the call results",
    "  unstable: seed RNG in setup; avoid time/uuid/id in the return",
    "  returns-input: return repo output, not the parameter value",
    "  low-repo-time: <50% of run() time is in repo code — move glue to setup",
    "  param-invariant: return something derived from run()'s work, not setup",
    "  repo-modified: revert edits to repo files (git checkout -- <path>)"]

/-- The section on self-checks, the benchmarks to be mended first; nothing without benchmarks. -/
def report (checks : List SelfCheck) : List String :=
  if checks.isEmpty then []
  else
    let (good, bad) := checks.partition (·.verdict.isGood)
    ["", "self-check (* = fix needed):"] ++ advice ++ (bad ++ good).map line

/-- How many benchmarks do not check themselves. -/
def badCount (checks : List SelfCheck) : Nat := checks.countP (!·.verdict.isGood)

/-- What the last line of the survey says of the self-checks. -/
def summary (checks : List SelfCheck) : String :=
  if checks.isEmpty then ""
  else s!", {badCount checks}/{checks.length} not self-checking"

end SelfCheck

end Spellbook.Survey
