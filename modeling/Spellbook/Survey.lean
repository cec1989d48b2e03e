import Spellbook.Survey.Coverage
import Spellbook.Survey.History
import Spellbook.Survey.SelfCheck
import Spellbook.Survey.Timing
import Spellbook.World.Shell

/-!
# Surveys of the benchmarks

A survey measures how good the benchmarks are.  Outside programs do the measuring: one for the
coverage, without which there is no survey, and two for timings and self-checks, whose failures are
only mentioned.  The survey reads what they found, adds a line to the log of surveys, and prints
tables and a summary.
-/

namespace Spellbook.Survey

open Spellbook.Action

/-- The readings of the clocks during a survey, in seconds. -/
structure Clock where
  /-- Before the measurement of the coverage. -/
  started : Float := 0
  /-- After the measurement of the coverage. -/
  ended : Float := 1
  /-- The time of day. -/
  now : Float := 1000

def interpreter : String := "python"

/-- The directory of the program, as commands name it. -/
def directory : String := "/repo/"

def coverageFile : String := "_pti_coverage.json"

def logFile : String := ".pti_checkpoint.jsonl"

def benchmarkFile : String := "microbench.py"

def timingProgram : String := "_pti_repotime.py"

def checkProgram : String := "_pti_semcheck.py"

/-- The files that do not count for the coverage. -/
def leftOut : List String :=
  ["*/microbench.py", "*/_pti_*.py", "*/setup.py", "*/conftest.py", "*/test_*.py", "*/*_test.py",
    "*/tests/*", "*/test/*", "*/__tests__/*", "*/__fixtures__/*", "*/_version.py"]

def coverageCommand : Command :=
  .program [interpreter, directory ++ "_pti_cov_runner.py", "/repo", "microbench",
    directory ++ coverageFile, (Json.writeCompact (.list (leftOut.map .scroll))).toString]

/-- The command that tells which files of the program were changed. -/
def changeCommand : Command :=
  .program ["git", "-C", "/repo", "status", "--porcelain", "--", ".", ":!microbench.py", ":!_pti_*",
    ":!.pti_*", ":!.coverage"]

def printLines (lines : List String) : Action Unit :=
  print (String.join (lines.map (· ++ "\n")))

/-- Is there a file or directory at a path? -/
def isThere (path : String) : Action Bool := do return (← get).files.leadsSomewhere path

/-- The last line that a program printed, as data; no line or an empty one is an empty dictionary. -/
def lastLine (output : String) : Except Fault Datum :=
  match (Text.splitLines output).getLast? with
  | none | some "" => .ok (.dict [])
  | some line => Json.read line

/--
Run a program whose findings are welcome but not needed, and read its last line.  Without the
program, or if anything fails, nothing is found; a failure is mentioned.
-/
def consult {α : Type} (file label : String) (read : Datum → Except Fault (List α)) :
    Action (List α) := do
  recover
    (do
      let answer ← runCommand (.program [interpreter, directory ++ file])
      printError answer.errors
      ofResult (lastLine answer.output >>= read))
    fun trouble => do
      printError ("[" ++ label ++ " runner: " ++ trouble.className ++ ": " ++ trouble.text ++ "]\n")
      return []

/-- Has the program been changed?  If that cannot be found out, it has not. -/
def isChanged : Action Bool :=
  recover
    (do
      let answer ← runCommand changeCommand
      return !(answer.output.toList.all Unicode.isBlank))
    fun _ => return false

def consultTimings : Action (List Timing) := do
  if ← isThere timingProgram then consult timingProgram "repotime" Timing.listOfDatum
  else return []

def consultChecks : Action (List SelfCheck) := do
  if ← isThere checkProgram then
    let changed ← isChanged
    consult checkProgram "semcheck" (SelfCheck.listOfDatum changed)
  else return []

def benchmarkStart : List Char := "def bench_".toList

/-- Does a text begin with the head of a benchmark: with a full name and a parenthesis? -/
def beginsBenchmark (text : List Char) : Bool :=
  benchmarkStart.isPrefixOf text &&
    let (name, others) := (text.drop benchmarkStart.length).span fun char =>
      Unicode.isAlphanumeric char || char == '_'
    !name.isEmpty && (others.dropWhile Unicode.isBlank).head? == some '('

/-- How many lines begin a benchmark.  The first character may stand at the start of a line. -/
def countHeads : (atStart : Bool) → List Char → Nat
  | _, [] => 0
  | atStart, char :: others =>
    (if atStart && beginsBenchmark (char :: others) then 1 else 0) +
      countHeads (char == '\n') others

/-- How many benchmarks there are; none if that cannot be found out. -/
def countBenchmarks : Action Nat :=
  recover (do return countHeads true (← readFile benchmarkFile).toList) fun _ => return 0

/-- What the measurements found. -/
structure Findings where
  coverage : Coverage
  timings : List Timing
  checks : List SelfCheck
  benchmarks : Nat
  /-- The seconds that the measurement of the coverage took. -/
  duration : Float

namespace Findings

/-- The entry of a round in the log, if the failures of benchmarks are told. -/
def entry? (findings : Findings) (round : Nat) (now elapsed : Float) : Option Entry :=
  findings.coverage.failures.map fun failures => {
    round
    time := now
    elapsed
    coverage := findings.coverage.percent
    covered := findings.coverage.covered
    statements := findings.coverage.statements
    benchmarks := findings.benchmarks
    failures
    duration := findings.duration
    shares := findings.timings.map fun timing => (timing.name, timing.share)
    low := Timing.lowCount? findings.timings
    verdicts := findings.checks.map fun check => (check.name, check.verdict.name)
    unchecked := SelfCheck.badCount findings.checks }

def summary (findings : Findings) (round : Nat) : String :=
  "[round " ++ Nat.repr round ++ ": " ++ Nat.repr findings.benchmarks ++ " benches, " ++
    Number.fixedText 1 findings.coverage.percent ++ "% covered" ++
    Timing.summary findings.timings ++ SelfCheck.summary findings.checks ++ ", measured in " ++
    Number.fixedText 1 findings.duration ++ "s]"

def report (findings : Findings) (round : Nat) : List String :=
  findings.coverage.table ++ Timing.report findings.timings ++ SelfCheck.report findings.checks ++
    ["", findings.summary round]

end Findings

/-- The log of the surveys; empty if there is none. -/
def readLog : Action String := do
  if ← isThere logFile then readFile logFile else return ""

/-- Add a round to the log that was read, if all of it can be understood. -/
def addRound (findings : Findings) (now : Float) (log : String) : Action Unit := do
  let (history, understood) := History.ofLog log
  ofResult understood
  let elapsed ← ofResult (history.elapsed now)
  match findings.entry? (nextRound log) now elapsed with
  | none => return
  | some entry => writeFile logFile true entry.line

/--
Add a round to the log; where that fails, the log stays as it is.  What is given is the number of
the round and the counts of low benchmarks before it, as far as the log can be understood.
-/
def keepLog (findings : Findings) (now : Float) : Action (Nat × List Int) :=
  recover
    (do
      let log ← readLog
      recover (addRound findings now log) fun _ => return
      return (nextRound log, (History.ofLog log).1.lowCounts))
    fun _ => return (1, [])

/-- Read the report on the coverage, and consult the other programs. -/
def gather (clock : Clock) : Action Findings := do
  let text ← readFile coverageFile
  let coverage ← ofResult (do Coverage.ofDatum (← Json.read text))
  let timings ← consultTimings
  let checks ← consultChecks
  let benchmarks ← countBenchmarks
  return { coverage, timings, checks, benchmarks, duration := clock.ended - clock.started }

/-- Measure, or give the exit code of the survey if the coverage cannot be measured. -/
def measure (clock : Clock) : Action (Except Int Findings) := do
  let answer ← runCommand coverageCommand
  if answer.code != 0 || !(← isThere coverageFile) then
    printLines ["coverage measurement failed (exit " ++ Number.integerText answer.code ++ ")",
      answer.output]
    printError answer.errors
    return .error (if answer.code = 0 then 1 else answer.code)
  else
    printError answer.errors
    return .ok (← gather clock)

/-- Make a survey.  If the coverage cannot be measured, the exit code is not zero. -/
def make (clock : Clock) : Action Ending := do
  match ← measure clock with
  | .error code => return some code
  | .ok findings =>
    let (round, earlier) ← keepLog findings clock.now
    printLines (findings.report round)
    match stopAdvice findings.coverage.percent earlier (Timing.lowCount? findings.timings) with
    | none => return none
    | some advice =>
      printLines ["", advice]
      return none

end Spellbook.Survey
