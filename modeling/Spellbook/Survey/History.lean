import Spellbook.Json.Reader
import Spellbook.Json.Writer
import Spellbook.Datum.Access

/-!
# The history of surveys

Every survey is a round, and leaves one line in a log: a record of what it found.  The log numbers
its rounds by its lines.  From the log a survey learns how the number of low benchmarks developed,
and whether it has stopped getting better.
-/

namespace Spellbook.Survey

def enoughCoverage : Float := 60

/-- How a sequence of counts developed. -/
structure Plateau where
  best : Int
  /-- How many counts came after the first that was the least. -/
  since : Nat
  deriving DecidableEq

namespace Plateau

def next (count : Int) : Option Plateau → Plateau
  | none => { best := count, since := 0 }
  | some plateau =>
    if count < plateau.best then { best := count, since := 0 }
    else { plateau with since := plateau.since + 1 }

def ofList (counts : List Int) : Option Plateau :=
  counts.foldl (fun plateau count => some (next count plateau)) none

/-- So many counts without a new least one are a plateau. -/
def patience : Nat := 3

end Plateau

/-- What a survey leaves in the log. -/
structure Entry where
  round : Nat
  time : Float
  /-- The seconds since the round before. -/
  elapsed : Float
  coverage : Float
  covered : Int
  statements : Int
  benchmarks : Nat
  failures : Nat
  duration : Float
  shares : List (String × Float)
  low : Option Nat
  verdicts : List (String × String)
  unchecked : Nat

namespace Entry

def data (entry : Entry) : Datum :=
  .record [
    ("round", .rune entry.round),
    ("ts", .potion entry.time),
    ("wall_since_prev_s", .potion (Number.roundTo 2 entry.elapsed)),
    ("coverage_pct", .potion entry.coverage),
    ("covered_lines", .rune entry.covered),
    ("num_statements", .rune entry.statements),
    ("n_bench_fns", .rune entry.benchmarks),
    ("n_bench_errors", .rune entry.failures),
    ("cov_measure_s", .potion (Number.roundTo 3 entry.duration)),
    ("repo_time_pct", .record (entry.shares.map fun (name, share) => (name, .potion share))),
    ("n_below_repo_time", entry.low.elim .void fun count => .rune count),
    ("semcheck", .record (entry.verdicts.map fun (name, verdict) => (name, .scroll verdict))),
    ("n_not_self_checking", .rune entry.unchecked)]

def line (entry : Entry) : String := (Json.writeCompact entry.data).toString ++ "\n"

end Entry

/-- Divide a text into its lines at line feeds. -/
def logLinesFrom (line : List Char) : List Char → List String
  | [] => [String.ofList line.reverse]
  | char :: others =>
    if char == '\n' then String.ofList line.reverse :: logLinesFrom [] others
    else logLinesFrom (char :: line) others

def logLines (log : String) : List String :=
  (logLinesFrom [] log.toList).filter fun line => !(line.toList.all Unicode.isBlank)

def nextRound (log : String) : Nat := (logLines log).length + 1

/-- What a survey learns from the log. -/
structure History where
  /-- The numbers of low benchmarks in the rounds that told one. -/
  lowCounts : List Int := []
  /-- What the last round told as its time. -/
  lastTime : Datum := .void

namespace History

def learn (history : History) (record : Datum) : Except Fault History := do
  let lastTime ← record.getD "ts" .void
  let low ← record.getD "n_below_repo_time" .void
  return { lowCounts := history.lowCounts ++ low.integer?.toList, lastTime }

/--
Learn from lines, one after the other.  A line that is no record ends that; what was learnt before
it remains.
-/
def learnAll (history : History) : List String → History × Except Fault Unit
  | [] => (history, .ok ())
  | line :: lines =>
    match Json.read line >>= history.learn with
    | .ok history => history.learnAll lines
    | .error failure => (history, .error failure)

def ofLog (log : String) : History × Except Fault Unit := learnAll {} (logLines log)

/-- The seconds since the last round; zero if it told no time. -/
def elapsed (history : History) (now : Float) : Except Fault Float :=
  if history.lastTime.isEmpty then .ok 0
  else
    match history.lastTime.number? with
    | some time => .ok (now - time)
    | none => .error (.unsupportedOperands "-" "float" history.lastTime.typeName)

end History

/-- The advice to stop, for a reason. -/
def stopLine (reason : String) : String :=
  ">>> STOP: repo_time converged (" ++ reason ++ "). Finalize microbench.py now. <<<"

/-- The last word of a survey: an advice to stop, if there is reason for it. -/
def stopAdvice (coverage : Float) (earlier : List Int) : (low : Option Nat) → Option String
  | none => none
  | some low =>
    if !(enoughCoverage ≤ coverage) then none
    else if low = 0 then some (stopLine "0 below")
    else
      match Plateau.ofList (earlier ++ [(low : Int)]) with
      | none => none
      | some plateau =>
        if plateau.since < Plateau.patience then none
        else
          some (stopLine s!"no improvement in {plateau.since} rounds; best {plateau.best} below")

end Spellbook.Survey
