import Spellbook.Datum.Access
import Spellbook.Text.Column
import Spellbook.World.Files

/-!
# Coverage

How much of the program the benchmarks run: in all, and for each file with the lines that did not
run.  Coverage is read from a report and shown as a table, the least covered files first.
-/

namespace Spellbook.Survey

structure FileCoverage where
  path : String
  statements : Int
  missed : Int
  percent : Float
  missing : List Int

/-- The coverage of the program. -/
structure Coverage where
  percent : Float
  covered : Int
  statements : Int
  /-- How many benchmarks failed, if the report tells. -/
  failures : Option Nat
  files : List FileCoverage

namespace FileCoverage

def ofDatum (path : String) (datum : Datum) : Except Fault FileCoverage := do
  let summary ← datum.getFilled "summary" (.dict [])
  let statements ← summary.getD "num_statements" (.rune 0)
  let missed ← summary.getD "missing_lines" (.rune 0)
  let percent ← summary.getD "percent_covered" (.rune 0)
  let missing ← datum.getFilled "missing_lines" (.list [])
  return {
    path
    statements := statements.integer?.getD 0
    missed := missed.integer?.getD 0
    percent := percent.number?.getD 0
    missing := missing.elements.filterMap Datum.integer? }

/-- The steps of a path from the root, without detours. -/
def straighten : (taken : List String) → List String → List String
  | taken, [] => taken.reverse
  | taken, step :: others =>
    if FileTree.isIdle step then straighten taken others
    else if step == ".." then straighten taken.tail others
    else straighten (step :: taken) others

/-- The directory of the program. -/
def root : String := "repo"

def longestShown : Nat := 60

/-- The path as it is shown: a path from the root is told from the directory of the program. -/
def shown (file : FileCoverage) : String :=
  let relative :=
    if file.path.startsWith "/" then
      match straighten [] (FileTree.steps file.path) with
      | [] => ".."
      | first :: others =>
        if first != root then String.intercalate "/" (".." :: first :: others)
        else if others.isEmpty then "."
        else String.intercalate "/" others
    else file.path
  String.ofList (relative.toList.take longestShown)

def missingShown : Nat := 12

def missingText (file : FileCoverage) : String :=
  String.intercalate "," ((file.missing.take missingShown).map Number.integerText) ++
    (if file.missing.length > missingShown then "…" else "")

/-- Files with less coverage come first, and of two with the same coverage the larger. -/
def precedes (left right : FileCoverage) : Bool :=
  left.percent < right.percent ||
    (left.percent == right.percent && right.statements ≤ left.statements)

end FileCoverage

def coverageRow (width : Nat) (name : String) (statements missed : Int) (percent : Float) :
    String :=
  Text.padEnd width name ++ "  " ++ Text.padStart 5 (Number.integerText statements) ++ "  " ++
    Text.padStart 4 (Number.integerText missed) ++ "  " ++
    Text.padStart 4 (Number.fixedText 0 percent) ++ "%"

namespace Coverage

def ofDatum (datum : Datum) : Except Fault Coverage := do
  let totals ← datum.getFilled "totals" (.dict [])
  let percent ← (← totals.getD "percent_covered" (.potion 0)).toFloat
  let covered ← totals.getD "covered_lines" (.rune 0)
  let statements ← totals.getD "num_statements" (.rune 0)
  let details ← datum.getFilled "meta" (.dict [])
  let failures ← details.getFilled "_pti_bench_errors" (.dict [])
  let files ← (← datum.getFilled "files" (.dict [])).items
  let files ← files.mapM fun (path, file) => FileCoverage.ofDatum path file
  return {
    percent
    covered := covered.integer?.getD 0
    statements := statements.integer?.getD 0
    failures := failures.size?
    files }

def nameWidth (coverage : Coverage) : Nat :=
  (coverage.files.map (·.shown.length)).foldl max 4

/-- The most files that a table has. -/
def mostRows : Nat := 120

def table (coverage : Coverage) : List String :=
  let width := coverage.nameWidth
  let rule := String.ofList (List.replicate (width + 42) '-')
  let rows := ((coverage.files.mergeSort FileCoverage.precedes).take mostRows).map fun file =>
    coverageRow width file.shown file.statements file.missed file.percent ++ "  " ++
      file.missingText
  [Text.padEnd width "Name" ++ "  Stmts  Miss  Cover  Missing", rule] ++ rows ++
    [rule, coverageRow width "TOTAL" coverage.statements (coverage.statements - coverage.covered)
      coverage.percent]

end Coverage

end Spellbook.Survey
