import Spellbook.Session
import Spellbook.Workload.Call
import Spellbook.Workload.Sample

/-!
# Workloads on sources

Reading and running sources, good ones many times over and bad ones for their errors.
-/

namespace Spellbook.Workload

/-- A source so many times over. -/
def copies (count : Int) (source : String) : String :=
  String.join (List.replicate count.toNat source)

/-- What a result tells of its trouble; nothing if it has none. -/
def troubleOf {α : Type} : Except Trouble α → List Datum
  | .ok _ => []
  | .error trouble => [.scroll trouble.text]

/-! ## Tokens -/

def unscannable : List String := ["\"unterminated", "@", "~~ unterminated"]

/-- Divide sources into tokens: the last token and how many there are, and the errors. -/
def scanning (size : Int) : Datum :=
  let tokens := match Token.scan (copies size tokenSample) with
    | .ok tokens => [.scroll ((tokens.getLast?.map Token.describe).getD ""), .rune tokens.length]
    | .error trouble => [.scroll trouble.text]
  .list (tokens ++ unscannable.flatMap fun source => troubleOf (Token.scan source))

/-! ## Trees -/

def unparsable : List String :=
  ["conjure 5 as 1", "transmute 5 as 1", "charm 5", "prophecy 1", "+ 1"]

def statementsOf : Node → List Node
  | .program _ stmts => stmts
  | _ => []

/-- Parse sources: how many statements there are, and the errors. -/
def parsing (size : Int) : Datum :=
  let count := match readSource (copies size statementSample) with
    | .ok program => [.rune (statementsOf program).length]
    | .error trouble => [.scroll trouble.text]
  .list (count ++ unparsable.flatMap fun source => troubleOf (readSource source))

/-! ## Running programs -/

/-- A loop that adds the first numbers to `acc`. -/
def summation (size : Int) : String := asSource
  ["", "conjure k as 0", "patrol until k atleast (" ++ Number.integerText size ++ ") \x7b",
    "    transmute k as k + 1", "    transmute acc as acc + k", "\x7d", ""]

/-- Run an evaluation in a machine of its own, and see what it gave and left. -/
def runApart {α : Type} (body : Eval α) : Except Halt α × Machine :=
  match body (Machine.start {}) with
  | .ok res machine => (.ok res, machine)
  | .error halt machine => (.error halt, machine)

/-- What an evaluation gives, as data; the text of its error if it halts. -/
def outcome (body : Eval Value) : Datum :=
  match runApart body with
  | (.ok value, machine) => machine.world.store.portray value
  | (.error halt, _) => .scroll halt.text

def runSource (source : String) : Eval Value := do
  Machine.interpret (← Eval.ofResult (readSource source))

def running (size : Int) : Datum :=
  outcome do
    let _ ← runSource (programSample ++ summation size)
    Eval.lookUp "acc" .unknown

/-! ## Running into errors -/

/-- Sources that can be parsed and end in errors. -/
def failing : List String :=
  ["1 / 0", "\"a\" - 1", "\"a\" * \"b\"", "-\"a\"", "(5)[0]", "[1][5]", "[1][\"a\"]",
    "(\x7b\"a\": 1\x7d)[\"z\"]", "\"abc\"[9]", "\"abc\"[\"x\"]", "(5).foo", "(5)()",
    "\nhunt each x in 5 \x7b\n\x7d", "spell f(a) \x7b cast a \x7d\nf(1, 2)", "1 + void",
    "unknown_ident"]

/-- The first sources of a list that starts again at its end. -/
def cycled (count : Nat) (sources : List String) : List String :=
  (List.range count).filterMap fun index => sources[index % sources.length]?

/-- A literal that stands nowhere. -/
def literal (value : Value) : Node := .literal (.known 0 0) value

def oneItem : Node := .tome (.known 0 0) [literal (.rune 1)]

def oneEntry : Node := .grimoire (.known 0 0) [(literal (.scroll "k"), literal (.rune 1))]

def nineAt (coll : Node) (pos : Value) : Node :=
  .indexAssignment (.known 0 0) coll (literal pos) (literal (.rune 9))

/-- Trees that no source produces. -/
def handmade : List Node :=
  [.binary (.known 0 0) (literal (.rune 1)) (.unknown "???") (literal (.rune 2)),
    .unary (.known 0 0) (.unknown "???") (literal (.rune 1)), .bare (.known 0 0),
    nineAt oneItem (.rune 0), nineAt oneEntry (.scroll "k"), nineAt oneItem (.scroll "x"),
    nineAt (literal (.rune 5)) (.rune 0)]

/-- A program whose value comes from a spell that casts it. -/
def castingProgram : String := "spell answer() \x7b cast 42 \x7d\nanswer()"

/-- A program with an incantation that is heard twice. -/
def spokenProgram : String := "incantation echo(what) \x7b cast what \x7d\necho(\"x\")\necho(\"y\")"

def printedBy (source : String) : Datum :=
  .scroll (runApart (runSource source)).2.world.console.printed

/-- Run into errors, from sources and from trees built by hand. -/
def stumbling (size : Int) : Datum :=
  .list ((cycled size.toNat failing).map (fun source => outcome (runSource source)) ++
    handmade.map (fun node => outcome (Machine.evaluate node)) ++
    [outcome (runSource castingProgram), printedBy spokenProgram])

end Spellbook.Workload
