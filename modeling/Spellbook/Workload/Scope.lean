import Spellbook.Datum
import Spellbook.Scope

/-!
# Workloads on scopes and errors

Names that are looked up, changed and removed through many scopes, and errors of all classes with
and without a place.
-/

namespace Spellbook.Workload

/-- A scope that binds a name of its own. -/
def ownFrame (level : Nat) : Frame := ({} : Frame).define "own" (.rune level) false

/-- So many scopes, each with a name of its own, in an outermost scope that binds `base` too. -/
def nest : (depth : Nat) → Chain
  | 0 => [(ownFrame 0).define "base" (.rune 0) false]
  | depth + 1 => ownFrame (depth + 1) :: nest depth

/-- The value of a name as data; the text of the error if it has none. -/
def lookUp (chain : Chain) (name : String) : Datum :=
  match Chain.get? chain name with
  | some (.rune integer) => .rune integer
  | some _ => .void
  | none => .scroll (Trouble.caused (.undefined name) .unknown).text

/-- What is found in the innermost of so many scopes. -/
def findings (depth : Nat) : List Datum :=
  let chain := nest depth
  [lookUp chain "base", .charm (Chain.binds chain "base"), .charm (Chain.binds chain "own")]

def constantScope : Chain := [({} : Frame).define "C" (.rune 1) true]

/-- The text of the error of a refused change; nothing if it is not refused. -/
def refusalText (cause : Refusal → String → Cause) (name : String) :
    Except Refusal Chain → List Datum
  | .ok _ => []
  | .error refusal => [.scroll (Trouble.caused (cause refusal name) .unknown).text]

/-- Try to give a name another value. -/
def tryAssign (chain : Chain) (name : String) : List Datum :=
  refusalText Refusal.assignmentCause name (Chain.assign chain name (.rune 2))

def tryDelete (chain : Chain) (name : String) : List Datum :=
  refusalText Refusal.deletionCause name (Chain.delete chain name)

def functionRequests : List String := ["arity", "call"]

/-- Look names up and try to change constants and unknown names. -/
def scoping (depth : Int) : Datum :=
  let inner : Chain := {} :: constantScope
  .list ((List.range (depth.toNat + 1)).flatMap findings ++
    [.charm (Chain.isConstant inner "C"), .charm (Chain.isConstant inner "missing"),
      .charm (Chain.binds inner "missing"), .charm (Chain.binds constantScope "C"),
      .charm ((inner.head?.map (·.binds "C")).getD false)] ++
    tryAssign constantScope "C" ++ tryAssign inner "C" ++ tryAssign inner "missing" ++
    tryDelete constantScope "C" ++ tryDelete inner "C" ++ tryDelete inner "missing" ++
    [lookUp inner "missing"] ++ functionRequests.map .scroll ++
    [.scroll (Value.functionText (Value.spellKind true) "s"),
      .scroll (Value.functionText (Value.spellKind false) "s"),
      .scroll (Value.functionText "builtin" "x")])

end Spellbook.Workload
