import Spellbook.Proofs.Evaluation.Discipline
import Spellbook.Proofs.Evaluation.Library
import Spellbook.Proofs.Grammar.Place

/-!
# Places make no difference

A place is looked at only to say where an error was found. So a node and the node with its places
forgotten are evaluated alike, in machines that differ in the places of their spells and whose
consoles resemble each other. The texts of trouble differ, but no evaluation goes on after trouble;
an action can, but an action knows no places.
-/

namespace Spellbook

/-! ## Operators -/

namespace Action

variable {α : Type}

namespace Matched

theorem blame (cause cause' : Cause) (place place' : Place) :
    Matched (Operation.blame cause place : Action α) (Operation.blame cause' place') :=
  ⟨fun _ => Parallel.throw trivial⟩

theorem of_moved {place place' : Place} {action action' : Action α}
    (moved : Moved place place' action action') : Matched action action' := by
  induction moved with
  | composed composed => exact of_composed composed
  | blame spared => exact blame _ _ _ _
  | bind begun continued ih ihNext => exact ih.bind ihNext

section Operators

variable (place place' : Place)

theorem binary (op : Operator) (left right : Value) : Matched (Operation.binary place op left right)
      (Operation.binary place' op left right) := by
  cases op with
  | unknown spelling => exact blame _ _ _ _
  | _ => exact of_moved (.binary place place' left right (by simp [Operator.all]))

theorem unary (op : UnaryOperator) (operand : Value) : Matched (Operation.unary place op operand)
      (Operation.unary place' op operand) := by
  cases op with
  | negation => exact of_moved (.negation place place' operand)
  | denial => exact of_moved (.denial place place' operand)
  | unknown spelling => exact blame _ _ _ _

end Operators

end Matched

end Action

/-! ## Machines without places -/

/-- Two halts that are the same, or trouble both. -/
inductive Halt.Kindred : Halt → Halt → Prop where
  | same (halt : Halt) : Kindred halt halt
  | trouble (failure failure' : Trouble) : Kindred (.trouble failure) (.trouble failure')

def Closure.unplaced (closure : Closure) : Closure :=
  { closure with body := closure.body.map Node.unplaced }

/--
The second machine is the first with all places forgotten, except that their worlds may differ in
what was printed.
-/
structure Machine.Mirrored (before before' : String) (machine mirror : Machine) : Prop where
  scopes : mirror.scopes = machine.scopes
  closures : mirror.closures = machine.closures.map Closure.unplaced
  world : World.Apart before before' machine.world mirror.world

/--
The second machine is the first with all places forgotten, except that their consoles resemble each
other only.
-/
structure Machine.Resembles (semblance : Semblance) (machine mirror : Machine) : Prop where
  scopes : mirror.scopes = machine.scopes
  closures : mirror.closures = machine.closures.map Closure.unplaced
  world : World.Resembles semblance machine.world mirror.world

/-- The halt in which the comparison is given up. -/
def Semblance.Pardons (semblance : Semblance) (halt : Halt) : Prop :=
  semblance.lenient ∧ halt = .trouble (.fault .endOfInput)

instance (semblance : Semblance) : Machine.Scoped (Machine.Resembles semblance) where
  same := Machine.Resembles.scopes
  rescope akin _ := ⟨rfl, akin.closures, akin.world⟩

namespace Eval

/-- Two evaluations that keep step, the second of them in a machine without places. -/
abbrev Mirrors {α : Type} (semblance : Semblance) (placed unplaced : Eval α) : Prop :=
  Parallel Halt.Kindred semblance.Pardons (Machine.Resembles semblance) placed unplaced

namespace Mirrors

variable {α β : Type} {semblance : Semblance} {placed unplaced : Eval α}

/-- In particular, they keep step whatever was printed before. -/
theorem parallel (before before' : String)
    (mirrors : Mirrors (.apart before before') placed unplaced) :
    Parallel Halt.Kindred (fun _ => False) (Machine.Mirrored before before') placed unplaced := by
  intro machine mirror mirrored
  have ends := mirrors ⟨mirrored.scopes, mirrored.closures, World.apart_iff.mp mirrored.world⟩
  generalize placed machine = end₁, unplaced mirror = end₂ at ends
  cases ends with
  | ok res still =>
    exact .ok res ⟨still.scopes, still.closures, World.apart_iff.mpr still.world⟩
  | error same still =>
    exact .error same ⟨still.scopes, still.closures, World.apart_iff.mpr still.world⟩
  | excuse granted _ other => cases granted.1

theorem throw (halt : Halt) :
    Mirrors semblance (MonadExcept.throw halt : Eval α) (MonadExcept.throw halt) :=
  Parallel.throw (.same halt)

theorem blame (cause cause' : Cause) (place place' : Place) :
    Mirrors semblance (Eval.blame cause place : Eval α) (Eval.blame cause' place') :=
  Parallel.throw (.trouble _ _)

theorem bind {next following : α → Eval β} (begun : Mirrors semblance placed unplaced)
    (continued : ∀ res, Mirrors semblance (next res) (following res)) :
    Mirrors semblance (placed >>= next) (unplaced >>= following) :=
  Parallel.bind begun continued

theorem act {first second : Action α} (matched : Action.Matched first second) :
    Mirrors semblance (Eval.act first) (Eval.act second) := by
  intro machine mirror mirrored
  have ends := matched.parallel semblance mirrored.world
  simp only [Eval.act]
  generalize first machine.world = end₁, second mirror.world = end₂ at ends
  cases ends with
  | ok res still => exact .ok res ⟨mirrored.scopes, mirrored.closures, still⟩
  | error same still =>
    exact .error (.trouble _ _) ⟨mirrored.scopes, mirrored.closures, still⟩
  | excuse granted _ other =>
    exact .excuse ⟨granted.1, congrArg Halt.trouble granted.2⟩ _ _

theorem act_composed {action : Action α} (composed : Action.Composed action) :
    Mirrors semblance (Eval.act action) (Eval.act action) :=
  act (.of_composed composed)

theorem newSpell (name : String) (params : List String) (body : List Node) (aloud : Bool) :
    Mirrors semblance (Eval.newSpell name params body aloud)
      (Eval.newSpell name params (body.map Node.unplaced) aloud) := by
  intro machine mirror mirrored
  have sameSize : mirror.closures.size = machine.closures.size := by
    rw [mirrored.closures, Array.size_map]
  change Alike _ _ _ (.ok (Value.spell machine.closures.size name aloud) _)
    (.ok (Value.spell mirror.closures.size name aloud) _)
  rw [sameSize]
  apply Alike.ok
  refine ⟨mirrored.scopes, ?_, mirrored.world⟩
  rw [Array.map_push, mirrored.closures, mirrored.scopes]
  rfl

/-- Trouble is no signal. -/
theorem takeUp {signal : Halt → Option α} (sure : ∀ failure, signal (.trouble failure) = none)
    (body : Mirrors semblance placed unplaced) :
    Mirrors semblance (Eval.takeUp signal placed) (Eval.takeUp signal unplaced) := by
  apply Parallel.takeUp body
  · rintro _ _ (_ | ⟨failure, failure'⟩)
    · exact ⟨rfl, fun _ => .same _⟩
    · exact ⟨(sure failure').trans (sure failure).symm, fun _ => .trouble _ _⟩
  · rintro _ ⟨-, rfl⟩
    exact sure _

theorem takeCast {placed unplaced : Eval Value} (body : Mirrors semblance placed unplaced) :
    Mirrors semblance (Eval.takeCast placed) (Eval.takeCast unplaced) := by
  rw [takeCast_eq_takeUp, takeCast_eq_takeUp]
  exact takeUp (fun _ => rfl) body

theorem round {placed unplaced : Eval Value} (body : Mirrors semblance placed unplaced)
    (last : Value) : Mirrors semblance (Eval.round placed last) (Eval.round unplaced last) := by
  rw [round_eq_takeUp, round_eq_takeUp]
  exact takeUp (fun _ => rfl) (body.bind fun _ => .pure _)

theorem checkArity (place place' : Place) (wanted given : Nat) :
    Mirrors semblance (Eval.checkArity place wanted given)
      (Eval.checkArity place' wanted given) := by
  unfold Eval.checkArity
  split
  · exact .pure ()
  · exact blame _ _ _ _

theorem speak (aloud : Bool) (res : Value) :
    Mirrors semblance (Eval.speak aloud res) (Eval.speak aloud res) := by
  unfold Eval.speak
  split
  · exact .pure ()
  · exact .pure ()
  · exact act_composed (.bind (.text _) .speakResult)

theorem callBuiltin (place place' : Place) (name : String) (args : List Value) :
    Mirrors semblance (Eval.callBuiltin place name args) (Eval.callBuiltin place' name args) := by
  unfold Eval.callBuiltin
  cases found : Builtin.named? name with
  | none => exact .pure Value.void
  | some builtin =>
    have matched := Builtin.matched_of_named found args
    dsimp only
    cases builtin.arity with
    | none => exact act matched
    | some wanted => exact bind (checkArity _ _ _ _) fun _ => act matched

end Mirrors

/-! ## The parts of a step -/

section Steps

variable {semblance : Semblance} {placed unplaced : Node → Eval Value}
  (mirrors : ∀ node, Mirrors semblance (placed node) (unplaced node.unplaced))

include mirrors

theorem sequence_mirrors (nodes : List Node) :
    Mirrors semblance (sequence placed nodes) (sequence unplaced (nodes.map Node.unplaced)) := by
  induction nodes with
  | nil => exact .pure Value.void
  | cons node nodes ih =>
    cases nodes with
    | nil => exact mirrors node
    | cons next nodes => exact (mirrors node).bind fun _ => ih

theorem values_mirrors (nodes : List Node) :
    Mirrors semblance (values placed nodes) (values unplaced (nodes.map Node.unplaced)) := by
  induction nodes with
  | nil => exact .pure []
  | cons node nodes ih => exact (mirrors node).bind fun _ => ih.bind fun _ => .pure _

theorem block_mirrors (body : List Node) :
    Mirrors semblance (block placed body) (block unplaced (body.map Node.unplaced)) :=
  (sequence_mirrors mirrors body).nested _

theorem condition_mirrors (test : Node) :
    Mirrors semblance (condition placed test) (condition unplaced test.unplaced) :=
  (mirrors test).bind fun _ => .act_composed (.truth _)

/-- The body of a spell is found without its places. -/
theorem callSpell_mirrors (place place' : Place) (ref : Nat) (aloud : Bool) (args : List Value) :
    Mirrors semblance (callSpell placed place ref aloud args)
      (callSpell unplaced place' ref aloud args) := by
  intro machine mirror mirrored
  simp only [callSpell, get_bind, mirrored.closures, Array.getElem?_map]
  cases machine.closures[ref]? with
  | none => exact Mirrors.blame _ _ _ _ mirrored
  | some closure =>
    have body := sequence_mirrors mirrors closure.body
    refine Mirrors.bind (.checkArity _ _ _ _) ?_ mirrored
    intro checked
    apply Mirrors.bind (.takeCast (body.within _ _))
    intro res
    exact (Mirrors.speak aloud res).bind fun _ => .pure res

theorem call_mirrors (place place' : Place) (callee : Value) (args : List Value) :
    Mirrors semblance (call placed place callee args) (call unplaced place' callee args) := by
  cases callee with
  | spell ref name aloud => exact callSpell_mirrors mirrors place place' ref aloud _
  | builtin name => exact .callBuiltin place place' name args
  | _ => exact .blame _ _ _ _

theorem fillEntries_mirrors (pairs : List (Node × Node)) (entries : Entries) :
    Mirrors semblance (fillEntries placed pairs entries)
      (fillEntries unplaced (pairs.map fun pair => (pair.1.unplaced, pair.2.unplaced))
        entries) := by
  induction pairs generalizing entries with
  | nil => exact .pure entries
  | cons pair pairs ih =>
    apply Mirrors.bind (mirrors pair.1)
    intro key
    apply Mirrors.bind (mirrors pair.2)
    intro value
    exact (Mirrors.act_composed (.checkKey key)).bind fun _ => ih _

theorem firstBranch_mirrors (otherwise : Option (List Node)) (branches : List (Node × List Node)) :
    Mirrors semblance (firstBranch placed otherwise branches)
      (firstBranch unplaced (otherwise.map (List.map Node.unplaced))
        (branches.map fun branch => (branch.1.unplaced, branch.2.map Node.unplaced))) := by
  induction branches with
  | nil =>
    cases otherwise with
    | none => exact .pure Value.void
    | some body => exact block_mirrors mirrors body
  | cons branch branches ih =>
    apply Mirrors.bind (condition_mirrors mirrors branch.1)
    intro holds
    cases holds with
    | true => exact block_mirrors mirrors branch.2
    | false => exact ih

theorem patrol_mirrors (test : Node) (body : List Node) (rounds : Nat) (last : Value) :
    Mirrors semblance (patrol placed test body rounds last)
      (patrol unplaced test.unplaced (body.map Node.unplaced) rounds last) := by
  induction rounds generalizing last with
  | zero => exact .throw .weary
  | succ rounds ih =>
    apply Mirrors.bind (condition_mirrors mirrors test)
    intro holds
    cases holds with
    | true => exact .pure last
    | false =>
      apply Mirrors.bind (.round (block_mirrors mirrors body) last)
      rintro (value | value)
      · exact ih value
      · exact .pure value

theorem hunt_mirrors (name : String) (body : List Node) (rounds : Nat) (prey : Prey)
    (last : Value) :
    Mirrors semblance (hunt placed name body rounds prey last)
      (hunt unplaced name (body.map Node.unplaced) rounds prey last) := by
  induction rounds generalizing prey last with
  | zero => exact .throw .weary
  | succ rounds ih =>
    apply Mirrors.bind (.act_composed (.preyNext prey))
    intro next
    cases next with
    | none => exact .pure last
    | some next =>
      apply Mirrors.bind (.round ((sequence_mirrors mirrors body).nested _) last)
      rintro (value | value)
      · exact ih next.2 value
      · exact .pure value

theorem huntThrough_mirrors (rounds : Nat) (place place' : Place) (name : String)
    (iterable : Value) (body : List Node) :
    Mirrors semblance (huntThrough placed rounds place name iterable body)
      (huntThrough unplaced rounds place' name iterable (body.map Node.unplaced)) := by
  apply Mirrors.bind (.act_composed (.preyOf iterable))
  intro prey
  cases prey with
  | none => exact .blame _ _ _ _
  | some prey => exact hunt_mirrors mirrors name body rounds prey .void

/-! ## Steps and runs -/

theorem step_mirrors (rounds : Nat) (node : Node) :
    Mirrors semblance (step placed rounds node) (step unplaced rounds node.unplaced) := by
  cases node with
  | stray value => exact .throw _
  | bare place => exact .blame _ _ _ _
  | literal place value => exact .pure value
  | identifier place name => exact .lookUp name (.trouble _ _)
  | binary place left op right =>
    apply Mirrors.bind (mirrors left)
    intro leftValue
    apply Mirrors.bind (mirrors right)
    intro rightValue
    exact .act (.binary _ _ op leftValue rightValue)
  | unary place op operand =>
    apply Mirrors.bind (mirrors operand)
    intro value
    exact .act (.unary _ _ op value)
  | tome place elems =>
    rw [Node.unplaced, Node.unplacedAll_eq_map]
    exact (values_mirrors mirrors elems).bind fun _ => .act_composed (.newTome _)
  | grimoire place pairs =>
    rw [Node.unplaced, Node.unplacedPairs_eq_map]
    exact (fillEntries_mirrors mirrors pairs _).bind fun _ => .act_composed (.newGrimoire _)
  | index place coll pos =>
    apply Mirrors.bind (mirrors coll)
    intro collectionValue
    apply Mirrors.bind (mirrors pos)
    intro index
    exact .act (.of_moved (.readItem _ _ collectionValue index))
  | call place callee args =>
    rw [Node.unplaced, Node.unplacedAll_eq_map]
    apply Mirrors.bind (mirrors callee)
    intro calleeValue
    apply Mirrors.bind (values_mirrors mirrors args)
    intro argumentValues
    exact call_mirrors mirrors _ _ calleeValue argumentValues
  | member place object name =>
    apply Mirrors.bind (mirrors object)
    intro value
    exact .act (.of_moved (.readMember _ _ value name))
  | program place stmts =>
    rw [Node.unplaced, Node.unplacedAll_eq_map]
    exact sequence_mirrors mirrors stmts
  | declaration place name value typeHint constant =>
    apply Mirrors.bind (mirrors value)
    intro res
    exact Mirrors.bind (.rescope (·.define name res constant)) fun _ => .pure res
  | assignment place name value =>
    apply Mirrors.bind (mirrors value)
    intro res
    exact Mirrors.bind (.alter name _ fun _ => .trouble _ _) fun _ => .pure res
  | indexAssignment place coll pos value =>
    apply Mirrors.bind (mirrors coll)
    intro collectionValue
    apply Mirrors.bind (mirrors pos)
    intro index
    apply Mirrors.bind (mirrors value)
    intro res
    apply (Mirrors.act (.of_moved (.writeItem _ _ collectionValue index res))).bind
    exact fun _ => .pure res
  | deletion place name =>
    exact Mirrors.bind (.alter name _ fun _ => .trouble _ _) fun _ => .pure Value.void
  | spell place name params body aloud =>
    rw [Node.unplaced, Node.unplacedAll_eq_map]
    apply Mirrors.bind (.newSpell name params body aloud)
    intro res
    exact Mirrors.bind (.rescope (·.define name res false)) fun _ => .pure res
  | cast place value =>
    cases value with
    | none => exact .throw (.casting .void)
    | some value => exact (mirrors value).bind fun _ => .throw _
  | conditional place test outcome alts otherwise =>
    rw [Node.unplaced, Node.unplacedAll_eq_map, Node.unplacedBranches_eq_map,
      Node.unplacedBlock_eq_map]
    exact firstBranch_mirrors mirrors otherwise ((test, outcome) :: alts)
  | patrol place test body =>
    rw [Node.unplaced, Node.unplacedAll_eq_map]
    exact patrol_mirrors mirrors test body rounds .void
  | hunt place name iterable body =>
    rw [Node.unplaced, Node.unplacedAll_eq_map]
    apply Mirrors.bind (mirrors iterable)
    intro value
    exact huntThrough_mirrors mirrors rounds _ _ name value body
  | breakLoop place => exact .throw .breaking
  | continueLoop place => exact .throw .continuing
  | expression place value => exact mirrors value

end Steps

/-- Evaluation keeps step with evaluation without places, in any number of steps. -/
theorem run_mirrors (fuel : Nat) (node : Node) :
    Mirrors semblance (run fuel node) (run fuel node.unplaced) := by
  induction fuel generalizing node with
  | zero => exact .throw .weary
  | succ fuel ih => exact step_mirrors ih fuel node

end Eval

end Spellbook
