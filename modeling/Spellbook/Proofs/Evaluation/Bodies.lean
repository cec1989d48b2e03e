import Spellbook.Proofs.Evaluation.Deafness
import Spellbook.Proofs.Evaluation.Discipline

/-!
# Evaluation with other bodies of spells

Two machines with the same scopes and the same world may hold spells with different bodies. If
corresponding bodies give the same when they are called, evaluation in one machine keeps up with
evaluation in the other. It may take more rounds and more nested steps, and nothing is said where
the other one ends in weariness.
-/

namespace Spellbook

/-! ## Corresponding spells -/

/-- The bodies that correspond, for the spells of every reference. -/
abbrev Kinship := Nat → List Node → List Node → Prop

/--
Two lists of spells that differ only in their bodies, which correspond.  A spell that is declared
from now on may have the same body in both.
-/
structure Kinship.Joins (kinship : Kinship) (one other : Array Closure) : Prop where
  size : other.size = one.size
  spells : ∀ {reference : Nat} {first second : Closure},
    one[reference]? = some first → other[reference]? = some second →
      second.parameters = first.parameters ∧ second.scope = first.scope ∧
        kinship reference first.body second.body
  fresh : ∀ {reference : Nat}, one.size ≤ reference → ∀ body, kinship reference body body

theorem Kinship.Joins.push {kinship : Kinship} {one other : Array Closure}
    (joins : kinship.Joins one other) (closure : Closure) :
    kinship.Joins (one.push closure) (other.push closure) where
  size := by rw [Array.size_push, Array.size_push, joins.size]
  spells := by
    intro ref first second found found'
    rw [Array.getElem?_push] at found found'
    rw [joins.size] at found'
    by_cases isNew : ref = one.size
    · rw [if_pos isNew] at found found'
      cases found
      cases found'
      exact ⟨rfl, rfl, joins.fresh (Nat.le_of_eq isNew.symm) _⟩
    · rw [if_neg isNew] at found found'
      exact joins.spells found found'
  fresh := by
    intro ref beyond
    rw [Array.size_push] at beyond
    exact joins.fresh (Nat.le_of_succ_le beyond)

/-- Two machines that differ only in the bodies of their spells, which correspond. -/
inductive Kinship.Machines (kinship : Kinship) : Machine → Machine → Prop where
  | intro (scopes : Scopes) (world : World) {one other : Array Closure}
      (joins : kinship.Joins one other) :
      Machines kinship ⟨scopes, one, world⟩ ⟨scopes, other, world⟩

/-- Evaluation has ended because the bound on its length is reached. -/
inductive Halt.IsWeary : Halt → Prop where
  | intro : IsWeary .weary

instance (kinship : Kinship) : Machine.Scoped kinship.Machines where
  same := by
    rintro _ _ ⟨scopes, world, joins⟩
    rfl
  rescope := by
    rintro _ _ ⟨_, world, joins⟩ scopes
    exact .intro scopes world joins

instance (kinship : Kinship) : Machine.Worldly kinship.Machines where
  same := by
    rintro _ _ ⟨scopes, world, joins⟩
    rfl
  replace := by
    rintro _ _ ⟨scopes, _, joins⟩ world
    exact .intro scopes world joins

namespace Eval

/--
The first evaluation keeps up with the second: in corresponding machines they end alike, unless the
second one ends in weariness.
-/
abbrev KeepsUp {α : Type} (kinship : Kinship) (first second : Eval α) : Prop :=
  Parallel Eq Halt.IsWeary kinship.Machines first second

namespace KeepsUp

variable {α : Type} {kinship : Kinship} {first second : Eval α}

theorem weary (first : Eval α) : KeepsUp kinship first (throw .weary) :=
  fun one other _ => .excuse .intro (first one) other

theorem newSpell (name : String) (params : List String) (body : List Node) (aloud : Bool) :
    KeepsUp kinship (Eval.newSpell name params body aloud)
      (Eval.newSpell name params body aloud) := by
  rintro _ _ ⟨scopes, world, joins⟩
  change Alike _ _ _ (.ok (Value.spell _ name aloud) _) (.ok (Value.spell _ name aloud) _)
  rw [joins.size]
  exact .ok _ (.intro scopes world (joins.push _))

theorem takeUp {signal : Halt → Option α} (untired : signal .weary = none)
    (body : KeepsUp kinship first second) :
    KeepsUp kinship (Eval.takeUp signal first) (Eval.takeUp signal second) := by
  apply Parallel.takeUp body
  · rintro halt _ rfl
    exact ⟨rfl, fun _ => rfl⟩
  · rintro _ ⟨⟩
    exact untired

theorem takeCast {first second : Eval Value} (body : KeepsUp kinship first second) :
    KeepsUp kinship (Eval.takeCast first) (Eval.takeCast second) := by
  rw [takeCast_eq_takeUp, takeCast_eq_takeUp]
  exact takeUp rfl body

theorem round {first second : Eval Value} (body : KeepsUp kinship first second) (last : Value) :
    KeepsUp kinship (Eval.round first last) (Eval.round second last) := by
  rw [round_eq_takeUp, round_eq_takeUp]
  exact takeUp rfl (body.bind fun _ => .pure _)

theorem congruence : Congruence (KeepsUp kinship) := Parallel.congruence fun _ => rfl

end KeepsUp

/-! ## Calls -/

def invoke (self : Node → Eval Value) (place : Place) (closure : Closure) (aloud : Bool)
    (args : List Value) : Eval Value := do
  checkArity place closure.parameters.length args.length
  let frame := Frame.ofBindings (closure.parameters.zip args)
  let res ← within closure.scope frame (takeCast (sequence self closure.body))
  speak aloud res
  return res

/-- Whether a signal is taken up inside a scope or outside makes no difference. -/
theorem takeCast_within (parent : Nat) (frame : Frame) (body : Eval Value) :
    takeCast (within parent frame body) = within parent frame (takeCast body) := by
  funext machine
  simp only [takeCast, within]
  cases body _ with
  | ok res machine => rfl
  | error halt machine => cases halt <;> rfl

theorem takeCast_nested (frame : Frame) (body : Eval Value) :
    takeCast (nested frame body) = nested frame (takeCast body) := by
  funext machine
  exact congrFun (takeCast_within machine.scopes.current frame body) machine

theorem callSpell_of_some {machine : Machine} {ref : Nat} {closure : Closure}
    (found : machine.closures[ref]? = some closure) (self : Node → Eval Value)
    (place : Place) (aloud : Bool) (args : List Value) :
    callSpell self place ref aloud args machine = invoke self place closure aloud args machine := by
  simp only [callSpell, get_bind, found, invoke, takeCast_within]

theorem callSpell_of_none {machine : Machine} {ref : Nat}
    (missing : machine.closures[ref]? = none) (self : Node → Eval Value)
    (place : Place) (aloud : Bool) (args : List Value) :
    callSpell self place ref aloud args machine = blame .notCallable place machine := by
  simp only [callSpell, get_bind, missing]

/-! ## The parts of a step -/

section Steps

variable {kinship : Kinship} {one other : Node → Eval Value}
  (keepsUp : ∀ node, KeepsUp kinship (one node) (other node))

include keepsUp

theorem sequence_keepsUp (nodes : List Node) :
    KeepsUp kinship (sequence one nodes) (sequence other nodes) :=
  KeepsUp.congruence.sequence fun node _ => keepsUp node

theorem condition_keepsUp (test : Node) :
    KeepsUp kinship (condition one test) (condition other test) :=
  (keepsUp test).bind fun _ => .act (fun _ => rfl) _

omit keepsUp in
/-- Calls keep up if what the bodies return does. -/
theorem invoke_keepsUp {first second : Closure} (params : second.parameters = first.parameters)
    (scope : second.scope = first.scope)
    (returns : KeepsUp kinship (takeCast (sequence one first.body))
      (takeCast (sequence other second.body)))
    (place : Place) (aloud : Bool) (args : List Value) :
    KeepsUp kinship (invoke one place first aloud args) (invoke other place second aloud args) := by
  unfold invoke
  rw [params, scope]
  apply Parallel.bind (KeepsUp.congruence.checkArity _ _ _)
  intro checked
  apply Parallel.bind (returns.within _ _)
  intro res
  exact (KeepsUp.congruence.speak aloud res).bind fun _ => .pure res

variable (returns : ∀ {ref : Nat} {first second : List Node},
  kinship ref first second →
    KeepsUp kinship (takeCast (sequence one first)) (takeCast (sequence other second)))

include returns

omit keepsUp in
theorem callSpell_keepsUp (place : Place) (ref : Nat) (aloud : Bool) (args : List Value) :
    KeepsUp kinship (callSpell one place ref aloud args)
      (callSpell other place ref aloud args) := by
  rintro _ _ ⟨scopes, world, joins⟩
  have alike := Kinship.Machines.intro scopes world joins
  rename_i closures closures'
  cases found : closures[ref]? with
  | none =>
    have missing : closures'[ref]? = none := by
      rw [Array.getElem?_eq_none_iff] at found ⊢
      rwa [joins.size]
    rw [callSpell_of_none found, callSpell_of_none missing]
    exact .error rfl alike
  | some first =>
    have inside : ref < closures'.size := by
      rw [joins.size]
      exact (Array.getElem?_eq_some_iff.mp found).1
    obtain ⟨second, found'⟩ : ∃ second, closures'[ref]? = some second :=
      ⟨_, Array.getElem?_eq_getElem inside⟩
    obtain ⟨params, scope, bodies⟩ := joins.spells found found'
    rw [callSpell_of_some found, callSpell_of_some found']
    exact invoke_keepsUp params scope (returns bodies) place aloud args alike

/-! ## Steps -/

/-- The one that keeps up may take more rounds. -/
theorem step_keepsUp {more rounds : Nat} (enough : rounds ≤ more) (node : Node) :
    KeepsUp kinship (step one more node) (step other rounds node) := by
  have alongside : Alongside (KeepsUp kinship) one other node :=
    { parts := fun part _ => keepsUp part
      branches := fun body _ => (sequence_keepsUp keepsUp body).nested _
      rounds := fun body _ frame => KeepsUp.round ((sequence_keepsUp keepsUp body).nested frame)
      signals := fun _ => .throw rfl
      defines := fun _ value => .rescope (·.define _ value _)
      newSpell := fun _ => .newSpell _ _ _ _
      callSpell := callSpell_keepsUp returns }
  exact KeepsUp.congruence.step alongside (.inr ⟨enough, fun _ => .weary _⟩)

end Steps

end Eval

end Spellbook
