import Spellbook.Proofs.Evaluation.Parallel
import Spellbook.Proofs.Evaluation.Scope
import Spellbook.Proofs.Grammar.Tree

/-!
# Evaluation adds only the names that are declared at its own level

However the evaluation of a node ends, the scope that was current is current again, every scope
keeps its parent, and no scope gains a name or a constant, except that the current one gains those
that the node declares outside blocks and spells.
-/

namespace Spellbook

open List

/-! ## Declarations -/

namespace Node

mutual

/--
The names that a node declares at its own level, which is outside the blocks, loop bodies and spell
bodies in it; each with whether it is constant.
-/
def declares : Node → List (String × Bool)
  | stray _ | bare _ | literal .. | identifier .. | deletion .. | breakLoop _ | continueLoop _
  | cast _ none => []
  | binary _ left _ right => left.declares ++ right.declares
  | unary _ _ operand => operand.declares
  | tome _ elems => declaresAll elems
  | grimoire _ pairs => declaresPairs pairs
  | index _ coll pos => coll.declares ++ pos.declares
  | call _ callee args => callee.declares ++ declaresAll args
  | member _ object _ => object.declares
  | program _ stmts => declaresAll stmts
  | declaration _ name value _ constant => value.declares ++ [(name, constant)]
  | assignment _ _ value => value.declares
  | indexAssignment _ coll pos value =>
    coll.declares ++ pos.declares ++ value.declares
  | spell _ name _ _ _ => [(name, false)]
  | cast _ (some value) => value.declares
  | conditional _ cond _ alts _ => cond.declares ++ declaresTests alts
  | patrol _ cond _ => cond.declares
  | hunt _ _ iterable _ => iterable.declares
  | expression _ value => value.declares

def declaresAll : List Node → List (String × Bool)
  | [] => []
  | node :: nodes => node.declares ++ declaresAll nodes

def declaresPairs : List (Node × Node) → List (String × Bool)
  | [] => []
  | (first, second) :: pairs => first.declares ++ second.declares ++ declaresPairs pairs

def declaresTests : List (Node × List Node) → List (String × Bool)
  | [] => []
  | (condition, _) :: branches => condition.declares ++ declaresTests branches

end

theorem declares_subset_all {node : Node} {nodes : List Node} (mem : node ∈ nodes) :
    node.declares ⊆ declaresAll nodes := by
  induction nodes with
  | nil => cases mem
  | cons first nodes ih =>
    rw [declaresAll]
    rcases mem_cons.mp mem with rfl | later
    · exact subset_append_left _ _
    · exact subset_append_of_subset_right _ (ih later)

/-- What a node evaluates in its own scope is at its own level. -/
theorem declares_subset_of_part {node part : Node} (mem : part ∈ node.parts) :
    part.declares ⊆ node.declares := by
  intro declared inside
  cases node with
  | tome | program => exact declares_subset_all mem inside
  | call place callee args =>
    rcases mem_cons.mp mem with rfl | argued
    · exact mem_append_left _ inside
    · exact mem_append_right _ (declares_subset_all argued inside)
  | grimoire place pairs =>
    obtain ⟨pair, among, isPart⟩ := mem_flatMap.mp mem
    change declared ∈ declaresPairs pairs
    clear mem
    induction pairs with
    | nil => cases among
    | cons first pairs ih => grind [declaresPairs]
  | conditional place cond outcome alts otherwise =>
    change part ∈ ((cond, outcome) :: alts).map Prod.fst at mem
    change declared ∈ declaresTests ((cond, outcome) :: alts)
    generalize (cond, outcome) :: alts = branches at mem ⊢
    induction branches with
    | nil => cases mem
    | cons first branches ih => grind [declaresTests]
  | cast place value => cases value <;> grind [parts, declares]
  | _ => grind [parts, declares]

theorem defines_subset {node : Node} : node.defines ⊆ node.declares := by
  cases node <;> grind [defines, declares]

/-- An expression declares nothing. -/
theorem IsExpression.declares_eq {node : Node} (isExpression : node.IsExpression) :
    node.declares = [] := by
  have all : ∀ {nodes : List Node}, (∀ node ∈ nodes, node.declares = []) →
      declaresAll nodes = [] := by
    intro nodes none
    induction nodes with
    | nil => rfl
    | cons node nodes ih =>
      rw [declaresAll, none node mem_cons_self, ih (forall_mem_cons.mp none).2]
      rfl
  induction isExpression with
  | literal | identifier => rfl
  | binary place known leftSide rightSide leftIh rightIh => rw [declares, leftIh, rightIh]; rfl
  | denial place inner ih | negation place inner ih | member place inner name ih => exact ih
  | tome place elems ih => exact all ih
  | @grimoire pairs place keys values keysIh valuesIh =>
    rw [declares]
    clear keys values
    induction pairs with
    | nil => rfl
    | cons pair pairs ih =>
      rw [declaresPairs, keysIh pair mem_cons_self, valuesIh pair mem_cons_self,
        ih (forall_mem_cons.mp keysIh).2 (forall_mem_cons.mp valuesIh).2]
      rfl
  | index place indexed positioned indexedIh positionIh => rw [declares, indexedIh, positionIh]; rfl
  | call place called args calledIh argumentsIh =>
    rw [declares, calledIh, all argumentsIh]
    rfl

end Node

/-! ## Evaluations that keep the scopes -/

namespace Eval

/-- The machine after an evaluation, however it ends. -/
def after {α : Type} (body : Eval α) (machine : Machine) : Machine :=
  match body machine with
  | .ok _ machine | .error _ machine => machine

/-- However the evaluation ends, it changes scopes as given, if the names are declared. -/
def Obeys {α : Type} (change : Scopes.Change) (declared : List (String × Bool)) (body : Eval α) :
    Prop :=
  ∀ machine, change declared machine.scopes (body.after machine).scopes

namespace Obeys

variable {change : Scopes.Change} (closed : change.Closed)
  {α β : Type} {declared more : List (String × Bool)} {body : Eval α}

include closed

theorem weaken (obeys : Obeys change declared body) (subset : declared ⊆ more) :
    Obeys change more body :=
  fun machine => closed.weaken (obeys machine) subset

theorem pure (res : α) : Obeys change declared (Pure.pure res : Eval α) :=
  fun machine => closed.refl declared machine.scopes

theorem throw (halt : Halt) : Obeys change declared (MonadExcept.throw halt : Eval α) :=
  fun machine => closed.refl declared machine.scopes

theorem bind {next : α → Eval β} (first : Obeys change declared body)
    (second : ∀ res, Obeys change declared (next res)) :
    Obeys change declared (body >>= next) := by
  intro machine
  have changed := first machine
  unfold after at changed ⊢
  simp only [Bind.bind, EStateM.bind]
  cases ended : body machine with
  | ok res middle =>
    rw [ended] at changed
    exact closed.trans changed (second res middle)
  | error halt middle =>
    rw [ended] at changed
    exact changed

theorem get : Obeys change declared (MonadState.get : Eval Machine) :=
  fun machine => closed.refl declared machine.scopes

theorem act (action : Action α) : Obeys change declared (Eval.act action) := by
  intro machine
  unfold after Eval.act
  dsimp only
  cases action machine.world <;> exact closed.refl declared machine.scopes

/-- What happens in a scope of its own counts as the doing of the scope that was current. -/
theorem within (obeys : Obeys change more body) (parent : Nat) (frame : Frame) :
    Obeys change declared (Eval.within parent frame body) := by
  intro machine
  have changed := obeys
    (atScope { machine with scopes := machine.scopes.push parent frame } machine.scopes.all.size)
  unfold after at changed ⊢
  simp only [Eval.within]
  cases ended : body (atScope { machine with scopes := machine.scopes.push parent frame }
      machine.scopes.all.size) with
  | ok res last | error halt last =>
    rw [ended] at changed
    exact closed.within changed

theorem nested (obeys : Obeys change more body) (frame : Frame) :
    Obeys change declared (Eval.nested frame body) :=
  bind closed (get closed) fun machine => within closed obeys machine.scopes.current frame

theorem lookUp (name : String) (place : Place) :
    Obeys change declared (Eval.lookUp name place) := by
  refine bind closed (get closed) ?_
  intro machine
  split
  · exact pure closed _
  · exact throw closed _

theorem define (name : String) (value : Value) (constant : Bool) :
    Obeys change [(name, constant)] (Eval.define name value constant) :=
  fun machine => closed.define machine.scopes name value constant

theorem alter {name : String} {update : Frame → Frame}
    (kept : ∀ {scopes : Scopes} {pos : Nat}, scopes.site name = .ok pos →
      change [] scopes (scopes.modifyFrame pos update))
    (cause : Refusal → String → Cause) (place : Place) :
    Obeys change declared (Eval.alter name update cause place) := by
  intro machine
  cases found : machine.scopes.site name with
  | ok pos =>
    rw [after, alter_of_site found]
    exact closed.weaken (kept found) (nil_subset _)
  | error refusal =>
    rw [after, alter_of_refusal found]
    exact closed.refl declared machine.scopes

theorem assign (name : String) (value : Value) (place : Place) :
    Obeys change declared (Eval.assign name value place) :=
  alter closed (fun found => closed.set found value) Refusal.assignmentCause place

theorem delete (name : String) (place : Place) :
    Obeys change declared (Eval.delete name place) :=
  alter closed closed.erase Refusal.deletionCause place

theorem newSpell (name : String) (params : List String) (body : List Node) (aloud : Bool) :
    Obeys change declared (Eval.newSpell name params body aloud) :=
  fun machine => closed.refl declared machine.scopes

omit closed in
theorem takeUp (signal : Halt → Option α) (obeys : Obeys change declared body) :
    Obeys change declared (Eval.takeUp signal body) := by
  intro machine
  have changed := obeys machine
  change change declared _ (after (EStateM.tryCatch body _) machine).scopes
  unfold after EStateM.tryCatch at *
  generalize body machine = ended at changed
  cases ended with
  | ok res last => exact changed
  | error halt last =>
    dsimp only
    cases signal halt <;> exact changed

theorem congruence (declared : List (String × Bool)) :
    Congruence fun {_} body _ => Obeys change declared body where
  pure := pure closed
  bind first next := by
    rw [Told.plain_bind]
    exact bind closed first next
  trouble _ _ _ := throw closed _
  blame _ _ _ := throw closed _
  act _ := act closed _
  operate _ _ := act closed _
  invoke _ _ := act closed _
  lookUp := lookUp closed
  assign := assign closed
  delete := delete closed

section Parts

variable {self : Node → Eval Value} (obeys : ∀ node, Obeys change node.declares (self node))

include obeys

theorem sequence (nodes : List Node) :
    Obeys change (Node.declaresAll nodes) (Eval.sequence self nodes) :=
  @Congruence.sequence _ self self (congruence closed _) nodes fun node mem =>
    (obeys node).weaken closed (Node.declares_subset_all mem)

theorem callSpell (place : Place) (ref : Nat) (aloud : Bool) (args : List Value) :
    Obeys change declared (Eval.callSpell self place ref aloud args) := by
  have same := congruence closed declared
  refine bind closed (get closed) ?_
  intro machine
  split
  · exact throw closed _
  case h_2 closure found =>
    refine bind closed (same.checkArity _ _ _) ?_
    intro checked
    dsimp only
    rw [takeCast_eq_takeUp]
    refine bind closed (takeUp _ (within closed (sequence closed obeys closure.body) _ _)) ?_
    intro res
    exact bind closed (same.speak aloud res) fun _ => pure closed _

end Parts

end Obeys

/-! ## Nodes -/

section Steps

variable {change : Scopes.Change} (closed : change.Closed)

include closed

/-- A step declares what the node does, if the nodes inside it do. -/
theorem step_obeys {self : Node → Eval Value}
    (obeys : ∀ node, Obeys change node.declares (self node)) (rounds : Nat) (node : Node) :
    Obeys change node.declares (step self rounds node) := by
  have alongside : Alongside (fun {_} body _ => Obeys change node.declares body) self self node :=
    { parts := fun part mem =>
        (obeys part).weaken closed (Node.declares_subset_of_part mem)
      branches := fun body _ => .nested closed (.sequence closed obeys body) _
      rounds := fun body _ frame last => by
        rw [round_eq_takeUp]
        refine .takeUp _ (.bind closed ?_ fun _ => .pure closed _)
        exact .nested closed (.sequence closed obeys body) frame
      signals := fun _ => .throw closed _
      defines := fun mem value => (Obeys.define closed _ value _).weaken closed
        (by simpa using Node.defines_subset mem)
      newSpell := fun _ => .newSpell closed _ _ _ _
      callSpell := .callSpell closed obeys }
  exact (Obeys.congruence closed _).step alongside (.inl ⟨rfl, .throw closed _⟩)

/-- Evaluating a node in any number of steps declares what the node does. -/
theorem run_obeys (fuel : Nat) (node : Node) : Obeys change node.declares (run fuel node) := by
  induction fuel generalizing node with
  | zero => exact Obeys.throw closed _
  | succ fuel ih => exact step_obeys closed ih fuel node

end Steps

/-- However the evaluation ends, scopes grow by what is declared at most. -/
def Keeps {α : Type} (declared : List (String × Bool)) (body : Eval α) : Prop :=
  ∀ machine, Scopes.Grows declared machine.scopes (body.after machine).scopes

theorem run_keeps (fuel : Nat) (node : Node) : Keeps node.declares (run fuel node) :=
  run_obeys Scopes.Grows.closed fuel node

/--
However the evaluation of a node ends, the scope that was current is current again, every scope that
there was keeps its parent, and the only names and constants gained are those that the node declares
at its own level, in the current scope.  An expression adds none at all, whatever it calls.
-/
theorem run_grows_scopes (fuel : Nat) (node : Node) (machine : Machine) :
    Scopes.Grows node.declares machine.scopes ((run fuel node).after machine).scopes ∧
      (node.IsExpression →
        Scopes.Grows [] machine.scopes ((run fuel node).after machine).scopes) := by
  refine ⟨run_keeps fuel node machine, ?_⟩
  intro isExpression
  rw [← isExpression.declares_eq]
  exact run_keeps fuel node machine

/-- A machine with a spell that declares a name in its body. -/
def withSpell : Machine where
  scopes := { all := #[⟨{ bindings := [("f", .spell 0 "f" false)] }, none⟩] }
  closures :=
    #[{ parameters := []
        body := [.declaration .unknown "x" (.literal .unknown .void) none false]
        scope := 0 }]

theorem run_grows_scopes_ofCall :
    (Node.call .unknown (.identifier .unknown "f") []).IsExpression ∧
      Scopes.Grows [] withSpell.scopes
        ((run 4 (.call .unknown (.identifier .unknown "f") [])).after withSpell).scopes := by
  have isExpression : (Node.call .unknown (.identifier .unknown "f") []).IsExpression :=
    .call _ (.identifier _ _) (by simp)
  exact ⟨isExpression, (run_grows_scopes 4 _ withSpell).2 isExpression⟩

end Eval

end Spellbook
