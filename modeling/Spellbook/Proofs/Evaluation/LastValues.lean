import Spellbook.Proofs.Evaluation.Bodies

/-!
# Returning by a cast and by the last value

Where a cast is the last statement that a body would evaluate anyway, it can be replaced by its
value: the call gives the same, changes the same and speaks the same. The two ways differ by one
nested step at most, so one keeps up with the other in one step more, in either direction.
-/

namespace Spellbook

open List

namespace Node

mutual

/--
The statement with a value in the place of every cast at its end: of the cast that it is, or of the
last statements of its branches.
-/
def yielding : Node → Node
  | cast place none => expression place (literal place .void)
  | cast _ (some value) => expression value.place value
  | conditional place cond outcome alts otherwise =>
    conditional place cond (yieldingLast outcome) (yieldingBranches alts)
      (yieldingBlock otherwise)
  | node => node

/-- The statements with a value in the place of every cast at the end of the last one. -/
def yieldingLast : List Node → List Node
  | [] => []
  | [node] => [node.yielding]
  | node :: next :: nodes => node :: yieldingLast (next :: nodes)

def yieldingBranches : List (Node × List Node) → List (Node × List Node)
  | [] => []
  | (condition, body) :: branches => (condition, yieldingLast body) :: yieldingBranches branches

def yieldingBlock : Option (List Node) → Option (List Node)
  | none => none
  | some body => some (yieldingLast body)

end

theorem yieldingLast_concat (front : List Node) (last : Node) :
    yieldingLast (front ++ [last]) = front ++ [last.yielding] := by
  induction front with
  | nil => rfl
  | cons node front ih =>
    cases front with
    | nil => rfl
    | cons next front =>
      rw [cons_append, cons_append, yieldingLast, ← cons_append, ih]
      rfl

theorem yieldingBranches_eq_map (branches : List (Node × List Node)) :
    yieldingBranches branches = branches.map fun branch => (branch.1, yieldingLast branch.2) := by
  induction branches with
  | nil => rfl
  | cons branch branches ih => rw [yieldingBranches, ih, map_cons]

theorem yieldingBlock_eq_map (block : Option (List Node)) :
    yieldingBlock block = block.map yieldingLast := by
  cases block <;> rfl

end Node

/-- The spell with a value in the place of every cast at the end of its body. -/
def Closure.yielding (closure : Closure) : Closure :=
  { closure with body := Node.yieldingLast closure.body }

def Closure.yieldingIf (chosen : Bool) (closure : Closure) : Closure :=
  if chosen then closure.yielding else closure

def Machine.yielding (chosen : Nat → Bool) (machine : Machine) : Machine :=
  { machine with closures :=
      machine.closures.mapIdx fun ref => Closure.yieldingIf (chosen ref) }

theorem Machine.yielding_none (machine : Machine) :
    machine.yielding (fun _ => false) = machine := by
  have unchanged :
      (machine.closures.mapIdx fun _ => Closure.yieldingIf false) = machine.closures := by
    apply Array.ext_getElem?
    intro ref
    rw [Array.getElem?_mapIdx]
    exact congrFun Option.map_id _
  unfold yielding
  rw [unchanged]

/-! ## One of two things is the other with a change -/

/-- One of the two is the other with a change: the second one, or if flipped the first one. -/
inductive Turned {α : Type} (change : α → α) : (flipped : Bool) → α → α → Prop where
  | forth (original : α) : Turned change false original (change original)
  | back (original : α) : Turned change true (change original) original

namespace Turned

variable {α : Type} {change : α → α} {flipped : Bool}

theorem eq_of_forth {first second : α} (turned : Turned change false first second) :
    second = change first := by
  cases turned
  rfl

theorem swap {first second : α} (turned : Turned change flipped first second) :
    Turned change (!flipped) second first := by
  cases turned with
  | forth => exact .back _
  | back => exact .forth _

theorem lists {first second : List α} (turned : Turned (List.map change) flipped first second) :
    (first = [] ∧ second = []) ∨
      ∃ one others other more, first = one :: others ∧ second = other :: more ∧
        Turned change flipped one other ∧ Turned (List.map change) flipped others more := by
  cases turned with
  | forth =>
    cases first with
    | nil => exact Or.inl ⟨rfl, rfl⟩
    | cons one others => exact Or.inr ⟨_, _, _, _, rfl, rfl, .forth one, .forth others⟩
  | back =>
    cases second with
    | nil => exact Or.inl ⟨rfl, rfl⟩
    | cons other more => exact Or.inr ⟨_, _, _, _, rfl, rfl, .back other, .back more⟩

theorem bodies {first second : List Node} (turned : Turned Node.yieldingLast flipped first second) :
    (first = [] ∧ second = []) ∨
      ∃ front one other, first = front ++ [one] ∧ second = front ++ [other] ∧
        Turned Node.yielding flipped one other := by
  cases turned with
  | forth =>
    rcases eq_nil_or_concat first with rfl | ⟨front, last, rfl⟩
    · exact Or.inl ⟨rfl, rfl⟩
    · rw [concat_eq_append, Node.yieldingLast_concat]
      exact Or.inr ⟨_, _, _, rfl, rfl, .forth last⟩
  | back =>
    rcases eq_nil_or_concat second with rfl | ⟨front, last, rfl⟩
    · exact Or.inl ⟨rfl, rfl⟩
    · rw [concat_eq_append, Node.yieldingLast_concat]
      exact Or.inr ⟨_, _, _, rfl, rfl, .back last⟩

end Turned

namespace Eval

/-! ## What bodies return -/

/-- A signal may be taken up as soon as the last part of a body gives it. -/
theorem takeCast_bind_takeCast {α : Type} (body : Eval α) (next : α → Eval Value) :
    takeCast (body >>= fun result => takeCast (next result)) = takeCast (body >>= next) := by
  funext machine
  simp only [takeCast, Bind.bind, EStateM.bind]
  cases body machine with
  | error halt machine => rfl
  | ok result machine =>
    dsimp only
    cases next result machine with
    | ok value machine => rfl
    | error halt machine => cases halt <;> rfl

/-- A cast of a value returns the value. -/
theorem takeCast_bind_throw (body : Eval Value) :
    takeCast (body >>= fun value => throw (.casting value)) = takeCast body :=
  calc takeCast (body >>= fun value => throw (.casting value))
    _ = takeCast (body >>= pure) := (takeCast_bind_takeCast body _).symm
    _ = takeCast body := by rw [bind_pure]

theorem KeepsUp.takeCast_bind {α : Type} {kinship : Kinship} {first second : Eval α}
    {next following : α → Eval Value} (begun : KeepsUp kinship first second)
    (continued : ∀ result, KeepsUp kinship (Eval.takeCast (next result))
      (Eval.takeCast (following result))) :
    KeepsUp kinship (Eval.takeCast (first >>= next)) (Eval.takeCast (second >>= following)) := by
  rw [← takeCast_bind_takeCast first, ← takeCast_bind_takeCast second]
  exact KeepsUp.takeCast (begun.bind continued)

section Returns

variable {kinship : Kinship} {one other : Node → Eval Value} {flipped : Bool}
  (keepsUp : ∀ node, KeepsUp kinship (one node) (other node))

include keepsUp

/-- Bodies return alike if their last statements do. -/
theorem sequence_returns
    (returns : ∀ {first second : Node}, Turned Node.yielding flipped first second →
      KeepsUp kinship (takeCast (one first)) (takeCast (other second)))
    {first second : List Node} (turned : Turned Node.yieldingLast flipped first second) :
    KeepsUp kinship (takeCast (sequence one first)) (takeCast (sequence other second)) := by
  rcases turned.bodies with ⟨rfl, rfl⟩ | ⟨front, last, last', rfl, rfl, lastTurned⟩
  · exact .takeCast (.pure Value.void)
  · clear turned
    induction front with
    | nil => exact returns lastTurned
    | cons node front ih =>
      have goesOn (self : Node → Eval Value) (last : Node) :
          sequence self (node :: front ++ [last]) =
            (do
              let _ ← self node
              sequence self (front ++ [last])) := by
        cases front <;> rfl
      rw [goesOn, goesOn]
      exact (keepsUp node).takeCast_bind fun _ => ih

variable (returns : ∀ {first second : List Node}, Turned Node.yieldingLast flipped first second →
  KeepsUp kinship (takeCast (sequence one first)) (takeCast (sequence other second)))

include returns

omit keepsUp in
theorem block_returns {first second : List Node}
    (turned : Turned Node.yieldingLast flipped first second) :
    KeepsUp kinship (takeCast (block one first)) (takeCast (block other second)) := by
  unfold block
  rw [takeCast_nested, takeCast_nested]
  exact (returns turned).nested _

/-- So do conditionals, if their branches do. -/
theorem firstBranch_returns {otherwise otherwise' : Option (List Node)}
    {branches branches' : List (Node × List Node)}
    (last : Turned (Option.map Node.yieldingLast) flipped otherwise otherwise')
    (turned : Turned (List.map fun branch => (branch.1, Node.yieldingLast branch.2)) flipped
      branches branches') :
    KeepsUp kinship (takeCast (firstBranch one otherwise branches))
      (takeCast (firstBranch other otherwise' branches')) := by
  induction branches generalizing branches' with
  | nil =>
    rcases turned.lists with ⟨-, rfl⟩ | ⟨_, _, _, _, equal, -⟩
    · cases last with
      | forth =>
        cases otherwise with
        | none => exact .takeCast (.pure Value.void)
        | some body => exact block_returns returns (.forth body)
      | back =>
        cases otherwise' with
        | none => exact .takeCast (.pure Value.void)
        | some body => exact block_returns returns (.back body)
    · cases equal
  | cons branch branches ih =>
    rcases turned.lists with ⟨equal, -⟩ | ⟨_, _, branch', others', equal, rfl, same, others⟩
    · cases equal
    · obtain ⟨rfl, rfl⟩ := List.cons.inj equal
      have test : branch'.1 = branch.1 ∧
          Turned Node.yieldingLast flipped branch.2 branch'.2 := by
        cases same with
        | forth => exact ⟨rfl, .forth _⟩
        | back => exact ⟨rfl, .back _⟩
      apply KeepsUp.takeCast_bind (test.1 ▸ condition_keepsUp keepsUp branch.1)
      intro holds
      cases holds with
      | true => exact block_returns returns test.2
      | false => exact ih others

/-- A statement at the end of a body returns the same with values in the place of its casts. -/
theorem step_returns {more rounds : Nat}
    (steps : ∀ node, KeepsUp kinship (step one more node) (step other rounds node))
    (literal : ∀ place value, one (.literal place value) = pure value) {first second : Node}
    (turned : Turned Node.yielding flipped first second) :
    KeepsUp kinship (takeCast (step one more first)) (takeCast (step other rounds second)) := by
  cases turned with
  | forth =>
    cases first with
    | cast place value =>
      cases value with
      | none =>
        -- The bare cast takes no nested step, but a literal does.
        have bare := (keepsUp (.literal place .void)).takeCast
        rw [literal] at bare
        exact bare
      | some value =>
        simp only [Node.yielding, step, takeCast_bind_throw]
        exact (keepsUp value).takeCast
    | conditional place test outcome alts otherwise =>
      simp only [Node.yielding, step, Node.yieldingBranches_eq_map, Node.yieldingBlock_eq_map]
      exact firstBranch_returns keepsUp returns (.forth otherwise)
        (.forth ((test, outcome) :: alts))
    | _ => exact (steps _).takeCast
  | back =>
    cases second with
    | cast place value =>
      cases value with
      | none =>
        simp only [Node.yielding, step, literal]
        exact .pure Value.void
      | some value =>
        simp only [Node.yielding, step, takeCast_bind_throw]
        exact (keepsUp value).takeCast
    | conditional place test outcome alts otherwise =>
      simp only [Node.yielding, step, Node.yieldingBranches_eq_map, Node.yieldingBlock_eq_map]
      exact firstBranch_returns keepsUp returns (.back otherwise)
        (.back ((test, outcome) :: alts))
    | _ => exact (steps _).takeCast

end Returns

/-! ## Spells of which some return by their last values -/

/-- The bodies of the chosen spells correspond by the change, and all others are the same. -/
inductive YieldingKinship (chosen : Nat → Bool) (flipped : Bool) :
    Nat → List Node → List Node → Prop where
  | changed {ref : Nat} (isChosen : chosen ref = true) {first second : List Node}
      (turned : Turned Node.yieldingLast flipped first second) :
      YieldingKinship chosen flipped ref first second
  | same {ref : Nat} (unchosen : chosen ref = false) (body : List Node) :
      YieldingKinship chosen flipped ref body body

namespace YieldingKinship

variable {chosen : Nat → Bool} {flipped : Bool}

theorem swap {ref : Nat} {first second : List Node}
    (akin : YieldingKinship chosen flipped ref first second) :
    YieldingKinship chosen (!flipped) ref second first := by
  cases akin with
  | changed isChosen turned => exact .changed isChosen turned.swap
  | same unchosen => exact .same unchosen _

theorem machines_swap {one other : Machine}
    (alike : Kinship.Machines (YieldingKinship chosen flipped) one other) :
    Kinship.Machines (YieldingKinship chosen !flipped) other one := by
  obtain ⟨scopes, world, joins⟩ := alike
  refine .intro scopes world ⟨joins.size.symm, ?_, ?_⟩
  · intro ref first second found found'
    obtain ⟨params, scope, akin⟩ := joins.spells found' found
    exact ⟨params.symm, scope.symm, akin.swap⟩
  · intro ref beyond body
    exact (joins.fresh (joins.size ▸ beyond) body).swap

/-- A spell that is declared later is not chosen. -/
theorem machines_yielding {machine : Machine}
    (known : ∀ ref, chosen ref = true → ref < machine.closures.size) :
    Kinship.Machines (YieldingKinship chosen false) machine (machine.yielding chosen) := by
  refine .intro machine.scopes machine.world ⟨Array.size_mapIdx, ?_, ?_⟩
  · intro ref first second found found'
    rw [Array.getElem?_mapIdx, found] at found'
    obtain rfl : Closure.yieldingIf (chosen ref) first = second := Option.some.inj found'
    cases isChosen : chosen ref with
    | true => exact ⟨rfl, rfl, .changed isChosen (.forth first.body)⟩
    | false => exact ⟨rfl, rfl, .same isChosen first.body⟩
  · intro ref beyond body
    refine .same ?_ body
    rw [← Bool.not_eq_true]
    intro isChosen
    exact Nat.not_lt.mpr beyond (known ref isChosen)

theorem eq_yieldingIf {ref : Nat} {first second : Closure}
    (params : second.parameters = first.parameters) (scope : second.scope = first.scope)
    (akin : YieldingKinship chosen false ref first.body second.body) :
    second = first.yieldingIf (chosen ref) := by
  obtain ⟨_, body, _⟩ := first
  obtain ⟨_, body', _⟩ := second
  dsimp only at params scope akin
  subst params scope
  cases akin with
  | changed isChosen turned =>
    rw [turned.eq_of_forth, isChosen]
    rfl
  | same unchosen =>
    rw [unchosen]
    rfl

theorem eq_yielding_of_machines {one other : Machine}
    (alike : Kinship.Machines (YieldingKinship chosen false) one other) :
    other = one.yielding chosen := by
  obtain ⟨scopes, world, joins⟩ := alike
  rename_i closures closures'
  suffices closures' = closures.mapIdx fun ref => Closure.yieldingIf (chosen ref) by
    rw [this]
    rfl
  apply Array.ext
  · rw [joins.size, Array.size_mapIdx]
  · intro ref inside' inside
    rw [Array.getElem_mapIdx]
    rw [Array.size_mapIdx] at inside
    obtain ⟨params, scope, akin⟩ := joins.spells (Array.getElem?_eq_getElem inside)
      (Array.getElem?_eq_getElem inside')
    exact eq_yieldingIf params scope akin

/-- One of two corresponding machines is the other with the chosen spells changed. -/
theorem turned_of_machines {one other : Machine}
    (alike : Kinship.Machines (YieldingKinship chosen flipped) one other) :
    Turned (Machine.yielding chosen) flipped one other := by
  cases flipped with
  | false => exact eq_yielding_of_machines alike ▸ .forth one
  | true => exact eq_yielding_of_machines (machines_swap alike) ▸ .back other

theorem machines_of_turned {one other : Machine}
    (known : ∀ ref, chosen ref = true → ref < one.closures.size)
    (turned : Turned (Machine.yielding chosen) flipped one other) :
    Kinship.Machines (YieldingKinship chosen flipped) one other := by
  cases turned with
  | forth => exact machines_yielding known
  | back =>
    refine machines_swap (machines_yielding ?_)
    intro ref isChosen
    exact Nat.lt_of_lt_of_eq (known ref isChosen) Array.size_mapIdx

theorem returns {one other : Node → Eval Value}
    (keepsUp : ∀ node, KeepsUp (YieldingKinship chosen flipped) (one node) (other node))
    (changed : ∀ {first second : List Node}, Turned Node.yieldingLast flipped first second →
      KeepsUp (YieldingKinship chosen flipped) (takeCast (sequence one first))
        (takeCast (sequence other second)))
    {ref : Nat} {first second : List Node}
    (akin : YieldingKinship chosen flipped ref first second) :
    KeepsUp (YieldingKinship chosen flipped) (takeCast (sequence one first))
      (takeCast (sequence other second)) := by
  cases akin with
  | changed isChosen turned => exact changed turned
  | same unchosen => exact (sequence_keepsUp keepsUp first).takeCast

end YieldingKinship

variable {chosen : Nat → Bool} {flipped : Bool}

/--
In more nested steps, evaluation keeps up with evaluation where the bodies of the chosen spells are
changed, and a statement at the end of a body returns what the changed one does.
-/
theorem run_keepsUp {fuel more : Nat} (enough : fuel < more) :
    (∀ node, KeepsUp (YieldingKinship chosen flipped) (run more node) (run fuel node)) ∧
      ∀ {first second : Node}, Turned Node.yielding flipped first second →
        KeepsUp (YieldingKinship chosen flipped) (takeCast (run more first))
          (takeCast (run fuel second)) := by
  -- Both parts at once: the bodies of spells that are called inside end in such statements.
  induction fuel generalizing more with
  | zero => exact ⟨fun node => .weary _, fun _ => .weary _⟩
  | succ fuel ih =>
    obtain ⟨less, rfl⟩ : ∃ less, more = less + 1 := ⟨more - 1, by omega⟩
    obtain ⟨keepsUp, returnsLast⟩ := ih (Nat.lt_of_succ_lt_succ enough)
    have returns {first second : List Node}
        (turned : Turned Node.yieldingLast flipped first second) :
        KeepsUp (YieldingKinship chosen flipped) (takeCast (sequence (run less) first))
          (takeCast (sequence (run fuel) second)) :=
      sequence_returns keepsUp returnsLast turned
    have steps (node : Node) : KeepsUp (YieldingKinship chosen flipped)
        (run (less + 1) node) (run (fuel + 1) node) :=
      step_keepsUp keepsUp (YieldingKinship.returns keepsUp returns) (by omega) node
    refine ⟨steps, step_returns keepsUp returns steps ?_⟩
    intro place value
    obtain ⟨least, rfl⟩ : ∃ least, less = least + 1 := ⟨less - 1, by omega⟩
    rfl

/-! ## Calls -/

/-- Does an evaluation end otherwise than in weariness? -/
def finishes {α : Type} : EStateM.Result Halt Machine α → Bool
  | .error .weary _ => false
  | _ => true

/-- The same end of an evaluation, in a changed machine. -/
def through {α : Type} (change : Machine → Machine) :
    EStateM.Result Halt Machine α → EStateM.Result Halt Machine α
  | .ok result machine => .ok result (change machine)
  | .error halt machine => .error halt (change machine)

theorem finishes_through {α : Type} (change : Machine → Machine)
    (result : EStateM.Result Halt Machine α) :
    finishes (through change result) = finishes result := by
  cases result with
  | ok value machine => rfl
  | error halt machine => cases halt <;> rfl

/-- An evaluation that keeps up with one that finishes ends like it. -/
theorem KeepsUp.turned {α : Type} {first second : Eval α}
    (keepsUp : KeepsUp (YieldingKinship chosen flipped) first second) {one other : Machine}
    (known : ∀ ref, chosen ref = true → ref < one.closures.size)
    (machines : Turned (Machine.yielding chosen) flipped one other)
    (finished : finishes (second other) = true) :
    Turned (through (Machine.yielding chosen)) flipped (first one) (second other) := by
  have ends := keepsUp (YieldingKinship.machines_of_turned known machines)
  generalize first one = end₁, second other = end₂ at ends finished
  cases ends with
  | @ok result one other still =>
    cases YieldingKinship.turned_of_machines still with
    | forth => exact .forth (EStateM.Result.ok result one)
    | back => exact .back (EStateM.Result.ok result other)
  | @error halt halt' same one other still =>
    obtain rfl : halt = halt' := same
    cases YieldingKinship.turned_of_machines still with
    | forth => exact .forth (EStateM.Result.error halt one)
    | back => exact .back (EStateM.Result.error halt other)
  | excuse granted _ other =>
    cases granted
    cases finished

/-- More nested steps than suffice make no difference. -/
theorem callSpell_of_more {fuel more : Nat} (enough : fuel < more) (place : Place)
    (ref : Nat) (aloud : Bool) (args : List Value) (machine : Machine)
    (finished : finishes (callSpell (run fuel) place ref aloud args machine) = true) :
    callSpell (run more) place ref aloud args machine =
      callSpell (run fuel) place ref aloud args machine := by
  obtain ⟨keepsUp, returns⟩ := @run_keepsUp (fun _ => false) false fuel more enough
  have calls := callSpell_keepsUp
    (YieldingKinship.returns keepsUp (sequence_returns keepsUp returns)) place ref aloud
    args
  have unchanged : Machine.yielding (fun _ => false) = id := funext Machine.yielding_none
  have machines : Turned (Machine.yielding fun _ => false) false machine machine :=
    unchanged ▸ .forth machine
  have ends := calls.turned (by rintro _ ⟨⟩) machines finished
  rw [unchanged] at ends
  generalize callSpell (run more) _ _ _ _ _ = end₁, callSpell (run fuel) _ _ _ _ _ = end₂ at ends
  cases ends
  cases end₁ <;> rfl

/-- Calls of a spell and of the spell with a changed body. -/
theorem callSpell_turned {one other : Machine} {ref ref' : Nat}
    {first second : Closure} (found : one.closures[ref]? = some first)
    (found' : other.closures[ref']? = some second)
    (spells : Turned Closure.yielding flipped first second)
    (known : ∀ ref, chosen ref = true → ref < one.closures.size)
    (machines : Turned (Machine.yielding chosen) flipped one other) {fuel more : Nat}
    (enough : fuel < more) (place : Place) (aloud : Bool) (args : List Value)
    (finished : finishes (callSpell (run fuel) place ref' aloud args other) = true) :
    Turned (through (Machine.yielding chosen)) flipped
      (callSpell (run more) place ref aloud args one)
      (callSpell (run fuel) place ref' aloud args other) := by
  rw [callSpell_of_some found'] at finished
  rw [callSpell_of_some found, callSpell_of_some found']
  obtain ⟨params, scope, bodies⟩ : second.parameters = first.parameters ∧
      second.scope = first.scope ∧ Turned Node.yieldingLast flipped first.body second.body := by
    cases spells with
    | forth => exact ⟨rfl, rfl, .forth first.body⟩
    | back => exact ⟨rfl, rfl, .back second.body⟩
  obtain ⟨keepsUp, returns⟩ := @run_keepsUp chosen flipped fuel more enough
  exact (invoke_keepsUp params scope (sequence_returns keepsUp returns bodies) place aloud
    args).turned known machines finished

/--
Two computations, given by how they end within every number of nested steps.  If one finishes then
so does the other in one step more, and wherever both finish they end alike, up to a change of the
machine.
-/
structure Interchangeable (change : Machine → Machine)
    (first second : Nat → EStateM.Result Halt Machine Value) : Prop where
  forth : ∀ fuel, finishes (first fuel) = true → finishes (second (fuel + 1)) = true
  back : ∀ fuel, finishes (second fuel) = true → finishes (first (fuel + 1)) = true
  alike : ∀ fuel fuel', finishes (first fuel) = true → finishes (second fuel') = true →
    second fuel' = through change (first fuel)

/--
Casts at the end of a body can be replaced by their values: in every machine, with all arguments and
also for a spell whose result is spoken, a call of the spell and a call of one with the changed body
are interchangeable.  Any of the spells of the machine may be replaced at the same time, the called
one among them, and no other change is seen in the machine, its scopes or its world.
-/
theorem callSpell_yielding {machine : Machine} {chosen : Nat → Bool}
    (known : ∀ ref, chosen ref = true → ref < machine.closures.size)
    {ref other : Nat} {closure : Closure}
    (found : machine.closures[ref]? = some closure)
    (replaced : (machine.yielding chosen).closures[other]? = some closure.yielding)
    (place : Place) (aloud : Bool) (args : List Value) :
    Interchangeable (Machine.yielding chosen)
      (fun fuel => callSpell (run fuel) place ref aloud args machine)
      (fun fuel =>
        callSpell (run fuel) place other aloud args (machine.yielding chosen)) := by
  have known' (ref : Nat) (isChosen : chosen ref = true) :
      ref < (machine.yielding chosen).closures.size :=
    Nat.lt_of_lt_of_eq (known ref isChosen) Array.size_mapIdx.symm
  -- The changed call keeps up with the original one, and the other way round.
  have forth {fuel more : Nat} (enough : fuel < more)
      (finished :
        finishes (callSpell (run fuel) place ref aloud args machine) = true) :
      callSpell (run more) place other aloud args (machine.yielding chosen) =
        through (Machine.yielding chosen)
          (callSpell (run fuel) place ref aloud args machine) :=
    (callSpell_turned replaced found (.back closure) known' (.back machine) enough place aloud
      args finished).swap.eq_of_forth
  have back {fuel more : Nat} (enough : fuel < more)
      (finished : finishes (callSpell (run fuel) place other aloud args
        (machine.yielding chosen)) = true) :
      callSpell (run fuel) place other aloud args (machine.yielding chosen) =
        through (Machine.yielding chosen)
          (callSpell (run more) place ref aloud args machine) :=
    (callSpell_turned found replaced (.forth closure) known (.forth machine) enough place aloud
      args finished).eq_of_forth
  constructor
  · intro fuel finished
    rw [forth (Nat.lt_succ_self fuel) finished, finishes_through]
    exact finished
  · intro fuel finished
    rw [back (Nat.lt_succ_self fuel) finished, finishes_through] at finished
    exact finished
  · intro fuel fuel' finished finished'
    have enough : fuel < fuel + fuel' + 1 := by omega
    have enough' : fuel' < fuel + fuel' + 1 := by omega
    rw [← forth enough finished]
    exact (callSpell_of_more enough' place other aloud args _ finished').symm

/-- A spell that returns by a cast in both branches, once a value and once nothing. -/
def chooser : Closure where
  parameters := ["choice"]
  body := [.conditional .unknown (.identifier .unknown "choice")
    [.cast .unknown (some (.literal .unknown (.rune 1)))] [] (some [.cast .unknown none])]
  scope := 0

/-- Its result is spoken just as when values stand in the place of its casts. -/
theorem callSpell_yielding_chooser :
    let machine : Machine := { Machine.start {} with closures := #[chooser] }
    finishes (callSpell (run 4) .unknown 0 true [.charm true] machine) = true ∧
      Interchangeable (Machine.yielding (· == 0))
        (fun fuel => callSpell (run fuel) .unknown 0 true [.charm true] machine)
        (fun fuel =>
          callSpell (run fuel) .unknown 0 true [.charm true] (machine.yielding (· == 0))) := by
  refine ⟨by decide +kernel, callSpell_yielding ?_ rfl rfl .unknown true [.charm true]⟩
  intro ref isFirst
  rw [eq_of_beq isFirst]
  exact Nat.zero_lt_one

end Eval

end Spellbook
