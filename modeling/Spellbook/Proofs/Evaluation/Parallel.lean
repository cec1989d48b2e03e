import Spellbook.Proofs.Evaluation.Congruence

/-!
# Runs side by side

Two runs keep step if they end alike whenever they start in states that correspond (`Parallel`).
What corresponds is left open.  For evaluations it matters that machines that correspond have the
same scopes and go on to correspond however these change (`Machine.Scoped`): then everything that a
step does to scopes keeps step.
-/

namespace Spellbook

section Parallel

variable {ε σ α β : Type}

/--
Two ends that agree: the same result or failures that correspond, in corresponding states.  They
need not agree if the second is a failure that is excused.
-/
inductive Alike (failures : ε → ε → Prop) (excused : ε → Prop) (states : σ → σ → Prop) :
    EStateM.Result ε σ α → EStateM.Result ε σ α → Prop where
  | ok (res : α) {one other : σ} (linked : states one other) :
      Alike failures excused states (.ok res one) (.ok res other)
  | error {failure failure' : ε} (same : failures failure failure') {one other : σ}
      (linked : states one other) :
      Alike failures excused states (.error failure one) (.error failure' other)
  | excuse {failure : ε} (granted : excused failure) (ended : EStateM.Result ε σ α) (other : σ) :
      Alike failures excused states ended (.error failure other)

namespace Alike

variable {failures failures' : ε → ε → Prop} {excused excused' : ε → Prop} {states : σ → σ → Prop}

theorem of_left {res : α} {one : σ} {ended : EStateM.Result ε σ α}
    (alike : Alike failures (fun _ => False) states (.ok res one) ended) :
    ∃ other, ended = .ok res other ∧ states one other := by
  cases alike with
  | ok _ linked => exact ⟨_, rfl, linked⟩
  | excuse granted _ other => cases granted

theorem of_right {res : α} {other : σ} {ended : EStateM.Result ε σ α}
    (alike : Alike failures excused states ended (.ok res other)) :
    ∃ one, ended = .ok res one ∧ states one other := by
  cases alike with
  | ok _ linked => exact ⟨_, rfl, linked⟩

/-- More failures may correspond, and more may be excused. -/
theorem mono {end₁ end₂ : EStateM.Result ε σ α} (alike : Alike failures excused states end₁ end₂)
    (more : ∀ {failure failure' : ε}, failures failure failure' → failures' failure failure')
    (moreExcused : ∀ {failure : ε}, excused failure → excused' failure) :
    Alike failures' excused' states end₁ end₂ := by
  cases alike with
  | ok res linked => exact .ok res linked
  | error same linked => exact .error (more same) linked
  | excuse granted _ other => exact .excuse (moreExcused granted) _ other

end Alike

/-- Two computations that end alike whenever they start in corresponding states. -/
def Parallel (failures : ε → ε → Prop) (excused : ε → Prop) (states : σ → σ → Prop)
    (first second : EStateM ε σ α) : Prop :=
  ∀ ⦃one other : σ⦄, states one other → Alike failures excused states (first one) (second other)

namespace Parallel

variable {failures : ε → ε → Prop} {excused : ε → Prop} {states : σ → σ → Prop}
  {first second : EStateM ε σ α}

theorem pure (res : α) :
    Parallel failures excused states (Pure.pure res) (Pure.pure res) :=
  fun _ _ linked => .ok res linked

theorem throw {failure failure' : ε} (same : failures failure failure') :
    Parallel failures excused states (MonadExcept.throw failure : EStateM ε σ α)
      (MonadExcept.throw failure') :=
  fun _ _ linked => .error same linked

theorem bind {next following : α → EStateM ε σ β}
    (begun : Parallel failures excused states first second)
    (continued : ∀ res, Parallel failures excused states (next res) (following res)) :
    Parallel failures excused states (first >>= next) (second >>= following) := by
  intro one other linked
  have ends := begun linked
  simp only [Bind.bind, EStateM.bind]
  generalize first one = end₁, second other = end₂ at ends
  cases ends with
  | ok res linked => exact continued res linked
  | error same linked => exact .error same linked
  | excuse granted ended other => exact .excuse granted _ other

/-- What would be excused must not be mended. -/
theorem tryCatch {mend mend' : ε → EStateM ε σ α}
    (begun : Parallel failures (fun _ => False) states first second)
    (mended : ∀ {failure failure' : ε}, failures failure failure' →
      Parallel failures excused states (mend failure) (mend' failure')) :
    Parallel failures excused states (MonadExcept.tryCatch first mend)
      (MonadExcept.tryCatch second mend') := by
  intro one other linked
  have ends := begun linked
  change Alike failures excused states (EStateM.tryCatch first mend one)
    (EStateM.tryCatch second mend' other)
  delta EStateM.tryCatch
  generalize first one = end₁, second other = end₂ at ends
  cases ends with
  | ok res linked => exact .ok res linked
  | error same linked => exact mended same linked
  | excuse granted ended other => cases granted

end Parallel

end Parallel

/-! ## Machines -/

/-- Machines that correspond have the same scopes, and go on to correspond if these change. -/
class Machine.Scoped (states : Machine → Machine → Prop) : Prop where
  same : ∀ {one other : Machine}, states one other → other.scopes = one.scopes
  rescope : ∀ {one other : Machine}, states one other → ∀ scopes,
    states { one with scopes } { other with scopes }

/-- The same for worlds. -/
class Machine.Worldly (states : Machine → Machine → Prop) : Prop where
  same : ∀ {one other : Machine}, states one other → other.world = one.world
  replace : ∀ {one other : Machine}, states one other → ∀ world,
    states { one with world } { other with world }

namespace Halt

/-- The value with which a call ends early. -/
def cast? : Halt → Option Value
  | casting value => some value
  | _ => none

/-- How a round ends in a loop that has a value. -/
def round? (before : Value) : Halt → Option Eval.Round
  | breaking => some (.left before)
  | continuing => some (.over before)
  | _ => none

end Halt

namespace Eval

theorem get_bind {α : Type} (further : Machine → Eval α) (machine : Machine) :
    (get >>= further) machine = further machine machine := rfl

/-- Do something to the frame where a name can be changed; a refusal is blamed on a cause. -/
def alter (name : String) (update : Frame → Frame) (cause : Refusal → String → Cause)
    (place : Place) : Eval Unit := do
  match (← get).scopes.site name with
  | .ok pos => modifyFrame pos update
  | .error refusal => blame (cause refusal name) place

section Altering

variable {machine : Machine} {name : String}

theorem alter_of_site {pos : Nat} (found : machine.scopes.site name = .ok pos)
    (update : Frame → Frame) (cause : Refusal → String → Cause) (place : Place) :
    alter name update cause place machine =
      .ok () { machine with scopes := machine.scopes.modifyFrame pos update } := by
  simp only [alter, get_bind, found]
  rfl

theorem alter_of_refusal {refusal : Refusal} (refused : machine.scopes.site name = .error refusal)
    (update : Frame → Frame) (cause : Refusal → String → Cause) (place : Place) :
    alter name update cause place machine =
      .error (.trouble (.caused (cause refusal name) place)) machine := by
  simp only [alter, get_bind, refused]
  rfl

end Altering

/-- Take up the signals that have a result. -/
def takeUp {α : Type} (signal : Halt → Option α) (body : Eval α) : Eval α :=
  tryCatch body fun halt => (signal halt).elim (throw halt) pure

theorem takeCast_eq_takeUp (body : Eval Value) : takeCast body = takeUp Halt.cast? body := by
  funext machine
  change takeCast body machine = EStateM.tryCatch body _ machine
  delta EStateM.tryCatch
  dsimp only [takeCast]
  cases body machine with
  | ok => rfl
  | error halt => cases halt <;> rfl

theorem round_eq_takeUp (body : Eval Value) (before : Value) :
    round body before = takeUp (Halt.round? before) (do return .over (← body)) := by
  funext machine
  change round body before machine = EStateM.tryCatch _ _ machine
  delta EStateM.tryCatch
  simp only [round, Bind.bind, EStateM.bind]
  cases body machine with
  | ok => rfl
  | error halt => cases halt <;> rfl

end Eval

namespace Parallel

variable {α : Type} {failures failures' : Halt → Halt → Prop} {excused : Halt → Prop}
  {states : Machine → Machine → Prop} {first second : Eval α}

/-- A signal that is taken up has to be the same on both sides, and none is excused. -/
theorem takeUp {signal : Halt → Option α} (body : Parallel failures excused states first second)
    (kept : ∀ {halt halt' : Halt}, failures halt halt' →
      signal halt' = signal halt ∧ (signal halt = none → failures' halt halt'))
    (spared : ∀ {halt : Halt}, excused halt → signal halt = none) :
    Parallel failures' excused states (Eval.takeUp signal first) (Eval.takeUp signal second) := by
  intro one other linked
  have ends := body linked
  change Alike _ _ _ (EStateM.tryCatch first _ one) (EStateM.tryCatch second _ other)
  delta EStateM.tryCatch
  generalize first one = end₁, second other = end₂ at ends
  cases ends with
  | ok res linked => exact .ok res linked
  | @error halt halt' same _ _ linked =>
    obtain ⟨alike, unheard⟩ := kept same
    dsimp only
    rw [alike]
    cases taken : signal halt with
    | some res => exact .ok res linked
    | none => exact .error (unheard taken) linked
  | excuse granted ended other =>
    dsimp only
    rw [spared granted]
    exact .excuse granted _ other

theorem act [Machine.Worldly states]
    (troubled : ∀ failure, failures (.trouble failure) (.trouble failure)) (action : Action α) :
    Parallel failures excused states (Eval.act action) (Eval.act action) := by
  intro one other linked
  have after := Machine.Worldly.replace linked
  simp only [Eval.act, Machine.Worldly.same linked]
  cases action one.world with
  | ok res world => exact .ok res (after world)
  | error failure world => exact .error (troubled failure) (after world)

section Scopes

variable [Machine.Scoped states]

theorem rescope (change : Scopes → Scopes) :
    Parallel failures excused states
      (modify fun machine => { machine with scopes := change machine.scopes })
      (modify fun machine => { machine with scopes := change machine.scopes }) := by
  intro one other linked
  have after : states { one with scopes := change one.scopes }
      { other with scopes := change other.scopes } := by
    rw [Machine.Scoped.same linked]
    exact Machine.Scoped.rescope linked _
  exact .ok () after

theorem lookUp (name : String) {place place' : Place}
    (blamed : failures (.trouble (.caused (.undefined name) place))
      (.trouble (.caused (.undefined name) place'))) :
    Parallel failures excused states (Eval.lookUp name place) (Eval.lookUp name place') := by
  intro one other linked
  simp only [Eval.lookUp, Eval.get_bind, Machine.Scoped.same linked]
  cases one.scopes.get? name with
  | some value => exact .ok value linked
  | none => exact .error blamed linked

theorem alter (name : String) (update : Frame → Frame) {cause : Refusal → String → Cause}
    {place place' : Place}
    (blamed : ∀ refusal, failures (.trouble (.caused (cause refusal name) place))
      (.trouble (.caused (cause refusal name) place'))) :
    Parallel failures excused states (Eval.alter name update cause place)
      (Eval.alter name update cause place') := by
  intro one other linked
  simp only [Eval.alter, Eval.get_bind, Machine.Scoped.same linked]
  cases one.scopes.site name with
  | ok pos => exact rescope (·.modifyFrame pos update) linked
  | error refusal => exact .error (blamed refusal) linked

theorem within (body : Parallel failures excused states first second) (parent : Nat)
    (frame : Frame) :
    Parallel failures excused states (Eval.within parent frame first)
      (Eval.within parent frame second) := by
  intro one other linked
  have ends := body (Machine.Scoped.rescope linked
    { one.scopes.push parent frame with current := one.scopes.all.size })
  have restored {one other : Machine} (linked : states one other) (current : Nat) :
      states (Eval.atScope one current) (Eval.atScope other current) := by
    have after := Machine.Scoped.rescope linked { one.scopes with current }
    simp only [Eval.atScope, Machine.Scoped.same linked]
    exact after
  simp only [Eval.within, Eval.atScope, Machine.Scoped.same linked] at ends ⊢
  generalize first _ = end₁, second _ = end₂ at ends
  cases ends with
  | ok res still => exact .ok res (restored still _)
  | error same still => exact .error same (restored still _)
  | excuse granted _ other => exact .excuse granted _ _

theorem nested (body : Parallel failures excused states first second) (frame : Frame) :
    Parallel failures excused states (Eval.nested frame first) (Eval.nested frame second) := by
  intro one other linked
  simp only [Eval.nested, Eval.get_bind, Machine.Scoped.same linked]
  exact within body _ frame linked

variable [Machine.Worldly states]

/-- Whatever any node may use keeps step, if the same trouble corresponds. -/
theorem congruence (troubled : ∀ failure, failures (.trouble failure) (.trouble failure)) :
    Eval.Congruence (Parallel failures excused states) where
  pure := pure
  bind first next := by
    rw [Told.plain_bind]
    exact bind first next
  trouble _ _ _ := throw (troubled _)
  blame _ _ _ := throw (troubled _)
  act _ := act troubled _
  operate _ _ := act troubled _
  invoke _ _ := act troubled _
  lookUp name _ := lookUp name (troubled _)
  assign name _ _ := alter name _ fun _ => troubled _
  delete name _ := alter name _ fun _ => troubled _

end Scopes

end Parallel

end Spellbook
