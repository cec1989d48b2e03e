import Spellbook.Builtin

/-!
# What actions do to the world

An action leaves a world, whether it gives a value or ends in trouble.  Many facts about actions
have one form: the world that is left stands in some relation to the world before.  If the relation
lasts over steps, it holds of an action as soon as it holds of the parts (`Action.Abides`).

What the builtins share is treated here once, for all relations that take no account of the store
or of open files.
-/

namespace Spellbook.Action

variable {α β : Type}

/-! ## Running actions -/

/-- The world that is left, however an action ended. -/
def left : EStateM.Result Trouble World α → World
  | .ok _ world => world
  | .error _ world => world

/-- The value that an action gave, if it gave one. -/
def result? : EStateM.Result Trouble World α → Option α
  | .ok result _ => some result
  | .error .. => none

/-- The end of an action that gives an answer, or ends in trouble, in a world. -/
def ending (answer : Except Trouble α) (world : World) : EStateM.Result Trouble World α :=
  match answer with
  | .ok result => .ok result world
  | .error trouble => .error trouble world

theorem left_ending (answer : Except Trouble α) (world : World) :
    left (ending answer world) = world := by
  cases answer with
  | ok result => rfl
  | error trouble => rfl

section Run

variable {action : Action α} {world middle : World}

theorem bind_of_ok {next : α → Action β} {result : α} (ended : action world = .ok result middle) :
    (action >>= next) world = next result middle := by
  simp only [Bind.bind, EStateM.bind, ended]

theorem bind_of_error {next : α → Action β} {trouble : Trouble}
    (ended : action world = .error trouble middle) :
    (action >>= next) world = .error trouble middle := by
  simp only [Bind.bind, EStateM.bind, ended]

theorem bind_eq_ok {next : α → Action β} {result : β}
    (ended : (action >>= next) world = .ok result middle) :
    ∃ value between, action world = .ok value between ∧ next value between = .ok result middle := by
  cases first : action world with
  | ok value between => exact ⟨value, between, rfl, (bind_of_ok first).symm.trans ended⟩
  | error trouble between => cases (bind_of_error first).symm.trans ended

theorem recover_of_ok {mend : Trouble → Action α} {result : α}
    (ended : action world = .ok result middle) :
    recover action mend world = .ok result middle := by
  change EStateM.tryCatch action mend world = _
  delta EStateM.tryCatch
  simp only [ended]

theorem recover_of_error {mend : Trouble → Action α} {trouble : Trouble}
    (ended : action world = .error trouble middle) :
    recover action mend world = mend trouble middle := by
  change EStateM.tryCatch action mend world = _
  delta EStateM.tryCatch
  simp only [ended]
  rfl

theorem orRefuse_of_ok {errorClass : ErrorClass} {words : String} {result : α}
    (ended : action world = .ok result middle) :
    orRefuse errorClass words action world = .ok result middle :=
  recover_of_ok ended

theorem orRefuse_of_error {errorClass : ErrorClass} {words : String} {trouble : Trouble}
    (ended : action world = .error trouble middle) :
    orRefuse errorClass words action world =
      .error (.told errorClass (words ++ trouble.text)) middle :=
  recover_of_error ended

/-- What follows is recovered from where it starts. -/
theorem recover_bind_of_ok {next : α → Action β} {mend : Trouble → Action β} {result : α}
    (ended : action world = .ok result middle) :
    recover (action >>= next) mend world = recover (next result) mend middle := by
  cases more : next result middle with
  | ok final last => rw [recover_of_ok more, recover_of_ok ((bind_of_ok ended).trans more)]
  | error trouble last =>
    rw [recover_of_error more, recover_of_error ((bind_of_ok ended).trans more)]

section Text

variable {value : Value}

theorem text_of_ok {words : String} (written : world.store.plainText value = .ok words) :
    text value world = .ok words world := by
  have looked : text value world = ofResult (world.store.plainText value) world := rfl
  rw [looked, written]
  rfl

theorem text_of_error {failure : Fault} (unwritten : world.store.plainText value = .error failure) :
    text value world = .error (.fault failure) world := by
  have looked : text value world = ofResult (world.store.plainText value) world := rfl
  rw [looked, unwritten]
  rfl

theorem text_eq_ok {words : String} (ended : text value world = .ok words middle) :
    world.store.plainText value = .ok words ∧ middle = world := by
  cases written : world.store.plainText value with
  | ok result =>
    cases (text_of_ok written).symm.trans ended
    exact ⟨rfl, rfl⟩
  | error failure => cases (text_of_error written).symm.trans ended

end Text

end Run

/-! ## Relations that last over steps -/

/-- A relation between the world before and the world after that lasts over steps. -/
class Passage (relation : World → World → Prop) : Prop where
  refl (world : World) : relation world world
  trans {first second third : World} :
    relation first second → relation second third → relation first third

/-- A relation that takes no account of the store. -/
class StoreFree (relation : World → World → Prop) : Prop where
  store (world : World) (store : Store) : relation world { world with store }

/-- A relation that takes no account of open files. -/
class HandleFree (relation : World → World → Prop) : Prop where
  handles (world : World) (handles : Array FileHandle) : relation world { world with handles }

/-- The world that the action leaves always stands in the relation to the world before. -/
structure Abides (relation : World → World → Prop) (action : Action α) : Prop where
  related : ∀ world, relation world (left (action world))

namespace Abides

variable {relation : World → World → Prop} {action : Action α}

/-! ## The store -/

section StoreFree

variable [StoreFree relation]

theorem withStore (change : Store → α × Store) : Abides relation (Action.withStore change) :=
  ⟨fun world => StoreFree.store world _⟩

theorem newTome (items : List Value) : Abides relation (Action.newTome items) := withStore _

theorem newGrimoire (entries : Entries) : Abides relation (Action.newGrimoire entries) :=
  withStore _

theorem newRecord (entries : List (String × Value)) : Abides relation (Action.newRecord entries) :=
  newGrimoire _

theorem plant (datum : Datum) : Abides relation (Action.plant datum) := withStore _

end StoreFree

/-! ## Composition -/

/-- What abides by two relations one after the other abides by a relation that joins them. -/
theorem follow {first second : World → World → Prop} {next : α → Action β}
    (begun : Abides first action) (continued : ∀ result, Abides second (next result))
    (stops : ∀ {world after}, first world after → relation world after)
    (joins : ∀ {world middle after}, first world middle → second middle after →
      relation world after) :
    Abides relation (action >>= next) := by
  constructor
  intro world
  have gone := begun.related world
  cases ended : action world with
  | ok result middle =>
    rw [ended] at gone
    rw [bind_of_ok ended]
    exact joins gone ((continued result).related middle)
  | error trouble middle =>
    rw [ended] at gone
    rw [bind_of_error ended]
    exact stops gone

variable [Passage relation]

theorem pure (result : α) : Abides relation (Pure.pure result : Action α) := ⟨Passage.refl⟩

theorem throw (trouble : Trouble) : Abides relation (MonadExcept.throw trouble : Action α) :=
  ⟨Passage.refl⟩

theorem bind {next : α → Action β} (begun : Abides relation action)
    (continued : ∀ result, Abides relation (next result)) : Abides relation (action >>= next) :=
  begun.follow continued id Passage.trans

theorem recover {mend : Trouble → Action α} (tried : Abides relation action)
    (mended : ∀ trouble, Abides relation (mend trouble)) :
    Abides relation (Action.recover action mend) := by
  constructor
  intro world
  have first := tried.related world
  cases ended : action world with
  | ok result middle =>
    rw [ended] at first
    rw [recover_of_ok ended]
    exact first
  | error trouble middle =>
    rw [ended] at first
    rw [recover_of_error ended]
    exact Passage.trans first ((mended trouble).related middle)

theorem get : Abides relation (MonadState.get : Action World) := ⟨Passage.refl⟩

theorem mapM {action : β → Action α} (each : ∀ item, Abides relation (action item))
    (items : List β) : Abides relation (items.mapM action) := by
  induction items with
  | nil => exact pure []
  | cons item items ih =>
    rw [List.mapM_cons]
    exact bind (each item) fun _ => bind ih fun _ => pure _

/-! ## Trouble -/

theorem fault (failure : Fault) : Abides relation (Action.fault failure : Action α) := throw _

theorem refuse (errorClass : ErrorClass) (msg : String) :
    Abides relation (Action.refuse errorClass msg : Action α) :=
  throw _

theorem ofResult (result : Except Fault α) : Abides relation (Action.ofResult result) := by
  cases result with
  | ok result => exact pure result
  | error failure => exact fault failure

theorem orRefuse (errorClass : ErrorClass) (words : String) (abides : Abides relation action) :
    Abides relation (Action.orRefuse errorClass words action) :=
  recover abides fun _ => refuse _ _

/-! ## Questions about values -/

theorem text (value : Value) : Abides relation (Action.text value) :=
  bind get fun _ => ofResult _

theorem truth (value : Value) : Abides relation (Action.truth value) := bind get fun _ => pure _

theorem portray (value : Value) : Abides relation (Action.portray value) :=
  bind get fun _ => pure _

theorem items (ref : Nat) : Abides relation (Action.items ref) :=
  bind get fun _ => pure _

theorem entries (ref : Nat) : Abides relation (Action.entries ref) :=
  bind get fun _ => pure _

theorem field? (ref : Nat) (name : String) :
    Abides relation (Action.field? ref name) :=
  bind (entries ref) fun _ => pure _

theorem fieldOr (ref : Nat) (name : String) (standard : Value) :
    Abides relation (Action.fieldOr ref name standard) :=
  bind (field? ref name) fun _ => pure _

theorem lacks (value : Value) (mem : String) :
    Abides relation (Action.lacks value mem : Action α) :=
  fault _

theorem integerOr (standard : Int) (args : List Value) :
    Abides relation (Action.integerOr standard args) := by
  cases args with
  | nil => exact pure standard
  | cons value args => exact ofResult _

theorem textOr (standard : String) (args : List Value) :
    Abides relation (Action.textOr standard args) := by
  cases args with
  | nil => exact pure standard
  | cons value args => exact text value

theorem firstOf (value : Value) : Abides relation (Action.firstOf value) := by
  cases value with
  | tome ref =>
    apply bind (items ref)
    intro values
    cases values[0]? with
    | none => exact fault _
    | some item => exact pure item
  | grimoire ref =>
    apply bind (entries ref)
    intro entries
    cases entries.get? (.rune 0) with
    | none => exact fault _
    | some item => exact pure item
  | scroll text =>
    rw [Action.firstOf]
    split
    · exact pure _
    · exact fault _
  | _ => exact fault _

/-! ## Open files -/

theorem lineBudget (ref : Nat) : Abides relation (Action.lineBudget ref) := by
  apply bind get
  intro world
  cases world.handles[ref]? with
  | none => exact pure 1
  | some handle => exact pure _

section HandleFree

variable [HandleFree relation]

theorem useHandle (ref : Nat) (use : FileHandle → List UInt8 → FileHandle × Except Fault α) :
    Abides relation (Action.useHandle ref use) := by
  apply bind get
  intro world
  cases world.handles[ref]? with
  | none => exact fault .closedFile
  | some handle =>
    apply bind
    · exact ⟨fun world => HandleFree.handles world _⟩
    · exact fun _ => ofResult _

theorem remainingLines (ref fuel : Nat) :
    Abides relation (Action.remainingLines ref fuel) := by
  induction fuel with
  | zero => exact pure []
  | succ fuel ih =>
    apply bind (useHandle ref FileHandle.readLine)
    intro line
    cases line with
    | none => exact pure []
    | some line => exact bind ih fun _ => pure _

theorem elements (value : Value) : Abides relation (Action.elements value) := by
  cases value with
  | tome ref => exact bind (items ref) fun _ => pure _
  | grimoire ref => exact bind (entries ref) fun _ => pure _
  | scroll text => exact pure _
  | handle ref path mode =>
    exact bind (lineBudget ref) fun _ => bind (remainingLines ref _) fun _ => pure _
  | _ => exact fault _

end HandleFree

end Abides

end Spellbook.Action
