import Spellbook.Proofs.Store.Records
import Spellbook.Proofs.World.Passage

/-!
# Actions on a record

Many builtins read and write the fields of one record and touch nothing else.  What such an action
does is told by the entries of the record before and after it (`Action.Writes`), and there is a rule
for each of the steps of which those builtins are made.  Comparisons are followed as far as the
fields hold integers.
-/

namespace Spellbook

namespace Entries

/-- The field of a record. -/
def field? (entries : Entries) (name : String) : Option Value := entries.get? (.scroll name)

/-- The entries after a field was written. -/
def writing (entries : Entries) (name : String) (value : Value) : Entries :=
  entries.put (.scroll name) value

@[simp]
theorem field?_writing (entries : Entries) (name other : String) (value : Value) :
    (entries.writing name value).field? other =
      if name = other then some value else entries.field? other := by
  unfold field? writing
  split
  case isTrue same => rw [same, get?_put_self]
  case isFalse unlike => exact get?_put_of_ne entries value (by simpa using unlike)

theorem writing_writing_self (entries : Entries) (name : String) (former value : Value) :
    (entries.writing name former).writing name value = entries.writing name value :=
  put_put_self entries name former value

theorem field?_record (fields : List (String × Value)) (name : String) :
    Entries.field? (fields.map fun (name, value) => (.scroll name, value)).toArray name =
      fields.lookup name := by
  rw [field?, get?_eq_find?]
  induction fields with
  | nil => rfl
  | cons field fields ih =>
    have same : (Value.scroll field.1).sameKey (.scroll name) = (name == field.1) := by
      rw [Bool.eq_iff_iff, Value.sameKey_scroll_iff, beq_iff_eq, Value.scroll.injEq, eq_comm]
    rw [List.lookup_cons, ← same, List.map_cons, List.find?_cons]
    cases (Value.scroll field.1).sameKey (.scroll name) with
    | true => rfl
    | false => exact ih

end Entries

/-- What a change makes of a grimoire is told by the entries that are there. -/
theorem Store.modifyGrimoire_eq (store : Store) (ref : Nat) (change : Entries → Entries) :
    store.modifyGrimoire ref change =
      store.modifyGrimoire ref fun _ => change (store.grimoire ref) := by
  have same : store.grimoires.modify ref change =
      store.grimoires.modify ref fun _ => change (store.grimoire ref) := by
    apply Array.ext
    · simp
    · intro index inside inside'
      rw [Array.getElem_modify, Array.getElem_modify]
      split
      case isTrue here =>
        subst here
        rw [Array.size_modify] at inside
        simp [grimoire, inside]
      case isFalse => rfl
  rw [modifyGrimoire, same, modifyGrimoire]

namespace World

variable {world : World} {ref : Nat} {entries later : Entries}

def record (world : World) (ref : Nat) : Entries := world.store.grimoire ref

/-- The world has a record to which the reference leads. -/
def HasRecord (world : World) (ref : Nat) : Prop :=
  ref < world.store.grimoires.size

/-- The world with other entries in a record. -/
def rewriting (world : World) (ref : Nat) (entries : Entries) : World :=
  { world with store := world.store.modifyGrimoire ref fun _ => entries }

theorem record_rewriting (present : world.HasRecord ref) :
    (world.rewriting ref entries).record ref = entries := by
  have inside : ref < world.store.grimoires.size := present
  simp [record, rewriting, Store.modifyGrimoire, Store.grimoire, inside, Array.getElem_modify]

theorem rewriting_rewriting :
    (world.rewriting ref entries).rewriting ref later = world.rewriting ref later := by
  have same : (world.store.grimoires.modify ref fun _ => entries).modify ref
      (fun _ => later) = world.store.grimoires.modify ref fun _ => later := by
    apply Array.ext
    · simp
    · intro index inside inside'
      simp only [Array.getElem_modify]
      split <;> rfl
  rw [rewriting, rewriting, Store.modifyGrimoire, Store.modifyGrimoire, same]
  rfl

theorem hasRecord_rewriting (present : world.HasRecord ref) (other : Nat) :
    (world.rewriting other entries).HasRecord ref := by
  simpa [HasRecord, rewriting, Store.modifyGrimoire] using present

theorem rewriting_record : world.rewriting ref (world.record ref) = world := by
  have same : (world.store.grimoires.modify ref fun entries => entries) =
      world.store.grimoires := by
    apply Array.ext <;> simp [Array.getElem_modify]
  rw [rewriting, record, ← world.store.modifyGrimoire_eq ref fun entries => entries,
    Store.modifyGrimoire, same]

end World

/-- Does the comparison hold between integers? -/
def Comparison.holds : Comparison → Int → Int → Bool
  | less, left, right => left < right
  | atMost, left, right => left ≤ right
  | greater, left, right => right < left
  | atLeast, left, right => right ≤ left

theorem Comparison.admits_compare (comparison : Comparison) (left right : Int) :
    comparison.admits (compare left right) = comparison.holds left right := by
  rcases Int.lt_trichotomy left right with less | rfl | greater
  · rw [Int.compare_eq_lt.mpr less]
    cases comparison <;> simp [admits, holds] <;> omega
  · rw [Int.compare_eq_eq.mpr rfl]
    cases comparison <;> simp [admits, holds]
  · rw [Int.compare_eq_gt.mpr greater]
    cases comparison <;> simp [admits, holds] <;> omega

namespace Action

/--
Whatever else the world holds, the action gives the result if the record has the entries, and then
it has the later ones and nothing else has changed.
-/
structure Writes {α : Type} (reference : Nat) (entries : Entries) (action : Action α) (res : α)
    (later : Entries) : Prop where
  ended : ∀ {world : World}, world.HasRecord reference → world.record reference = entries →
    action world = .ok res (world.rewriting reference later)

namespace Writes

variable {α β : Type} {ref : Nat} {entries middle later : Entries}

/-- An action that asks for the entries only. -/
theorem of_reading {action : Action α} {res : α}
    (read : ∀ {world : World}, world.record ref = entries → action world = .ok res world) :
    Writes ref entries action res entries := by
  constructor
  rintro world - rfl
  rw [World.rewriting_record]
  exact read rfl

theorem pure (res : α) : Writes ref entries (Pure.pure res) res entries :=
  of_reading fun _ => rfl

theorem bind {action : Action α} {next : α → Action β} {res : α} {final : β}
    (first : Writes ref entries action res middle)
    (second : Writes ref middle (next res) final later) :
    Writes ref entries (action >>= next) final later := by
  constructor
  intro world present recorded
  rw [bind_of_ok (first.ended present recorded),
    second.ended (World.hasRecord_rewriting present ref) (World.record_rewriting present),
    World.rewriting_rewriting]

theorem put (name : String) (value : Value) :
    Writes ref entries (Action.put ref name value) () (entries.writing name value) := by
  constructor
  rintro world present rfl
  have changed := world.store.modifyGrimoire_eq ref fun entries =>
    entries.put (.scroll name) value
  change EStateM.Result.ok () { world with
    store := world.store.modifyGrimoire ref fun entries =>
      entries.put (.scroll name) value } = _
  rw [changed]
  rfl

theorem field? (name : String) :
    Writes ref entries (Action.field? ref name) (entries.field? name) entries := by
  apply of_reading
  rintro world rfl
  rfl

theorem field {name : String} {value : Value} (found : entries.field? name = some value) :
    Writes ref entries (Action.field ref name) value entries := by
  refine bind (field? name) ?_
  rw [found]
  exact pure value

theorem fieldOr (name : String) (standard : Value) :
    Writes ref entries (Action.fieldOr ref name standard)
      ((entries.field? name).getD standard) entries :=
  bind (field? name) (pure _)

theorem integer (int : Int) :
    Writes ref entries (Action.integer (.rune int)) int entries :=
  pure int

theorem compare (comparison : Comparison) (left right : Int) :
    Writes ref entries (Action.compare comparison (.rune left) (.rune right))
      (comparison.holds left right) entries := by
  apply of_reading
  intro world recorded
  rw [← comparison.admits_compare]
  rfl

theorem newQuantity (int : Int) :
    Writes ref entries (Action.newQuantity (.whole int)) (.rune int) entries :=
  of_reading fun _ => rfl

end Writes

/-- The action gives the result and leaves entries that fit. -/
def Achieves {α : Type} (ref : Nat) (entries : Entries) (action : Action α) (res : α)
    (fits : Entries → Prop) : Prop :=
  ∃ later, Writes ref entries action res later ∧ fits later

theorem Achieves.after {α β : Type} {ref : Nat} {entries middle : Entries}
    {action : Action α} {next : α → Action β} {res : α} {final : β} {fits : Entries → Prop}
    (first : Writes ref entries action res middle)
    (more : Achieves ref middle (next res) final fits) :
    Achieves ref entries (action >>= next) final fits := by
  obtain ⟨later, second, fitting⟩ := more
  exact ⟨later, first.bind second, fitting⟩

end Action

end Spellbook
