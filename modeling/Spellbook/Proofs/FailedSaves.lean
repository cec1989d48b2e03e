import Spellbook.Proofs.SavedGames
import Spellbook.Proofs.World.Locations

/-!
# Saves that fail

A save fails if its path cannot be written, which changes nothing, or if the value has no form in
JSON. In the second case the file was emptied already and holds what was written until the failure,
so the old save is lost, unless it was that very text.
-/

namespace Spellbook

open List

/-! ## Data with a form in JSON -/

namespace Datum

/-- Can the datum be the key of an entry? -/
def isScalar : Datum → Bool
  | void | charm _ | potion _ | scroll _ => true
  | rune int => Number.isWritable int
  | complex .. | list _ | dict _ | function .. | device _ | cycle _ => false

mutual

/-- Can the datum be written as JSON? -/
def isSerializable : Datum → Bool
  | list items => allSerializable items
  | dict entries => allEntriesSerializable entries
  | datum => datum.isScalar

def allSerializable : List Datum → Bool
  | [] => true
  | datum :: data => datum.isSerializable && allSerializable data

def allEntriesSerializable : List (Datum × Datum) → Bool
  | [] => true
  | (key, value) :: entries =>
    key.isScalar && value.isSerializable && allEntriesSerializable entries

end

end Datum

namespace Json

/-- Did the writer come to the end? -/
def Draft.isComplete (draft : Draft) : Bool := draft.fault.isNone

theorem Draft.eq_of_complete {draft : Draft} (complete : draft.isComplete = true) :
    draft = { text := draft.text } := by
  obtain ⟨text, fault⟩ := draft
  cases fault with
  | none => rfl
  | some failure => cases complete

theorem Draft.eq_of_broken {draft : Draft} (broken : draft.isComplete = false) :
    ∃ failure, draft = { text := draft.text, fault := some failure } := by
  obtain ⟨text, fault⟩ := draft
  cases fault with
  | none => cases broken
  | some failure => exact ⟨failure, rfl⟩

section Complete

variable {layout : Layout} {level : Nat}

@[simp]
theorem isComplete_andThen (draft next : Draft) :
    (draft.andThen next).isComplete = (draft.isComplete && next.isComplete) := by
  obtain ⟨text, fault⟩ := draft
  cases fault with
  | none => rfl
  | some failure => rfl

@[simp]
theorem isComplete_leading (lead : List Char) (datum : Datum) (draft : Draft) :
    (leading lead datum draft).isComplete = draft.isComplete := by
  obtain ⟨text, fault⟩ := draft
  cases datum <;> cases fault <;> rfl

@[simp]
theorem isComplete_text (text : List Char) : Draft.isComplete { text } = true := rfl

theorem isComplete_integerDraft (int : Int) :
    (integerDraft int).isComplete = Number.isWritable int := by
  rw [integerDraft]
  cases Number.isWritable int with
  | true => rfl
  | false => rfl

/-- The scalars are the data that have a text as keys. -/
theorem isOk_keyText (key : Datum) : (keyText key).isOk = key.isScalar := by
  cases key with
  | rune int =>
    rw [keyText, Datum.isScalar]
    cases Number.isWritable int with
    | true => rfl
    | false => rfl
  | _ => rfl

theorem isComplete_items {items : List Datum}
    (each : ∀ item ∈ items, (draft layout level item).isComplete = item.isSerializable) :
    (draftItems layout level items).isComplete = Datum.allSerializable items := by
  induction items with
  | nil => rw [draftItems, Datum.allSerializable, isComplete_text]
  | cons item items ih =>
    obtain ⟨first, others⟩ := forall_mem_cons.mp each
    rw [draftItems, Datum.allSerializable, isComplete_andThen, isComplete_leading, first, ih others]

theorem isComplete_entry {entry : Datum × Datum} (lead : List Char)
    (value : (draft layout level entry.2).isComplete = entry.2.isSerializable) :
    (draftEntry layout level lead entry).isComplete =
      (entry.1.isScalar && entry.2.isSerializable) := by
  rw [draftEntry, ← isOk_keyText]
  cases keyText entry.1 with
  | error failure => rfl
  | ok text => simp only [isComplete_andThen, isComplete_text, value, Except.isOk, Except.toBool]

theorem isComplete_entries {entries : List (Datum × Datum)}
    (each : ∀ entry ∈ entries, (draft layout level entry.2).isComplete = entry.2.isSerializable) :
    (draftEntries layout level entries).isComplete = Datum.allEntriesSerializable entries := by
  induction entries with
  | nil => rw [draftEntries, Datum.allEntriesSerializable, isComplete_text]
  | cons entry entries ih =>
    obtain ⟨first, others⟩ := forall_mem_cons.mp each
    rw [draftEntries, Datum.allEntriesSerializable, isComplete_andThen, isComplete_entry _ first,
      ih others]

theorem isComplete_list {items : List Datum} (each : ∀ item ∈ items,
      (draft layout (level + 1) item).isComplete = item.isSerializable) :
    (draft layout level (.list items)).isComplete = (Datum.list items).isSerializable := by
  cases items with
  | nil =>
    rw [draft, Datum.isSerializable, Datum.allSerializable]
    rfl
  | cons item items =>
    obtain ⟨first, others⟩ := forall_mem_cons.mp each
    simp only [draft, Datum.isSerializable, Datum.allSerializable, isComplete_andThen,
      isComplete_leading, isComplete_text, first, isComplete_items others, Bool.and_true]

theorem isComplete_dict {entries : List (Datum × Datum)} (each : ∀ entry ∈ entries,
      (draft layout (level + 1) entry.2).isComplete = entry.2.isSerializable) :
    (draft layout level (.dict entries)).isComplete = (Datum.dict entries).isSerializable := by
  cases entries with
  | nil =>
    rw [draft, Datum.isSerializable, Datum.allEntriesSerializable]
    rfl
  | cons entry entries =>
    obtain ⟨first, others⟩ := forall_mem_cons.mp each
    simp only [draft, Datum.isSerializable, Datum.allEntriesSerializable, isComplete_andThen,
      isComplete_text, isComplete_entry _ first, isComplete_entries others, Bool.and_true,
      Bool.true_and]

/-- The writer comes to the end of the data that have a form in JSON, and of no others. -/
theorem isComplete_draft (layout : Layout) (level : Nat) (datum : Datum) :
    (draft layout level datum).isComplete = datum.isSerializable := by
  cases datum with
  | list items => exact isComplete_list fun item mem => isComplete_draft layout _ item
  | dict entries => exact isComplete_dict fun entry mem => isComplete_draft layout _ entry.2
  | rune int => exact isComplete_integerDraft int
  | _ => rfl
termination_by sizeOf datum
decreasing_by
  · have smaller := sizeOf_lt_of_mem mem
    rw [Datum.list.sizeOf_spec]
    omega
  · have smaller := sizeOf_lt_of_mem mem
    have part : sizeOf entry = 1 + sizeOf entry.1 + sizeOf entry.2 := rfl
    rw [Datum.dict.sizeOf_spec]
    omega

end Complete

end Json

/-! ## Saves -/

namespace Builtin

open Spellbook.Action

/-- What is written of a value until the writer ends or fails. -/
def begunText (world : World) (value : Value) : String :=
  (Json.writeLines (world.store.portray value)).toString

section Data

variable {world : World} {name : String} {datum : Datum}

/-- Under a path that cannot be written nothing is saved, and nothing has changed. -/
theorem saveData_of_blocked (blocked : ¬Writable world name) :
    ∃ failure, saveData datum name world = .error (.fault failure) world := by
  rcases openForWriting_of_blocked fun allowed opened opens => blocked ⟨allowed, opened, opens⟩
    with ⟨failure, refused⟩
  have unwritten : writeFile name false (Json.writeLines datum).toString world =
      .error (.fault failure) world := by
    rw [writeFile, bind_of_error refused]
  simp only [saveData]
  exact ⟨failure, bind_of_error unwritten⟩

variable {pos : Nat} {files : FileTree} (allowed : world.denied.contains name = false)
  (opened : world.files.openForWriting name false = .ok (pos, files))

include allowed opened

theorem saveData_of_serializable (serializable : datum.isSerializable = true) :
    saveData datum name world =
      .ok () (world.afterWriting files pos (Json.writeLines datum).toString) :=
  saveData_of_complete allowed opened
    (Json.Draft.eq_of_complete ((Json.isComplete_draft .lines 0 datum).trans serializable))

theorem saveData_of_unserializable (unserializable : datum.isSerializable = false) :
    ∃ failure, saveData datum name world = .error (.fault failure)
        (world.afterWriting files pos (Json.writeLines datum).toString) := by
  rcases Json.Draft.eq_of_broken ((Json.isComplete_draft .lines 0 datum).trans unserializable)
    with ⟨failure, broken⟩
  exact ⟨failure, saveData_of_broken allowed opened broken⟩

end Data

section Saga

variable {world left : World} {value path : Value} {name msg : String}

/-- A save that failed left what writing the file left. -/
theorem saveData_of_failed (named : world.store.plainText path = .ok name)
    (failed : sagaSave [value, path] world = .error (.told .questFailed msg) left) :
    ∃ trouble, saveData (world.store.portray value) name world = .error trouble left := by
  cases saved : saveData (world.store.portray value) name world with
  | ok res later => cases (sagaSave_of_ok named saved).symm.trans failed
  | error trouble later =>
    cases (sagaSave_of_error named saved).symm.trans failed
    exact ⟨trouble, rfl⟩

/-- The path of a save that failed has a text: otherwise another trouble comes first. -/
theorem exists_named_of_failed
    (failed : sagaSave [value, path] world = .error (.told .questFailed msg) left) :
    ∃ name, world.store.plainText path = .ok name := by
  cases written : world.store.plainText path with
  | ok name => exact ⟨name, rfl⟩
  | error failure =>
    rw [sagaSave, bind_of_error (text_of_error written)] at failed
    cases failed

/--
A save fails exactly if the path cannot be written or the value has no form in JSON.
-/
theorem sagaSave_fails_iff (named : world.store.plainText path = .ok name) :
    (∃ msg left, sagaSave [value, path] world = .error (.told .questFailed msg) left) ↔
      (Writable world name → (world.store.portray value).isSerializable = false) := by
  constructor
  · rintro ⟨msg, left, failed⟩ ⟨allowed, ⟨pos, files⟩, opened⟩
    obtain ⟨trouble, ended⟩ := saveData_of_failed named failed
    apply Bool.eq_false_iff.mpr
    intro serializable
    cases (saveData_of_serializable allowed opened serializable).symm.trans ended
  · intro reason
    by_cases writable : Writable world name
    · obtain ⟨allowed, ⟨pos, files⟩, opened⟩ := writable
      rcases saveData_of_unserializable allowed opened (reason ⟨allowed, _, opened⟩)
        with ⟨failure, ended⟩
      exact ⟨_, _, sagaSave_of_error named ended⟩
    · obtain ⟨failure, ended⟩ := saveData_of_blocked writable
      exact ⟨_, _, sagaSave_of_error named ended⟩

/-- A save that failed under a path that can be written left what it had begun to write. -/
theorem sight_of_failed (orderly : world.files.Orderly)
    (named : world.store.plainText path = .ok name) (writable : Writable world name)
    (failed : sagaSave [value, path] world = .error (.told .questFailed msg) left) :
    ∃ loc, world.files.LeadsTo name loc ∧ ∀ other,
      left.files.sight? other =
        if other = loc then some (.file (Text.Utf8.encode (begunText world value)))
        else world.files.sight? other := by
  have unserializable := (sagaSave_fails_iff named).mp ⟨_, _, failed⟩ writable
  obtain ⟨allowed, ⟨pos, files⟩, opened⟩ := writable
  obtain ⟨trouble, ended⟩ := saveData_of_failed named failed
  obtain ⟨failure, broken⟩ := saveData_of_unserializable allowed opened unserializable
  cases broken.symm.trans ended
  exact orderly.sight_written opened _

/-- Where a path leads that can be written, a file is seen exactly if the path holds its text. -/
theorem Writable.sight_iff_holds (writable : Writable world name) {loc : List String}
    (leads : world.files.LeadsTo name loc) (text : String) :
    world.files.sight? loc = some (.file (Text.Utf8.encode text)) ↔ Holds world name text := by
  obtain ⟨-, ⟨pos, files⟩, opened⟩ := writable
  exact leads.sight_iff (FileTree.openForWriting_cases opened).1 _

end Saga

/--
If a save fails, then every file and directory is as it was before exactly if the path cannot be
written or its file held what was written until the failure.  If the path can be written, the value
has no form in JSON, what was written until the failure is now where the path leads, and all else is
as it was.
-/
theorem failed_save_keeps_iff {world left : World} {value path : Value} {msg : String}
    (orderly : world.files.Orderly)
    (failed : sagaSave [value, path] world = .error (.told .questFailed msg) left) :
    ∃ name, world.store.plainText path = .ok name ∧
      ((∀ location, left.files.sight? location = world.files.sight? location) ↔
        (Writable world name → Holds world name (begunText world value))) ∧
      (Writable world name →
        (world.store.portray value).isSerializable = false ∧
          ∃ location, world.files.LeadsTo name location ∧ ∀ other,
            left.files.sight? other =
              if other = location then some (.file (Text.Utf8.encode (begunText world value)))
              else world.files.sight? other) := by
  obtain ⟨name, named⟩ := exists_named_of_failed failed
  refine ⟨name, named, ⟨fun kept writable => ?_, fun same location => ?_⟩, fun writable =>
    ⟨(sagaSave_fails_iff named).mp ⟨_, _, failed⟩ writable,
      sight_of_failed orderly named writable failed⟩⟩
  · obtain ⟨location, leads, seen⟩ := sight_of_failed orderly named writable failed
    apply (writable.sight_iff_holds leads _).mp
    rw [← kept, seen, if_pos rfl]
  · by_cases writable : Writable world name
    · obtain ⟨target, leads, seen⟩ := sight_of_failed orderly named writable failed
      rw [seen]
      split
      case isTrue here => rw [here, (writable.sight_iff_holds leads _).mpr (same writable)]
      case isFalse => rfl
    · -- Nothing was opened, so the world is the same.
      obtain ⟨trouble, ended⟩ := saveData_of_failed named failed
      obtain ⟨failure, blocked⟩ := saveData_of_blocked writable
      cases blocked.symm.trans ended
      rfl

/-- A world with a save, and with a list in which a builtin stands behind a text. -/
def toolbox : World where
  store := { tomes := #[#[.scroll "map", .builtin "measure" 0]] }
  files := FileTree.place {} "saga" (Text.Utf8.encode "old")

theorem failed_save_keeps_iff_toolbox :
    toolbox.files.Orderly ∧ ∃ msg left,
      sagaSave [.tome 0, .scroll "saga"] toolbox = .error (.told .questFailed msg) left ∧
        ¬∀ location, left.files.sight? location = toolbox.files.sight? location := by
  have orderly : toolbox.files.Orderly :=
    (FileTree.Built.place .empty "saga" (Text.Utf8.encode "old")).orderly
  have named : toolbox.store.plainText (.scroll "saga") = .ok "saga" := rfl
  have writable : Writable toolbox "saga" := ⟨rfl, _, rfl⟩
  have unserializable : (toolbox.store.portray (.tome 0)).isSerializable = false := rfl
  rcases (sagaSave_fails_iff named).mpr fun _ => unserializable with ⟨msg, left, failed⟩
  refine ⟨orderly, msg, left, failed, fun kept => ?_⟩
  obtain ⟨name, same, keeps, -⟩ := failed_save_keeps_iff orderly failed
  cases same
  obtain ⟨pos, opened, holds⟩ := keeps.mp kept writable
  cases opened
  revert holds
  decide

/-- A save that fails behind the first item leaves this item and nothing of the old save. -/
theorem old_save_lost :
    toolbox.files.sight? ["saga"] = some (.file (Text.Utf8.encode "old")) ∧
      ∃ left, sagaSave [.tome 0, .scroll "saga"] toolbox =
          .error (.told .questFailed
            "Failed to save saga: Object of type BuiltinFunction is not JSON serializable") left ∧
        left.files.sight? ["saga"] = some (.file (Text.Utf8.encode "[\n  \"map\",\n  ")) :=
  ⟨rfl, _, rfl, rfl⟩

end Builtin

end Spellbook
