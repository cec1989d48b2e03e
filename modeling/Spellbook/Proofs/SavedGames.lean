import Spellbook.Builtin.Saga
import Spellbook.Proofs.Json.RoundTrip
import Spellbook.Proofs.Store.Portrait
import Spellbook.Proofs.Store.Records
import Spellbook.Proofs.World.Files

/-!
# Saved games

A value of void, truth values, integers, texts, lists, and dictionaries whose keys are texts is
saved as JSON in ASCII, each item on a line of its own, and loads back as a value with the same
portrait. Of the files it is only asked that they are sound, as all trees are that operations make.
-/

namespace Spellbook

open List

/-! ## Planting what was saved -/

namespace Store

/-- Data that become the same value wherever they come from. -/
def Neutral (datum : Datum) : Prop := ∀ store : Store, store.plantSaved datum = store.plant datum

theorem plantListFrom_of_neutral {items : List Datum} (each : ∀ item ∈ items, Neutral item)
    (store : Store) :
    plantListFrom .saved store items = plantListFrom .given store items := by
  induction items generalizing store with
  | nil => rw [plantListFrom, plantListFrom]
  | cons item items ih =>
    obtain ⟨first, others⟩ := forall_mem_cons.mp each
    have same : plantFrom .saved store item = plantFrom .given store item := first store
    simp only [plantListFrom, same, ih others]

theorem plantEntriesFrom_of_neutral {entries : List (Datum × Datum)}
    (each : ∀ entry ∈ entries, Neutral entry.1 ∧ Neutral entry.2) (store : Store) :
    plantEntriesFrom .saved store entries = plantEntriesFrom .given store entries := by
  induction entries generalizing store with
  | nil => rw [plantEntriesFrom, plantEntriesFrom]
  | cons entry entries ih =>
    obtain ⟨⟨key, value⟩, others⟩ := forall_mem_cons.mp each
    have sameKey : plantFrom .saved store entry.1 = plantFrom .given store entry.1 := key store
    have sameValue (store) :
        plantFrom .saved store entry.2 = plantFrom .given store entry.2 := value store
    simp only [plantEntriesFrom, sameKey, sameValue, ih others]

/-- No number that floats is among saveable data, so all of them are neutral. -/
theorem neutral_of_saveable {datum : Datum} (saveable : datum.Saveable) : Neutral datum := by
  induction saveable with
  | void | charm | rune | scroll =>
    intro store
    rw [plantSaved, plant, plantFrom, plantFrom]
  | list _ ih =>
    intro store
    rw [plantSaved, plant, plantFrom, plantFrom, plantListFrom_of_neutral ih]
  | @record entries _ _ ih =>
    intro store
    rw [Datum.record, plantSaved, plant, plantFrom, plantFrom, plantEntriesFrom_of_neutral]
    intro entry mem
    obtain ⟨named, inside, rfl⟩ := mem_map.mp mem
    refine ⟨fun store => ?_, ih named inside⟩
    rw [plantSaved, plant, plantFrom, plantFrom]

theorem found_scroll (text : String) : Found (.scroll text) := by
  apply Found.scalar rfl
  intro later fuel above
  rw [portrayBelow]

/-- Saveable data are found where they were planted. -/
theorem found_of_saveable {datum : Datum} (saveable : datum.Saveable) : Found datum := by
  induction saveable with
  | void | charm | rune =>
    apply Found.scalar rfl
    intro later fuel above
    rw [portrayBelow]
  | scroll text => exact found_scroll text
  | list _ each => exact .tome each
  | @record entries _ distinct values =>
    apply Found.grimoire
    · intro entry mem
      obtain ⟨named, -, rfl⟩ := mem_map.mp mem
      rfl
    · intro entry mem
      obtain ⟨named, -, rfl⟩ := mem_map.mp mem
      exact found_scroll named.1
    · intro entry mem
      obtain ⟨named, inside, rfl⟩ := mem_map.mp mem
      exact values named inside
    · rw [pairwise_map]
      apply (pairwise_map.mp distinct).imp
      intro earlier later unlike clash
      -- Keys that are texts clash only if the texts are the same.
      obtain ⟨value, ⟨⟩, value', ⟨⟩, same⟩ := clash
      exact unlike (Value.scroll.inj (Value.scroll_sameKey_iff.mp same)).symm

end Store

/-! ## Saving and loading -/

namespace Builtin

open Spellbook.Action

/-- A path under which a file can be written. -/
def Writable (world : World) (name : String) : Prop :=
  world.denied.contains name = false ∧ ∃ opened, world.files.openForWriting name false = .ok opened

/-- The name leads to a file that holds the text. -/
def Holds (world : World) (name text : String) : Prop :=
  ∃ pos, world.files.openForReading name = .ok pos ∧
    world.files.content pos = Text.Utf8.encode text

section Data

variable {world : World} {name : String} {pos : Nat} {files : FileTree} {datum : Datum}
  (allowed : world.denied.contains name = false)
  (opened : world.files.openForWriting name false = .ok (pos, files))

include allowed opened

theorem saveData_of_complete {text : List Char} (drafted : Json.writeLines datum = { text }) :
    saveData datum name world =
      .ok () (world.afterWriting files pos (String.ofList text)) := by
  simp only [saveData, drafted]
  rw [bind_of_ok (writeFile_of_opened allowed opened _)]
  rfl

theorem saveData_of_broken {begun : List Char} {failure : Fault}
    (drafted : Json.writeLines datum = { text := begun, fault := some failure }) :
    saveData datum name world =
      .error (.fault failure) (world.afterWriting files pos (String.ofList begun)) := by
  simp only [saveData, drafted]
  rw [bind_of_ok (writeFile_of_opened allowed opened _)]
  rfl

end Data

section Saga

variable {world later : World} {value path : Value} {name : String}
  (named : world.store.plainText path = .ok name)

include named

theorem sagaSave_of_ok (saved : saveData (world.store.portray value) name world = .ok () later) :
    sagaSave [value, path] world = .ok (.charm true) later := by
  have portrayed : Action.portray value world = .ok (world.store.portray value) world := rfl
  rw [sagaSave, bind_of_ok (text_of_ok named),
    bind_of_ok (orRefuse_of_ok ((bind_of_ok portrayed).trans saved))]
  rfl

theorem sagaSave_of_error {trouble : Trouble}
    (failed : saveData (world.store.portray value) name world = .error trouble later) :
    sagaSave [value, path] world =
      .error (.told .questFailed ("Failed to save saga: " ++ trouble.text)) later := by
  have portrayed : Action.portray value world = .ok (world.store.portray value) world := rfl
  rw [sagaSave, bind_of_ok (text_of_ok named),
    bind_of_error (orRefuse_of_error ((bind_of_ok portrayed).trans failed))]

theorem sagaLoad_of_ok {text : String} {datum : Datum}
    (read : readFile name world = .ok text world) (held : Json.read text = .ok datum) :
    sagaLoad [path] world =
      .ok (world.store.plantSaved datum).1
        { world with store := (world.store.plantSaved datum).2 } := by
  have planted : (do Action.plantSaved (← ofResult (Json.read (← readFile name)))) world =
      .ok (world.store.plantSaved datum).1
        { world with store := (world.store.plantSaved datum).2 } := by
    rw [bind_of_ok read, held]
    rfl
  rw [sagaLoad, bind_of_ok (text_of_ok named), recover_of_ok planted]

end Saga

/-- JSON text has no line ends but line feeds, so it is read from a file as it was written. -/
theorem readFile_of_legible {world : World} {name : String} {pos : Nat} {files : FileTree}
    (allowed : world.denied.contains name = false)
    (opened : world.files.openForWriting name false = .ok (pos, files))
    (sound : world.files.Sound) {text : List Char} {datum : Datum}
    (legible : Json.Legible text datum) :
    readFile name (world.afterWriting files pos (String.ofList text)) =
      .ok (String.ofList text) (world.afterWriting files pos (String.ofList text)) := by
  have absent : '\r' ∉ text := by
    intro mem
    cases all_eq_true.mp legible.plain '\r' mem
  have read := readFile_of_written allowed opened sound (String.ofList text)
  rwa [String.toList_ofList, Text.unifyNewlines_of_not_mem absent] at read

theorem sagaSave_of_overlong {world : World} {value path : Value} {name : String}
    (named : world.store.plainText path = .ok name) (writable : Writable world name)
    (saveable : (world.store.portray value).Saveable)
    (overlong : (world.store.portray value).isOverlong = true) :
    ∃ left, sagaSave [value, path] world =
      .error (.told .questFailed ("Failed to save saga: " ++ Fault.message .tooLongToWrite))
        left := by
  obtain ⟨allowed, ⟨pos, files⟩, opened⟩ := writable
  have drafted := Json.drafted_of_saveable saveable .lines 0
  rw [overlong] at drafted
  obtain ⟨begun, broken⟩ := drafted.exists_broken
  exact ⟨_, sagaSave_of_error named (saveData_of_broken allowed opened broken)⟩

/--
A value of which every part is void, a truth value, an integer, a text, a list or a dictionary whose
keys are texts is saved under every path that can be written, and loads back with the same portrait,
unless an integer in it has more digits than the limit.  The file holds the JSON text of the
portrait, spread over lines and in ASCII.
-/
theorem saved_loads_back {world : World} {value path : Value} {name : String}
    (named : world.store.plainText path = .ok name) (writable : Writable world name)
    (sound : world.files.Sound) (saveable : (world.store.portray value).Saveable) :
    ((world.store.portray value).isOverlong = false →
      ∃ saved loaded later,
        sagaSave [value, path] world = .ok (.charm true) saved ∧
          sagaLoad [path] saved = .ok loaded later ∧
            later.store.portray loaded = world.store.portray value ∧
              Holds saved name
                (String.ofList (Json.written .lines 0 (world.store.portray value))) ∧
                (Json.written .lines 0 (world.store.portray value)).all Json.isPlain = true) ∧
      ((world.store.portray value).isOverlong = true →
        ∃ left, sagaSave [value, path] world =
          .error (.told .questFailed
            ("Failed to save saga: " ++ Fault.message .tooLongToWrite)) left) := by
  refine ⟨fun short => ?_, sagaSave_of_overlong named writable saveable⟩
  obtain ⟨allowed, ⟨pos, files⟩, opened⟩ := writable
  -- What is drafted is the whole text, and the same text is read from the file.
  have drafted := Json.drafted_of_saveable saveable .lines 0
  rw [short] at drafted
  have legible := Json.legible_of_saveable saveable short .lines 0
  have saved := sagaSave_of_ok named (saveData_of_complete allowed opened drafted.eq_complete)
  have stillNamed (text : String) :
      (world.afterWriting files pos text).store.plainText path = .ok name := named
  have loaded := sagaLoad_of_ok (stillNamed _) (readFile_of_legible allowed opened sound legible)
    legible.read
  refine ⟨_, _, _, saved, loaded, ?_, ?_, legible.plain⟩
  · rw [Store.neutral_of_saveable saveable]
    exact (Store.found_of_saveable saveable).portray _
  · exact ⟨pos, FileTree.openForReading_of_openForWriting opened _,
      FileTree.content_setContent (sound.openForWriting opened).2 _⟩

/-- A world with a file and with a value that has all that is hard to write. -/
def campsite : World where
  store :=
    { tomes := #[#[.rune (-70), .charm true, .scroll "\r\n\"\\é𝄞"], #[]]
      grimoires := #[#[(.scroll "bag", .tome 0), (.scroll "", .void), (.scroll "é", .tome 1)]] }
  files := FileTree.place {} "camp/saga" [0x5B]

theorem saved_loads_back_campsite :
    Writable campsite "camp/saga" ∧ campsite.files.Sound ∧
      ∃ saved loaded later,
        sagaSave [.grimoire 0, .scroll "camp/saga"] campsite = .ok (.charm true) saved ∧
          sagaLoad [.scroll "camp/saga"] saved = .ok loaded later ∧
            later.store.portray loaded =
              .record [("bag", .list [.rune (-70), .charm true, .scroll "\r\n\"\\é𝄞"]),
                ("", .void), ("é", .list [])] := by
  have portrait : campsite.store.portray (.grimoire 0) =
      .record [("bag", .list [.rune (-70), .charm true, .scroll "\r\n\"\\é𝄞"]), ("", .void),
        ("é", .list [])] := rfl
  have saveable : (campsite.store.portray (.grimoire 0)).Saveable := by
    rw [portrait]
    have items : (Datum.list [.rune (-70), .charm true, .scroll "\r\n\"\\é𝄞"]).Saveable :=
      .list (by simpa using ⟨.rune _, .charm _, .scroll _⟩)
    have none : (Datum.list []).Saveable := .list (by simp)
    exact .record (by simpa using ⟨items, .void, none⟩) (by decide)
  have short : (campsite.store.portray (.grimoire 0)).isOverlong = false := by
    rw [portrait]
    decide +kernel
  have writable : Writable campsite "camp/saga" := ⟨rfl, _, rfl⟩
  have sound : campsite.files.Sound := (FileTree.Built.place .empty _ _).sound
  have named : campsite.store.plainText (.scroll "camp/saga") = .ok "camp/saga" := rfl
  rcases (saved_loads_back named writable sound saveable).1 short with
    ⟨saved, loaded, later, wrote, read, same, -⟩
  exact ⟨writable, sound, saved, loaded, later, wrote, read, same.trans portrait⟩

/-- An integer of one digit too many is not saved. -/
theorem overlong_not_saved :
    (Datum.rune (Nat.pow 10 Number.digitLimit)).Saveable ∧
      ({} : World).store.portray (.rune (Nat.pow 10 Number.digitLimit)) =
        .rune (Nat.pow 10 Number.digitLimit) ∧
        Writable {} "saga" ∧
          ∃ left, sagaSave [.rune (Nat.pow 10 Number.digitLimit), .scroll "saga"] {} =
            .error (.told .questFailed
              ("Failed to save saga: " ++ Fault.message .tooLongToWrite)) left := by
  have saveable :
      (({} : World).store.portray (.rune (Nat.pow 10 Number.digitLimit))).Saveable := .rune _
  have overlong :
      (({} : World).store.portray (.rune (Nat.pow 10 Number.digitLimit))).isOverlong = true := by
    rw [show ({} : World).store.portray _ = .rune _ from rfl, Datum.isOverlong,
      Number.isWritable, Int.natAbs_natCast, decide_eq_false (Nat.lt_irrefl _)]
    rfl
  have writable : Writable {} "saga" := ⟨rfl, _, rfl⟩
  exact ⟨.rune _, rfl, writable, sagaSave_of_overlong rfl writable saveable overlong⟩

end Builtin

end Spellbook
