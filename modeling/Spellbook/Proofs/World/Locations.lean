import Spellbook.Proofs.World.Files

/-!
# What stands at a location

At a location below the working directory there is nothing, a directory, or a file with some bytes
(`FileTree.sight?`). No two files of a tree that was made by operations share their content
(`FileTree.Built.orderly`), so each change of a tree is seen at one location only: the one to which
its path leads.
-/

namespace Spellbook

open List

/-- What can stand at a location. -/
inductive Sight where
  | directory
  | file (bytes : List UInt8)

namespace FileTree

/-- What an entry stands for. -/
def sightOf (tree : FileTree) : FileEntry → Sight
  | .directory => .directory
  | .file pos => .file (tree.content pos)

/-- What stands at a location, if anything does. -/
def sight? (tree : FileTree) (loc : List String) : Option Sight :=
  tree.entry? loc |>.map tree.sightOf

section Sight

variable {tree : FileTree} {loc : List String}

theorem entry_of_sight_none (nothing : tree.sight? loc = none) :
    tree.entry? loc = none :=
  Option.map_eq_none_iff.mp nothing

theorem entry_of_sight_file {bytes : List UInt8} (seen : tree.sight? loc = some (.file bytes)) :
    ∃ pos, tree.entry? loc = some (.file pos) ∧ tree.content pos = bytes := by
  obtain ⟨entry, there, stands⟩ := Option.map_eq_some_iff.mp seen
  cases entry with
  | directory => cases stands
  | file pos =>
    cases stands
    exact ⟨pos, there, rfl⟩

end Sight

/-! ## One change, one location -/

/-- A tree in which every file has a content of its own. -/
structure Orderly (tree : FileTree) : Prop where
  sound : tree.Sound
  apart {first second : List String} {content : Nat} :
    (first, .file content) ∈ tree.entries → (second, .file content) ∈ tree.entries → first = second

theorem Orderly.kept : Kept Orderly where
  setContent orderly pos bytes := ⟨Sound.kept.setContent orderly.sound _ _, orderly.apart⟩
  removeEntries orderly gone :=
    ⟨Sound.kept.removeEntries orderly.sound gone, fun former latter =>
      orderly.apart (mem_filter.mp former).1 (mem_filter.mp latter).1⟩
  addDirectory orderly loc := by
    refine ⟨Sound.kept.addDirectory orderly.sound loc, fun former latter => ?_⟩
    rcases mem_cons.mp former with same | former
    · cases same
    rcases mem_cons.mp latter with same | latter
    · cases same
    exact orderly.apart former latter
  adding {tree} orderly loc bytes := by
    -- The new position is not in use yet, as all others are smaller.
    have fresh {other : List String} (mem : (other, .file tree.contents.size) ∈ tree.entries) :
        False := Nat.lt_irrefl _ (orderly.sound _ _ mem)
    refine ⟨Sound.kept.adding orderly.sound loc bytes, fun former latter => ?_⟩
    rcases mem_cons.mp former with same | former
    · cases same
      rcases mem_cons.mp latter with same | latter
      · cases same
        rfl
      · exact (fresh latter).elim
    · rcases mem_cons.mp latter with same | latter
      · cases same
        exact (fresh former).elim
      · exact orderly.apart former latter

/-- In every tree that is made by operations, every file has a content of its own. -/
theorem Built.orderly {tree : FileTree} (built : Built tree) : tree.Orderly :=
  Orderly.kept.of_built
    ⟨fun _ _ mem => absurd mem not_mem_nil, fun mem => absurd mem not_mem_nil⟩
    built

section Changes

variable {tree : FileTree} {loc : List String}

theorem content_setContent_of_ne {pos other : Nat} (unlike : pos ≠ other)
    (bytes : List UInt8) : (tree.setContent pos bytes).content other = tree.content other := by
  rw [content, content, setContent, Array.getElem?_modify, if_neg unlike]

theorem content_adding_of_lt {pos : Nat} (inside : pos < tree.contents.size) (bytes : List UInt8) :
    (tree.adding loc bytes).content pos = tree.content pos := by
  rw [content, content, adding, Array.getElem?_push, if_neg (Nat.ne_of_lt inside)]

theorem Orderly.sight_setContent (orderly : tree.Orderly) {pos : Nat}
    (there : tree.entry? loc = some (.file pos)) (bytes : List UInt8)
    (other : List String) :
    (tree.setContent pos bytes).sight? other =
      if other = loc then some (.file bytes) else tree.sight? other := by
  have mem := entry_mem there
  have same : FileTree.entry? (tree.setContent pos bytes) other = tree.entry? other := rfl
  rw [sight?, sight?, same]
  split
  case isTrue here =>
    rw [here, there, Option.map_some, sightOf, content_setContent (orderly.sound _ _ mem)]
  case isFalse elsewhere =>
    cases found : tree.entry? other with
    | none => rfl
    | some entry =>
      cases entry with
      | directory => rfl
      | file content =>
        have unlike : pos ≠ content := by
          rintro rfl
          exact elsewhere (orderly.apart (entry_mem found) mem)
        rw [Option.map_some, Option.map_some, sightOf, sightOf, content_setContent_of_ne unlike]

theorem Sound.sight_adding (sound : tree.Sound) (inside : loc ≠ []) (bytes : List UInt8)
    (other : List String) :
    (tree.adding loc bytes).sight? other =
      if other = loc then some (.file bytes) else tree.sight? other := by
  rw [sight?, sight?]
  split
  case isTrue here =>
    rw [here, entry_adding_self inside, Option.map_some, sightOf]
    simp [content, adding]
  case isFalse elsewhere =>
    rw [entry_adding_of_ne elsewhere]
    cases found : tree.entry? other with
    | none => rfl
    | some entry =>
      cases entry with
      | directory => rfl
      | file content =>
        have below := sound _ _ (entry_mem found)
        rw [Option.map_some, Option.map_some, sightOf, sightOf, content_adding_of_lt below]

theorem lookup_filter_ne (entries : List (List String × FileEntry)) (loc other : List String) :
    (entries.filter fun entry => !entry.1 == loc).lookup other =
      if other = loc then none else entries.lookup other := by
  induction entries with
  | nil => exact (ite_self none).symm
  | cons entry entries ih =>
    obtain ⟨name, entry⟩ := entry
    rw [filter_cons, lookup_cons]
    by_cases gone : name = loc
    · rw [gone, beq_self_eq_true, Bool.not_true, if_neg Bool.false_ne_true, ih]
      by_cases same : other = loc
      · rw [if_pos same, if_pos same]
      · rw [if_neg same, if_neg same, beq_false_of_ne same]
    · rw [beq_false_of_ne gone, Bool.not_false, if_pos rfl, lookup_cons, ih]
      by_cases same : other = name
      · simp only [same, beq_self_eq_true, gone, if_false]
      · rw [beq_false_of_ne same]

theorem sight_removeEntries (tree : FileTree) (inside : loc ≠ []) (other : List String) :
    (tree.removeEntries (· == loc)).sight? other =
      if other = loc then none else tree.sight? other := by
  have found : FileTree.entry? (tree.removeEntries (· == loc)) other =
      if other = loc then none else tree.entry? other := by
    unfold entry?
    rw [removeEntries, lookup_filter_ne]
    by_cases outermost : other.isEmpty = true
    · have unlike : other ≠ loc := fun same => inside (same ▸ isEmpty_iff.mp outermost)
      rw [if_pos outermost, if_neg unlike, if_pos outermost]
    · rw [if_neg outermost, if_neg outermost]
  rw [sight?, sight?, found]
  split
  · rfl
  · rfl

end Changes

/-! ## Where paths lead -/

/-- A path leads to a location: to the file there, or to room for one. -/
inductive LeadsTo (tree : FileTree) (path : String) (location : List String) : Prop where
  | file {position : Nat} (leads : tree.resolve path = .ok (.found location (.file position)))
  | room (leads : tree.resolve path = .ok (.vacant location))

section LeadsTo

variable {tree later : FileTree} {path : String} {pos : Nat} {loc : List String}

/-- A vacant place is not the working directory, which is there. -/
theorem ne_nil_of_vacant (leads : tree.resolve path = .ok (.vacant loc)) : loc ≠ [] := by
  rintro rfl
  cases entry_of_walk_vacant (walk_of_resolve leads)

/-- Of a path that leads to a location, the file there can be read as what stands there. -/
theorem LeadsTo.sight_iff (leads : tree.LeadsTo path loc)
    (notDirectory : wantsDirectory path = false) (bytes : List UInt8) :
    tree.sight? loc = some (.file bytes) ↔
      ∃ pos, tree.openForReading path = .ok pos ∧ tree.content pos = bytes := by
  cases leads with
  | @file pos leads =>
    have opens := openForReading_of_resolve notDirectory leads
    rw [sight?, entry_of_walk_file (walk_of_resolve leads), Option.map_some, sightOf, opens]
    simp only [Option.some.injEq, Sight.file.injEq, Except.ok.injEq, exists_eq_left']
  | room leads =>
    have refused : tree.openForReading path = .error (.noSuchFile path) := by
      simp only [openForReading, follow, leads]
    rw [sight?, entry_of_walk_vacant (walk_of_resolve leads), Option.map_none, refused]
    constructor
    · rintro ⟨⟩
    · rintro ⟨pos, ⟨⟩, -⟩

/-- What is written to a file that was opened anew is seen where the path leads, only there. -/
theorem Orderly.sight_written (orderly : tree.Orderly)
    (opened : tree.openForWriting path false = .ok (pos, later)) (bytes : List UInt8) :
    ∃ loc, tree.LeadsTo path loc ∧ ∀ other,
      (later.setContent pos bytes).sight? other =
        if other = loc then some (.file bytes) else tree.sight? other := by
  rcases openForWriting_cases opened with ⟨-, existing | created⟩
  · obtain ⟨loc, leads, rfl⟩ := existing
    have there := entry_of_walk_file (walk_of_resolve leads)
    have emptied := orderly.sight_setContent there []
    refine ⟨loc, .file leads, fun other => ?_⟩
    rw [if_neg Bool.false_ne_true, (kept.setContent orderly pos []).sight_setContent there, emptied]
    split
    · rfl
    · rfl
  · obtain ⟨loc, leads, rfl, rfl⟩ := created
    have inside := ne_nil_of_vacant leads
    refine ⟨loc, .room leads, fun other => ?_⟩
    rw [(kept.adding orderly loc []).sight_setContent (entry_adding_self inside []),
      orderly.sound.sight_adding inside]
    split
    · rfl
    · rfl

end LeadsTo

/-! ## Plain names -/

/-- A name that leads to a place in the working directory itself. -/
structure IsPlain (name : String) : Prop where
  notEmpty : name ≠ ""
  notHere : name ≠ "."
  notUp : name ≠ ".."
  noSlash : '/' ∉ name.toList
  noNull : Char.ofNat 0 ∉ name.toList
  short : name.utf8ByteSize ≤ longestName

/-- Where a location leads: it is found, or there is room for it. -/
def destination (tree : FileTree) (loc : List String) : Destination :=
  tree.entry? loc |>.elim (.vacant loc) (.found loc)

theorem splitAt_of_not_mem {separator : Char} {text : List Char} (absent : separator ∉ text) :
    splitAt separator text = [text] := by
  induction text with
  | nil => rfl
  | cons char text ih =>
    have unlike : char ≠ separator := fun same => absent (same ▸ mem_cons_self)
    have further := ih fun mem => absent (mem_cons_of_mem _ mem)
    rw [splitAt, if_neg (mt beq_iff_eq.mp unlike), further]

namespace IsPlain

variable {name : String} (plain : IsPlain name) {tree : FileTree}

include plain

theorem steps_eq : steps name = [name] := by
  rw [steps, splitAt_of_not_mem plain.noSlash, map_singleton, String.ofList_toList]

theorem isIdle_eq : isIdle name = false := by
  rw [isIdle, beq_false_of_ne plain.notEmpty, beq_false_of_ne plain.notHere, Bool.or_false]

theorem wantsDirectory_eq : wantsDirectory name = false := by
  rw [wantsDirectory, plain.steps_eq, List.getLast?_singleton]
  simp only [plain.isIdle_eq, beq_false_of_ne plain.notUp, Bool.or_false]

theorem endsInSlash_eq : endsInSlash name = false := by
  have unlike : (some name == some "") = false :=
    beq_false_of_ne fun same => plain.notEmpty (Option.some.inj same)
  rw [endsInSlash, plain.steps_eq, List.getLast?_singleton, unlike, Bool.false_and]

theorem resolve_eq (tree : FileTree) : tree.resolve name = .ok (tree.destination [name]) := by
  have noNull : name.toList.contains (Char.ofNat 0) = false :=
    Bool.eq_false_iff.mpr fun found => plain.noNull (contains_iff_mem.mp found)
  have notEmpty : name.isEmpty = false :=
    Bool.eq_false_iff.mpr fun empty => plain.notEmpty (String.isEmpty_iff.mp empty)
  have short : ¬longestPath < name.utf8ByteSize :=
    Nat.not_lt.mpr (Nat.le_trans plain.short (by decide))
  have kept : (steps name).filter (fun step => !isIdle step) = [name] := by
    rw [plain.steps_eq, filter_cons, plain.isIdle_eq]
    rfl
  have notUp : ¬(name == "..") = true := mt beq_iff_eq.mp plain.notUp
  rw [resolve, noNull, notEmpty, if_neg Bool.false_ne_true, if_neg Bool.false_ne_true, if_neg short,
    kept, walk, if_neg notUp, if_neg (Nat.not_lt.mpr plain.short), nil_append, destination]
  cases tree.entry? [name] with
  | none => rfl
  | some entry => cases entry <;> rfl

theorem follow_eq (tree : FileTree) : tree.follow name = .ok (tree.destination [name]) := by
  rw [follow, plain.resolve_eq, destination]
  cases tree.entry? [name] with
  | none => rfl
  | some entry =>
    cases entry with
    | directory => rfl
    | file pos =>
      simp only [Option.elim_some, plain.wantsDirectory_eq, Bool.false_eq_true, if_false]

section Missing

variable (missing : tree.entry? [name] = none)

include missing

theorem openForWriting_of_missing (keep : Bool) :
    tree.openForWriting name keep = .ok (tree.contents.size, tree.adding [name] []) := by
  simp only [openForWriting, plain.resolve_eq, destination, missing, Option.elim_none,
    plain.endsInSlash_eq, plain.wantsDirectory_eq, Bool.false_eq_true, if_false]
  rfl

theorem openForReading_of_missing : tree.openForReading name = .error (.noSuchFile name) := by
  simp only [openForReading, plain.follow_eq, destination, missing, Option.elim_none]

theorem removeFile_of_missing : tree.removeFile name = .error (.noSuchFile name) := by
  simp only [removeFile, plain.follow_eq, destination, missing, Option.elim_none]

end Missing

section Existing

variable {pos : Nat} (there : tree.entry? [name] = some (.file pos))

include there

theorem openForWriting_of_file (keep : Bool) :
    tree.openForWriting name keep = .ok (pos, if keep then tree else tree.setContent pos []) := by
  simp only [openForWriting, plain.resolve_eq, destination, there, Option.elim_some,
    plain.endsInSlash_eq, plain.wantsDirectory_eq, Bool.false_eq_true, if_false]

theorem openForReading_of_file : tree.openForReading name = .ok pos := by
  simp only [openForReading, plain.follow_eq, destination, there, Option.elim_some]

theorem removeFile_of_file :
    tree.removeFile name = .ok (tree.removeEntries (· == [name])) := by
  simp only [removeFile, plain.follow_eq, destination, there, Option.elim_some]

end Existing

theorem leadsSomewhere_eq (tree : FileTree) :
    tree.leadsSomewhere name = (tree.sight? [name]).isSome := by
  rw [leadsSomewhere, plain.follow_eq, destination, sight?, Option.isSome_map]
  cases tree.entry? [name] with
  | none => rfl
  | some entry => rfl

end IsPlain

/-! ## Texts under plain names -/

/-- Under the name there is a file with the text, or nothing if there is no text. -/
def Keeps (tree : FileTree) (name : String) (text? : Option String) : Prop :=
  tree.sight? [name] = text?.map fun text => .file (Text.Utf8.encode text)

section Keeps

variable {tree : FileTree} {name text : String} {text? : Option String}

theorem Keeps.missing (keeps : tree.Keeps name none) : tree.entry? [name] = none :=
  entry_of_sight_none keeps

theorem Keeps.existing (keeps : tree.Keeps name (some text)) :
    ∃ pos, tree.entry? [name] = some (.file pos) ∧ tree.content pos = Text.Utf8.encode text :=
  entry_of_sight_file keeps

variable (orderly : tree.Orderly) (plain : IsPlain name) (keeps : tree.Keeps name text?)

include orderly plain keeps

/-- A file that is opened for writing is there, with the text that it has if that is to be kept. -/
theorem Orderly.opened (keep : Bool) :
    ∃ pos later, tree.openForWriting name keep = .ok (pos, later) ∧ later.Orderly ∧
      later.entry? [name] = some (.file pos) ∧
      later.content pos = Text.Utf8.encode (if keep then text?.getD "" else "") ∧
      ∀ loc ≠ [name], later.sight? loc = tree.sight? loc := by
  have inside : [name] ≠ [] := cons_ne_nil _ _
  cases text? with
  | none =>
    refine ⟨_, _, plain.openForWriting_of_missing keeps.missing keep,
      kept.adding orderly _ _, entry_adding_self inside _, ?_, fun loc elsewhere => ?_⟩
    · cases keep <;> simp [content, adding, Text.Utf8.encode]
    · rw [orderly.sound.sight_adding inside, if_neg elsewhere]
  | some text =>
    obtain ⟨pos, there, holds⟩ := keeps.existing
    have opens := plain.openForWriting_of_file there keep
    cases keep with
    | true => exact ⟨pos, tree, opens, orderly, there, holds, fun _ _ => rfl⟩
    | false =>
      refine ⟨pos, tree.setContent pos [], opens, kept.setContent orderly _ _, there,
        ?_, fun loc elsewhere => ?_⟩
      · exact content_setContent (orderly.sound _ _ (entry_mem there)) []
      · rw [orderly.sight_setContent there, if_neg elsewhere]

/-- A text that is written to a file is seen there and nowhere else. -/
theorem Orderly.written (keep : Bool) (text : String) :
    ∃ pos later, tree.openForWriting name keep = .ok (pos, later) ∧
      (later.setContent pos (later.content pos ++ Text.Utf8.encode text)).Orderly ∧
      ∀ loc,
        (later.setContent pos (later.content pos ++ Text.Utf8.encode text)).sight?
            loc =
          if loc = [name] then
            some (.file (Text.Utf8.encode ((if keep then text?.getD "" else "") ++ text)))
          else tree.sight? loc := by
  rcases orderly.opened plain keeps keep with
    ⟨pos, later, opens, orderly, there, holds, elsewhere⟩
  refine ⟨pos, later, opens, kept.setContent orderly _ _, fun loc => ?_⟩
  rw [orderly.sight_setContent there, holds, ← Text.Utf8.encode_append]
  split
  case isTrue => rfl
  case isFalse unlike => exact elsewhere loc unlike

end Keeps

end FileTree

end Spellbook
