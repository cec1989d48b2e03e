import Spellbook.Proofs.Text.Utf8
import Spellbook.Proofs.World.Passage

/-!
# Files that are written and read

The name of a file stands for a position in the contents.  A tree is sound if all these positions
are there, and every tree that is made by its operations is sound (`FileTree.Built.sound`).

A path that can be opened for writing leads to the same content when it is opened for reading
afterwards, so what was written to a file is read from it, as far as its line ends allow
(`Action.readFile_of_written`).
-/

namespace Spellbook

open List

variable {keep : Bool} {pos : Nat}

namespace FileTree

variable {content : Nat} {loc : List String} {path : String} {tree : FileTree}

/-! ## Following paths -/

section Walk

variable {tree : FileTree} {path : String} {start steps loc : List String}

theorem entry_of_walk_file
    (walked : tree.walk path start steps = .ok (.found loc (.file content))) :
    tree.entry? loc = some (.file content) := by
  fun_induction tree.walk path start steps with
  | case1 => cases walked
  | case2 _ _ _ _ ih => exact ih walked
  | case3 => cases walked
  | case4 _ _ _ _ _ _ ih => exact ih walked
  | case5 _ _ _ _ _ _ there =>
    cases walked
    exact there
  | case6 => cases walked
  | case7 => cases walked
  | case8 => cases walked

theorem entry_of_walk_vacant (walked : tree.walk path start steps = .ok (.vacant loc)) :
    tree.entry? loc = none := by
  fun_induction tree.walk path start steps with
  | case1 => cases walked
  | case2 _ _ _ _ ih => exact ih walked
  | case3 => cases walked
  | case4 _ _ _ _ _ _ ih => exact ih walked
  | case5 => cases walked
  | case6 => cases walked
  | case7 _ _ _ _ _ missing =>
    cases walked
    exact missing
  | case8 => cases walked

theorem walk_setContent (tree : FileTree) (pos : Nat) (bytes : List UInt8) :
    (tree.setContent pos bytes).walk path start steps = tree.walk path start steps := by
  have same (loc : List String) :
      FileTree.entry? (tree.setContent pos bytes) loc = tree.entry? loc := rfl
  induction steps generalizing start with
  | nil => rfl
  | cons step others ih => simp only [walk, same, ih]

end Walk

/-- A tree with one more file. -/
def adding (tree : FileTree) (loc : List String) (bytes : List UInt8) : FileTree where
  entries := (loc, .file tree.contents.size) :: tree.entries
  contents := tree.contents.push bytes

section Adding

variable {tree : FileTree} {path : String} {start steps loc : List String}

theorem entry_adding_self (inside : loc ≠ []) (bytes : List UInt8) :
    FileTree.entry? (tree.adding loc bytes) loc = some (.file tree.contents.size) := by
  unfold entry?
  rw [if_neg (mt List.isEmpty_iff.mp inside), adding, lookup_cons_self]

theorem entry_adding_of_ne {other : List String} (unlike : other ≠ loc) (bytes : List UInt8) :
    FileTree.entry? (tree.adding loc bytes) other = tree.entry? other := by
  unfold entry?
  rw [adding, lookup_cons, beq_false_of_ne unlike]

/-- Names that led to a vacant place lead to the file that was put there. -/
theorem walk_adding (walked : tree.walk path start steps = .ok (.vacant loc)) (bytes : List UInt8) :
    (tree.adding loc bytes).walk path start steps =
      .ok (.found loc (.file tree.contents.size)) := by
  have missing := entry_of_walk_vacant walked
  -- The directories on the way are there already, so none of them is the new name.
  have elsewhere {other : List String} {entry : FileEntry}
      (there : tree.entry? other = some entry) :
      FileTree.entry? (tree.adding loc bytes) other = some entry := by
    rw [entry_adding_of_ne _ bytes, there]
    rintro rfl
    cases there.symm.trans missing
  fun_induction tree.walk path start steps with
  | case1 => cases walked
  | case2 start step others up ih => rw [walk, if_pos up, ih walked]
  | case3 => cases walked
  | case4 start step others notUp short there ih =>
    rw [walk, if_neg notUp, if_neg short, elsewhere there]
    exact ih walked
  | case5 => cases walked
  | case6 => cases walked
  | case7 start step others notUp short missing last =>
    cases walked
    rw [walk, if_neg notUp, if_neg short, entry_adding_self (by simp)]
    exact if_pos last
  | case8 => cases walked

end Adding

/-! ## Opening files -/

section Opening

variable {destination : Destination}

variable {tree later : FileTree} {path : String} {keep : Bool} {pos : Nat}

/-- A file is opened for writing where it is, or where there is room for it. -/
theorem openForWriting_cases (opened : tree.openForWriting path keep = .ok (pos, later)) :
    wantsDirectory path = false ∧
      ((∃ loc, tree.resolve path = .ok (.found loc (.file pos)) ∧
          later = if keep then tree else tree.setContent pos []) ∨
        ∃ loc, tree.resolve path = .ok (.vacant loc) ∧
          pos = tree.contents.size ∧ later = tree.adding loc []) := by
  unfold openForWriting at opened
  split at opened
  case h_1 => cases opened
  case h_2 => cases opened
  case h_3 loc content leads =>
    split at opened
    · cases opened
    split at opened
    case isTrue => cases opened
    case isFalse notDirectory =>
      cases opened
      exact ⟨Bool.eq_false_iff.mpr notDirectory, Or.inl ⟨loc, leads, rfl⟩⟩
  case h_4 loc leads =>
    split at opened
    · cases opened
    split at opened
    case isTrue => cases opened
    case isFalse notDirectory =>
      cases opened
      exact ⟨Bool.eq_false_iff.mpr notDirectory, Or.inr ⟨loc, leads, rfl, rfl⟩⟩

/-- If a path leads anywhere in one tree, it can be followed in all of them. -/
theorem resolve_of_ok (leads : tree.resolve path = .ok destination) (other : FileTree) :
    other.resolve path = other.walk path [] ((steps path).filter fun step => !isIdle step) := by
  unfold resolve at leads ⊢
  split at leads
  case isTrue => cases leads
  split at leads
  case isTrue => cases leads
  split at leads
  case isTrue => cases leads
  case isFalse noNull notEmpty short => rw [if_neg noNull, if_neg notEmpty, if_neg short]

theorem walk_of_resolve (leads : tree.resolve path = .ok destination) :
    tree.walk path [] ((steps path).filter fun step => !isIdle step) = .ok destination :=
  (resolve_of_ok leads tree).symm.trans leads

theorem resolve_adding (leads : tree.resolve path = .ok (.vacant loc)) (bytes : List UInt8) :
    (tree.adding loc bytes).resolve path = .ok (.found loc (.file tree.contents.size)) := by
  rw [resolve_of_ok leads, walk_adding (walk_of_resolve leads)]

theorem resolve_setContent (leads : tree.resolve path = .ok destination) (pos : Nat)
    (bytes : List UInt8) :
    (tree.setContent pos bytes).resolve path = .ok destination := by
  rw [resolve_of_ok leads, walk_setContent, walk_of_resolve leads]

theorem openForReading_of_resolve (notDirectory : wantsDirectory path = false)
    (leads : tree.resolve path = .ok (.found loc (.file pos))) :
    tree.openForReading path = .ok pos := by
  simp only [openForReading, follow, leads, notDirectory, Bool.false_eq_true, if_false]

/-- A file that was opened for writing is opened for reading, whatever was written to it. -/
theorem openForReading_of_openForWriting
    (opened : tree.openForWriting path keep = .ok (pos, later)) (bytes : List UInt8) :
    (later.setContent pos bytes).openForReading path = .ok pos := by
  rcases openForWriting_cases opened with ⟨notDirectory, existing | created⟩
  · obtain ⟨loc, leads, rfl⟩ := existing
    apply openForReading_of_resolve notDirectory
    apply resolve_setContent
    cases keep with
    | true => exact leads
    | false => exact resolve_setContent leads _ _
  · obtain ⟨loc, leads, rfl, rfl⟩ := created
    apply openForReading_of_resolve notDirectory
    exact resolve_setContent (resolve_adding leads _) _ _

theorem content_setContent (inside : pos < tree.contents.size) (bytes : List UInt8) :
    (tree.setContent pos bytes).content pos = bytes := by
  simp [content, setContent, inside, Array.getElem_modify_self]

/-- A file that is not kept is empty at first. -/
theorem content_of_openForWriting (opened : tree.openForWriting path false = .ok (pos, later)) :
    later.content pos = [] := by
  rcases openForWriting_cases opened with ⟨-, existing | created⟩
  · obtain ⟨loc, leads, rfl⟩ := existing
    simp only [content, setContent, Bool.false_eq_true, if_false, Array.getElem?_modify, if_true]
    cases tree.contents[pos]? <;> rfl
  · obtain ⟨loc, leads, rfl, rfl⟩ := created
    simp [content, adding]

end Opening

/-! ## Trees that operations make -/

/-- A property of trees that all changes keep. -/
structure Kept (property : FileTree → Prop) : Prop where
  setContent {tree : FileTree} (holds : property tree) (position : Nat) (bytes : List UInt8) :
    property (tree.setContent position bytes)
  removeEntries {tree : FileTree} (holds : property tree) (gone : List String → Bool) :
    property (tree.removeEntries gone)
  addDirectory {tree : FileTree} (holds : property tree) (location : List String) :
    property { tree with entries := (location, .directory) :: tree.entries }
  adding {tree : FileTree} (holds : property tree) (location : List String) (bytes : List UInt8) :
    property (tree.adding location bytes)

namespace Kept

variable {property : FileTree → Prop} (kept : Kept property) {tree later : FileTree}
  (holds : property tree)

include kept holds

theorem makeDirectories (loc steps : List String) :
    property (tree.makeDirectories loc steps) := by
  induction steps generalizing tree loc with
  | nil => exact holds
  | cons step others ih =>
    rw [FileTree.makeDirectories]
    apply ih
    split
    · exact holds
    · exact kept.addDirectory holds _

theorem place (path : String) (bytes : List UInt8) : property (tree.place path bytes) := by
  rw [FileTree.place]
  have made := kept.makeDirectories holds [] ((steps path).filter fun step => !isIdle step).dropLast
  split
  · exact kept.setContent made _ _
  · exact made
  · exact kept.adding made _ _

theorem openForWriting (opened : tree.openForWriting path keep = .ok (pos, later)) :
    property later := by
  rcases openForWriting_cases opened with ⟨-, existing | created⟩
  · obtain ⟨loc, leads, rfl⟩ := existing
    cases keep with
    | true => exact holds
    | false => exact kept.setContent holds _ _
  · obtain ⟨loc, leads, rfl, rfl⟩ := created
    exact kept.adding holds _ _

theorem removeFile (removed : tree.removeFile path = .ok later) : property later := by
  unfold FileTree.removeFile at removed
  split at removed
  case h_1 =>
    cases removed
    exact kept.removeEntries holds _
  all_goals cases removed

theorem removeTree (removed : tree.removeTree path = .ok later) : property later := by
  unfold FileTree.removeTree at removed
  split at removed
  case h_1 =>
    cases removed
    exact kept.removeEntries holds _
  all_goals cases removed

theorem foldl_copyEntry (source target : List String) (entries : List (List String × FileEntry)) :
    property (entries.foldl (FileTree.copyEntry source target) tree) := by
  induction entries generalizing tree with
  | nil => exact holds
  | cons entry entries ih =>
    refine ih ?_
    rw [FileTree.copyEntry]
    split
    · exact kept.makeDirectories holds _ _
    · exact kept.adding holds _ _

theorem copyTree {source target : String} (copied : tree.copyTree source target = .ok later) :
    property later := by
  unfold FileTree.copyTree at copied
  split at copied
  case h_4 =>
    split at copied
    case h_3 =>
      cases copied
      exact kept.foldl_copyEntry (kept.makeDirectories holds _ _) _ _ _
    all_goals cases copied
  all_goals cases copied

end Kept

/-- A tree that its operations make, starting from nothing. -/
inductive Built : FileTree → Prop where
  | empty : Built {}
  | place {tree : FileTree} (built : Built tree) (path : String) (bytes : List UInt8) :
      Built (tree.place path bytes)
  | placeDirectory {tree : FileTree} (built : Built tree) (path : String) :
      Built (tree.placeDirectory path)
  | setContent {tree : FileTree} (built : Built tree) (position : Nat) (bytes : List UInt8) :
      Built (tree.setContent position bytes)
  | openForWriting {tree later : FileTree} (built : Built tree) {path : String} {keep : Bool}
      {position : Nat} (opened : tree.openForWriting path keep = .ok (position, later)) :
      Built later
  | removeFile {tree later : FileTree} (built : Built tree) {path : String}
      (removed : tree.removeFile path = .ok later) : Built later
  | removeTree {tree later : FileTree} (built : Built tree) {path : String}
      (removed : tree.removeTree path = .ok later) : Built later
  | copyTree {tree later : FileTree} (built : Built tree) {source target : String}
      (copied : tree.copyTree source target = .ok later) : Built later

/-- What holds of the empty tree and is kept by changes holds of every tree that is made. -/
theorem Kept.of_built {property : FileTree → Prop} (kept : Kept property) (empty : property {})
    (built : Built tree) :
    property tree := by
  induction built with
  | empty => exact empty
  | place built path bytes holds => exact kept.place holds path bytes
  | placeDirectory built path holds => exact kept.makeDirectories holds _ _
  | setContent built pos bytes holds => exact kept.setContent holds pos bytes
  | openForWriting built opened holds => exact kept.openForWriting holds opened
  | removeFile built removed holds => exact kept.removeFile holds removed
  | removeTree built removed holds => exact kept.removeTree holds removed
  | copyTree built copied holds => exact kept.copyTree holds copied

/-! ## Sound trees -/

/-- Every file has a content. -/
def Sound (tree : FileTree) : Prop :=
  ∀ loc content, (loc, .file content) ∈ tree.entries → content < tree.contents.size

theorem entry_mem (there : tree.entry? loc = some (.file content)) :
    (loc, .file content) ∈ tree.entries := by
  unfold entry? at there
  split at there
  case isTrue => cases there
  case isFalse =>
    obtain ⟨before, after, parts, -⟩ := lookup_eq_some_iff.mp there
    rw [parts]
    exact mem_append_right before mem_cons_self

namespace Sound

theorem kept : Kept Sound where
  setContent sound pos bytes loc content member := by
    have inside := sound loc content member
    simpa [FileTree.setContent] using inside
  removeEntries sound gone loc content member :=
    sound loc content (mem_filter.mp member).1
  -- A directory has no content.
  addDirectory sound loc other content member := by
    rcases mem_cons.mp member with same | member
    · cases same
    · exact sound other content member
  -- A new file has the content that is added with it.
  adding sound loc bytes other content member := by
    rw [FileTree.adding, Array.size_push]
    rcases mem_cons.mp member with same | member
    · cases same
      exact Nat.lt_succ_self _
    · exact Nat.lt_succ_of_lt (sound other content member)

variable {tree later : FileTree} (sound : tree.Sound)

include sound

theorem lt_of_resolve (leads : tree.resolve path = .ok (.found loc (.file pos))) :
    pos < tree.contents.size :=
  sound loc pos (entry_mem (entry_of_walk_file (walk_of_resolve leads)))

theorem openForWriting (opened : tree.openForWriting path keep = .ok (pos, later)) :
    later.Sound ∧ pos < later.contents.size := by
  refine ⟨kept.openForWriting sound opened, ?_⟩
  rcases openForWriting_cases opened with ⟨-, existing | created⟩
  · obtain ⟨loc, leads, rfl⟩ := existing
    have inside := sound.lt_of_resolve leads
    cases keep with
    | true => exact inside
    | false => simpa [FileTree.setContent] using inside
  · obtain ⟨loc, leads, rfl, rfl⟩ := created
    simp [FileTree.adding]

end Sound

/-- Every tree that is made by operations is sound. -/
theorem Built.sound (built : Built tree) : tree.Sound :=
  Sound.kept.of_built (fun _ _ mem => absurd mem not_mem_nil) built

end FileTree

/-! ## Texts of files -/

/-- What was encoded is read with its line ends unified. -/
theorem FileHandle.readAll_encode (content : Nat) (text : String) :
    (FileHandle.readAll { content, mode := .reading } (Text.Utf8.encode text)).2 =
      .ok (String.ofList (Text.unifyNewlines text.toList)) := by
  have decoded := Text.Utf8.decode_encode text
  simp only [readAll, readable, receive, drop_zero, nil_append, decoded, accept]
  rfl

/-- The world after a text became the content at a position of a tree. -/
def World.afterWriting (world : World) (files : FileTree) (pos : Nat) (text : String) :
    World :=
  { world with files := files.setContent pos (Text.Utf8.encode text) }

namespace Action

variable {files : FileTree}

variable {world : World} {path : String}

theorem checkAccess_of_allowed (allowed : world.denied.contains path = false) :
    checkAccess path world = .ok () world := by
  have looked : checkAccess path world =
      (if world.denied.contains path then fault (.permissionDenied path) else pure ()) world := rfl
  rw [looked, allowed]
  rfl

theorem checkAccess_of_denied (denied : world.denied.contains path = true) :
    checkAccess path world = .error (.fault (.permissionDenied path)) world := by
  have looked : checkAccess path world =
      (if world.denied.contains path then fault (.permissionDenied path) else pure ()) world := rfl
  rw [looked, denied]
  rfl

theorem openForWriting_of_opened (allowed : world.denied.contains path = false)
    (opened : world.files.openForWriting path keep = .ok (pos, files)) :
    openForWriting path keep world = .ok pos { world with files } := by
  rw [openForWriting, bind_of_ok (checkAccess_of_allowed allowed)]
  change (ofResult (world.files.openForWriting path keep) >>= _) world = _
  rw [opened]
  rfl

/-- Nothing has changed if a file could not be opened for writing. -/
theorem openForWriting_of_blocked (blocked : world.denied.contains path = false →
      ∀ opened, world.files.openForWriting path keep ≠ .ok opened) :
    ∃ failure, openForWriting path keep world = .error (.fault failure) world := by
  cases access : world.denied.contains path with
  | true =>
    rw [openForWriting, bind_of_error (checkAccess_of_denied access)]
    exact ⟨_, rfl⟩
  | false =>
    rw [openForWriting, bind_of_ok (checkAccess_of_allowed access)]
    change ∃ failure, (ofResult (world.files.openForWriting path keep) >>= _) world = _
    cases refused : world.files.openForWriting path keep with
    | ok opened => exact (blocked access opened refused).elim
    | error failure => exact ⟨failure, rfl⟩

/-- A text is written after what is left of the content. -/
theorem writeFile_of_keep (allowed : world.denied.contains path = false)
    (opened : world.files.openForWriting path keep = .ok (pos, files)) (text : String) :
    writeFile path keep text world = .ok () { world with
      files := files.setContent pos (files.content pos ++ Text.Utf8.encode text) } := by
  rw [writeFile, bind_of_ok (openForWriting_of_opened allowed opened)]
  rfl

/-- A text that is written anew becomes all of the content. -/
theorem writeFile_of_opened (allowed : world.denied.contains path = false)
    (opened : world.files.openForWriting path false = .ok (pos, files)) (text : String) :
    writeFile path false text world = .ok () (world.afterWriting files pos text) := by
  rw [writeFile_of_keep allowed opened, FileTree.content_of_openForWriting opened, nil_append]
  rfl

theorem readFile_of_opened (allowed : world.denied.contains path = false)
    (opened : world.files.openForReading path = .ok pos) {text : String}
    (holds : world.files.content pos = Text.Utf8.encode text) :
    readFile path world = .ok (String.ofList (Text.unifyNewlines text.toList)) world := by
  have begun : openForReading path world = .ok pos world := by
    rw [openForReading, bind_of_ok (checkAccess_of_allowed allowed)]
    change ofResult (world.files.openForReading path) world = _
    rw [opened]
    rfl
  rw [readFile, bind_of_ok begun]
  change ofResult (FileHandle.readAll { content := pos, mode := .reading }
    (world.files.content pos)).2 world = _
  rw [holds, FileHandle.readAll_encode]
  rfl

/-- What was written to a file is read from it. -/
theorem readFile_of_written (allowed : world.denied.contains path = false)
    (opened : world.files.openForWriting path false = .ok (pos, files))
    (sound : world.files.Sound) (text : String) :
    readFile path (world.afterWriting files pos text) =
      .ok (String.ofList (Text.unifyNewlines text.toList)) (world.afterWriting files pos text) := by
  apply readFile_of_opened
  · exact allowed
  · exact FileTree.openForReading_of_openForWriting opened _
  · exact FileTree.content_setContent (sound.openForWriting opened).2 _

end Action

end Spellbook
