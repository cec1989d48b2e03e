import Spellbook.Proofs.Json.Scalar
import Spellbook.Proofs.Store.Descent

/-!
# Data in JSON and back

Data of void, truth values, integers, texts, lists, and dictionaries whose keys are texts have one
JSON text in each layout (`Json.written`). The writer completes it, unless an integer is too long,
and the reader gives the data back. As much budget as there are characters is enough for it.
-/

namespace Spellbook

open List

/-! ## Data that JSON has a form for -/

/-- Data that are the same after they were written and read. -/
inductive Datum.Saveable : Datum → Prop where
  | void : Saveable .void
  | charm (truth : Bool) : Saveable (.charm truth)
  | rune (integer : Int) : Saveable (.rune integer)
  | scroll (text : String) : Saveable (.scroll text)
  | list {items : List Datum} (each : ∀ item ∈ items, Saveable item) : Saveable (.list items)
  | record {entries : List (String × Datum)} (values : ∀ entry ∈ entries, Saveable entry.2)
      (distinct : (entries.map Prod.fst).Nodup) : Saveable (.record entries)

namespace Json

variable {items : List Datum} {entry : String × Datum} {entries : List (String × Datum)}
  {datum item : Datum} {layout : Layout} {level budget : Nat} {text part : List Char}
  {closing : Char}

/-- Parts between brackets, with the line breaks of a layout. -/
def enclosed (layout : Layout) (level : Nat) (opening closing : Char) :
    List (List Char) → List Char
  | [] => [opening, closing]
  | part :: parts =>
    opening :: (layout.lineBreak (level + 1) ++ (part ++
      (parts.flatMap (layout.separator (level + 1) ++ ·) ++ (layout.lineBreak level ++ [closing]))))

mutual

/-- The JSON text of data at a level of nesting. -/
def written (layout : Layout) (level : Nat) : Datum → List Char
  | .void => "null".toList
  | .charm truth => (if truth then "true" else "false").toList
  | .rune int => (Number.integerText int).toList
  | .scroll text => quoted text
  | .list items => enclosed layout level '[' ']' (writtenItems layout (level + 1) items)
  | .dict entries => enclosed layout level '\x7b' '\x7d' (writtenEntries layout (level + 1) entries)
  | _ => []

def writtenItems (layout : Layout) (level : Nat) : List Datum → List (List Char)
  | [] => []
  | item :: items => written layout level item :: writtenItems layout level items

def writtenEntries (layout : Layout) (level : Nat) : List (Datum × Datum) → List (List Char)
  | [] => []
  | (key, value) :: entries =>
    (written layout level key ++ (':' :: ' ' :: written layout level value)) ::
      writtenEntries layout level entries

end

/-- An entry whose key is a text, with a text for its value. -/
def entryText {α : Type} (write : α → List Char) (entry : String × α) : List Char :=
  quoted entry.1 ++ (':' :: ' ' :: write entry.2)

section Written

variable (layout : Layout) (level : Nat)

theorem writtenItems_eq_map (items : List Datum) :
    writtenItems layout level items = items.map (written layout level) := by
  induction items with
  | nil => rfl
  | cons item items ih => rw [writtenItems, ih, map_cons]

theorem written_list (items : List Datum) :
    written layout level (.list items) =
      enclosed layout level '[' ']' (items.map (written layout (level + 1))) := by
  rw [written, writtenItems_eq_map]

theorem writtenEntries_eq_map (entries : List (String × Datum)) :
    writtenEntries layout level (entries.map fun entry => (.scroll entry.1, entry.2)) =
      entries.map (entryText (written layout level)) := by
  induction entries with
  | nil => rfl
  | cons entry entries ih =>
    rw [map_cons, writtenEntries, ih, written]
    rfl

theorem written_record (entries : List (String × Datum)) :
    written layout level (.record entries) =
      enclosed layout level '\x7b' '\x7d'
        (entries.map (entryText (written layout (level + 1)))) := by
  rw [Datum.record, written]
  exact congrArg _ (writtenEntries_eq_map layout (level + 1) entries)

end Written

/-! ## Writing -/

/-- A draft that holds all of a text, or ends at an integer that is too long. -/
inductive Drafted : (overlong : Bool) → (text : List Char) → Draft → Prop where
  | complete (text : List Char) : Drafted false text { text }
  | broken (text begun : List Char) :
      Drafted true text { text := begun, fault := some .tooLongToWrite }

namespace Drafted

variable {overlong overlongNext : Bool} {text textNext : List Char} {draft draftNext : Draft}

theorem eq_complete (drafted : Drafted false text draft) : draft = { text } := by
  cases drafted
  rfl

theorem exists_broken (drafted : Drafted true text draft) :
    ∃ begun, draft = { text := begun, fault := some .tooLongToWrite } := by
  cases drafted with
  | broken _ begun => exact ⟨begun, rfl⟩

theorem andThen (first : Drafted overlong text draft)
    (next : Drafted overlongNext textNext draftNext) :
    Drafted (overlong || overlongNext) (text ++ textNext) (draft.andThen draftNext) := by
  cases first with
  | broken => exact .broken _ _
  | complete =>
    cases next with
    | broken => exact .broken _ _
    | complete => exact .complete _

theorem leading (drafted : Drafted overlong text draft) (lead : List Char) (datum : Datum) :
    Drafted overlong (lead ++ text) (leading lead datum draft) := by
  cases drafted with
  | broken => cases datum <;> exact .broken _ _
  | complete => cases datum <;> exact .complete _

end Drafted

section Drafted

variable {layout : Layout} {level : Nat} {overlong : Datum → Bool} {write : Datum → List Char}

theorem drafted_items
    (each : ∀ item ∈ items, Drafted (overlong item) (write item) (draft layout level item)) :
    Drafted (items.any overlong) ((items.map write).flatMap (layout.separator level ++ ·))
      (draftItems layout level items) := by
  induction items with
  | nil =>
    rw [draftItems]
    exact .complete []
  | cons item items ih =>
    obtain ⟨first, others⟩ := forall_mem_cons.mp each
    rw [draftItems, any_cons, map_cons, flatMap_cons]
    exact (first.leading _ item).andThen (ih others)

theorem drafted_list
    (each : ∀ item ∈ items, Drafted (overlong item) (write item) (draft layout (level + 1) item)) :
    Drafted (items.any overlong) (enclosed layout level '[' ']' (items.map write))
      (draft layout level (.list items)) := by
  cases items with
  | nil =>
    rw [draft]
    exact .complete ['[', ']']
  | cons item items =>
    obtain ⟨first, others⟩ := forall_mem_cons.mp each
    have all := (first.leading ('[' :: layout.lineBreak (level + 1)) item).andThen
      ((drafted_items others).andThen (.complete (layout.lineBreak level ++ [']'])))
    rw [Bool.or_false, cons_append, cons_append, append_assoc] at all
    rw [draft]
    exact all

theorem drafted_entry (lead : List Char)
    (value : Drafted (overlong entry.2) (write entry.2) (draft layout level entry.2)) :
    Drafted (overlong entry.2) (lead ++ entryText write entry)
      (draftEntry layout level lead (.scroll entry.1, entry.2)) := by
  have all := (Drafted.complete (lead ++ quoted entry.1 ++ [':', ' '])).andThen value
  rw [Bool.false_or, append_assoc, append_assoc] at all
  rw [draftEntry]
  exact all

theorem drafted_entries (each : ∀ entry ∈ entries,
      Drafted (overlong entry.2) (write entry.2) (draft layout level entry.2)) :
    Drafted (entries.any fun entry => overlong entry.2)
      ((entries.map (entryText write)).flatMap (layout.separator level ++ ·))
      (draftEntries layout level (entries.map fun entry => (.scroll entry.1, entry.2))) := by
  induction entries with
  | nil =>
    rw [map_nil, map_nil, draftEntries]
    exact .complete []
  | cons entry entries ih =>
    obtain ⟨first, others⟩ := forall_mem_cons.mp each
    rw [map_cons, map_cons, draftEntries, any_cons, flatMap_cons]
    exact (drafted_entry _ first).andThen (ih others)

theorem isOverlong_record (entries : List (String × Datum)) :
    (Datum.record entries).isOverlong = entries.any fun entry => entry.2.isOverlong := by
  rw [Datum.record, Datum.isOverlong, Datum.anyEntryOverlong_eq_any, any_map]
  congr 1

theorem drafted_record (each : ∀ entry ∈ entries,
      Drafted (overlong entry.2) (write entry.2) (draft layout (level + 1) entry.2)) :
    Drafted (entries.any fun entry => overlong entry.2)
      (enclosed layout level '\x7b' '\x7d' (entries.map (entryText write)))
      (draft layout level (.record entries)) := by
  cases entries with
  | nil =>
    rw [Datum.record, map_nil, map_nil, draft]
    exact .complete ['\x7b', '\x7d']
  | cons entry entries =>
    obtain ⟨first, others⟩ := forall_mem_cons.mp each
    have all := (Drafted.complete ('\x7b' :: layout.lineBreak (level + 1))).andThen
      ((drafted_entry [] first).andThen
        ((drafted_entries others).andThen (.complete (layout.lineBreak level ++ ['\x7d']))))
    rw [Bool.or_false, Bool.false_or, nil_append, cons_append] at all
    rw [Datum.record, map_cons, map_cons, draft]
    exact all

end Drafted

/-- Saveable data are written, unless an integer is too long. -/
theorem drafted_of_saveable (saveable : datum.Saveable) (layout : Layout) (level : Nat) :
    Drafted datum.isOverlong (written layout level datum) (draft layout level datum) := by
  induction saveable generalizing level with
  | void | scroll text =>
    rw [draft, written]
    exact .complete _
  | charm truth =>
    rw [draft, written]
    exact .complete _
  | rune int =>
    rw [draft, written, Datum.isOverlong, integerDraft]
    cases Number.isWritable int with
    | true => exact .complete _
    | false => exact .broken _ _
  | list each ih =>
    rw [Datum.isOverlong, Datum.anyOverlong_eq_any, written_list]
    exact drafted_list fun item mem => ih item mem (level + 1)
  | record values distinct ih =>
    rw [isOverlong_record, written_record]
    exact drafted_record fun entry mem => ih entry mem (level + 1)

/-! ## Steps of the reader -/

section Steps

variable {budget : Nat} {text rest others : List Char}

theorem ok_bind {α β : Type} (result : α) (next : α → Except Flaw β) :
    (Except.ok result >>= next) = next result := rfl

/-- The entries of a dictionary from one that was read on. -/
def entriesFrom (budget : Nat) (entry : Datum × Datum) (rest : List Char) :
    Except Flaw (List (Datum × Datum) × List Char) :=
  match skipBlanks rest with
  | '\x7d' :: others => .ok ([entry], others)
  | ',' :: others => do
    let (entries, others) ← readEntries budget (skipBlanks others)
    return (entry :: entries, others)
  | others => flawAt "Expecting ',' delimiter" others

theorem readValue_entries {entries : List (Datum × Datum)} (starts : skipBlanks text = others)
    (notEmpty : ∀ rest, others ≠ '\x7d' :: rest)
    (inside : readEntries budget others = .ok (entries, rest)) :
    readValue (budget + 1) ('\x7b' :: text) = .ok (.dict entries, rest) := by
  rw [readValue, starts]
  split
  case h_1 => exact absurd rfl (notEmpty _)
  case h_2 =>
    rw [inside]
    rfl

theorem readValue_items (starts : skipBlanks text = others)
    (notEmpty : ∀ rest, others ≠ ']' :: rest)
    (inside : readItems budget others = .ok (items, rest)) :
    readValue (budget + 1) ('[' :: text) = .ok (.list items, rest) := by
  rw [readValue, starts]
  split
  case h_1 => exact absurd rfl (notEmpty _)
  case h_2 =>
    rw [inside]
    rfl

end Steps

/-! ## Reading -/

theorem isBlank_of_mem_lineBreak :
    ∀ char ∈ layout.lineBreak level, isBlank char = true := by
  intro char mem
  cases layout with
  | compact => cases mem
  | lines =>
    rcases mem_cons.mp mem with rfl | mem
    · rfl
    · rw [(mem_replicate.mp mem).2]
      rfl

theorem exists_separator (layout : Layout) (level : Nat) :
    ∃ blanks, layout.separator level = ',' :: blanks ∧ ∀ char ∈ blanks, isBlank char = true := by
  cases layout with
  | compact => exact ⟨[' '], rfl, forall_mem_singleton.mpr rfl⟩
  | lines => exact ⟨_, rfl, isBlank_of_mem_lineBreak⟩

theorem skipBlanks_lineBreak (stops : ∀ first ∈ text.head?, isBlank first = false) :
    skipBlanks (layout.lineBreak level ++ text) = text :=
  dropWhile_run isBlank_of_mem_lineBreak stops

theorem skipBlanks_closing (closes : closing = ']' ∨ closing = '\x7d') (rest : List Char) :
    skipBlanks (layout.lineBreak level ++ closing :: rest) = closing :: rest := by
  apply skipBlanks_lineBreak
  rcases closes with rfl | rfl <;>
    · rintro - ⟨⟩
      rfl

/-- What stands after a part between brackets ends a number. -/
theorem parted_tail {below : Nat} (closes : closing = ']' ∨ closing = '\x7d')
    (parts : List (List Char)) (rest : List Char) :
    Parted (parts.flatMap (layout.separator level ++ ·) ++
      (layout.lineBreak below ++ closing :: rest)) := by
  intro first mem
  cases parts with
  | cons part parts =>
    obtain ⟨blanks, separator, -⟩ := exists_separator layout level
    rw [flatMap_cons, separator] at mem
    cases mem
    rfl
  | nil =>
    cases layout with
    | lines =>
      cases mem
      rfl
    | compact =>
      cases mem
      rcases closes with rfl | rfl <;> rfl

/-- A text that is read as a datum wherever it stands. -/
structure Legible (text : List Char) (datum : Datum) : Prop where
  starts : ∃ first others, text = first :: others ∧ isBlank first = false ∧ first ≠ ']'
  reads : ∀ {budget : Nat} {rest : List Char}, Parted rest → text.length ≤ budget →
    readValue budget (text ++ rest) = .ok (datum, rest)
  plain : text.all isPlain = true

namespace Legible

variable {text : List Char} {datum : Datum} (legible : Legible text datum)

include legible

theorem length_pos : 0 < text.length := by
  obtain ⟨first, others, rfl, -⟩ := legible.starts
  exact Nat.succ_pos _

theorem head_not_blank (rest : List Char) :
    ∀ first ∈ (text ++ rest).head?, isBlank first = false := by
  obtain ⟨first, others, rfl, notBlank, -⟩ := legible.starts
  intro head mem
  cases mem
  exact notBlank

theorem ne_closing (rest : List Char) : ∀ others, text ++ rest ≠ ']' :: others := by
  obtain ⟨first, others, rfl, -, notClosing⟩ := legible.starts
  rintro - ⟨⟩
  exact notClosing rfl

end Legible

section Items

variable {rest : List Char}

variable {layout : Layout} {level below : Nat} {write : Datum → List Char}

/-- What follows a part is read after a comma and blanks. -/
theorem skipBlanks_separator (starts : ∀ tail : List Char,
      ∀ first ∈ (part ++ tail).head?, isBlank first = false)
    (parts : List (List Char)) (tail : List Char) :
    ∃ others,
      skipBlanks ((part :: parts).flatMap (layout.separator level ++ ·) ++ tail) = ',' :: others ∧
        skipBlanks others = part ++ (parts.flatMap (layout.separator level ++ ·) ++ tail) := by
  obtain ⟨blanks, separator, blank⟩ := exists_separator layout level
  refine ⟨blanks ++ (part ++ (parts.flatMap (layout.separator level ++ ·) ++ tail)), ?_, ?_⟩
  · rw [flatMap_cons, separator, append_assoc, append_assoc]
    rfl
  · exact dropWhile_run blank (starts _)

theorem readItems_written (first : Legible (write item) item)
    (others : ∀ item ∈ items, Legible (write item) item)
    (enough : (write item ++
      (items.map write).flatMap (layout.separator level ++ ·)).length < budget) :
    readItems budget (write item ++ ((items.map write).flatMap (layout.separator level ++ ·) ++
      (layout.lineBreak below ++ ']' :: rest))) = .ok (item :: items, rest) := by
  -- Every further item takes one of the budget and has at least the character of its separator.
  induction items generalizing item budget with
  | nil =>
    rcases budget with - | budget
    · cases enough
    rw [length_append] at enough
    rw [readItems, first.reads (parted_tail (Or.inl rfl) _ _) (by omega), ok_bind]
    dsimp only
    rw [map_nil, flatMap_nil, nil_append, skipBlanks_closing (Or.inl rfl)]
    rfl
  | cons next items ih =>
    rcases budget with - | budget
    · cases enough
    obtain ⟨second, others⟩ := forall_mem_cons.mp others
    rw [length_append, map_cons, flatMap_cons, append_assoc, length_append] at enough
    rcases skipBlanks_separator second.head_not_blank (items.map write)
      (layout.lineBreak below ++ ']' :: rest) with ⟨more, goesOn, starts⟩
    rw [readItems, first.reads (parted_tail (Or.inl rfl) _ _) (by omega), ok_bind]
    dsimp only
    rw [map_cons, goesOn]
    change (readItems budget (skipBlanks more) >>= _) = _
    rw [starts, ih second others (by have := first.length_pos; omega)]
    rfl

end Items

section Entries

variable {α : Type} {write : α → List Char} {value : α → Datum} {entry : String × α}
  {entries : List (String × α)} {rest : List Char} {layout : Layout} {level below : Nat}

theorem entryText_append (entry : String × α) (rest : List Char) :
    entryText write entry ++ rest =
      '"' :: (entry.1.toList.flatMap escapeChar ++
        '"' :: ':' :: ' ' :: (write entry.2 ++ rest)) := by
  simp only [entryText, quoted, cons_append, nil_append, append_assoc]

theorem entryText_not_blank (entry : String × α) (rest : List Char) :
    ∀ first ∈ (entryText write entry ++ rest).head?, isBlank first = false := by
  rw [entryText_append]
  rintro - ⟨⟩
  rfl

theorem length_lt_entryText (entry : String × α) :
    (write entry.2).length < (entryText write entry).length := by
  simp only [entryText, length_append, length_cons]
  omega

theorem readEntries_entryText (legible : Legible (write entry.2) (value entry.2))
    (parted : Parted rest) (enough : (write entry.2).length ≤ budget) :
    readEntries (budget + 1) (entryText write entry ++ rest) =
      entriesFrom budget (.scroll entry.1, value entry.2) rest := by
  have text : skipBlanks (' ' :: (write entry.2 ++ rest)) = write entry.2 ++ rest :=
    @dropWhile_run _ [' '] _ (forall_mem_singleton.mpr rfl) (legible.head_not_blank rest)
  rw [entryText_append, readEntries, readString_quoted, ok_bind]
  change (readValue budget (skipBlanks (' ' :: (write entry.2 ++ rest))) >>= _) = _
  rw [text, legible.reads parted enough]
  rfl

theorem readEntries_written (first : Legible (write entry.2) (value entry.2))
    (others : ∀ entry ∈ entries, Legible (write entry.2) (value entry.2))
    (enough : (entryText write entry ++
      (entries.map (entryText write)).flatMap (layout.separator level ++ ·)).length < budget) :
    readEntries budget (entryText write entry ++
      ((entries.map (entryText write)).flatMap (layout.separator level ++ ·) ++
        (layout.lineBreak below ++ '\x7d' :: rest))) =
      .ok ((entry :: entries).map (fun entry => (.scroll entry.1, value entry.2)), rest) := by
  have short := @length_lt_entryText _ write entry
  induction entries generalizing entry budget with
  | nil =>
    rcases budget with - | budget
    · cases enough
    rw [length_append] at enough
    rw [readEntries_entryText first (parted_tail (Or.inr rfl) _ _) (by omega), entriesFrom,
      map_nil, flatMap_nil, nil_append, skipBlanks_closing (Or.inr rfl)]
    rfl
  | cons next entries ih =>
    rcases budget with - | budget
    · cases enough
    obtain ⟨second, others⟩ := forall_mem_cons.mp others
    rw [length_append, map_cons, flatMap_cons, append_assoc, length_append] at enough
    rcases skipBlanks_separator (entryText_not_blank next) (entries.map (entryText write))
      (layout.lineBreak below ++ '\x7d' :: rest) with ⟨more, goesOn, starts⟩
    rw [readEntries_entryText first (parted_tail (Or.inr rfl) _ _) (by omega), entriesFrom,
      map_cons, goesOn]
    change (readEntries budget (skipBlanks more) >>= _) = _
    rw [starts, ih second others (by omega) (length_lt_entryText next)]
    rfl

end Entries

/-! ## All saveable data -/

section Enclosed

variable {opening : Char} {parts : List (List Char)}

variable {layout : Layout} {level : Nat}

theorem all_isPlain_lineBreak (layout : Layout) (level : Nat) :
    (layout.lineBreak level).all isPlain = true := by
  cases layout with
  | compact => rfl
  | lines =>
    rw [Layout.lineBreak, all_cons, all_replicate]
    split <;> rfl

theorem all_isPlain_separator (layout : Layout) (level : Nat) :
    (layout.separator level).all isPlain = true := by
  cases layout with
  | compact => rfl
  | lines =>
    rw [Layout.separator, all_cons, all_isPlain_lineBreak]
    rfl

theorem all_enclosed {keep : Char → Bool} (brackets : [opening, closing].all keep = true)
    (separator : (layout.separator (level + 1)).all keep = true)
    (breaks : ∀ level, (layout.lineBreak level).all keep = true)
    (each : ∀ part ∈ parts, part.all keep = true) :
    (enclosed layout level opening closing parts).all keep = true := by
  cases parts with
  | nil => exact brackets
  | cons part parts =>
    obtain ⟨first, others⟩ := forall_mem_cons.mp each
    have more : (parts.flatMap (layout.separator (level + 1) ++ ·)).all keep = true := by
      rw [all_flatMap, all_eq_true]
      intro other mem
      rw [all_append, separator, others other mem]
      rfl
    rw [all_cons, all_cons, all_nil, Bool.and_true, Bool.and_eq_true] at brackets
    simp only [enclosed, all_cons, all_append, all_nil, brackets, first, more, breaks,
      Bool.and_self]

theorem all_isPlain_enclosed (brackets : [opening, closing].all isPlain = true)
    (each : ∀ part ∈ parts, part.all isPlain = true) :
    (enclosed layout level opening closing parts).all isPlain = true :=
  all_enclosed brackets (all_isPlain_separator layout _) (all_isPlain_lineBreak layout) each

theorem enclosed_append (opening closing : Char) (part : List Char) (parts : List (List Char))
    (rest : List Char) :
    enclosed layout level opening closing (part :: parts) ++ rest =
      opening :: (layout.lineBreak (level + 1) ++ (part ++
        (parts.flatMap (layout.separator (level + 1) ++ ·) ++
          (layout.lineBreak level ++ closing :: rest)))) := by
  simp only [enclosed, cons_append, append_assoc, nil_append]

/-- Inside the brackets there is budget for all parts. -/
theorem length_lt_of_enclosed
    (enough : (enclosed layout level opening closing (part :: parts)).length ≤ budget + 1) :
    (part ++ parts.flatMap (layout.separator (level + 1) ++ ·)).length < budget := by
  simp only [enclosed, length_cons, length_append] at enough
  rw [length_append]
  omega

end Enclosed

/-- A character that starts neither a word nor a number. -/
def isMark (char : Char) : Bool :=
  char == '"' || char == '[' || char == '\x7b' || char == ']' || isBlank char

theorem not_isDigit_of_isMark {char : Char} (mark : isMark char = true) :
    char.isDigit = false := by
  simp only [isMark, isBlank, Bool.or_eq_true, beq_iff_eq] at mark
  rcases mark with (((rfl | rfl) | rfl) | rfl) | ((rfl | rfl) | rfl) | rfl <;> rfl

namespace Legible

theorem of_scalar {first : Char} {others : List Char} (unlike : isMark first = false)
    (reads : ∀ {rest}, Parted rest → readScalar (first :: others ++ rest) = .ok (datum, rest))
    (plain : (first :: others).all isPlain = true) :
    Legible (first :: others) datum where
  starts := by
    refine ⟨first, others, rfl, ?_, ?_⟩
    · exact (Bool.or_eq_false_iff.mp unlike).2
    · rintro rfl
      cases unlike
  reads := by
    intro budget rest parted enough
    rcases budget with - | budget
    · cases enough
    rw [← reads parted, cons_append, readValue]
    · rintro _ ⟨⟩
      cases unlike
    · rintro _ ⟨⟩
      cases unlike
    · rintro _ ⟨⟩
      cases unlike
  plain := plain

theorem void : Legible "null".toList .void :=
  of_scalar rfl (fun _ => rfl) rfl

theorem charm (truth : Bool) :
    Legible (if truth then "true" else "false").toList (.charm truth) := by
  cases truth with
  | true => exact of_scalar rfl (fun _ => rfl) rfl
  | false => exact of_scalar rfl (fun _ => rfl) rfl

theorem of_numeric {text : List Char} (numeric : Numeric text)
    (reads : ∀ {rest}, Parted rest → readNumber (text ++ rest) = .ok (datum, rest))
    (plain : text.all isPlain = true) : Legible text datum := by
  have reads {rest : List Char} (parted : Parted rest) :
      readScalar (text ++ rest) = .ok (datum, rest) := by
    rw [(numeric.append rest).readScalar, reads parted]
  cases numeric with
  | negative => exact of_scalar rfl reads plain
  | @natural first digit others =>
    refine of_scalar (Bool.eq_false_iff.mpr fun mark => ?_) reads plain
    cases (not_isDigit_of_isMark mark).symm.trans digit

theorem rune {int : Int} (short : Number.isWritable int = true) :
    Legible (Number.integerText int).toList (.rune int) :=
  of_numeric (numeric_integerText int) (readNumber_integerText short)
    (all_isPlain_of_isPrintable (all_isPrintable_integerText int))

theorem scroll (text : String) : Legible (quoted text) (.scroll text) where
  starts := ⟨'"', _, rfl, rfl, by decide⟩
  reads := by
    intro budget rest _ enough
    rcases budget with - | budget
    · cases enough
    rw [quoted, cons_append, cons_append, append_assoc, readValue]
    change (readString (text.toList.flatMap escapeChar ++ '"' :: rest) >>= _) = _
    rw [readString_quoted]
    rfl
  plain := all_isPlain_of_isPrintable (all_isPrintable_quoted text)

section Collections

variable {layout : Layout} {level : Nat} {write : Datum → List Char}

theorem list (each : ∀ item ∈ items, Legible (write item) item) :
    Legible (enclosed layout level '[' ']' (items.map write)) (.list items) where
  starts := by
    cases items <;> exact ⟨'[', _, rfl, rfl, by decide⟩
  reads := by
    intro budget rest _ enough
    cases items with
    | nil =>
      rcases budget with - | budget
      · cases enough
      rfl
    | cons item items =>
      obtain ⟨first, others⟩ := forall_mem_cons.mp each
      rcases budget with - | budget
      · cases enough
      rw [map_cons] at enough ⊢
      rw [enclosed_append]
      apply readValue_items (skipBlanks_lineBreak (first.head_not_blank _))
      · exact first.ne_closing _
      · exact readItems_written first others (length_lt_of_enclosed enough)
  plain := by
    apply all_isPlain_enclosed rfl
    intro part mem
    obtain ⟨item, inside, rfl⟩ := mem_map.mp mem
    exact (each item inside).plain

theorem record {α : Type} {write : α → List Char} {value : α → Datum} {entries : List (String × α)}
    (each : ∀ entry ∈ entries, Legible (write entry.2) (value entry.2)) :
    Legible (enclosed layout level '\x7b' '\x7d' (entries.map (entryText write)))
      (.record (entries.map fun entry => (entry.1, value entry.2))) where
  starts := by
    cases entries <;> exact ⟨'\x7b', _, rfl, rfl, by decide⟩
  reads := by
    intro budget rest _ enough
    cases entries with
    | nil =>
      rcases budget with - | budget
      · cases enough
      rfl
    | cons entry entries =>
      obtain ⟨first, others⟩ := forall_mem_cons.mp each
      rcases budget with - | budget
      · cases enough
      rw [map_cons] at enough ⊢
      rw [enclosed_append]
      apply readValue_entries (skipBlanks_lineBreak (entryText_not_blank entry _))
      · rw [entryText_append]
        rintro - ⟨⟩
      · rw [readEntries_written first others (length_lt_of_enclosed enough), map_map]
        rfl
  plain := by
    apply all_isPlain_enclosed rfl
    intro part mem
    obtain ⟨entry, inside, rfl⟩ := mem_map.mp mem
    rw [entryText, all_append, all_isPlain_of_isPrintable (all_isPrintable_quoted _), all_cons,
      all_cons, (each entry inside).plain]
    rfl

end Collections

/-- A text that is nothing but a datum is read as it. -/
theorem read (legible : Legible text datum) : read (String.ofList text) = .ok datum := by
  have unmarked : (text.head? == some (Char.ofNat 0xFEFF)) = false := by
    obtain ⟨first, others, rfl, -⟩ := legible.starts
    have plain := legible.plain
    rw [all_cons, Bool.and_eq_true] at plain
    rw [beq_eq_false_iff_ne]
    rintro ⟨⟩
    cases plain.1
  have starts : skipBlanks text = text := by
    have notBlank := legible.head_not_blank []
    rw [append_nil] at notBlank
    exact @dropWhile_run _ [] text (by rintro _ ⟨⟩) notBlank
  have value : readValue (2 * text.length + 2) text = .ok (datum, []) := by
    have reads := @legible.reads (2 * text.length + 2) [] (by rintro _ ⟨⟩) (by omega)
    rwa [append_nil] at reads
  have whole : readText text = .ok datum := by
    rw [readText, unmarked, starts, value]
    rfl
  rw [Json.read, String.toList_ofList, whole]

end Legible

/-- What is written of saveable data can be read. -/
theorem legible_of_saveable (saveable : datum.Saveable) (short : datum.isOverlong = false)
    (layout : Layout) (level : Nat) :
    Legible (written layout level datum) datum := by
  induction saveable generalizing level with
  | void =>
    rw [written]
    exact .void
  | charm truth =>
    rw [written]
    exact .charm truth
  | rune int =>
    rw [Datum.isOverlong, Bool.not_eq_false'] at short
    rw [written]
    exact .rune short
  | scroll text =>
    rw [written]
    exact .scroll text
  | list each ih =>
    rw [Datum.isOverlong, Datum.anyOverlong_eq_any, any_eq_false] at short
    rw [written_list]
    exact .list fun item mem => ih item mem (Bool.eq_false_iff.mpr (short item mem)) _
  | @record entries values distinct ih =>
    rw [isOverlong_record, any_eq_false] at short
    have legible := @Legible.record layout level _ (written layout (level + 1)) id entries
      fun entry mem => ih entry mem (Bool.eq_false_iff.mpr (short entry mem)) _
    rw [written_record]
    rwa [show (entries.map fun entry => (entry.1, id entry.2)) = entries from map_id _] at legible

end Json

end Spellbook
