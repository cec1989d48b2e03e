import Spellbook.Proofs.Parsing.Source

/-!
# Scanning what lexemes are spelled as

`Lexeme.spelling` says how each lexeme other than a floating point number is written. Lexemes that
are written one after the other with single spaces between them are scanned as these lexemes again,
as long as no line feed stands inside brackets.
-/

namespace Spellbook

open List TokenKind Grammar

variable {kind : TokenKind} {word : String}

namespace Lexeme

/-! ## Lexemes and how they are spelled -/

/-- A text with a backslash before every backslash and every double quote. -/
def guarded (text : List Char) : List Char :=
  text.flatMap fun char =>
    if char = '\\' ∨ char = '"' then ['\\', char] else [char]

/-- How a lexeme is written. -/
def spelling (lexeme : Lexeme) : String :=
  match lexeme.kind, lexeme.value with
  | .integer, .rune number => Nat.repr number.toNat
  | .string, .scroll text => String.ofList ('"' :: (guarded text.toList ++ ['"']))
  | _, _ => lexeme.text

/-- Lexemes written one after the other, with single spaces between them. -/
def spelledOut (lexemes : List Lexeme) : String := " ".intercalate (lexemes.map spelling)

/-- The lexemes of texts, apart from floating point numbers. -/
inductive Spellable : Lexeme → Prop where
  | integer {number : Nat} (short : number < Nat.pow 10 Number.digitLimit) :
      Spellable ⟨.integer, .rune number⟩
  | string (text : String) : Spellable ⟨.string, .scroll text⟩
  | keyword {word : String} {kind : TokenKind} (known : keywords.lookup word = some kind) :
      Spellable ⟨kind, .scroll word⟩
  | identifier {first : Char} {rest : List Char} (starts : Token.startsWord first = true)
      (continues : ∀ character ∈ rest, Token.continuesWord character = true)
      (free : keywords.lookup (String.ofList (first :: rest)) = none) :
      Spellable ⟨.identifier, .scroll (String.ofList (first :: rest))⟩
  | sign {character : Char} {kind : TokenKind} (known : ofSign? character = some kind) :
      Spellable ⟨kind, .scroll character.toString⟩
  | power : Spellable ⟨.power, .scroll "**"⟩
  | lineFeed : Spellable Token.lineFeed

/-- Some text is scanned as tokens of which one is the lexeme. -/
def Producible (lexeme : Lexeme) : Prop :=
  ∃ source tokens, Token.scan source = .ok tokens ∧ lexeme ∈ tokens.map Token.lexeme

theorem spelling_of_text (notString : kind ≠ .string) {text : String} :
    spelling ⟨kind, .scroll text⟩ = text := by
  unfold spelling
  split
  case h_1 same => cases same
  case h_2 isString same => exact (notString isString).elim
  case h_3 => rfl

end Lexeme

namespace Token

open Lexeme

variable {first char : Char} {tail rest text : List Char} {lexeme : Lexeme}
  {lexemes : List Lexeme} {start finish : Cursor} {token : Token}

/-! ## Characters that start digits, words and signs -/

theorem not_special_of_startsWord (starts : startsWord char = true) :
    char ∉ specials := by
  have none : (specials.any startsWord) = false := by decide +kernel
  intro mem
  exact any_eq_false.mp none char mem starts

theorem not_isDigit_of_startsWord (starts : startsWord char = true) :
    Unicode.isDigit char = false := by
  rcases Bool.or_eq_true_iff.mp starts with letter | line
  · exact Unicode.isDigit_of_isLetter letter
  · obtain rfl := beq_iff_eq.mp line
    decide +kernel

/-- A sign is neither special, nor does it start a number or a word. -/
theorem ordinary_of_sign (known : ofSign? char = some kind) :
    char ∉ specials ∧ Unicode.isDigit char = false ∧ startsWord char = false := by
  unfold ofSign? at known
  split at known <;> cases known <;> decide +kernel

/-! ## Scanning one spelling -/

theorem scanString_guarded (text tail : List Char) (cursor : Cursor) :
    ∃ finish, scanString '"' cursor (guarded text ++ '"' :: tail) = .ok (text, finish) ∧
      finish.rest = tail := by
  induction text generalizing cursor with
  | nil =>
    refine ⟨cursor.after 1 tail, ?_, rfl⟩
    rw [guarded, flatMap_nil, nil_append, scanString.eq_def]
    rfl
  | cons char text ih =>
    by_cases special : char = '\\' ∨ char = '"'
    · have shape : guarded (char :: text) ++ '"' :: tail =
          '\\' :: char :: (guarded text ++ '"' :: tail) := by
        rw [guarded, flatMap_cons, if_pos special]
        rfl
      have meaning : escaped? '"' char = some char := by
        rcases special with rfl | rfl <;> rfl
      obtain ⟨finish, read, left⟩ := ih (cursor.after 2 (guarded text ++ '"' :: tail))
      refine ⟨finish, ?_, left⟩
      rw [shape, scanString, if_neg (by decide), if_neg (by decide), if_pos (by decide)]
      simp only [meaning]
      exact prepend_eq_ok.mpr ⟨text, read, rfl⟩
    · have shape : guarded (char :: text) ++ '"' :: tail =
          char :: (guarded text ++ '"' :: tail) := by
        rw [guarded, flatMap_cons, if_neg special]
        rfl
      have noQuote : ¬(char == '"') = true := fun same =>
        special (Or.inr (beq_iff_eq.mp same))
      have noBackslash : ¬(char == '\\') = true := fun same =>
        special (Or.inl (beq_iff_eq.mp same))
      rw [shape]
      by_cases isFeed : (char == '\n') = true
      · obtain ⟨finish, read, left⟩ := ih (cursor.afterLineFeed (guarded text ++ '"' :: tail))
        refine ⟨finish, ?_, left⟩
        rw [scanString.eq_def]
        simp only [noQuote, isFeed, if_true, if_false, Bool.false_eq_true]
        exact prepend_eq_ok.mpr ⟨text, read, rfl⟩
      · obtain ⟨finish, read, left⟩ := ih (cursor.after 1 (guarded text ++ '"' :: tail))
        refine ⟨finish, ?_, left⟩
        rw [scanString.eq_def]
        simp only [noQuote, isFeed, noBackslash, if_false, Bool.false_eq_true]
        exact prepend_eq_ok.mpr ⟨text, read, rfl⟩

/-- A space, the signs that separate parts, and the brackets that close collections. -/
def separators : List Char := [' ', ',', ':', ']', '\x7d']

/-- The text is empty or starts with a character that ends any lexeme before it. -/
def Parted (tail : List Char) : Prop := ∀ char ∈ tail.head?, char ∈ separators

theorem Parted.nil : Parted [] := by
  intro first isFirst
  cases isFirst

theorem parted_cons (separates : char ∈ separators) (rest : List Char) :
    Parted (char :: rest) := by
  intro first isFirst
  obtain rfl := Option.mem_some.mp isFirst
  exact separates

/-- At the start of the text followed by the tail stands the lexeme, and then the tail. -/
def Spells (text : List Char) (lexeme : Lexeme) (tail : List Char) : Prop :=
  ∃ first rest, text ++ tail = first :: rest ∧ ∀ start : Cursor, start.rest = first :: rest →
    ∃ token finish, next 0 start first rest = .ok (some token, finish) ∧
      token.lexeme = lexeme ∧ finish.rest = tail

/-- A sign is scanned wherever it is not the first star of two. -/
theorem spells_sign_before (known : ofSign? char = some kind)
    (single : (char == '*' && tail.head? == some '*') = false) :
    Spells [char] ⟨kind, .scroll char.toString⟩ tail := by
  obtain ⟨ordinary, noDigit, noWord⟩ := ordinary_of_sign known
  refine ⟨char, tail, rfl, ?_⟩
  intro start stands
  refine ⟨between kind (.scroll char.toString) start (start.after 1 tail), start.after 1 tail,
    ?_, rfl, rfl⟩
  rw [next_of_ordinary ordinary, noDigit, noWord, single, known]
  simp only [Bool.false_eq_true, if_false, Option.elim]

theorem spells_string (text : String) (tail : List Char) :
    Spells ('"' :: (guarded text.toList ++ ['"'])) ⟨.string, .scroll text⟩ tail := by
  refine ⟨'"', guarded text.toList ++ '"' :: tail, by simp, ?_⟩
  intro start stands
  rcases scanString_guarded text.toList tail
    (start.after 1 (guarded text.toList ++ '"' :: tail)) with ⟨finish, read, left⟩
  refine ⟨between .string (.scroll (String.ofList text.toList)) start finish, finish, ?_, ?_, left⟩
  · exact except_bind_eq_ok.mpr ⟨(text.toList, finish), read, rfl⟩
  · rw [String.ofList_toList]
    rfl

section Parted

variable {tail : List Char} (parted : Parted tail)

include parted

theorem stops_of_parted {keep : Char → Bool} (ends : separators.any keep = false) :
    ∀ char ∈ tail.head?, keep char = false := by
  intro char mem
  exact Bool.not_eq_true _ ▸ any_eq_false.mp ends char (parted char mem)

theorem spells_word (starts : startsWord first = true)
    (continues : ∀ char ∈ rest, continuesWord char = true) :
    Spells (first :: rest) ⟨ofWord (String.ofList (first :: rest)),
      .scroll (String.ofList (first :: rest))⟩ tail := by
  have all : ∀ char ∈ first :: rest, continuesWord char = true :=
    forall_mem_cons.mpr ⟨continuesWord_of_startsWord starts, continues⟩
  have stops := stops_of_parted parted (show separators.any continuesWord = false by decide +kernel)
  refine ⟨first, rest ++ tail, rfl, ?_⟩
  intro start stands
  have taken : start.rest.takeWhile continuesWord = first :: rest := by
    rw [stands, ← cons_append, takeWhile_run all stops]
  have left : start.rest.dropWhile continuesWord = tail := by
    rw [stands, ← cons_append, dropWhile_run all stops]
  refine ⟨(scanWord start).1, (scanWord start).2, ?_, ?_, ?_⟩
  · rw [next_of_ordinary (not_special_of_startsWord starts), not_isDigit_of_startsWord starts,
      starts]
    rfl
  · simp only [scanWord, Cursor.takeWhile, taken, between, lexeme]
  · exact left

theorem spells_integer {num : Nat} (short : num < Nat.pow 10 Number.digitLimit) :
    Spells (Nat.toDigits 10 num) ⟨.integer, .rune num⟩ tail := by
  have decimal : ∀ char ∈ Nat.toDigits 10 num, char.isDigit = true :=
    fun char mem => Nat.isDigit_of_mem_toDigits (by decide) (by decide) mem
  have digits : ∀ char ∈ Nat.toDigits 10 num, Unicode.isDigit char = true :=
    fun char mem => Number.isDigit_of_decimal (decimal char mem)
  have stops := stops_of_parted parted
    (show separators.any Unicode.isDigit = false by decide +kernel)
  have read : Number.integerOfText (String.ofList (Nat.toDigits 10 num)) = .ok num := by
    rw [Number.integerOfText, String.toList_ofList, Number.readInteger_toDigits short]
  cases shape : Nat.toDigits 10 num with
  | nil => exact (Nat.toDigits_ne_nil shape).elim
  | cons first rest =>
    rw [shape] at digits read
    refine ⟨first, rest ++ tail, rfl, ?_⟩
    intro start stands
    have taken : start.rest.takeWhile Unicode.isDigit = first :: rest := by
      rw [stands, ← cons_append, takeWhile_run digits stops]
    have left : start.rest.dropWhile Unicode.isDigit = tail := by
      rw [stands, ← cons_append, dropWhile_run digits stops]
    have firstDigit := digits first mem_cons_self
    have scanned : ∃ finish, scanNumber start =
        .ok (between .integer (.rune num) start finish, finish) ∧ finish.rest = tail := by
      refine ⟨start.after (first :: rest).length tail, ?_, rfl⟩
      simp only [scanNumber, Cursor.takeWhile, Cursor.after, taken, left]
      split
      case h_1 => exact absurd (parted '.' rfl) (by decide)
      case h_2 => rw [scanNumber.integer, read]
    obtain ⟨finish, scanned, left⟩ := scanned
    refine ⟨between .integer (.rune num) start finish, finish, ?_, rfl, left⟩
    rw [next_of_ordinary (not_special_of_isDigit firstDigit), firstDigit, if_pos rfl, scanned]
    rfl

theorem spells_sign (known : ofSign? char = some kind) :
    Spells [char] ⟨kind, .scroll char.toString⟩ tail := by
  apply spells_sign_before known
  rw [Bool.and_eq_false_iff, beq_eq_false_iff_ne, beq_eq_false_iff_ne]
  exact Or.inr fun same => absurd (parted '*' same) (by decide)

theorem spells_keyword (known : keywords.lookup word = some kind) :
    Spells word.toList ⟨kind, .scroll word⟩ tail := by
  have wordly : (keywords.all fun entry => entry.1.toList.head?.any startsWord &&
      entry.1.toList.all continuesWord) = true := by decide +kernel
  rcases Bool.and_eq_true_iff.mp (all_eq_true.mp wordly _ (mem_of_lookup known)) with
    ⟨starts, continues⟩
  rw [all_eq_true] at continues
  cases shape : word.toList with
  | nil =>
    rw [shape] at starts
    cases starts
  | cons first rest =>
    rw [shape, List.head?_cons, Option.any_some] at starts
    rw [shape] at continues
    have spells := spells_word parted starts (forall_mem_cons.mp continues).2
    rwa [← shape, String.ofList_toList, ofWord, known, shape] at spells

end Parted

/-- A spellable lexeme is scanned where its spelling stands, if a space or nothing follows. -/
theorem spells_of_spellable (spellable : lexeme.Spellable) (parted : Parted tail) :
    Spells lexeme.spelling.toList lexeme tail := by
  cases spellable with
  | @integer num short =>
    have written : spelling ⟨.integer, .rune num⟩ = String.ofList (Nat.toDigits 10 num) :=
      Nat.repr_eq_ofList_toDigits
    rw [written, String.toList_ofList]
    exact spells_integer parted short
  | string text =>
    rw [spelling, String.toList_ofList]
    exact spells_string text tail
  | @keyword word kind known =>
    have notString : ∀ entry ∈ keywords, entry.2 ≠ .string := by decide
    rw [spelling_of_text (notString (word, kind) (mem_of_lookup known))]
    exact spells_keyword parted known
  | @identifier first rest starts continues free =>
    have spells := spells_word parted starts continues
    rw [ofWord, free] at spells
    rw [spelling_of_text (by decide), String.toList_ofList]
    exact spells
  | @sign char kind known =>
    have notString : kind ≠ .string := by
      rintro rfl
      unfold ofSign? at known
      split at known <;> cases known
    rw [spelling_of_text notString, Char.toString_eq_singleton, String.toList_singleton]
    exact spells_sign parted known
  | power =>
    refine ⟨'*', '*' :: tail, rfl, ?_⟩
    intro start stands
    rcases ordinary_of_sign (show ofSign? '*' = some .star from rfl) with
      ⟨ordinary, noDigit, noWord⟩
    let finish := (start.after 1 ('*' :: tail)).after 1 tail
    refine ⟨between .power (.scroll "**") start finish, finish, ?_, rfl, rfl⟩
    rw [next_of_ordinary ordinary, noDigit, noWord]
    rfl
  | lineFeed =>
    refine ⟨'\n', tail, rfl, ?_⟩
    intro start stands
    exact ⟨_, _, next_of_lineFeed 0 start tail, rfl, rfl⟩

/-! ## Scanning what is spelled out -/

theorem Divided.spelled (spells : Spells text lexeme tail) (divided : Divided tail lexemes) :
    Divided (text ++ tail) (lexeme :: lexemes) := by
  obtain ⟨first, rest, shape, scans⟩ := spells
  obtain ⟨token, finish, taken, rfl, rfl⟩ := scans ⟨first :: rest, 1, 1, 0⟩ rfl
  rw [shape]
  exact Divided.take rfl taken divided

theorem Divided.blank (divided : Divided text lexemes) : Divided (' ' :: text) lexemes :=
  @Divided.skip ⟨' ' :: text, 1, 1, 0⟩ _ ' ' text lexemes rfl rfl divided

/-- What is spelled out divides into the lexemes. -/
theorem divided_spelledOut (spellable : ∀ lexeme ∈ lexemes, lexeme.Spellable) :
    Divided (spelledOut lexemes).toList lexemes := by
  rw [spelledOut, String.toList_intercalate, map_map]
  induction lexemes with
  | nil => exact Divided.done
  | cons lexeme lexemes ih =>
    obtain ⟨first, others⟩ := forall_mem_cons.mp spellable
    cases lexemes with
    | nil =>
      exact Divided.done.spelled (spells_of_spellable first Parted.nil)
    | cons second lexemes =>
      have further := (ih others).blank
      exact further.spelled (spells_of_spellable first (parted_cons (by decide) _))

theorem visible_of_feedsOutside {depth : Nat}
    (outside : FeedsOutside depth (lexemes.map Lexeme.kind)) :
    visible depth lexemes = lexemes := by
  induction lexemes generalizing depth with
  | nil => rfl
  | cons lexeme lexemes ih =>
    obtain ⟨notInside, outside⟩ := outside
    rw [visible, if_neg fun hidden => hidden.2 (notInside hidden.1), ih outside]

theorem scan_spelledOut (spellable : ∀ lexeme ∈ lexemes, lexeme.Spellable)
    (outside : FeedsOutside 0 (lexemes.map Lexeme.kind)) :
    ∃ tokens, scan (spelledOut lexemes) = .ok tokens ∧
      tokens.map Token.lexeme = lexemes ++ [finale] := by
  obtain ⟨tokens, scanned, same⟩ := (divided_spelledOut spellable).scan
  rw [visible_of_feedsOutside outside] at same
  exact ⟨tokens, scanned, same⟩

/-! ## What is scanned at all -/

theorem spellable_of_integer {last : Cursor} {digits : List Char}
    (numeric : ∀ char ∈ digits, Unicode.isDigit char = true)
    (read : scanNumber.integer start digits finish = .ok (token, last)) :
    token.lexeme.Spellable := by
  unfold scanNumber.integer at read
  split at read
  case h_1 integer converted =>
    cases read
    have found : Number.readInteger digits = .ok integer := by
      unfold Number.integerOfText at converted
      rw [String.toList_ofList] at converted
      split at converted
      case h_1 same =>
        cases converted
        exact same
      all_goals cases converted
    obtain ⟨num, rfl, short⟩ := Number.exists_natural_of_readInteger numeric found
    exact Spellable.integer short
  case h_2 => cases read

theorem spellable_of_scanNumber (read : scanNumber start = .ok (token, finish)) :
    token.kind = .float ∨ token.lexeme.Spellable := by
  have numeric : ∀ char ∈ start.rest.takeWhile Unicode.isDigit,
      Unicode.isDigit char = true :=
    fun _ mem => all_eq_true.mp all_takeWhile _ mem
  simp only [scanNumber, Cursor.takeWhile, Cursor.after] at read
  split at read
  case h_1 digit others equal =>
    split at read
    · split at read
      · cases read
        exact Or.inl rfl
      · cases read
    · exact Or.inr (spellable_of_integer numeric read)
  case h_2 => exact Or.inr (spellable_of_integer numeric read)

theorem spellable_of_scanWord (stands : start.rest = first :: rest)
    (starts : startsWord first = true) :
    (scanWord start).1.lexeme.Spellable := by
  have taken : start.rest.takeWhile continuesWord = first :: rest.takeWhile continuesWord := by
    rw [stands, takeWhile_cons_of_pos (continuesWord_of_startsWord starts)]
  have continues : ∀ char ∈ rest.takeWhile continuesWord, continuesWord char = true :=
    fun _ mem => all_eq_true.mp all_takeWhile _ mem
  simp only [scanWord, Cursor.takeWhile, taken, between, lexeme, ofWord]
  cases known : keywords.lookup (String.ofList (first :: rest.takeWhile continuesWord)) with
  | none => exact Spellable.identifier starts continues known
  | some kind => exact Spellable.keyword known

/-- What is scanned is a number or spellable. -/
theorem number_or_spellable_of_next (stands : start.rest = first :: rest)
    (read : next 0 start first rest = .ok (some token, finish)) :
    (∃ last, scanNumber start = .ok (token, last)) ∨ token.lexeme.Spellable := by
  by_cases ordinary : first ∉ specials
  · rw [next_of_ordinary ordinary] at read
    split at read
    · obtain ⟨⟨num, last⟩, scanned, equal⟩ := except_bind_eq_ok.mp read
      cases equal
      exact Or.inl ⟨_, scanned⟩
    split at read
    case isTrue starts =>
      cases read
      exact Or.inr (spellable_of_scanWord stands starts)
    split at read
    · cases read
      exact Or.inr Spellable.power
    cases known : ofSign? first with
    | none =>
      rw [known] at read
      cases read
    | some kind =>
      rw [known] at read
      cases read
      exact Or.inr (Spellable.sign known)
  · have special := Decidable.not_not.mp ordinary
    simp only [specials, mem_cons, not_mem_nil, or_false] at special
    have ofString : ∀ {quote : Char}, (do
        let scanned ← scanString quote (start.after 1 rest) rest
        return (some (between .string (.scroll (String.ofList scanned.1)) start scanned.2),
          scanned.2)) = .ok (some token, finish) → token.lexeme.Spellable := by
      intro quote read
      obtain ⟨scanned, -, equal⟩ := except_bind_eq_ok.mp read
      cases equal
      exact Spellable.string _
    rcases special with rfl | rfl | rfl | rfl | rfl | rfl | rfl
    · cases read
    · cases read
    · cases read
    · cases read
      exact Or.inr Spellable.lineFeed
    · by_cases isBlock : (rest.head? == some '~') = true
      · obtain ⟨last, -, equal⟩ := except_bind_eq_ok.mp ((if_pos isBlock).symm.trans read)
        cases equal
      · cases (if_neg isBlock).symm.trans read
    · exact Or.inr (ofString read)
    · exact Or.inr (ofString read)

theorem spellable_of_next (stands : start.rest = first :: rest)
    (read : next 0 start first rest = .ok (some token, finish)) :
    token.kind = .float ∨ token.lexeme.Spellable := by
  rcases number_or_spellable_of_next stands read with ⟨last, scanned⟩ | spellable
  · exact spellable_of_scanNumber scanned
  · exact Or.inr spellable

/-- Every lexeme that a text divides into is spellable, unless it is a floating point number. -/
theorem Divided.spellable (divided : Divided text lexemes) :
    ∀ lexeme ∈ lexemes, lexeme.kind = .float ∨ lexeme.Spellable := by
  induction divided with
  | done =>
    intro lexeme mem
    cases mem
  | skip stands skipped others ih => exact ih
  | take stands taken others ih =>
    exact forall_mem_cons.mpr ⟨spellable_of_next stands taken, ih⟩

/-- The spellable lexemes are those that are scanned at all, but for two kinds. -/
theorem producible_iff (notFloat : lexeme.kind ≠ .float) (notEnd : lexeme.kind ≠ .endOfFile) :
    lexeme.Producible ↔ lexeme.Spellable := by
  constructor
  · rintro ⟨source, tokens, scanned, mem⟩
    obtain ⟨lexemes, divided, same⟩ := scan_eq_ok scanned
    rw [same] at mem
    rcases mem_append.mp mem with seen | last
    · rcases divided.spellable lexeme (visible_subset 0 lexemes seen) with isFloat | spellable
      · exact (notFloat isFloat).elim
      · exact spellable
    · rw [mem_singleton.mp last] at notEnd
      exact (notEnd rfl).elim
  · intro spellable
    have alone : ∀ other ∈ [lexeme], other.Spellable := by
      intro other mem
      rwa [mem_singleton.mp mem]
    rcases scan_spelledOut alone ⟨fun _ => rfl, trivial⟩ with ⟨tokens, scanned, same⟩
    refine ⟨spelledOut [lexeme], tokens, scanned, ?_⟩
    rw [same]
    exact mem_cons_self

/--
The lexemes that scanning can give, floating point numbers and the end of the file apart, are the
spellable ones; and if such lexemes, with no line feed inside brackets, are spelled out one after
the other with single spaces between them, scanning succeeds and gives exactly them, and then the
end of the file.
-/
theorem scan_undoes_spelling :
    (∀ lexeme : Lexeme, lexeme.kind ≠ .float → lexeme.kind ≠ .endOfFile →
      (lexeme.Producible ↔ lexeme.Spellable)) ∧
    ∀ lexemes : List Lexeme,
      (∀ lexeme ∈ lexemes, lexeme.Producible ∧ lexeme.kind ≠ .float ∧ lexeme.kind ≠ .endOfFile) →
      FeedsOutside 0 (lexemes.map Lexeme.kind) →
      ∃ tokens, scan (spelledOut lexemes) = .ok tokens ∧
        tokens.map Token.lexeme = lexemes ++ [finale] := by
  constructor
  · intro lexeme notFloat notEnd
    exact producible_iff notFloat notEnd
  · intro lexemes producible outside
    apply scan_spelledOut _ outside
    intro lexeme member
    obtain ⟨produced, notFloat, notEnd⟩ := producible lexeme member
    exact (producible_iff notFloat notEnd).mp produced

/-- A string with quotes and a backslash, two signs that could be one, and a line feed. -/
def sample : List Lexeme :=
  [⟨.string, .scroll "say \"\\n\""⟩, ⟨.star, .scroll "*"⟩, ⟨.power, .scroll "**"⟩,
    ⟨.leftParen, .scroll "("⟩, ⟨.integer, .rune 7⟩, ⟨.rightParen, .scroll ")"⟩, lineFeed,
    ⟨.conjure, .scroll "conjure"⟩]

theorem scan_undoes_spelling_sample :
    spelledOut sample = "\"say \\\"\\\\n\\\"\" * ** ( 7 ) \n conjure" ∧
      (∀ lexeme ∈ sample, lexeme.Producible ∧ lexeme.kind ≠ .float ∧ lexeme.kind ≠ .endOfFile) ∧
      FeedsOutside 0 (sample.map Lexeme.kind) ∧
      ∃ tokens, scan (spelledOut sample) = .ok tokens ∧
        tokens.map Token.lexeme = sample ++ [finale] := by
  have kinds : ∀ lexeme ∈ sample, lexeme.kind ≠ .float ∧ lexeme.kind ≠ .endOfFile := by
    simp [sample, lineFeed]
  have spellable : ∀ lexeme ∈ sample, lexeme.Spellable := by
    simp only [sample, forall_mem_cons]
    exact ⟨.string _, @Spellable.sign '*' _ rfl, .power, @Spellable.sign '(' _ rfl,
      @Spellable.integer 7 (by decide +kernel), @Spellable.sign ')' _ rfl, .lineFeed, .keyword rfl,
      by simp⟩
  have producible : ∀ lexeme ∈ sample,
      lexeme.Producible ∧ lexeme.kind ≠ .float ∧ lexeme.kind ≠ .endOfFile := by
    intro lexeme member
    obtain ⟨notFloat, notEnd⟩ := kinds lexeme member
    exact ⟨(scan_undoes_spelling.1 lexeme notFloat notEnd).mpr (spellable lexeme member), notFloat,
      notEnd⟩
  have outside : FeedsOutside 0 (sample.map Lexeme.kind) := by
    simp [sample, lineFeed, FeedsOutside, depthAfter]
  exact ⟨by decide +kernel, producible, outside,
    scan_undoes_spelling.2 sample producible outside⟩

end Token

end Spellbook
