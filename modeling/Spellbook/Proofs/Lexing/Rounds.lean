import Mathlib.Data.List.DropRight
import Spellbook.Proofs.Lexing.Legibility

/-!
# Rounds of scanning

Scanning goes in rounds.  Each round takes something off what is left (`Passes`), and it ends in one
of four ways (`Ending`): it passes over something, it takes a token, it complains about a character,
a string or a comment, or it stumbles over a numeral that cannot be read.
-/

namespace Spellbook

open List TokenKind

/-- Is it a kind of token other than line feeds and the end of the file? -/
def TokenKind.isSolid : TokenKind → Bool
  | newline | endOfFile => false
  | _ => true

theorem TokenKind.mem_of_lookup {word : String} {kind : TokenKind}
    (known : keywords.lookup word = some kind) : (word, kind) ∈ keywords := by
  obtain ⟨before, after, split, -⟩ := lookup_eq_some_iff.mp known
  rw [split]
  exact mem_append_right _ mem_cons_self

namespace Token

variable {quote first char : Char} {cursor start finish : Cursor}
  {text rest : List Char} {trouble : Trouble} {kind : TokenKind}

theorem ofWord_isSolid (word : String) : (ofWord word).isSolid = true := by
  have keywordsSolid : ∀ entry ∈ keywords, entry.2.isSolid = true := by decide
  unfold ofWord
  cases known : keywords.lookup word with
  | none => rfl
  | some keyword => exact keywordsSolid _ (mem_of_lookup known)

theorem ofSign_isSolid (isSign : ofSign? char = some kind) :
    kind.isSolid = true := by
  unfold ofSign? at isSign
  split at isSign <;> cases isSign <;> rfl

theorem continuesWord_of_startsWord (starts : startsWord char = true) :
    continuesWord char = true := by
  unfold startsWord at starts
  unfold continuesWord Unicode.isAlphanumeric
  rcases Bool.or_eq_true_iff.mp starts with isLetter | isLine
  · rw [isLetter]
    rfl
  · rw [isLine, Bool.or_true]

theorem except_bind_eq_ok {α β : Type} {read : Except Trouble α} {next : α → Except Trouble β}
    {result : β} :
    (read >>= next) = .ok result ↔ ∃ middle, read = .ok middle ∧ next middle = .ok result := by
  cases read with
  | error trouble =>
    constructor
    · intro equal
      cases equal
    · rintro ⟨middle, equal, -⟩
      cases equal
  | ok found =>
    constructor
    · intro equal
      exact ⟨found, rfl, equal⟩
    · rintro ⟨middle, equal, same⟩
      cases equal
      exact same

/-- A string is read if what follows its first character is. -/
theorem prepend_eq_ok {read : Except Trouble (List Char × Cursor)} {found : List Char} :
    (do
      let (text, last) ← read
      return (char :: text, last) : Except Trouble (List Char × Cursor)) = .ok (found, finish) ↔
      ∃ text, read = .ok (text, finish) ∧ found = char :: text := by
  rw [except_bind_eq_ok]
  constructor
  · rintro ⟨⟨text, last⟩, same, equal⟩
    cases equal
    exact ⟨text, same, rfl⟩
  · rintro ⟨text, same, rfl⟩
    exact ⟨(text, finish), same, rfl⟩

/-- The characters that start blanks, comments and strings. -/
def specials : List Char := [' ', '\t', '\r', '\n', '~', '"', '\'']

/-- What stands at a position with any other character. -/
theorem next_of_ordinary (ordinary : first ∉ specials) (depth : Nat) (start : Cursor)
    (rest : List Char) :
    next depth start first rest =
      if Unicode.isDigit first then do
        let (token, finish) ← scanNumber start
        return (some token, finish)
      else if startsWord first then .ok (some (scanWord start).1, (scanWord start).2)
      else if first == '*' && rest.head? == some '*' then
        let finish := (start.after 1 rest).after 1 rest.tail
        .ok (some (between .power (.scroll "**") start finish), finish)
      else
        (ofSign? first).elim (.error (.caused (.unexpectedCharacter first) start.place)) fun kind =>
          .ok (some (between kind (.scroll first.toString) start (start.after 1 rest)),
            start.after 1 rest) := by
  have others : ∀ special ∈ specials, (first == special) = false := by
    intro special mem
    rw [beq_eq_false_iff_ne]
    rintro rfl
    exact ordinary mem
  simp only [specials, forall_mem_cons] at others
  obtain ⟨space, tab, carriage, feed, tilde, double, single, -⟩ := others
  simp only [next, space, tab, carriage, feed, tilde, double, single, Bool.or_self,
    Bool.false_eq_true, if_false]
  cases ofSign? first <;> rfl

theorem not_special_of_isDigit (digit : Unicode.isDigit char = true) :
    char ∉ specials := by
  have none : (specials.any Unicode.isDigit) = false := by decide +kernel
  intro mem
  exact any_eq_false.mp none char mem digit

/-! ## Lines of a text -/

/-- How many characters stand behind the last line feed. -/
def lineOffset (text : List Char) : Nat := (text.rtakeWhile (· != '\n')).length

theorem lineOffset_append (earlier text : List Char) :
    lineOffset (earlier ++ text) =
      if '\n' ∈ text then lineOffset text else lineOffset earlier + text.length := by
  induction text using List.reverseRecOn with
  | nil => simp [lineOffset]
  | append_singleton text last ih =>
    by_cases isFeed : last = '\n'
    · simp [lineOffset, isFeed, ← append_assoc]
    · have other : '\n' ≠ last := Ne.symm isFeed
      simp only [lineOffset, ← append_assoc, rtakeWhile_concat, bne_iff_ne, ne_eq,
        isFeed, not_false_eq_true, if_true, length_append, mem_append,
        mem_singleton, other, or_false] at ih ⊢
      rw [ih]
      split <;> simp [Nat.add_assoc]

/-! ## Positions behind a text -/

/--
One position follows from another if a text is taken in which line feeds do not count as tokens.
Behind such a line feed columns are counted from two.
-/
structure Passes (start : Cursor) (text : List Char) (finish : Cursor) : Prop where
  rest : start.rest = text ++ finish.rest
  line : finish.line = start.line + text.count '\n'
  offset : finish.offset = start.offset + text.length
  column : finish.column =
    if '\n' ∈ text then lineOffset text + 2 else start.column + text.length

namespace Passes

variable {start middle finish : Cursor} {text more rest : List Char}

theorem after (stands : start.rest = text ++ rest) (onOneLine : '\n' ∉ text) :
    Passes start text (start.after text.length rest) where
  rest := stands
  line := by
    rw [count_eq_zero.mpr onOneLine]
    rfl
  offset := rfl
  column := (if_neg onOneLine).symm

theorem one {char : Char} (stands : start.rest = char :: rest)
    (notFeed : char ≠ '\n') : Passes start [char] (start.after 1 rest) :=
  after stands (by simpa using notFeed.symm)

theorem afterLineFeed (stands : start.rest = '\n' :: rest) :
    Passes start ['\n'] (start.afterLineFeed rest) :=
  ⟨stands, rfl, rfl, rfl⟩

theorem append (first : Passes start text middle) (second : Passes middle more finish) :
    Passes start (text ++ more) finish where
  rest := by rw [first.rest, second.rest, append_assoc]
  line := by rw [second.line, first.line, count_append, Nat.add_assoc]
  offset := by rw [second.offset, first.offset, length_append, Nat.add_assoc]
  column := by
    rw [second.column, first.column, lineOffset_append]
    by_cases later : '\n' ∈ more
    · simp [later]
    · by_cases sooner : '\n' ∈ text
      · simp [later, sooner]
        omega
      · simp [later, sooner, Nat.add_assoc]

theorem takeWhile {keep : Char → Bool} (ends : keep '\n' = false) (start : Cursor) :
    Passes start (start.takeWhile keep).1 (start.takeWhile keep).2 := by
  apply after takeWhile_append_dropWhile.symm
  intro mem
  have kept := mem_takeWhile_imp mem
  rw [ends] at kept
  cases kept

end Passes

/-! ## Strings, comments and words -/

/-- No escape stands for anything with a line feed behind the backslash. -/
theorem escaped_lineFeed (notFeed : quote ≠ '\n') : escaped? quote '\n' = none := by
  unfold escaped?
  rw [beq_false_of_ne notFeed.symm]
  rfl

theorem passes_of_scanString (notFeed : quote ≠ '\n') {found : List Char}
    (stands : cursor.rest = text) (read : scanString quote cursor text = .ok (found, finish)) :
    ∃ taken, Passes cursor taken finish := by
  fun_induction scanString quote cursor text generalizing found with
  | case1 cursor => cases read
  | case2 cursor char rest closes =>
    cases read
    obtain rfl := beq_iff_eq.mp closes
    exact ⟨_, .one stands notFeed⟩
  | case3 cursor char rest unclosed isFeed ih =>
    obtain ⟨text, readRest, rfl⟩ := prepend_eq_ok.mp read
    obtain rfl := beq_iff_eq.mp isFeed
    obtain ⟨taken, passes⟩ := ih rfl readRest
    exact ⟨_, (Passes.afterLineFeed stands).append passes⟩
  | case4 cursor char unclosed noFeed isBackslash => cases read
  | case5 cursor char unclosed noFeed isBackslash second rest meaning isEscape ih =>
    obtain ⟨text, readRest, rfl⟩ := prepend_eq_ok.mp read
    obtain ⟨taken, passes⟩ := ih rfl readRest
    have onOneLine : '\n' ∉ [char, second] := by
      simp only [mem_cons, not_mem_nil, or_false, not_or]
      refine ⟨Ne.symm (by simpa using noFeed), ?_⟩
      rintro rfl
      rw [escaped_lineFeed notFeed] at isEscape
      cases isEscape
    have both : Passes cursor [char, second] (cursor.after 2 rest) :=
      .after stands onOneLine
    exact ⟨_, both.append passes⟩
  | case6 cursor char unclosed noFeed isBackslash second rest noEscape ih =>
    obtain ⟨text, readRest, rfl⟩ := prepend_eq_ok.mp read
    obtain ⟨taken, passes⟩ := ih rfl readRest
    exact ⟨_, (Passes.one stands (by simpa using noFeed)).append passes⟩
  | case7 cursor char rest unclosed noFeed noBackslash ih =>
    obtain ⟨text, readRest, rfl⟩ := prepend_eq_ok.mp read
    obtain ⟨taken, passes⟩ := ih rfl readRest
    exact ⟨_, (Passes.one stands (by simpa using noFeed)).append passes⟩

theorem trouble_of_scanString (failed : scanString quote cursor text = .error trouble) :
    ∃ place, trouble = .caused .unterminatedString place := by
  have further {char : Char} {read : Except Trouble (List Char × Cursor)}
      (failed : (do
        let result ← read
        return (char :: result.1, result.2) : Except Trouble (List Char × Cursor)) =
          .error trouble) : read = .error trouble := by
    cases read with
    | ok result => cases failed
    | error other => exact failed
  fun_induction scanString quote cursor text with
  | case1 cursor =>
    cases failed
    exact ⟨_, rfl⟩
  | case2 cursor char rest closes => cases failed
  | case4 cursor char unclosed noFeed isBackslash =>
    cases failed
    exact ⟨_, rfl⟩
  | case3 _ _ _ _ _ ih => exact ih (further failed)
  | case5 _ _ _ _ _ _ _ _ _ ih => exact ih (further failed)
  | case6 _ _ _ _ _ _ _ _ ih => exact ih (further failed)
  | case7 _ _ _ _ _ _ ih => exact ih (further failed)

theorem passes_of_skipComment (stands : cursor.rest = text)
    (read : skipComment cursor text = .ok finish) :
    ∃ taken, Passes cursor taken finish := by
  fun_induction skipComment cursor text with
  | case1 cursor => cases read
  | case2 cursor char rest closes =>
    cases read
    obtain ⟨isTilde, again⟩ := Bool.and_eq_true_iff.mp closes
    obtain rfl := beq_iff_eq.mp isTilde
    obtain ⟨others, rfl⟩ := List.head?_eq_some_iff.mp (beq_iff_eq.mp again)
    have both : Passes cursor ['~', '~'] (cursor.after 2 others) := .after stands (by decide)
    exact ⟨_, both⟩
  | case3 cursor char rest unclosed isFeed ih =>
    obtain rfl := beq_iff_eq.mp isFeed
    obtain ⟨taken, passes⟩ := ih rfl read
    exact ⟨_, (Passes.afterLineFeed stands).append passes⟩
  | case4 cursor char rest unclosed noFeed ih =>
    obtain ⟨taken, passes⟩ := ih rfl read
    exact ⟨_, (Passes.one stands (by simpa using noFeed)).append passes⟩

theorem trouble_of_skipComment (failed : skipComment cursor text = .error trouble) :
    ∃ place, trouble = .caused .unterminatedComment place := by
  fun_induction skipComment cursor text with
  | case1 cursor =>
    cases failed
    exact ⟨_, rfl⟩
  | case2 cursor char rest closes => cases failed
  | case3 cursor char rest unclosed isFeed ih => exact ih failed
  | case4 cursor char rest unclosed noFeed ih => exact ih failed

/-! ## Numerals -/

/-- The digits of the fraction with which a text starts, if it does. -/
def fractionAt? : List Char → Option (List Char)
  | '.' :: digit :: rest =>
    if Unicode.isDigit digit then some ((digit :: rest).takeWhile Unicode.isDigit) else none
  | _ => none

/--
Can the numeral be read with which a text starts?  All its digits must be decimal, and without a
fraction there must not be too many.
-/
def isLegible (text : List Char) : Bool :=
  let whole := text.takeWhile Unicode.isDigit
  (fractionAt? (text.dropWhile Unicode.isDigit)).elim
    (whole.all Unicode.isDecimal && whole.length ≤ Number.digitLimit)
    fun frac => (whole ++ frac).all Unicode.isDecimal

/-- Does the text start with a numeral that cannot be read? -/
def stumbles (text : List Char) : Bool := text.head?.any Unicode.isDigit && !isLegible text

/-- How a round of scanning can end. -/
inductive Ending (start : Cursor) : Except Trouble (Option Token × Cursor) → Prop where
  | passed {text : List Char} {finish : Cursor} (nonempty : text ≠ [])
      (passes : Passes start text finish) (legible : stumbles start.rest = false) :
      Ending start (.ok (none, finish))
  | taken {text : List Char} {finish : Cursor} {kind : TokenKind} {value : Value}
      (nonempty : text ≠ []) (passes : Passes start text finish) (solid : kind.isSolid = true)
      (legible : stumbles start.rest = false) :
      Ending start (.ok (some (between kind value start finish), finish))
  | complained {cause : Cause} {place : Place} (dark : cause.errorClass = .darkMagicDetected)
      (legible : stumbles start.rest = false) : Ending start (.error (.caused cause place))
  | stumbled {failure : Fault} (illegible : stumbles start.rest = true)
      (malformed : failure.className = "ValueError") : Ending start (.error (.fault failure))

def found (result : Token × Cursor) : Option Token × Cursor := (some result.1, result.2)

theorem stumbles_of_not_isDigit (stands : start.rest = first :: rest)
    (other : Unicode.isDigit first = false) : stumbles start.rest = false := by
  rw [stumbles, stands, List.head?_cons, Option.any_some, other, Bool.false_and]

theorem stumbles_of_isDigit (stands : start.rest = first :: rest)
    (digit : Unicode.isDigit first = true) : stumbles start.rest = !isLegible start.rest := by
  rw [stumbles, stands, List.head?_cons, Option.any_some, digit, Bool.true_and]

/-- A numeral that was read is a token, and over any other the round stumbles. -/
theorem Ending.of_reading {α : Type} (kind : TokenKind) (value : α → Value) {read : Except Fault α}
    (nonempty : text ≠ []) (passes : Passes start text finish) (solid : kind.isSolid = true)
    (legible : (∃ num, read = .ok num) ↔ stumbles start.rest = false)
    (malformed : ∀ {failure}, read = .error failure → failure.className = "ValueError") :
    (∀ num, read = .ok num →
        Ending start (.ok (some (between kind (value num) start finish), finish))) ∧
      ∀ failure, read = .error failure → Ending start (.error (.fault failure)) := by
  constructor
  · intro num done
    exact .taken nonempty passes solid (legible.mp ⟨num, done⟩)
  · intro failure failed
    refine .stumbled ?_ (malformed failed)
    rw [← Bool.not_eq_false, ← legible]
    rintro ⟨num, done⟩
    cases done.symm.trans failed

theorem scanInteger_ending {digits : List Char} (nonempty : digits ≠ [])
    (numeric : ∀ char ∈ digits, Unicode.isDigit char = true)
    (passes : Passes start digits finish)
    (same : stumbles start.rest =
      !(digits.all Unicode.isDecimal && digits.length ≤ Number.digitLimit)) :
    Ending start (found <$> scanNumber.integer start digits finish) := by
  have ending := Ending.of_reading .integer Value.rune nonempty passes rfl
    ((Number.integerOfText_eq_ok_iff nonempty numeric).trans (by simp [same]))
    Number.className_of_integerOfText
  unfold scanNumber.integer
  cases read : Number.integerOfText (String.ofList digits) with
  | ok int => exact ending.1 int read
  | error failure => exact ending.2 failure read

theorem scanNumber_ending (stands : start.rest = first :: rest)
    (digit : Unicode.isDigit first = true) : Ending start (found <$> scanNumber start) := by
  have ends : Unicode.isDigit '\n' = false := by decide +kernel
  have passes := Passes.takeWhile ends start
  have nonempty : (start.takeWhile Unicode.isDigit).1 ≠ [] := by
    rw [Cursor.takeWhile, stands, takeWhile_cons_of_pos digit]
    exact cons_ne_nil _ _
  have numeric : ∀ char ∈ (start.takeWhile Unicode.isDigit).1,
      Unicode.isDigit char = true := fun char mem => mem_takeWhile_imp mem
  have same : stumbles start.rest =
      !(fractionAt? (start.takeWhile Unicode.isDigit).2.rest).elim
        ((start.takeWhile Unicode.isDigit).1.all Unicode.isDecimal &&
          (start.takeWhile Unicode.isDigit).1.length ≤ Number.digitLimit)
        fun frac =>
          ((start.takeWhile Unicode.isDigit).1 ++ frac).all Unicode.isDecimal :=
    stumbles_of_isDigit stands digit
  unfold scanNumber
  generalize start.takeWhile Unicode.isDigit = taken at passes nonempty numeric same ⊢
  obtain ⟨whole, middle⟩ := taken
  dsimp only at passes nonempty numeric same ⊢
  split
  case h_1 point others left =>
    rw [left, fractionAt?] at same
    by_cases further : Unicode.isDigit point = true
    · rw [if_pos further] at same ⊢
      rw [left, tail_cons]
      have frac := Passes.takeWhile ends (middle.after 1 (point :: others))
      have fractionNumeric : ∀ char ∈
          ((middle.after 1 (point :: others)).takeWhile Unicode.isDigit).1,
          Unicode.isDigit char = true := fun char mem => mem_takeWhile_imp mem
      have same : stumbles start.rest = !(whole ++
          ((middle.after 1 (point :: others)).takeWhile Unicode.isDigit).1).all
            Unicode.isDecimal := same
      generalize (middle.after 1 (point :: others)).takeWhile Unicode.isDigit = taken
        at frac fractionNumeric same ⊢
      have ending := Ending.of_reading .float (Value.potion · 0)
        (by simp) ((passes.append (.one left (by decide))).append frac) rfl
        ((Number.floatOfText_eq_ok_iff nonempty numeric fractionNumeric).trans (by simp [same]))
        Number.className_of_floatOfText
      cases read : Number.floatOfText (String.ofList (whole ++ '.' :: taken.1)) with
      | ok num => exact ending.1 num read
      | error failure => exact ending.2 failure read
    · rw [if_neg further] at same ⊢
      exact scanInteger_ending nonempty numeric passes same
  case h_2 noFraction =>
    have none : fractionAt? middle.rest = none := by
      unfold fractionAt?
      split
      case h_1 point others left => exact (noFraction point others left).elim
      case h_2 => rfl
    rw [none] at same
    exact scanInteger_ending nonempty numeric passes same

/-! ## One round -/

theorem string_ending (depth : Nat) (quotes : quote = '"' ∨ quote = '\'')
    (stands : start.rest = quote :: rest) (legible : stumbles start.rest = false) :
    Ending start (next depth start quote rest) := by
  have notFeed : quote ≠ '\n' := by
    rcases quotes with rfl | rfl
    · decide
    · decide
  have begun := Passes.one stands notFeed
  have unfolded : next depth start quote rest = (do
      let result ← scanString quote (start.after 1 rest) rest
      return (some (between .string (.scroll (String.ofList result.1)) start result.2),
        result.2)) := by
    rcases quotes with rfl | rfl
    · rfl
    · rfl
  rw [unfolded]
  cases read : scanString quote (start.after 1 rest) rest with
  | ok result =>
    obtain ⟨taken, passes⟩ := passes_of_scanString notFeed rfl read
    exact .taken (cons_ne_nil _ _) (begun.append passes) rfl legible
  | error trouble =>
    obtain ⟨place, rfl⟩ := trouble_of_scanString read
    exact .complained rfl legible

theorem comment_ending (depth : Nat) (stands : start.rest = '~' :: rest)
    (legible : stumbles start.rest = false) : Ending start (next depth start '~' rest) := by
  have begun := Passes.one stands (by decide)
  have unfolded : next depth start '~' rest =
      if rest.head? == some '~' then do
        return (none, ← skipComment ((start.after 1 rest).after 1 rest.tail) rest.tail)
      else .ok (none, ((start.after 1 rest).takeWhile (· != '\n')).2) := rfl
  rw [unfolded]
  split
  case isTrue isBlock =>
    obtain ⟨others, rfl⟩ := List.head?_eq_some_iff.mp (beq_iff_eq.mp isBlock)
    have opened := begun.append (.one rfl (by decide))
    rw [tail_cons]
    cases read : skipComment ((start.after 1 ('~' :: others)).after 1 others) others with
    | ok finish =>
      obtain ⟨taken, passes⟩ := passes_of_skipComment rfl read
      exact .passed (cons_ne_nil _ _) (opened.append passes) legible
    | error trouble =>
      obtain ⟨place, rfl⟩ := trouble_of_skipComment read
      exact .complained rfl legible
  case isFalse =>
    exact .passed (cons_ne_nil _ _) (begun.append (.takeWhile rfl _)) legible

theorem ordinary_ending (depth : Nat) (stands : start.rest = first :: rest)
    (ordinary : first ∉ specials) : Ending start (next depth start first rest) := by
  have notFeed : first ≠ '\n' := by
    rintro rfl
    exact ordinary (by decide)
  have one := Passes.one stands notFeed
  rw [next_of_ordinary ordinary]
  by_cases digit : Unicode.isDigit first = true
  · rw [if_pos digit]
    have ending := scanNumber_ending stands digit
    cases read : scanNumber start with
    | ok result =>
      rw [read] at ending
      exact ending
    | error trouble =>
      rw [read] at ending
      exact ending
  rw [if_neg digit]
  have legible := stumbles_of_not_isDigit stands (Bool.eq_false_iff.mpr digit)
  by_cases word : startsWord first = true
  · rw [if_pos word]
    have nonempty : (start.takeWhile continuesWord).1 ≠ [] := by
      rw [Cursor.takeWhile, stands, takeWhile_cons_of_pos (continuesWord_of_startsWord word)]
      exact cons_ne_nil _ _
    exact .taken nonempty (.takeWhile (by decide +kernel) start) (ofWord_isSolid _) legible
  rw [if_neg word]
  split
  case isTrue power =>
    obtain ⟨star, again⟩ := Bool.and_eq_true_iff.mp power
    obtain rfl := beq_iff_eq.mp star
    obtain ⟨others, rfl⟩ := List.head?_eq_some_iff.mp (beq_iff_eq.mp again)
    exact .taken (cons_ne_nil _ _) (one.append (.one rfl (by decide))) rfl legible
  case isFalse =>
    cases sign : ofSign? first with
    | none => exact .complained rfl legible
    | some kind => exact .taken (cons_ne_nil _ _) one (ofSign_isSolid sign) legible

/-- A round that does not start with a line feed ends in one of the four ways. -/
theorem next_ending (depth : Nat) (stands : start.rest = first :: rest) (notFeed : first ≠ '\n') :
    Ending start (next depth start first rest) := by
  by_cases special : first ∈ specials
  · have one := Passes.one stands notFeed
    have legible : stumbles start.rest = false :=
      stumbles_of_not_isDigit stands (Bool.eq_false_iff.mpr fun digit =>
        not_special_of_isDigit digit special)
    simp only [specials, mem_cons, not_mem_nil, or_false] at special
    rcases special with rfl | rfl | rfl | rfl | rfl | rfl | rfl
    · exact .passed (cons_ne_nil _ _) one legible
    · exact .passed (cons_ne_nil _ _) one legible
    · exact .passed (cons_ne_nil _ _) one legible
    · exact absurd rfl notFeed
    · exact comment_ending depth stands legible
    · exact string_ending depth (.inl rfl) stands legible
    · exact string_ending depth (.inr rfl) stands legible
  · exact ordinary_ending depth stands special

end Token

end Spellbook
