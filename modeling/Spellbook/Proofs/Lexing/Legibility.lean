import Mathlib.Data.List.TakeWhile
import Spellbook.Proofs.Lexing.Numeral

/-!
# Which numerals can be read

A numeral consists of digits, and there are more digits than decimal ones: superscripts and circled
digits have no place value.  An integer can be read exactly if all its digits are decimal and there
are not too many of them (`Number.readInteger_isOk_iff`); a number with a fraction, exactly if all
its digits are decimal (`Number.readFloat_isSome_iff`).
-/

namespace Spellbook

open List

variable {char : Char}

namespace Unicode

/-- Has the digit a place value? -/
def isDecimal (char : Char) : Bool := (decimalValue? char).isSome

theorem isBlank_of_isDigit (digit : isDigit char = true) : isBlank char = false :=
  Intervals.not_holds_of_apart (by decide +kernel) digit

/-- Of the first characters only the ten usual digits are digits. -/
theorem decimal_of_isDigit_of_lt (digit : isDigit char = true) (early : char.toNat < 127) :
    char.isDigit = true := by
  have later : (digits.bounds.toList.all fun interval =>
      Nat.ble 127 interval.1 || (Nat.ble 48 interval.1 && Nat.ble interval.2 57)) = true := by
    decide +kernel
  obtain ⟨interval, mem, above, below⟩ := Intervals.exists_of_seek digit
  have bounds := all_eq_true.mp later interval mem
  simp only [Bool.or_eq_true, Bool.and_eq_true, Nat.ble_eq] at bounds
  have least : 48 ≤ char.toNat := by omega
  have greatest : char.toNat ≤ 57 := by omega
  exact Bool.and_eq_true_iff.mpr ⟨decide_eq_true least, decide_eq_true greatest⟩

theorem isDecimal_of_decimal (digit : char.isDigit = true) : isDecimal char = true := by
  have all : ∀ value < 10, (decimalBase? (48 + value)).isSome = true := by decide +kernel
  obtain ⟨value, small, same⟩ := Number.exists_of_isDigit digit
  rw [isDecimal, decimalValue?, Option.isSome_map, same]
  exact all value small

end Unicode

namespace Number

variable {text whole frac : List Char} {first : Char} {failure : Fault}

/-! ## Figures -/

/-- What becomes of a digit in the plain form of a number: a plain digit, or a mark of none. -/
def IsFigure (char : Char) : Prop := isPlainDigit char = true ∨ char = '?'

instance (char : Char) : Decidable (IsFigure char) :=
  inferInstanceAs (Decidable (_ ∨ _))

theorem IsFigure.not_isPlainBlank (figure : IsFigure char) :
    isPlainBlank char = false := by
  rcases figure with digit | rfl
  · exact Number.not_isPlainBlank digit
  · rfl

theorem IsFigure.ne_underscore (figure : IsFigure char) : char ≠ '_' := by
  rcases figure with digit | rfl
  · exact Number.ne_underscore digit
  · decide

/-- A digit with a place value becomes a plain one, and any other the mark. -/
theorem plain_of_isDigit (digit : Unicode.isDigit char = true) :
    (isPlainDigit (plain char) = true ∧ Unicode.isDecimal char = true) ∨
      (plain char = '?' ∧ Unicode.isDecimal char = false) := by
  by_cases early : char.toNat < 127
  · have decimal := Unicode.decimal_of_isDigit_of_lt digit early
    left
    rw [plain_of_decimal decimal]
    exact ⟨decimal, Unicode.isDecimal_of_decimal decimal⟩
  · rw [plain, if_neg early, Unicode.isBlank_of_isDigit digit, if_neg Bool.false_ne_true,
      Unicode.isDecimal]
    cases valued : Unicode.decimalValue? char with
    | none => exact .inr ⟨rfl, rfl⟩
    | some value =>
      obtain ⟨base, -, rfl⟩ := Option.map_eq_some_iff.mp valued
      have digits : ∀ remainder < 10,
          isPlainDigit (Char.ofNat ('0'.toNat + remainder)) = true := by decide
      exact .inl ⟨digits _ (Nat.mod_lt _ (by decide)), rfl⟩

section Digits

variable {digits : List Char} (numeric : ∀ char ∈ digits, Unicode.isDigit char = true)

include numeric

theorem figures : ∀ figure ∈ digits.map plain, IsFigure figure := by
  intro figure mem
  obtain ⟨char, inside, rfl⟩ := mem_map.mp mem
  rcases plain_of_isDigit (numeric char inside) with ⟨digit, -⟩ | ⟨mark, -⟩
  · exact .inl digit
  · exact .inr mark

/-- All digits have a place value if their plain forms are plain digits. -/
theorem all_isPlainDigit_iff :
    (∀ figure ∈ digits.map plain, isPlainDigit figure = true) ↔
      digits.all Unicode.isDecimal = true := by
  rw [all_eq_true, forall_mem_map]
  apply forall₂_congr
  intro char inside
  rcases plain_of_isDigit (numeric char inside) with ⟨digit, decimal⟩ | ⟨mark, other⟩
  · rw [digit, decimal]
  · rw [mark, other]
    decide

end Digits

theorem dropWhile_of_no_blank (none : ∀ char ∈ text, isPlainBlank char = false) :
    text.dropWhile isPlainBlank = text := by
  cases text with
  | nil => rfl
  | cons first text =>
    exact dropWhile_cons_of_neg (Bool.eq_false_iff.mp (none first mem_cons_self))

theorem takeSign_of_figure (figure : IsFigure first) :
    takeSign (first :: text) = (false, first :: text) := by
  unfold takeSign
  split
  case h_1 same =>
    cases same
    rcases figure with digit | mark
    · cases digit
    · cases mark
  case h_2 same =>
    cases same
    rcases figure with digit | mark
    · cases digit
    · cases mark
  case h_3 => rfl

theorem underscoresFit_of_not_mem (absent : '_' ∉ text) {previous : Char} (other : previous ≠ '_') :
    underscoresFit previous text = true := by
  induction text generalizing previous with
  | nil => exact bne_iff_ne.mpr other
  | cons first text ih =>
    have unlike : first ≠ '_' := fun same => absent (same ▸ mem_cons_self)
    have further := ih (fun mem => absent (mem_cons_of_mem _ mem)) unlike
    rw [underscoresFit, if_neg (mt beq_iff_eq.mp unlike), bne_iff_ne.mpr other, further]
    rfl

theorem plainLower_of_figure (figure : IsFigure char) : plainLower char = char := by
  rcases figure with digit | rfl
  · obtain ⟨value, small, same⟩ := exists_of_isDigit digit
    have before : ¬ 'A' ≤ char := by
      intro capital
      have above : 65 ≤ char.toNat := capital
      omega
    rw [plainLower, decide_eq_false before, Bool.false_and, if_neg Bool.false_ne_true]
  · rfl

/-- A text that starts with a figure is no word that starts otherwise. -/
theorem IsFigure.ne_word {letter : Char} (figure : IsFigure first) {word : String}
    (starts : word.toList.head? = some letter) (other : ¬IsFigure letter) (rest : List Char) :
    (String.ofList (plainLower first :: rest) == word) = false := by
  apply beq_false_of_ne
  rintro rfl
  rw [String.toList_ofList, plainLower_of_figure figure] at starts
  cases starts
  exact other figure

/-! ## Integers -/

theorem plain_of_figure (figure : IsFigure char) : plain char = char := by
  rcases figure with digit | rfl
  · exact plain_of_decimal digit
  · rfl

section Digits

variable {digits : List Char} (numeric : ∀ char ∈ digits, Unicode.isDigit char = true)

include numeric

theorem readInteger_map_plain : readInteger (digits.map plain) = readInteger digits := by
  have same : (digits.map plain).map plain = digits.map plain :=
    (map_congr_left fun figure mem => plain_of_figure (figures numeric figure mem)).trans (map_id _)
  rw [readInteger, readInteger, same]

/-- Digits from which an integer is read are decimal and not too many. -/
theorem decimal_of_readInteger {int : Int} (read : readInteger digits = .ok int) :
    (∀ figure ∈ digits.map plain, isPlainDigit figure = true) ∧
      (digits.map plain).length ≤ digitLimit := by
  have shapes := figures numeric
  unfold readInteger at read
  generalize digits.map plain = marks at shapes read ⊢
  have noBlank := dropWhile_of_no_blank fun mark mem => (shapes mark mem).not_isPlainBlank
  have unsigned : takeSign marks = (false, marks) := by
    cases marks with
    | nil => rfl
    | cons first marks => exact takeSign_of_figure (shapes first mem_cons_self)
  simp only [noBlank, unsigned] at read
  split at read
  case isTrue => cases read
  split at read
  case isTrue => cases read
  split at read
  case isTrue => cases read
  case isFalse short ended =>
    -- Behind the digits only blanks may stand, and no figure is one.
    have nothing : marks.dropWhile (fun mark => isPlainDigit mark || mark == '_') = [] := by
      cases left : marks.dropWhile (fun mark => isPlainDigit mark || mark == '_') with
      | nil => rfl
      | cons mark others =>
        have inside : mark ∈ marks := (dropWhile_sublist _).subset (left ▸ mem_cons_self)
        rw [left, all_cons, (shapes mark inside).not_isPlainBlank] at ended
        exact absurd rfl ended
    have decimal : ∀ mark ∈ marks, isPlainDigit mark = true := by
      intro mark mem
      have part := dropWhile_eq_nil_iff.mp nothing mark mem
      rwa [beq_false_of_ne (shapes mark mem).ne_underscore, Bool.or_false] at part
    refine ⟨decimal, ?_⟩
    have all : marks.takeWhile (fun mark => isPlainDigit mark || mark == '_') = marks := by
      have parted := takeWhile_append_dropWhile
        (p := fun mark => isPlainDigit mark || mark == '_') (l := marks)
      rwa [nothing, append_nil] at parted
    rw [all, filter_eq_self.mpr decimal] at short
    exact Nat.le_of_not_lt short

/-- An integer is read from its digits exactly if they are decimal and not too many. -/
theorem readInteger_isOk_iff (nonempty : digits ≠ []) :
    (∃ int, readInteger digits = .ok int) ↔
      digits.all Unicode.isDecimal = true ∧ digits.length ≤ digitLimit := by
  rw [← all_isPlainDigit_iff numeric, ← digits.length_map plain]
  constructor
  · rintro ⟨int, read⟩
    exact decimal_of_readInteger numeric read
  · rintro ⟨decimal, short⟩
    have inhabited : digits.map plain ≠ [] := mt map_eq_nil_iff.mp nonempty
    exact ⟨_, (readInteger_map_plain numeric).symm.trans
      (readInteger_of_digits inhabited decimal short)⟩

end Digits

/-! ## Numbers with a fraction -/

/-- If one of the figures is no digit, reading digits stops there. -/
theorem dropWhile_of_mark {marks : List Char} (shapes : ∀ mark ∈ marks, IsFigure mark)
    (odd : ¬∀ mark ∈ marks, isPlainDigit mark = true) (tail : List Char) :
    ∃ rest, (marks ++ tail).dropWhile isPlainDigit = '?' :: rest := by
  induction marks with
  | nil => exact (odd fun _ mem => absurd mem not_mem_nil).elim
  | cons first marks ih =>
    rcases shapes first mem_cons_self with digit | rfl
    · have further : ¬∀ mark ∈ marks, isPlainDigit mark = true :=
        fun all => odd (forall_mem_cons.mpr ⟨digit, all⟩)
      rcases ih (forall_mem_cons.mp shapes).2 further with
        ⟨rest, stopped⟩
      exact ⟨rest, (dropWhile_cons_of_pos digit).trans stopped⟩
    · exact ⟨marks ++ tail, rfl⟩

theorem readExponent_of_mark (rest : List Char) : readExponent? ('?' :: rest) = none := rfl

/-- Figures before and after a point are read exactly if all of them are digits. -/
theorem readDecimal_isSome_iff (nonempty : whole ≠ []) (wholeShapes : ∀ mark ∈ whole, IsFigure mark)
    (fractionShapes : ∀ mark ∈ frac, IsFigure mark) (negative : Bool) :
    (readDecimal? negative (whole ++ '.' :: frac)).isSome = true ↔
      (∀ mark ∈ whole, isPlainDigit mark = true) ∧ ∀ mark ∈ frac, isPlainDigit mark = true := by
  by_cases decimal : ∀ mark ∈ whole, isPlainDigit mark = true
  · have stops : ∀ char ∈ ('.' :: frac).head?, isPlainDigit char = false := by
      intro char mem
      cases mem
      rfl
    have wholeTaken := takeWhile_run decimal stops
    have wholeDropped := dropWhile_run decimal stops
    simp only [readDecimal?, wholeTaken, wholeDropped, isEmpty_eq_false_iff.mpr nonempty,
      Bool.false_and, Bool.false_eq_true, if_false, Option.isSome_map]
    rw [and_iff_right decimal]
    by_cases further : ∀ mark ∈ frac, isPlainDigit mark = true
    · have ended : frac.dropWhile isPlainDigit = [] := dropWhile_eq_nil_iff.mpr further
      rw [ended]
      exact iff_of_true rfl further
    · obtain ⟨rest, stopped⟩ := dropWhile_of_mark fractionShapes further []
      rw [append_nil] at stopped
      rw [stopped, readExponent_of_mark]
      exact iff_of_false Bool.false_ne_true further
  · obtain ⟨rest, stopped⟩ := dropWhile_of_mark wholeShapes decimal ('.' :: frac)
    have unread : readDecimal? negative (whole ++ '.' :: frac) = none := by
      simp only [readDecimal?, stopped]
      split
      case h_1 same => cases same
      case h_2 => simp only [readExponent_of_mark, Option.map_none, ite_self]
    rw [unread]
    exact iff_of_false Bool.false_ne_true fun both => decimal both.1

/-- A number with a fraction is read exactly if all its digits are decimal. -/
theorem readFloat_isSome_iff (nonempty : whole ≠ [])
    (numeric : ∀ char ∈ whole, Unicode.isDigit char = true)
    (fractionNumeric : ∀ char ∈ frac, Unicode.isDigit char = true) :
    (readFloat? (whole ++ '.' :: frac)).isSome = true ↔
      (whole ++ frac).all Unicode.isDecimal = true := by
  rw [all_append, Bool.and_eq_true, ← all_isPlainDigit_iff numeric,
    ← all_isPlainDigit_iff fractionNumeric]
  have wholeShapes := figures numeric
  have fractionShapes := figures fractionNumeric
  have inhabited : whole.map plain ≠ [] := mt map_eq_nil_iff.mp nonempty
  have parts : (whole ++ '.' :: frac).map plain =
      whole.map plain ++ '.' :: frac.map plain := by
    rw [map_append, map_cons]
    rfl
  unfold readFloat?
  rw [parts]
  generalize whole.map plain = marks at wholeShapes inhabited ⊢
  generalize frac.map plain = others at fractionShapes ⊢
  rw [← readDecimal_isSome_iff inhabited wholeShapes fractionShapes false]
  have kinds : ∀ mark ∈ marks ++ '.' :: others, IsFigure mark ∨ mark = '.' := by
    intro mark mem
    rcases mem_append.mp mem with inside | inside
    · exact .inl (wholeShapes mark inside)
    · rcases mem_cons.mp inside with rfl | inside
      · exact .inr rfl
      · exact .inl (fractionShapes mark inside)
  have noBlank : ∀ mark ∈ marks ++ '.' :: others, isPlainBlank mark = false := by
    intro mark mem
    rcases kinds mark mem with figure | rfl
    · exact figure.not_isPlainBlank
    · rfl
  have noLine : ∀ mark ∈ marks ++ '.' :: others, mark ≠ '_' := by
    intro mark mem
    rcases kinds mark mem with figure | rfl
    · exact figure.ne_underscore
    · decide
  have trimmed : ((marks ++ '.' :: others).reverse.dropWhile isPlainBlank).reverse =
      marks ++ '.' :: others := by
    rw [dropWhile_of_no_blank fun mark mem => noBlank mark (mem_reverse.mp mem), reverse_reverse]
  have fit : underscoresFit ' ' (marks ++ '.' :: others) = true :=
    underscoresFit_of_not_mem (fun mem => noLine '_' mem rfl) (by decide)
  have kept : (marks ++ '.' :: others).filter (· != '_') = marks ++ '.' :: others :=
    filter_eq_self.mpr fun mark mem => bne_iff_ne.mpr (noLine mark mem)
  simp only [dropWhile_of_no_blank noBlank, trimmed, fit, kept]
  obtain ⟨first, marks, rfl⟩ := exists_cons_of_ne_nil inhabited
  have figure := wholeShapes first mem_cons_self
  have notInf := figure.ne_word (show "inf".toList.head? = some 'i' from rfl) (by decide)
  have notInfinity := figure.ne_word (show "infinity".toList.head? = some 'i' from rfl) (by decide)
  have notNan := figure.ne_word (show "nan".toList.head? = some 'n' from rfl) (by decide)
  simp only [cons_append, takeSign_of_figure figure, map_cons, notInf, notInfinity,
    notNan, Bool.not_true, Bool.false_eq_true, if_false, Bool.or_self]

/-! ## Conversions -/

theorem integerOfText_eq_ok_iff {digits : List Char} (nonempty : digits ≠ [])
    (numeric : ∀ char ∈ digits, Unicode.isDigit char = true) :
    (∃ int, integerOfText (String.ofList digits) = .ok int) ↔
      digits.all Unicode.isDecimal = true ∧ digits.length ≤ digitLimit := by
  rw [← readInteger_isOk_iff numeric nonempty, integerOfText, String.toList_ofList]
  cases readInteger digits with
  | ok int => simp
  | error flaw => cases flaw <;> simp

theorem floatOfText_eq_ok_iff (nonempty : whole ≠ [])
    (numeric : ∀ char ∈ whole, Unicode.isDigit char = true)
    (fractionNumeric : ∀ char ∈ frac, Unicode.isDigit char = true) :
    (∃ num, floatOfText (String.ofList (whole ++ '.' :: frac)) = .ok num) ↔
      (whole ++ frac).all Unicode.isDecimal = true := by
  rw [← readFloat_isSome_iff nonempty numeric fractionNumeric, floatOfText, String.toList_ofList]
  cases readFloat? (whole ++ '.' :: frac) <;> simp

theorem className_of_integerOfText {text : String} (failed : integerOfText text = .error failure) :
    failure.className = "ValueError" := by
  unfold integerOfText at failed
  split at failed
  · cases failed
  · cases failed
    rfl
  · cases failed
    rfl

theorem className_of_floatOfText {text : String} (failed : floatOfText text = .error failure) :
    failure.className = "ValueError" := by
  unfold floatOfText at failed
  split at failed
  · cases failed
  · cases failed
    rfl

end Number

end Spellbook
