import Spellbook.Json.Reader
import Spellbook.Json.Writer
import Spellbook.Proofs.Lexing.Numeral

/-!
# Strings and integers in JSON

A text is read back from its form between quotes, whatever its characters: those with a letter of
their own, those that stand as they are, those written by number, and those beyond the first plane,
which take two numbers (`readString_quoted`).  An integer is read back from its decimal digits, if
there are not too many of them (`readNumber_integerText`).
-/

namespace Spellbook.Json

open List
open Text (hexDigit hexadecimal)

/-! ## Numbers of code units -/

theorem hexValue?_hexDigit : ∀ value < 16, hexValue? (hexDigit value) = some value := by decide

theorem length_hexadecimal (width value : Nat) : (hexadecimal width value).length = width := by
  induction width generalizing value with
  | zero => rfl
  | succ width ih => rw [hexadecimal, length_append, ih, length_singleton]

theorem foldlM_hexadecimal {width value : Nat} (small : value < Nat.pow 16 width) :
    (hexadecimal width value).foldlM
      (fun value digit => (hexValue? digit).map (16 * value + ·)) 0 = some value := by
  induction width generalizing value with
  | zero =>
    rw [Nat.lt_one_iff.mp small]
    rfl
  | succ width ih =>
    have higher : value / 16 < Nat.pow 16 width := Nat.div_lt_of_lt_mul (Nat.mul_comm .. ▸ small)
    rw [hexadecimal, foldlM_append, ih higher]
    change (Option.map _ (hexValue? (hexDigit (value % 16)))).bind some = _
    rw [hexValue?_hexDigit _ (Nat.mod_lt _ (by decide))]
    exact congrArg some (Nat.div_add_mod value 16)

theorem hexUnit?_hexadecimal {unit : Nat} (small : unit < 0x10000) :
    hexUnit? (hexadecimal 4 unit) = some unit := by
  rw [hexUnit?, if_pos (length_hexadecimal 4 unit), foldlM_hexadecimal small]

theorem unitEscape_append (unit : Nat) (rest : List Char) :
    unitEscape unit ++ rest = '\\' :: 'u' :: (hexadecimal 4 unit ++ rest) := rfl

section Escape

variable {rest : List Char} (goesOn : rest ≠ [])

include goesOn

/-- A code unit that is no half of a pair is read as its character. -/
theorem numberEscape_unit {unit : Nat} (small : unit < 0x10000) (whole : isHighHalf unit = false) :
    numberEscape (hexadecimal 4 unit ++ rest) = .ok (unitChar unit, rest) := by
  have digits := length_hexadecimal 4 unit
  have more := length_pos_iff.mpr goesOn
  have long : ¬(hexadecimal 4 unit ++ rest).length ≤ 4 := by
    rw [length_append]
    omega
  simp only [numberEscape, long, take_left' digits, drop_left' digits,
    hexUnit?_hexadecimal small, whole, Bool.false_eq_true, if_false]

theorem secondUnit_low {unit : Nat} (small : unit < 0x10000) (low : isLowHalf unit = true) :
    secondUnit (unitEscape unit ++ rest) = .ok (some unit) := by
  have digits := length_hexadecimal 4 unit
  have more := length_pos_iff.mpr goesOn
  have long : ¬(unitEscape unit ++ rest).length ≤ 6 := by
    simp only [unitEscape, length_append, length_cons, length_nil]
    omega
  rw [unitEscape_append] at long ⊢
  simp only [secondUnit, long, take_left' digits, hexUnit?_hexadecimal small, low, if_false,
    if_true]

/-- The two halves of a pair are read as one character. -/
theorem numberEscape_pair {high low : Nat} (isHigh : isHighHalf high = true)
    (isLow : isLowHalf low = true) :
    numberEscape (hexadecimal 4 high ++ (unitEscape low ++ rest)) =
      .ok (Char.ofNat (0x10000 + (high - 0xD800) * 0x400 + (low - 0xDC00)), rest) := by
  have highSmall : high < 0x10000 := by
    simp only [isHighHalf, Bool.and_eq_true, decide_eq_true_eq] at isHigh
    omega
  have lowSmall : low < 0x10000 := by
    simp only [isLowHalf, Bool.and_eq_true, decide_eq_true_eq] at isLow
    omega
  have digits := length_hexadecimal 4 high
  have escape : (unitEscape low).length = 6 := by
    rw [unitEscape, length_append, length_hexadecimal]
    rfl
  have long : ¬(hexadecimal 4 high ++ (unitEscape low ++ rest)).length ≤ 4 := by
    rw [length_append, length_append]
    omega
  simp only [numberEscape, long, take_left' digits, drop_left' digits,
    hexUnit?_hexadecimal highSmall, isHigh, secondUnit_low goesOn lowSmall isLow,
    drop_left' escape, if_false, if_true]

end Escape

/-! ## The forms of a character -/

/-- A character that JSON text is made of: a line feed or a printable one of ASCII. -/
def isPlain (char : Char) : Bool :=
  char == '\n' || (32 ≤ char.toNat && char.toNat < 127)

def isPrintable (char : Char) : Bool := 32 ≤ char.toNat && char.toNat < 127

theorem all_isPlain_of_isPrintable {text : List Char} (printable : text.all isPrintable = true) :
    text.all isPlain = true :=
  all_eq_true.mpr fun char mem =>
    Bool.or_eq_true_iff.mpr (Or.inr (all_eq_true.mp printable char mem))

theorem isPrintable_hexDigit : ∀ value < 16, isPrintable (hexDigit value) = true := by decide

theorem all_isPrintable_hexadecimal (width value : Nat) :
    (hexadecimal width value).all isPrintable = true := by
  induction width generalizing value with
  | zero => rfl
  | succ width ih =>
    rw [hexadecimal, all_append, ih, all_cons, isPrintable_hexDigit _ (Nat.mod_lt _ (by decide))]
    rfl

theorem all_isPrintable_unitEscape (unit : Nat) : (unitEscape unit).all isPrintable = true := by
  rw [unitEscape, all_append, all_isPrintable_hexadecimal]
  rfl

/-- The four ways in which a character stands in a string. -/
inductive Escaped (char : Char) : List Char → Prop where
  /-- By a letter of its own. -/
  | simple {letter : Char} (stands : simpleEscape? letter = some char)
      (plain : isPrintable letter = true) : Escaped char ['\\', letter]
  /-- As it is. -/
  | plain (notQuote : char ≠ '"') (notBackslash : char ≠ '\\')
      (least : 32 ≤ char.toNat) (greatest : char.toNat < 127) :
      Escaped char [char]
  /-- By its number. -/
  | unit (small : char.toNat < 0x10000) : Escaped char (unitEscape char.toNat)
  /-- By the two halves of its number. -/
  | pair (large : 0x10000 ≤ char.toNat) :
      Escaped char (unitEscape (0xD800 + (char.toNat - 0x10000) / 0x400) ++
        unitEscape (0xDC00 + (char.toNat - 0x10000) % 0x400))

theorem escaped_escapeChar (char : Char) : Escaped char (escapeChar char) := by
  have special {special letter : Char} (stands : simpleEscape? letter = some special)
      (plain : isPrintable letter = true) (same : (char == special) = true) :
      Escaped char ['\\', letter] := by
    rw [beq_iff_eq.mp same]
    exact .simple stands plain
  unfold escapeChar
  split
  case isTrue delicate =>
    rcases Bool.or_eq_true_iff.mp delicate with same | same
    · rw [beq_iff_eq.mp same]
      exact .simple rfl rfl
    · rw [beq_iff_eq.mp same]
      exact .simple rfl rfl
  split
  case isTrue same => exact special rfl rfl same
  split
  case isTrue same => exact special rfl rfl same
  split
  case isTrue same => exact special rfl rfl same
  split
  case isTrue same => exact special rfl rfl same
  split
  case isTrue same => exact special rfl rfl same
  case isFalse notDelicate _ _ _ _ _ =>
    simp only [Bool.or_eq_true, beq_iff_eq, not_or] at notDelicate
    dsimp only
    split
    case isTrue printable =>
      simp only [Bool.and_eq_true, decide_eq_true_eq] at printable
      exact .plain notDelicate.1 notDelicate.2 printable.1 printable.2
    split
    case isTrue small => exact .unit small
    case isFalse large => exact .pair (Nat.le_of_not_lt large)

theorem Escaped.all_isPrintable {char : Char} {text : List Char}
    (escaped : Escaped char text) : text.all isPrintable = true := by
  cases escaped with
  | simple stands plain =>
    rw [all_cons, all_cons, plain]
    rfl
  | plain _ _ least greatest => simp [isPrintable, least, greatest]
  | unit => exact all_isPrintable_unitEscape _
  | pair => rw [all_append, all_isPrintable_unitEscape, all_isPrintable_unitEscape, Bool.and_self]

theorem Escaped.ne_nil {char : Char} {text : List Char} (escaped : Escaped char text) :
    text ≠ [] := by
  cases escaped <;> exact cons_ne_nil _ _

/-! ## Strings -/

section Character

variable {left fuel : Nat} {rest chars others : List Char}
  (further : readChars left fuel rest = .ok (chars, others))

include further

theorem readChars_simple {letter char : Char} (simple : simpleEscape? letter = some char) :
    readChars left (fuel + 1) ('\\' :: letter :: rest) = .ok (char :: chars, others) := by
  rw [readChars]
  · rw [simple, further]
    rfl
  · rintro rfl
    cases simple

theorem readChars_number {digits : List Char} {char : Char}
    (num : numberEscape digits = .ok (char, rest)) :
    readChars left (fuel + 1) ('\\' :: 'u' :: digits) = .ok (char :: chars, others) := by
  rw [readChars, num]
  dsimp only
  rw [further]
  rfl

theorem readChars_plain {char : Char} (notQuote : char ≠ '"')
    (notBackslash : char ≠ '\\') (high : 32 ≤ char.toNat) :
    readChars left (fuel + 1) (char :: rest) = .ok (char :: chars, others) := by
  rw [readChars, if_neg (Nat.not_lt.mpr high), further]
  · rfl
  · exact notQuote
  · exact notBackslash

/-- A character is read back from its form in a string. -/
theorem readChars_escaped {char : Char} {text : List Char} (escaped : Escaped char text)
    (goesOn : rest ≠ []) :
    readChars left (fuel + 1) (text ++ rest) = .ok (char :: chars, others) := by
  have isPoint : char.toNat < 0xD800 ∨ 0xDFFF < char.toNat ∧ char.toNat < 0x110000 :=
    char.valid
  cases escaped with
  | simple stands => exact readChars_simple further stands
  | plain notQuote notBackslash least => exact readChars_plain further notQuote notBackslash least
  | unit small =>
    have notHigh : isHighHalf char.toNat = false := by
      simp only [isHighHalf, Bool.and_eq_false_iff, decide_eq_false_iff_not]
      omega
    have notLow : isLowHalf char.toNat = false := by
      simp only [isLowHalf, Bool.and_eq_false_iff, decide_eq_false_iff_not]
      omega
    have same : unitChar char.toNat = char := by
      rw [unitChar, notHigh, notLow, Bool.or_self, if_neg Bool.false_ne_true, Char.ofNat_toNat]
    have num := numberEscape_unit goesOn small notHigh
    rw [same] at num
    rw [unitEscape_append]
    exact readChars_number further num
  | pair large =>
    have high : isHighHalf (0xD800 + (char.toNat - 0x10000) / 0x400) = true := by
      simp only [isHighHalf, Bool.and_eq_true, decide_eq_true_eq]
      omega
    have low : isLowHalf (0xDC00 + (char.toNat - 0x10000) % 0x400) = true := by
      simp only [isLowHalf, Bool.and_eq_true, decide_eq_true_eq]
      omega
    have num := numberEscape_pair goesOn high low
    have same : 0x10000 + (0xD800 + (char.toNat - 0x10000) / 0x400 - 0xD800) * 0x400 +
        (0xDC00 + (char.toNat - 0x10000) % 0x400 - 0xDC00) = char.toNat := by
      omega
    rw [same, Char.ofNat_toNat] at num
    rw [append_assoc, unitEscape_append]
    exact readChars_number further num

end Character

/-- What a string holds is read back up to the closing quote. -/
theorem readChars_flatMap {left fuel : Nat} {chars : List Char}
    (enough : chars.length < fuel) (rest : List Char) :
    readChars left fuel (chars.flatMap escapeChar ++ '"' :: rest) = .ok (chars, rest) := by
  induction chars generalizing fuel with
  | nil =>
    cases fuel with
    | zero => cases enough
    | succ fuel => rfl
  | cons char chars ih =>
    cases fuel with
    | zero => cases enough
    | succ fuel =>
      rw [flatMap_cons, append_assoc]
      exact readChars_escaped (ih (Nat.lt_of_succ_lt_succ enough))
        (escaped_escapeChar char) (by simp)

theorem length_le_escaped (chars : List Char) :
    chars.length ≤ (chars.flatMap escapeChar).length := by
  induction chars with
  | nil => exact Nat.le_refl 0
  | cons char chars ih =>
    have one := length_pos_iff.mpr (escaped_escapeChar char).ne_nil
    rw [flatMap_cons, length_append, length_cons]
    omega

/-- A text is read back from its form between quotes. -/
theorem readString_quoted (text : String) (rest : List Char) :
    readString (text.toList.flatMap escapeChar ++ '"' :: rest) = .ok (text, rest) := by
  have short := length_le_escaped text.toList
  rw [readString, readChars_flatMap (by rw [length_append]; omega)]
  exact congrArg (fun text => Except.ok (text, rest)) String.ofList_toList

theorem all_isPrintable_quoted (text : String) : (quoted text).all isPrintable = true := by
  have inside : (text.toList.flatMap escapeChar).all isPrintable = true := by
    rw [all_flatMap, all_eq_true]
    intro char _
    exact (escaped_escapeChar char).all_isPrintable
  rw [quoted, cons_append, all_cons, all_append, inside]
  rfl

/-! ## Integers -/

/-- A character that goes on with a number. -/
def extendsNumber (char : Char) : Bool :=
  isDigit char || char == '.' || char == 'e' || char == 'E'

/-- What may follow a number without being part of it. -/
def Parted (rest : List Char) : Prop := ∀ first ∈ rest.head?, extendsNumber first = false

namespace Parted

variable {rest : List Char} (parted : Parted rest)

include parted

theorem takeFraction : takeFraction rest = ([], rest) := by
  unfold Json.takeFraction
  split
  case h_1 => cases parted '.' rfl
  case h_2 => rfl

theorem takeExponent : takeExponent rest = (none, rest) := by
  cases rest with
  | nil => rfl
  | cons first rest =>
    have ends := parted first rfl
    simp only [extendsNumber, Bool.or_eq_false_iff] at ends
    rw [Json.takeExponent, ends.1.2, ends.2]
    rfl

theorem not_isDigit : ∀ first ∈ rest.head?, isDigit first = false := by
  intro first mem
  have ends := parted first mem
  simp only [extendsNumber, Bool.or_eq_false_iff] at ends
  exact ends.1.1.1

end Parted

/-- Digits are the whole part of a number, if they do not start with a zero for nothing. -/
theorem takeWhole_run {first : Char} {digits rest : List Char}
    (decimal : ∀ digit ∈ first :: digits, isDigit digit = true)
    (zero : first = '0' → digits = [])
    (stops : ∀ first ∈ rest.head?, isDigit first = false) :
    takeWhole (first :: digits ++ rest) = some (first :: digits, rest) := by
  by_cases leading : first = '0'
  · cases leading
    cases zero rfl
    rfl
  · have taken := takeWhile_run decimal stops
    have left := dropWhile_run decimal stops
    rw [cons_append] at taken left ⊢
    rw [takeWhole, takeDigits, taken, left]
    · rfl
    · intro _ same
      exact leading (List.cons.inj same).1

theorem exists_toDigits (num : Nat) :
    ∃ first others, Nat.toDigits 10 num = first :: others ∧ first.isDigit = true ∧
      (first = '0' → others = []) := by
  have decimal (digit) (mem : digit ∈ Nat.toDigits 10 num) : digit.isDigit = true :=
    Nat.isDigit_of_mem_toDigits (by decide) (by decide) mem
  cases digits : Nat.toDigits 10 num with
  | nil => exact absurd digits Nat.toDigits_ne_nil
  | cons first others =>
    refine ⟨first, others, rfl, decimal first (digits ▸ mem_cons_self), fun zero => ?_⟩
    rcases Nat.eq_zero_or_pos num with rfl | positive
    · rw [Nat.toDigits_zero] at digits
      exact (cons.inj digits).2.symm
    · exact absurd zero (Number.toDigits_head_ne_zero positive first (digits ▸ rfl))

def minus (negative : Bool) : List Char := if negative then ['-'] else []

theorem takeMinus_minus (negative : Bool) {first : Char} (digit : first.isDigit = true)
    (others : List Char) :
    takeMinus (minus negative ++ first :: others) = (minus negative, first :: others) := by
  cases negative with
  | true => rfl
  | false =>
    change takeMinus (first :: others) = ([], first :: others)
    unfold takeMinus
    split
    case h_1 same =>
      cases same
      cases digit
    case h_2 => rfl

theorem integerOfText_toDigits (negative : Bool) {num : Nat}
    (short : num < Nat.pow 10 Number.digitLimit) :
    Number.integerOfText (String.ofList (minus negative ++ Nat.toDigits 10 num)) =
      .ok (if negative then -num else num) := by
  have read := Number.readInteger_toDigits short
  rw [Number.integerOfText, String.toList_ofList]
  cases negative with
  | false =>
    rw [minus, if_neg Bool.false_ne_true, nil_append, read]
    rfl
  | true =>
    obtain ⟨first, others, digits, digit, -⟩ := exists_toDigits num
    rw [digits] at read ⊢
    rw [minus, if_pos rfl, singleton_append, Number.readInteger_minus digit, read]
    rfl

theorem integerText_toList (int : Int) :
    (Number.integerText int).toList = minus (int < 0) ++ Nat.toDigits 10 int.natAbs := by
  unfold Number.integerText minus
  by_cases negative : int < 0
  · rw [if_pos negative, if_pos (decide_eq_true negative), String.toList_append, Nat.toList_repr]
    rfl
  · rw [if_neg negative, if_neg (mt of_decide_eq_true negative), Nat.toList_repr]
    rfl

/-- An integer is read back from its decimal digits, if there are not too many of them. -/
theorem readNumber_integerText {int : Int} (short : Number.isWritable int = true)
    {rest : List Char} (parted : Parted rest) :
    readNumber ((Number.integerText int).toList ++ rest) = .ok (.rune int, rest) := by
  have decimal (digit) (mem : digit ∈ Nat.toDigits 10 int.natAbs) : digit.isDigit = true :=
    Nat.isDigit_of_mem_toDigits (by decide) (by decide) mem
  have read := integerOfText_toDigits (int < 0) (of_decide_eq_true short)
  have signed : (if decide (int < 0) then -(int.natAbs : Int) else int.natAbs) =
      int := by
    simp only [decide_eq_true_eq]
    split <;> omega
  rw [integerText_toList, append_assoc]
  obtain ⟨first, others, digits, digit, zero⟩ := exists_toDigits int.natAbs
  rw [digits] at decimal read ⊢
  have whole := takeWhole_run decimal zero parted.not_isDigit
  rw [cons_append] at whole ⊢
  simp only [readNumber, takeMinus_minus _ digit, whole, parted.takeFraction, parted.takeExponent,
    read, signed, isEmpty_nil, Option.isNone_none, Bool.and_self, if_true]

/-- A text that starts as an integer does. -/
inductive Numeric : List Char → Prop where
  | natural {first : Char} (digit : first.isDigit = true) (rest : List Char) :
      Numeric (first :: rest)
  | negative {first : Char} (digit : first.isDigit = true) (rest : List Char) :
      Numeric ('-' :: first :: rest)

namespace Numeric

variable {text : List Char} (numeric : Numeric text)

include numeric

theorem append (rest : List Char) : Numeric (text ++ rest) := by
  cases numeric with
  | natural digit others => exact .natural digit _
  | negative digit others => exact .negative digit _

theorem take_two : (text.take 2).any Char.isDigit = true := by
  cases numeric with
  | natural digit others => rw [take_succ_cons, any_cons, digit, Bool.true_or]
  | negative digit others =>
    rw [take_succ_cons, take_succ_cons, any_cons, any_cons, digit, Bool.true_or, Bool.or_true]

/-- Every word starts with two letters or a minus and a letter, so none is taken for an integer. -/
theorem readScalar : readScalar text = readNumber text := by
  have letters : words.all (fun entry => 2 ≤ entry.1.length &&
      !(entry.1.take 2).any Char.isDigit) = true := by decide
  have noWord : words.find? (fun entry => entry.1.isPrefixOf text) = none := by
    rw [List.find?_eq_none]
    intro entry mem leads
    obtain ⟨others, rfl⟩ := isPrefixOf_iff_prefix.mp leads
    have start := all_eq_true.mp letters entry mem
    rw [Bool.and_eq_true, decide_eq_true_eq, Bool.not_eq_true'] at start
    have digit := numeric.take_two
    rw [take_append_of_le_length start.1, start.2] at digit
    cases digit
  rw [Json.readScalar, noWord]

end Numeric

theorem numeric_minus (negative : Bool) {first : Char} (digit : first.isDigit = true)
    (others : List Char) : Numeric (minus negative ++ first :: others) := by
  cases negative with
  | true => exact .negative digit others
  | false => exact .natural digit others

theorem numeric_integerText (int : Int) : Numeric (Number.integerText int).toList := by
  obtain ⟨first, others, digits, digit, -⟩ := exists_toDigits int.natAbs
  rw [integerText_toList, digits]
  exact numeric_minus _ digit others

theorem isPrintable_of_isDigit {char : Char} (digit : char.isDigit = true) :
    isPrintable char = true := by
  obtain ⟨value, small, same⟩ := Number.exists_of_isDigit digit
  simp only [isPrintable, same, Bool.and_eq_true, decide_eq_true_eq]
  omega

theorem all_isPrintable_minus (negative : Bool) : (minus negative).all isPrintable = true := by
  cases negative <;> rfl

theorem all_isPrintable_integerText (int : Int) :
    (Number.integerText int).toList.all isPrintable = true := by
  have digits : (Nat.toDigits 10 int.natAbs).all isPrintable = true :=
    all_eq_true.mpr fun digit mem =>
      isPrintable_of_isDigit (Nat.isDigit_of_mem_toDigits (by decide) (by decide) mem)
  rw [integerText_toList, all_append, all_isPrintable_minus, digits]
  rfl

end Spellbook.Json
