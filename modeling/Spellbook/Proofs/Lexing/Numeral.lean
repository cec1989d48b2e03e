import Spellbook.Token.Lexer

/-!
# Digits and numerals

No letter is a digit.  Every natural number is read back from its decimal digits, unless there are
more of them than a text may have; and a text of digits in whatever script spells a natural number
below the same bound.
-/

namespace Spellbook

open List

/-! ## Runs of characters -/

section Run

variable {keep : Char → Bool} {run tail : List Char} (kept : ∀ char ∈ run, keep char = true)
  (stops : ∀ char ∈ tail.head?, keep char = false)

include kept stops

theorem takeWhile_run : (run ++ tail).takeWhile keep = run := by
  rw [takeWhile_append_of_pos kept]
  cases tail with
  | nil => rw [takeWhile_nil, append_nil]
  | cons first tail =>
    rw [takeWhile_cons_of_neg (Bool.eq_false_iff.mp (stops first rfl)), append_nil]

theorem dropWhile_run : (run ++ tail).dropWhile keep = tail := by
  rw [dropWhile_append_of_pos kept]
  cases tail with
  | nil => rfl
  | cons first tail => exact dropWhile_cons_of_neg (Bool.eq_false_iff.mp (stops first rfl))

end Run

/-! ## Letters and digits -/

namespace Unicode

/-- What bisection finds lies in one of the intervals. -/
theorem Intervals.exists_of_seek {intervals : Intervals} {point rounds low high : Nat}
    (found : intervals.seek point rounds low high = true) :
    ∃ interval ∈ intervals.bounds.toList, interval.1 ≤ point ∧ point ≤ interval.2 := by
  fun_induction intervals.seek point rounds low high with
  | case1 | case2 | case6 => cases found
  | case3 rounds low high inside middle first last there below ih => exact ih found
  | case4 rounds low high inside middle first last there above beyond ih => exact ih found
  | case5 rounds low high inside middle first last there above within =>
    refine ⟨(first, last), ?_, Nat.le_of_not_lt above, Nat.le_of_not_lt within⟩
    exact Array.mem_toList_iff.mpr (Array.mem_of_getElem? there)

/-- A character of one set is not in another if no interval of one meets one of the other. -/
theorem Intervals.not_holds_of_apart {left right : Intervals}
    (apart : (left.bounds.toList.any fun interval => right.bounds.toList.any fun other =>
      Nat.ble interval.1 other.2 && Nat.ble other.1 interval.2) = false)
    {char : Char} (held : left.holds char = true) : right.holds char = false := by
  rw [Bool.eq_false_iff]
  intro otherHeld
  obtain ⟨interval, mem, above, below⟩ := exists_of_seek held
  obtain ⟨other, otherMember, otherAbove, otherBelow⟩ := exists_of_seek otherHeld
  rw [any_eq_false] at apart
  apply apart interval mem
  rw [any_eq_true]
  refine ⟨other, otherMember, Bool.and_eq_true_iff.mpr ⟨?_, ?_⟩⟩
  · exact Nat.ble_eq.mpr (Nat.le_trans above otherBelow)
  · exact Nat.ble_eq.mpr (Nat.le_trans otherAbove below)

theorem isDigit_of_isLetter {char : Char} (letter : isLetter char = true) :
    isDigit char = false :=
  Intervals.not_holds_of_apart (by decide +kernel) letter

end Unicode

namespace Number

/-! ## Decimal digits -/

/-- A decimal digit is one of ten characters. -/
theorem exists_of_isDigit {char : Char} (digit : char.isDigit = true) :
    ∃ value < 10, char.toNat = 48 + value := by
  simp only [Char.isDigit, Bool.and_eq_true, decide_eq_true_eq] at digit
  obtain ⟨least, greatest⟩ := digit
  have above : 48 ≤ char.toNat := least
  have below : char.toNat ≤ 57 := greatest
  exact ⟨char.toNat - 48, by omega, by omega⟩

section Digit

variable {char : Char} (digit : char.isDigit = true)

include digit

theorem isDigit_of_decimal : Unicode.isDigit char = true := by
  have all : ∀ value < 10, Unicode.digits.contains (48 + value) = true := by decide +kernel
  obtain ⟨value, small, same⟩ := exists_of_isDigit digit
  rw [Unicode.isDigit, Unicode.Intervals.holds, same]
  exact all value small

theorem plain_of_decimal : plain char = char := by
  obtain ⟨value, small, same⟩ := exists_of_isDigit digit
  rw [plain, if_pos]
  omega

theorem not_isPlainBlank : isPlainBlank char = false := by
  obtain ⟨value, small, same⟩ := exists_of_isDigit digit
  have notSpace : char ≠ ' ' := by
    rintro rfl
    cases digit
  simp only [isPlainBlank, beq_eq_false_iff_ne.mpr notSpace, Bool.false_or, Bool.and_eq_false_iff,
    decide_eq_false_iff_not]
  omega

theorem ne_underscore : char ≠ '_' := by
  rintro rfl
  cases digit

end Digit

theorem underscoresFit_of_digits {digits : List Char}
    (decimal : ∀ char ∈ digits, char.isDigit = true) {previous : Char}
    (other : previous ≠ '_') : underscoresFit previous digits = true := by
  induction digits generalizing previous with
  | nil => exact bne_iff_ne.mpr other
  | cons first digits ih =>
    have firstOther := ne_underscore (decimal first mem_cons_self)
    have further := ih (forall_mem_cons.mp decimal).2 firstOther
    rw [underscoresFit, if_neg (mt beq_iff_eq.mp firstOther), bne_iff_ne.mpr other, further]
    rfl

theorem takeSign_of_digits {digits : List Char} (decimal : ∀ char ∈ digits, char.isDigit = true) :
    takeSign digits = (false, digits) := by
  unfold takeSign
  split
  · cases decimal '-' mem_cons_self
  · cases decimal '+' mem_cons_self
  · rfl

/-- A text of decimal digits is read as the number that they spell, if there are not too many. -/
theorem readInteger_of_digits {digits : List Char} (nonempty : digits ≠ [])
    (decimal : ∀ char ∈ digits, char.isDigit = true)
    (short : digits.length ≤ digitLimit) : readInteger digits = .ok (digitsValue digits) := by
  have same : digits.map plain = digits :=
    (map_congr_left fun char mem => plain_of_decimal (decimal char mem)).trans (map_id digits)
  have noBlank : digits.dropWhile isPlainBlank = digits := by
    cases digits with
    | nil => rfl
    | cons first digits =>
      exact dropWhile_cons_of_neg
        (Bool.eq_false_iff.mp (not_isPlainBlank (decimal first mem_cons_self)))
  have stopsAtEnd : ∀ keep : Char → Bool, ∀ char ∈ ([] : List Char).head?,
      keep char = false := by
    intro keep char mem
    cases mem
  have parts : ∀ char ∈ digits, (isPlainDigit char || char == '_') = true :=
    fun char mem => Bool.or_eq_true_iff.mpr (Or.inl (decimal char mem))
  have allTaken : digits.takeWhile (fun char => isPlainDigit char || char == '_') =
      digits := by
    simpa only [append_nil] using takeWhile_run parts (stopsAtEnd _)
  have noneLeft : digits.dropWhile (fun char => isPlainDigit char || char == '_') =
      [] := by
    simpa only [append_nil] using dropWhile_run parts (stopsAtEnd _)
  have allKept : digits.filter isPlainDigit = digits := filter_eq_self.mpr decimal
  have fit := underscoresFit_of_digits decimal (show ' ' ≠ '_' by decide)
  simp only [readInteger, same, noBlank, takeSign_of_digits decimal, allTaken, noneLeft, allKept,
    fit, isEmpty_eq_false_iff.mpr nonempty, Nat.not_lt_of_le short, Bool.not_true,
    Bool.or_false, Bool.false_eq_true, if_false, all_nil]

theorem length_toDigits_le {num limit : Nat} (positive : 0 < limit)
    (short : num < Nat.pow 10 limit) : (Nat.toDigits 10 num).length ≤ limit :=
  (Nat.length_toDigits_le_iff (by decide) positive).mpr short

theorem readInteger_toDigits {num : Nat} (short : num < Nat.pow 10 digitLimit) :
    readInteger (Nat.toDigits 10 num) = .ok num := by
  have read := readInteger_of_digits Nat.toDigits_ne_nil
    (fun char mem => Nat.isDigit_of_mem_toDigits (by decide) (by decide) mem)
    (length_toDigits_le (by decide) short)
  have value : digitsValue (Nat.toDigits 10 num) = num := Nat.ofDigitChars_ten_toDigits
  rwa [value] at read

theorem toDigits_head_ne_zero {num : Nat} (positive : 0 < num) :
    ∀ first ∈ (Nat.toDigits 10 num).head?, first ≠ '0' := by
  induction num using Nat.strongRecOn with
  | ind num ih =>
    rcases Nat.lt_or_ge num 10 with one | more
    · have nonzero : ∀ digit < 10, 0 < digit → Nat.digitChar digit ≠ '0' := by decide
      rw [Nat.toDigits_of_lt_base one]
      intro first mem
      cases mem
      exact nonzero num one positive
    · intro first mem
      rw [Nat.toDigits_of_base_le (by decide) more, List.head?_append] at mem
      apply ih (num / 10) (by omega) (by omega)
      rwa [Option.or_of_isSome (isSome_head?.mpr Nat.toDigits_ne_nil)] at mem

/-- A minus before digits negates the number that they spell. -/
theorem readInteger_minus {first : Char} (digit : first.isDigit = true) (digits : List Char) :
    readInteger ('-' :: first :: digits) = (readInteger (first :: digits)).map fun int => -int := by
  have notBlank := Bool.eq_false_iff.mp (not_isPlainBlank digit)
  have unsigned : takeSign (first :: digits.map plain) = (false, first :: digits.map plain) := by
    unfold takeSign
    split
    case h_1 same =>
      cases same
      cases digit
    case h_2 same =>
      cases same
      cases digit
    case h_3 => rfl
  have minusBlank : ¬isPlainBlank '-' = true := by decide
  have signed : takeSign ('-' :: first :: digits.map plain) = (true, first :: digits.map plain) :=
    rfl
  have minus : plain '-' = '-' := rfl
  simp only [readInteger, map_cons, minus, plain_of_decimal digit,
    dropWhile_cons_of_neg notBlank, dropWhile_cons_of_neg minusBlank, unsigned, signed]
  split
  · rfl
  split
  · rfl
  split
  · rfl
  · rfl

/-! ## Digits of any script -/

theorem plain_ne_minus {char : Char} (digit : Unicode.isDigit char = true) :
    plain char ≠ '-' := by
  have notMinus : char ≠ '-' := by
    rintro rfl
    exact absurd digit (by decide +kernel)
  unfold plain
  split
  · exact notMinus
  split
  · decide
  split
  case h_1 value found =>
    obtain ⟨base, -, rfl⟩ := Option.map_eq_some_iff.mp found
    have digits : ∀ remainder < 10, Char.ofNat ('0'.toNat + remainder) ≠ '-' := by decide
    exact digits _ (Nat.mod_lt _ (by decide))
  case h_2 => decide

theorem takeSign_of_noMinus {text : List Char} (noMinus : '-' ∉ text) :
    (takeSign text).1 = false := by
  unfold takeSign
  split
  · exact (noMinus mem_cons_self).elim
  · rfl
  · rfl

/-- Further digits make a number smaller than the next one with as many zeros. -/
theorem foldl_digits_lt {digits : List Char}
    (decimal : ∀ char ∈ digits, isPlainDigit char = true) (value : Nat) :
    digits.foldl (fun value digit => 10 * value + plainValue digit) value <
      (value + 1) * Nat.pow 10 digits.length := by
  induction digits generalizing value with
  | nil => exact Nat.lt_of_lt_of_eq (Nat.lt_succ_self value) (Nat.mul_one _).symm
  | cons first digits ih =>
    have small : plainValue first < 10 := by
      obtain ⟨units, small, same⟩ := exists_of_isDigit (decimal first mem_cons_self)
      rw [plainValue, same]
      exact Nat.lt_of_le_of_lt (Nat.sub_le_of_le_add (Nat.le_of_eq (Nat.add_comm _ _))) small
    calc digits.foldl (fun value digit => 10 * value + plainValue digit)
          (10 * value + plainValue first)
        < (10 * value + plainValue first + 1) * Nat.pow 10 digits.length :=
          ih (forall_mem_cons.mp decimal).2 _
      _ ≤ ((value + 1) * 10) * Nat.pow 10 digits.length := Nat.mul_le_mul_right _ (by omega)
      _ = (value + 1) * Nat.pow 10 (first :: digits).length := by
          rw [Nat.mul_assoc, Nat.mul_comm 10]
          rfl

theorem digitsValue_lt {digits : List Char}
    (decimal : ∀ char ∈ digits, isPlainDigit char = true) {limit : Nat}
    (short : digits.length ≤ limit) : digitsValue digits < Nat.pow 10 limit := by
  refine Nat.lt_of_lt_of_le (foldl_digits_lt decimal 0) ?_
  rw [Nat.zero_add, Nat.one_mul]
  exact Nat.pow_le_pow_right (by decide) short

/-- A text of digits, if it is read, spells a natural number that is not too long. -/
theorem exists_natural_of_readInteger {digits : List Char}
    (numeric : ∀ char ∈ digits, Unicode.isDigit char = true) {int : Int}
    (read : readInteger digits = .ok int) :
    ∃ num : Nat, int = num ∧ num < Nat.pow 10 digitLimit := by
  have unsigned : (takeSign ((digits.map plain).dropWhile isPlainBlank)).1 = false := by
    apply takeSign_of_noMinus
    intro mem
    obtain ⟨char, inside, same⟩ := mem_map.mp ((dropWhile_sublist _).subset mem)
    exact plain_ne_minus (numeric char inside) same
  unfold readInteger at read
  dsimp only at read
  rw [unsigned] at read
  split at read
  · cases read
  split at read
  · cases read
  case isFalse short =>
    split at read
    · cases read
    cases read
    exact ⟨_, rfl, digitsValue_lt (fun _ mem => (mem_filter.mp mem).2) (Nat.le_of_not_lt short)⟩

end Number

end Spellbook
