import Spellbook.Text.Utf8
import Spellbook.Text.Line

/-!
# Text as bytes and back

Every text is decoded from its bytes (`Utf8.decode_encode`).  A character has one to four bytes; the
decoder tells from the first how many follow, and its restrictions on the second one shut out no
character.
-/

namespace Spellbook.Text

open List

namespace Utf8

/-! ## Bytes -/

/-- A byte that continues a character with six bits of a number. -/
def follower (num : Nat) : UInt8 := .ofNat (num % 64 + 0x80)

theorem toNat_byte {num : Nat} (small : num < 256) : (UInt8.ofNat num).toNat = num := by
  rw [UInt8.toNat_ofNat']
  exact Nat.mod_eq_of_lt small

theorem toNat_follower (num : Nat) : (follower num).toNat = num % 64 + 0x80 := by
  apply toNat_byte
  omega

theorem isContinuation_follower (num : Nat) : isContinuation (follower num) = true := by
  rw [isContinuation, Bool.and_eq_true, decide_eq_true_eq, decide_eq_true_eq,
    UInt8.le_iff_toNat_le, UInt8.lt_iff_toNat_lt, toNat_follower]
  change 0x80 ≤ num % 64 + 0x80 ∧ num % 64 + 0x80 < 0xC0
  omega

theorem payload_follower (num : Nat) : payload (follower num) = num % 64 := by
  rw [payload, toNat_follower]
  omega

/-- The second byte after a first one that restricts it from below or from above. -/
theorem secondFits_follower {first : UInt8} {num : Nat}
    (fits : (first.toNat = 0xE0 → 0x20 ≤ num % 64) ∧ (first.toNat = 0xED → num % 64 < 0x20) ∧
      (first.toNat = 0xF0 → 0x10 ≤ num % 64) ∧ (first.toNat = 0xF4 → num % 64 < 0x10)) :
    secondFits first (follower num) = true := by
  have either {wanted : UInt8} {cond : Prop} [Decidable cond]
      (holds : first.toNat = wanted.toNat → cond) :
      (first != wanted || decide cond) = true := by
    by_cases same : first = wanted
    · rw [decide_eq_true (holds (congrArg UInt8.toNat same)), Bool.or_true]
    · rw [bne_iff_ne.mpr same, Bool.true_or]
  obtain ⟨least3, greatest3, least4, greatest4⟩ := fits
  have value := toNat_follower num
  simp only [secondFits, isContinuation_follower, Bool.true_and, Bool.and_eq_true,
    UInt8.le_iff_toNat_le, UInt8.lt_iff_toNat_lt, value]
  refine ⟨⟨⟨either ?_, either ?_⟩, either ?_⟩, either ?_⟩
  · intro same
    exact Nat.add_le_add_right (least3 same) 0x80
  · intro same
    exact Nat.add_lt_add_right (greatest3 same) 0x80
  · intro same
    exact Nat.add_le_add_right (least4 same) 0x80
  · intro same
    exact Nat.add_lt_add_right (greatest4 same) 0x80

/-! ## The character that bytes start with -/

section Head

variable {first : UInt8}

theorem lt_of_toNat {bound : Nat} (small : bound < 256) (below : first.toNat < bound) :
    first < UInt8.ofNat bound := by
  rw [UInt8.lt_iff_toNat_lt, toNat_byte small]
  exact below

theorem not_lt_of_toNat {bound : Nat} (small : bound < 256) (above : bound ≤ first.toNat) :
    ¬first < UInt8.ofNat bound := by
  rw [UInt8.lt_iff_toNat_lt, toNat_byte small]
  exact Nat.not_lt.mpr above

theorem head_of_one (low : first.toNat < 0x80) (rest : List UInt8) :
    head first rest = .character (Char.ofNat first.toNat) 1 := by
  have one : first < 0x80 := lt_of_toNat (by decide) low
  simp only [head, one, if_true]

theorem head_of_two (least : 0xC2 ≤ first.toNat) (greatest : first.toNat < 0xE0) (num : Nat)
    (rest : List UInt8) :
    head first (follower num :: rest) =
      .character (Char.ofNat (first.toNat % 32 * 64 + num % 64)) 2 := by
  have notOne : ¬first < 0x80 := not_lt_of_toNat (by decide) (Nat.le_trans (by decide) least)
  have starts : ¬first < 0xC2 := not_lt_of_toNat (by decide) least
  have two : first < 0xE0 := lt_of_toNat (by decide) greatest
  simp only [head, notOne, starts, two, isContinuation_follower, payload_follower, if_false,
    if_true]

theorem head_of_three (least : 0xE0 ≤ first.toNat) (greatest : first.toNat < 0xF0)
    {second : Nat} (fits : secondFits first (follower second) = true) (third : Nat)
    (rest : List UInt8) :
    head first (follower second :: follower third :: rest) =
      .character (Char.ofNat ((first.toNat % 16 * 64 + second % 64) * 64 + third % 64)) 3 := by
  have notOne : ¬first < 0x80 := not_lt_of_toNat (by decide) (Nat.le_trans (by decide) least)
  have starts : ¬first < 0xC2 := not_lt_of_toNat (by decide) (Nat.le_trans (by decide) least)
  have notTwo : ¬first < 0xE0 := not_lt_of_toNat (by decide) least
  have three : first < 0xF0 := lt_of_toNat (by decide) greatest
  simp only [head, notOne, starts, notTwo, three, fits, isContinuation_follower, payload_follower,
    Bool.not_true, Bool.false_eq_true, if_false, if_true]

theorem head_of_four (least : 0xF0 ≤ first.toNat) (greatest : first.toNat < 0xF5)
    {second : Nat} (fits : secondFits first (follower second) = true) (third fourth : Nat)
    (rest : List UInt8) :
    head first (follower second :: follower third :: follower fourth :: rest) =
      .character (Char.ofNat
        (((first.toNat % 8 * 64 + second % 64) * 64 + third % 64) * 64 + fourth % 64)) 4 := by
  have notOne : ¬first < 0x80 := not_lt_of_toNat (by decide) (Nat.le_trans (by decide) least)
  have starts : ¬first < 0xC2 := not_lt_of_toNat (by decide) (Nat.le_trans (by decide) least)
  have notTwo : ¬first < 0xE0 := not_lt_of_toNat (by decide) (Nat.le_trans (by decide) least)
  have notThree : ¬first < 0xF0 := not_lt_of_toNat (by decide) least
  have four : first < 0xF5 := lt_of_toNat (by decide) greatest
  simp only [head, notOne, starts, notTwo, notThree, four, fits, isContinuation_follower,
    payload_follower, Bool.not_true, Bool.false_eq_true, if_false, if_true]

end Head

/-! ## Characters and texts -/

/-- The bytes of the character with a number. -/
def pointBytes (num : Nat) : List UInt8 :=
  if num ≤ 0x7F then [.ofNat num]
  else if num ≤ 0x7FF then [.ofNat (num / 64 % 0x20 + 0xC0), follower num]
  else if num ≤ 0xFFFF then
    [.ofNat (num / 4096 % 0x10 + 0xE0), follower (num / 64), follower num]
  else
    [.ofNat (num / 262144 % 0x08 + 0xF0), follower (num / 4096), follower (num / 64), follower num]

/-- Bytes that are those of the character, whatever follows. -/
def Spells (bytes : List UInt8) (char : Char) : Prop :=
  ∃ first others, bytes = first :: others ∧
    ∀ rest, head first (others ++ rest) = .character char (others.length + 1)

theorem spells_pointBytes {num : Nat} (isPoint : num < 0xD800 ∨ 0xDFFF < num ∧ num < 0x110000) :
    Spells (pointBytes num) (Char.ofNat num) := by
  unfold pointBytes
  split
  case isTrue one =>
    have value := toNat_byte (show num < 256 by omega)
    refine ⟨_, [], rfl, fun rest => ?_⟩
    rw [nil_append, head_of_one (by omega), value]
    rfl
  split
  case isTrue notOne two =>
    have value := toNat_byte (show num / 64 % 0x20 + 0xC0 < 256 by omega)
    have whole : (num / 64 % 0x20 + 0xC0) % 32 * 64 + num % 64 = num := by omega
    refine ⟨_, [follower num], rfl, fun rest => ?_⟩
    rw [cons_append, head_of_two (by omega) (by omega), value, whole]
    rfl
  split
  case isTrue notOne notTwo three =>
    have value := toNat_byte (show num / 4096 % 0x10 + 0xE0 < 256 by omega)
    have whole : ((num / 4096 % 0x10 + 0xE0) % 16 * 64 + num / 64 % 64) * 64 + num % 64 =
        num := by omega
    refine ⟨_, [follower (num / 64), follower num], rfl, fun rest => ?_⟩
    rw [cons_append, cons_append, head_of_three (by omega) (by omega)
      (secondFits_follower (by omega)), value, whole]
    rfl
  case isFalse notOne notTwo notThree =>
    have value := toNat_byte (show num / 262144 % 0x08 + 0xF0 < 256 by omega)
    have whole : (((num / 262144 % 0x08 + 0xF0) % 8 * 64 + num / 4096 % 64) * 64 +
        num / 64 % 64) * 64 + num % 64 = num := by omega
    refine ⟨_, [follower (num / 4096), follower (num / 64), follower num], rfl, fun rest => ?_⟩
    rw [cons_append, cons_append, cons_append, head_of_four (by omega) (by omega)
      (secondFits_follower (by omega)), value, whole]
    rfl

theorem spells_encodeChar (char : Char) :
    Spells (String.utf8EncodeChar char) char := by
  have spells : Spells (pointBytes char.toNat) (Char.ofNat char.toNat) :=
    spells_pointBytes char.valid
  -- The bytes that the library gives a character are computed in the same way.
  rwa [Char.ofNat_toNat] at spells

/-- A text is decoded from its bytes. -/
theorem decodeFrom_encode (text : List Char) {fuel : Nat}
    (enough : (text.flatMap String.utf8EncodeChar).length ≤ fuel) (pos : Nat) :
    decodeFrom fuel pos (text.flatMap String.utf8EncodeChar) = .ok (text, []) := by
  induction text generalizing fuel pos with
  | nil =>
    unfold decodeFrom
    rfl
  | cons char text ih =>
    obtain ⟨first, others, bytes, starts⟩ := spells_encodeChar char
    rw [flatMap_cons, bytes] at enough ⊢
    cases fuel with
    | zero => cases enough
    | succ fuel =>
      have further := @ih fuel
        (by simp only [cons_append, length_cons, length_append] at enough; omega)
        (pos + (others.length + 1))
      simp only [cons_append, decodeFrom, starts, Nat.add_sub_cancel, drop_left, further]

theorem encode_append (first second : String) :
    encode (first ++ second) = encode first ++ encode second := by
  rw [encode, String.toList_append, flatMap_append]
  rfl

theorem decode_encode (text : String) : decode (encode text) = .ok text.toList := by
  have decoded := decodeFrom_encode text.toList (Nat.le_refl _) 0
  simp only [decode, decodePart, encode, decoded]

end Utf8

theorem unifyNewlines_of_not_mem {text : List Char} (absent : '\r' ∉ text) :
    unifyNewlines text = text := by
  induction text with
  | nil => rfl
  | cons char text ih =>
    have other : char ≠ '\r' := fun same => absent (same ▸ mem_cons_self)
    have further := ih fun mem => absent (mem_cons_of_mem _ mem)
    rw [unifyNewlines, further, if_neg (mt beq_iff_eq.mp other)]
    rintro - rfl
    exact absurd rfl other

end Spellbook.Text
