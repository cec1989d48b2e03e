import Spellbook.Builtin.Portal
import Spellbook.Proofs.Text.Utf8
import Spellbook.Proofs.World.Passage

/-!
# Messages in pieces

A message comes as bytes, and a call that receives takes as many of them as have arrived and fit
into its buffer.  What it takes it decodes on its own.  So a message arrives intact exactly if,
after any number of calls, the bytes received so far are those of whole characters; otherwise the
first call that cuts a character ends in an error (`Owl.arrives_iff_aligned`).
-/

namespace Spellbook

open List

/-! ## The start of an encoded text -/

namespace Text.Utf8

def bytesOf (text : List Char) : List UInt8 := text.flatMap String.utf8EncodeChar

theorem bytesOf_cons (char : Char) (text : List Char) :
    bytesOf (char :: text) = String.utf8EncodeChar char ++ bytesOf text :=
  flatMap_cons

theorem bytesOf_append (front back : List Char) :
    bytesOf (front ++ back) = bytesOf front ++ bytesOf back :=
  flatMap_append

/-- The bytes are those of the first characters of a text. -/
def Whole (text : List Char) (bytes : List UInt8) : Prop :=
  ∃ front back, text = front ++ back ∧ bytesOf front = bytes

theorem whole_nil (text : List Char) : Whole text [] := ⟨[], text, rfl, rfl⟩

theorem whole_append_iff {front back : List Char} {bytes : List UInt8} :
    Whole (front ++ back) (bytesOf front ++ bytes) ↔ Whole back bytes := by
  constructor
  · rintro ⟨first, last, split, same⟩
    rcases append_eq_append_iff.mp split with ⟨middle, rfl, rfl⟩ | ⟨middle, rfl, rfl⟩
    · rw [bytesOf_append, append_cancel_left_eq] at same
      exact ⟨middle, last, rfl, same⟩
    · rw [bytesOf_append, append_assoc, self_eq_append_right, append_eq_nil_iff] at same
      rw [same.2]
      exact whole_nil back
  · rintro ⟨middle, last, rfl, rfl⟩
    exact ⟨front ++ middle, last, (append_assoc ..).symm, bytesOf_append ..⟩

/-- A character whose bytes are cut off is incomplete. -/
theorem head_take {first : UInt8} {rest : List UInt8} {char : Char} {length count : Nat}
    (starts : head first rest = .character char (length + 1)) (short : count < length) :
    head first (rest.take count) = .incomplete := by
  revert starts
  fun_cases head first rest <;> rintro ⟨⟩
  case case1 => cases short
  case case4 =>
    obtain rfl : count = 0 := by omega
    simp only [take_zero, head, *, if_true, if_false]
  case case9 =>
    obtain rfl | rfl : count = 0 ∨ count = 1 := by omega
    all_goals simp only [take_zero, take_succ_cons, head, *, Bool.false_eq_true, if_true, if_false]
  case case16 =>
    obtain rfl | rfl | rfl : count = 0 ∨ count = 1 ∨ count = 2 := by omega
    all_goals simp only [take_zero, take_succ_cons, head, *, Bool.false_eq_true, if_true, if_false]

/-- What is decoded from the first bytes of a text are its first characters. -/
theorem decodeFrom_take {text res : List Char} {count fuel pos : Nat}
    (decoded : decodeFrom fuel pos ((bytesOf text).take count) = .ok (res, [])) :
    ∃ back, text = res ++ back ∧ bytesOf res = (bytesOf text).take count := by
  induction text generalizing res count fuel pos with
  | nil =>
    rw [bytesOf, flatMap_nil, take_nil, decodeFrom] at decoded
    cases decoded
    exact ⟨[], rfl, take_nil.symm⟩
  | cons char text ih =>
    obtain ⟨first, others, bytes, starts⟩ := spells_encodeChar char
    rw [bytesOf_cons, bytes, cons_append] at decoded ⊢
    cases count with
    | zero =>
      rw [take_zero, decodeFrom] at decoded
      cases decoded
      exact ⟨_, rfl, rfl⟩
    | succ count =>
      rw [take_succ_cons] at decoded ⊢
      cases fuel with
      | zero => cases decoded
      | succ fuel =>
        rw [take_append] at decoded ⊢
        by_cases whole : others.length ≤ count
        · rw [take_of_length_le whole] at decoded ⊢
          simp only [decodeFrom, starts, Nat.add_sub_cancel, drop_left] at decoded
          generalize ended : decodeFrom fuel _ _ = outcome at decoded
          rcases outcome with flaw | ⟨others, unfinished⟩ <;> cases decoded
          obtain ⟨back, rfl, same⟩ := ih ended
          exact ⟨back, rfl, by rw [bytesOf_cons, bytes, same]; rfl⟩
        · have cut := head_take (starts []) (Nat.lt_of_not_le whole)
          have short : count - others.length = 0 := by omega
          rw [append_nil] at cut
          rw [short, take_zero, append_nil, decodeFrom, cut] at decoded
          cases decoded

theorem decode_bytesOf (text : List Char) : decode (bytesOf text) = .ok text := by
  have decoded := decode_encode (String.ofList text)
  rwa [encode, String.toList_ofList] at decoded

/-- The first bytes of a text can be decoded exactly if they are those of whole characters. -/
theorem decode_take_eq_ok {text res : List Char} {count : Nat}
    (decoded : decode ((bytesOf text).take count) = .ok res) :
    ∃ back, text = res ++ back ∧ bytesOf res = (bytesOf text).take count := by
  unfold decode at decoded
  generalize ended : decodePart _ = outcome at decoded
  rcases outcome with flaw | ⟨front, _ | _⟩ <;> cases decoded
  exact decodeFrom_take ended

end Text.Utf8

open Text Utf8 Spellbook.Action

namespace Owl

/-! ## What arrives -/

/-- The bytes that a call receives into a buffer of a size. -/
def chunk (size : Nat) : (arrivals : List (List UInt8)) → List UInt8
  | [] => []
  | bytes :: _ => bytes.take size

/-- What is left for later calls. -/
def remaining (size : Nat) : (arrivals : List (List UInt8)) → List (List UInt8)
  | [] => []
  | bytes :: others => if (bytes.drop size).isEmpty then others else bytes.drop size :: others

/-- The bytes that calls receive one after the other. -/
def deliveries : (arrivals : List (List UInt8)) → (sizes : List Nat) → List (List UInt8)
  | _, [] => []
  | arrivals, size :: sizes => chunk size arrivals :: deliveries (remaining size arrivals) sizes

/-- Receive messages with buffers of the sizes, one after the other, up to an empty one. -/
def hear (portal : Value) : (sizes : List Nat) → Action (List String)
  | [] => return []
  | size :: sizes => do
    match ← Builtin.receiveOwl [portal, .rune size] with
    | .scroll text => if text.isEmpty then return [text] else return text :: (← hear portal sizes)
    | _ => return []

/--
The texts that the calls give are those that a message consists of, up to the empty one at its end.
-/
def Arrives (world : World) (portal : Value) (sizes : List Nat) (msg : String) : Prop :=
  ∃ texts after, hear portal sizes world = .ok texts after ∧ texts.getLast? = some "" ∧
    String.join texts = msg

/-- No piece ends inside a character. -/
def Aligned (text : List Char) (pieces : List (List UInt8)) : Prop :=
  ∀ count, Whole text (pieces.take count).flatten

section Arrivals

variable (size : Nat) (arrivals : List (List UInt8))

theorem chunk_append :
    chunk size arrivals ++ (remaining size arrivals).flatten = arrivals.flatten := by
  cases arrivals with
  | nil => rfl
  | cons bytes others =>
    rw [chunk, remaining, flatten_cons]
    split
    case isTrue empty =>
      rw [take_of_length_le (drop_eq_nil_iff.mp (isEmpty_iff.mp empty))]
    case isFalse =>
      rw [flatten_cons, ← append_assoc, take_append_drop]

theorem deliveries_take_prefix (sizes : List Nat) (count : Nat) :
    ((deliveries arrivals sizes).take count).flatten <+: arrivals.flatten := by
  induction sizes generalizing arrivals count with
  | nil =>
    rw [deliveries, take_nil]
    exact nil_prefix
  | cons size sizes ih =>
    cases count with
    | zero => exact nil_prefix
    | succ count =>
      rw [deliveries, take_succ_cons, flatten_cons, ← chunk_append size arrivals]
      exact (prefix_append_right_inj _).mpr (ih _ count)

variable {size arrivals} (filled : ∀ bytes ∈ arrivals, bytes ≠ [])

include filled

theorem remaining_filled : ∀ bytes ∈ remaining size arrivals, bytes ≠ [] := by
  cases arrivals with
  | nil => exact filled
  | cons bytes others =>
    obtain ⟨-, others⟩ := forall_mem_cons.mp filled
    rw [remaining]
    split
    case isTrue => exact others
    case isFalse left =>
      exact forall_mem_cons.mpr ⟨fun empty => left (isEmpty_iff.mpr empty), others⟩

/-- A call receives nothing only when everything has been received. -/
theorem flatten_of_chunk_nil (positive : 1 ≤ size) (empty : chunk size arrivals = []) :
    arrivals.flatten = [] := by
  cases arrivals with
  | nil => rfl
  | cons bytes others =>
    rcases take_eq_nil_iff.mp empty with none | empty
    · omega
    · exact absurd empty (filled bytes mem_cons_self)

end Arrivals

section Calls

variable {world : World} (works : world.network.failOn ≠ some "recv")

include works

theorem receive_ends (size : Nat) :
    ∃ after, receive size world = .ok (chunk size world.network.arrivals) after ∧
      after.network.failOn = world.network.failOn ∧
        after.network.arrivals = remaining size world.network.arrivals := by
  have asked : askNetwork (.receive size) world =
      .ok () { world with journal := .network (.receive size) :: world.journal } := by
    have grants : (world.network.failOn == some "recv") = false := beq_eq_false_iff_ne.mpr works
    change (if world.network.failOn == some "recv" then _ else _ : Action Unit) _ = _
    rw [grants]
    rfl
  have counts : ¬(size : Int) < 0 := by omega
  rw [receive, if_neg counts, bind_of_ok asked]
  change ∃ after, (EStateM.Result.ok _ _ : EStateM.Result Trouble World _) = _ ∧ _
  cases pieces : world.network.arrivals with
  | nil => exact ⟨_, rfl, rfl, pieces⟩
  | cons bytes others => exact ⟨_, rfl, rfl, rfl⟩

/-- A call gives the text of what it receives, or fails if that is none. -/
theorem receiveOwl_ends (ref size : Nat) :
    ∃ after, after.network.failOn = world.network.failOn ∧
      after.network.arrivals = remaining size world.network.arrivals ∧
        ((∃ text, decode (chunk size world.network.arrivals) = .ok text ∧
            Builtin.receiveOwl [.portal ref, .rune size] world =
              .ok (.scroll (String.ofList text)) after) ∨
          (∃ flaw msg, decode (chunk size world.network.arrivals) = .error flaw ∧
            Builtin.receiveOwl [.portal ref, .rune size] world =
              .error (.told .portalFailure msg) after)) := by
  obtain ⟨after, received, fails, left⟩ := receive_ends works size
  refine ⟨after, fails, left, ?_⟩
  cases decoded : decode (chunk size world.network.arrivals) with
  | ok text =>
    refine .inl ⟨text, rfl, orRefuse_of_ok ((bind_of_ok received).trans ?_)⟩
    simp only [decoded]
    rfl
  | error flaw =>
    refine .inr ⟨flaw, "Failed to receive owl: " ++ Trouble.text (.fault (.undecodable flaw)), rfl,
      orRefuse_of_error ((bind_of_ok received).trans ?_)⟩
    simp only [decoded]
    rfl

end Calls

/-- Either all calls come to the end of characters and give the message, or one fails. -/
theorem hear_ends {sizes : List Nat} {world : World} {text : List Char} (ref : Nat)
    (positive : ∀ size ∈ sizes, 1 ≤ size) (works : world.network.failOn ≠ some "recv")
    (filled : ∀ bytes ∈ world.network.arrivals, bytes ≠ [])
    (sent : world.network.arrivals.flatten = bytesOf text)
    (enough : (bytesOf text).length < sizes.length) :
    Arrives world (.portal ref) sizes (String.ofList text) ∧
        Aligned text (deliveries world.network.arrivals sizes) ∨
      (∃ msg after, hear (.portal ref) sizes world =
          .error (.told .portalFailure msg) after) ∧
        ¬Aligned text (deliveries world.network.arrivals sizes) := by
  induction sizes generalizing world text with
  | nil => exact absurd enough (Nat.not_lt_zero _)
  | cons size sizes ih =>
    obtain ⟨positive, others⟩ := forall_mem_cons.mp positive
    have split := chunk_append size world.network.arrivals
    have start : chunk size world.network.arrivals =
        (bytesOf text).take (chunk size world.network.arrivals).length := by
      rw [← sent, ← split, take_left]
    rcases receiveOwl_ends works ref size with
      ⟨after, fails, left, ⟨front, decoded, received⟩ | ⟨flaw, msg, decoded, received⟩⟩
    · rw [start] at decoded
      obtain ⟨back, rfl, whole⟩ := decode_take_eq_ok decoded
      rw [← start] at whole
      by_cases done : front = []
      · subst done
        have none := flatten_of_chunk_nil filled positive whole.symm
        obtain rfl : back = [] := by
          have decoded := decode_bytesOf ([] ++ back)
          rw [← sent, none] at decoded
          cases decoded
          rfl
        refine .inl ⟨⟨[""], after, bind_of_ok received, rfl, rfl⟩, fun count => ?_⟩
        have start := deliveries_take_prefix world.network.arrivals (size :: sizes) count
        rw [none, prefix_nil] at start
        rw [start]
        exact whole_nil _
      · have length : 1 ≤ (bytesOf front).length := by
          obtain ⟨char, rest, rfl⟩ := exists_cons_of_ne_nil done
          obtain ⟨first, others, bytes, -⟩ := spells_encodeChar char
          rw [bytesOf_cons, bytes]
          exact Nat.succ_le_succ (Nat.zero_le _)
        rw [length_cons, bytesOf_append, length_append] at enough
        rw [← split, bytesOf_append, ← whole, append_cancel_left_eq, ← left] at sent
        have goes : hear (.portal ref) (size :: sizes) world =
            (hear (.portal ref) sizes >>= fun texts => pure (String.ofList front :: texts))
              after := by
          have filled : (String.ofList front).isEmpty = false := by
            rw [String.isEmpty_eq_false_iff, ne_eq, String.ofList_eq_empty_iff]
            exact done
          rw [hear, bind_of_ok received]
          simp only [filled]
          rfl
        have grows (count : Nat) : Whole (front ++ back)
            ((deliveries world.network.arrivals (size :: sizes)).take (count + 1)).flatten ↔
              Whole back ((deliveries after.network.arrivals sizes).take count).flatten := by
          rw [deliveries, take_succ_cons, flatten_cons, ← whole, left]
          exact whole_append_iff
        rcases ih others (fails ▸ works) (left ▸ remaining_filled filled) sent (by omega) with
          ⟨⟨texts, final, heard, last, joined⟩, aligned⟩ | ⟨⟨msg, final, failed⟩, cuts⟩
        · refine .inl ⟨⟨_, final, goes.trans (bind_of_ok heard), ?_, ?_⟩, fun count => ?_⟩
          · rw [List.getLast?_cons, last]
            rfl
          · rw [String.join_cons, joined, String.ofList_append]
          · cases count with
            | zero => exact whole_nil _
            | succ count => exact (grows count).mpr (aligned count)
        · exact .inr ⟨⟨msg, final, goes.trans (bind_of_error failed)⟩,
            fun aligned => cuts fun count => (grows count).mp (aligned (count + 1))⟩
    · refine .inr ⟨⟨msg, after, bind_of_error received⟩, fun aligned => ?_⟩
      obtain ⟨front, back, rfl, whole⟩ := aligned 1
      rw [deliveries, take_succ_cons, take_zero, flatten_singleton] at whole
      rw [← whole, decode_bytesOf] at decoded
      cases decoded

/--
A message that is sent in any pieces and received with buffers of any sizes arrives intact exactly
if no call ends inside a character; if one does, it fails.
-/
theorem arrives_iff_aligned {sizes : List Nat} {msg : String} (world : World) (ref : Nat)
    (positive : ∀ size ∈ sizes, 1 ≤ size) (works : world.network.failOn ≠ some "recv")
    (filled : ∀ bytes ∈ world.network.arrivals, bytes ≠ [])
    (sent : world.network.arrivals.flatten = encode msg)
    (enough : (encode msg).length < sizes.length) :
    (Arrives world (.portal ref) sizes msg ↔
        Aligned msg.toList (deliveries world.network.arrivals sizes)) ∧
      (¬Aligned msg.toList (deliveries world.network.arrivals sizes) →
        ∃ flaw after, hear (.portal ref) sizes world =
          .error (.told .portalFailure flaw) after) := by
  rcases hear_ends ref positive works filled sent enough with
    ⟨arrives, aligned⟩ | ⟨⟨flaw, after, failed⟩, cuts⟩
  · rw [String.ofList_toList] at arrives
    exact ⟨iff_of_true arrives aligned, absurd aligned⟩
  · refine ⟨iff_of_false ?_ cuts, fun _ => ⟨flaw, after, failed⟩⟩
    rintro ⟨texts, final, heard, -⟩
    cases failed.symm.trans heard

def bringing (arrivals : List (List UInt8)) : World := { network := { arrivals } }

/-- Two pieces, the second in two calls, and every call ends after a character. -/
theorem arrives_in_four_calls :
    Arrives (bringing [[0xC3, 0xA9], [0x21, 0x21]]) (.portal 0) [4, 1, 1, 1, 1] "é!!" ∧
      Aligned "é!!".toList (deliveries [[0xC3, 0xA9], [0x21, 0x21]] [4, 1, 1, 1, 1]) := by
  have arrives :
      Arrives (bringing [[0xC3, 0xA9], [0x21, 0x21]]) (.portal 0) [4, 1, 1, 1, 1] "é!!" :=
    ⟨["é", "!", "!", ""], _, rfl, rfl, rfl⟩
  exact ⟨arrives, (arrives_iff_aligned _ 0 (by decide) (by decide) (by decide) (by decide)
    (by decide)).1.mp arrives⟩

/-- A buffer of one byte cuts a character of two. -/
theorem hear_cuts_character :
    ∃ flaw after, hear (.portal 0) [1, 1, 1] (bringing [encode "é"]) =
      .error (.told .portalFailure flaw) after :=
  ⟨_, _, rfl⟩

end Owl

end Spellbook
