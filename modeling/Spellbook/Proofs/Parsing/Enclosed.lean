import Spellbook.Proofs.Grammar.Expression
import Spellbook.Proofs.Parsing.Primitive

/-!
# Lists between brackets

Elements, entries, arguments and parameters are all read by one parser, which takes the parser of
an item as its argument.  Here it is shown to read exactly the listings of the grammar, for any
parser of items: if the items of a listing can be read one by one, the listing is read; and what is
read is a listing of items that were read one by one.
-/

namespace Spellbook.Parser

open List Grammar

variable {closer : TokenKind} {tokens ending output input : List Token} {closers : Option TokenKind}
  {closing : Token} {fuel : Nat} {trailingComma : Bool}

variable {α : Type}

/-- What may stand between the last item and the closing token. -/
def IsEnding (closers : Option TokenKind) (ending : List Token) : Prop :=
  ending = [] ∨ closers.isSome = true ∧ ∃ comma : Token, comma.kind = .comma ∧ ending = [comma]

/-! ## Listings are read -/

def ReadsItem (item : Parser α) (closer : TokenKind) (part : List Token × α) : Prop :=
  ∀ (token : Token) (rest : List Token),
    token.kind = .comma ∨ token.kind = closer →
      item (part.1 ++ token :: rest) = .ok (part.2, token :: rest)

/-- An item starts with a token other than the closing one. -/
def StartsApart (closer : TokenKind) (tokens : List Token) : Prop :=
  ∃ token rest, tokens = token :: rest ∧ token.kind ≠ closer

theorem Separated.startsApart {parts : List (List Token)} (separated : Separated parts tokens)
    (apart : ∀ part ∈ parts, StartsApart closer part) :
    StartsApart closer tokens := by
  cases separated with
  | single part => exact apart _ mem_cons_self
  | comma isComma others =>
    obtain ⟨token, rest, rfl, differ⟩ := apart _ mem_cons_self
    exact ⟨token, _, rfl, differ⟩

section Listed

variable {ι : Type} {front : ι → List Token} {res : ι → α} {parts : List ι}

theorem commaSeparated_of_separated {item : Parser α} (known : closer.Known)
    (notComma : closer ≠ .comma) (only : ∀ kind ∈ closers, kind = closer)
    (ended : IsEnding closers ending) (isClosing : closing.kind = closer) (rest : List Token)
    (separated : Separated (parts.map front) tokens)
    (reads : ∀ part ∈ parts, ReadsItem item closer (front part, res part))
    (apart : ∀ part ∈ parts, StartsApart closer (front part)) (enough : tokens.length < fuel) :
    commaSeparated item closers fuel (tokens ++ (ending ++ closing :: rest)) =
      .ok (parts.map res, closing :: rest) := by
  induction parts generalizing tokens fuel with
  | nil => cases separated
  | cons part others ih =>
    obtain ⟨spare, rfl⟩ : ∃ spare, fuel = spare + 1 := ⟨fuel - 1, by omega⟩
    have readsPart := reads part mem_cons_self
    unfold commaSeparated
    generalize partsEq : (part :: others).map front = listed at separated
    cases separated with
    | single =>
      obtain ⟨rfl, noOthers⟩ := List.cons.inj partsEq
      obtain rfl : others = [] := map_eq_nil_iff.mp noOthers
      rcases ended with rfl | ⟨present, comma, isComma, rfl⟩
      · have differ : closing.kind ≠ .comma := isClosing ▸ notComma
        rw [nil_append, bind_of_ok (readsPart closing rest (Or.inr isClosing)),
          accept_else differ rfl]
        rfl
      · obtain ⟨kind, rfl⟩ := Option.isSome_iff_exists.mp present
        obtain rfl : kind = closer := only kind rfl
        rw [singleton_append, bind_of_ok (readsPart comma _ (Or.inl isComma)),
          accept_then isComma rfl]
        dsimp only
        rw [check_then isClosing known]
        rfl
    | @comma first inner comma otherParts isComma separated =>
      obtain ⟨rfl, rfl⟩ := List.cons.inj partsEq
      have apartOthers := (forall_mem_cons.mp apart).2
      have restRead := ih separated (forall_mem_cons.mp reads).2 apartOthers
        (show inner.length < spare by
          simp only [length_append, length_cons] at enough
          omega)
      obtain ⟨head, tail, rfl, differ⟩ :=
        Separated.startsApart separated (forall_mem_map.mpr apartOthers)
      rw [append_assoc, cons_append, bind_of_ok (readsPart comma _ (Or.inl isComma)),
        accept_then isComma rfl]
      cases closers with
      | none =>
        change (do return res part :: (← commaSeparated item none spare) : Parser (List α)) _ = _
        exact bind_of_ok restRead
      | some kind =>
        obtain rfl : kind = closer := only kind rfl
        rw [cons_append] at restRead ⊢
        dsimp only
        rw [check_else differ known, bind_of_ok restRead]
        rfl

/-- A listing whose items are read one by one is read up to its closing token. -/
theorem enclosed_of_listing {item : Parser α} (known : closer.Known)
    (notComma : closer ≠ .comma) {inner : List Token}
    (listed : Listing trailingComma (parts.map front) inner)
    (reads : ∀ part ∈ parts, ReadsItem item closer (front part, res part))
    (apart : ∀ part ∈ parts, StartsApart closer (front part)) (enough : inner.length < fuel)
    (msg : String) (isClosing : closing.kind = closer) (rest : List Token) :
    enclosed item closer trailingComma fuel msg (inner ++ closing :: rest) =
      .ok (parts.map res, rest) := by
  have closed : (discard (consume closer msg) : Parser Unit) (closing :: rest) =
      .ok ((), rest) :=
    discard_of_ok (consume_of_eq known isClosing msg rest)
  have only : ∀ kind ∈ (if trailingComma then some closer else none), kind = closer := by
    intro kind mem
    cases trailingComma <;> simp_all
  -- The items of a listing that is not empty, up to the closing token.
  have filled : ∀ {ending separatedTokens : List Token},
      IsEnding (if trailingComma then some closer else none) ending →
      Separated (parts.map front) separatedTokens →
      separatedTokens.length < fuel →
      enclosed item closer trailingComma fuel msg
          (separatedTokens ++ (ending ++ closing :: rest)) =
        .ok (parts.map res, rest) := by
    intro ending separatedTokens ended separated enoughTokens
    have read := commaSeparated_of_separated known notComma only ended isClosing rest
      separated reads apart enoughTokens
    obtain ⟨head, tail, rfl, differ⟩ :=
      Separated.startsApart separated (forall_mem_map.mpr apart)
    unfold enclosed
    rw [cons_append] at read ⊢
    rw [check_else differ known, bind_of_ok read]
    exact bind_of_ok closed
  generalize partsEq : parts.map front = listedParts at listed
  cases listed with
  | empty =>
    obtain rfl : parts = [] := map_eq_nil_iff.mp partsEq
    unfold enclosed
    rw [nil_append, check_then isClosing known]
    change (discard (consume closer msg) >>= fun _ => pure []) (closing :: rest) = _
    exact bind_of_ok closed
  | plain separated =>
    subst partsEq
    exact filled (Or.inl rfl) separated enough
  | @trailing _ tokens comma allowed separated isComma =>
    subst partsEq
    subst allowed
    have read := filled (Or.inr ⟨rfl, comma, isComma, rfl⟩) separated (by
      simp only [length_append, length_cons, length_nil] at enough
      omega)
    rw [append_assoc]
    exact read

end Listed

/-! ## What is read is a listing -/

/-- Whatever the parser gives a result for stands in a relation with it. -/
def ReadsOnly (parser : Parser α) (spells : List Token → α → Prop) : Prop :=
  ∀ ⦃input output : List Token⦄ ⦃res : α⦄,
    parser input = .ok (res, output) → ∃ tokens, input = tokens ++ output ∧ spells tokens res

/--
The front of the input, up to the output, consists of items with commas between them; they stand in
a relation with the results.
-/
def StartsSeparated (spells : List Token → α → Prop) (closers : Option TokenKind)
    (input output : List Token) (results : List α) : Prop :=
  ∃ (parts : List (List Token × α)) (tokens ending : List Token),
    input = tokens ++ (ending ++ output) ∧ IsEnding closers ending ∧
      Separated (parts.map Prod.fst) tokens ∧ results = parts.map Prod.snd ∧
        ∀ part ∈ parts, spells part.1 part.2

theorem StartsSeparated.alone {spells : List Token → α → Prop} {first : α}
    (spelled : spells tokens first) (ended : IsEnding closers ending) :
    StartsSeparated spells closers (tokens ++ (ending ++ output)) output [first] := by
  refine ⟨[(tokens, first)], tokens, ending, rfl, ended, Separated.single tokens, rfl, ?_⟩
  intro part mem
  obtain rfl := mem_singleton.mp mem
  exact spelled

theorem StartsSeparated.cons {spells : List Token → α → Prop} {rest : List Token} {comma : Token}
    {first : α} {others : List α} (spelled : spells tokens first) (isComma : comma.kind = .comma)
    (starts : StartsSeparated spells closers rest output others) :
    StartsSeparated spells closers (tokens ++ comma :: rest) output (first :: others) := by
  obtain ⟨parts, separated, ending, rfl, ended, listed, rfl, spelledOthers⟩ := starts
  refine ⟨(tokens, first) :: parts, tokens ++ comma :: separated, ending, ?_, ended,
    Separated.comma isComma listed, rfl, ?_⟩
  · simp only [append_assoc, cons_append]
  · exact forall_mem_cons.mpr ⟨spelled, spelledOthers⟩

theorem startsSeparated_of_commaSeparated {item : Parser α} {spells : List Token → α → Prop}
    (readsOnly : ReadsOnly item spells) (known : ∀ kind ∈ closers, kind.Known)
    {results : List α} (read : commaSeparated item closers fuel input = .ok (results, output)) :
    StartsSeparated spells closers input output results := by
  induction fuel generalizing input results with
  | zero => exact (exhausted_ne_ok read).elim
  | succ fuel ih =>
    obtain ⟨first, _, readFirst, afterFirst⟩ := bind_eq_ok.mp read
    obtain ⟨tokens, rfl, spelled⟩ := readsOnly readFirst
    obtain ⟨comma, rest, rfl, ⟨isComma, more⟩ | ⟨-, given⟩⟩ := of_accept afterFirst rfl
    · have goesOn : (do return first :: (← commaSeparated item closers fuel) : Parser (List α))
          rest = .ok (results, output) →
          StartsSeparated spells closers (tokens ++ comma :: rest) output results := by
        intro others
        obtain ⟨others, readOthers, rfl⟩ := bind_pure_eq_ok.mp others
        exact StartsSeparated.cons spelled isComma (ih readOthers)
      cases closers with
      | none => exact goesOn more
      | some kind =>
        obtain ⟨next, others, rfl, ⟨-, given⟩ | ⟨-, more⟩⟩ :=
          of_check more (known kind rfl)
        · obtain ⟨rfl, rfl⟩ := pure_eq_ok.mp given
          exact StartsSeparated.alone spelled (Or.inr ⟨rfl, comma, isComma, rfl⟩)
        · exact goesOn more
    · obtain ⟨rfl, rfl⟩ := pure_eq_ok.mp given
      exact StartsSeparated.alone spelled (Or.inl rfl)

/-- What is read up to a closing token is a listing of items that were read. -/
theorem listing_of_enclosed {item : Parser α} {spells : List Token → α → Prop}
    (readsOnly : ReadsOnly item spells) (known : closer.Known) {msg : String}
    {results : List α}
    (read : enclosed item closer trailingComma fuel msg input = .ok (results, output)) :
    ∃ (parts : List (List Token × α)) (inner : List Token) (closing : Token),
      input = inner ++ closing :: output ∧ closing.kind = closer ∧
        Listing trailingComma (parts.map Prod.fst) inner ∧ results = parts.map Prod.snd ∧
          ∀ part ∈ parts, spells part.1 part.2 := by
  obtain ⟨token, rest, rfl, ⟨-, more⟩ | ⟨-, more⟩⟩ := of_check read known
  · change (discard (consume closer msg) >>= fun _ => pure []) (token :: rest) = _ at more
    obtain ⟨closing, _, equal, isClosing, given⟩ := of_discard more known
    obtain ⟨rfl, rfl⟩ := pure_eq_ok.mp given
    exact ⟨[], [], closing, equal, isClosing, Listing.empty, rfl, by simp⟩
  · obtain ⟨items, _, readItems, afterItems⟩ := bind_eq_ok.mp more
    obtain ⟨parts, tokens, ending, equal, ended, separated, rfl, spelled⟩ :=
      startsSeparated_of_commaSeparated readsOnly (by
        intro kind mem
        cases trailingComma <;> simp_all) readItems
    obtain ⟨closing, _, rfl, isClosing, given⟩ := of_discard afterItems known
    obtain ⟨rfl, rfl⟩ := pure_eq_ok.mp given
    rcases ended with rfl | ⟨present, comma, isComma, rfl⟩
    · exact ⟨parts, tokens, closing, equal, isClosing, Listing.plain separated, rfl, spelled⟩
    · have allowed : trailingComma = true := by
        cases trailingComma <;> simp_all
      refine ⟨parts, tokens ++ [comma], closing, ?_, isClosing,
        Listing.trailing allowed separated isComma, rfl, spelled⟩
      rw [equal, append_assoc]

end Spellbook.Parser
