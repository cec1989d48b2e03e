import Spellbook.Proofs.Parsing.ExpressionComplete

/-!
# The parser of expressions reads expressions only

Whatever the parser of expressions takes from its input spells out the node that it gives, and the
token that it leaves next cannot continue the expression: `Parser.expression_sound`.  Together with
the converse the parser reads exactly what the grammar derives.
-/

namespace Spellbook.Parser

open List Grammar

variable {level : Level} {kind : TokenKind} {place : Place} {input output : List Token}
  {node : Node}

/--
Whatever the parser gives a result for is an expression of the level, and the next token binds less
than the level.
-/
def ReadsLevel (level : Level) (parser : Parser Node) : Prop :=
  ∀ ⦃input output : List Token⦄ ⦃node : Node⦄,
    parser input = .ok (node, output) → ∃ tokens next rest,
        input = tokens ++ next :: rest ∧ output = next :: rest ∧
          Expresses level tokens node ∧ next.kind.binding < level.rank

theorem ReadsLevel.readsOnly {parser : Parser Node} (reads : ReadsLevel level parser) :
    ReadsOnly parser (Expresses level) := by
  intro input output node read
  obtain ⟨tokens, next, rest, rfl, rfl, spelled, -⟩ := reads read
  exact ⟨tokens, rfl, spelled⟩

/-! ## The token after an expression -/

theorem binding_lt_of_noSuffix (notParen : kind ≠ .leftParen) (notBracket : kind ≠ .leftBracket)
    (notDot : kind ≠ .dot) :
    kind.binding < Level.application.rank := by
  cases kind <;> first | decide | contradiction

/-- No token binds on the level of the minus sign itself. -/
theorem binding_lt_negation (loose : kind.binding < Level.application.rank) :
    kind.binding < Level.negation.rank := by
  cases kind <;> first | decide | exact absurd loose (by decide)

theorem binding_lt_power (loose : kind.binding < Level.negation.rank) (notPower : kind ≠ .power) :
    kind.binding < Level.power.rank := by
  cases kind <;> first | decide | contradiction

/-- No token binds on the level of denials itself. -/
theorem binding_lt_denial (loose : kind.binding < Level.comparison.rank) :
    kind.binding < Level.denial.rank := by
  cases kind <;> first | decide | exact absurd loose (by decide)

/-- A token that binds on a level with operators is one of them. -/
theorem operator_of_binding (hasOperators : level.joins = true)
    (binds : kind.binding = level.rank) :
    level.operator? kind ≠ none := by
  cases level <;> first
    | (cases hasOperators; done)
    | (cases kind <;> first | (cases binds; done) | (intro impossible; cases impossible))

theorem binding_lt_of_noOperator (hasOperators : level.joins = true)
    (noOperator : level.operator? kind = none) (loose : kind.binding < level.tighter.rank) :
    kind.binding < level.rank := by
  have next : level.tighter.rank = level.rank + 1 := by
    cases level <;> first | rfl | cases hasOperators
  have differ : kind.binding ≠ level.rank := by
    intro binds
    exact operator_of_binding hasOperators binds noOperator
  omega

/-! ## Atoms -/

theorem potionConversion_eq_ok {token : Token}
    (read : potionConversion place token.value input = .ok (node, output)) :
    input = output ∧ ∃ value, token.potionValue? = some value ∧ node = .literal place value := by
  unfold Token.potionValue?
  unfold potionConversion at read
  generalize token.value = carried at read ⊢
  cases carried with
  | potion num birth =>
    obtain ⟨rfl, rfl⟩ := pure_eq_ok.mp read
    exact ⟨rfl, _, rfl, rfl⟩
  | _ =>
    dsimp only at read ⊢
    generalize Value.toFloat _ = conversion at read ⊢
    cases conversion with
    | error fault => cases read
    | ok num =>
      obtain ⟨rfl, rfl⟩ := pure_eq_ok.mp read
      exact ⟨rfl, _, rfl, rfl⟩

theorem potionLiteral_eq_ok (read : potionLiteral place input = .ok (node, output)) : ∃ token value,
      input = token :: output ∧ (token.kind = .float ∨ token.kind = .integer) ∧
        token.potionValue? = some value ∧ node = .literal place value := by
  obtain ⟨token, rest, rfl, isNumber⟩ : ∃ token rest, input = token :: rest ∧
      (token.kind = .float ∨ token.kind = .integer) := by
    obtain ⟨token, rest, rfl, ⟨isFloat, -⟩ | ⟨-, more⟩⟩ := of_check read rfl
    · exact ⟨token, rest, rfl, Or.inl isFloat⟩
    · obtain ⟨num, others, same, isInteger, -⟩ := of_consume more rfl
      exact ⟨num, others, same, Or.inr isInteger⟩
  rw [potionLiteral_of_number isNumber] at read
  obtain ⟨rfl, value, converted, rfl⟩ := potionConversion_eq_ok read
  exact ⟨token, value, rfl, isNumber, converted, rfl⟩

theorem charmLiteral_eq_ok {word : Token} (isCharm : word.kind = .charm)
    (read : charmLiteral word.place input = .ok (node, output)) :
    ∃ token value,
      input = token :: output ∧ word.annotated? token = some value ∧
        node = .literal word.place value := by
  obtain ⟨token, others, rfl, ⟨isTrue, given⟩ | ⟨-, more⟩⟩ := of_accept read rfl
  · obtain ⟨rfl, rfl⟩ := pure_eq_ok.mp given
    refine ⟨token, .charm true, rfl, ?_, rfl⟩
    simp only [Token.annotated?, isCharm, isTrue]
  · by_cases isFalse : token.kind = .falseWord
    · rw [accept_then isFalse rfl] at more
      obtain ⟨rfl, rfl⟩ := pure_eq_ok.mp more
      refine ⟨token, .charm false, rfl, ?_, rfl⟩
      simp only [Token.annotated?, isCharm, isFalse]
    · rw [accept_else isFalse rfl] at more
      exact (fail_ne_ok more).elim

section Levels

variable {outer fuel : Nat} {front : List Token} {res : Node} {operand : Parser Node}

variable {inner : Parser Node} (innerReads : ReadsOnly inner (Expresses .disjunction))
include innerReads

theorem listLiteral_eq_ok (read : listLiteral inner outer place input = .ok (node, output)) :
    ∃ (items : List Item) (tokens : List Token) (closing : Token),
      input = tokens ++ closing :: output ∧ closing.kind = .rightBracket ∧
        Listing true (items.map Prod.fst) tokens ∧
          (∀ item ∈ items, Expresses .disjunction item.1 item.2) ∧
            node = .tome place (items.map Prod.snd) := by
  simp only [listLiteral, bind_eq_ok, pure_eq_ok] at read
  obtain ⟨elems, last, readElements, rfl, rfl⟩ := read
  obtain ⟨items, tokens, closing, rfl, isClosing, listed, rfl, spelled⟩ :=
    listing_of_enclosed innerReads rfl readElements
  exact ⟨items, tokens, closing, rfl, isClosing, listed, spelled, rfl⟩

theorem pair_readsOnly :
    ReadsOnly (pair inner) fun tokens nodes =>
      ∃ entry : Entry, entry.tokens = tokens ∧ entry.pair = nodes ∧
        Expresses .disjunction entry.key.1 entry.key.2 ∧ entry.colon.kind = .colon ∧
          Expresses .disjunction entry.value.1 entry.value.2 := by
  intro input output nodes read
  obtain ⟨key, _, readKey, afterKey⟩ := bind_eq_ok.mp read
  obtain ⟨keyTokens, rfl, keySpelled⟩ := innerReads readKey
  obtain ⟨colon, _, rfl, isColon, afterColon⟩ := of_discard afterKey rfl
  obtain ⟨value, readValue, rfl⟩ := bind_pure_eq_ok.mp afterColon
  obtain ⟨valueTokens, rfl, valueSpelled⟩ := innerReads readValue
  refine ⟨keyTokens ++ colon :: valueTokens, ?_,
    ⟨(keyTokens, key), colon, (valueTokens, value)⟩, rfl, rfl, keySpelled, isColon,
    valueSpelled⟩
  rw [append_assoc, cons_append]

omit innerReads in
/-- Parts that are entries of a dictionary, as entries. -/
theorem entries_of_parts {parts : List (List Token × (Node × Node))}
    (spelled : ∀ part ∈ parts, ∃ entry : Entry, entry.tokens = part.1 ∧ entry.pair = part.2 ∧
      Expresses .disjunction entry.key.1 entry.key.2 ∧ entry.colon.kind = .colon ∧
        Expresses .disjunction entry.value.1 entry.value.2) :
    ∃ entries : List Entry,
      parts.map Prod.fst = entries.map Entry.tokens ∧
        parts.map Prod.snd = entries.map Entry.pair ∧
          ∀ entry ∈ entries, Expresses .disjunction entry.key.1 entry.key.2 ∧
            entry.colon.kind = .colon ∧ Expresses .disjunction entry.value.1 entry.value.2 := by
  induction parts with
  | nil => exact ⟨[], rfl, rfl, fun entry mem => (not_mem_nil mem).elim⟩
  | cons part parts ih =>
    obtain ⟨entries, allTokens, allPairs, all⟩ :=
      ih fun other mem => spelled other (mem_cons_of_mem part mem)
    obtain ⟨entry, tokens, nodes, entrySpelled⟩ := spelled part mem_cons_self
    refine ⟨entry :: entries, ?_, ?_, ?_⟩
    · rw [map_cons, map_cons, tokens, allTokens]
    · rw [map_cons, map_cons, nodes, allPairs]
    · exact forall_mem_cons.mpr ⟨entrySpelled, all⟩

theorem dictLiteral_eq_ok (read : dictLiteral inner outer place input = .ok (node, output)) :
    ∃ (entries : List Entry) (tokens : List Token) (closing : Token),
      input = tokens ++ closing :: output ∧ closing.kind = .rightBrace ∧
        Listing true (entries.map Entry.tokens) tokens ∧
          (∀ entry ∈ entries, Expresses .disjunction entry.key.1 entry.key.2) ∧
            (∀ entry ∈ entries, entry.colon.kind = .colon) ∧
              (∀ entry ∈ entries, Expresses .disjunction entry.value.1 entry.value.2) ∧
                node = .grimoire place (entries.map Entry.pair) := by
  simp only [dictLiteral, bind_eq_ok, pure_eq_ok] at read
  obtain ⟨pairs, last, readPairs, rfl, rfl⟩ := read
  obtain ⟨parts, tokens, closing, rfl, isClosing, listed, rfl, spelled⟩ :=
    listing_of_enclosed (pair_readsOnly innerReads) rfl readPairs
  obtain ⟨entries, allTokens, allPairs, all⟩ := entries_of_parts spelled
  refine ⟨entries, tokens, closing, rfl, isClosing, allTokens ▸ listed,
    fun entry mem => (all entry mem).1, fun entry mem => (all entry mem).2.1,
    fun entry mem => (all entry mem).2.2, ?_⟩
  rw [allPairs]

/-- Literals, names, collections and expressions in parentheses are atoms. -/
theorem primary_readsOnly (outer : Nat) :
    ReadsOnly (primary inner outer) (Expresses .atom) := by
  intro input output node read
  obtain ⟨token, rest, rfl, more⟩ := of_peek read
  -- A token that is an expression by itself.
  have leaf : ∀ {found : Node}, token.leaf? = some found →
      (drop >>= fun _ => pure found : Parser Node) (token :: rest) = .ok (node, output) →
      ∃ tokens, token :: rest = tokens ++ output ∧ Expresses .atom tokens node := by
    intro found isLeaf taken
    rw [drop_then] at taken
    obtain ⟨rfl, rfl⟩ := pure_eq_ok.mp taken
    exact ⟨[token], rfl, Expresses.leaf isLeaf⟩
  -- A literal after the word for its type.
  have literal : ∀ {next : Token} {value : Value}, token.annotated? next = some value →
      ∃ tokens, token :: next :: output = tokens ++ output ∧
        Expresses .atom tokens (.literal token.place value) := by
    intro next value isLiteral
    exact ⟨[token, next], rfl, Expresses.annotated isLiteral⟩
  -- A collection after its opening bracket, with or without the word for its type.
  have tome : ∀ {heading body : List Token}, Opening .tome .leftBracket heading token.place →
      listLiteral inner outer token.place body = .ok (node, output) →
      ∃ tokens, heading ++ body = tokens ++ output ∧ Expresses .atom tokens node := by
    intro heading body opened given
    obtain ⟨items, tokens, closing, rfl, isClosing, listed, spelled, rfl⟩ :=
      listLiteral_eq_ok innerReads given
    exact ⟨heading ++ (tokens ++ [closing]), by simp, .tome opened spelled listed isClosing⟩
  have grimoire : ∀ {heading body : List Token},
      Opening .grimoire .leftBrace heading token.place →
      dictLiteral inner outer token.place body = .ok (node, output) →
      ∃ tokens, heading ++ body = tokens ++ output ∧ Expresses .atom tokens node := by
    intro heading body opened given
    obtain ⟨entries, tokens, closing, rfl, isClosing, listed, keys, colons, values, rfl⟩ :=
      dictLiteral_eq_ok innerReads given
    exact ⟨heading ++ (tokens ++ [closing]), by simp,
      .grimoire opened keys colons values listed isClosing⟩
  cases kind : token.kind
  all_goals simp only [kind] at more
  case integer | float | string | trueWord | falseWord | void | identifier =>
    exact leaf (by simp only [Token.leaf?, kind]) more
  case scroll | rune =>
    rw [drop_then] at more
    obtain ⟨next, _, rfl, isNext, given⟩ := of_consume more rfl
    obtain ⟨rfl, rfl⟩ := pure_eq_ok.mp given
    exact literal (by simp only [Token.annotated?, kind, isNext])
  case potion =>
    rw [drop_then] at more
    obtain ⟨next, value, rfl, isNumber, converted, rfl⟩ := potionLiteral_eq_ok more
    refine literal ?_
    rcases isNumber with isFloat | isInteger
    · simp only [Token.annotated?, kind, isFloat, converted]
    · simp only [Token.annotated?, kind, isInteger, converted]
  case charm =>
    rw [drop_then] at more
    obtain ⟨next, value, rfl, isLiteral, rfl⟩ := charmLiteral_eq_ok kind more
    exact literal isLiteral
  case tome =>
    rw [drop_then] at more
    obtain ⟨opening, _, rfl, isOpening, given⟩ := of_discard more rfl
    exact tome (.named kind isOpening) given
  case grimoire =>
    rw [drop_then] at more
    obtain ⟨opening, _, rfl, isOpening, given⟩ := of_discard more rfl
    exact grimoire (.named kind isOpening) given
  case leftBracket => exact tome (.bare kind) (drop_then.symm.trans more)
  case leftBrace => exact grimoire (.bare kind) (drop_then.symm.trans more)
  case leftParen =>
    rw [drop_then] at more
    obtain ⟨found, _, readInner, afterInner⟩ := bind_eq_ok.mp more
    obtain ⟨tokens, rfl, spelled⟩ := innerReads readInner
    obtain ⟨closing, _, rfl, isClosing, given⟩ := of_discard afterInner rfl
    obtain ⟨rfl, rfl⟩ := pure_eq_ok.mp given
    exact ⟨token :: (tokens ++ [closing]), by simp, Expresses.group kind spelled isClosing⟩
  all_goals exact (fail_ne_ok more).elim

/-! ## Suffixes -/

theorem suffixes_readsLevel (spelled : Expresses .application front node)
    (read : suffixes inner fuel node input = .ok (res, output)) :
    ∃ tokens next rest,
      input = tokens ++ next :: rest ∧ output = next :: rest ∧
        Expresses .application (front ++ tokens) res ∧
          next.kind.binding < Level.application.rank := by
  induction fuel generalizing front input node with
  | zero => exact (exhausted_ne_ok read).elim
  | succ fuel ih =>
    -- One more suffix is read, and the loop goes on.
    have goesOn : ∀ {suffix rest : List Token} {longer : Node},
        Expresses .application (front ++ suffix) longer →
        suffixes inner fuel longer rest = .ok (res, output) →
        ∃ tokens next others, suffix ++ rest = tokens ++ next :: others ∧
          output = next :: others ∧ Expresses .application (front ++ tokens) res ∧
            next.kind.binding < Level.application.rank := by
      intro suffix rest longer longerSpelled more
      obtain ⟨tokens, next, others, rfl, rfl, resultSpelled, loose⟩ := ih longerSpelled more
      exact ⟨suffix ++ tokens, next, others, by rw [append_assoc], rfl,
        by rwa [← append_assoc], loose⟩
    obtain ⟨first, others, rfl, ⟨isParen, more⟩ | ⟨notParen, more⟩⟩ := of_accept read rfl
    · obtain ⟨args, _, readArguments, read⟩ := bind_eq_ok.mp more
      obtain ⟨items, listing, closing, rfl, isClosing, listed, rfl, all⟩ :=
        listing_of_enclosed innerReads rfl readArguments
      simpa using goesOn (Expresses.call spelled isParen all listed isClosing) read
    by_cases isBracket : first.kind = .leftBracket
    · rw [accept_then isBracket rfl] at more
      obtain ⟨pos, _, readPosition, afterPosition⟩ := bind_eq_ok.mp more
      obtain ⟨positionTokens, rfl, positionSpelled⟩ := innerReads readPosition
      obtain ⟨closing, _, rfl, isClosing, read⟩ := of_discard afterPosition rfl
      simpa using goesOn (Expresses.index spelled isBracket positionSpelled isClosing) read
    rw [accept_else isBracket rfl] at more
    by_cases isDot : first.kind = .dot
    · rw [accept_then isDot rfl] at more
      obtain ⟨name, _, rfl, isName, read⟩ := of_consume more rfl
      exact goesOn (Expresses.member spelled isDot isName) read
    rw [accept_else isDot rfl] at more
    obtain ⟨rfl, rfl⟩ := pure_eq_ok.mp more
    exact ⟨[], first, others, rfl, rfl, by rwa [append_nil],
      binding_lt_of_noSuffix notParen isBracket isDot⟩

theorem postfixed_readsLevel (outer : Nat) :
    ReadsLevel .application (postfixed inner outer) := by
  intro input output node read
  simp only [postfixed, bind_eq_ok] at read
  obtain ⟨atom, afterAtom, readAtom, read⟩ := read
  obtain ⟨front, rfl, spelled⟩ := primary_readsOnly innerReads outer readAtom
  obtain ⟨tokens, next, rest, rfl, rfl, resultSpelled, loose⟩ :=
    suffixes_readsLevel innerReads (Expresses.loosen spelled) read
  exact ⟨front ++ tokens, next, rest, by rw [append_assoc], rfl, resultSpelled, loose⟩

/-! ## Signs and operators -/

theorem negated_readsLevel (outer fuel : Nat) :
    ReadsLevel .negation (negated inner outer fuel) := by
  induction fuel with
  | zero =>
    intro input output node read
    exact (exhausted_ne_ok read).elim
  | succ fuel ih =>
    intro input output node read
    obtain ⟨sign, others, rfl, more⟩ := of_peek read
    by_cases isMinus : sign.kind = .minus
    · rw [accept_then isMinus rfl] at more
      obtain ⟨operand, readOperand, rfl⟩ := bind_pure_eq_ok.mp more
      obtain ⟨tokens, next, rest, rfl, rfl, spelled, loose⟩ := ih readOperand
      exact ⟨sign :: tokens, next, rest, rfl, rfl, Expresses.negate isMinus spelled, loose⟩
    · rw [accept_else isMinus rfl] at more
      obtain ⟨tokens, next, rest, equal, rfl, spelled, loose⟩ :=
        postfixed_readsLevel innerReads outer more
      exact ⟨tokens, next, rest, equal, rfl, Expresses.loosen spelled, binding_lt_negation loose⟩

theorem powers_readsLevel (outer fuel : Nat) :
    ReadsLevel .power (powers inner outer fuel) := by
  induction fuel with
  | zero =>
    intro input output node read
    exact (exhausted_ne_ok read).elim
  | succ fuel ih =>
    intro input output node read
    obtain ⟨base, _, readBase, more⟩ := bind_eq_ok.mp read
    obtain ⟨left, next, rest, rfl, rfl, leftSpelled, loose⟩ :=
      negated_readsLevel innerReads outer outer readBase
    by_cases isPower : next.kind = .power
    · rw [accept_then isPower rfl] at more
      obtain ⟨exp, readExponent, rfl⟩ := bind_pure_eq_ok.mp more
      obtain ⟨right, last, rest, rfl, rfl, rightSpelled, lastLoose⟩ := ih readExponent
      exact ⟨left ++ next :: right, last, rest, by simp, rfl,
        Expresses.power leftSpelled isPower rightSpelled, lastLoose⟩
    · rw [accept_else isPower rfl] at more
      obtain ⟨rfl, rfl⟩ := pure_eq_ok.mp more
      exact ⟨left, next, rest, rfl, rfl, Expresses.loosen leftSpelled,
        binding_lt_power loose isPower⟩

omit innerReads in
theorem joined_readsLevel (hasOperators : level.joins = true)
    (operandReads : ReadsLevel level.tighter operand) {left : Node}
    (spelled : Expresses level front left)
    (loose : ∀ next rest, input = next :: rest → next.kind.binding < level.tighter.rank)
    (read : joined level.operator? operand fuel left input = .ok (res, output)) :
    ∃ tokens next rest,
      input = tokens ++ next :: rest ∧ output = next :: rest ∧
        Expresses level (front ++ tokens) res ∧ next.kind.binding < level.rank := by
  induction fuel generalizing front input left with
  | zero => exact (exhausted_ne_ok read).elim
  | succ fuel ih =>
    obtain ⟨sign, others, rfl, more⟩ := of_peek read
    cases found : level.operator? sign.kind with
    | none =>
      rw [found] at more
      obtain ⟨rfl, rfl⟩ := pure_eq_ok.mp more
      exact ⟨[], sign, others, rfl, rfl, by rwa [append_nil],
        binding_lt_of_noOperator hasOperators found (loose sign others rfl)⟩
    | some op =>
      rw [found] at more
      dsimp only at more
      rw [drop_then] at more
      obtain ⟨right, _, readRight, goesOn⟩ := bind_eq_ok.mp more
      obtain ⟨rightTokens, next, rest, rfl, rfl, rightSpelled, nextLoose⟩ :=
        operandReads readRight
      obtain ⟨tokens, last, rest, equal, rfl, resultSpelled, lastLoose⟩ :=
        ih (Expresses.join spelled found rightSpelled)
          (by rintro other tail same; cases same; exact nextLoose) goesOn
      rw [equal]
      exact ⟨sign :: rightTokens ++ tokens, last, rest, by simp, rfl,
        by simpa using resultSpelled, lastLoose⟩

omit innerReads in
theorem leftAssociative_readsLevel (level : Level) (hasOperators : level.joins = true)
    (operandReads : ReadsLevel level.tighter operand) (fuel : Nat) :
    ReadsLevel level (leftAssociative level.operator? operand fuel) := by
  intro input output node read
  simp only [leftAssociative, bind_eq_ok] at read
  obtain ⟨first, afterFirst, readFirst, read⟩ := read
  obtain ⟨front, next, rest, rfl, rfl, spelled, loose⟩ := operandReads readFirst
  obtain ⟨tokens, last, others, equal, rfl, resultSpelled, lastLoose⟩ :=
    joined_readsLevel hasOperators operandReads (Expresses.loosen spelled)
      (by rintro other tail same; cases same; exact loose) read
  rw [equal]
  exact ⟨front ++ tokens, last, others, by rw [append_assoc], rfl, resultSpelled, lastLoose⟩

theorem comparisons_readsLevel (outer : Nat) :
    ReadsLevel .comparison (comparisons inner outer) := by
  have products : ReadsLevel .product (products inner outer) :=
    leftAssociative_readsLevel .product rfl (powers_readsLevel innerReads outer outer) outer
  have sums : ReadsLevel .sum (sums inner outer) :=
    leftAssociative_readsLevel .sum rfl products outer
  exact leftAssociative_readsLevel .comparison rfl sums outer

theorem denials_readsLevel (outer fuel : Nat) :
    ReadsLevel .denial (denials inner outer fuel) := by
  induction fuel with
  | zero =>
    intro input output node read
    exact (exhausted_ne_ok read).elim
  | succ fuel ih =>
    intro input output node read
    obtain ⟨sign, others, rfl, more⟩ := of_peek read
    by_cases isNot : sign.kind = .notWord
    · rw [accept_then isNot rfl] at more
      obtain ⟨operand, readOperand, rfl⟩ := bind_pure_eq_ok.mp more
      obtain ⟨tokens, next, rest, rfl, rfl, spelled, loose⟩ := ih readOperand
      exact ⟨sign :: tokens, next, rest, rfl, rfl, Expresses.deny isNot spelled, loose⟩
    · rw [accept_else isNot rfl] at more
      obtain ⟨tokens, next, rest, equal, rfl, spelled, loose⟩ :=
        comparisons_readsLevel innerReads outer more
      exact ⟨tokens, next, rest, equal, rfl, Expresses.loosen spelled, binding_lt_denial loose⟩

theorem disjunctions_readsLevel (outer : Nat) :
    ReadsLevel .disjunction (disjunctions inner outer) := by
  have conjunctions : ReadsLevel .conjunction (conjunctions inner outer) :=
    leftAssociative_readsLevel .conjunction rfl (denials_readsLevel innerReads outer outer) outer
  exact leftAssociative_readsLevel .disjunction rfl conjunctions outer

end Levels

/-! ## Expressions -/

theorem expression_readsLevel (budget : Nat) :
    ReadsLevel .disjunction (expression budget) := by
  induction budget with
  | zero =>
    intro input output node read
    exact (exhausted_ne_ok read).elim
  | succ budget ih => exact disjunctions_readsLevel ih.readsOnly (budget + 1)

/-- What is read as an expression is one, and the next token cannot continue it. -/
theorem expression_sound {budget : Nat} (read : expression budget input = .ok (node, output)) :
    ∃ tokens next rest,
      input = tokens ++ next :: rest ∧ output = next :: rest ∧
        Expresses .disjunction tokens node ∧ next.kind.binding = 0 := by
  obtain ⟨tokens, next, rest, equal, rfl, spelled, loose⟩ := expression_readsLevel budget read
  exact ⟨tokens, next, rest, equal, rfl, spelled, Nat.lt_one_iff.mp loose⟩

end Spellbook.Parser
