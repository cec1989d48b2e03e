import Spellbook.Proofs.Parsing.Enclosed

/-!
# The parser of expressions follows the grammar

Whatever the grammar of expressions derives, the parser reads, if the token after it does not
continue the expression.

The grammar is left recursive where the parser has loops. So the induction over derivations shows
that the parser of a level comes to the point where it has the node and has left what follows
(`Reached`), and that it stops there if the next token does not continue the node.
-/

namespace Spellbook

open List Spellbook.Parser

variable {level : Level} {op : Operator} {token sign : Token}

namespace Level

variable {kind : TokenKind}

/-- The parser of a level, where `inner` reads expressions between brackets. -/
def parser (inner : Parser Node) (outer fuel : Nat) : Level → Parser Node
  | disjunction => leftAssociative disjunctionOperator (conjunctions inner outer) fuel
  | conjunction => leftAssociative conjunctionOperator (denials inner outer outer) fuel
  | denial => denials inner outer fuel
  | comparison => leftAssociative comparisonOperator (sums inner outer) fuel
  | sum => leftAssociative sumOperator (products inner outer) fuel
  | product => leftAssociative productOperator (powers inner outer outer) fuel
  | power => powers inner outer fuel
  | negation => negated inner outer fuel
  | application => do suffixes inner fuel (← primary inner outer)
  | atom => primary inner outer

def resume (inner : Parser Node) (outer fuel : Nat) (level : Level) (node : Node) :
    Parser Node :=
  match level with
  | disjunction | conjunction | comparison | sum | product =>
    joined level.operator? (level.tighter.parser inner outer outer) fuel node
  | application => suffixes inner fuel node
  | denial | power | negation | atom => pure node

/-- Does the parser of a level go on in a loop with what it has read? -/
def loops : Level → Bool
  | disjunction | conjunction | comparison | sum | product | application => true
  | denial | power | negation | atom => false

/-- Tokens that bind less than this leave the parser of a level at the node it has read. -/
def limit (level : Level) : Nat :=
  if level.loops then level.rank + 1 else level.rank

theorem parser_of_loops (isLoop : level.loops = true) (inner : Parser Node) (outer fuel : Nat) :
    level.parser inner outer fuel =
      level.tighter.parser inner outer outer >>= level.resume inner outer fuel := by
  cases level <;> first | rfl | cases isLoop

theorem tighter_rank_of_loops (isLoop : level.loops = true) : level.limit = level.tighter.rank := by
  cases level <;> first | rfl | cases isLoop

/-- A token is an operator of no other level than the one at which it binds. -/
theorem binding_of_operator (isOperator : level.operator? kind = some op) :
    kind.binding = level.rank ∧ level.loops = true := by
  cases level <;> cases kind <;> first | (cases isOperator; done) | exact ⟨rfl, rfl⟩

theorem operator_eq_none (loose : kind.binding < level.rank) : level.operator? kind = none := by
  cases found : level.operator? kind with
  | none => rfl
  | some op =>
    have binds := (binding_of_operator found).1
    omega

/-! ## The loops of the parser -/

theorem joined_of_none {operatorOf : TokenKind → Option Operator} {operand : Parser Node}
    (noOperator : operatorOf token.kind = none) (fuel : Nat) (node : Node) (rest : List Token) :
    joined operatorOf operand (fuel + 1) node (token :: rest) = .ok (node, token :: rest) := by
  unfold joined
  rw [peek_then, noOperator]
  rfl

theorem resume_operator (isOperator : level.operator? sign.kind = some op)
    (inner : Parser Node) (outer fuel : Nat) (node : Node) (rest : List Token) :
    level.resume inner outer (fuel + 1) node (sign :: rest) =
      (level.tighter.parser inner outer outer >>= fun right =>
        level.resume inner outer fuel (.binary node.place node op right)) rest := by
  have unfolded :
      joined level.operator? (level.tighter.parser inner outer outer) (fuel + 1) node
          (sign :: rest) =
        (level.tighter.parser inner outer outer >>= fun right =>
          joined level.operator? (level.tighter.parser inner outer outer) fuel
            (.binary node.place node op right)) rest := by
    rw [joined, peek_then, isOperator]
    exact drop_then
  cases level <;> first | exact unfolded | cases isOperator

theorem suffixes_of_none {inner : Parser Node} (loose : token.kind.binding < 9) (fuel : Nat)
    (node : Node) (rest : List Token) :
    suffixes inner (fuel + 1) node (token :: rest) = .ok (node, token :: rest) := by
  have notParen : token.kind ≠ .leftParen := TokenKind.ne_of_binding loose (by decide)
  have notBracket : token.kind ≠ .leftBracket := TokenKind.ne_of_binding loose (by decide)
  have notDot : token.kind ≠ .dot := TokenKind.ne_of_binding loose (by decide)
  unfold suffixes
  rw [accept_else notParen rfl, accept_else notBracket rfl, accept_else notDot rfl]
  rfl

/-- A parser stops at a token that binds too little for its level. -/
theorem resume_of_loose (loose : token.kind.binding < level.rank) (inner : Parser Node)
    (outer fuel : Nat) (node : Node) (rest : List Token) :
    level.resume inner outer (fuel + 1) node (token :: rest) = .ok (node, token :: rest) := by
  have noOperator := operator_eq_none loose
  cases level with
  | denial | power | negation | atom => rfl
  | application => exact suffixes_of_none loose fuel node rest
  | disjunction | conjunction | comparison | sum | product =>
    exact joined_of_none noOperator fuel node rest

end Level

namespace Grammar

open Level

variable {tokens inner left right heading : List Token} {node leftNode rightNode : Node}
  {next closing opening word : Token} {budget : Nat} {parts : List (List Token)}
  {trailingComma : Bool} {closer : TokenKind} {items : List Item} {value : Value} {place : Place}

/-- The budgets, for what is between brackets and for the loops, suffice for the tokens. -/
abbrev Fits (tokens : List Token) (budget outer fuel : Nat) : Prop :=
  tokens.length ≤ budget ∧ tokens.length < outer ∧ tokens.length < fuel

/--
The parser of the level comes to the point where it has read the tokens, has the node, and has left
what follows, if the next token binds less than the limit of the level.
-/
def Reached (level : Level) (tokens : List Token) (node : Node) : Prop :=
  ∀ budget outer fuel : Nat, Fits tokens budget outer fuel →
    ∀ (next : Token) (rest : List Token), next.kind.binding < level.limit →
      ∃ spare, fuel < spare + tokens.length ∧
        level.parser (expression budget) outer fuel (tokens ++ next :: rest) =
          level.resume (expression budget) outer spare node (next :: rest)

theorem rank_le_limit (level : Level) : level.rank ≤ level.limit := by
  cases level <;> decide

theorem Reached.parses (reached : Reached level tokens node) (budget outer fuel : Nat)
    (fits : Fits tokens budget outer fuel) (loose : next.kind.binding < level.rank)
    (rest : List Token) :
    level.parser (expression budget) outer fuel (tokens ++ next :: rest) =
      .ok (node, next :: rest) := by
  have belowLimit := Nat.lt_of_lt_of_le loose (rank_le_limit level)
  obtain ⟨spare, bound, same⟩ := reached budget outer fuel fits next rest belowLimit
  obtain ⟨less, rfl⟩ : ∃ less, spare = less + 1 := ⟨spare - 1, by omega⟩
  rw [same]
  exact resume_of_loose loose _ _ less node rest

theorem Reached.expression (reached : Reached .disjunction tokens node)
    (enough : tokens.length < budget) (loose : next.kind.binding = 0) (rest : List Token) :
    Parser.expression budget (tokens ++ next :: rest) = .ok (node, next :: rest) := by
  obtain ⟨less, rfl⟩ : ∃ less, budget = less + 1 := ⟨budget - 1, by omega⟩
  have below : next.kind.binding < Level.disjunction.rank := by
    rw [loose]
    decide
  have parsed := reached.parses less (less + 1) (less + 1) (by omega) below rest
  exact parsed

theorem Separated.length_le (separated : Separated parts tokens) :
    ∀ part ∈ parts, part.length ≤ tokens.length := by
  induction separated with
  | single part =>
    intro other mem
    obtain rfl := mem_singleton.mp mem
    exact Nat.le_refl _
  | @comma first tokens comma parts isComma others ih =>
    intro part mem
    rw [length_append, length_cons]
    rcases mem_cons.mp mem with rfl | later
    · omega
    · have bound := ih part later
      omega

theorem Listing.length_le (listed : Listing trailingComma parts tokens) :
    ∀ part ∈ parts, part.length ≤ tokens.length := by
  intro part mem
  cases listed with
  | empty => cases mem
  | plain separated => exact separated.length_le part mem
  | trailing allowed separated isComma =>
    have bound := separated.length_le part mem
    rw [length_append]
    omega

/-! ## Listings of expressions -/

theorem readsItem_of_reached {item : Item} (reached : Reached .disjunction item.1 item.2)
    (loose : closer.binding = 0) (enough : item.1.length < budget) :
    ReadsItem (Parser.expression budget) closer item := by
  intro token rest isEnd
  refine reached.expression enough ?_ rest
  rcases isEnd with isComma | isCloser
  · rw [isComma]
    rfl
  · rw [isCloser, loose]

theorem Expresses.startsApart (never : closer.opening = 0) (spelled : Expresses level tokens node) :
    StartsApart closer tokens := by
  obtain ⟨token, rest, rfl, starts⟩ := spelled.starts
  refine ⟨token, rest, rfl, ?_⟩
  intro same
  have positive := level.rank_pos
  rw [same, never] at starts
  omega

theorem enclosed_of_reached (known : closer.Known) (notComma : closer ≠ .comma)
    (loose : closer.binding = 0) (never : closer.opening = 0)
    (spelled : ∀ item ∈ items, Expresses .disjunction item.1 item.2)
    (reached : ∀ item ∈ items, Reached .disjunction item.1 item.2)
    (listed : Listing trailingComma (items.map Prod.fst) inner) {fuel : Nat}
    (withinBudget : inner.length < budget) (enough : inner.length < fuel) (msg : String)
    (isClosing : closing.kind = closer) (rest : List Token) :
    enclosed (Parser.expression budget) closer trailingComma fuel msg
        (inner ++ closing :: rest) =
      .ok (items.map Prod.snd, rest) := by
  refine enclosed_of_listing known notComma listed ?_ ?_ enough msg isClosing rest
  · intro item mem
    have bound := listed.length_le item.1 (mem_map_of_mem mem)
    exact readsItem_of_reached (reached item mem) loose (Nat.lt_of_le_of_lt bound withinBudget)
  · intro item mem
    exact (spelled item mem).startsApart never

/-! ## The rules one by one -/

theorem Reached.of_parses (noLoop : level.loops = false) (nonempty : 0 < tokens.length)
    (parses : ∀ budget outer less : Nat, Fits tokens budget outer (less + 1) →
      ∀ (next : Token) (rest : List Token), next.kind.binding < level.limit →
        level.parser (Parser.expression budget) outer (less + 1) (tokens ++ next :: rest) =
          .ok (node, next :: rest)) :
    Reached level tokens node := by
  intro budget outer fuel fits next rest loose
  obtain ⟨less, rfl⟩ : ∃ less, fuel = less + 1 := ⟨fuel - 1, by omega⟩
  refine ⟨less + 1, by omega, ?_⟩
  rw [parses budget outer less fits next rest loose]
  cases level <;> first | rfl | cases noLoop

theorem Reached.loosen (spelled : Expresses level.tighter tokens node)
    (reached : Reached level.tighter tokens node) :
    Reached level tokens node := by
  have nonempty := spelled.length_pos
  by_cases isLoop : level.loops = true
  · intro budget outer fuel fits next rest loose
    refine ⟨fuel, by omega, ?_⟩
    rw [tighter_rank_of_loops isLoop] at loose
    rw [parser_of_loops isLoop,
      bind_of_ok (reached.parses budget outer outer (by omega) loose rest)]
  · refine Reached.of_parses (Bool.eq_false_iff.mpr isLoop) nonempty ?_
    intro budget outer less fits next rest loose
    have below : next.kind.binding < level.tighter.rank := by
      cases level <;> first | exact loose | exact Nat.lt_succ_of_lt loose
    have read := reached.parses budget outer outer (by omega) below rest
    obtain ⟨first, others, rfl, starts⟩ := spelled.starts
    rw [cons_append] at read ⊢
    cases level with
    | atom => exact read
    | denial =>
      have notNot : first.kind ≠ .notWord := TokenKind.ne_of_opening starts (by decide)
      change denials _ _ (less + 1) _ = _
      rw [denials, peek_then, accept_else notNot rfl]
      exact read
    | power =>
      have notPower : next.kind ≠ .power := TokenKind.ne_of_binding loose (by decide)
      change negated _ _ _ _ = _ at read
      change powers _ _ (less + 1) _ = _
      rw [powers, bind_of_ok read, accept_else notPower rfl]
      rfl
    | negation =>
      have notMinus : first.kind ≠ .minus := TokenKind.ne_of_opening starts (by decide)
      change negated _ _ (less + 1) _ = _
      rw [negated, peek_then, accept_else notMinus rfl]
      exact read
    | disjunction | conjunction | comparison | sum | product | application =>
      exact absurd rfl isLoop

theorem Reached.join (leftReached : Reached level left leftNode)
    (isOperator : level.operator? sign.kind = some op)
    (rightReached : Reached level.tighter right rightNode) :
    Reached level (left ++ sign :: right) (.binary leftNode.place leftNode op rightNode) := by
  obtain ⟨binds, isLoop⟩ := binding_of_operator isOperator
  intro budget outer fuel fits next rest loose
  simp only [Fits, length_append, length_cons] at fits ⊢
  have limitIsRank := tighter_rank_of_loops isLoop
  have signLoose : sign.kind.binding < level.limit := by
    rw [binds]
    cases level <;> first | decide | cases isLoop
  obtain ⟨spare, bound, reached⟩ := leftReached budget outer fuel (by omega) sign
    (right ++ next :: rest) signLoose
  obtain ⟨less, rfl⟩ : ∃ less, spare = less + 1 := ⟨spare - 1, by omega⟩
  refine ⟨less, by omega, ?_⟩
  have readRight := rightReached.parses budget outer outer (by omega) (limitIsRank ▸ loose) rest
  rw [append_assoc, cons_append, reached, resume_operator isOperator, bind_of_ok readRight]

theorem Reached.power (leftReached : Reached .negation left leftNode) (isPower : sign.kind = .power)
    (rightReached : Reached .power right rightNode) :
    Reached .power (left ++ sign :: right) (.binary leftNode.place leftNode .power rightNode) := by
  refine Reached.of_parses rfl (by rw [length_append, length_cons]; omega) ?_
  intro budget outer less fits next rest loose
  simp only [Fits, length_append, length_cons] at fits
  have signLoose : sign.kind.binding < Level.negation.rank := by
    rw [isPower]
    decide
  have readLeft := leftReached.parses budget outer outer (by omega) signLoose
    (right ++ next :: rest)
  have readRight := rightReached.parses budget outer less (by omega) loose rest
  change negated _ _ _ _ = _ at readLeft
  change powers _ _ _ _ = _ at readRight
  change powers _ _ (less + 1) _ = _
  rw [append_assoc, cons_append, powers, bind_of_ok readLeft, accept_then isPower rfl,
    bind_of_ok readRight]
  rfl

theorem Reached.deny (isNot : sign.kind = .notWord) (reached : Reached .denial tokens node) :
    Reached .denial (sign :: tokens) (.unary sign.place .denial node) := by
  refine Reached.of_parses rfl (by simp) ?_
  intro budget outer less fits next rest loose
  simp only [Fits, length_cons] at fits
  have read := reached.parses budget outer less (by omega) loose rest
  change denials _ _ _ _ = _ at read
  change denials _ _ (less + 1) _ = _
  rw [cons_append, denials, peek_then, accept_then isNot rfl, bind_of_ok read]
  rfl

theorem Reached.negate (isMinus : sign.kind = .minus) (reached : Reached .negation tokens node) :
    Reached .negation (sign :: tokens) (.unary sign.place .negation node) := by
  refine Reached.of_parses rfl (by simp) ?_
  intro budget outer less fits next rest loose
  simp only [Fits, length_cons] at fits
  have read := reached.parses budget outer less (by omega) loose rest
  change negated _ _ _ _ = _ at read
  change negated _ _ (less + 1) _ = _
  rw [cons_append, negated, peek_then, accept_then isMinus rfl, bind_of_ok read]
  rfl

/-- The loop over suffixes is reached with so much fuel left that one more suffix can be read. -/
theorem Reached.suffix (reached : Reached .application tokens node) (budget outer fuel extra : Nat)
    (fits : Fits tokens budget outer (fuel - extra)) (suffixes : next.kind.binding = 9)
    (rest : List Token) :
    ∃ spare, fuel < spare + 1 + tokens.length ∧ extra < spare + 1 ∧
      Level.application.parser (Parser.expression budget) outer fuel
          (tokens ++ next :: rest) =
        Parser.suffixes (Parser.expression budget) (spare + 1) node (next :: rest) := by
  have loose : next.kind.binding < Level.application.limit := by
    rw [suffixes]
    decide
  obtain ⟨spare, bound, same⟩ := reached budget outer fuel (by omega) next rest loose
  obtain ⟨less, rfl⟩ : ∃ less, spare = less + 1 := ⟨spare - 1, by omega⟩
  exact ⟨less, by omega, by omega, same⟩

theorem Reached.call {callee : List Token} {calleeNode : Node}
    (called : Reached .application callee calleeNode) (isOpening : opening.kind = .leftParen)
    (spelled : ∀ item ∈ items, Expresses .disjunction item.1 item.2)
    (reached : ∀ item ∈ items, Reached .disjunction item.1 item.2)
    (listed : Listing false (items.map Prod.fst) inner) (isClosing : closing.kind = .rightParen) :
    Reached .application (callee ++ opening :: (inner ++ [closing]))
      (.call calleeNode.place calleeNode (items.map Prod.snd)) := by
  intro budget outer fuel fits next rest loose
  simp only [Fits, length_append, length_cons, length_nil] at fits ⊢
  obtain ⟨spare, bound, inside, same⟩ :=
    called.suffix budget outer fuel (inner.length + 1) (by omega)
      (show opening.kind.binding = 9 by rw [isOpening]; rfl) (inner ++ closing :: next :: rest)
  refine ⟨spare, by omega, ?_⟩
  have readArguments := enclosed_of_reached rfl (by decide) rfl rfl spelled reached listed
    (show inner.length < budget by omega) (show inner.length < spare + 1 by omega)
    "Expected ')' after arguments" isClosing (next :: rest)
  simp only [append_assoc, cons_append, nil_append]
  rw [same, suffixes, accept_then isOpening rfl, bind_of_ok readArguments]
  rfl

theorem Reached.index {coll : List Token} {collectionNode pos : Node}
    (indexed : Reached .application coll collectionNode)
    (isOpening : opening.kind = .leftBracket) (positioned : Reached .disjunction inner pos)
    (isClosing : closing.kind = .rightBracket) :
    Reached .application (coll ++ opening :: (inner ++ [closing]))
      (.index collectionNode.place collectionNode pos) := by
  intro budget outer fuel fits next rest loose
  simp only [Fits, length_append, length_cons, length_nil] at fits ⊢
  obtain ⟨spare, bound, inside, same⟩ :=
    indexed.suffix budget outer fuel (inner.length + 1) (by omega)
      (show opening.kind.binding = 9 by rw [isOpening]; rfl) (inner ++ closing :: next :: rest)
  refine ⟨spare, by omega, ?_⟩
  have notParen : opening.kind ≠ .leftParen := isOpening ▸ by decide
  have readPosition := positioned.expression (show inner.length < budget by omega)
    (show closing.kind.binding = 0 by rw [isClosing]; rfl) (next :: rest)
  simp only [append_assoc, cons_append, nil_append]
  rw [same, suffixes, accept_else notParen rfl, accept_then isOpening rfl, bind_of_ok readPosition,
    discard_then isClosing rfl]
  rfl

theorem Reached.member {object : List Token} {dot name : Token} {objectNode : Node}
    (reached : Reached .application object objectNode)
    (isDot : dot.kind = .dot) (isName : name.kind = .identifier) :
    Reached .application (object ++ [dot, name])
      (.member objectNode.place objectNode name.text) := by
  intro budget outer fuel fits next rest loose
  simp only [Fits, length_append, length_cons, length_nil] at fits ⊢
  obtain ⟨spare, bound, inside, same⟩ :=
    reached.suffix budget outer fuel 1 (by omega)
      (show dot.kind.binding = 9 by rw [isDot]; rfl) (name :: next :: rest)
  refine ⟨spare, by omega, ?_⟩
  have notParen : dot.kind ≠ .leftParen := isDot ▸ by decide
  have notBracket : dot.kind ≠ .leftBracket := isDot ▸ by decide
  simp only [append_assoc, cons_append, nil_append]
  rw [same, suffixes, accept_else notParen rfl, accept_else notBracket rfl, accept_then isDot rfl,
    consume_then isName rfl]
  rfl

/-! ## Atoms -/

theorem primary_of_leaf (isLeaf : token.leaf? = some node) (inner : Parser Node) (outer : Nat)
    (rest : List Token) :
    primary inner outer (token :: rest) = .ok (node, rest) := by
  unfold primary
  rw [peek_then]
  unfold Token.leaf? at isLeaf
  split at isLeaf
  all_goals first
    | (cases isLeaf; simp only [*]; exact drop_then)
    | cases isLeaf

/-- The last step of reading a number after `potion`, which converts its value. -/
def potionConversion (place : Place) : Value → Parser Node
  | .potion num birth => return .literal place (.potion num birth)
  | value =>
    match value.toFloat with
    | .ok num => return .literal place (.potion num 0)
    | .error fault => throw (.fault fault)

theorem potionConversion_of_value (converted : token.potionValue? = some value) (place : Place)
    (rest : List Token) :
    potionConversion place token.value rest = .ok (.literal place value, rest) := by
  unfold Token.potionValue? at converted
  unfold potionConversion
  split at converted
  · cases converted
    simp only [*]
    rfl
  · split at converted
    · cases converted
      simp only [*]
      rfl
    · cases converted

theorem potionLiteral_of_number (isNumber : token.kind = .float ∨ token.kind = .integer)
    (place : Place) (rest : List Token) :
    potionLiteral place (token :: rest) = potionConversion place token.value rest := by
  unfold potionLiteral
  rw [bind_of_ok (check_cons rfl token rest)]
  rcases isNumber with isFloat | isInteger
  · simp only [isFloat, decide_true, if_true]
    rw [peek_then, drop_then]
    rfl
  · have notFloat : token.kind ≠ .float := isInteger ▸ by decide
    simp only [notFloat, decide_false, Bool.false_eq_true, if_false]
    rw [consume_then isInteger rfl]
    rfl

theorem potionLiteral_of_value (isNumber : token.kind = .float ∨ token.kind = .integer)
    (converted : token.potionValue? = some value) (place : Place) (rest : List Token) :
    potionLiteral place (token :: rest) = .ok (.literal place value, rest) := by
  rw [potionLiteral_of_number isNumber]
  exact potionConversion_of_value converted place rest

theorem primary_of_annotated (isLiteral : word.annotated? token = some value) (inner : Parser Node)
    (outer : Nat) (rest : List Token) :
    primary inner outer (word :: token :: rest) = .ok (.literal word.place value, rest) := by
  unfold primary
  rw [peek_then]
  unfold Token.annotated? at isLiteral
  split at isLiteral
  case h_1 isScroll isString =>
    cases isLiteral
    simp only [isScroll]
    rw [drop_then, consume_then isString rfl]
    rfl
  case h_2 isRune isInteger =>
    cases isLiteral
    simp only [isRune]
    rw [drop_then, consume_then isInteger rfl]
    rfl
  case h_3 isPotion isFloat =>
    simp only [isPotion]
    rw [drop_then]
    exact potionLiteral_of_value (Or.inl isFloat) isLiteral word.place rest
  case h_4 isPotion isInteger =>
    simp only [isPotion]
    rw [drop_then]
    exact potionLiteral_of_value (Or.inr isInteger) isLiteral word.place rest
  case h_5 isCharm isTrue =>
    cases isLiteral
    simp only [isCharm]
    rw [drop_then, charmLiteral, accept_then isTrue rfl]
    rfl
  case h_6 isCharm isFalse =>
    cases isLiteral
    have notTrue : token.kind ≠ .trueWord := isFalse ▸ by decide
    simp only [isCharm]
    rw [drop_then, charmLiteral, accept_else notTrue rfl, accept_then isFalse rfl]
    rfl
  case h_7 => cases isLiteral

/-- What an opening bracket, with or without a word before it, is followed by. -/
theorem primary_opened {word bracket : TokenKind}
    {literal : Parser Node → Nat → Place → Parser Node}
    (kinds : word = .tome ∧ bracket = .leftBracket ∧ literal = listLiteral ∨
      word = .grimoire ∧ bracket = .leftBrace ∧ literal = dictLiteral)
    (opened : Opening word bracket heading place) (inner : Parser Node) (outer : Nat)
    (body : List Token) :
    primary inner outer (heading ++ body) = literal inner outer place body := by
  cases opened with
  | bare isBracket =>
    rw [singleton_append, primary, peek_then]
    rcases kinds with ⟨rfl, rfl, rfl⟩ | ⟨rfl, rfl, rfl⟩ <;> simp only [isBracket] <;> rw [drop_then]
  | named isWord isBracket =>
    rw [cons_append, singleton_append, primary, peek_then]
    rcases kinds with ⟨rfl, rfl, rfl⟩ | ⟨rfl, rfl, rfl⟩ <;> simp only [isWord] <;>
      rw [drop_then, discard_then isBracket rfl]

theorem Reached.tome (opened : Opening .tome .leftBracket heading place)
    (spelled : ∀ item ∈ items, Expresses .disjunction item.1 item.2)
    (reached : ∀ item ∈ items, Reached .disjunction item.1 item.2)
    (listed : Listing true (items.map Prod.fst) inner) (isClosing : closing.kind = .rightBracket) :
    Reached .atom (heading ++ (inner ++ [closing])) (.tome place (items.map Prod.snd)) := by
  refine Reached.of_parses rfl (by simp only [length_append, length_cons]; omega) ?_
  intro budget outer fuel fits next rest _
  simp only [Fits, length_append, length_cons, length_nil] at fits
  have readElements := enclosed_of_reached rfl (by decide) rfl rfl spelled reached listed
    (show inner.length < budget by omega) (show inner.length < outer by omega)
    "Expected ']' after list elements" isClosing (next :: rest)
  change primary _ _ _ = _
  simp only [append_assoc, cons_append, nil_append]
  rw [primary_opened (.inl ⟨rfl, rfl, rfl⟩) opened, listLiteral, bind_of_ok readElements]
  rfl

/-- The parser of entries reads an entry before a comma and before the closing brace. -/
theorem readsItem_entry {entry : Entry} (key : Reached .disjunction entry.key.1 entry.key.2)
    (isColon : entry.colon.kind = .colon) (value : Reached .disjunction entry.value.1 entry.value.2)
    (enough : entry.tokens.length < budget) :
    ReadsItem (pair (Parser.expression budget)) .rightBrace (entry.tokens, entry.pair) := by
  intro token rest isEnd
  simp only [Entry.tokens, length_append, length_cons] at enough
  have loose : token.kind.binding = 0 := by
    rcases isEnd with isComma | isCloser
    · rw [isComma]
      rfl
    · rw [isCloser]
      rfl
  have readKey := key.expression (show entry.key.1.length < budget by omega)
    (show entry.colon.kind.binding = 0 by rw [isColon]; rfl)
    (entry.value.1 ++ token :: rest)
  have readValue := value.expression (show entry.value.1.length < budget by omega) loose rest
  simp only [Entry.tokens, append_assoc, cons_append]
  rw [pair, bind_of_ok readKey, discard_then isColon rfl, bind_of_ok readValue]
  rfl

theorem Reached.grimoire {entries : List Entry}
    (opened : Opening .grimoire .leftBrace heading place)
    (spelled : ∀ entry ∈ entries, Expresses .disjunction entry.key.1 entry.key.2)
    (keys : ∀ entry ∈ entries, Reached .disjunction entry.key.1 entry.key.2)
    (colons : ∀ entry ∈ entries, entry.colon.kind = .colon)
    (values : ∀ entry ∈ entries, Reached .disjunction entry.value.1 entry.value.2)
    (listed : Listing true (entries.map Entry.tokens) inner)
    (isClosing : closing.kind = .rightBrace) :
    Reached .atom (heading ++ (inner ++ [closing])) (.grimoire place (entries.map Entry.pair)) := by
  refine Reached.of_parses rfl (by simp only [length_append, length_cons]; omega) ?_
  intro budget outer fuel fits next rest _
  simp only [Fits, length_append, length_cons, length_nil] at fits
  have reads : ∀ entry ∈ entries,
      ReadsItem (pair (Parser.expression budget)) .rightBrace (entry.tokens, entry.pair) := by
    intro entry inside
    have bound := listed.length_le entry.tokens (mem_map_of_mem inside)
    exact readsItem_entry (keys entry inside) (colons entry inside) (values entry inside) (by omega)
  have apart : ∀ entry ∈ entries, StartsApart .rightBrace entry.tokens := by
    intro entry inside
    obtain ⟨first, others, equal, differ⟩ : StartsApart .rightBrace entry.key.1 :=
      (spelled entry inside).startsApart rfl
    exact ⟨first, others ++ entry.colon :: entry.value.1,
      by simp only [Entry.tokens, equal, cons_append], differ⟩
  have readEntries := enclosed_of_listing rfl (by decide) listed reads apart
    (show inner.length < outer by omega)
    "Expected '\x7d' after dictionary" isClosing (next :: rest)
  change primary _ _ _ = _
  simp only [append_assoc, cons_append, nil_append]
  rw [primary_opened (.inr ⟨rfl, rfl, rfl⟩) opened, dictLiteral, bind_of_ok readEntries]
  rfl

theorem Reached.group (isOpening : opening.kind = .leftParen)
    (reached : Reached .disjunction inner node) (isClosing : closing.kind = .rightParen) :
    Reached .atom (opening :: (inner ++ [closing])) node := by
  refine Reached.of_parses rfl (Nat.zero_lt_succ _) ?_
  intro budget outer fuel fits next rest _
  simp only [Fits, length_append, length_cons, length_nil] at fits
  have readInner := reached.expression (show inner.length < budget by omega)
    (show closing.kind.binding = 0 by rw [isClosing]; rfl) (next :: rest)
  change primary _ _ _ = _
  simp only [append_assoc, cons_append, nil_append]
  rw [primary, peek_then]
  simp only [isOpening]
  rw [drop_then, bind_of_ok readInner, discard_then isClosing rfl]
  rfl

/-! ## All derivations -/

theorem Expresses.reached (spelled : Expresses level tokens node) : Reached level tokens node := by
  induction spelled with
  | loosen inner ih => exact Reached.loosen inner ih
  | join leftSide isOperator rightSide leftReached rightReached =>
    exact Reached.join leftReached isOperator rightReached
  | power leftSide isPower rightSide leftReached rightReached =>
    exact Reached.power leftReached isPower rightReached
  | deny isNot inner ih => exact Reached.deny isNot ih
  | negate isMinus inner ih => exact Reached.negate isMinus ih
  | call called isOpening args listed isClosing calledReached argumentsReached =>
    exact Reached.call calledReached isOpening args argumentsReached listed isClosing
  | index indexed isOpening positioned isClosing indexedReached positionReached =>
    exact Reached.index indexedReached isOpening positionReached isClosing
  | member inner isDot isName ih => exact Reached.member ih isDot isName
  | leaf isLeaf =>
    exact .of_parses rfl Nat.one_pos fun _ _ _ _ _ _ _ => primary_of_leaf isLeaf _ _ _
  | annotated isLiteral =>
    exact .of_parses rfl Nat.two_pos fun _ _ _ _ _ _ _ => primary_of_annotated isLiteral _ _ _
  | tome opened elems listed isClosing elementsReached =>
    exact Reached.tome opened elems elementsReached listed isClosing
  | grimoire opened keys colons values listed isClosing keysReached valuesReached =>
    exact Reached.grimoire opened keys keysReached colons valuesReached listed isClosing
  | group isOpening inside isClosing ih => exact Reached.group isOpening ih isClosing

/--
Tokens that spell out an expression are read as that expression, before any token that does not
continue it.
-/
theorem Expresses.parses (spelled : Expresses .disjunction tokens node)
    (enough : tokens.length < budget) (loose : next.kind.binding = 0) (rest : List Token) :
    Parser.expression budget (tokens ++ next :: rest) = .ok (node, next :: rest) :=
  spelled.reached.expression enough loose rest

/-- Atoms are read before any token, since no token continues them. -/
theorem Expresses.primary_parses (spelled : Expresses .atom tokens node) {outer : Nat}
    (withinBudget : tokens.length ≤ budget) (withinOuter : tokens.length < outer) (next : Token)
    (rest : List Token) :
    primary (Parser.expression budget) outer (tokens ++ next :: rest) =
      .ok (node, next :: rest) := by
  have loose : next.kind.binding < Level.atom.rank := by
    cases next.kind <;> decide
  exact spelled.reached.parses budget outer outer (by omega) loose rest

end Grammar

end Spellbook
