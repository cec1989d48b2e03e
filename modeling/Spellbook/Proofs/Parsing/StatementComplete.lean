import Spellbook.Proofs.Grammar.Statement
import Spellbook.Proofs.Parsing.ExpressionComplete

/-!
# The parser of statements follows the grammar

Whatever the grammar of statements derives, the parser reads, and gives the node of the derivation:
`Grammar.States.read` for one statement and `Grammar.Succession.parses` for a whole script.
What follows a statement must not go on with it.
-/

namespace Spellbook

open List Spellbook.Parser

namespace Grammar

variable {token closing finish : Token} {lines tokens rest body : List Token} {kind : TokenKind}
  {items : List Item} {inner : Parser Node} {fuel outer budget : Nat}
  {alts : List Alternative} {node : Node}

/-- The tokens contain one that is not a line feed, so that skipping line feeds ends. -/
def Stops (tokens : List Token) : Prop :=
  ∃ lines token rest, tokens = lines ++ token :: rest ∧ LineFeeds lines ∧ token.kind ≠ .newline

/-- The parser reads the statement before anything that does not go on with it. -/
def ReadsStatement (parser : Parser Node) (tokens : List Token) (node : Node) : Prop :=
  ∀ ⦃rest : List Token⦄, Stops rest → node.ending.clings (rest.map Token.kind) = false →
    parser (tokens ++ rest) = .ok (node, node.ending.after rest)

/-- The block is read, whatever follows it. -/
def ReadsBlock (inner : Parser Node) (budget : Nat) (body : List Token) (items : List Item) :
    Prop :=
  ∀ rest, block inner budget (body ++ rest) = .ok (items.map Prod.snd, rest)

/-! ## What follows -/

theorem Stops.cons (other : token.kind ≠ .newline) (rest : List Token) : Stops (token :: rest) :=
  ⟨[], token, rest, rfl, LineFeeds.nil, other⟩

theorem dropWhile_lines (feeds : LineFeeds lines) (tokens : List Token) :
    (lines ++ tokens).dropWhile (·.kind == .newline) = tokens.dropWhile (·.kind == .newline) := by
  refine dropWhile_append_of_pos ?_
  intro line mem
  simp [feeds line mem]

theorem dropWhile_cons (other : token.kind ≠ .newline) (rest : List Token) :
    (token :: rest).dropWhile (·.kind == .newline) = token :: rest := by
  simp [other]

theorem skipNewlines_of_stops (stops : Stops tokens) :
    skipNewlines tokens = .ok ((), tokens.dropWhile (·.kind == .newline)) := by
  obtain ⟨lines, token, rest, rfl, feeds, other⟩ := stops
  rw [skipNewlines_append feeds other, dropWhile_lines feeds, dropWhile_cons other]

/-- Whatever the ending, skipping the line feeds after a statement comes to the same point. -/
theorem skipNewlines_after (ending : Ending) (stops : Stops rest) :
    skipNewlines (ending.after rest) = .ok ((), rest.dropWhile (·.kind == .newline)) := by
  have direct := skipNewlines_of_stops stops
  cases ending with
  | closed | value | bareCast => exact direct
  | branch =>
    obtain ⟨lines, token, more, rfl, feeds, other⟩ := stops
    change skipNewlines ((lines ++ token :: more).dropWhile (·.kind == .newline)) = _
    rw [dropWhile_lines feeds, dropWhile_cons other]
    exact skipNewlines_cons other more

/-- An expression is read before what does not go on with it. -/
theorem Expresses.read {value : List Token} (valued : Expresses .disjunction value node)
    (enough : value.length < budget) (stops : Stops rest)
    (apart : Ending.value.clings (rest.map Token.kind) = false) :
    expression budget (value ++ rest) = .ok (node, rest) := by
  obtain ⟨next, more, rfl, loose⟩ : ∃ next more, rest = next :: more ∧ next.kind.binding = 0 := by
    obtain ⟨lines, token, more, rfl, -, -⟩ := stops
    cases lines with
    | nil => exact ⟨token, more, rfl, by simpa [Ending.clings] using apart⟩
    | cons line lines => exact ⟨line, _, rfl, by simpa [Ending.clings] using apart⟩
  exact valued.parses enough loose more

/-! ## Blocks -/

theorem begins_ne {other : TokenKind} (begins : kind.begins = true) (never : other.begins = false) :
    kind ≠ other := by
  rintro rfl
  rw [begins] at never
  cases never

theorem Braced.starts (braced : Braced items body) :
    ∃ token rest, body = token :: rest ∧ token.kind.binding = 0 := by
  cases braced with
  | @intro lines inner opening closing feeds isOpening _ _ =>
    cases lines with
    | nil => exact ⟨opening, _, rfl, by rw [isOpening]; rfl⟩
    | cons line lines => exact ⟨line, _, rfl, by rw [feeds line mem_cons_self]; rfl⟩

/-- The first token of a succession that is not a line feed begins a statement or closes it. -/
theorem Succession.first (succeeding : Succession closing items tokens)
    (stated : ∀ item ∈ items, States item.1 item.2) (rest : List Token) :
    ∃ lines token more,
      tokens ++ closing :: rest = lines ++ token :: more ∧ LineFeeds lines ∧
        (token = closing ∨ token.kind.begins = true) := by
  cases succeeding with
  | done feeds => exact ⟨_, closing, rest, rfl, feeds, Or.inl rfl⟩
  | @next lines tokens others node items feeds apart succeeding =>
    obtain ⟨token, more, rfl, begins⟩ : ∃ token more,
        tokens = token :: more ∧ token.kind.begins = true :=
      (stated _ mem_cons_self).starts
    refine ⟨lines, token, more ++ (others ++ closing :: rest), ?_, feeds, Or.inr begins⟩
    simp only [append_assoc, cons_append]

theorem Succession.stops (other : closing.kind ≠ .newline)
    (succeeding : Succession closing items tokens) (stated : ∀ item ∈ items, States item.1 item.2)
    (rest : List Token) :
    Stops (tokens ++ closing :: rest) := by
  obtain ⟨lines, token, more, equal, feeds, rfl | begins⟩ := succeeding.first stated rest
  · exact ⟨lines, token, more, equal, feeds, other⟩
  · exact ⟨lines, token, more, equal, feeds, begins_ne begins rfl⟩

theorem Succession.length_le (succeeding : Succession closing items tokens)
    (stated : ∀ item ∈ items, States item.1 item.2) :
    items.length ≤ tokens.length := by
  induction succeeding with
  | done feeds => exact Nat.zero_le _
  | @next lines tokens rest node items feeds apart others ih =>
    have shorter := ih (forall_mem_cons.mp stated).2
    have positive : 0 < tokens.length := (stated _ mem_cons_self).length_pos
    simp only [length_cons, length_append]
    omega

theorem Succession.item_length_le (succeeding : Succession closing items tokens) :
    ∀ item ∈ items, item.1.length ≤ tokens.length := by
  induction succeeding with
  | done feeds =>
    intro item mem
    cases mem
  | next feeds apart others ih =>
    intro item mem
    simp only [length_append]
    rcases mem_cons.mp mem with rfl | later
    · dsimp only
      omega
    · have bound := ih item later
      omega

/-- What follows after the closing token does not matter to the statements before it. -/
theorem clings_append (other : closing.kind ≠ .newline) (ending : Ending)
    (tokens rest : List Token) :
    ending.clings ((tokens ++ closing :: rest).map Token.kind) =
      ending.clings ((tokens ++ [closing]).map Token.kind) := by
  have heads : (((tokens ++ closing :: rest).map Token.kind)).head? =
      ((tokens ++ [closing]).map Token.kind).head? := by
    cases tokens <;> rfl
  have finds : (((tokens ++ closing :: rest).map Token.kind)).find? (· != .newline) =
      ((tokens ++ [closing]).map Token.kind).find? (· != .newline) := by
    simp [List.find?_append, other]
  cases ending with
  | closed => rfl
  | value | bareCast => simp only [Ending.clings, heads]
  | branch => simp only [Ending.clings, finds]

/-- After line feeds, a block ends or goes on with a statement. -/
theorem blockBody_lines (inner : Parser Node) (fuel : Nat) (feeds : LineFeeds lines)
    (notFeed : token.kind ≠ .newline) (notEnd : token.kind ≠ .endOfFile) (rest : List Token) :
    blockBody inner (fuel + 1) (lines ++ token :: rest) =
      (if token.kind = .rightBrace then pure []
        else do
          let first ← inner
          skipNewlines
          return first :: (← blockBody inner fuel) : Parser (List Node)) (token :: rest) := by
  have skipped := skipNewlines_append feeds notFeed rest
  by_cases isClosing : token.kind = .rightBrace
  · cases lines with
    | nil =>
      rw [blockBody, nil_append, bind_of_ok (check_cons rfl token rest),
        bind_of_ok (atEnd_cons token rest), decide_eq_true isClosing, if_pos isClosing]
      rfl
    | cons line lines =>
      rw [cons_append] at skipped ⊢
      rw [blockBody, bind_of_ok (check_cons rfl line _), bind_of_ok (atEnd_cons line _),
        feeds line mem_cons_self, if_neg (by decide), bind_of_ok skipped,
        check_then isClosing rfl, if_pos isClosing]
  · obtain ⟨head, tail, equal, goesOn⟩ : ∃ head tail, lines ++ token :: rest = head :: tail ∧
        (decide (head.kind = .rightBrace) || head.kind == .endOfFile) = false := by
      cases lines with
      | nil => exact ⟨token, rest, rfl, by simp [isClosing, notEnd]⟩
      | cons line lines => exact ⟨line, _, rfl, by rw [feeds line mem_cons_self]; rfl⟩
    rw [equal] at skipped ⊢
    rw [blockBody, bind_of_ok (check_cons rfl head tail), bind_of_ok (atEnd_cons head tail),
      goesOn, if_neg (by decide), bind_of_ok skipped, check_else isClosing rfl, if_neg isClosing]

/-- The statements of a block are read up to the closing brace. -/
theorem blockBody_of_succession (isClosing : closing.kind = .rightBrace)
    (succeeding : Succession closing items tokens) (stated : ∀ item ∈ items, States item.1 item.2)
    (reads : ∀ item ∈ items, ReadsStatement inner item.1 item.2) (enough : items.length < fuel)
    (rest : List Token) :
    blockBody inner fuel (tokens ++ closing :: rest) =
      .ok (items.map Prod.snd, closing :: rest) := by
  have notFeed : closing.kind ≠ .newline := isClosing ▸ by decide
  have notEnd : closing.kind ≠ .endOfFile := isClosing ▸ by decide
  induction succeeding generalizing fuel with
  | done feeds =>
    obtain ⟨less, rfl⟩ : ∃ less, fuel = less + 1 := ⟨fuel - 1, by omega⟩
    rw [blockBody_lines inner less feeds notFeed notEnd, if_pos isClosing]
    rfl
  | @next lines tokens others node items feeds apart succeeding ih =>
    rw [length_cons] at enough
    obtain ⟨less, rfl⟩ : ∃ less, fuel = less + 1 + 1 := ⟨fuel - 2, by omega⟩
    obtain ⟨statedFirst, statedOthers⟩ := forall_mem_cons.mp stated
    have readOthers := ih statedOthers (forall_mem_cons.mp reads).2 (Nat.lt_of_succ_lt_succ enough)
    have stops := succeeding.stops notFeed statedOthers rest
    have readFirst := reads _ mem_cons_self stops (by rw [clings_append notFeed]; exact apart)
    have skipped := skipNewlines_after node.ending stops
    obtain ⟨between, next, more, equal, betweenFeeds, kind⟩ := succeeding.first statedOthers rest
    obtain ⟨nextNotFeed, nextNotEnd⟩ : next.kind ≠ .newline ∧ next.kind ≠ .endOfFile := by
      rcases kind with rfl | begins
      · exact ⟨notFeed, notEnd⟩
      · exact ⟨begins_ne begins rfl, begins_ne begins rfl⟩
    -- The line feeds after a statement are skipped there, and not again by the next round.
    have direct : blockBody inner (less + 1) (next :: more) = _ :=
      blockBody_lines inner less LineFeeds.nil nextNotFeed nextNotEnd more
    rw [equal, blockBody_lines inner less betweenFeeds nextNotFeed nextNotEnd, ← direct]
      at readOthers
    rw [equal, dropWhile_lines betweenFeeds, dropWhile_cons nextNotFeed] at skipped
    obtain ⟨token, tail, rfl, begins⟩ : ∃ token tail,
        tokens = token :: tail ∧ token.kind.begins = true := statedFirst.starts
    simp only [cons_append, append_assoc] at readFirst ⊢
    rw [blockBody_lines inner _ feeds (begins_ne begins rfl) (begins_ne begins rfl),
      if_neg (begins_ne begins rfl), bind_of_ok readFirst, equal, bind_of_ok skipped,
      bind_of_ok readOthers]
    rfl

theorem Braced.item_length (braced : Braced items body) :
    ∀ item ∈ items, item.1.length < body.length := by
  intro item mem
  cases braced with
  | intro feeds isOpening succeeding isClosing =>
    have bound := succeeding.item_length_le item mem
    simp only [length_append, length_cons]
    omega

theorem Braced.read (braced : Braced items body) (stated : ∀ item ∈ items, States item.1 item.2)
    (reads : ∀ item ∈ items, ∀ {budget : Nat}, item.1.length < budget →
      ReadsStatement (statement budget) item.1 item.2)
    (enough : body.length ≤ budget) :
    ReadsBlock (statement budget) (budget + 1) body items := by
  intro rest
  have short (item : Item) (mem : item ∈ items) : item.1.length < budget :=
    Nat.lt_of_lt_of_le (braced.item_length item mem) enough
  cases braced with
  | @intro lines tokens opening closing feeds isOpening succeeding isClosing =>
    have notFeed : opening.kind ≠ .newline := isOpening ▸ by decide
    have bound := succeeding.length_le stated
    simp only [length_append, length_cons, length_nil] at enough
    have readBody := blockBody_of_succession isClosing succeeding stated
      (fun item mem => reads item mem (short item mem))
      (show items.length < budget + 1 by omega) rest
    simp only [append_assoc, cons_append, nil_append]
    rw [block, bind_of_ok (skipNewlines_append feeds notFeed _), discard_then isOpening rfl,
      bind_of_ok readBody, discard_then isClosing rfl]
    rfl

theorem Braced.after {test : List Token} (braced : Braced items body)
    (tested : Expresses .disjunction test node) (enough : test.length < budget)
    (rest : List Token) :
    expression budget (test ++ (body ++ rest)) = .ok (node, body ++ rest) := by
  obtain ⟨next, more, rfl, loose⟩ := braced.starts
  exact tested.parses enough loose (more ++ rest)

/-! ## Branches -/

/-- What is left after the branches of a conditional. -/
def afterBranches (last : Option LastResort) (rest : List Token) : List Token :=
  match last with
  | none => Ending.branch.after rest
  | some _ => rest

theorem clings_branch (feeds : LineFeeds lines) (notFeed : token.kind ≠ .newline)
    (rest : List Token) :
    Ending.branch.clings ((lines ++ token :: rest).map Token.kind) =
      (token.kind == .otherwise || token.kind == .fate) := by
  have none : (lines.map Token.kind).find? (· != .newline) = none := by
    simpa [LineFeeds] using feeds
  simp [Ending.clings, List.find?_append, none, notFeed]

theorem branches_of_none {value : Parser Node} (stops : Stops rest)
    (apart : Ending.branch.clings (rest.map Token.kind) = false) :
    branches value inner outer (fuel + 1) rest = .ok (([], none), Ending.branch.after rest) := by
  have skipped := skipNewlines_of_stops stops
  obtain ⟨lines, token, more, rfl, feeds, notFeed⟩ := stops
  rw [dropWhile_lines feeds, dropWhile_cons notFeed] at skipped
  have left : Ending.branch.after (lines ++ token :: more) = token :: more := by
    rw [Ending.after, dropWhile_lines feeds, dropWhile_cons notFeed]
  rw [clings_branch feeds notFeed, Bool.or_eq_false_iff, beq_eq_false_iff_ne,
    beq_eq_false_iff_ne] at apart
  rw [left, branches, bind_of_ok skipped, accept_else apart.1 rfl, accept_else apart.2 rfl]
  rfl

theorem branches_of_lastResort {value : Parser Node} (resort : LastResort)
    (readsBody : ReadsBlock inner outer resort.body resort.items) (rest : List Token) :
    branches value inner outer (fuel + 1) (resort.tokens ++ rest) =
      .ok (([], some resort.branch), rest) := by
  have notFeed : resort.fate.kind ≠ .newline := resort.isFate ▸ by decide
  have notOtherwise : resort.fate.kind ≠ .otherwise := resort.isFate ▸ by decide
  simp only [LastResort.tokens, append_assoc, cons_append]
  rw [branches, bind_of_ok (skipNewlines_append resort.feeds notFeed _),
    accept_else notOtherwise rfl, accept_then resort.isFate rfl,
    discard_then resort.isDecrees rfl, bind_of_ok (readsBody rest)]
  rfl

/-- An alternative is read, whatever follows it. -/
theorem branches_alternative (alt : Alternative)
    (tested : Expresses .disjunction alt.condition.1 alt.condition.2)
    (readsBody : ReadsBlock inner budget alt.body alt.items)
    (enough : alt.tokens.length ≤ budget) (rest : List Token) :
    branches (expression budget) inner budget (fuel + 1) (alt.tokens ++ rest) =
      (branches (expression budget) inner budget fuel >>= fun found =>
        pure (alt.branch :: found.1, found.2)) rest := by
  have notFeed : alt.otherwise.kind ≠ .newline := alt.isOtherwise ▸ by decide
  simp only [Alternative.tokens, length_append, length_cons] at enough
  have readTest := alt.braced.after tested (show alt.condition.1.length < budget by omega) rest
  simp only [Alternative.tokens, append_assoc, cons_append]
  rw [branches, bind_of_ok (skipNewlines_append alt.feeds notFeed _),
    accept_then alt.isOtherwise rfl, discard_then alt.isProphecy rfl,
    bind_of_ok readTest, bind_of_ok (readsBody rest)]
  rfl

theorem branches_of_further {last : Option LastResort}
    (tested : ∀ alt ∈ alts, Expresses .disjunction alt.condition.1 alt.condition.2)
    (reads : ∀ alt ∈ alts, ReadsBlock inner budget alt.body alt.items)
    (readsLast : ∀ resort ∈ last, ReadsBlock inner budget resort.body resort.items)
    (within : (furtherTokens alts last).length ≤ budget) (stops : Stops rest)
    (apart : last = none → Ending.branch.clings (rest.map Token.kind) = false)
    (enough : alts.length < fuel) :
    branches (expression budget) inner budget fuel (furtherTokens alts last ++ rest) =
      .ok ((alts.map Alternative.branch, last.map LastResort.branch), afterBranches last rest) := by
  obtain ⟨less, rfl⟩ : ∃ less, fuel = less + 1 := ⟨fuel - 1, by omega⟩
  induction alts generalizing less with
  | nil =>
    cases last with
    | none => exact branches_of_none stops (apart rfl)
    | some resort =>
      exact branches_of_lastResort resort (readsLast resort rfl) rest
  | cons alt others ih =>
    have split : furtherTokens (alt :: others) last =
        alt.tokens ++ furtherTokens others last := by
      simp only [furtherTokens, flatMap_cons, append_assoc]
    rw [split, length_append] at within
    rw [length_cons] at enough
    obtain ⟨fewer, rfl⟩ : ∃ fewer, less = fewer + 1 := ⟨less - 1, by omega⟩
    have readOthers := ih (forall_mem_cons.mp tested).2 (forall_mem_cons.mp reads).2
      (by omega) fewer (by omega)
    rw [split, append_assoc, branches_alternative alt (tested _ mem_cons_self)
      (reads _ mem_cons_self) (by omega), bind_of_ok readOthers]
    rfl

/-! ## The rules one by one -/

theorem statement_lines (budget : Nat) (feeds : LineFeeds lines) (notFeed : token.kind ≠ .newline)
    (rest : List Token) :
    statement budget (lines ++ token :: rest) = statement budget (token :: rest) := by
  cases budget with
  | zero => rfl
  | succ budget =>
    simp only [statement, statementWith]
    rw [bind_of_ok (skipNewlines_append feeds notFeed rest),
      bind_of_ok (skipNewlines_cons notFeed rest)]

section Rules

variable {word : Token} {params test : List Token} {cond : Node} {budget : Nat}

/-! The first word decides which parser reads the rest of a statement. -/

/-- The parser that reads on after a first word of the kind, if the word decides it. -/
def decided? (budget : Nat) : TokenKind → Option (Place → Parser Node)
  | .conjure | .summon => some (declaration (expression (budget + 1)))
  | .const => some (constantDeclaration (expression (budget + 1)))
  | .transmute => some (assignment (expression (budget + 1)) (budget + 1))
  | .vanquish => some deletion
  | .spell => some fun place => spellDeclaration (statement budget) (budget + 1) place false
  | .incantation => some fun place => spellDeclaration (statement budget) (budget + 1) place true
  | .cast => some (castStatement (expression (budget + 1)))
  | .prophecy => some (conditional (expression (budget + 1)) (statement budget) (budget + 1))
  | .patrol => some (patrol (expression (budget + 1)) (statement budget) (budget + 1))
  | .hunt => some (hunt (expression (budget + 1)) (statement budget) (budget + 1))
  | .breakWord => some fun place => return .breakLoop place
  | .continueWord => some fun place => return .continueLoop place
  | _ => none

theorem statement_of_kind {further : Place → Parser Node} (isWord : word.kind = kind)
    (decides : decided? budget kind = some further) (rest : List Token) :
    statement (budget + 1) (word :: rest) = further word.place rest := by
  have notFeed : word.kind ≠ .newline := by
    intro isFeed
    obtain rfl := isFeed.symm.trans isWord
    cases decides
  simp only [statement, statementWith]
  rw [bind_of_ok (skipNewlines_cons notFeed rest), peek_then]
  simp only [isWord]
  cases kind
  all_goals cases decides
  all_goals exact drop_then

theorem statement_of_verb {verb : Token} (isVerb : verb.kind = .conjure ∨ verb.kind = .summon)
    (rest : List Token) :
    statement (budget + 1) (verb :: rest) =
      declaration (expression (budget + 1)) verb.place rest := by
  rcases isVerb with isVerb | isVerb
  · exact statement_of_kind isVerb rfl rest
  · exact statement_of_kind isVerb rfl rest

theorem statement_of_spell {aloud : Bool}
    (isWord : word.kind = if aloud then .incantation else .spell) (rest : List Token) :
    statement (budget + 1) (word :: rest) =
      spellDeclaration (statement budget) (budget + 1) word.place aloud rest := by
  cases aloud with
  | false => exact statement_of_kind isWord rfl rest
  | true => exact statement_of_kind isWord rfl rest

/-- Without such a word a statement is an expression. -/
theorem statement_of_expression (notFeed : token.kind ≠ .newline) (plain : token.kind.leads = false)
    (rest : List Token) :
    statement (budget + 1) (token :: rest) =
      (do
        let node ← expression (budget + 1)
        return .expression node.place node : Parser Node) (token :: rest) := by
  simp only [statement, statementWith]
  rw [bind_of_ok (skipNewlines_cons notFeed rest), peek_then]
  cases kind : token.kind <;> rw [kind] at plain <;> first | rfl | cases plain

theorem castStatement_of_none (value : Parser Node) (stops : Stops rest)
    (apart : Ending.bareCast.clings (rest.map Token.kind) = false) (place : Place) :
    castStatement value place rest = .ok (.cast place none, rest) := by
  obtain ⟨next, more, rfl⟩ : ∃ next more, rest = next :: more := by
    obtain ⟨lines, token, more, rfl, -, -⟩ := stops
    cases lines with
    | nil => exact ⟨token, more, rfl⟩
    | cons line lines => exact ⟨line, _, rfl⟩
  have ends : (decide (next.kind = .newline) || decide (next.kind = .rightBrace)) = true := by
    by_cases isFeed : next.kind = .newline
    · simp [isFeed]
    · simpa [Ending.clings, isFeed] using apart
  rw [castStatement, bind_of_ok (check_cons rfl next more),
    bind_of_ok (check_cons rfl next more), ends]
  rfl

theorem enclosed_of_parameters {inner : List Token}
    (named : ∀ param ∈ params, param.kind = .identifier)
    (listed : Listing false (params.map ([·])) inner) (enough : inner.length < budget)
    (msg : String) (isClosing : closing.kind = .rightParen) (rest : List Token) :
    enclosed (consume .identifier "Expected parameter name") .rightParen false budget msg
        (inner ++ closing :: rest) =
      .ok (params, rest) := by
  have reads : ∀ param ∈ params,
      ReadsItem (consume .identifier "Expected parameter name") .rightParen
        ([param], param) :=
    fun param inside token rest _ => consume_of_eq rfl (named param inside) _ _
  have apart : ∀ param ∈ params, StartsApart .rightParen [param] :=
    fun param inside => ⟨param, [], rfl, by rw [named param inside]; decide⟩
  rw [enclosed_of_listing rfl (by decide) listed reads apart enough msg isClosing rest, map_id']

/-- A conditional is read up to its further branches, whatever these are. -/
theorem conditional_before_branches {reveals : Token} (isReveals : reveals.kind = .reveals)
    (readTest : expression budget (test ++ (body ++ rest)) = .ok (cond, body ++ rest))
    (readsBody : ReadsBlock inner budget body items) (place : Place) :
    conditional (expression budget) inner budget place (reveals :: (test ++ (body ++ rest))) =
      (branches (expression budget) inner budget budget >>= fun found =>
        pure (.conditional place cond (items.map Prod.snd) found.1 found.2)) rest := by
  rw [conditional, discard_then isReveals rfl, bind_of_ok readTest, bind_of_ok (readsBody rest)]

end Rules

/-! ## All derivations -/

theorem length_le_further (last : Option LastResort) {alt : Alternative} (mem : alt ∈ alts) :
    alt.tokens.length ≤ (furtherTokens alts last).length := by
  obtain ⟨before, after, rfl⟩ := append_of_mem mem
  simp only [furtherTokens, flatMap_append, flatMap_cons, length_append]
  omega

theorem alternatives_length_le (alts : List Alternative) (last : Option LastResort) :
    alts.length ≤ (furtherTokens alts last).length := by
  induction alts with
  | nil => exact Nat.zero_le _
  | cons alt others ih =>
    simp only [furtherTokens, Alternative.tokens, flatMap_cons, length_append, length_cons] at ih ⊢
    omega

/-- Every statement is read, before anything that does not go on with it. -/
theorem States.read (stated : States tokens node) (enough : tokens.length < budget) :
    ReadsStatement (statement budget) tokens node := by
  induction stated generalizing budget with
    (intro rest stops apart
     obtain ⟨budget, rfl⟩ : ∃ less, budget = less + 1 := ⟨budget - 1, by omega⟩
     try simp only [length_cons, length_append, cons_append, append_assoc, nil_append] at enough ⊢)
  | declaration isVerb isName isAs untyped valued =>
    have read := valued.read (show _ < budget + 1 by omega) stops apart
    obtain ⟨first, others, rfl, -⟩ := valued.starts
    rw [cons_append] at read ⊢
    rw [statement_of_verb isVerb, Parser.declaration, consume_then isName rfl,
      discard_then isAs rfl, peek_then, untyped first rfl]
    simp only [Bool.false_eq_true, if_false]
    rw [bind_of_ok read]
    rfl
  | typedDeclaration isVerb isName isAs isType valued =>
    rw [statement_of_verb isVerb, Parser.declaration, consume_then isName rfl,
      discard_then isAs rfl, peek_then, isType]
    simp only [if_true]
    rw [drop_then, bind_of_ok (valued.read (by omega) stops apart)]
    rfl
  | constant isConst isProphecy isName isAs valued =>
    rw [statement_of_kind isConst rfl, constantDeclaration, discard_then isProphecy rfl,
      consume_then isName rfl, discard_then isAs rfl,
      bind_of_ok (valued.read (by omega) stops apart)]
    rfl
  | assignment isVerb targeted isAs valued assigns =>
    rw [statement_of_kind isVerb rfl, Parser.assignment,
      bind_of_ok (targeted.primary_parses (by omega) (by omega) _ _), discard_then isAs rfl]
    unfold assigned? at assigns
    split at assigns <;> cases assigns
    all_goals rw [bind_of_ok (valued.read (by omega) stops apart)]; rfl
  | deletion isVerb isName =>
    rw [statement_of_kind isVerb rfl, Parser.deletion, consume_then isName rfl]
    rfl
  | spell isWord isName isOpening named listed isClosing stated braced ih =>
    rw [statement_of_spell isWord, spellDeclaration, consume_then isName rfl,
      discard_then isOpening rfl,
      bind_of_ok (enclosed_of_parameters named listed (by omega) _ isClosing _),
      bind_of_ok (braced.read stated ih (by omega) rest)]
    rfl
  | bareCast isCast =>
    rw [statement_of_kind isCast rfl]
    exact castStatement_of_none _ stops apart _
  | cast isCast valued =>
    have read := valued.read (show _ < budget + 1 by omega) stops apart
    obtain ⟨first, others, rfl, starts⟩ := valued.starts
    rw [cons_append] at read ⊢
    have notFeed : first.kind ≠ .newline := TokenKind.ne_of_opening starts (by decide)
    have notClosing : first.kind ≠ .rightBrace := TokenKind.ne_of_opening starts (by decide)
    rw [statement_of_kind isCast rfl, castStatement, bind_of_ok (check_cons rfl first _),
      bind_of_ok (check_cons rfl first _), decide_eq_false notFeed, decide_eq_false notClosing]
    simp only [Bool.or_self, Bool.false_eq_true, if_false]
    rw [bind_of_ok read]
    rfl
  | @conditional prophecy reveals test body cond items alts last isProphecy isReveals
      tested stated braced testedAlso statedAlso statedLast ih ihAlso ihLast =>
    have readsAlso : ∀ alt ∈ alts,
        ReadsBlock (statement budget) (budget + 1) alt.body alt.items := by
      intro alt inside
      have within := length_le_further last inside
      simp only [Alternative.tokens, length_append, length_cons] at within
      exact alt.braced.read (statedAlso alt inside) (ihAlso alt inside) (by omega)
    have readsLast : ∀ resort ∈ last,
        ReadsBlock (statement budget) (budget + 1) resort.body resort.items := by
      intro resort inside
      obtain rfl : last = some resort := inside
      simp only [furtherTokens, LastResort.tokens, Option.map_some, Option.getD_some,
        length_append, length_cons] at enough
      exact resort.braced.read (statedLast resort rfl) (ihLast resort rfl) (by omega)
    have bound := alternatives_length_le alts last
    have readFurther := branches_of_further testedAlso readsAlso readsLast
      (show (furtherTokens alts last).length ≤ budget + 1 by omega) stops
      (by rintro rfl; exact apart) (show alts.length < budget + 1 by omega)
    rw [statement_of_kind isProphecy rfl, conditional_before_branches isReveals
      (braced.after tested (by omega) _) (braced.read stated ih (by omega)),
      bind_of_ok readFurther]
    cases last <;> rfl
  | patrol isPatrol isUntil tested stated braced ih =>
    rw [statement_of_kind isPatrol rfl, Parser.patrol, discard_then isUntil rfl,
      bind_of_ok (braced.after tested (by omega) rest),
      bind_of_ok (braced.read stated ih (by omega) rest)]
    rfl
  | hunt isHunt isEach isName isIn drawn stated braced ih =>
    rw [statement_of_kind isHunt rfl, Parser.hunt, discard_then isEach rfl, consume_then isName rfl,
      discard_then isIn rfl, bind_of_ok (braced.after drawn (by omega) rest),
      bind_of_ok (braced.read stated ih (by omega) rest)]
    rfl
  | breakLoop isBreak => exact statement_of_kind isBreak rfl rest
  | continueLoop isContinue => exact statement_of_kind isContinue rfl rest
  | expression valued =>
    have read := valued.read enough stops apart
    obtain ⟨first, others, rfl, starts⟩ := valued.starts
    rw [cons_append] at read ⊢
    rw [statement_of_expression (TokenKind.ne_of_opening starts (by decide))
      (TokenKind.leads_of_opening starts), bind_of_ok read]
    rfl

/-! ## Whole scripts -/

/-- After line feeds, a script ends or goes on with a statement. -/
theorem statements_succ (outer fuel : Nat) (feeds : LineFeeds lines)
    (notFeed : token.kind ≠ .newline) (rest : List Token) :
    statements outer (fuel + 1) (lines ++ token :: rest) =
      (if token.kind = .endOfFile then pure []
        else do
          let first ← statement outer
          return first :: (← statements outer fuel) : Parser (List Node)) (token :: rest) := by
  have skipped := skipNewlines_append feeds notFeed rest
  by_cases isEnd : token.kind = .endOfFile
  · cases lines with
    | nil =>
      rw [statements, nil_append, bind_of_ok (atEnd_cons token rest), isEnd]
      rfl
    | cons line lines =>
      rw [cons_append] at skipped ⊢
      rw [statements, bind_of_ok (atEnd_cons line _), feeds line mem_cons_self,
        if_neg (by decide), bind_of_ok skipped, bind_of_ok (atEnd_cons token rest), isEnd]
      rfl
  · have goesOn : ¬(token.kind == .endOfFile) = true := by simpa using isEnd
    obtain ⟨head, tail, equal, notEnd⟩ : ∃ head tail, lines ++ token :: rest = head :: tail ∧
        ¬(head.kind == .endOfFile) = true := by
      cases lines with
      | nil => exact ⟨token, rest, rfl, goesOn⟩
      | cons line lines => exact ⟨line, _, rfl, by rw [feeds line mem_cons_self]; decide⟩
    rw [equal] at skipped ⊢
    rw [statements, bind_of_ok (atEnd_cons head tail), if_neg notEnd, bind_of_ok skipped,
      bind_of_ok (atEnd_cons token rest), if_neg goesOn, if_neg isEnd]

/-- A script goes on with the statement that its first token begins. -/
theorem statements_of_begins (outer fuel : Nat) (notFeed : token.kind ≠ .newline)
    (notEnd : token.kind ≠ .endOfFile) (rest : List Token) :
    statements outer (fuel + 1) (token :: rest) =
      (do
        let first ← statement outer
        return first :: (← statements outer fuel) : Parser (List Node)) (token :: rest) := by
  have direct := statements_succ outer fuel LineFeeds.nil notFeed rest
  rwa [if_neg notEnd] at direct

theorem statements_lines (outer fuel : Nat) (feeds : LineFeeds lines)
    (notFeed : token.kind ≠ .newline) (rest : List Token) :
    statements outer fuel (lines ++ token :: rest) = statements outer fuel (token :: rest) := by
  cases fuel with
  | zero => rfl
  | succ fuel =>
    have direct := statements_succ outer fuel LineFeeds.nil notFeed rest
    exact (statements_succ outer fuel feeds notFeed rest).trans direct.symm

/-- Whatever the ending, a script goes on at the same point after a statement. -/
theorem statements_after (ending : Ending) (stops : Stops rest) (outer fuel : Nat) :
    statements outer fuel (ending.after rest) = statements outer fuel rest := by
  obtain ⟨between, next, more, rfl, betweenFeeds, nextNotFeed⟩ := stops
  cases ending with
  | closed | value | bareCast => rfl
  | branch =>
    rw [statements_lines outer fuel betweenFeeds nextNotFeed, Ending.after,
      dropWhile_lines betweenFeeds, dropWhile_cons nextNotFeed]

theorem statements_of_succession (isEnd : finish.kind = .endOfFile)
    (succeeding : Succession finish items tokens) (stated : ∀ item ∈ items, States item.1 item.2)
    (withinOuter : tokens.length < outer) (enough : items.length < fuel) (rest : List Token) :
    statements outer fuel (tokens ++ finish :: rest) =
      .ok (items.map Prod.snd, finish :: rest) := by
  have notFeed : finish.kind ≠ .newline := isEnd ▸ by decide
  induction succeeding generalizing fuel with
  | @done lines feeds =>
    obtain ⟨less, rfl⟩ : ∃ less, fuel = less + 1 := ⟨fuel - 1, by omega⟩
    rw [statements_succ outer less feeds notFeed, if_pos isEnd]
    rfl
  | @next lines tokens others node items feeds apart succeeding ih =>
    obtain ⟨less, rfl⟩ : ∃ less, fuel = less + 1 := ⟨fuel - 1, by omega⟩
    simp only [length_append] at withinOuter
    have statedOthers : ∀ item ∈ items, States item.1 item.2 :=
      (forall_mem_cons.mp stated).2
    have readOthers := ih statedOthers (by omega) (Nat.lt_of_succ_lt_succ enough)
    have statedFirst : States tokens node := stated _ mem_cons_self
    have stops := succeeding.stops notFeed statedOthers rest
    have readFirst := statedFirst.read (show tokens.length < outer by omega) stops
      (by rw [clings_append notFeed]; exact apart)
    have sameOthers := statements_after node.ending stops outer less
    obtain ⟨token, tail, rfl, begins⟩ := statedFirst.starts
    simp only [cons_append, append_assoc] at readFirst ⊢
    rw [statements_lines outer _ feeds (begins_ne begins rfl),
      statements_of_begins outer less (begins_ne begins rfl) (begins_ne begins rfl),
      bind_of_ok readFirst, bind_of_ok (sameOthers.trans readOthers)]
    rfl

/-- A script is read as the statements of which it is a succession. -/
theorem Succession.parses (isEnd : finish.kind = .endOfFile)
    (succeeding : Succession finish items tokens) (stated : ∀ item ∈ items, States item.1 item.2)
    (rest : List Token) :
    parse (tokens ++ finish :: rest) = .ok (.program (.known 0 0) (items.map Prod.snd)) := by
  have bound := succeeding.length_le stated
  have read := statements_of_succession isEnd succeeding stated
    (show tokens.length < (tokens ++ finish :: rest).length + 1 by
      rw [length_append]
      omega)
    (show items.length < (tokens ++ finish :: rest).length + 1 by
      rw [length_append]
      omega)
    rest
  simp only [parse, StateT.run, read]
  rfl

end Grammar

end Spellbook
