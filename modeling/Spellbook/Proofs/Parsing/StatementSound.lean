import Spellbook.Proofs.Parsing.ExpressionSound
import Spellbook.Proofs.Parsing.StatementComplete

/-!
# What the parser of statements reads is in the grammar

If the parser gives a statement, the tokens it has taken spell that statement out, and what follows
does not go on with it: `Parser.statement_takes`.  A script that is read is a succession of
statements up to its first end of file: `Parser.parse_eq_ok`.
-/

namespace Spellbook.Parser

open List Grammar

variable {verb word : Token} {budget fuel outer : Nat} {input output rest tokens : List Token}
  {node : Node} {nodes : List Node} {others : List (Node × List Node)} {last : Option (List Node)}

/--
The input begins, after line feeds, with the tokens of the statement; what follows does not go on
with it, and the output is what it leaves.
-/
def Takes (input output : List Token) (node : Node) : Prop :=
  ∃ lines tokens rest,
    input = lines ++ (tokens ++ rest) ∧ LineFeeds lines ∧ States tokens node ∧
      node.ending.clings (rest.map Token.kind) = false ∧ output = node.ending.after rest

/-- Whatever the parser gives is a statement that stands at the front of the input. -/
def TakesStatements (parser : Parser Node) : Prop :=
  ∀ ⦃input output : List Token⦄ ⦃node : Node⦄,
    parser input = .ok (node, output) → Takes input output node

theorem apart_of_loose {next : Token} (loose : next.kind.binding = 0) (rest : List Token) :
    Ending.value.clings ((next :: rest).map Token.kind) = false := by
  simp [Ending.clings, loose]

/-! ## Statements without blocks -/

theorem declaration_takes (isVerb : verb.kind = .conjure ∨ verb.kind = .summon)
    (read : declaration (expression budget) verb.place input = .ok (node, output)) :
    Takes (verb :: input) output node := by
  obtain ⟨name, _, rfl, isName, afterName⟩ := of_consume read rfl
  obtain ⟨preposition, _, rfl, isAs, afterAs⟩ := of_discard afterName rfl
  obtain ⟨first, others, rfl, further⟩ := of_peek afterAs
  by_cases isType : isTypeWord first.kind = true
  · rw [if_pos isType, drop_then] at further
    obtain ⟨value, readValue, rfl⟩ := bind_pure_eq_ok.mp further
    obtain ⟨tokens, next, rest, rfl, rfl, valued, loose⟩ := expression_sound readValue
    exact ⟨[], verb :: name :: preposition :: first :: tokens, next :: rest, rfl, LineFeeds.nil,
      .typedDeclaration isVerb isName isAs isType valued, apart_of_loose loose rest, rfl⟩
  · have untyped : isTypeWord first.kind = false := Bool.eq_false_iff.mpr isType
    rw [if_neg isType] at further
    obtain ⟨value, readValue, rfl⟩ := bind_pure_eq_ok.mp further
    obtain ⟨tokens, next, rest, equal, rfl, valued, loose⟩ := expression_sound readValue
    refine ⟨[], verb :: name :: preposition :: tokens, next :: rest, ?_, LineFeeds.nil,
      .declaration isVerb isName isAs ?_ valued, apart_of_loose loose rest, rfl⟩
    · rw [equal]
      rfl
    · intro token mem
      obtain ⟨head, tail, rfl, -⟩ := valued.starts
      obtain ⟨rfl, -⟩ := List.cons.inj equal
      obtain rfl := Option.mem_some.mp mem
      exact untyped

theorem constantDeclaration_takes (isWord : word.kind = .const)
    (read : constantDeclaration (expression budget) word.place input = .ok (node, output)) :
    Takes (word :: input) output node := by
  obtain ⟨prophecy, _, rfl, isProphecy, afterProphecy⟩ := of_discard read rfl
  obtain ⟨name, _, rfl, isName, afterName⟩ := of_consume afterProphecy rfl
  obtain ⟨preposition, _, rfl, isAs, afterAs⟩ := of_discard afterName rfl
  obtain ⟨value, readValue, rfl⟩ := bind_pure_eq_ok.mp afterAs
  obtain ⟨tokens, next, rest, rfl, rfl, valued, loose⟩ := expression_sound readValue
  exact ⟨[], word :: prophecy :: name :: preposition :: tokens, next :: rest, rfl, LineFeeds.nil,
    .constant isWord isProphecy isName isAs valued, apart_of_loose loose rest, rfl⟩

theorem assignment_takes (isVerb : verb.kind = .transmute)
    (read : assignment (expression budget) budget verb.place input = .ok (node, output)) :
    Takes (verb :: input) output node := by
  obtain ⟨target, _, readTarget, afterTarget⟩ := bind_eq_ok.mp read
  obtain ⟨targetTokens, rfl, targeted⟩ :=
    primary_readsOnly (expression_readsLevel budget).readsOnly budget readTarget
  obtain ⟨preposition, _, rfl, isAs, afterAs⟩ := of_discard afterTarget rfl
  obtain ⟨value, _, readValue, further⟩ := bind_eq_ok.mp afterAs
  obtain ⟨tokens, next, rest, rfl, rfl, valued, loose⟩ := expression_sound readValue
  have assigns : assigned? verb.place value target = some node ∧ next :: rest = output ∧
      node.ending = .value := by
    split at further
    · obtain ⟨rfl, rfl⟩ := pure_eq_ok.mp further
      exact ⟨rfl, rfl, rfl⟩
    · obtain ⟨rfl, rfl⟩ := pure_eq_ok.mp further
      exact ⟨rfl, rfl, rfl⟩
    · exact (fail_ne_ok further).elim
  obtain ⟨assigns, rfl, ending⟩ := assigns
  refine ⟨[], verb :: (targetTokens ++ preposition :: tokens), next :: rest, ?_, LineFeeds.nil,
    .assignment isVerb targeted isAs valued assigns, ?_, ?_⟩
  · simp only [nil_append, append_assoc, cons_append]
  · rw [ending]
    exact apart_of_loose loose rest
  · rw [ending]
    rfl

theorem castStatement_takes (isWord : word.kind = .cast)
    (read : castStatement (expression budget) word.place input = .ok (node, output)) :
    Takes (word :: input) output node := by
  cases input with
  | nil => cases read
  | cons first others =>
    rw [castStatement, bind_of_ok (check_cons rfl first others),
      bind_of_ok (check_cons rfl first others)] at read
    by_cases ends : (decide (first.kind = .newline) || decide (first.kind = .rightBrace)) = true
    · rw [if_pos ends] at read
      obtain ⟨rfl, rfl⟩ := pure_eq_ok.mp read
      refine ⟨[], [word], first :: others, rfl, LineFeeds.nil, .bareCast isWord, ?_, rfl⟩
      rcases Bool.or_eq_true_iff.mp ends with isFeed | isClosing
      · simp [Node.ending, Ending.clings, of_decide_eq_true isFeed]
      · simp [Node.ending, Ending.clings, of_decide_eq_true isClosing]
    · rw [if_neg ends] at read
      obtain ⟨value, readValue, rfl⟩ := bind_pure_eq_ok.mp read
      obtain ⟨tokens, next, rest, equal, rfl, valued, loose⟩ := expression_sound readValue
      refine ⟨[], word :: tokens, next :: rest, ?_, LineFeeds.nil, .cast isWord valued,
        apart_of_loose loose rest, rfl⟩
      rw [equal]
      rfl

/-! ## Blocks -/

def StartsSuccession (input output : List Token) (nodes : List Node) : Prop :=
  ∃ items tokens closing rest,
    input = tokens ++ closing :: rest ∧ output = closing :: rest ∧
      closing.kind ≠ .newline ∧ Succession closing items tokens ∧
        (∀ item ∈ items, States item.1 item.2) ∧ nodes = items.map Prod.snd

theorem StartsSuccession.done {lines : List Token} {closing : Token} (feeds : LineFeeds lines)
    (notFeed : closing.kind ≠ .newline) :
    StartsSuccession (lines ++ closing :: rest) (closing :: rest) [] := by
  refine ⟨[], lines, closing, rest, rfl, rfl, notFeed, Succession.done feeds, ?_, rfl⟩
  intro item mem
  cases mem

theorem StartsSuccession.lines {lines : List Token} (feeds : LineFeeds lines)
    (starts : StartsSuccession input output nodes) :
    StartsSuccession (lines ++ input) output nodes := by
  obtain ⟨items, tokens, closing, rest, rfl, rfl, notFeed, later, stated, rfl⟩ := starts
  exact ⟨items, lines ++ tokens, closing, rest, by rw [append_assoc], rfl, notFeed,
    later.lines feeds, stated, rfl⟩

theorem StartsSuccession.next (stated : States tokens node)
    (apart : node.ending.clings (rest.map Token.kind) = false)
    (starts : StartsSuccession rest output nodes) :
    StartsSuccession (tokens ++ rest) output (node :: nodes) := by
  obtain ⟨items, others, closing, rest, rfl, rfl, notFeed, later, statedOthers, rfl⟩ := starts
  rw [clings_append notFeed] at apart
  refine ⟨(tokens, node) :: items, tokens ++ others, closing, rest, by rw [append_assoc], rfl,
    notFeed, Succession.next LineFeeds.nil apart later, ?_, rfl⟩
  exact forall_mem_cons.mpr ⟨stated, statedOthers⟩

/-- The input starts with further branches of a conditional, which leave the output. -/
def StartsBranches (input output : List Token) (others : List (Node × List Node))
    (last : Option (List Node)) : Prop :=
  ∃ alts resort rest,
    input = furtherTokens alts resort ++ rest ∧
      (∀ alt ∈ alts, Expresses .disjunction alt.condition.1 alt.condition.2) ∧
      (∀ alt ∈ alts, ∀ item ∈ alt.items, States item.1 item.2) ∧
      (∀ final ∈ resort, ∀ item ∈ LastResort.items final, States item.1 item.2) ∧
      others = alts.map Alternative.branch ∧ last = resort.map LastResort.branch ∧
      output = afterBranches resort rest ∧
      (resort = none → Ending.branch.clings (rest.map Token.kind) = false)

theorem StartsBranches.none {lines : List Token} {next : Token} (feeds : LineFeeds lines)
    (notFeed : next.kind ≠ .newline) (notOtherwise : next.kind ≠ .otherwise)
    (notFate : next.kind ≠ .fate) :
    StartsBranches (lines ++ next :: rest) (next :: rest) [] none := by
  refine ⟨[], Option.none, lines ++ next :: rest, rfl, by simp, by simp, by simp, rfl, rfl, ?_, ?_⟩
  · rw [afterBranches, Ending.after, dropWhile_lines feeds, dropWhile_cons notFeed]
  · intro _
    rw [clings_branch feeds notFeed]
    simp [notOtherwise, notFate]

theorem StartsBranches.lastResort (resort : LastResort)
    (stated : ∀ item ∈ resort.items, States item.1 item.2) (rest : List Token) :
    StartsBranches (resort.tokens ++ rest) rest [] (some resort.branch) := by
  refine ⟨[], some resort, rest, rfl, by simp, by simp, ?_, rfl, rfl, rfl, ?_⟩
  · intro final same
    obtain rfl := Option.mem_some.mp same
    exact stated
  · intro absent
    cases absent

theorem StartsBranches.alternative (alt : Alternative)
    (tested : Expresses .disjunction alt.condition.1 alt.condition.2)
    (stated : ∀ item ∈ alt.items, States item.1 item.2)
    (starts : StartsBranches input output others last) :
    StartsBranches (alt.tokens ++ input) output (alt.branch :: others) last := by
  obtain ⟨alts, resort, rest, rfl, testedOthers, statedOthers, statedLast, rfl, rfl, rfl,
    apart⟩ := starts
  refine ⟨alt :: alts, resort, rest, ?_, ?_, ?_, statedLast, rfl, rfl, rfl, apart⟩
  · simp only [furtherTokens, flatMap_cons, append_assoc]
  · exact forall_mem_cons.mpr ⟨tested, testedOthers⟩
  · exact forall_mem_cons.mpr ⟨stated, statedOthers⟩

theorem parameters_eq_ok {msg : String} {params : List Token}
    (read : enclosed (consume .identifier "Expected parameter name") .rightParen false fuel msg
      input = .ok (params, output)) :
    ∃ listed closing,
      input = listed ++ closing :: output ∧ closing.kind = .rightParen ∧
        Listing false (params.map ([·])) listed ∧
          ∀ param ∈ params, param.kind = .identifier := by
  have readsOnly : ReadsOnly (consume .identifier "Expected parameter name")
      fun tokens token => tokens = [token] ∧ token.kind = .identifier := by
    intro input output token consumed
    obtain ⟨rfl, isName⟩ := consume_eq_ok rfl consumed
    exact ⟨[token], rfl, rfl, isName⟩
  obtain ⟨parts, listed, closing, equal, isClosing, listing, rfl, spelled⟩ :=
    listing_of_enclosed readsOnly rfl read
  refine ⟨listed, closing, equal, isClosing, ?_, ?_⟩
  · have same : parts.map Prod.fst = (parts.map Prod.snd).map ([·]) := by
      rw [map_map]
      exact map_congr_left fun part mem => (spelled part mem).1
    rw [← same]
    exact listing
  · intro param mem
    obtain ⟨part, inside, rfl⟩ := mem_map.mp mem
    exact (spelled part inside).2

section Inner

variable {inner : Parser Node} (innerTakes : TakesStatements inner)

include innerTakes

theorem blockBody_eq_ok (read : blockBody inner fuel input = .ok (nodes, output)) :
    StartsSuccession input output nodes := by
  induction fuel generalizing input nodes with
  | zero => exact (exhausted_ne_ok read).elim
  | succ fuel ih =>
    cases input with
    | nil => cases read
    | cons head tail =>
      rw [blockBody, bind_of_ok (check_cons rfl head tail),
        bind_of_ok (atEnd_cons head tail)] at read
      by_cases closed : (decide (head.kind = .rightBrace) || head.kind == .endOfFile) = true
      · rw [if_pos closed] at read
        obtain ⟨rfl, rfl⟩ := pure_eq_ok.mp read
        refine StartsSuccession.done LineFeeds.nil fun isFeed => ?_
        rw [isFeed] at closed
        cases closed
      · rw [if_neg closed] at read
        obtain ⟨lines, first, others, equal, feeds, notFeed, further⟩ := of_skip read
        rw [equal]
        by_cases isClosing : first.kind = .rightBrace
        · rw [check_then isClosing rfl] at further
          obtain ⟨rfl, rfl⟩ := pure_eq_ok.mp further
          exact StartsSuccession.done feeds notFeed
        · rw [check_else isClosing rfl] at further
          obtain ⟨node, _, readNode, afterNode⟩ := bind_eq_ok.mp further
          obtain ⟨before, tokens, rest, sameFront, beforeFeeds, stated, apart, rfl⟩ :=
            innerTakes readNode
          obtain ⟨between, betweenFeeds, sameRest⟩ := node.ending.exists_lines rest
          obtain ⟨skipped, next, _, sameAfter, skippedFeeds, -, goesOn⟩ := of_skip afterNode
          obtain ⟨more, readMore, rfl⟩ := bind_pure_eq_ok.mp goesOn
          have starts := ((ih readMore).lines skippedFeeds).lines betweenFeeds
          rw [← sameAfter, ← sameRest] at starts
          rw [sameFront]
          exact ((StartsSuccession.next stated apart starts).lines beforeFeeds).lines feeds

theorem block_eq_ok (read : block inner fuel input = .ok (nodes, output)) : ∃ items body,
      input = body ++ output ∧ Braced items body ∧
        (∀ item ∈ items, States item.1 item.2) ∧ nodes = items.map Prod.snd := by
  obtain ⟨lines, first, others, rfl, feeds, -, afterLines⟩ := of_skip read
  obtain ⟨_, _, ⟨⟩, isOpening, afterOpening⟩ := of_discard afterLines rfl
  obtain ⟨found, _, readBody, afterBody⟩ := bind_eq_ok.mp afterOpening
  obtain ⟨items, tokens, last, rest, rfl, rfl, -, later, stated, rfl⟩ :=
    blockBody_eq_ok innerTakes readBody
  obtain ⟨_, _, ⟨⟩, isClosing, given⟩ := of_discard afterBody rfl
  obtain ⟨rfl, rfl⟩ := pure_eq_ok.mp given
  refine ⟨items, lines ++ first :: (tokens ++ [last]), ?_,
    Braced.intro feeds isOpening later isClosing, stated, rfl⟩
  simp only [append_assoc, cons_append, nil_append]

/-! ## Branches -/

theorem branches_eq_ok (read : branches (expression budget) inner outer fuel input =
      .ok ((others, last), output)) :
    StartsBranches input output others last := by
  induction fuel generalizing input others last with
  | zero => exact (exhausted_ne_ok read).elim
  | succ fuel ih =>
    obtain ⟨lines, first, rest, rfl, feeds, notFeed, further⟩ := of_skip read
    by_cases isOtherwise : first.kind = .otherwise
    · rw [accept_then isOtherwise rfl] at further
      obtain ⟨prophecy, _, rfl, isProphecy, afterProphecy⟩ := of_discard further rfl
      obtain ⟨cond, _, readCondition, afterTest⟩ := bind_eq_ok.mp afterProphecy
      obtain ⟨test, next, following, rfl, rfl, tested, -⟩ := expression_sound readCondition
      obtain ⟨nodes, _, readBody, afterBody⟩ := bind_eq_ok.mp afterTest
      obtain ⟨items, body, sameBody, braced, stated, rfl⟩ := block_eq_ok innerTakes readBody
      obtain ⟨⟨more, final⟩, readMore, ⟨⟩⟩ := bind_pure_eq_ok.mp afterBody
      have starts := StartsBranches.alternative
        ⟨lines, first, prophecy, (test, cond), items, body, feeds, isOtherwise, isProphecy,
          braced⟩ tested stated (ih readMore)
      rw [sameBody]
      simp only [Alternative.tokens, append_assoc, cons_append] at starts
      exact starts
    rw [accept_else isOtherwise rfl] at further
    by_cases isFate : first.kind = .fate
    · rw [accept_then isFate rfl] at further
      obtain ⟨decrees, _, rfl, isDecrees, afterDecrees⟩ := of_discard further rfl
      obtain ⟨nodes, readBody, ⟨⟩⟩ := bind_pure_eq_ok.mp afterDecrees
      obtain ⟨items, body, rfl, braced, stated, rfl⟩ := block_eq_ok innerTakes readBody
      have starts := StartsBranches.lastResort
        ⟨lines, first, decrees, items, body, feeds, isFate, isDecrees, braced⟩ stated output
      simp only [LastResort.tokens, append_assoc, cons_append] at starts
      exact starts
    rw [accept_else isFate rfl] at further
    obtain ⟨⟨⟩, rfl⟩ := pure_eq_ok.mp further
    exact StartsBranches.none feeds notFeed isOtherwise isFate

/-! ## Statements with blocks -/

theorem spellDeclaration_takes {aloud : Bool}
    (isWord : word.kind = if aloud then .incantation else .spell)
    (read : spellDeclaration inner fuel word.place aloud input = .ok (node, output)) :
    Takes (word :: input) output node := by
  obtain ⟨name, _, rfl, isName, afterName⟩ := of_consume read rfl
  obtain ⟨opening, _, rfl, isOpening, afterOpening⟩ := of_discard afterName rfl
  obtain ⟨params, _, readParameters, afterParameters⟩ := bind_eq_ok.mp afterOpening
  obtain ⟨listed, closing, rfl, isClosing, listing, areNames⟩ := parameters_eq_ok readParameters
  obtain ⟨nodes, readBody, rfl⟩ := bind_pure_eq_ok.mp afterParameters
  obtain ⟨items, body, rfl, braced, stated, rfl⟩ := block_eq_ok innerTakes readBody
  refine ⟨[], word :: name :: opening :: (listed ++ closing :: body), output, ?_, LineFeeds.nil,
    .spell isWord isName isOpening areNames listing isClosing stated braced, rfl, rfl⟩
  simp only [nil_append, append_assoc, cons_append]

theorem conditional_takes (isWord : word.kind = .prophecy)
    (read : conditional (expression budget) inner budget word.place input = .ok (node, output)) :
    Takes (word :: input) output node := by
  obtain ⟨reveals, _, rfl, isReveals, afterReveals⟩ := of_discard read rfl
  obtain ⟨cond, _, readCondition, afterTest⟩ := bind_eq_ok.mp afterReveals
  obtain ⟨test, next, following, rfl, rfl, tested, -⟩ := expression_sound readCondition
  obtain ⟨nodes, _, readBody, afterBody⟩ := bind_eq_ok.mp afterTest
  obtain ⟨items, body, sameBody, braced, stated, rfl⟩ := block_eq_ok innerTakes readBody
  obtain ⟨⟨others, last⟩, readBranches, rfl⟩ := bind_pure_eq_ok.mp afterBody
  obtain ⟨alts, resort, rest, rfl, testedAlso, statedAlso, statedLast, rfl, rfl, rfl,
    apart⟩ := branches_eq_ok innerTakes readBranches
  refine ⟨[], word :: reveals :: (test ++ (body ++ furtherTokens alts resort)), rest, ?_,
    LineFeeds.nil, .conditional isWord isReveals tested stated braced testedAlso statedAlso
      statedLast, ?_, ?_⟩
  · rw [sameBody]
    simp only [nil_append, append_assoc, cons_append]
  · cases resort with
    | none => exact apart rfl
    | some final => rfl
  · cases resort <;> rfl

theorem patrol_takes (isWord : word.kind = .patrol)
    (read : patrol (expression budget) inner budget word.place input = .ok (node, output)) :
    Takes (word :: input) output node := by
  obtain ⟨untilWord, _, rfl, isUntil, afterUntil⟩ := of_discard read rfl
  obtain ⟨cond, _, readCondition, afterTest⟩ := bind_eq_ok.mp afterUntil
  obtain ⟨test, next, following, rfl, rfl, tested, -⟩ := expression_sound readCondition
  obtain ⟨nodes, readBody, rfl⟩ := bind_pure_eq_ok.mp afterTest
  obtain ⟨items, body, sameBody, braced, stated, rfl⟩ := block_eq_ok innerTakes readBody
  refine ⟨[], word :: untilWord :: (test ++ body), output, ?_, LineFeeds.nil,
    .patrol isWord isUntil tested stated braced, rfl, rfl⟩
  rw [sameBody]
  simp only [nil_append, append_assoc, cons_append]

theorem hunt_takes (isWord : word.kind = .hunt)
    (read : hunt (expression budget) inner budget word.place input = .ok (node, output)) :
    Takes (word :: input) output node := by
  obtain ⟨each, _, rfl, isEach, afterEach⟩ := of_discard read rfl
  obtain ⟨name, _, rfl, isName, afterName⟩ := of_consume afterEach rfl
  obtain ⟨inWord, _, rfl, isIn, afterIn⟩ := of_discard afterName rfl
  obtain ⟨iterable, _, readSource, afterSource⟩ := bind_eq_ok.mp afterIn
  obtain ⟨source, next, following, rfl, rfl, drawn, -⟩ := expression_sound readSource
  obtain ⟨nodes, readBody, rfl⟩ := bind_pure_eq_ok.mp afterSource
  obtain ⟨items, body, sameBody, braced, stated, rfl⟩ := block_eq_ok innerTakes readBody
  refine ⟨[], word :: each :: name :: inWord :: (source ++ body), output, ?_, LineFeeds.nil,
    .hunt isWord isEach isName isIn drawn stated braced, rfl, rfl⟩
  rw [sameBody]
  simp only [nil_append, append_assoc, cons_append]

/-! ## All statements -/

omit innerTakes in
theorem takes_of_lines {lines : List Token} (feeds : LineFeeds lines)
    (takes : Takes input output node) :
    Takes (lines ++ input) output node := by
  obtain ⟨before, tokens, rest, rfl, beforeFeeds, stated, apart, left⟩ := takes
  exact ⟨lines ++ before, tokens, rest, by rw [append_assoc], feeds.append beforeFeeds, stated,
    apart, left⟩

end Inner

theorem statement_takes (budget : Nat) : TakesStatements (statement budget) := by
  induction budget with
  | zero =>
    intro input output node read
    exact (exhausted_ne_ok read).elim
  | succ budget ih =>
    intro input output node read
    obtain ⟨lines, token, rest, rfl, feeds, notFeed, -⟩ := of_skip read
    rw [statement_lines (budget + 1) feeds notFeed] at read
    refine takes_of_lines feeds ?_
    by_cases plain : token.kind.leads = false
    · rw [statement_of_expression notFeed plain] at read
      obtain ⟨value, readValue, rfl⟩ := bind_pure_eq_ok.mp read
      obtain ⟨tokens, next, following, equal, rfl, valued, loose⟩ := expression_sound readValue
      exact ⟨[], tokens, next :: following, equal, LineFeeds.nil, .expression valued,
        apart_of_loose loose following, rfl⟩
    · cases kind : token.kind
      case conjure =>
        rw [statement_of_verb (Or.inl kind)] at read
        exact declaration_takes (Or.inl kind) read
      case summon =>
        rw [statement_of_verb (Or.inr kind)] at read
        exact declaration_takes (Or.inr kind) read
      case const =>
        rw [statement_of_kind kind rfl] at read
        exact constantDeclaration_takes kind read
      case transmute =>
        rw [statement_of_kind kind rfl] at read
        exact assignment_takes kind read
      case vanquish =>
        rw [statement_of_kind kind rfl] at read
        obtain ⟨name, following, rfl, isName, given⟩ := of_consume read rfl
        obtain ⟨rfl, rfl⟩ := pure_eq_ok.mp given
        exact ⟨[], [token, name], following, rfl, LineFeeds.nil, .deletion kind isName, rfl, rfl⟩
      case spell =>
        have isWord : token.kind = if false then .incantation else .spell := kind
        rw [statement_of_spell isWord] at read
        exact spellDeclaration_takes ih isWord read
      case incantation =>
        have isWord : token.kind = if true then .incantation else .spell := kind
        rw [statement_of_spell isWord] at read
        exact spellDeclaration_takes ih isWord read
      case cast =>
        rw [statement_of_kind kind rfl] at read
        exact castStatement_takes kind read
      case prophecy =>
        rw [statement_of_kind kind rfl] at read
        exact conditional_takes ih kind read
      case patrol =>
        rw [statement_of_kind kind rfl] at read
        exact patrol_takes ih kind read
      case hunt =>
        rw [statement_of_kind kind rfl] at read
        exact hunt_takes ih kind read
      case breakWord =>
        rw [statement_of_kind kind rfl] at read
        cases read
        exact ⟨[], [token], output, rfl, LineFeeds.nil, .breakLoop kind, rfl, rfl⟩
      case continueWord =>
        rw [statement_of_kind kind rfl] at read
        cases read
        exact ⟨[], [token], output, rfl, LineFeeds.nil, .continueLoop kind, rfl, rfl⟩
      all_goals
        rw [kind] at plain
        exact absurd rfl plain

/-! ## Whole scripts -/

theorem statements_eq_ok (read : statements outer fuel input = .ok (nodes, output)) :
    StartsSuccession input output nodes ∧ ∀ finish ∈ output.head?, finish.kind = .endOfFile := by
  induction fuel generalizing input nodes with
  | zero => exact (exhausted_ne_ok read).elim
  | succ fuel ih =>
    -- Nothing is left of the script but line feeds.
    have finished : ∀ {lines rest : List Token} {finish : Token}, LineFeeds lines →
        finish.kind = .endOfFile → (pure [] : Parser (List Node)) (finish :: rest) =
          .ok (nodes, output) →
        StartsSuccession (lines ++ finish :: rest) output nodes ∧
          ∀ finish ∈ output.head?, finish.kind = .endOfFile := by
      intro lines rest finish feeds isEnd given
      obtain ⟨rfl, rfl⟩ := pure_eq_ok.mp given
      refine ⟨StartsSuccession.done feeds (by rw [isEnd]; decide), ?_⟩
      intro other mem
      obtain rfl := Option.mem_some.mp mem
      exact isEnd
    cases input with
    | nil => cases read
    | cons head tail =>
      rw [statements, bind_of_ok (atEnd_cons head tail)] at read
      by_cases isEnd : (head.kind == .endOfFile) = true
      · rw [if_pos isEnd] at read
        exact finished LineFeeds.nil (beq_iff_eq.mp isEnd) read
      · rw [if_neg isEnd] at read
        obtain ⟨lines, first, others, equal, feeds, -, further⟩ := of_skip read
        rw [bind_of_ok (atEnd_cons first others)] at further
        rw [equal]
        by_cases isEnd : (first.kind == .endOfFile) = true
        · rw [if_pos isEnd] at further
          exact finished feeds (beq_iff_eq.mp isEnd) further
        · rw [if_neg isEnd] at further
          obtain ⟨node, _, readNode, afterNode⟩ := bind_eq_ok.mp further
          obtain ⟨more, readMore, rfl⟩ := bind_pure_eq_ok.mp afterNode
          obtain ⟨before, tokens, rest, sameFront, beforeFeeds, stated, apart, rfl⟩ :=
            statement_takes outer readNode
          obtain ⟨between, betweenFeeds, sameRest⟩ := node.ending.exists_lines rest
          obtain ⟨starts, ends⟩ := ih readMore
          have startsRest := starts.lines betweenFeeds
          rw [← sameRest] at startsRest
          rw [sameFront]
          have startsFront := (StartsSuccession.next stated apart startsRest).lines beforeFeeds
          exact ⟨startsFront.lines feeds, ends⟩

/--
A script is read exactly if it is a succession of statements up to an end of file, and then as
these statements.
-/
theorem parse_eq_ok {tree : Node} :
    parse tokens = .ok tree ↔ ∃ items body finish rest,
        tokens = body ++ finish :: rest ∧ finish.kind = .endOfFile ∧
          Succession finish items body ∧ (∀ item ∈ items, States item.1 item.2) ∧
            tree = .program (.known 0 0) (items.map Prod.snd) := by
  constructor
  · intro read
    simp only [parse, StateT.run, bind, Except.bind] at read
    split at read
    · cases read
    · next pair given =>
        cases read
        obtain ⟨starts, ends⟩ := statements_eq_ok given
        obtain ⟨items, body, finish, rest, equal, left, -, later, stated, same⟩ := starts
        rw [left] at ends
        exact ⟨items, body, finish, rest, equal, ends finish rfl, later, stated, by rw [same]⟩
  · rintro ⟨items, body, finish, rest, rfl, isEnd, later, stated, rfl⟩
    exact later.parses isEnd stated rest

end Spellbook.Parser
