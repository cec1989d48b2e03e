import Spellbook.Proofs.Parsing.Lines

/-!
# Scripts that go on

A script that can be read may go on after a line feed. If the longer script can be read too, it
begins with the statements of the shorter one, up to places, except that a conditional at the end of
the shorter script may have further branches (`Node.Continued`).
-/

namespace Spellbook

open List TokenKind Grammar Token
open Spellbook.Parser (LineFeeds statement statements branches expression bind_of_ok bind_eq_ok
  pure_eq_ok exhausted_ne_ok)

variable {front back : List String} {place : Place}

namespace Node

/--
The second statements begin with the first ones, except that a conditional at the end of these may
have further branches.
-/
inductive Continued : List Node → List Node → Prop where
  | anew (others : List Node) : Continued [] others
  | next (node : Node) {front whole : List Node} (continued : Continued front whole) :
      Continued (node :: front) (node :: whole)
  | branches (place : Place) (condition : Node) (outcome : List Node)
      (alternatives further : List (Node × List Node)) (otherwise : Option (List Node))
      (others : List Node) :
      Continued [.conditional place condition outcome alternatives none]
        (.conditional place condition outcome (alternatives ++ further) otherwise :: others)

theorem Continued.refl (nodes : List Node) : Continued nodes nodes := by
  induction nodes with
  | nil => exact .anew []
  | cons node nodes ih => exact .next node ih

theorem Continued.unplaced {front whole : List Node} (continued : Continued front whole) :
    Continued (front.map Node.unplaced) (whole.map Node.unplaced) := by
  induction continued with
  | anew others => exact .anew _
  | next node continued ih => exact .next _ ih
  | branches place cond outcome alts further otherwise others =>
    simp only [map_cons, map_nil, Node.unplaced, unplacedBranches_eq_map, map_append]
    exact .branches _ _ _ _ _ _ _

end Node

/-! ## Lexemes -/

namespace Token

variable {lexemes : List Lexeme} {text : List Char}

/-- The first lexeme of a text is the one that stands there, wherever that is. -/
theorem Divided.of_cons {first : Char} {rest : List Char}
    (divided : Divided (first :: rest) lexemes) {cursor finish : Cursor}
    (stands : cursor.rest = first :: rest) {found : Option Token}
    (read : next 0 cursor first rest = .ok (found, finish)) :
    ∃ others, lexemes = (found.map Token.lexeme).toList ++ others ∧ Divided finish.rest others := by
  cases divided with
  | @skip start otherFinish _ _ _ startStands skipped others =>
    obtain ⟨_, _, again, sameFound, sameRest⟩ := next_elsewhere startStands stands skipped
    cases read.symm.trans again
    rw [Option.map_eq_none_iff.mp sameFound, sameRest]
    exact ⟨_, rfl, others⟩
  | @take start otherFinish _ _ token lexemes startStands taken others =>
    obtain ⟨_, _, again, sameFound, sameRest⟩ := next_elsewhere startStands stands taken
    cases read.symm.trans again
    rw [sameFound, sameRest]
    exact ⟨lexemes, rfl, others⟩

/-- A text divides as its parts do, if the first part does and ends where the line does. -/
theorem Divided.of_append {tail : List Char} {all : List Lexeme} (divided : Divided text lexemes)
    (breaks : Breaks tail) (whole : Divided (text ++ tail) all) :
    ∃ more, all = lexemes ++ more ∧ Divided tail more := by
  induction divided generalizing all with
  | done => exact ⟨all, rfl, whole⟩
  | @skip start finish first rest lexemes stands skipped divided ih =>
    rcases next_append breaks stands
      (show ({ start with rest := first :: (rest ++ tail) } : Cursor).rest = _ from rfl) skipped
      with ⟨otherFound, otherFinish, read, sameFound, sameRest⟩
    obtain ⟨others, rfl, dividedOthers⟩ := whole.of_cons rfl read
    rw [sameRest] at dividedOthers
    rw [sameFound]
    exact ih dividedOthers
  | @take start finish first rest token lexemes stands taken divided ih =>
    rcases next_append breaks stands
      (show ({ start with rest := first :: (rest ++ tail) } : Cursor).rest = _ from rfl) taken
      with ⟨otherFound, otherFinish, read, sameFound, sameRest⟩
    obtain ⟨others, rfl, dividedOthers⟩ := whole.of_cons rfl read
    rw [sameRest] at dividedOthers
    obtain ⟨more, rfl, dividedMore⟩ := ih dividedOthers
    rw [sameFound]
    exact ⟨more, rfl, dividedMore⟩

theorem Divided.of_lineFeed (divided : Divided ('\n' :: text) lexemes) :
    ∃ others, lexemes = Token.lineFeed :: others ∧ Divided text others :=
  divided.of_cons rfl (next_of_lineFeed 0 ⟨'\n' :: text, 1, 1, 0⟩ text)

end Token

/-! ## Statements -/

namespace Grammar

variable {tokens rest output : List Token} {node : Node} {budget outer fuel : Nat}
  {finish feed : Token} {items : List Item}

theorem Stops.before (stops : Stops tokens) (front : List Token) : Stops (front ++ tokens) := by
  induction front with
  | nil => exact stops
  | cons token front ih =>
    by_cases isFeed : token.kind = .newline
    · obtain ⟨lines, other, rest, equal, feeds, notFeed⟩ := ih
      refine ⟨token :: lines, other, rest, congrArg (token :: ·) equal, ?_, notFeed⟩
      exact (lineFeeds_single isFeed).append feeds
    · exact Stops.cons isFeed _

/-- A conditional without a last branch is a condition, a block and alternatives. -/
theorem States.branching (stated : States tokens node) (ends : node.ending = .branch) :
    ∃ prophecy reveals test body cond items alts,
      tokens = prophecy :: reveals :: (test ++ (body ++ furtherTokens alts none)) ∧
        node = .conditional prophecy.place cond (items.map Prod.snd)
          (alts.map Alternative.branch) none ∧
        prophecy.kind = .prophecy ∧ reveals.kind = .reveals ∧
          Expresses .disjunction test cond ∧ Braced items body ∧
            (∀ item ∈ items, States item.1 item.2) ∧
              (∀ alt ∈ alts,
                Expresses .disjunction alt.condition.1 alt.condition.2) ∧
                ∀ alt ∈ alts, ∀ item ∈ alt.items, States item.1 item.2 := by
  cases stated with
  | @conditional prophecy reveals test body cond items alts last isProphecy isReveals
      tested stated braced testedAlso statedAlso statedLast =>
    cases last with
    | none =>
      exact ⟨prophecy, reveals, test, body, cond, items, alts, rfl, rfl,
        isProphecy, isReveals, tested, braced, stated, testedAlso, statedAlso⟩
    | some resort => cases ends
  | @assignment _ _ _ _ targetNode _ _ _ _ _ _ assigns =>
    cases targetNode <;> cases assigns <;> cases ends
  | _ => cases ends

/-- Alternatives are read first, whatever follows them. -/
theorem branches_beyond {inner : Parser Node} {alts : List Alternative}
    (tested : ∀ alt ∈ alts, Expresses .disjunction alt.condition.1 alt.condition.2)
    (reads : ∀ alt ∈ alts, ReadsBlock inner budget alt.body alt.items)
    (within : (alts.flatMap Alternative.tokens).length ≤ budget)
    {found : List (Node × List Node) × Option (List Node)}
    (read : branches (expression budget) inner budget fuel
      (alts.flatMap Alternative.tokens ++ rest) = .ok (found, output)) :
    ∃ further, found.1 = alts.map Alternative.branch ++ further := by
  induction alts generalizing fuel found with
  | nil => exact ⟨found.1, rfl⟩
  | cons alt others ih =>
    cases fuel with
    | zero => exact (exhausted_ne_ok read).elim
    | succ fuel =>
      rw [flatMap_cons, length_append] at within
      rw [flatMap_cons, append_assoc, branches_alternative alt
        (tested _ mem_cons_self) (reads _ mem_cons_self) (by omega)] at read
      obtain ⟨later, left, readLater, made⟩ := bind_eq_ok.mp read
      obtain ⟨rfl, rfl⟩ := pure_eq_ok.mp made
      rcases ih (forall_mem_cons.mp tested).2 (forall_mem_cons.mp reads).2
        (by omega) readLater with ⟨further, same⟩
      exact ⟨further, congrArg (alt.branch :: ·) same⟩

/-- Where a conditional goes on, only its further branches are read differently. -/
theorem States.continued (stated : States tokens node) (ends : node.ending = .branch)
    (enough : tokens.length < budget) {found : Node}
    (read : statement budget (tokens ++ rest) = .ok (found, output)) (others : List Node) :
    Node.Continued [node] (found :: others) := by
  rcases stated.branching ends with ⟨prophecy, reveals, test, body, cond, items, alts,
    rfl, rfl, isProphecy, isReveals, tested, braced, statedItems, testedAlso, statedAlso⟩
  rcases Nat.exists_eq_add_one_of_ne_zero (Nat.ne_of_gt (Nat.zero_lt_of_lt enough)) with
    ⟨less, rfl⟩
  simp only [furtherTokens, Option.map_none, Option.getD_none, append_nil, length_cons,
    length_append] at enough
  simp only [furtherTokens, Option.map_none, Option.getD_none, append_nil, cons_append,
    append_assoc] at read
  have reads := braced.read statedItems (fun item mem => (statedItems item mem).read)
    (show body.length ≤ less by omega)
  have readsAlso : ∀ alt ∈ alts,
      ReadsBlock (statement less) (less + 1) alt.body alt.items := by
    intro alt inside
    have within := length_le_further none inside
    simp only [furtherTokens, Option.map_none, Option.getD_none, append_nil,
      Alternative.tokens, length_append, length_cons] at within
    exact alt.braced.read (statedAlso _ inside)
      (fun item mem => (statedAlso _ inside item mem).read) (by omega)
  rw [statement_of_kind isProphecy rfl, conditional_before_branches isReveals
    (braced.after tested (by omega) _) reads] at read
  obtain ⟨all, left, readBranches, made⟩ := bind_eq_ok.mp read
  obtain ⟨rfl, rfl⟩ := pure_eq_ok.mp made
  obtain ⟨further, same⟩ := branches_beyond testedAlso readsAlso (by omega) readBranches
  rw [same]
  exact .branches _ _ _ _ _ _ _

/-- After a line feed only a further branch goes on with a statement, with nothing in between. -/
theorem branch_of_clings {ending : Ending}
    (apart : ending.clings ((rest ++ [finish]).map Token.kind) = false)
    (isFeed : feed.kind = .newline)
    (clings : ending.clings ((rest ++ feed :: tokens).map Token.kind) = true) :
    ending = .branch ∧ LineFeeds rest := by
  cases ending with
  | closed => cases clings
  | value | bareCast =>
    cases rest with
    | nil =>
      rw [nil_append, map_cons, isFeed] at clings
      cases clings
    | cons first rest => cases apart.symm.trans clings
  | branch =>
    refine ⟨rfl, ?_⟩
    cases found : (rest.map Token.kind).find? (· != .newline) with
    | none =>
      intro token mem
      simpa using List.find?_eq_none.mp found _ (mem_map_of_mem mem)
    | some kind =>
      simp only [Ending.clings, map_append, List.find?_append, found, Option.some_or]
        at apart clings
      cases apart.symm.trans clings

theorem Succession.eq_nil_of_lineFeeds {closing : Token}
    (succeeding : Succession closing items tokens) (stated : ∀ item ∈ items, States item.1 item.2)
    (feeds : LineFeeds tokens) :
    items = [] := by
  cases succeeding with
  | done _ => rfl
  | next linesFeeds apart others =>
    obtain ⟨token, rest, rfl, begins⟩ := (stated _ mem_cons_self).starts
    have isFeed := feeds token (by simp)
    exact (begins_ne begins rfl isFeed).elim

/-- What is read of a script that goes on after a line feed. -/
theorem statements_continued (isFeed : feed.kind = .newline)
    (succeeding : Succession finish items tokens) (stated : ∀ item ∈ items, States item.1 item.2)
    (withinOuter : tokens.length < outer) {more : List Token} (stops : Stops more)
    {nodes : List Node}
    (read : statements outer fuel (tokens ++ feed :: more) = .ok (nodes, output)) :
    Node.Continued (items.map Prod.snd) nodes := by
  induction succeeding generalizing fuel nodes with
  | done feeds => exact .anew nodes
  | @next lines tokens others node items feeds apart succeeding ih =>
    cases fuel with
    | zero => exact (exhausted_ne_ok read).elim
    | succ fuel =>
      simp only [length_append] at withinOuter
      have statedOthers : ∀ item ∈ items, States item.1 item.2 :=
        (forall_mem_cons.mp stated).2
      have statedFirst : States tokens node := stated _ mem_cons_self
      have stopsAfter : Stops (others ++ feed :: more) := by
        have after := stops.before (others ++ [feed])
        rwa [append_assoc] at after
      obtain ⟨token, tail, rfl, begins⟩ := statedFirst.starts
      simp only [cons_append, append_assoc] at read
      rw [statements_lines outer _ feeds (begins_ne begins rfl),
        statements_of_begins outer fuel (begins_ne begins rfl) (begins_ne begins rfl)] at read
      obtain ⟨first, left, readFirst, readOthers⟩ := bind_eq_ok.mp read
      obtain ⟨later, rest, readLater, made⟩ := bind_eq_ok.mp readOthers
      obtain ⟨rfl, rfl⟩ := pure_eq_ok.mp made
      cases clings : node.ending.clings ((others ++ feed :: more).map Token.kind) with
      | false =>
        have asStated := statedFirst.read (show (token :: tail).length < outer by omega)
          stopsAfter clings
        cases readFirst.symm.trans asStated
        have sameOthers := statements_after node.ending stopsAfter outer fuel
        exact .next node (ih statedOthers (by omega) (sameOthers ▸ readLater))
      | true =>
        obtain ⟨ends, othersFeeds⟩ := branch_of_clings apart isFeed clings
        rw [succeeding.eq_nil_of_lineFeeds statedOthers othersFeeds]
        exact statedFirst.continued ends (by omega) readFirst later

end Grammar

/-! ## Sources -/

/-- A source that goes on after a line feed. -/
theorem readSource_continued {first second : String} {place' : Place} {shorter longer : List Node}
    (former : readSource first = .ok (.program place shorter))
    (whole : readSource (first ++ "\n" ++ second) = .ok (.program place' longer)) :
    Node.Continued (shorter.map Node.unplaced) (longer.map Node.unplaced) := by
  rcases readSource_eq_ok former with ⟨lexemes, items, tokens, finish, divided, -, spelled, -,
    succeeding, stated, same⟩
  obtain ⟨-, rfl⟩ := Node.program.inj same
  obtain ⟨scanned, scan, parsed⟩ := except_bind_eq_ok.mp whole
  obtain ⟨all, dividedAll, spelledAll⟩ := scan_eq_ok scan
  rw [String.toList_append, String.toList_append, append_assoc] at dividedAll
  obtain ⟨_, rfl, dividedAfter⟩ := divided.of_append (Breaks.lineFeed _) dividedAll
  obtain ⟨more, rfl, -⟩ := dividedAfter.of_lineFeed
  -- The tokens of the whole are those of the first source, the line feed, and others.
  rw [visible_append (descend_of_succession spelled succeeding stated), ← spelled,
    append_assoc] at spelledAll
  obtain ⟨front, _, rfl, frontSpelled, backSpelled⟩ := map_eq_append_iff.mp spelledAll
  obtain ⟨feed, back, rfl, feedSpelled, restSpelled⟩ := map_eq_cons_iff.mp backSpelled
  obtain ⟨others, last, rfl, -, lastSpelled⟩ := spelled_snoc restSpelled
  have isFeed : feed.kind = .newline := kind_of_lexeme feedSpelled
  have stops : Stops (others ++ [last]) := by
    apply Stops.before
    apply Stops.cons
    rw [show last.kind = .endOfFile from kind_of_lexeme lastSpelled]
    decide
  obtain ⟨found, foundSucceeding, copies⟩ := succeeding.respelled stated frontSpelled rfl
  obtain ⟨⟨nodes, left⟩, read, made⟩ := except_bind_eq_ok.mp parsed
  cases made
  rw [← copies.same]
  refine (statements_continued isFeed foundSucceeding copies.read ?_ stops read).unplaced
  rw [length_append]
  omega

theorem Session.joined_append (nonempty : front ≠ []) (others : back ≠ []) :
    joined (front ++ back) = joined front ++ "\n" ++ joined back := by
  induction front with
  | nil => cases nonempty rfl
  | cons source front ih =>
    cases front with
    | nil =>
      cases back with
      | nil => cases others rfl
      | cons next back => exact String.intercalate_cons_cons
    | cons next front =>
      have later := ih (cons_ne_nil next front)
      simp only [joined, cons_append, String.intercalate_cons_cons] at later ⊢
      rw [later]
      simp only [String.append_assoc]

/-- The first ones of some sources, each on lines of its own, and all of them. -/
theorem readSource_joined_continued {programs : List (List Node)} {all : List Node}
    (read : front.map readSource = programs.map fun stmts => .ok (.program (.known 0 0) stmts))
    (whole : readSource (Session.joined (front ++ back)) = .ok (.program place all)) :
    Node.Continued (programs.flatten.map Node.unplaced) (all.map Node.unplaced) := by
  obtain ⟨shorter, readFront, same⟩ := readSource_joined read
  rw [← same]
  cases front with
  | nil =>
    cases readFront
    exact .anew _
  | cons source front =>
    cases back with
    | nil =>
      rw [append_nil, readFront] at whole
      cases whole
      exact .refl _
    | cons next back =>
      rw [Session.joined_append (cons_ne_nil _ _) (cons_ne_nil _ _)] at whole
      exact readSource_continued readFront whole

end Spellbook
