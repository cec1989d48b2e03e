import Spellbook.Proofs.Grammar.Succession
import Spellbook.Proofs.Parsing.Source

/-!
# Elements as targets of assignments

A name with indices in brackets is an expression.  As the target of an assignment it is read with
the parser of atoms, which stops after the name; so the first bracket stands where `as` is expected.
Parentheses around the target make it an atom.  Therefore an assignment to an element is read
exactly if its target stands in at least one pair of parentheses.
-/

namespace Spellbook

open List Spellbook.Parser

namespace Grammar

/-- An index in brackets, as it stands after a collection. -/
structure Subscript where
  opening : Token
  tokens : List Token
  index : Node
  closing : Token
  isOpening : opening.kind = .leftBracket
  expresses : Expresses .disjunction tokens index
  isClosing : closing.kind = .rightBracket

/-- A pair of parentheses. -/
structure Parentheses where
  opening : Token
  closing : Token
  isOpening : opening.kind = .leftParen
  isClosing : closing.kind = .rightParen

/-! ## Names with indices -/

namespace Subscript

def bracketed (subscript : Subscript) : List Token :=
  subscript.opening :: (subscript.tokens ++ [subscript.closing])

/-- The tokens of a name with subscripts. -/
def spelled (name : Token) (subscripts : List Subscript) : List Token :=
  name :: subscripts.flatMap bracketed

/-- The node of a name with subscripts. -/
def node (name : Token) (subscripts : List Subscript) : Node :=
  subscripts.foldl (fun coll subscript => .index coll.place coll subscript.index)
    (.identifier name.place name.text)

variable {name : Token}

theorem spelled_concat (subscripts : List Subscript) (last : Subscript) :
    spelled name (subscripts ++ [last]) =
      spelled name subscripts ++ last.opening :: (last.tokens ++ [last.closing]) := by
  rw [spelled, spelled, flatMap_append, flatMap_singleton, bracketed, cons_append]

theorem node_concat (subscripts : List Subscript) (last : Subscript) :
    node name (subscripts ++ [last]) =
      .index (node name subscripts).place (node name subscripts) last.index := by
  rw [node, foldl_append]
  rfl

/-- A name with indices is an expression, whose node grows with every index. -/
theorem spelled_expresses (isName : name.kind = .identifier) (subscripts : List Subscript) :
    Expresses .application (spelled name subscripts) (node name subscripts) := by
  -- The grammar is left recursive here, so the induction goes from the last index.
  induction count : subscripts.length generalizing subscripts with
  | zero =>
    obtain rfl := eq_nil_of_length_eq_zero count
    have isLeaf : name.leaf? = some (.identifier name.place name.text) := by
      simp only [Token.leaf?, isName]
    exact .loosen (.leaf isLeaf)
  | succ count ih =>
    rcases eq_nil_or_concat subscripts with rfl | ⟨front, last, rfl⟩
    · cases count
    · rw [length_concat] at count
      rw [concat_eq_append, spelled_concat, node_concat]
      exact .index (ih front (Nat.succ.inj count)) last.isOpening last.expresses last.isClosing

end Subscript

/-! ## Parentheses -/

namespace Parentheses

/-- Tokens in pairs of parentheses, the first pair outermost. -/
def around (tokens : List Token) : List Parentheses → List Token
  | [] => tokens
  | pair :: others => pair.opening :: (around tokens others ++ [pair.closing])

theorem around_expresses {tokens : List Token} {node : Node}
    (spelled : Expresses .disjunction tokens node) (pairs : List Parentheses) :
    Expresses .disjunction (around tokens pairs) node := by
  induction pairs with
  | nil => exact spelled
  | cons pair others ih =>
    exact .loosenTo (by decide) (.group pair.isOpening ih pair.isClosing)

/-- One pair of parentheses is enough for an atom. -/
theorem around_cons_expresses {tokens : List Token} {node : Node}
    (spelled : Expresses .disjunction tokens node) (pair : Parentheses)
    (others : List Parentheses) :
    Expresses .atom (around tokens (pair :: others)) node :=
  .group pair.isOpening (around_expresses spelled others) pair.isClosing

end Parentheses

end Grammar

open Grammar

/-! ## Assignments -/

section Parse

variable {verb name preposition finish : Token}

theorem discard_of_error {α : Type} {parser : Parser α} {input : List Token} {trouble : Trouble}
    (failed : parser input = .error trouble) : (discard parser) input = .error trouble := by
  change StateT.map _ parser input = _
  simp only [StateT.map, bind, Except.bind, failed]

/-- After the name in an assignment only `as` can stand. -/
theorem parse_of_no_as (isVerb : verb.kind = .transmute) (isName : name.kind = .identifier)
    {next : Token} (other : next.kind ≠ .asWord) (rest : List Token) :
    parse (verb :: name :: next :: rest) =
      .error (.caused (.expected "Expected 'as' after assignment target") next.place) := by
  have isLeaf : name.leaf? = some (.identifier name.place name.text) := by
    simp only [Token.leaf?, isName]
  have notFeed : verb.kind ≠ .newline := isVerb ▸ by decide
  have notEnd : verb.kind ≠ .endOfFile := isVerb ▸ by decide
  have refused (outer fuel : Nat) :
      statements (outer + 1) (fuel + 1) (verb :: name :: next :: rest) =
        .error (.caused (.expected "Expected 'as' after assignment target") next.place) := by
    rw [statements_of_begins (outer + 1) fuel notFeed notEnd]
    refine bind_of_error ?_
    rw [statement_of_kind isVerb rfl, assignment, bind_of_ok (primary_of_leaf isLeaf _ _ _)]
    exact bind_of_error (discard_of_error (consume_of_ne rfl other _ rest))
  have failed : (statements _ _).run (verb :: name :: next :: rest) = _ :=
    refused (verb :: name :: next :: rest).length (verb :: name :: next :: rest).length
  rw [parse, failed]
  rfl

/-- The tokens of an expression are read as that expression. -/
theorem parse_of_expresses {tokens : List Token} {node : Node}
    (spelled : Expresses .disjunction tokens node) (isEnd : finish.kind = .endOfFile) :
    parse (tokens ++ [finish]) = .ok (.program (.known 0 0) [.expression node.place node]) :=
  (States.expression spelled).parses isEnd rfl

end Parse

section Assignment

variable {verb name preposition finish : Token} {subscripts : List Subscript}
  {pairs : List Parentheses} {value : List Token} {node : Node}
  (isVerb : verb.kind = .transmute) (isName : name.kind = .identifier)
include isVerb isName

/-- Without parentheses, `as` is missed at the first bracket. -/
theorem parse_subscripts (nonempty : subscripts ≠ []) (rest : List Token) :
    parse (verb :: (Subscript.spelled name subscripts ++ rest)) =
      .error (.caused (.expected "Expected 'as' after assignment target")
        (subscripts.head nonempty).opening.place) := by
  cases subscripts with
  | nil => exact absurd rfl nonempty
  | cons first others =>
    refine parse_of_no_as isVerb isName ?_ _
    rw [first.isOpening]
    decide

/-- In parentheses, the target is the element at the last index. -/
theorem parse_subscripts_around (nonempty : subscripts ≠ []) (parted : pairs ≠ [])
    (isAs : preposition.kind = .asWord) (valued : Expresses .disjunction value node)
    (isEnd : finish.kind = .endOfFile) :
    parse (verb :: (Parentheses.around (Subscript.spelled name subscripts) pairs ++
        preposition :: (value ++ [finish]))) =
      .ok (.program (.known 0 0) [.indexAssignment verb.place
        (Subscript.node name subscripts.dropLast) (subscripts.getLast nonempty).index node]) := by
  obtain ⟨pair, others, rfl⟩ := exists_cons_of_ne_nil parted
  have target := Subscript.spelled_expresses isName subscripts
  have targeted := Parentheses.around_cons_expresses (.loosenTo (by decide) target) pair others
  have assigns : assigned? verb.place node (Subscript.node name subscripts) =
      some (.indexAssignment verb.place (Subscript.node name subscripts.dropLast)
        (subscripts.getLast nonempty).index node) := by
    conv =>
      lhs
      rw [← dropLast_concat_getLast nonempty, Subscript.node_concat]
    rfl
  have stated := States.assignment isVerb targeted isAs valued assigns
  have read := stated.parses isEnd rfl
  rwa [cons_append, append_assoc, cons_append] at read

/--
An assignment to an element is read exactly if its target stands in parentheses, in however many
pairs.  Then it is the assignment to the element at the last index of the collection with the other
indices, and the collection, the index and the value are what their tokens are read as on their own.
Without parentheses, `as` is missed at the first bracket.
-/
theorem readSource_subscripts_iff (nonempty : subscripts ≠ []) (isAs : preposition.kind = .asWord)
    (valued : Expresses .disjunction value node) (isEnd : finish.kind = .endOfFile)
    {source : String} (scanned : Token.scan source = .ok
      (verb :: (Parentheses.around (Subscript.spelled name subscripts) pairs ++
        preposition :: (value ++ [finish])))) :
    (readSource source = .ok (.program (.known 0 0) [.indexAssignment verb.place
        (Subscript.node name subscripts.dropLast) (subscripts.getLast nonempty).index node]) ↔
      pairs ≠ []) ∧
    (pairs = [] → readSource source = .error (.caused
      (.expected "Expected 'as' after assignment target")
      (subscripts.head nonempty).opening.place)) ∧
    (∃ place, parse (Subscript.spelled name subscripts.dropLast ++ [finish]) =
      .ok (.program (.known 0 0)
        [.expression place (Subscript.node name subscripts.dropLast)])) ∧
    (∃ place, parse ((subscripts.getLast nonempty).tokens ++ [finish]) =
      .ok (.program (.known 0 0)
        [.expression place (subscripts.getLast nonempty).index])) ∧
    ∃ place, parse (value ++ [finish]) =
      .ok (.program (.known 0 0) [.expression place node]) := by
  have read : readSource source = parse (verb ::
      (Parentheses.around (Subscript.spelled name subscripts) pairs ++
        preposition :: (value ++ [finish]))) := by
    rw [readSource, scanned]
    rfl
  have missed (bare : pairs = []) : readSource source = .error (.caused
      (.expected "Expected 'as' after assignment target")
      (subscripts.head nonempty).opening.place) := by
    subst bare
    rw [read]
    exact parse_subscripts isVerb isName nonempty _
  refine ⟨⟨?_, ?_⟩, missed, ⟨_, parse_of_expresses ?_ isEnd⟩, ⟨_, parse_of_expresses ?_ isEnd⟩,
    _, parse_of_expresses valued isEnd⟩
  · intro found bare
    rw [missed bare] at found
    cases found
  · intro parted
    rw [read]
    exact parse_subscripts_around isVerb isName nonempty parted isAs valued isEnd
  · exact .loosenTo (by decide) (Subscript.spelled_expresses isName subscripts.dropLast)
  · exact (subscripts.getLast nonempty).expresses

end Assignment

/-- The subscript of a natural number. -/
def numbered (num : Nat) (column : Int) : Subscript where
  opening := ⟨.leftBracket, .scroll "[", 1, column⟩
  tokens := [⟨.integer, .rune num, 1, column + 1⟩]
  index := .literal (.known 1 (column + 1)) (.rune num)
  closing := ⟨.rightBracket, .scroll "]", 1, column + 2⟩
  isOpening := rfl
  expresses := .loosenTo (by decide) (.leaf rfl)
  isClosing := rfl

/-- An assignment to an element of an element, in parentheses. -/
def groupedAssignment : List Token :=
  ⟨.transmute, .scroll "transmute", 1, 1⟩ ::
    (Parentheses.around
      (Subscript.spelled ⟨.identifier, .scroll "c", 1, 12⟩ [numbered 0 13, numbered 1 16])
      [⟨⟨.leftParen, .scroll "(", 1, 11⟩, ⟨.rightParen, .scroll ")", 1, 19⟩, rfl, rfl⟩] ++
    ⟨.asWord, .scroll "as", 1, 21⟩ ::
      ([⟨.integer, .rune 5, 1, 24⟩] ++ [⟨.endOfFile, .scroll "", 1, 25⟩]))

set_option maxRecDepth 10000 in
theorem readSource_subscripts_iff_grouped :
    Token.scan "transmute (c[0][1]) as 5" = .ok groupedAssignment ∧
    readSource "transmute (c[0][1]) as 5" = .ok (.program (.known 0 0)
      [.indexAssignment (.known 1 1)
        (.index (.known 1 12) (.identifier (.known 1 12) "c") (.literal (.known 1 14) (.rune 0)))
        (.literal (.known 1 17) (.rune 1)) (.literal (.known 1 24) (.rune 5))]) := by
  have scanned : Token.scan "transmute (c[0][1]) as 5" = .ok groupedAssignment :=
    Token.scan_of_characters ['t', 'r', 'a', 'n', 's', 'm', 'u', 't', 'e', ' ', '(', 'c', '[', '0',
      ']', '[', '1', ']', ')', ' ', 'a', 's', ' ', '5'] (by decide) rfl
  have valued : Expresses .disjunction [⟨.integer, .rune 5, 1, 24⟩]
      (.literal (.known 1 24) (.rune 5)) := .loosenTo (by decide) (.leaf rfl)
  refine ⟨scanned, ?_⟩
  exact (readSource_subscripts_iff rfl rfl (by simp) rfl valued rfl scanned).1.mpr (by simp)

set_option maxRecDepth 10000 in
/-- An element is read, but without parentheses it is not assigned to. -/
theorem bare_element_not_assigned :
    readSource "c[0]" = .ok (.program (.known 0 0) [.expression (.known 1 1)
      (.index (.known 1 1) (.identifier (.known 1 1) "c") (.literal (.known 1 3) (.rune 0)))]) ∧
    readSource "transmute c[0] as 5" = .error (.caused
      (.expected "Expected 'as' after assignment target") (.known 1 12)) := by
  constructor
  · rw [readSource, Token.scan_of_characters ['c', '[', '0', ']'] (by decide) rfl]
    rfl
  · rw [readSource, Token.scan_of_characters ['t', 'r', 'a', 'n', 's', 'm', 'u', 't', 'e', ' ',
      'c', '[', '0', ']', ' ', 'a', 's', ' ', '5'] (by decide) rfl]
    rfl

end Spellbook
