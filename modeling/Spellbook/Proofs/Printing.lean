import Spellbook.Proofs.Grammar.Succession
import Spellbook.Proofs.Lexing.Division
import Spellbook.Proofs.Precedence

/-!
# Parsing printed programs

`Node.printed` spells out a program: every expression with parts stands in parentheses, every block
in braces, and a line feed follows every statement.  Collections are written without the word for
them, in parentheses of their own or not.  The parser undoes this (`parse_printed`): however the
tokens are placed, they are read as the program that was printed, up to places.
-/

namespace Spellbook

open List Grammar

namespace Lexeme

def braced (lexemes : List Lexeme) : List Lexeme :=
  ofSign .leftBrace "\x7b" :: (lexemes ++ [ofSign .rightBrace "\x7d"])

/-- Lexemes in parentheses if wanted. -/
def wrapped (wraps : Bool) (lexemes : List Lexeme) : List Lexeme :=
  if wraps then parenthesised lexemes else lexemes

def ofType (word : String) : Lexeme := ⟨.ofWord word, .scroll word⟩

end Lexeme

namespace Node

/-! ## Expressions in full parentheses -/

section Printer

variable (wraps : Bool)

mutual

/--
The lexemes of an expression, with parentheses around everything that has parts; around collections
only if `wraps`.
-/
@[simp] def full : Node → List Lexeme
  | literal _ value => [.ofLiteral value]
  | identifier _ name => [.ofName name]
  | binary _ left op right =>
    Lexeme.parenthesised (left.full ++ op.lexeme :: right.full)
  | unary _ .denial operand => Lexeme.parenthesised (.ofSign .notWord "not" :: operand.full)
  | unary _ _ operand => Lexeme.parenthesised (.ofSign .minus "-" :: operand.full)
  | tome _ elems =>
    Lexeme.wrapped wraps (.ofSign .leftBracket "[" ::
      (Lexeme.listed (fullAll elems) ++ [.ofSign .rightBracket "]"]))
  | grimoire _ pairs =>
    Lexeme.wrapped wraps (.ofSign .leftBrace "\x7b" ::
      (Lexeme.listed (fullPairs pairs) ++ [.ofSign .rightBrace "\x7d"]))
  | index _ coll pos =>
    Lexeme.parenthesised (coll.full ++
      .ofSign .leftBracket "[" :: (pos.full ++ [.ofSign .rightBracket "]"]))
  | call _ callee args =>
    Lexeme.parenthesised (callee.full ++
      .ofSign .leftParen "(" :: (Lexeme.listed (fullAll args) ++ [.ofSign .rightParen ")"]))
  | member _ object name =>
    Lexeme.parenthesised (object.full ++ [.ofSign .dot ".", .ofName name])
  | _ => []

@[simp] def fullAll : List Node → List (List Lexeme)
  | [] => []
  | node :: nodes => node.full :: fullAll nodes

@[simp] def fullPairs : List (Node × Node) → List (List Lexeme)
  | [] => []
  | (key, value) :: pairs =>
    (key.full ++ .ofSign .colon ":" :: value.full) :: fullPairs pairs

end

/-! ## Statements and programs -/

mutual

/-- The lexemes of a statement, or of the statements of a program. -/
@[simp] def printed : Node → List Lexeme
  | program _ stmts => printedLines stmts
  | declaration _ name value _ true =>
    [.ofSign .const "const", .ofSign .prophecy "prophecy", .ofName name, .ofSign .asWord "as"] ++
      value.full wraps
  | declaration _ name value typeHint false =>
    [.ofSign .conjure "conjure", .ofName name, .ofSign .asWord "as"] ++
      (typeHint.toList.map Lexeme.ofType ++ value.full wraps)
  | assignment _ name value =>
    [.ofSign .transmute "transmute", .ofName name, .ofSign .asWord "as"] ++ value.full wraps
  | indexAssignment place coll pos value =>
    .ofSign .transmute "transmute" :: ((index place coll pos).full wraps ++
      .ofSign .asWord "as" :: value.full wraps)
  | deletion _ name => [.ofSign .vanquish "vanquish", .ofName name]
  | spell _ name params body aloud =>
    (if aloud then .ofSign .incantation "incantation" else .ofSign .spell "spell") ::
      .ofName name :: .ofSign .leftParen "(" ::
        (Lexeme.listed (params.map fun param => [.ofName param]) ++
          .ofSign .rightParen ")" :: Lexeme.braced (printedLines body))
  | cast _ none => [.ofSign .cast "cast"]
  | cast _ (some value) => .ofSign .cast "cast" :: value.full wraps
  | conditional _ cond outcome alts otherwise =>
    .ofSign .prophecy "prophecy" :: .ofSign .reveals "reveals" ::
      (cond.full wraps ++ (Lexeme.braced (printedLines outcome) ++
        (printedAlternatives alts ++ printedOtherwise otherwise)))
  | patrol _ cond body =>
    .ofSign .patrol "patrol" :: .ofSign .untilWord "until" ::
      (cond.full wraps ++ Lexeme.braced (printedLines body))
  | hunt _ name iterable body =>
    .ofSign .hunt "hunt" :: .ofSign .each "each" :: .ofName name :: .ofSign .inWord "in" ::
      (iterable.full wraps ++ Lexeme.braced (printedLines body))
  | breakLoop _ => [.ofSign .breakWord "break"]
  | continueLoop _ => [.ofSign .continueWord "continue"]
  | expression _ value => value.full wraps
  | _ => []

/-- The lexemes of statements, with a line feed after each. -/
@[simp] def printedLines : List Node → List Lexeme
  | [] => []
  | node :: nodes => node.printed ++ Token.lineFeed :: printedLines nodes

@[simp] def printedAlternatives : List (Node × List Node) → List Lexeme
  | [] => []
  | (condition, body) :: branches =>
    .ofSign .otherwise "otherwise" :: .ofSign .prophecy "prophecy" ::
      (condition.full wraps ++ Lexeme.braced (printedLines body)) ++ printedAlternatives branches

@[simp] def printedOtherwise : Option (List Node) → List Lexeme
  | none => []
  | some body =>
    .ofSign .fate "fate" :: .ofSign .decrees "decrees" :: Lexeme.braced (printedLines body)

end

end Printer

/--
A tree of a statement that can be printed.  The hint at a type is a word for a type, and a constant
has none.
-/
inductive Printable : Node → Prop where
  | declaration {value : Node} {typeHint : Option String} (place : Place) (name : String)
      (typed : ∀ word ∈ typeHint, Parser.isTypeWord (.ofWord word) = true)
      (valued : IsExpression value) :
      Printable (.declaration place name value typeHint false)
  | constant {value : Node} (place : Place) (name : String) (valued : IsExpression value) :
      Printable (.declaration place name value none true)
  | assignment {value : Node} (place : Place) (name : String) (valued : IsExpression value) :
      Printable (.assignment place name value)
  | indexAssignment {coll pos value : Node} (place : Place)
      (indexed : IsExpression coll) (positioned : IsExpression pos)
      (valued : IsExpression value) :
      Printable (.indexAssignment place coll pos value)
  | deletion (place : Place) (name : String) : Printable (.deletion place name)
  | spell {body : List Node} (place : Place) (name : String) (parameters : List String)
      (aloud : Bool) (stated : ∀ node ∈ body, Printable node) :
      Printable (.spell place name parameters body aloud)
  | bareCast (place : Place) : Printable (.cast place none)
  | cast {value : Node} (place : Place) (valued : IsExpression value) :
      Printable (.cast place (some value))
  | conditional {condition : Node} {outcome : List Node}
      {alternatives : List (Node × List Node)} {otherwise : Option (List Node)} (place : Place)
      (tested : IsExpression condition)
      (stated : ∀ node ∈ outcome, Printable node)
      (testedAlso : ∀ branch ∈ alternatives, IsExpression branch.1)
      (statedAlso : ∀ branch ∈ alternatives, ∀ node ∈ branch.2, Printable node)
      (statedLast : ∀ body ∈ otherwise, ∀ node ∈ body, Printable node) :
      Printable (.conditional place condition outcome alternatives otherwise)
  | patrol {condition : Node} {body : List Node} (place : Place)
      (tested : IsExpression condition) (stated : ∀ node ∈ body, Printable node) :
      Printable (.patrol place condition body)
  | hunt {iterable : Node} {body : List Node} (place : Place) (name : String)
      (drawn : IsExpression iterable) (stated : ∀ node ∈ body, Printable node) :
      Printable (.hunt place name iterable body)
  | breakLoop (place : Place) : Printable (.breakLoop place)
  | continueLoop (place : Place) : Printable (.continueLoop place)
  | expression {value : Node} (place : Place) (valued : IsExpression value) :
      Printable (.expression place value)

end Node

namespace Grammar

variable {wraps : Bool}

/-! ## Printed expressions -/

theorem fullAll_eq_map (elems : List Node) :
    Node.fullAll wraps elems = elems.map (Node.full wraps) := by
  induction elems with
  | nil => rfl
  | cons element elems ih => simp [ih]

theorem fullPairs_eq_map (pairs : List (Node × Node)) :
    Node.fullPairs wraps pairs = pairs.map (pairLexemes (Node.full wraps)) := by
  induction pairs with
  | nil => rfl
  | cons pair pairs ih =>
    rw [Node.fullPairs, ih]
    rfl

theorem Phrased.wrapped {lexemes : List Lexeme} {node : Node}
    (phrased : Phrased (Expresses .atom) lexemes node) :
    Phrased (Expresses .atom) (Lexeme.wrapped wraps lexemes) node := by
  cases wraps with
  | false => exact phrased
  | true => exact phrased.parenthesised

/-- A printed expression is that expression, and stands wherever one can stand. -/
theorem phrased_full {node : Node} (isExpression : node.IsExpression) :
    Phrased (Expresses .atom) (node.full wraps) node := by
  induction isExpression with
  | literal place value =>
    rw [Node.full]
    exact Phrased.literal place value
  | identifier place name =>
    rw [Node.full]
    exact Phrased.identifier place name
  | binary place known leftSide rightSide leftPhrased rightPhrased =>
    rw [Node.full]
    exact (Phrased.binary place known (leftPhrased.tight _) (rightPhrased.tight _)).parenthesised
  | denial place inner ih =>
    rw [Node.full]
    exact (Phrased.denial place (ih.tight _)).parenthesised
  | negation place inner ih =>
    simp only [Node.full]
    exact (Phrased.negation place (ih.tight _)).parenthesised
  | tome place all ih =>
    rw [Node.full, fullAll_eq_map]
    exact (Phrased.tome place fun element mem => (ih element mem).loosest).wrapped
  | grimoire place keys values keysPhrased valuesPhrased =>
    rw [Node.full, fullPairs_eq_map]
    exact (Phrased.grimoire place (fun pair mem => (keysPhrased pair mem).loosest)
      fun pair mem => (valuesPhrased pair mem).loosest).wrapped
  | index place indexed positioned indexedPhrased positionPhrased =>
    rw [Node.full]
    exact (Phrased.index place (indexedPhrased.tight _) positionPhrased.loosest).parenthesised
  | call place called all calledPhrased argumentsPhrased =>
    rw [Node.full, fullAll_eq_map]
    exact (Phrased.call place (calledPhrased.tight _)
      fun arg mem => (argumentsPhrased arg mem).loosest).parenthesised
  | member place inner name ih =>
    rw [Node.full]
    exact (Phrased.member place name (ih.tight _)).parenthesised

/-- No printed expression begins with the word for a type. -/
theorem untyped_full {node : Node} (isExpression : node.IsExpression) :
    ∀ lexeme ∈ (node.full wraps).head?, Parser.isTypeWord lexeme.kind = false := by
  intro lexeme mem
  cases isExpression with
  | literal place value =>
    rw [Node.full] at mem
    obtain rfl := Option.mem_some.mp mem
    cases value with
    | charm truth => cases truth <;> rfl
    | _ => rfl
  | identifier | binary | denial | index | call | member =>
    rw [Node.full] at mem
    obtain rfl := Option.mem_some.mp mem
    rfl
  | negation =>
    simp only [Node.full] at mem
    obtain rfl := Option.mem_some.mp mem
    rfl
  | tome | grimoire =>
    rw [Node.full] at mem
    cases wraps <;> obtain rfl := Option.mem_some.mp mem <;> rfl

/-! ## Printed statements -/

theorem exists_expression {node : Node} (isExpression : node.IsExpression) :
    ∃ tree, Expresses .disjunction ((node.full wraps).map token) tree ∧
      tree.unplaced = node.unplaced :=
  (phrased_full isExpression).loosest.here

theorem untyped_tokens {node : Node} (isExpression : node.IsExpression) :
    ∀ first ∈ ((node.full wraps).map token).head?, Parser.isTypeWord first.kind = false := by
  intro first mem
  rw [List.head?_map] at mem
  obtain ⟨lexeme, inside, rfl⟩ := Option.map_eq_some_iff.mp mem
  exact untyped_full isExpression lexeme inside

theorem printedLines_eq_flatMap (nodes : List Node) :
    Node.printedLines wraps nodes =
      nodes.flatMap fun node => node.printed wraps ++ [Token.lineFeed] := by
  induction nodes with
  | nil => rfl
  | cons node nodes ih => rw [Node.printedLines, ih, flatMap_cons, append_assoc]; rfl

section Body

variable {body : List Node} (phrased : ∀ node ∈ body, Phrased States (node.printed wraps) node)

include phrased

/-- Printed lines are a succession of their statements. -/
theorem succession_of_printed {closing : Token} (closes : Fresh [closing]) :
    ∃ items : List Item, Succession closing items ((Node.printedLines wraps body).map token) ∧
      (∀ item ∈ items, States item.1 item.2) ∧
        (items.map Prod.snd).map Node.unplaced = body.map Node.unplaced := by
  obtain ⟨items, parts, stated, same⟩ := items_of_nodes phrased
  have lines : (Node.printedLines wraps body).map token =
      items.flatMap fun item => item.1 ++ [token Token.lineFeed] := by
    have perItem : (items.map Prod.fst).flatMap (fun part => part ++ [token Token.lineFeed]) =
        items.flatMap fun item => item.1 ++ [token Token.lineFeed] := flatMap_map ..
    rw [← perItem, parts, printedLines_eq_flatMap, map_flatMap, flatMap_map, flatMap_map]
    simp only [map_append, map_cons, map_nil]
  rw [lines]
  exact ⟨items, succession_of_lines closes rfl stated, stated, same⟩

theorem braced_of_printed : ∃ items : List Item,
      Braced items ((Lexeme.braced (Node.printedLines wraps body)).map token) ∧
        (∀ item ∈ items, States item.1 item.2) ∧
          (items.map Prod.snd).map Node.unplaced = body.map Node.unplaced := by
  let closing := token (Lexeme.ofSign .rightBrace "\x7d")
  rcases succession_of_printed phrased (show Fresh [closing] from rfl) with
    ⟨items, later, stated, same⟩
  refine ⟨items, ?_, stated, same⟩
  rw [Lexeme.braced, map_cons, map_append]
  exact Braced.intro Parser.LineFeeds.nil rfl later rfl

end Body

theorem alternatives_of_printed {branches : List (Node × List Node)}
    (tested : ∀ branch ∈ branches, branch.1.IsExpression)
    (phrased : ∀ branch ∈ branches, ∀ node ∈ branch.2, Phrased States (node.printed wraps) node) :
    ∃ alts : List Alternative,
      alts.flatMap Alternative.tokens =
          (Node.printedAlternatives wraps branches).map token ∧
        (∀ alt ∈ alts,
          Expresses .disjunction alt.condition.1 alt.condition.2) ∧
          (∀ alt ∈ alts, ∀ item ∈ alt.items, States item.1 item.2) ∧
            Node.unplacedBranches (alts.map Alternative.branch) =
              Node.unplacedBranches branches := by
  induction branches with
  | nil => exact ⟨[], rfl, by simp, by simp, rfl⟩
  | cons branch branches ih =>
    obtain ⟨cond, body⟩ := branch
    obtain ⟨firstTested, othersTested⟩ := forall_mem_cons.mp tested
    obtain ⟨firstPhrased, othersPhrased⟩ := forall_mem_cons.mp phrased
    obtain ⟨alts, tokens, express, state, same⟩ := ih othersTested othersPhrased
    obtain ⟨tree, expresses, sameTree⟩ := exists_expression firstTested
    obtain ⟨items, braced, stated, sameItems⟩ := braced_of_printed firstPhrased
    let first : Alternative :=
      { lines := []
        otherwise := token (.ofSign .otherwise "otherwise")
        prophecy := token (.ofSign .prophecy "prophecy")
        condition := ((cond.full wraps).map token, tree)
        items, body := _
        feeds := Parser.LineFeeds.nil
        isOtherwise := rfl
        isProphecy := rfl
        braced }
    refine ⟨first :: alts, ?_, ?_, ?_, ?_⟩
    · rw [flatMap_cons, tokens, Node.printedAlternatives, map_append]
      simp [first, Alternative.tokens]
    · exact forall_mem_cons.mpr ⟨expresses, express⟩
    · exact forall_mem_cons.mpr ⟨stated, state⟩
    · rw [Node.unplacedBranches_eq_map, Node.unplacedBranches_eq_map] at same ⊢
      rw [map_cons, map_cons, map_cons, same]
      simp only [first, Alternative.branch, sameTree, sameItems]

theorem lastResort_of_printed {otherwise : Option (List Node)}
    (phrased : ∀ body ∈ otherwise, ∀ node ∈ body, Phrased States (node.printed wraps) node) :
    ∃ last : Option LastResort,
      (last.map LastResort.tokens).getD [] = (Node.printedOtherwise wraps otherwise).map token ∧
        (∀ resort ∈ last, ∀ item ∈ resort.items, States item.1 item.2) ∧
          Node.unplacedBlock (last.map LastResort.branch) = Node.unplacedBlock otherwise := by
  cases otherwise with
  | none => exact ⟨none, rfl, by simp, rfl⟩
  | some body =>
    obtain ⟨items, braced, stated, same⟩ := braced_of_printed (phrased body rfl)
    let last : LastResort :=
      { lines := []
        fate := token (.ofSign .fate "fate")
        decrees := token (.ofSign .decrees "decrees")
        items, body := _
        feeds := Parser.LineFeeds.nil
        isFate := rfl
        isDecrees := rfl
        braced }
    refine ⟨some last, rfl, ?_, ?_⟩
    · intro resort mem
      obtain rfl := Option.mem_some.mp mem
      exact stated
    · simp only [Option.map_some, Node.unplacedBlock, Node.unplacedAll_eq_map,
        LastResort.branch, last, same]

theorem listing_of_names (names : List String) :
    Listing false ((names.map fun name => token (.ofName name)).map ([·]))
      ((Lexeme.listed (names.map fun name => [.ofName name])).map token) := by
  have listed := listing_listed false (names.map fun name => [Lexeme.ofName name])
  rw [map_map] at listed ⊢
  exact listed

/-- A printed statement is that statement. -/
theorem phrased_printed {node : Node} (printable : node.Printable) :
    Phrased States (node.printed wraps) node := by
  induction printable with
  | @declaration value typeHint place name typed valued =>
    obtain ⟨tree, expresses, same⟩ := exists_expression valued
    rw [Node.printed]
    cases typeHint with
    | none =>
      refine Phrased.of_states
        (States.declaration (Or.inl rfl) rfl rfl (untyped_tokens valued) expresses) ?_
      simp only [Node.unplaced, same]
      rfl
    | some word =>
      refine Phrased.of_states
        (States.typedDeclaration (Or.inl rfl) rfl rfl (typed word rfl) expresses) ?_
      simp only [Node.unplaced, same]
      rfl
  | constant place name valued =>
    obtain ⟨tree, expresses, same⟩ := exists_expression valued
    rw [Node.printed]
    refine Phrased.of_states (States.constant rfl rfl rfl rfl expresses) ?_
    simp only [Node.unplaced, same]
    rfl
  | assignment place name valued =>
    obtain ⟨tree, expresses, same⟩ := exists_expression valued
    rw [Node.printed]
    refine Phrased.of_states (States.assignment rfl
      (Expresses.leaf (show (token (.ofName name)).leaf? = some _ from rfl)) rfl expresses rfl) ?_
    simp only [Node.unplaced, same]
    rfl
  | @indexAssignment coll pos value place indexed positioned valued =>
    rcases (phrased_full (.index place indexed positioned)).here with
      ⟨target, targeted, sameTarget⟩
    obtain ⟨tree, expresses, same⟩ := exists_expression valued
    let verb := token (.ofSign .transmute "transmute")
    rcases @assigned_of_unplaced place _ value tree (.index place coll pos) target rfl
      verb.place same sameTarget with ⟨other, assigns, sameOther⟩
    have stated := @States.assignment verb (token (.ofSign .asWord "as")) _ _ target tree other
      rfl targeted rfl expresses assigns
    refine stated.movable.phrased ?_ sameOther
    simp only [map_cons, map_append, map_lexeme_token, Node.printed]
    rfl
  | deletion place name =>
    rw [Node.printed]
    exact Phrased.of_states (States.deletion rfl rfl) rfl
  | @spell body place name params aloud stated ih =>
    obtain ⟨items, braced, itemsStated, same⟩ := braced_of_printed ih
    let word :=
      token (if aloud then .ofSign .incantation "incantation" else .ofSign .spell "spell")
    have isWord : word.kind = if aloud then .incantation else .spell := by cases aloud <;> rfl
    have named : ∀ param ∈ params.map fun name => token (.ofName name),
        param.kind = .identifier := by
      intro param mem
      obtain ⟨name, -, rfl⟩ := mem_map.mp mem
      rfl
    have spellStated := @States.spell word (token (.ofName name))
      (token (.ofSign .leftParen "(")) (token (.ofSign .rightParen ")")) _ _ _ items aloud isWord
      rfl rfl named (listing_of_names params) rfl itemsStated braced
    have names : (params.map fun name => token (.ofName name)).map Token.text =
        params := by
      rw [map_map]
      exact map_id params
    refine spellStated.movable.phrased ?_ ?_
    · simp only [map_cons, map_append, map_lexeme_token, Node.printed]
      rfl
    · simp only [Node.unplaced, Node.unplacedAll_eq_map, names, same]
      rfl
  | bareCast place =>
    rw [Node.printed]
    exact Phrased.of_states (States.bareCast rfl) rfl
  | cast place valued =>
    obtain ⟨tree, expresses, same⟩ := exists_expression valued
    rw [Node.printed]
    refine Phrased.of_states (States.cast rfl expresses) ?_
    simp only [Node.unplaced, Node.unplacedOption, same]
  | conditional place tested stated testedAlso statedAlso statedLast ih ihAlso ihLast =>
    obtain ⟨cond, expresses, sameCondition⟩ := exists_expression tested
    obtain ⟨items, braced, itemsStated, same⟩ := braced_of_printed ih
    rcases alternatives_of_printed testedAlso ihAlso with
      ⟨alts, more, alternativesTested, alternativesStated, sameAlternatives⟩
    obtain ⟨last, final, lastStated, sameLast⟩ := lastResort_of_printed ihLast
    have conditionalStated := @States.conditional (token (.ofSign .prophecy "prophecy"))
      (token (.ofSign .reveals "reveals")) _ _ cond items alts last rfl rfl expresses
      itemsStated braced alternativesTested alternativesStated lastStated
    refine conditionalStated.movable.phrased ?_ ?_
    · simp only [furtherTokens, more, final, map_cons, map_append, map_lexeme_token,
        Node.printed]
      rfl
    · simp only [Node.unplaced, Node.unplacedAll_eq_map, sameCondition, same, sameAlternatives,
        sameLast]
  | patrol place tested stated ih =>
    obtain ⟨cond, expresses, sameCondition⟩ := exists_expression tested
    obtain ⟨items, braced, itemsStated, same⟩ := braced_of_printed ih
    have patrolStated := @States.patrol (token (.ofSign .patrol "patrol"))
      (token (.ofSign .untilWord "until")) _ _ cond items rfl rfl expresses itemsStated
      braced
    refine patrolStated.movable.phrased ?_ ?_
    · simp only [map_cons, map_append, map_lexeme_token, Node.printed]
      rfl
    · simp only [Node.unplaced, Node.unplacedAll_eq_map, sameCondition, same]
  | hunt place name drawn stated ih =>
    obtain ⟨iterable, expresses, sameIterable⟩ := exists_expression drawn
    obtain ⟨items, braced, itemsStated, same⟩ := braced_of_printed ih
    have huntStated := @States.hunt (token (.ofSign .hunt "hunt"))
      (token (.ofSign .each "each")) (token (.ofName name)) (token (.ofSign .inWord "in")) _ _
      iterable items rfl rfl rfl rfl expresses itemsStated braced
    refine huntStated.movable.phrased ?_ ?_
    · simp only [map_cons, map_append, map_lexeme_token, Node.printed]
      rfl
    · simp only [Node.unplaced, Node.unplacedAll_eq_map, sameIterable, same]
      rfl
  | breakLoop place =>
    rw [Node.printed]
    exact Phrased.of_states (States.breakLoop rfl) rfl
  | continueLoop place =>
    rw [Node.printed]
    exact Phrased.of_states (States.continueLoop rfl) rfl
  | expression place valued =>
    obtain ⟨tree, expresses, same⟩ := exists_expression valued
    rw [Node.printed]
    refine Phrased.of_states (States.expression expresses) ?_
    simp only [Node.unplaced, same]

end Grammar

namespace Parser

/--
The parser undoes the printing of programs.  However the tokens of a printed program are placed, and
whether or not collections stand in parentheses, they are read as the program, up to places.
-/
theorem parse_printed {statements : List Node}
    (printable : ∀ statement ∈ statements, statement.Printable) (place : Place) (wraps : Bool)
    {tokens : List Token}
    (spelled : tokens.map Token.lexeme =
      (Node.program place statements).printed wraps ++ [Token.finale]) :
    ∃ tree, parse tokens = .ok tree ∧
      tree.unplaced = (Node.program place statements).unplaced := by
  obtain ⟨lines, finish, rfl, linesSpelled, isFinale⟩ := spelled_snoc spelled
  have isEnd : finish.kind = .endOfFile := kind_of_lexeme isFinale
  have closes : Fresh [finish] := by
    rw [Fresh, map_singleton, isEnd]
    rfl
  rcases @succession_of_printed wraps statements
    (fun statement member => phrased_printed (printable statement member)) finish closes with
    ⟨items, later, stated, same⟩
  rw [Node.printed] at linesSpelled
  rcases later.respelled stated (linesSpelled.trans (map_lexeme_token _).symm) rfl with
    ⟨found, foundSucceeding, copies⟩
  refine ⟨_, foundSucceeding.parses isEnd copies.read [], ?_⟩
  simp only [Node.unplaced, Node.unplacedAll_eq_map, copies.same, same]

/--
A spell whose conditional ends in a bare `cast`, and after it a declaration with a hint and an
assignment to an element.
-/
def sampleProgram : List Node :=
  [.spell .unknown "f" ["x", "y"]
    [.conditional .unknown
      (.binary .unknown (.identifier .unknown "x") .less (.literal .unknown (.rune 0)))
      [.cast .unknown none]
      [(.identifier .unknown "y", [.conditional .unknown (.identifier .unknown "x") [] [] none])]
      none,
      .expression .unknown (.tome .unknown [.identifier .unknown "x"])] true,
    .declaration .unknown "d" (.grimoire .unknown []) (some "grimoire") false,
    .indexAssignment .unknown (.identifier .unknown "d") (.literal .unknown (.scroll "k"))
      (.unary .unknown .negation (.literal .unknown (.rune 1)))]

theorem parse_printed_sample :
    (∀ statement ∈ sampleProgram, statement.Printable) ∧
      ∃ tree, parse (((Node.program .unknown sampleProgram).printed false ++
          [Token.finale]).map token) = .ok tree ∧
        tree.unplaced = (Node.program .unknown sampleProgram).unplaced := by
  have inner : (Node.conditional .unknown (.identifier .unknown "x") [] [] none).Printable :=
    .conditional _ (.identifier _ _) (by simp) (by simp) (by simp) (by simp)
  have printable : ∀ statement ∈ sampleProgram, statement.Printable := by
    simp only [sampleProgram, forall_mem_cons]
    refine ⟨.spell _ _ _ _ ?_, .declaration _ _ ?_ (.grimoire _ (by simp) (by simp)),
      .indexAssignment _ (.identifier _ _) (.literal _ _) (.negation _ (.literal _ _)), by simp⟩
    · simp only [forall_mem_cons]
      refine ⟨.conditional _ ?_ ?_ ?_ ?_ (by simp), .expression _ (.tome _ ?_), by simp⟩
      · exact .binary _ (by decide) (.identifier _ _) (.literal _ _)
      · simpa using Node.Printable.bareCast .unknown
      · simpa using Node.IsExpression.identifier .unknown "y"
      · simpa using inner
      · simpa using Node.IsExpression.identifier .unknown "x"
    · rintro word ⟨⟩
      rfl
  exact ⟨printable, parse_printed printable .unknown false (map_lexeme_token _)⟩

end Parser

end Spellbook
