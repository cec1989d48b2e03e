import Spellbook.Proofs.Grammar.Respelling
import Spellbook.Proofs.Grammar.Tree
import Spellbook.Proofs.Parsing.ExpressionComplete

/-!
# Precedence and associativity

`Node.phrase` spells out an expression with parentheses only where the level of a part requires
them. The parser of expressions undoes this, up to places, if the next token cannot continue an
expression.
-/

namespace Spellbook

open List Grammar

namespace Operator

/-- The level on which an operator stands. -/
def level : Operator → Level
  | disjunction => .disjunction
  | conjunction => .conjunction
  | equal | unequal | greater | less | atLeast | atMost => .comparison
  | add | subtract => .sum
  | multiply | divide | modulo => .product
  | power => .power
  | unknown _ => .atom

/-- The level that the left operand needs.  A power has a tighter one there. -/
def leftLevel : Operator → Level
  | power => .negation
  | op => op.level

/-- The level that the right operand needs.  All operators but the power associate to the left. -/
def rightLevel : Operator → Level
  | power => .power
  | op => op.level.tighter

def kind : Operator → TokenKind
  | add => .plus
  | subtract => .minus
  | multiply => .star
  | divide => .slash
  | modulo => .percent
  | power => .power
  | equal => .isWord
  | unequal => .isntWord
  | greater => .exceeds
  | less => .under
  | atLeast => .atleast
  | atMost => .atmost
  | conjunction => .andWord
  | disjunction => .orWord
  | unknown _ => .comment

def lexeme (op : Operator) : Lexeme := ⟨op.kind, .scroll op.spelling⟩

end Operator

namespace Lexeme

def ofLiteral : Value → Lexeme
  | .void => ⟨.void, .scroll "void"⟩
  | .charm true => ⟨.trueWord, .scroll "true"⟩
  | .charm false => ⟨.falseWord, .scroll "false"⟩
  | .rune int => ⟨.integer, .rune int⟩
  | .potion num birth => ⟨.float, .potion num birth⟩
  | value => ⟨.string, value⟩

def ofName (name : String) : Lexeme := ⟨.identifier, .scroll name⟩

/-- The lexeme of a sign of one character. -/
def ofSign (kind : TokenKind) (sign : String) : Lexeme := ⟨kind, .scroll sign⟩

/-- Lexemes in parentheses. -/
def parenthesised (lexemes : List Lexeme) : List Lexeme :=
  ofSign .leftParen "(" :: (lexemes ++ [ofSign .rightParen ")"])

/-- A phrase of one level where another is wanted: in parentheses if it is too loose. -/
def fitted (wanted own : Level) (phrase : List Lexeme) : List Lexeme :=
  if wanted.rank ≤ own.rank then phrase else parenthesised phrase

/-- Phrases with commas between them. -/
def listed : List (List Lexeme) → List Lexeme
  | [] => []
  | [phrase] => phrase
  | phrase :: phrases => phrase ++ ofSign .comma "," :: listed phrases

end Lexeme

namespace Node

/-- The level of an expression. -/
def level : Node → Level
  | binary _ _ op _ => op.level
  | unary _ .denial _ => .denial
  | unary .. => .negation
  | index .. | call .. | member .. => .application
  | _ => .atom

mutual

/-- The lexemes of an expression, with parentheses only where a part is too loose. -/
@[simp] def phrase : Node → List Lexeme
  | literal _ value => [.ofLiteral value]
  | identifier _ name => [.ofName name]
  | binary _ left op right =>
    Lexeme.fitted op.leftLevel left.level left.phrase ++
      op.lexeme :: Lexeme.fitted op.rightLevel right.level right.phrase
  | unary _ .denial operand =>
    .ofSign .notWord "not" :: Lexeme.fitted .denial operand.level operand.phrase
  | unary _ _ operand =>
    .ofSign .minus "-" :: Lexeme.fitted .negation operand.level operand.phrase
  | tome _ elems =>
    .ofSign .leftBracket "[" :: (Lexeme.listed (phrases elems) ++ [.ofSign .rightBracket "]"])
  | grimoire _ pairs =>
    .ofSign .leftBrace "\x7b" :: (Lexeme.listed (pairPhrases pairs) ++ [.ofSign .rightBrace "\x7d"])
  | index _ coll pos =>
    Lexeme.fitted .application coll.level coll.phrase ++
      .ofSign .leftBracket "[" :: (pos.phrase ++ [.ofSign .rightBracket "]"])
  | call _ callee args =>
    Lexeme.fitted .application callee.level callee.phrase ++
      .ofSign .leftParen "(" :: (Lexeme.listed (phrases args) ++ [.ofSign .rightParen ")"])
  | member _ object name =>
    Lexeme.fitted .application object.level object.phrase ++ [.ofSign .dot ".", .ofName name]
  | _ => []

@[simp] def phrases : List Node → List (List Lexeme)
  | [] => []
  | node :: nodes => node.phrase :: phrases nodes

@[simp] def pairPhrases : List (Node × Node) → List (List Lexeme)
  | [] => []
  | (key, value) :: pairs =>
    (key.phrase ++ .ofSign .colon ":" :: value.phrase) :: pairPhrases pairs

end

end Node

namespace Grammar

/-! ## Putting phrases together -/

section Phrased

variable {own : Level} {lexemes : List Lexeme} {node : Node}

theorem Phrased.loosenTo {wanted : Level} (fits : wanted.rank ≤ own.rank)
    (phrased : Phrased (Expresses own) lexemes node) :
    Phrased (Expresses wanted) lexemes node := by
  intro tokens spelled
  obtain ⟨tree, expresses, same⟩ := phrased tokens spelled
  exact ⟨tree, expresses.loosenTo fits, same⟩

theorem Phrased.loosest (phrased : Phrased (Expresses own) lexemes node) :
    Phrased (Expresses .disjunction) lexemes node :=
  phrased.loosenTo own.rank_pos

theorem Phrased.tight (phrased : Phrased (Expresses .atom) lexemes node) (wanted : Level) :
    Phrased (Expresses wanted) lexemes node := by
  apply phrased.loosenTo
  cases wanted <;> decide

theorem Phrased.parenthesised (phrased : Phrased (Expresses own) lexemes node) :
    Phrased (Expresses .atom) (Lexeme.parenthesised lexemes) node := by
  obtain ⟨tree, inside, same⟩ := phrased.loosest.here
  refine .of_expresses ?_ same
  rw [Lexeme.parenthesised, map_cons, map_append]
  exact .group rfl inside rfl

theorem Phrased.fitted (phrased : Phrased (Expresses own) lexemes node) (wanted : Level) :
    Phrased (Expresses wanted) (Lexeme.fitted wanted own lexemes) node := by
  unfold Lexeme.fitted
  split
  case isTrue fits => exact phrased.loosenTo fits
  case isFalse => exact phrased.parenthesised.tight wanted

end Phrased

theorem Phrased.literal (place : Place) (value : Value) :
    Phrased (Expresses .atom) [Lexeme.ofLiteral value] (.literal place value) := by
  have isLeaf : (token (Lexeme.ofLiteral value)).leaf? = some (.literal (.known 0 0) value) := by
    cases value with
    | charm truth => cases truth <;> rfl
    | _ => rfl
  exact .of_expresses (.leaf isLeaf) rfl

theorem Phrased.identifier (place : Place) (name : String) :
    Phrased (Expresses .atom) [Lexeme.ofName name] (.identifier place name) :=
  .of_expresses (.leaf (show (token (Lexeme.ofName name)).leaf? = some _ from rfl)) rfl

theorem operator_of_kind {op : Operator} (known : op ∈ Operator.all) (notPower : op ≠ .power) :
    op.level.operator? op.kind = some op := by
  cases op with
  | power => exact absurd rfl notPower
  | unknown spelling => simp [Operator.all] at known
  | _ => rfl

theorem Phrased.binary {left right : Node} {leftLexemes rightLexemes : List Lexeme}
    {op : Operator} (place : Place) (known : op ∈ Operator.all)
    (leftPhrased : Phrased (Expresses op.leftLevel) leftLexemes left)
    (rightPhrased : Phrased (Expresses op.rightLevel) rightLexemes right) :
    Phrased (Expresses op.level) (leftLexemes ++ op.lexeme :: rightLexemes)
      (.binary place left op right) := by
  obtain ⟨leftTree, leftSide, sameLeft⟩ := leftPhrased.here
  obtain ⟨rightTree, rightSide, sameRight⟩ := rightPhrased.here
  have same : (Node.binary leftTree.place leftTree op rightTree).unplaced =
      (Node.binary place left op right).unplaced := by
    simp only [Node.unplaced, sameLeft, sameRight]
  refine .of_expresses ?_ same
  rw [map_append, map_cons]
  by_cases isPower : op = .power
  · subst isPower
    exact .power leftSide rfl rightSide
  · have leftLevel : op.leftLevel = op.level := by
      cases op <;> first | rfl | exact absurd rfl isPower
    have rightLevel : op.rightLevel = op.level.tighter := by
      cases op <;> first | rfl | exact absurd rfl isPower
    rw [leftLevel] at leftSide
    rw [rightLevel] at rightSide
    exact .join leftSide (operator_of_kind known isPower) rightSide

section Operand

variable {operand : Node} {lexemes : List Lexeme}

theorem Phrased.denial (place : Place) (phrased : Phrased (Expresses .denial) lexemes operand) :
    Phrased (Expresses .denial) (.ofSign .notWord "not" :: lexemes)
      (.unary place .denial operand) := by
  obtain ⟨tree, expresses, same⟩ := phrased.here
  refine .of_expresses (.deny rfl expresses) ?_
  simp only [Node.unplaced, same]

theorem Phrased.negation (place : Place) (phrased : Phrased (Expresses .negation) lexemes operand) :
    Phrased (Expresses .negation) (.ofSign .minus "-" :: lexemes)
      (.unary place .negation operand) := by
  obtain ⟨tree, expresses, same⟩ := phrased.here
  refine .of_expresses (.negate rfl expresses) ?_
  simp only [Node.unplaced, same]

theorem Phrased.member (place : Place) (name : String)
    (phrased : Phrased (Expresses .application) lexemes operand) :
    Phrased (Expresses .application) (lexemes ++ [.ofSign .dot ".", .ofName name])
      (.member place operand name) := by
  obtain ⟨tree, expresses, same⟩ := phrased.here
  have alike : (Node.member tree.place tree name).unplaced =
      (Node.member place operand name).unplaced := by
    simp only [Node.unplaced, same]
  refine .of_expresses ?_ alike
  rw [map_append]
  exact .member expresses rfl rfl

theorem Phrased.index {pos : Node} {positionLexemes : List Lexeme} (place : Place)
    (indexed : Phrased (Expresses .application) lexemes operand)
    (positioned : Phrased (Expresses .disjunction) positionLexemes pos) :
    Phrased (Expresses .application)
      (lexemes ++ .ofSign .leftBracket "[" :: (positionLexemes ++ [.ofSign .rightBracket "]"]))
      (.index place operand pos) := by
  obtain ⟨tree, expresses, same⟩ := indexed.here
  obtain ⟨inner, inside, innerSame⟩ := positioned.here
  have alike : (Node.index tree.place tree inner).unplaced =
      (Node.index place operand pos).unplaced := by
    simp only [Node.unplaced, same, innerSame]
  refine .of_expresses ?_ alike
  simp only [map_append, map_cons]
  exact .index expresses rfl inside rfl

end Operand

/-! ## Phrases with commas between them -/

theorem separated_listed (phrase : List Lexeme) (phrases : List (List Lexeme)) :
    Separated ((phrase :: phrases).map (List.map token))
      ((Lexeme.listed (phrase :: phrases)).map token) := by
  induction phrases generalizing phrase with
  | nil => exact .single _
  | cons second others ih =>
    rw [Lexeme.listed, map_append, map_cons, map_cons]
    · exact .comma rfl (ih second)
    · intro impossible
      cases impossible

theorem listing_listed (trailingComma : Bool) (phrases : List (List Lexeme)) :
    Listing trailingComma (phrases.map (List.map token)) ((Lexeme.listed phrases).map token) := by
  cases phrases with
  | nil => exact .empty
  | cons phrase others => exact .plain (separated_listed phrase others)

/-- Parts one by one, each with what is found for it. -/
theorem exists_parts {α β γ δ : Type} {spell : α → δ} {key : α → γ} {parts : List α}
    {spellFound : β → δ} {fine : β → Prop} {keyFound : β → γ}
    (each : ∀ part ∈ parts,
      ∃ found, spellFound found = spell part ∧ fine found ∧ keyFound found = key part) :
    ∃ found : List β, found.map spellFound = parts.map spell ∧ (∀ part ∈ found, fine part) ∧
      found.map keyFound = parts.map key := by
  induction parts with
  | nil => exact ⟨[], rfl, fun _ mem => absurd mem not_mem_nil, rfl⟩
  | cons part parts ih =>
    obtain ⟨⟨first, spelled, isFine, same⟩, others⟩ := forall_mem_cons.mp each
    obtain ⟨found, foundSpelled, areFine, foundSame⟩ := ih others
    refine ⟨first :: found, ?_, forall_mem_cons.mpr ⟨isFine, areFine⟩, ?_⟩
    · rw [map_cons, map_cons, spelled, foundSpelled]
    · rw [map_cons, map_cons, same, foundSame]

/-- Phrases one by one, each with the node that it says. -/
theorem items_of_phrases {reading : List Token → Node → Prop} {phrases : List (List Lexeme × Node)}
    (phrased : ∀ phrase ∈ phrases, Phrased reading phrase.1 phrase.2) :
    ∃ items : List Item, items.map Prod.fst = (phrases.map Prod.fst).map (List.map token) ∧
      (∀ item ∈ items, reading item.1 item.2) ∧
        (items.map Prod.snd).map Node.unplaced = (phrases.map Prod.snd).map Node.unplaced := by
  simp only [map_map]
  apply exists_parts
  intro phrase mem
  obtain ⟨tree, read, same⟩ := (phrased phrase mem).here
  exact ⟨(_, tree), rfl, read, same⟩

/-! ## Collections -/

/-- However its tokens are placed, the heading opens a collection. -/
def Opens (word bracket : TokenKind) (heading : List Lexeme) : Prop :=
  ∀ tokens : List Token, tokens.map Token.lexeme = heading →
    ∃ place, Opening word bracket tokens place

theorem Opens.bare {word bracket : TokenKind} (sign : String) :
    Opens word bracket [.ofSign bracket sign] := by
  intro tokens spelled
  obtain ⟨opening, rfl, isOpening⟩ := map_eq_singleton_iff.mp spelled
  exact ⟨_, Opening.bare (kind_of_lexeme isOpening)⟩

theorem Opens.named {word bracket : TokenKind} (name sign : String) :
    Opens word bracket [.ofSign word name, .ofSign bracket sign] := by
  intro tokens spelled
  obtain ⟨first, rest, rfl, isFirst, restSpelled⟩ := map_eq_cons_iff.mp spelled
  obtain ⟨opening, rfl, isOpening⟩ := map_eq_singleton_iff.mp restSpelled
  exact ⟨_, Opening.named (kind_of_lexeme isFirst) (kind_of_lexeme isOpening)⟩

/-- A key and a value with a colon between them, as lexemes and as nodes. -/
structure EntryPhrase where
  key : List Lexeme × Node
  colon : Lexeme
  value : List Lexeme × Node

def EntryPhrase.lexemes (phrase : EntryPhrase) : List Lexeme :=
  phrase.key.1 ++ phrase.colon :: phrase.value.1

/-- A key and a value with the usual colon between them. -/
def EntryPhrase.withColon (key value : List Lexeme × Node) : EntryPhrase :=
  ⟨key, Lexeme.ofSign .colon ":", value⟩

theorem Phrased.headedTome {heading : List Lexeme} {phrases : List (List Lexeme × Node)}
    (place : Place) (opens : Opens .tome .leftBracket heading)
    (phrased : ∀ phrase ∈ phrases, Phrased (Expresses .disjunction) phrase.1 phrase.2) :
    Phrased (Expresses .atom)
      (heading ++ (Lexeme.listed (phrases.map Prod.fst) ++ [.ofSign .rightBracket "]"]))
      (.tome place (phrases.map Prod.snd)) := by
  obtain ⟨start, opened⟩ := opens _ (map_lexeme_token heading)
  obtain ⟨items, parts, express, same⟩ := items_of_phrases phrased
  have alike : (Node.tome start (items.map Prod.snd)).unplaced =
      (Node.tome place (phrases.map Prod.snd)).unplaced := by
    simp only [Node.unplaced, Node.unplacedAll_eq_map, same]
  refine .of_expresses ?_ alike
  simp only [map_append]
  exact .tome opened express (parts ▸ listing_listed true _) rfl

theorem Phrased.headedGrimoire {heading : List Lexeme} {phrases : List EntryPhrase} (place : Place)
    (opens : Opens .grimoire .leftBrace heading)
    (keys : ∀ phrase ∈ phrases, Phrased (Expresses .disjunction) phrase.key.1 phrase.key.2)
    (colons : ∀ phrase ∈ phrases, phrase.colon.kind = .colon)
    (values : ∀ phrase ∈ phrases, Phrased (Expresses .disjunction) phrase.value.1 phrase.value.2) :
    Phrased (Expresses .atom)
      (heading ++ (Lexeme.listed (phrases.map EntryPhrase.lexemes) ++ [.ofSign .rightBrace "\x7d"]))
      (.grimoire place (phrases.map fun phrase => (phrase.key.2, phrase.value.2))) := by
  obtain ⟨start, opened⟩ := opens _ (map_lexeme_token heading)
  have each : ∀ phrase ∈ phrases, ∃ found : Entry,
      found.tokens = phrase.lexemes.map token ∧
        (Expresses .disjunction found.key.1 found.key.2 ∧ found.colon.kind = .colon ∧
          Expresses .disjunction found.value.1 found.value.2) ∧
          (found.pair.1.unplaced, found.pair.2.unplaced) =
            (phrase.key.2.unplaced, phrase.value.2.unplaced) := by
    intro phrase mem
    obtain ⟨key, keySpelled, keySame⟩ := (keys phrase mem).here
    obtain ⟨value, valueSpelled, valueSame⟩ := (values phrase mem).here
    refine ⟨⟨(_, key), token phrase.colon, (_, value)⟩, ?_,
      ⟨keySpelled, colons phrase mem, valueSpelled⟩, congrArg₂ Prod.mk keySame valueSame⟩
    rw [EntryPhrase.lexemes, map_append, map_cons, Entry.tokens]
  obtain ⟨entries, parts, fine, same⟩ := exists_parts each
  have alike : (Node.grimoire start (entries.map Entry.pair)).unplaced =
      (Node.grimoire place
        (phrases.map fun phrase => (phrase.key.2, phrase.value.2))).unplaced := by
    simp only [Node.unplaced, Node.unplacedPairs_eq_map, map_map]
    exact congrArg (Node.grimoire _) same
  have listed := listing_listed true (phrases.map EntryPhrase.lexemes)
  rw [map_map] at listed
  refine .of_expresses ?_ alike
  simp only [map_append]
  exact .grimoire opened (fun entry mem => (fine entry mem).1)
    (fun entry mem => (fine entry mem).2.1) (fun entry mem => (fine entry mem).2.2)
    (parts ▸ listed) rfl

section Printer

variable {phrase : Node → List Lexeme}

/-- The phrases of nodes, each with the node that it says. -/
theorem items_of_nodes {reading : List Token → Node → Prop} {nodes : List Node}
    (phrased : ∀ node ∈ nodes, Phrased reading (phrase node) node) :
    ∃ items : List Item, items.map Prod.fst = (nodes.map phrase).map (List.map token) ∧
      (∀ item ∈ items, reading item.1 item.2) ∧
        (items.map Prod.snd).map Node.unplaced = nodes.map Node.unplaced := by
  have all : ∀ pair ∈ nodes.map fun node => (phrase node, node), Phrased reading pair.1 pair.2 :=
    forall_mem_map.mpr phrased
  have items := items_of_phrases all
  simp only [map_map] at items ⊢
  exact items

def pairLexemes (phrase : Node → List Lexeme) (pair : Node × Node) : List Lexeme :=
  phrase pair.1 ++ Lexeme.ofSign .colon ":" :: phrase pair.2

theorem Phrased.tome {elems : List Node} (place : Place)
    (phrased : ∀ element ∈ elems, Phrased (Expresses .disjunction) (phrase element) element) :
    Phrased (Expresses .atom)
      (.ofSign .leftBracket "[" ::
        (Lexeme.listed (elems.map phrase) ++ [.ofSign .rightBracket "]"]))
      (.tome place elems) := by
  have headed := @Phrased.headedTome _ (elems.map fun element => (phrase element, element)) place
    (.bare "[") (forall_mem_map.mpr phrased)
  have nodes : (elems.map fun element => (phrase element, element)).map Prod.snd = elems := by
    rw [map_map]
    exact map_id elems
  rw [nodes, map_map] at headed
  exact headed

theorem Phrased.grimoire {pairs : List (Node × Node)} (place : Place)
    (keys : ∀ pair ∈ pairs, Phrased (Expresses .disjunction) (phrase pair.1) pair.1)
    (values : ∀ pair ∈ pairs, Phrased (Expresses .disjunction) (phrase pair.2) pair.2) :
    Phrased (Expresses .atom)
      (.ofSign .leftBrace "\x7b" ::
        (Lexeme.listed (pairs.map (pairLexemes phrase)) ++ [.ofSign .rightBrace "\x7d"]))
      (.grimoire place pairs) := by
  let entry (pair : Node × Node) :=
    EntryPhrase.withColon (phrase pair.1, pair.1) (phrase pair.2, pair.2)
  have headed := @Phrased.headedGrimoire _ (pairs.map entry) place (.bare "\x7b")
    (forall_mem_map.mpr keys) (forall_mem_map.mpr fun _ _ => rfl)
    (forall_mem_map.mpr values)
  have nodes : (pairs.map entry).map (fun phrase => (phrase.key.2, phrase.value.2)) = pairs := by
    rw [map_map]
    exact map_id pairs
  rw [nodes, map_map] at headed
  exact headed

theorem Phrased.call {callee : Node} {args : List Node} {lexemes : List Lexeme}
    (place : Place) (called : Phrased (Expresses .application) lexemes callee)
    (phrased : ∀ arg ∈ args, Phrased (Expresses .disjunction) (phrase arg) arg) :
    Phrased (Expresses .application)
      (lexemes ++ .ofSign .leftParen "(" ::
        (Lexeme.listed (args.map phrase) ++ [.ofSign .rightParen ")"]))
      (.call place callee args) := by
  obtain ⟨tree, expresses, treeSame⟩ := called.here
  obtain ⟨items, parts, express, same⟩ := items_of_nodes phrased
  have alike : (Node.call tree.place tree (items.map Prod.snd)).unplaced =
      (Node.call place callee args).unplaced := by
    simp only [Node.unplaced, Node.unplacedAll_eq_map, treeSame, same]
  refine .of_expresses ?_ alike
  simp only [map_append, map_cons]
  exact .call expresses rfl express (parts ▸ listing_listed false _) rfl

end Printer

/-! ## Phrases are expressions -/

theorem phrases_eq_map (elems : List Node) :
    Node.phrases elems = elems.map Node.phrase := by
  induction elems with
  | nil => rfl
  | cons element elems ih => simp [ih]

theorem pairPhrases_eq_map (pairs : List (Node × Node)) :
    Node.pairPhrases pairs = pairs.map (pairLexemes Node.phrase) := by
  induction pairs with
  | nil => rfl
  | cons pair pairs ih =>
    rw [Node.pairPhrases, ih]
    rfl

/-- The phrase of an expression is that expression, on its own level. -/
theorem phrased_of_isExpression {node : Node} (isExpression : node.IsExpression) :
    Phrased (Expresses node.level) node.phrase node := by
  induction isExpression with
  | literal place value =>
    rw [Node.phrase]
    exact Phrased.literal place value
  | identifier place name =>
    rw [Node.phrase]
    exact Phrased.identifier place name
  | binary place known leftSide rightSide leftPhrased rightPhrased =>
    rw [Node.phrase]
    exact Phrased.binary place known (leftPhrased.fitted _) (rightPhrased.fitted _)
  | denial place inner ih =>
    rw [Node.phrase]
    exact Phrased.denial place (ih.fitted _)
  | negation place inner ih =>
    simp only [Node.phrase]
    exact Phrased.negation place (ih.fitted _)
  | tome place all ih =>
    rw [Node.phrase, phrases_eq_map]
    exact Phrased.tome place fun element mem => (ih element mem).loosest
  | grimoire place keys values keysPhrased valuesPhrased =>
    rw [Node.phrase, pairPhrases_eq_map]
    exact Phrased.grimoire place (fun pair mem => (keysPhrased pair mem).loosest)
      fun pair mem => (valuesPhrased pair mem).loosest
  | index place indexed positioned indexedPhrased positionPhrased =>
    rw [Node.phrase]
    exact Phrased.index place (indexedPhrased.fitted _) positionPhrased.loosest
  | call place called all calledPhrased argumentsPhrased =>
    rw [Node.phrase, phrases_eq_map]
    exact Phrased.call place (calledPhrased.fitted _)
      fun arg mem => (argumentsPhrased arg mem).loosest
  | member place inner name ih =>
    rw [Node.phrase]
    exact Phrased.member place name (ih.fitted _)

end Grammar

namespace Parser

/--
The parser of expressions undoes the printing of phrases.  However the tokens of a phrase are
placed, and whatever follows after a token that cannot continue an expression, the phrase is read
as the tree it was made from, up to places, and nothing else is taken.
-/
theorem expression_of_phrase {node : Node} (isExpression : node.IsExpression)
    {tokens : List Token} (spelled : tokens.map Token.lexeme = node.phrase)
    {next : Token} (cannotContinue : next.kind.binding = 0) (rest : List Token)
    {fuel : Nat} (enough : tokens.length < fuel) :
    ∃ tree, expression fuel (tokens ++ next :: rest) = .ok (tree, next :: rest) ∧
      tree.unplaced = node.unplaced := by
  obtain ⟨tree, expresses, same⟩ := phrased_of_isExpression isExpression tokens spelled
  have loosest : Level.disjunction.rank ≤ node.level.rank := node.level.rank_pos
  exact ⟨tree, (expresses.loosenTo loosest).parses enough cannotContinue rest, same⟩

/--
The minus sign binds tighter than the power, whose right side has to be put in parentheses if it is
a difference; so has the right side of a difference.
-/
def minusPowerDifference : Node :=
  .binary .unknown (.unary .unknown .negation (.identifier .unknown "x")) .power
    (.binary .unknown (.identifier .unknown "a") .subtract
      (.binary .unknown (.identifier .unknown "b") .subtract (.literal .unknown (.rune 7))))

theorem expression_of_phrase_minusPowerDifference :
    minusPowerDifference.phrase.map Lexeme.kind =
        [.minus, .identifier, .power, .leftParen, .identifier, .minus, .leftParen, .identifier,
          .minus, .integer, .rightParen, .rightParen] ∧
      ∃ tree,
        expression 13
            (minusPowerDifference.phrase.map (fun lexeme => ⟨lexeme.kind, lexeme.value, 1, 1⟩) ++
              [⟨.newline, .scroll "\n", 1, 2⟩, ⟨.endOfFile, .scroll "", 2, 1⟩]) =
          .ok (tree, [⟨.newline, .scroll "\n", 1, 2⟩, ⟨.endOfFile, .scroll "", 2, 1⟩]) ∧
        tree.unplaced = minusPowerDifference.unplaced := by
  refine ⟨rfl, expression_of_phrase ?_ rfl rfl _ (by decide)⟩
  exact .binary _ (by decide) (.negation _ (.identifier _ _))
    (.binary _ (by decide) (.identifier _ _)
      (.binary _ (by decide) (.identifier _ _) (.literal _ _)))

end Parser

end Spellbook
