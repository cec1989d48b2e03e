import Spellbook.Proofs.Grammar.Balance
import Spellbook.Proofs.Grammar.Place

/-!
# What a tree tells of its tokens

A tree does not determine the tokens that spell it out, but it does determine how many literals,
names, minus signs, square brackets and braces there are. This number is the weight of the tokens
and of the tree, for expressions and for statements without blocks.
-/

namespace Spellbook

open List

/-- One for tokens of which a tree determines the number, zero for the others. -/
def TokenKind.weight : TokenKind → Nat
  | integer | float | string | trueWord | falseWord | void | identifier | minus | leftBracket
  | leftBrace => 1
  | _ => 0

def Operator.weight : Operator → Nat
  | subtract => 1
  | _ => 0

def UnaryOperator.weight : UnaryOperator → Nat
  | negation => 1
  | _ => 0

namespace Node

mutual

/-- The weight of the tokens of an expression or of a statement without blocks. -/
def weight : Node → Nat
  | literal .. | identifier .. => 1
  | binary _ left op right => left.weight + op.weight + right.weight
  | unary _ op operand => op.weight + operand.weight
  | tome _ elems => 1 + weightAll elems
  | grimoire _ pairs => 1 + weightPairs pairs
  | index _ coll pos => coll.weight + 1 + pos.weight
  | call _ callee args => callee.weight + weightAll args
  | member _ object _ => object.weight + 1
  | declaration _ _ value _ _ | assignment _ _ value => 1 + value.weight
  | indexAssignment _ coll pos value =>
    coll.weight + 1 + pos.weight + value.weight
  | cast _ (some value) => value.weight
  | expression _ value => value.weight
  | _ => 0

def weightAll : List Node → Nat
  | [] => 0
  | node :: nodes => node.weight + weightAll nodes

def weightPairs : List (Node × Node) → Nat
  | [] => 0
  | (first, second) :: pairs => first.weight + second.weight + weightPairs pairs

end

end Node

namespace Grammar

variable {parts : List (List Token)} {tokens : List Token} {level : Level} {kind : TokenKind}
  {token : Token} {node : Node}

def weight : List Token → Nat
  | [] => 0
  | token :: tokens => token.kind.weight + weight tokens

theorem weight_nil : weight [] = 0 := rfl

theorem weight_cons (token : Token) (tokens : List Token) :
    weight (token :: tokens) = token.kind.weight + weight tokens := rfl

theorem weight_append (first second : List Token) :
    weight (first ++ second) = weight first + weight second := by
  induction first with
  | nil => exact (Nat.zero_add _).symm
  | cons token first ih => rw [cons_append, weight_cons, weight_cons, ih, Nat.add_assoc]

/-- Commas have no weight. -/
theorem Separated.weight (separated : Separated parts tokens) :
    Grammar.weight tokens = Grammar.weight parts.flatten := by
  induction separated with
  | single part => rw [flatten_singleton]
  | comma isComma others ih =>
    rw [weight_append, weight_cons, isComma, ih, flatten_cons, weight_append]
    exact congrArg (_ + ·) (Nat.zero_add _)

theorem Listing.weight {trailingComma : Bool} (listed : Listing trailingComma parts tokens) :
    Grammar.weight tokens = Grammar.weight parts.flatten := by
  cases listed with
  | empty => rfl
  | plain separated => exact separated.weight
  | trailing allowed separated isComma =>
    rw [weight_append, weight_cons, isComma, separated.weight]
    rfl

theorem weight_of_items {items : List Item}
    (same : ∀ item ∈ items, weight item.1 = item.2.unplaced.weight) :
    weight (items.map Prod.fst).flatten =
      Node.weightAll (Node.unplacedAll (items.map Prod.snd)) := by
  induction items with
  | nil => rfl
  | cons item items ih =>
    rw [map_cons, flatten_cons, weight_append, map_cons, Node.unplacedAll,
      Node.weightAll, same item mem_cons_self, ih (forall_mem_cons.mp same).2]

theorem weight_of_entries {entries : List Entry}
    (keys : ∀ entry ∈ entries, weight entry.key.1 = entry.key.2.unplaced.weight)
    (colons : ∀ entry ∈ entries, entry.colon.kind = .colon)
    (values : ∀ entry ∈ entries, weight entry.value.1 = entry.value.2.unplaced.weight) :
    weight (entries.map Entry.tokens).flatten =
      Node.weightPairs (Node.unplacedPairs (entries.map Entry.pair)) := by
  induction entries with
  | nil => rfl
  | cons entry entries ih =>
    have further := ih (forall_mem_cons.mp keys).2
      (forall_mem_cons.mp colons).2
      (forall_mem_cons.mp values).2
    have light : entry.colon.kind.weight = 0 := by
      rw [colons entry mem_cons_self]
      rfl
    rw [map_cons, flatten_cons, weight_append, further, map_cons, Entry.tokens,
      Entry.pair, Node.unplacedPairs, Node.weightPairs, weight_append, weight_cons,
      keys entry mem_cons_self, values entry mem_cons_self, light, Nat.zero_add]

theorem weight_of_operator {op : Operator} (isOperator : level.operator? kind = some op) :
    kind.weight = op.weight := by
  cases level <;> cases kind <;> cases isOperator <;> rfl

theorem weight_of_leaf (isLeaf : token.leaf? = some node) :
    token.kind.weight = 1 ∧ node.unplaced.weight = 1 := by
  unfold Token.leaf? at isLeaf
  split at isLeaf
  all_goals first
    | (cases isLeaf; simp only [*]; exact ⟨rfl, rfl⟩)
    | cases isLeaf

theorem weight_of_annotated {word : Token} {value : Value}
    (isLiteral : word.annotated? token = some value) :
    word.kind.weight = 0 ∧ token.kind.weight = 1 := by
  unfold Token.annotated? at isLiteral
  split at isLiteral
  all_goals first
    | (simp only [*]; exact ⟨rfl, rfl⟩)
    | cases isLiteral

theorem Opening.weight {word bracket : TokenKind} (light : word.weight = 0)
    (heavy : bracket.weight = 1) {heading : List Token} {place : Place}
    (opened : Opening word bracket heading place) : Grammar.weight heading = 1 := by
  cases opened with
  | bare isBracket =>
    rw [weight_cons, isBracket, heavy]
    rfl
  | named isWord isBracket =>
    rw [weight_cons, weight_cons, isWord, isBracket, light, heavy]
    rfl

/-- The tokens of an expression have the weight of its tree, and places do not count. -/
theorem Expresses.weight (spelled : Expresses level tokens node) :
    Grammar.weight tokens = node.unplaced.weight := by
  induction spelled with
  | loosen inner ih => exact ih
  | join leftSide isOperator rightSide leftIh rightIh =>
    rw [weight_append, weight_cons, leftIh, rightIh, weight_of_operator isOperator, Node.unplaced,
      Node.weight]
    omega
  | power leftSide isPower rightSide leftIh rightIh =>
    rw [weight_append, weight_cons, leftIh, rightIh, isPower, Node.unplaced, Node.weight,
      Nat.add_assoc]
    rfl
  | deny isNot inner ih =>
    rw [weight_cons, ih, isNot]
    rfl
  | negate isMinus inner ih =>
    rw [weight_cons, ih, isMinus]
    rfl
  | @call callee inner opening closing calleeNode items called isOpening args listed isClosing
      calledIh argumentsIh =>
    rw [weight_append, weight_cons, weight_append, weight_cons, listed.weight,
      weight_of_items argumentsIh, calledIh, isOpening, isClosing, Node.unplaced, Node.weight]
    simp [TokenKind.weight, weight_nil]
  | index indexed isOpening positioned isClosing indexedIh positionIh =>
    rw [weight_append, weight_cons, weight_append, weight_cons, indexedIh, positionIh, isOpening,
      isClosing, Node.unplaced, Node.weight]
    simp [TokenKind.weight, weight_nil]
    omega
  | member inner isDot isName ih =>
    rw [weight_append, weight_cons, weight_cons, ih, isDot, isName]
    rfl
  | leaf isLeaf =>
    obtain ⟨heavy, same⟩ := weight_of_leaf isLeaf
    rw [weight_cons, heavy, same]
    rfl
  | annotated isLiteral =>
    obtain ⟨light, heavy⟩ := weight_of_annotated isLiteral
    rw [weight_cons, weight_cons, light, heavy]
    rfl
  | @tome heading inner closing place items opened elements listed isClosing ih =>
    rw [weight_append, weight_append, weight_cons, opened.weight rfl rfl, listed.weight,
      weight_of_items ih, isClosing, Node.unplaced, Node.weight]
    simp [TokenKind.weight, weight_nil]
  | @grimoire heading inner closing place entries opened keys colons values listed isClosing keysIh
      valuesIh =>
    rw [weight_append, weight_append, weight_cons, opened.weight rfl rfl, listed.weight,
      weight_of_entries keysIh colons valuesIh, isClosing, Node.unplaced, Node.weight]
    simp [TokenKind.weight, weight_nil]
  | group isOpening inside isClosing ih =>
    rw [weight_cons, weight_append, weight_cons, ih, isOpening, isClosing]
    simp [TokenKind.weight, weight_nil]

theorem weight_of_typeWord (isType : Parser.isTypeWord kind = true) : kind.weight = 0 := by
  revert isType
  cases kind <;> decide

/-- The tokens of a statement that ends with a value have the weight of its tree. -/
theorem States.weight (stated : States tokens node) (ends : node.ending = .value) :
    Grammar.weight tokens = node.unplaced.weight := by
  have verbLight : ∀ {verb : Token}, verb.kind = .conjure ∨ verb.kind = .summon →
      verb.kind.weight = 0 := by
    rintro verb (isVerb | isVerb) <;> rw [isVerb] <;> rfl
  cases stated with
  | declaration isVerb isName isAs untyped valued =>
    rw [weight_cons, weight_cons, weight_cons, verbLight isVerb, isName, isAs, valued.weight]
    simp [TokenKind.weight, Node.unplaced, Node.weight]
  | typedDeclaration isVerb isName isAs isType valued =>
    rw [weight_cons, weight_cons, weight_cons, weight_cons, verbLight isVerb, isName, isAs,
      weight_of_typeWord isType, valued.weight]
    simp [TokenKind.weight, Node.unplaced, Node.weight]
  | constant isConst isProphecy isName isAs valued =>
    rw [weight_cons, weight_cons, weight_cons, weight_cons, isConst, isProphecy, isName, isAs,
      valued.weight]
    simp [TokenKind.weight, Node.unplaced, Node.weight]
  | @assignment verb preposition target value targetNode valueNode node isVerb targeted isAs valued
      assigns =>
    rw [weight_cons, weight_append, weight_cons, isVerb, isAs, targeted.weight, valued.weight]
    cases targetNode with
    | identifier =>
      cases assigns
      simp [TokenKind.weight, Node.unplaced, Node.weight]
    | index =>
      cases assigns
      simp [TokenKind.weight, Node.unplaced, Node.weight]
    | _ => cases assigns
  | cast isCast valued =>
    rw [weight_cons, isCast, valued.weight]
    simp [TokenKind.weight, Node.unplaced, Node.weight]
  | expression valued => exact valued.weight
  | @conditional _ _ _ _ _ _ _ last => cases last <;> cases ends
  | _ => cases ends

/-! ## The first tokens of an expression -/

/-- Tokens after some that have no weight and close no bracket. -/
inductive Leads : List Token → Prop where
  | heavy {token : Token} {tokens : List Token} (weighs : token.kind.weight = 1) :
      Leads (token :: tokens)
  | light {token : Token} {tokens : List Token} (notClosing : token.kind.closes = false)
      (others : Leads tokens) :
      Leads (token :: tokens)

theorem Leads.append (leads : Leads tokens) (rest : List Token) : Leads (tokens ++ rest) := by
  induction leads with
  | heavy weighs => exact Leads.heavy weighs
  | light notClosing others ih => exact Leads.light notClosing ih

/-- An expression has a token with weight before any bracket that it closes. -/
theorem Expresses.leads (spelled : Expresses level tokens node) : Leads tokens := by
  have opened : ∀ {word bracket : TokenKind} {heading : List Token} {place : Place},
      Opening word bracket heading place → word.closes = false → bracket.weight = 1 →
        Leads heading := by
    intro word bracket heading place opened notClosing weighs
    cases opened with
    | bare isBracket => exact Leads.heavy (isBracket ▸ weighs)
    | named isWord isBracket =>
      exact Leads.light (isWord ▸ notClosing) (Leads.heavy (isBracket ▸ weighs))
  induction spelled with
  | loosen inner ih => exact ih
  | join leftSide isOperator rightSide ih => exact ih.append _
  | power leftSide isPower rightSide ih => exact ih.append _
  | call called isOpening args listed isClosing ih => exact ih.append _
  | index indexed isOpening positioned isClosing ih => exact ih.append _
  | member inner isDot isName ih => exact ih.append _
  | deny isNot inner ih => exact Leads.light (by rw [isNot]; rfl) ih
  | negate isMinus inner ih => exact Leads.heavy (by rw [isMinus]; rfl)
  | leaf isLeaf => exact Leads.heavy (weight_of_leaf isLeaf).1
  | annotated isLiteral =>
    refine Leads.light ?_ (Leads.heavy (weight_of_annotated isLiteral).2)
    have flat := (isFlat_of_annotated isLiteral).1
    simp only [TokenKind.isFlat, Bool.and_eq_true, Bool.not_eq_true'] at flat
    exact flat.1.2
  | tome heading elems listed isClosing => exact (opened heading rfl rfl).append _
  | grimoire heading keys colons values listed isClosing => exact (opened heading rfl rfl).append _
  | group isOpening inside isClosing ih => exact Leads.light (by rw [isOpening]; rfl) (ih.append _)

/-- The first tokens of an expression close no bracket unless they have weight. -/
theorem Leads.notClosing {front back : List Token} (leads : Leads (front ++ back))
    (light : weight front = 0) : ∀ token ∈ front, token.kind.closes = false := by
  induction front with
  | nil =>
    intro token mem
    cases mem
  | cons first front ih =>
    rw [weight_cons] at light
    cases leads with
    | heavy weighs => omega
    | light notClosing others =>
      intro token mem
      rcases mem_cons.mp mem with rfl | later
      · exact notClosing
      · exact ih others (by omega) token later

/-- A statement that begins with a parenthesis is an expression. -/
theorem States.leads (stated : States tokens node)
    (isParen : ∀ token ∈ tokens.head?, token.kind = .leftParen) :
    Leads tokens := by
  cases stated with
  | expression valued => exact valued.leads
  | declaration isVerb | typedDeclaration isVerb =>
    rcases isVerb with isVerb | isVerb <;> cases isVerb.symm.trans (isParen _ rfl)
  | @spell _ _ _ _ _ _ _ _ aloud isWord =>
    cases aloud <;> cases isWord.symm.trans (isParen _ rfl)
  | constant isWord | assignment isWord | deletion isWord | bareCast isWord | cast isWord
  | conditional isWord | patrol isWord | hunt isWord | breakLoop isWord | continueLoop isWord =>
    cases isWord.symm.trans (isParen _ rfl)

end Grammar

end Spellbook
