import Spellbook.Node.Parser

/-!
# The grammar of expressions

`Expresses level tokens node` says that the tokens spell out the node as an expression of a level.
The rules are those of a textbook grammar with one nonterminal for each level. They know nothing of
budgets, of what is looked at and not taken, or of the order in which a parser works.
-/

namespace Spellbook

/-- The levels of the expression grammar, from the loosest to the tightest. -/
inductive Level where
  | disjunction
  | conjunction
  | denial
  | comparison
  | sum
  | product
  | power
  | negation
  | application
  | atom
  deriving DecidableEq

namespace Level

/-- The position of a level, which is larger for tighter levels and never zero. -/
def rank : Level → Nat
  | disjunction => 1
  | conjunction => 2
  | denial => 3
  | comparison => 4
  | sum => 5
  | product => 6
  | power => 7
  | negation => 8
  | application => 9
  | atom => 10

def tighter : Level → Level
  | disjunction => conjunction
  | conjunction => denial
  | denial => comparison
  | comparison => sum
  | sum => product
  | product => power
  | power => negation
  | negation => application
  | application => atom
  | atom => atom

/-- The operators of a level that associate to the left. -/
def operator? : Level → TokenKind → Option Operator
  | disjunction => Parser.disjunctionOperator
  | conjunction => Parser.conjunctionOperator
  | comparison => Parser.comparisonOperator
  | sum => Parser.sumOperator
  | product => Parser.productOperator
  | denial | power | negation | application | atom => fun _ => none

/-- Does a level have operators that associate to the left? -/
def joins : Level → Bool
  | disjunction | conjunction | comparison | sum | product => true
  | denial | power | negation | application | atom => false

theorem rank_le_tighter (level : Level) : level.rank ≤ level.tighter.rank := by
  cases level <;> decide

theorem rank_pos (level : Level) : 0 < level.rank := by
  cases level <;> decide

end Level

namespace TokenKind

/--
The rank of the level on which a token continues the expression before it; zero if it continues
none.
-/
def binding : TokenKind → Nat
  | orWord => 1
  | andWord => 2
  | isWord | isntWord | exceeds | under | atleast | atmost => 4
  | plus | minus => 5
  | star | slash | percent => 6
  | power => 7
  | leftParen | leftBracket | dot => 9
  | _ => 0

/--
The rank of the tightest level that an expression which starts with the token can have; zero if no
expression starts with it.
-/
def opening : TokenKind → Nat
  | notWord => 3
  | minus => 8
  | integer | float | string | trueWord | falseWord | void | scroll | rune | potion | charm | tome
  | grimoire | leftBracket | leftBrace | identifier | leftParen => 10
  | _ => 0

theorem ne_of_binding {kind other : TokenKind} {bound : Nat}
    (loose : kind.binding < bound) (tight : bound ≤ other.binding) : kind ≠ other := by
  rintro rfl
  omega

theorem ne_of_opening {kind other : TokenKind} {bound : Nat}
    (tight : bound ≤ kind.opening) (loose : other.opening < bound) : kind ≠ other := by
  rintro rfl
  omega

end TokenKind

namespace Token

/-- The node that a token is by itself, if it is one. -/
def leaf? (token : Token) : Option Node :=
  match token.kind with
  | .integer | .float | .string => some (.literal token.place token.value)
  | .trueWord => some (.literal token.place (.charm true))
  | .falseWord => some (.literal token.place (.charm false))
  | .void => some (.literal token.place .void)
  | .identifier => some (.identifier token.place token.text)
  | _ => none

/-- The value of a number after `potion`, if it is small enough for one. -/
def potionValue? (token : Token) : Option Value :=
  match token.value with
  | .potion num birth => some (.potion num birth)
  | value =>
    match value.toFloat with
    | .ok num => some (.potion num 0)
    | .error _ => none

/-- The value of a literal after the word for its type. -/
def annotated? (word token : Token) : Option Value :=
  match word.kind, token.kind with
  | .scroll, .string | .rune, .integer => some token.value
  | .potion, .float | .potion, .integer => token.potionValue?
  | .charm, .trueWord => some (.charm true)
  | .charm, .falseWord => some (.charm false)
  | _, _ => none

end Token

namespace Grammar

/-- Parts with commas between them. -/
inductive Separated : List (List Token) → List Token → Prop where
  | single (part : List Token) : Separated [part] part
  | comma {part tokens : List Token} {comma : Token} {parts : List (List Token)}
      (isComma : comma.kind = .comma)
      (others : Separated parts tokens) :
      Separated (part :: parts) (part ++ comma :: tokens)

/-- Parts with commas between them, possibly none, and possibly a comma at the end. -/
inductive Listing (trailingComma : Bool) : List (List Token) → List Token → Prop where
  | empty : Listing trailingComma [] []
  | plain {parts : List (List Token)} {tokens : List Token} (separated : Separated parts tokens) :
      Listing trailingComma parts tokens
  | trailing {parts : List (List Token)} {tokens : List Token} {comma : Token}
      (allowed : trailingComma = true)
      (separated : Separated parts tokens)
      (isComma : comma.kind = .comma) :
      Listing trailingComma parts (tokens ++ [comma])

/-- The opening bracket of a collection, with or without the word for the collection before it. -/
inductive Opening (word bracket : TokenKind) : List Token → Place → Prop where
  | bare {token : Token} (isBracket : token.kind = bracket) :
      Opening word bracket [token] token.place
  | named {name token : Token} (isWord : name.kind = word) (isBracket : token.kind = bracket) :
      Opening word bracket [name, token] name.place

/-- Tokens with the node that they spell out. -/
abbrev Item := List Token × Node

/-- A key and a value with a colon between them. -/
structure Entry where
  key : Item
  colon : Token
  value : Item

namespace Entry

def tokens (entry : Entry) : List Token :=
  entry.key.1 ++ entry.colon :: entry.value.1

def pair (entry : Entry) : Node × Node := (entry.key.2, entry.value.2)

end Entry

/-- The tokens spell out the node as an expression of the level. -/
inductive Expresses : Level → List Token → Node → Prop where
  /-- Whatever is tight enough for the next level stands on this one too. -/
  | loosen {level : Level} {tokens : List Token} {node : Node}
      (inner : Expresses level.tighter tokens node) :
      Expresses level tokens node
  | join {level : Level} {left right : List Token} {sign : Token}
      {operator : Operator} {leftNode rightNode : Node}
      (leftSide : Expresses level left leftNode)
      (isOperator : level.operator? sign.kind = some operator)
      (rightSide : Expresses level.tighter right rightNode) :
      Expresses level (left ++ sign :: right) (.binary leftNode.place leftNode operator rightNode)
  | power {left right : List Token} {sign : Token} {leftNode rightNode : Node}
      (leftSide : Expresses .negation left leftNode)
      (isPower : sign.kind = .power)
      (rightSide : Expresses .power right rightNode) :
      Expresses .power (left ++ sign :: right) (.binary leftNode.place leftNode .power rightNode)
  | deny {tokens : List Token} {sign : Token} {node : Node} (isNot : sign.kind = .notWord)
      (inner : Expresses .denial tokens node) :
      Expresses .denial (sign :: tokens) (.unary sign.place .denial node)
  | negate {tokens : List Token} {sign : Token} {node : Node} (isMinus : sign.kind = .minus)
      (inner : Expresses .negation tokens node) :
      Expresses .negation (sign :: tokens) (.unary sign.place .negation node)
  | call {callee inner : List Token} {opening closing : Token}
      {calleeNode : Node} {items : List Item}
      (called : Expresses .application callee calleeNode)
      (isOpening : opening.kind = .leftParen)
      (args : ∀ item ∈ items, Expresses .disjunction item.1 item.2)
      (listed : Listing false (items.map Prod.fst) inner)
      (isClosing : closing.kind = .rightParen) :
      Expresses .application (callee ++ opening :: (inner ++ [closing]))
        (.call calleeNode.place calleeNode (items.map Prod.snd))
  | index {coll inner : List Token} {opening closing : Token} {collectionNode pos : Node}
      (indexed : Expresses .application coll collectionNode)
      (isOpening : opening.kind = .leftBracket)
      (positioned : Expresses .disjunction inner pos)
      (isClosing : closing.kind = .rightBracket) :
      Expresses .application (coll ++ opening :: (inner ++ [closing]))
        (.index collectionNode.place collectionNode pos)
  | member {object : List Token} {dot name : Token} {objectNode : Node}
      (inner : Expresses .application object objectNode)
      (isDot : dot.kind = .dot)
      (isName : name.kind = .identifier) :
      Expresses .application (object ++ [dot, name]) (.member objectNode.place objectNode name.text)
  | leaf {token : Token} {node : Node} (isLeaf : token.leaf? = some node) :
      Expresses .atom [token] node
  | annotated {word token : Token} {value : Value}
      (isLiteral : word.annotated? token = some value) :
      Expresses .atom [word, token] (.literal word.place value)
  | tome {heading inner : List Token} {closing : Token} {place : Place} {items : List Item}
      (opened : Opening .tome .leftBracket heading place)
      (elements : ∀ item ∈ items, Expresses .disjunction item.1 item.2)
      (listed : Listing true (items.map Prod.fst) inner)
      (isClosing : closing.kind = .rightBracket) :
      Expresses .atom (heading ++ (inner ++ [closing])) (.tome place (items.map Prod.snd))
  | grimoire {heading inner : List Token} {closing : Token} {place : Place} {entries : List Entry}
      (opened : Opening .grimoire .leftBrace heading place)
      (keys : ∀ entry ∈ entries, Expresses .disjunction entry.key.1 entry.key.2)
      (colons : ∀ entry ∈ entries, entry.colon.kind = .colon)
      (values : ∀ entry ∈ entries, Expresses .disjunction entry.value.1 entry.value.2)
      (listed : Listing true (entries.map Entry.tokens) inner)
      (isClosing : closing.kind = .rightBrace) :
      Expresses .atom (heading ++ (inner ++ [closing])) (.grimoire place (entries.map Entry.pair))
  | group {inner : List Token} {opening closing : Token} {node : Node}
      (isOpening : opening.kind = .leftParen)
      (inside : Expresses .disjunction inner node)
      (isClosing : closing.kind = .rightParen) :
      Expresses .atom (opening :: (inner ++ [closing])) node

/-! ## Levels -/

theorem eq_of_rank_eq {first second : Level} (same : first.rank = second.rank) :
    first = second := by
  cases first <;> cases second <;> first | rfl | cases same

theorem Expresses.loosenTo {wanted own : Level} (fits : wanted.rank ≤ own.rank)
    {tokens : List Token} {node : Node} (spelled : Expresses own tokens node) :
    Expresses wanted tokens node := by
  induction distance : own.rank - wanted.rank generalizing wanted with
  | zero =>
    obtain rfl : wanted = own := eq_of_rank_eq (by omega)
    exact spelled
  | succ distance ih =>
    have next : wanted.tighter.rank = wanted.rank + 1 := by
      cases wanted <;> cases own <;> first | rfl | cases distance
    exact Expresses.loosen (ih (by omega) (by omega))

/-! ## The first token of an expression -/

theorem opening_of_leaf {token : Token} {node : Node} (isLeaf : token.leaf? = some node) :
    token.kind.opening = 10 := by
  unfold Token.leaf? at isLeaf
  split at isLeaf <;> simp_all [TokenKind.opening]

theorem opening_of_annotated {word token : Token} {value : Value}
    (isLiteral : word.annotated? token = some value) :
    word.kind.opening = 10 := by
  unfold Token.annotated? at isLiteral
  split at isLiteral <;> simp_all [TokenKind.opening]

theorem Opening.starts {word bracket : TokenKind}
    (wordStarts : word.opening = 10) (bracketStarts : bracket.opening = 10)
    {heading : List Token} {place : Place}
    (opened : Opening word bracket heading place) :
    ∃ token rest, heading = token :: rest ∧ 10 ≤ token.kind.opening := by
  cases opened with
  | bare isBracket => exact ⟨_, [], rfl, Nat.le_of_eq (isBracket ▸ bracketStarts.symm)⟩
  | named isWord isBracket => exact ⟨_, [_], rfl, Nat.le_of_eq (isWord ▸ wordStarts.symm)⟩

/-- An expression has a first token, with which expressions of its level can start. -/
theorem Expresses.starts {level : Level} {tokens : List Token} {node : Node}
    (spelled : Expresses level tokens node) :
    ∃ token rest, tokens = token :: rest ∧ level.rank ≤ token.kind.opening := by
  induction spelled with
  | @loosen level tokens node inner ih =>
    obtain ⟨token, rest, rfl, starts⟩ := ih
    exact ⟨token, rest, rfl, Nat.le_trans level.rank_le_tighter starts⟩
  | join leftSide isOperator rightSide leftStarts rightStarts =>
    obtain ⟨token, rest, rfl, starts⟩ := leftStarts
    exact ⟨token, _, rfl, starts⟩
  | power leftSide isPower rightSide leftStarts rightStarts =>
    obtain ⟨token, rest, rfl, starts⟩ := leftStarts
    exact ⟨token, _, rfl, Nat.le_trans (by decide) starts⟩
  | deny isNot inner ih => exact ⟨_, _, rfl, by rw [isNot]; decide⟩
  | negate isMinus inner ih => exact ⟨_, _, rfl, by rw [isMinus]; decide⟩
  | call called isOpening args listed isClosing calledStarts =>
    obtain ⟨token, rest, rfl, starts⟩ := calledStarts
    exact ⟨token, _, rfl, starts⟩
  | index indexed isOpening positioned isClosing indexedStarts =>
    obtain ⟨token, rest, rfl, starts⟩ := indexedStarts
    exact ⟨token, _, rfl, starts⟩
  | member inner isDot isName ih =>
    obtain ⟨token, rest, rfl, starts⟩ := ih
    exact ⟨token, _, rfl, starts⟩
  | leaf isLeaf => exact ⟨_, [], rfl, Nat.le_of_eq (opening_of_leaf isLeaf).symm⟩
  | annotated isLiteral =>
    exact ⟨_, [_], rfl, Nat.le_of_eq (opening_of_annotated isLiteral).symm⟩
  | tome opened elems listed isClosing =>
    obtain ⟨token, rest, rfl, starts⟩ := opened.starts rfl rfl
    exact ⟨token, _, rfl, starts⟩
  | grimoire opened keys colons values listed isClosing =>
    obtain ⟨token, rest, rfl, starts⟩ := opened.starts rfl rfl
    exact ⟨token, _, rfl, starts⟩
  | group isOpening inside isClosing ih =>
    exact ⟨_, _, rfl, by rw [isOpening]; decide⟩

theorem Expresses.length_pos {level : Level} {tokens : List Token} {node : Node}
    (spelled : Expresses level tokens node) : 0 < tokens.length := by
  obtain ⟨token, rest, rfl, -⟩ := spelled.starts
  simp

end Grammar

end Spellbook
