import Spellbook.Proofs.Grammar.Balance
import Spellbook.Proofs.Grammar.Place

/-!
# The first atom of an expression

An expression that begins with neither `not` nor a minus sign begins with an atom, and what follows
does not look into it. So any other atom can stand in its place (`Expresses.leading`). The words for
types stand before atoms.
-/

namespace Spellbook.Grammar

open List

variable {one other node : Node} {heading tokens rest tail others : List Token} {place : Place}
  {level : Level} {head opening closing : Token}

/-! ## Extensions -/

/-- One step by which an expression goes on after its first atom. -/
inductive Extension where
  | operand (op : Operator) (right : Node)
  | call (args : List Node)
  | index (pos : Node)
  | member (name : String)

/-- The node that goes on with an extension. -/
def Extension.after (node : Node) : Extension → Node
  | operand op right => .binary node.place node op right
  | call args => .call node.place node args
  | index pos => .index node.place node pos
  | member name => .member node.place node name

/-- The node that goes on with extensions, one after the other. -/
def extended (node : Node) (exts : List Extension) : Node :=
  exts.foldl Extension.after node

theorem extended_concat (node : Node) (exts : List Extension) (last : Extension) :
    extended node (exts ++ [last]) = last.after (extended node exts) := by
  rw [extended, foldl_append]
  rfl

theorem Extension.unplaced_after (same : one.unplaced = other.unplaced) (extension : Extension) :
    (extension.after one).unplaced = (extension.after other).unplaced := by
  cases extension <;> simp only [after, Node.unplaced, same]

theorem unplaced_extended (same : one.unplaced = other.unplaced) (exts : List Extension) :
    (extended one exts).unplaced = (extended other exts).unplaced := by
  induction exts generalizing one other with
  | nil => exact same
  | cons extension exts ih => exact ih (extension.unplaced_after same)

/-! ## Atoms -/

/--
What follows the opening bracket of a collection, with the node that the collection is at a place.
The collection has a word that may stand before its bracket.
-/
inductive Collection : (word bracket : TokenKind) → List Token → (Place → Node) → Prop where
  | tome {inner : List Token} {closing : Token} {items : List Item}
      (elements : ∀ item ∈ items, Expresses .disjunction item.1 item.2)
      (listed : Listing true (items.map Prod.fst) inner)
      (isClosing : closing.kind = .rightBracket) :
      Collection .tome .leftBracket (inner ++ [closing]) fun place =>
        .tome place (items.map Prod.snd)
  | grimoire {inner : List Token} {closing : Token} {entries : List Entry}
      (keys : ∀ entry ∈ entries, Expresses .disjunction entry.key.1 entry.key.2)
      (colons : ∀ entry ∈ entries, entry.colon.kind = .colon)
      (values : ∀ entry ∈ entries, Expresses .disjunction entry.value.1 entry.value.2)
      (listed : Listing true (entries.map Entry.tokens) inner)
      (isClosing : closing.kind = .rightBrace) :
      Collection .grimoire .leftBrace (inner ++ [closing]) fun place =>
        .grimoire place (entries.map Entry.pair)

namespace Collection

variable {word bracket : TokenKind} {rest : List Token} {build : Place → Node}

theorem kinds (coll : Collection word bracket rest build) :
    (word = .tome ∧ bracket = .leftBracket) ∨ (word = .grimoire ∧ bracket = .leftBrace) := by
  cases coll with
  | tome => exact Or.inl ⟨rfl, rfl⟩
  | grimoire => exact Or.inr ⟨rfl, rfl⟩

/-- The bracket of a collection tells its word. -/
theorem eq_word (coll : Collection word bracket rest build) {kind : TokenKind}
    (announced : (kind = .tome ∧ bracket = .leftBracket) ∨
      (kind = .grimoire ∧ bracket = .leftBrace)) : kind = word := by
  cases coll with
  | tome =>
    rcases announced with ⟨rfl, -⟩ | ⟨-, isBrace⟩
    · rfl
    · cases isBrace
  | grimoire =>
    rcases announced with ⟨-, isBracket⟩ | ⟨rfl, -⟩
    · cases isBracket
    · rfl

theorem expresses (coll : Collection word bracket rest build)
    (opened : Opening word bracket heading place) :
    Expresses .atom (heading ++ rest) (build place) := by
  cases coll with
  | tome elems listed isClosing => exact .tome opened elems listed isClosing
  | grimoire keys colons values listed isClosing =>
    exact .grimoire opened keys colons values listed isClosing

theorem unplaced_eq (coll : Collection word bracket rest build) (one other : Place) :
    (build one).unplaced = (build other).unplaced := by
  cases coll <;> simp only [Node.unplaced]

end Collection

/-- An atom, by the last rule of its derivation. -/
inductive Atom : List Token → Node → Prop where
  | leaf {token : Token} {node : Node} (isLeaf : token.leaf? = some node) : Atom [token] node
  | annotated {word token : Token} {value : Value}
      (isLiteral : word.annotated? token = some value) :
      Atom [word, token] (.literal word.place value)
  | bare {word bracket : TokenKind} {opening : Token} {rest : List Token} {build : Place → Node}
      (coll : Collection word bracket rest build) (isOpening : opening.kind = bracket) :
      Atom (opening :: rest) (build opening.place)
  | named {word bracket : TokenKind} {name opening : Token} {rest : List Token}
      {build : Place → Node} (coll : Collection word bracket rest build)
      (isWord : name.kind = word) (isOpening : opening.kind = bracket) :
      Atom (name :: opening :: rest) (build name.place)
  | group {inner : List Token} {opening closing : Token} {node : Node}
      (isOpening : opening.kind = .leftParen)
      (inside : Expresses .disjunction inner node)
      (isClosing : closing.kind = .rightParen) :
      Atom (opening :: (inner ++ [closing])) node

theorem Atom.expresses (atom : Atom tokens node) : Expresses .atom tokens node := by
  cases atom with
  | leaf isLeaf => exact .leaf isLeaf
  | annotated isLiteral => exact .annotated isLiteral
  | bare coll isOpening => exact coll.expresses (.bare isOpening)
  | named coll isWord isOpening => exact coll.expresses (.named isWord isOpening)
  | group isOpening inside isClosing => exact .group isOpening inside isClosing

theorem Collection.atom {word bracket : TokenKind} {build : Place → Node}
    (coll : Collection word bracket rest build)
    (opened : Opening word bracket heading place) :
    Atom (heading ++ rest) (build place) := by
  cases opened with
  | bare isOpening => exact .bare coll isOpening
  | named isWord isOpening => exact .named coll isWord isOpening

/-- The tokens are an expression of the level that begins with the atom and goes on with the
extensions; any other atom can begin it. -/
structure Begins (level : Level) (tokens : List Token) (node : Node) (atom rest : List Token)
    (first : Node) (exts : List Extension) : Prop where
  tokens_eq : tokens = atom ++ rest
  atom : Atom atom first
  node_eq : node = extended first exts
  exchange : ∀ {other : List Token} {otherNode : Node}, Atom other otherNode →
    Expresses level (other ++ rest) (extended otherNode exts)

namespace Begins

variable {level : Level} {tokens atom rest : List Token} {node first : Node}
  {exts : List Extension}

theorem of_atom (level : Level) (isAtom : Atom tokens node) :
    Begins level tokens node tokens [] node [] where
  tokens_eq := (append_nil tokens).symm
  atom := isAtom
  node_eq := rfl
  exchange other := by
    rw [append_nil]
    exact .loosenTo (by cases level <;> decide) other.expresses

theorem extend {wider : Level} (begins : Begins level tokens node atom rest first exts)
    {more : List Token} (extension : Extension)
    (goesOn : ∀ {tokens : List Token} {node : Node}, Expresses level tokens node →
      Expresses wider (tokens ++ more) (extension.after node)) :
    Begins wider (tokens ++ more) (extension.after node) atom (rest ++ more) first
      (exts ++ [extension]) where
  tokens_eq := by rw [begins.tokens_eq, append_assoc]
  atom := begins.atom
  node_eq := by rw [extended_concat, begins.node_eq]
  exchange other := by
    rw [← append_assoc, extended_concat]
    exact goesOn (begins.exchange other)

end Begins

theorem Expresses.head?_append (spelled : Expresses level tokens node) (more : List Token) :
    (tokens ++ more).head? = tokens.head? := by
  obtain ⟨token, others, rfl, -⟩ := spelled.starts
  rfl

theorem Expresses.exists_begins (spelled : Expresses level tokens node)
    (starts : tokens.head? = some head) (opens : head.kind.opening = 10) :
    ∃ atom rest first exts, Begins level tokens node atom rest first exts := by
  induction spelled with
  | loosen inner ih =>
    obtain ⟨atom, rest, first, exts, begins⟩ := ih starts
    exact ⟨atom, rest, first, exts, begins.tokens_eq, begins.atom, begins.node_eq,
      fun other => .loosen (begins.exchange other)⟩
  | @join level left right sign op leftNode rightNode leftSide isOperator rightSide ih _ =>
    obtain ⟨atom, rest, first, exts, begins⟩ := ih (leftSide.head?_append _ ▸ starts)
    exact ⟨_, _, _, _, begins.extend (.operand op rightNode) fun spelled =>
      .join spelled isOperator rightSide⟩
  | power leftSide isPower rightSide ih _ =>
    obtain ⟨atom, rest, first, exts, begins⟩ := ih (leftSide.head?_append _ ▸ starts)
    exact ⟨_, _, _, _, begins.extend (.operand .power _) fun spelled =>
      .power spelled isPower rightSide⟩
  | deny isNot inner ih =>
    rw [← Option.some.inj starts, isNot] at opens
    cases opens
  | negate isMinus inner ih =>
    rw [← Option.some.inj starts, isMinus] at opens
    cases opens
  | call called isOpening args listed isClosing ih _ =>
    obtain ⟨atom, rest, first, exts, begins⟩ := ih (called.head?_append _ ▸ starts)
    exact ⟨_, _, _, _, begins.extend (.call _) fun spelled =>
      .call spelled isOpening args listed isClosing⟩
  | index indexed isOpening positioned isClosing ih _ =>
    obtain ⟨atom, rest, first, exts, begins⟩ := ih (indexed.head?_append _ ▸ starts)
    exact ⟨_, _, _, _, begins.extend (.index _) fun spelled =>
      .index spelled isOpening positioned isClosing⟩
  | member inner isDot isName ih =>
    obtain ⟨atom, rest, first, exts, begins⟩ := ih (inner.head?_append _ ▸ starts)
    exact ⟨_, _, _, _, begins.extend (.member _) fun spelled =>
      .member spelled isDot isName⟩
  | leaf isLeaf => exact ⟨_, _, _, _, .of_atom _ (.leaf isLeaf)⟩
  | annotated isLiteral => exact ⟨_, _, _, _, .of_atom _ (.annotated isLiteral)⟩
  | tome opened elems listed isClosing =>
    exact ⟨_, _, _, _, .of_atom _ ((Collection.tome elems listed isClosing).atom opened)⟩
  | grimoire opened keys colons values listed isClosing =>
    exact ⟨_, _, _, _, .of_atom _
      ((Collection.grimoire keys colons values listed isClosing).atom opened)⟩
  | group isOpening inside isClosing =>
    exact ⟨_, _, _, _, .of_atom _ (.group isOpening inside isClosing)⟩

/--
An expression whose first token opens an atom begins with this atom, and any other atom can stand in
its place.
-/
theorem Expresses.leading (spelled : Expresses level (head :: tail) node)
    (opens : head.kind.opening = 10) :
    ∃ inner rest first exts, tail = inner ++ rest ∧
      Begins level (head :: tail) node (head :: inner) rest first exts := by
  obtain ⟨atom, rest, first, exts, begins⟩ := spelled.exists_begins rfl opens
  cases atom with
  | nil => exact absurd begins.atom.expresses.length_pos (Nat.lt_irrefl 0)
  | cons other inner =>
    obtain ⟨rfl, equal⟩ := List.cons.inj begins.tokens_eq
    exact ⟨inner, rest, first, exts, equal, begins⟩

/-- What begins with a parenthesis is an expression in parentheses. -/
theorem Atom.of_leftParen (isOpening : opening.kind = .leftParen)
    (atom : Atom (opening :: tail) node) :
    ∃ inner closing, tail = inner ++ [closing] ∧ Expresses .disjunction inner node ∧
      closing.kind = .rightParen := by
  cases atom with
  | leaf isLeaf =>
    have flat := isFlat_of_leaf isLeaf
    rw [isOpening] at flat
    cases flat
  | annotated isLiteral =>
    have flat := (isFlat_of_annotated isLiteral).1
    rw [isOpening] at flat
    cases flat
  | bare coll isBracket =>
    rw [isOpening] at isBracket
    rcases coll.kinds with ⟨-, rfl⟩ | ⟨-, rfl⟩ <;> cases isBracket
  | named coll isWord =>
    rw [isOpening] at isWord
    rcases coll.kinds with ⟨rfl, -⟩ | ⟨rfl, -⟩ <;> cases isWord
  | group _ inside isClosing => exact ⟨_, _, rfl, inside, isClosing⟩

/-- The bracket that closes a balanced front is at one place only. -/
theorem Balanced.eq_of_append {first second : List Token} {other : Token}
    (firstBalanced : Balanced first) (secondBalanced : Balanced second)
    (closes : closing.kind.closes = true) (otherCloses : other.kind.closes = true)
    (same : first ++ closing :: rest = second ++ other :: others) :
    first = second := by
  -- What lies between the two fronts would begin with a bracket that closes too much.
  have apart {token : Token} (closes : token.kind.closes = true) (tokens : List Token) :
      ¬ Balanced (token :: tokens) := by
    intro balanced
    simp [Balanced, TokenKind.descend, TokenKind.depthAfter?, closes] at balanced
  rcases append_eq_append_iff.mp same with ⟨between, rfl, equal⟩ | ⟨between, rfl, equal⟩
  · cases between with
    | nil => exact (append_nil first).symm
    | cons token tokens =>
      obtain ⟨rfl, -⟩ := List.cons.inj equal
      exact (apart closes tokens (secondBalanced.of_append firstBalanced)).elim
  · cases between with
    | nil => exact append_nil second
    | cons token tokens =>
      obtain ⟨rfl, -⟩ := List.cons.inj equal
      exact (apart otherCloses tokens (firstBalanced.of_append secondBalanced)).elim

/-- An expression in parentheses that begins an expression is found inside them. -/
theorem Expresses.of_leftParen {inner : List Token} (spelled : Expresses level tokens node)
    (isOpening : opening.kind = .leftParen) (balanced : Balanced inner)
    (isClosing : closing.kind = .rightParen)
    (same : tokens ++ others = opening :: (inner ++ closing :: rest)) :
    ∃ found, Expresses .disjunction inner found := by
  obtain ⟨token, tail, rfl, -⟩ := spelled.starts
  obtain ⟨rfl, equal⟩ := List.cons.inj same
  obtain ⟨atom, behind, first, exts, rfl, begins⟩ :=
    spelled.leading (by rw [isOpening]; rfl)
  obtain ⟨inside, last, rfl, expresses, isLast⟩ := begins.atom.of_leftParen isOpening
  have fronts : inside ++ last :: (behind ++ others) = inner ++ closing :: rest := by
    rw [← equal]
    change _ = inside ++ [last] ++ behind ++ others
    simp only [append_assoc, cons_append, nil_append]
  obtain rfl : inside = inner :=
    expresses.tidy.balanced.eq_of_append balanced (by rw [isLast]; rfl)
      (by rw [isClosing]; rfl) fronts
  exact ⟨first, expresses⟩

/-! ## Words for types -/

/-- The word can stand before a literal that begins with the token. -/
def Announces (word head : Token) : Prop :=
  (∃ value, word.annotated? head = some value) ∨
    (word.kind = .tome ∧ head.kind = .leftBracket) ∨
      (word.kind = .grimoire ∧ head.kind = .leftBrace)

/--
How the literal that begins with a token is read on its own and with the word before it: the same,
except that `potion` converts a number.
-/
structure Titled (word head : Token) (own node : Node) : Prop where
  alike : word.kind ≠ .potion → own.unplaced = node.unplaced
  converted : word.kind = .potion → ∃ value, head.potionValue? = some value ∧
    own = .literal head.place head.value ∧ node = .literal word.place value

section TypeWord

variable {value : Value}

variable {word head : Token} {tokens tail : List Token} {own node : Node}

theorem opening_of_typeWord (isType : Parser.isTypeWord word.kind = true) :
    word.kind.opening = 10 := by
  revert isType
  cases word.kind <;> decide

theorem typeWord_of_annotated (isLiteral : word.annotated? head = some value) :
    Parser.isTypeWord word.kind = true := by
  unfold Token.annotated? at isLiteral
  split at isLiteral <;> simp_all [Parser.isTypeWord]

theorem not_typeWord_of_leaf (isLeaf : head.leaf? = some own) :
    Parser.isTypeWord head.kind = false := by
  unfold Token.leaf? at isLeaf
  split at isLeaf <;> simp_all [Parser.isTypeWord]

/-- A literal after the word for its type is a literal without it as well. -/
theorem leaf_of_annotated (isLiteral : word.annotated? head = some value) :
    ∃ own, head.leaf? = some (.literal head.place own) ∧
      Titled word head (.literal head.place own) (.literal word.place value) := by
  unfold Token.annotated? at isLiteral
  unfold Token.leaf?
  split at isLiteral
  case h_3 isWord isKind | h_4 isWord isKind =>
    rw [isKind]
    exact ⟨_, rfl, fun other => (other isWord).elim, fun _ => ⟨value, isLiteral, rfl, rfl⟩⟩
  case h_7 => cases isLiteral
  all_goals
    rename_i isWord isKind
    cases isLiteral
    rw [isKind]
    refine ⟨_, rfl, fun _ => rfl, fun isPotion => ?_⟩
    rw [isWord] at isPotion
    cases isPotion

/-- The same collection, once with the word for it and once without. -/
theorem titled_of_unplaced (same : own.unplaced = node.unplaced) (other : word.kind ≠ .potion) :
    Titled word head own node :=
  ⟨fun _ => same, fun isPotion => (other isPotion).elim⟩

/-- A literal after a word for a type is a literal without the word. -/
theorem Atom.untitled (isType : Parser.isTypeWord word.kind = true)
    (atom : Atom (word :: tokens) node) :
    ∃ head tail own, tokens = head :: tail ∧ Announces word head ∧ Atom tokens own ∧
      Titled word head own node := by
  cases atom with
  | leaf isLeaf =>
    rw [not_typeWord_of_leaf isLeaf] at isType
    cases isType
  | annotated isLiteral =>
    obtain ⟨own, isLeaf, titled⟩ := leaf_of_annotated isLiteral
    exact ⟨_, _, _, rfl, Or.inl ⟨_, isLiteral⟩, .leaf isLeaf, titled⟩
  | bare coll isBracket =>
    rw [isBracket] at isType
    rcases coll.kinds with ⟨-, rfl⟩ | ⟨-, rfl⟩ <;> cases isType
  | named coll isWord isBracket =>
    have kinds := coll.kinds
    rw [← isWord, ← isBracket] at kinds
    refine ⟨_, _, _, rfl, Or.inr kinds, .bare coll isBracket,
      titled_of_unplaced (coll.unplaced_eq _ _) ?_⟩
    rcases kinds with ⟨isTome, -⟩ | ⟨isGrimoire, -⟩
    · rw [isTome]
      decide
    · rw [isGrimoire]
      decide
  | group isOpening inside isClosing =>
    rw [isOpening] at isType
    cases isType

/-- An atom that begins with a leaf is the leaf. -/
theorem Atom.of_leaf {leaf : Node} (isLeaf : head.leaf? = some leaf)
    (atom : Atom (head :: tail) own) : tail = [] ∧ own = leaf := by
  have notType := not_typeWord_of_leaf isLeaf
  have flat := isFlat_of_leaf isLeaf
  cases atom with
  | leaf found => exact ⟨rfl, Option.some.inj (found.symm.trans isLeaf)⟩
  | annotated isLiteral =>
    rw [typeWord_of_annotated isLiteral] at notType
    cases notType
  | bare coll isBracket =>
    rw [isBracket] at flat
    rcases coll.kinds with ⟨-, rfl⟩ | ⟨-, rfl⟩ <;> cases flat
  | named coll isWord =>
    rw [isWord] at notType
    rcases coll.kinds with ⟨rfl, -⟩ | ⟨rfl, -⟩ <;> cases notType
  | group isOpening inside isClosing =>
    rw [isOpening] at flat
    cases flat

/-- A collection can stand after the word for it. -/
theorem Atom.of_bracket (atom : Atom (head :: tail) own)
    (announced : (word.kind = .tome ∧ head.kind = .leftBracket) ∨
      (word.kind = .grimoire ∧ head.kind = .leftBrace)) :
    ∃ node, Atom (word :: head :: tail) node ∧ own.unplaced = node.unplaced := by
  have bracketed : head.kind.isFlat = false ∧ Parser.isTypeWord head.kind = false ∧
      head.kind ≠ .leftParen := by
    rcases announced with ⟨-, isBracket⟩ | ⟨-, isBracket⟩ <;> rw [isBracket] <;> decide
  obtain ⟨notFlat, notType, notGroup⟩ := bracketed
  cases atom with
  | leaf isLeaf =>
    rw [isFlat_of_leaf isLeaf] at notFlat
    cases notFlat
  | annotated isLiteral =>
    rw [(isFlat_of_annotated isLiteral).1] at notFlat
    cases notFlat
  | bare coll isBracket =>
    rw [isBracket] at announced
    exact ⟨_, .named coll (coll.eq_word announced) isBracket, coll.unplaced_eq _ _⟩
  | named coll isWord =>
    rw [isWord] at notType
    rcases coll.kinds with ⟨rfl, -⟩ | ⟨rfl, -⟩ <;> cases notType
  | group isOpening => exact (notGroup isOpening).elim

/-- A literal that the word announces can stand after the word. -/
theorem Atom.titled (announces : Announces word head) (atom : Atom (head :: tail) own) :
    ∃ node, Atom (word :: head :: tail) node ∧ Titled word head own node := by
  rcases announces with ⟨value, isLiteral⟩ | ⟨isWord, isBracket⟩ | ⟨isWord, isBracket⟩
  · obtain ⟨leaf, isLeaf, titled⟩ := leaf_of_annotated isLiteral
    obtain ⟨rfl, rfl⟩ := atom.of_leaf isLeaf
    exact ⟨_, .annotated isLiteral, titled⟩
  · obtain ⟨node, named, same⟩ := atom.of_bracket (Or.inl ⟨isWord, isBracket⟩)
    exact ⟨node, named, titled_of_unplaced same (by rw [isWord]; decide)⟩
  · obtain ⟨node, named, same⟩ := atom.of_bracket (Or.inr ⟨isWord, isBracket⟩)
    exact ⟨node, named, titled_of_unplaced same (by rw [isWord]; decide)⟩

theorem opening_of_announces (announces : Announces word head) : head.kind.opening = 10 := by
  rcases announces with ⟨value, isLiteral⟩ | ⟨-, isBracket⟩ | ⟨-, isBracket⟩
  · obtain ⟨leaf, isLeaf, -⟩ := leaf_of_annotated isLiteral
    exact opening_of_leaf isLeaf
  · rw [isBracket]
    rfl
  · rw [isBracket]
    rfl

variable {level : Level}

/-- An expression after a word for a type is an expression without the word, which begins with a
literal that the word announces and goes on in the same way. -/
theorem Expresses.untitled (isType : Parser.isTypeWord word.kind = true)
    (spelled : Expresses level (word :: tokens) node) :
    ∃ head tail own titled exts, tokens = head :: tail ∧ Announces word head ∧
      Titled word head own titled ∧ Expresses level tokens (extended own exts) ∧
        node = extended titled exts := by
  obtain ⟨atom, rest, titled, exts, rfl, begins⟩ :=
    spelled.leading (opening_of_typeWord isType)
  obtain ⟨head, tail, own, rfl, announces, isAtom, isTitled⟩ := begins.atom.untitled isType
  exact ⟨head, tail ++ rest, own, titled, exts, rfl, announces, isTitled,
    begins.exchange isAtom, begins.node_eq⟩

/-- An expression that begins with a literal which the word announces can stand after the word. -/
theorem Expresses.titled (announces : Announces word head)
    (spelled : Expresses level (head :: tail) own) :
    ∃ node, Expresses level (word :: head :: tail) node := by
  obtain ⟨atom, rest, first, exts, rfl, begins⟩ :=
    spelled.leading (opening_of_announces announces)
  obtain ⟨node, isAtom, -⟩ := begins.atom.titled announces
  exact ⟨_, begins.exchange isAtom⟩

/-- Tokens can stand after a word for a type exactly if they are an expression whose first token the
word announces. -/
theorem exists_titled_iff (isType : Parser.isTypeWord word.kind = true) :
    (∃ node, Expresses level (word :: tokens) node) ↔
      (∃ node, Expresses level tokens node) ∧ ∃ head ∈ tokens.head?, Announces word head := by
  constructor
  · rintro ⟨node, spelled⟩
    obtain ⟨head, tail, own, titled, exts, rfl, announces, -, plain, -⟩ :=
      spelled.untitled isType
    exact ⟨⟨_, plain⟩, head, rfl, announces⟩
  · rintro ⟨⟨node, spelled⟩, head, first, announces⟩
    obtain ⟨tail, rfl⟩ := List.head?_eq_some_iff.mp first
    exact spelled.titled announces

end TypeWord

end Spellbook.Grammar
