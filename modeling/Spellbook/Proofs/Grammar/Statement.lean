import Spellbook.Proofs.Grammar.Expression
import Spellbook.Proofs.Parsing.Primitive

/-!
# The grammar of statements

`States tokens node` says that the tokens spell out the node as a statement. A block is a succession
of statements in braces, with line feeds wherever they please between them.

Statements need no separator. So a succession supposes of every statement that it does not cling to
what follows it: an operator or a bracket goes on with a value, almost everything goes on with a
bare `cast`, and a further branch goes on with a conditional that has no last one.
-/

namespace Spellbook

open Spellbook.Parser (LineFeeds)

namespace Grammar

/-! ## What goes on with a statement -/

/-- How a statement ends, which decides what can go on with it. -/
inductive Ending where
  /-- With its last token; nothing goes on with it. -/
  | closed
  /-- With an expression. -/
  | value
  /-- With the word `cast`. -/
  | bareCast
  /-- With a branch that is not the last one of a conditional. -/
  | branch
  deriving DecidableEq

namespace Ending

/-- Do the tokens of the given kinds go on with the statement before them? -/
def clings : Ending → List TokenKind → Bool
  | closed, _ => false
  | value, kinds => kinds.head?.any (·.binding != 0)
  | bareCast, kinds => kinds.head?.any fun kind => kind != .newline && kind != .rightBrace
  | branch, kinds =>
    (kinds.find? (· != .newline)).any fun kind => kind == .otherwise || kind == .fate

/-- The tokens that are left after a statement: looking for a branch takes the line feeds away. -/
def after : Ending → List Token → List Token
  | branch, rest => rest.dropWhile (·.kind == .newline)
  | closed, rest | value, rest | bareCast, rest => rest

/-- A statement leaves what follows it, possibly without line feeds. -/
theorem exists_lines (ending : Ending) (rest : List Token) :
    ∃ lines, LineFeeds lines ∧ rest = lines ++ ending.after rest := by
  cases ending with
  | closed | value | bareCast => exact ⟨[], LineFeeds.nil, rfl⟩
  | branch =>
    refine ⟨rest.takeWhile (·.kind == .newline), ?_, ?_⟩
    · intro token mem
      exact beq_iff_eq.mp (List.all_eq_true.mp List.all_takeWhile token mem)
    · exact (List.takeWhile_append_dropWhile).symm

end Ending

end Grammar

/-- How a statement ends. -/
def Node.ending : Node → Grammar.Ending
  | .declaration .. | .assignment .. | .indexAssignment .. | .cast _ (some _)
  | .expression .. => .value
  | .cast _ none => .bareCast
  | .conditional _ _ _ _ none => .branch
  | _ => .closed

namespace TokenKind

/-- Does a token of the kind lead a statement other than an expression? -/
def leads : TokenKind → Bool
  | conjure | summon | const | transmute | vanquish | spell | incantation | cast | prophecy | patrol
  | hunt | breakWord | continueWord => true
  | _ => false

def begins (kind : TokenKind) : Bool := kind.leads || kind.opening != 0

theorem begins_of_opening {kind : TokenKind} (opens : 0 < kind.opening) : kind.begins = true := by
  simp [begins, Nat.pos_iff_ne_zero.mp opens]

theorem leads_of_opening {kind : TokenKind} (opens : 0 < kind.opening) : kind.leads = false := by
  revert opens
  cases kind <;> decide

end TokenKind

namespace Grammar

/-! ## Blocks -/

/-- Statements one after the other, up to a closing token. -/
inductive Succession (closing : Token) : List Item → List Token → Prop where
  | done {lines : List Token} (feeds : LineFeeds lines) : Succession closing [] lines
  | next {lines tokens rest : List Token} {node : Node} {items : List Item}
      (feeds : LineFeeds lines)
      (apart : node.ending.clings ((rest ++ [closing]).map Token.kind) = false)
      (others : Succession closing items rest) :
      Succession closing ((tokens, node) :: items) (lines ++ (tokens ++ rest))

theorem Succession.lines {closing : Token} {items : List Item} {lines tokens : List Token}
    (feeds : LineFeeds lines) (later : Succession closing items tokens) :
    Succession closing items (lines ++ tokens) := by
  cases later with
  | done others => exact Succession.done (feeds.append others)
  | next others apart later =>
    rw [← List.append_assoc]
    exact Succession.next (feeds.append others) apart later

/-- Statements in braces, with line feeds before the opening one. -/
inductive Braced (items : List Item) : List Token → Prop where
  | intro {lines inner : List Token} {opening closing : Token} (feeds : LineFeeds lines)
      (isOpening : opening.kind = .leftBrace)
      (later : Succession closing items inner)
      (isClosing : closing.kind = .rightBrace) :
      Braced items (lines ++ opening :: (inner ++ [closing]))

/-- A further branch of a conditional, which has a condition of its own. -/
structure Alternative where
  lines : List Token
  otherwise : Token
  prophecy : Token
  condition : Item
  items : List Item
  body : List Token
  feeds : LineFeeds lines
  isOtherwise : otherwise.kind = .otherwise
  isProphecy : prophecy.kind = .prophecy
  braced : Braced items body

namespace Alternative

def tokens (alt : Alternative) : List Token :=
  alt.lines ++ alt.otherwise :: alt.prophecy :: (alt.condition.1 ++ alt.body)

def branch (alt : Alternative) : Node × List Node :=
  (alt.condition.2, alt.items.map Prod.snd)

end Alternative

/-- The last branch of a conditional, which has no condition. -/
structure LastResort where
  lines : List Token
  fate : Token
  decrees : Token
  items : List Item
  body : List Token
  feeds : LineFeeds lines
  isFate : fate.kind = .fate
  isDecrees : decrees.kind = .decrees
  braced : Braced items body

namespace LastResort

def tokens (resort : LastResort) : List Token :=
  resort.lines ++ resort.fate :: resort.decrees :: resort.body

def branch (resort : LastResort) : List Node := resort.items.map Prod.snd

end LastResort

/-- The tokens of the branches of a conditional after the first one. -/
def furtherTokens (alts : List Alternative) (last : Option LastResort) : List Token :=
  alts.flatMap Alternative.tokens ++ (last.map LastResort.tokens).getD []

/-! ## Statements -/

/-- The node of an assignment of a value to a target, if it can be assigned to. -/
def assigned? (place : Place) (value : Node) : Node → Option Node
  | .identifier _ name => some (.assignment place name value)
  | .index _ coll pos => some (.indexAssignment place coll pos value)
  | _ => none

/-- The tokens spell out the node as a statement. -/
inductive States : List Token → Node → Prop where
  | declaration {verb name preposition : Token} {value : List Token} {node : Node}
      (isVerb : verb.kind = .conjure ∨ verb.kind = .summon)
      (isName : name.kind = .identifier)
      (isAs : preposition.kind = .asWord)
      (untyped : ∀ token ∈ value.head?, Parser.isTypeWord token.kind = false)
      (valued : Expresses .disjunction value node) :
      States (verb :: name :: preposition :: value)
        (.declaration verb.place name.text node none false)
  | typedDeclaration {verb name preposition word : Token} {value : List Token} {node : Node}
      (isVerb : verb.kind = .conjure ∨ verb.kind = .summon)
      (isName : name.kind = .identifier)
      (isAs : preposition.kind = .asWord)
      (isType : Parser.isTypeWord word.kind = true)
      (valued : Expresses .disjunction value node) :
      States (verb :: name :: preposition :: word :: value)
        (.declaration verb.place name.text node word.hint false)
  | constant {word prophecy name preposition : Token} {value : List Token} {node : Node}
      (isConst : word.kind = .const)
      (isProphecy : prophecy.kind = .prophecy)
      (isName : name.kind = .identifier)
      (isAs : preposition.kind = .asWord)
      (valued : Expresses .disjunction value node) :
      States (word :: prophecy :: name :: preposition :: value)
        (.declaration word.place name.text node none true)
  | assignment {verb preposition : Token} {target value : List Token}
      {targetNode valueNode node : Node}
      (isVerb : verb.kind = .transmute)
      (targeted : Expresses .atom target targetNode)
      (isAs : preposition.kind = .asWord)
      (valued : Expresses .disjunction value valueNode)
      (assigns : assigned? verb.place valueNode targetNode = some node) :
      States (verb :: (target ++ preposition :: value)) node
  | deletion {verb name : Token} (isVerb : verb.kind = .vanquish)
      (isName : name.kind = .identifier) :
      States [verb, name] (.deletion verb.place name.text)
  | spell {word name opening closing : Token} {params inner body : List Token}
      {items : List Item} {aloud : Bool}
      (isWord : word.kind = if aloud then .incantation else .spell)
      (isName : name.kind = .identifier)
      (isOpening : opening.kind = .leftParen)
      (named : ∀ param ∈ params, param.kind = .identifier)
      (listed : Listing false (params.map ([·])) inner)
      (isClosing : closing.kind = .rightParen)
      (stated : ∀ item ∈ items, States item.1 item.2)
      (braced : Braced items body) :
      States (word :: name :: opening :: (inner ++ closing :: body))
        (.spell word.place name.text (params.map Token.text) (items.map Prod.snd) aloud)
  | bareCast {word : Token} (isCast : word.kind = .cast) : States [word] (.cast word.place none)
  | cast {word : Token} {value : List Token} {node : Node} (isCast : word.kind = .cast)
      (valued : Expresses .disjunction value node) :
      States (word :: value) (.cast word.place (some node))
  | conditional {prophecy reveals : Token} {test body : List Token} {condition : Node}
      {items : List Item} {alternatives : List Alternative} {last : Option LastResort}
      (isProphecy : prophecy.kind = .prophecy)
      (isReveals : reveals.kind = .reveals)
      (tested : Expresses .disjunction test condition)
      (stated : ∀ item ∈ items, States item.1 item.2)
      (braced : Braced items body)
      (testedAlso : ∀ alternative ∈ alternatives,
        Expresses .disjunction alternative.condition.1 alternative.condition.2)
      (statedAlso : ∀ alternative ∈ alternatives, ∀ item ∈ alternative.items, States item.1 item.2)
      (statedLast : ∀ resort ∈ last, ∀ item ∈ resort.items, States item.1 item.2) :
      States (prophecy :: reveals :: (test ++ (body ++ furtherTokens alternatives last)))
        (.conditional prophecy.place condition (items.map Prod.snd)
          (alternatives.map Alternative.branch) (last.map LastResort.branch))
  | patrol {word untilWord : Token} {test body : List Token} {condition : Node} {items : List Item}
      (isPatrol : word.kind = .patrol)
      (isUntil : untilWord.kind = .untilWord)
      (tested : Expresses .disjunction test condition)
      (stated : ∀ item ∈ items, States item.1 item.2)
      (braced : Braced items body) :
      States (word :: untilWord :: (test ++ body))
        (.patrol word.place condition (items.map Prod.snd))
  | hunt {word each name inWord : Token} {source body : List Token} {iterable : Node}
      {items : List Item}
      (isHunt : word.kind = .hunt)
      (isEach : each.kind = .each)
      (isName : name.kind = .identifier)
      (isIn : inWord.kind = .inWord)
      (drawn : Expresses .disjunction source iterable)
      (stated : ∀ item ∈ items, States item.1 item.2)
      (braced : Braced items body) :
      States (word :: each :: name :: inWord :: (source ++ body))
        (.hunt word.place name.text iterable (items.map Prod.snd))
  | breakLoop {word : Token} (isBreak : word.kind = .breakWord) :
      States [word] (.breakLoop word.place)
  | continueLoop {word : Token} (isContinue : word.kind = .continueWord) :
      States [word] (.continueLoop word.place)
  | expression {tokens : List Token} {node : Node} (valued : Expresses .disjunction tokens node) :
      States tokens (.expression node.place node)

/-- A statement has a first token, with which statements can begin. -/
theorem States.starts {tokens : List Token} {node : Node} (stated : States tokens node) :
    ∃ token rest, tokens = token :: rest ∧ token.kind.begins = true := by
  cases stated with
  | declaration isVerb _ _ _ _ =>
    refine ⟨_, _, rfl, ?_⟩
    rcases isVerb with isVerb | isVerb <;> rw [isVerb] <;> rfl
  | typedDeclaration isVerb _ _ _ _ =>
    refine ⟨_, _, rfl, ?_⟩
    rcases isVerb with isVerb | isVerb <;> rw [isVerb] <;> rfl
  | @spell _ _ _ _ _ _ _ _ aloud isWord _ _ _ _ _ _ _ =>
    refine ⟨_, _, rfl, ?_⟩
    rw [isWord]
    cases aloud <;> rfl
  | constant isWord _ _ _ _ | assignment isWord _ _ _ _ | deletion isWord _ | bareCast isWord
  | cast isWord _ | conditional isWord _ _ _ _ _ _ _ | patrol isWord _ _ _ _
  | hunt isWord _ _ _ _ _ _ | breakLoop isWord | continueLoop isWord =>
    exact ⟨_, _, rfl, by rw [isWord]; rfl⟩
  | expression valued =>
    obtain ⟨token, rest, rfl, starts⟩ := valued.starts
    refine ⟨token, rest, rfl, ?_⟩
    exact TokenKind.begins_of_opening starts

theorem States.length_pos {tokens : List Token} {node : Node} (stated : States tokens node) :
    0 < tokens.length := by
  obtain ⟨token, rest, rfl, -⟩ := stated.starts
  simp

end Grammar

end Spellbook
