import Spellbook.Node
import Spellbook.Token

/-!
# Trees and tokens up to their places

Two trees are the same up to places if they become equal once all places are forgotten, and two
tokens if they have the same kind and the same value.
-/

namespace Spellbook

/-- A token without its place. -/
structure Lexeme where
  kind : TokenKind
  value : Value

/-- What a token is apart from its place. -/
def Token.lexeme (token : Token) : Lexeme := ⟨token.kind, token.value⟩

/-- The text that a lexeme carries. -/
def Lexeme.text (lexeme : Lexeme) : String := Token.text ⟨lexeme.kind, lexeme.value, 0, 0⟩

namespace Node

mutual

/-- The node with all places forgotten. -/
def unplaced : Node → Node
  | stray value => stray value
  | bare _ => bare .unknown
  | literal _ value => literal .unknown value
  | identifier _ name => identifier .unknown name
  | binary _ left op right => binary .unknown left.unplaced op right.unplaced
  | unary _ op operand => unary .unknown op operand.unplaced
  | tome _ elems => tome .unknown (unplacedAll elems)
  | grimoire _ pairs => grimoire .unknown (unplacedPairs pairs)
  | index _ coll pos => index .unknown coll.unplaced pos.unplaced
  | call _ callee args => call .unknown callee.unplaced (unplacedAll args)
  | member _ object name => member .unknown object.unplaced name
  | program _ stmts => program .unknown (unplacedAll stmts)
  | declaration _ name value typeHint constant =>
    declaration .unknown name value.unplaced typeHint constant
  | assignment _ name value => assignment .unknown name value.unplaced
  | indexAssignment _ coll pos value =>
    indexAssignment .unknown coll.unplaced pos.unplaced value.unplaced
  | deletion _ name => deletion .unknown name
  | spell _ name params body aloud =>
    spell .unknown name params (unplacedAll body) aloud
  | cast _ value => cast .unknown (unplacedOption value)
  | conditional _ cond outcome alts otherwise =>
    conditional .unknown cond.unplaced (unplacedAll outcome)
      (unplacedBranches alts) (unplacedBlock otherwise)
  | patrol _ cond body => patrol .unknown cond.unplaced (unplacedAll body)
  | hunt _ variableName iterable body =>
    hunt .unknown variableName iterable.unplaced (unplacedAll body)
  | breakLoop _ => breakLoop .unknown
  | continueLoop _ => continueLoop .unknown
  | expression _ value => expression .unknown value.unplaced

def unplacedAll : List Node → List Node
  | [] => []
  | node :: nodes => node.unplaced :: unplacedAll nodes

def unplacedPairs : List (Node × Node) → List (Node × Node)
  | [] => []
  | (first, second) :: pairs => (first.unplaced, second.unplaced) :: unplacedPairs pairs

def unplacedBranches : List (Node × List Node) → List (Node × List Node)
  | [] => []
  | (condition, body) :: branches =>
    (condition.unplaced, unplacedAll body) :: unplacedBranches branches

def unplacedOption : Option Node → Option Node
  | none => none
  | some node => some node.unplaced

def unplacedBlock : Option (List Node) → Option (List Node)
  | none => none
  | some body => some (unplacedAll body)

end

@[simp]
theorem unplacedAll_eq_map (nodes : List Node) :
    unplacedAll nodes = nodes.map unplaced := by
  induction nodes with
  | nil => rfl
  | cons node nodes ih => rw [unplacedAll, ih, List.map_cons]

@[simp]
theorem unplacedPairs_eq_map (pairs : List (Node × Node)) :
    unplacedPairs pairs = pairs.map fun pair => (pair.1.unplaced, pair.2.unplaced) := by
  induction pairs with
  | nil => rfl
  | cons pair pairs ih => rw [unplacedPairs, ih, List.map_cons]

@[simp]
theorem unplacedBranches_eq_map (branches : List (Node × List Node)) :
    unplacedBranches branches =
      branches.map fun branch => (branch.1.unplaced, branch.2.map unplaced) := by
  induction branches with
  | nil => rfl
  | cons branch branches ih =>
    rw [unplacedBranches, ih, List.map_cons, unplacedAll_eq_map]

@[simp]
theorem unplacedOption_eq_map (value : Option Node) :
    unplacedOption value = value.map unplaced := by
  cases value <;> rfl

@[simp]
theorem unplacedBlock_eq_map (block : Option (List Node)) :
    unplacedBlock block = block.map (List.map unplaced) := by
  cases block with
  | none => rfl
  | some body => rw [unplacedBlock, unplacedAll_eq_map, Option.map_some]

end Node

end Spellbook
