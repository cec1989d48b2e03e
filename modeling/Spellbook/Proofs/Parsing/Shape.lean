import Spellbook.Proofs.Grammar.Tree
import Spellbook.Proofs.Parsing.StatementSound

/-!
# The shape of the trees that are read

Whatever the grammar spells out as an expression is a tree of expressions, and whatever it spells
out as a statement is a tree of a statement.  So a script that is read is a program of statements.
-/

namespace Spellbook

open List Grammar

namespace Grammar

theorem mem_all_of_operator {level : Level} {kind : TokenKind} {op : Operator}
    (isOperator : level.operator? kind = some op) : op ∈ Operator.all := by
  cases level <;> cases kind <;> cases isOperator <;> decide

theorem isExpression_of_leaf {token : Token} {node : Node} (isLeaf : token.leaf? = some node) :
    node.IsExpression := by
  unfold Token.leaf? at isLeaf
  split at isLeaf
  all_goals first
    | (cases isLeaf; exact .literal _ _)
    | (cases isLeaf; exact .identifier _ _)
    | cases isLeaf

/-- What is spelled out as an expression is a tree of expressions. -/
theorem Expresses.isExpression {level : Level} {tokens : List Token} {node : Node}
    (spelled : Expresses level tokens node) : node.IsExpression := by
  have nodes : ∀ {items : List Item}, (∀ item ∈ items, item.2.IsExpression) →
      ∀ node ∈ items.map Prod.snd, node.IsExpression := by
    intro items expressions node mem
    obtain ⟨item, inside, rfl⟩ := mem_map.mp mem
    exact expressions item inside
  induction spelled with
  | loosen inner ih => exact ih
  | join leftSide isOperator rightSide leftIh rightIh =>
    exact .binary _ (mem_all_of_operator isOperator) leftIh rightIh
  | power leftSide isPower rightSide leftIh rightIh => exact .binary _ (by decide) leftIh rightIh
  | deny isNot inner ih => exact .denial _ ih
  | negate isMinus inner ih => exact .negation _ ih
  | call called isOpening args listed isClosing calledIh argumentsIh =>
    exact .call _ calledIh (nodes argumentsIh)
  | index indexed isOpening positioned isClosing indexedIh positionIh =>
    exact .index _ indexedIh positionIh
  | member inner isDot isName ih => exact .member _ ih _
  | leaf isLeaf => exact isExpression_of_leaf isLeaf
  | annotated isLiteral => exact .literal _ _
  | tome opened elems listed isClosing ih => exact .tome _ (nodes ih)
  | grimoire opened keys colons values listed isClosing keysIh valuesIh =>
    refine .grimoire _ ?_ ?_
    · exact forall_mem_map.mpr keysIh
    · exact forall_mem_map.mpr valuesIh
  | group isOpening inside isClosing ih => exact ih

theorem isStatement_of_assigned {place : Place} {target value node : Node}
    (targeted : target.IsExpression) (valued : value.IsExpression)
    (assigns : assigned? place value target = some node) : node.IsStatement := by
  cases targeted with
  | identifier =>
    cases assigns
    exact .assignment _ _ valued
  | index place indexed positioned =>
    cases assigns
    exact .indexAssignment _ indexed positioned valued
  | _ => cases assigns

/-- What is spelled out as a statement is a tree of a statement. -/
theorem States.isStatement {tokens : List Token} {node : Node} (stated : States tokens node) :
    node.IsStatement := by
  have nodes : ∀ {items : List Item}, (∀ item ∈ items, item.2.IsStatement) →
      ∀ node ∈ items.map Prod.snd, node.IsStatement := by
    intro items stmts node mem
    obtain ⟨item, inside, rfl⟩ := mem_map.mp mem
    exact stmts item inside
  induction stated with
  | declaration isVerb isName isAs untyped valued => exact .declaration _ _ _ _ valued.isExpression
  | typedDeclaration isVerb isName isAs isType valued =>
    exact .declaration _ _ _ _ valued.isExpression
  | constant isConst isProphecy isName isAs valued => exact .declaration _ _ _ _ valued.isExpression
  | assignment isVerb targeted isAs valued assigns =>
    exact isStatement_of_assigned targeted.isExpression valued.isExpression assigns
  | deletion isVerb isName => exact .deletion _ _
  | spell isWord isName isOpening named listed isClosing stated braced ih =>
    exact .spell _ _ _ _ (nodes ih)
  | bareCast isCast => exact .bareCast _
  | cast isCast valued => exact .cast _ valued.isExpression
  | conditional isProphecy isReveals tested stated braced testedAlso statedAlso statedLast ih ihAlso
      ihLast =>
    refine .conditional _ tested.isExpression (nodes ih) ?_ ?_ ?_
    · intro branch mem
      obtain ⟨alt, inside, rfl⟩ := mem_map.mp mem
      exact (testedAlso alt inside).isExpression
    · intro branch mem
      obtain ⟨alt, inside, rfl⟩ := mem_map.mp mem
      exact nodes (ihAlso alt inside)
    · intro body mem
      obtain ⟨resort, inside, rfl⟩ := Option.map_eq_some_iff.mp mem
      exact nodes (ihLast resort inside)
  | patrol isPatrol isUntil tested stated braced ih =>
    exact .patrol _ tested.isExpression (nodes ih)
  | hunt isHunt isEach isName isIn drawn stated braced ih =>
    exact .hunt _ _ drawn.isExpression (nodes ih)
  | breakLoop isBreak => exact .breakLoop _
  | continueLoop isContinue => exact .continueLoop _
  | expression valued => exact .expression _ valued.isExpression

end Grammar

/-- A script that is read is a program of statements. -/
theorem Parser.exists_statements {tokens : List Token} {tree : Node}
    (read : Parser.parse tokens = .ok tree) :
    ∃ stmts, tree = .program (.known 0 0) stmts ∧ ∀ node ∈ stmts, node.IsStatement := by
  obtain ⟨items, body, finish, rest, -, -, -, stated, rfl⟩ := Parser.parse_eq_ok.mp read
  refine ⟨items.map Prod.snd, rfl, ?_⟩
  intro node mem
  obtain ⟨item, inside, rfl⟩ := mem_map.mp mem
  exact (stated item inside).isStatement

end Spellbook
