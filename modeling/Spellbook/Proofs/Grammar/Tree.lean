import Spellbook.Node

/-!
# Trees of expressions and of statements

The parser makes trees of a certain form only: operators exist, operands are expressions, and
statements stand only in blocks.
-/

namespace Spellbook.Node

/--
A tree of expressions only.  Its operators exist, and no statement and no absent node stands
anywhere in it.
-/
inductive IsExpression : Node → Prop where
  | literal (place : Place) (value : Value) : IsExpression (.literal place value)
  | identifier (place : Place) (name : String) : IsExpression (.identifier place name)
  | binary {left right : Node} {op : Operator} (place : Place)
      (known : op ∈ Operator.all)
      (leftSide : IsExpression left) (rightSide : IsExpression right) :
      IsExpression (.binary place left op right)
  | denial {operand : Node} (place : Place) (inner : IsExpression operand) :
      IsExpression (.unary place .denial operand)
  | negation {operand : Node} (place : Place) (inner : IsExpression operand) :
      IsExpression (.unary place .negation operand)
  | tome {elements : List Node} (place : Place) (all : ∀ element ∈ elements, IsExpression element) :
      IsExpression (.tome place elements)
  | grimoire {pairs : List (Node × Node)} (place : Place)
      (keys : ∀ pair ∈ pairs, IsExpression pair.1)
      (values : ∀ pair ∈ pairs, IsExpression pair.2) :
      IsExpression (.grimoire place pairs)
  | index {coll pos : Node} (place : Place)
      (indexed : IsExpression coll) (positioned : IsExpression pos) :
      IsExpression (.index place coll pos)
  | call {callee : Node} {args : List Node} (place : Place)
      (called : IsExpression callee) (all : ∀ argument ∈ args, IsExpression argument) :
      IsExpression (.call place callee args)
  | member {object : Node} (place : Place) (inner : IsExpression object) (name : String) :
      IsExpression (.member place object name)

/--
A tree of a statement.  What is evaluated in it is an expression, and statements stand only in the
blocks of conditionals, loops and spells.
-/
inductive IsStatement : Node → Prop where
  | declaration {value : Node} (place : Place) (name : String) (typeHint : Option String)
      (constant : Bool) (valued : IsExpression value) :
      IsStatement (.declaration place name value typeHint constant)
  | assignment {value : Node} (place : Place) (name : String) (valued : IsExpression value) :
      IsStatement (.assignment place name value)
  | indexAssignment {coll pos value : Node} (place : Place)
      (indexed : IsExpression coll) (positioned : IsExpression pos)
      (valued : IsExpression value) :
      IsStatement (.indexAssignment place coll pos value)
  | deletion (place : Place) (name : String) : IsStatement (.deletion place name)
  | spell {body : List Node} (place : Place) (name : String) (params : List String)
      (aloud : Bool) (stated : ∀ node ∈ body, IsStatement node) :
      IsStatement (.spell place name params body aloud)
  | bareCast (place : Place) : IsStatement (.cast place none)
  | cast {value : Node} (place : Place) (valued : IsExpression value) :
      IsStatement (.cast place (some value))
  | conditional {cond : Node} {outcome : List Node}
      {alts : List (Node × List Node)} {otherwise : Option (List Node)} (place : Place)
      (tested : IsExpression cond)
      (stated : ∀ node ∈ outcome, IsStatement node)
      (testedAlso : ∀ branch ∈ alts, IsExpression branch.1)
      (statedAlso : ∀ branch ∈ alts, ∀ node ∈ branch.2, IsStatement node)
      (statedLast : ∀ body ∈ otherwise, ∀ node ∈ body, IsStatement node) :
      IsStatement (.conditional place cond outcome alts otherwise)
  | patrol {cond : Node} {body : List Node} (place : Place)
      (tested : IsExpression cond) (stated : ∀ node ∈ body, IsStatement node) :
      IsStatement (.patrol place cond body)
  | hunt {iterable : Node} {body : List Node} (place : Place) (name : String)
      (drawn : IsExpression iterable) (stated : ∀ node ∈ body, IsStatement node) :
      IsStatement (.hunt place name iterable body)
  | breakLoop (place : Place) : IsStatement (.breakLoop place)
  | continueLoop (place : Place) : IsStatement (.continueLoop place)
  | expression {value : Node} (place : Place) (valued : IsExpression value) :
      IsStatement (.expression place value)

end Spellbook.Node
