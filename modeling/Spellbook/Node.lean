import Spellbook.Trouble
import Spellbook.Value

/-!
# Syntax trees

A script is a tree of nodes.  Statements and expressions are nodes of one type, because every
statement has a value and may stand wherever a value is wanted.

Trees that no source produces can be built by hand: with operators that do not exist, with bare
nodes of no kind, and with values that stand where a node should.  They have a meaning too, an
error.
-/

namespace Spellbook

inductive Operator where
  | add
  | subtract
  | multiply
  | divide
  | modulo
  | power
  | equal
  | unequal
  | greater
  | less
  | atLeast
  | atMost
  | conjunction
  | disjunction
  /-- An operator that does not exist. -/
  | unknown (spelling : String)
  deriving DecidableEq

namespace Operator

def spelling : Operator → String
  | add => "+"
  | subtract => "-"
  | multiply => "*"
  | divide => "/"
  | modulo => "%"
  | power => "**"
  | equal => "is"
  | unequal => "isnt"
  | greater => "exceeds"
  | less => "under"
  | atLeast => "atleast"
  | atMost => "atmost"
  | conjunction => "and"
  | disjunction => "or"
  | unknown spelling => spelling

def all : List Operator :=
  [add, subtract, multiply, divide, modulo, power, equal, unequal, greater, less, atLeast, atMost,
    conjunction, disjunction]

def ofSpelling (spelling : String) : Operator :=
  (all.find? (·.spelling == spelling)).getD (unknown spelling)

end Operator

inductive UnaryOperator where
  | negation
  | denial
  | unknown (spelling : String)
  deriving DecidableEq

namespace UnaryOperator

def spelling : UnaryOperator → String
  | negation => "-"
  | denial => "not"
  | unknown spelling => spelling

def ofSpelling (spelling : String) : UnaryOperator :=
  if spelling == "-" then negation
  else if spelling == "not" then denial
  else unknown spelling

end UnaryOperator

/-- A node of a syntax tree. -/
inductive Node where
  /-- A value where a node should stand; a missing node is a stray void. -/
  | stray (value : Value)
  | bare (place : Place)
  | literal (place : Place) (value : Value)
  | identifier (place : Place) (name : String)
  | binary (place : Place) (left : Node) (op : Operator) (right : Node)
  | unary (place : Place) (op : UnaryOperator) (operand : Node)
  | tome (place : Place) (elements : List Node)
  | grimoire (place : Place) (pairs : List (Node × Node))
  | index (place : Place) (coll pos : Node)
  | call (place : Place) (callee : Node) (args : List Node)
  | member (place : Place) (object : Node) (name : String)
  | program (place : Place) (stmts : List Node)
  | declaration (place : Place) (name : String) (value : Node) (typeHint : Option String)
      (constant : Bool)
  | assignment (place : Place) (name : String) (value : Node)
  | indexAssignment (place : Place) (coll pos value : Node)
  | deletion (place : Place) (name : String)
  | spell (place : Place) (name : String) (params : List String) (body : List Node)
      (aloud : Bool)
  | cast (place : Place) (value : Option Node)
  | conditional (place : Place) (cond : Node) (outcome : List Node)
      (alts : List (Node × List Node)) (otherwise : Option (List Node))
  | patrol (place : Place) (cond : Node) (body : List Node)
  | hunt (place : Place) (variableName : String) (iterable : Node) (body : List Node)
  | breakLoop (place : Place)
  | continueLoop (place : Place)
  | expression (place : Place) (value : Node)

instance : Inhabited Node := ⟨.stray .void⟩

namespace Node

def missing : Node := stray .void

def place : Node → Place
  | stray _ => .unknown
  | bare place | literal place _ | identifier place _ | binary place .. | unary place ..
  | tome place _ | grimoire place _ | index place .. | call place .. | member place ..
  | program place _ | declaration place .. | assignment place .. | indexAssignment place ..
  | deletion place _ | spell place .. | cast place _ | conditional place .. | patrol place ..
  | hunt place .. | breakLoop place | continueLoop place | expression place _ => place

def kindName : Node → String
  | stray value => value.typeName
  | bare _ => "ASTNode"
  | literal .. => "Literal"
  | identifier .. => "Identifier"
  | binary .. => "BinaryOp"
  | unary .. => "UnaryOp"
  | tome .. => "TomeExpr"
  | grimoire .. => "GrimoireExpr"
  | index .. => "IndexExpr"
  | call .. => "CallExpr"
  | member .. => "MemberExpr"
  | program .. => "Program"
  | declaration .. => "VarDecl"
  | assignment .. => "VarAssign"
  | indexAssignment .. => "IndexAssign"
  | deletion .. => "VarDelete"
  | spell .. => "SpellDecl"
  | cast .. => "CastStmt"
  | conditional .. => "IfStmt"
  | patrol .. => "WhileStmt"
  | hunt .. => "ForStmt"
  | breakLoop _ => "BreakStmt"
  | continueLoop _ => "ContinueStmt"
  | expression .. => "ExprStmt"

end Node

end Spellbook
