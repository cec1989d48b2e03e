import Spellbook.Node
import Spellbook.Store.Display

/-!
# Sketches of syntax trees

A sketch is a syntax tree in which every node tells its kind, its place and its fields by name.  It
is what trees are shown as: as an outline over several lines, and on one line where a node is part
of a pair.
-/

namespace Spellbook

/-- A tree of nodes with named fields. -/
inductive Sketch where
  | node (kind : String) (place : Place) (fields : List (String × Sketch))
  | list (items : List Sketch)
  | tuple (items : List Sketch)
  | value (value : Value)

namespace Sketch

def text (words : String) : Sketch := value (.scroll words)

def flag (truth : Bool) : Sketch := value (.charm truth)

def nothing : Sketch := value .void

end Sketch

namespace Node

mutual

def sketch : Node → Sketch
  | stray value => .value value
  | bare place => .node "ASTNode" place []
  | literal place value => .node "Literal" place [("value", .value value)]
  | identifier place name => .node "Identifier" place [("name", .text name)]
  | binary place left op right =>
    .node "BinaryOp" place
      [("left", left.sketch), ("operator", .text op.spelling), ("right", right.sketch)]
  | unary place op operand =>
    .node "UnaryOp" place [("operator", .text op.spelling), ("operand", operand.sketch)]
  | tome place elements => .node "TomeExpr" place [("elements", .list (sketchAll elements))]
  | grimoire place pairs => .node "GrimoireExpr" place [("pairs", .list (sketchPairs pairs))]
  | index place coll pos =>
    .node "IndexExpr" place [("collection", coll.sketch), ("index", pos.sketch)]
  | call place callee args =>
    .node "CallExpr" place
      [("callee", callee.sketch), ("arguments", .list (sketchAll args))]
  | member place object name =>
    .node "MemberExpr" place [("object", object.sketch), ("member", .text name)]
  | program place stmts => .node "Program" place [("statements", .list (sketchAll stmts))]
  | declaration place name value typeHint constant =>
    .node "VarDecl" place
      [("name", .text name), ("value", value.sketch),
        ("type_hint", typeHint.elim .nothing .text), ("is_const", .flag constant)]
  | assignment place name value =>
    .node "VarAssign" place [("name", .text name), ("value", value.sketch)]
  | indexAssignment place coll pos value =>
    .node "IndexAssign" place
      [("collection", coll.sketch), ("index", pos.sketch), ("value", value.sketch)]
  | deletion place name => .node "VarDelete" place [("name", .text name)]
  | spell place name params body aloud =>
    .node "SpellDecl" place
      [("name", .text name), ("params", .list (params.map .text)),
        ("body", .list (sketchAll body)), ("is_incantation", .flag aloud)]
  | cast place value => .node "CastStmt" place [("value", sketchOption value)]
  | conditional place cond outcome alts otherwise =>
    .node "IfStmt" place
      [("condition", cond.sketch), ("then_branch", .list (sketchAll outcome)),
        ("elif_branches", .list (sketchBranches alts)),
        ("else_branch", sketchOptionAll otherwise)]
  | patrol place cond body =>
    .node "WhileStmt" place [("condition", cond.sketch), ("body", .list (sketchAll body))]
  | hunt place variableName iterable body =>
    .node "ForStmt" place
      [("variable", .text variableName), ("iterable", iterable.sketch),
        ("body", .list (sketchAll body))]
  | breakLoop place => .node "BreakStmt" place []
  | continueLoop place => .node "ContinueStmt" place []
  | expression place value => .node "ExprStmt" place [("expression", value.sketch)]

def sketchAll : List Node → List Sketch
  | [] => []
  | node :: nodes => node.sketch :: sketchAll nodes

def sketchPairs : List (Node × Node) → List Sketch
  | [] => []
  | (first, second) :: pairs => .tuple [first.sketch, second.sketch] :: sketchPairs pairs

def sketchBranches : List (Node × List Node) → List Sketch
  | [] => []
  | (cond, body) :: branches =>
    .tuple [cond.sketch, .list (sketchAll body)] :: sketchBranches branches

def sketchOption : Option Node → Sketch
  | none => .nothing
  | some node => node.sketch

def sketchOptionAll : Option (List Node) → Sketch
  | none => .nothing
  | some nodes => .list (sketchAll nodes)

end

end Node

namespace Sketch

def coordinate : Option Int → Except Fault String
  | some num => Number.textOfInteger num
  | none => .ok "None"

mutual

def inline (store : Store) : Sketch → Except Fault String
  | node kind place fields => do
    let line ← coordinate place.line
    let column ← coordinate place.column
    let rest ← inlineFields store fields
    return kind ++ "(line=" ++ line ++ ", column=" ++ column ++ rest ++ ")"
  | list items => do
    return "[" ++ String.intercalate ", " (← inlineAll store items) ++ "]"
  | tuple items => do
    return "(" ++ String.intercalate ", " (← inlineAll store items) ++ ")"
  | value part => store.quotedText part

def inlineAll (store : Store) : List Sketch → Except Fault (List String)
  | [] => .ok []
  | sketch :: sketches => do
    let first ← inline store sketch
    return first :: (← inlineAll store sketches)

/-- The fields of a node on one line, each after a comma. -/
def inlineFields (store : Store) : List (String × Sketch) → Except Fault String
  | [] => .ok ""
  | (name, sketch) :: fields => do
    let first ← inline store sketch
    return ", " ++ name ++ "=" ++ first ++ (← inlineFields store fields)

end

/-- The text of a part of a sketch that takes one line of an outline. -/
def leafText (store : Store) : Sketch → Except Fault String
  | value part => store.plainText part
  | sketch => sketch.inline store

/-- The lines of an outline, and the fault that cut it short. -/
structure Outline where
  lines : List String := []
  fault : Option Fault := none

namespace Outline

def andThen (outline next : Outline) : Outline :=
  match outline.fault with
  | some _ => outline
  | none => { lines := outline.lines ++ next.lines, fault := next.fault }

def line (start : String) : Except Fault String → Outline
  | .ok text => { lines := [start ++ text] }
  | .error fault => { fault := some fault }

end Outline

def indentation (indent : Int) : String := String.ofList (List.replicate (2 * indent.toNat) ' ')

mutual

def outline (store : Store) (indent : Int) : Sketch → Outline
  | node kind _ fields =>
    Outline.andThen { lines := [indentation indent ++ kind ++ ":"] }
      (outlineFields store indent fields)
  | list items => .line (indentation indent) ((list items).leafText store)
  | tuple items => .line (indentation indent) ((tuple items).leafText store)
  | value part => .line (indentation indent) (store.plainText part)

def outlineFields (store : Store) (indent : Int) : List (String × Sketch) → Outline
  | [] => {}
  | (name, sketch) :: fields =>
    let start := indentation indent ++ "  " ++ name ++ ":"
    let first : Outline := match sketch with
      | list items => Outline.andThen { lines := [start] } (outlineItems store indent items)
      | node kind place inner =>
        Outline.andThen { lines := [start] } (outline store (indent + 2) (node kind place inner))
      | value (.tome ref) =>
        Outline.andThen { lines := [start] }
          ((store.tome ref).toList.foldl
            (fun sofar item =>
              sofar.andThen (.line (indentation indent ++ "    ") (store.plainText item)))
            {})
      | sketch => .line (start ++ " ") (sketch.leafText store)
    first.andThen (outlineFields store indent fields)

def outlineItems (store : Store) (indent : Int) : List Sketch → Outline
  | [] => {}
  | sketch :: sketches =>
    let first : Outline := match sketch with
      | node kind place inner => outline store (indent + 2) (node kind place inner)
      | sketch => .line (indentation indent ++ "    ") (sketch.leafText store)
    first.andThen (outlineItems store indent sketches)

end

end Sketch

end Spellbook
