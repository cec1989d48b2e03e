import Spellbook.Node
import Spellbook.Token
import Spellbook.Value.Conversion

/-!
# From tokens to trees

A parser by recursive descent. The levels of expressions are, from the loosest to the tightest:
`or`, `and`, `not`, comparisons, sums, products, powers, the minus sign, then calls, indices and
members. Binary operators associate to the left, except the power.

Every loop and every nesting takes a token, so a budget of one more than the number of tokens bounds
them all. A list of tokens without an end of file can be read past its end, which is a fault.
-/

namespace Spellbook

/-- A parser takes tokens from the front of a list. -/
abbrev Parser := StateT (List Token) (Except Trouble)

namespace Parser

def fail {α : Type} (cause : Cause) (place : Place) : Parser α :=
  throw (.caused cause place)

/-- Fail because a budget is used up. -/
def exhausted {α : Type} : Parser α := throw (.fault .exhausted)

def peek : Parser Token := do
  match ← get with
  | [] => throw (.fault .listOutOfRange)
  | token :: _ => return token

def drop : Parser Unit := modify List.tail

def atEnd : Parser Bool := return (← peek).kind == .endOfFile

def check (kind : TokenKind) : Parser Bool := do
  let token ← peek
  return token.kind != .endOfFile && token.kind == kind

def accept (kind : TokenKind) : Parser Bool := do
  let found ← check kind
  if found then drop
  return found

def consume (kind : TokenKind) (msg : String) : Parser Token := do
  let token ← peek
  if ← check kind then
    drop
    return token
  else fail (.expected msg) token.place

def skipNewlines : Parser Unit := do
  modify (List.dropWhile (·.kind == .newline))
  discard peek

def commaSeparated {α : Type} (item : Parser α) (closer : Option TokenKind) :
    (budget : Nat) → Parser (List α)
  | 0 => exhausted
  | budget + 1 => do
    let first ← item
    if ← accept .comma then
      let closed ← match closer with
        | some kind => check kind
        | none => pure false
      if closed then return [first]
      else return first :: (← commaSeparated item closer budget)
    else return [first]

def enclosed {α : Type} (item : Parser α) (closer : TokenKind) (trailingComma : Bool)
    (budget : Nat) (msg : String) : Parser (List α) := do
  let items ←
    if ← check closer then pure []
    else commaSeparated item (if trailingComma then some closer else none) budget
  discard (consume closer msg)
  return items

section Expressions

def pair (expression : Parser Node) : Parser (Node × Node) := do
  let key ← expression
  discard (consume .colon "Expected ':' after dictionary key")
  let value ← expression
  return (key, value)

def listLiteral (expression : Parser Node) (budget : Nat) (place : Place) : Parser Node := do
  return .tome place
    (← enclosed expression .rightBracket true budget "Expected ']' after list elements")

def dictLiteral (expression : Parser Node) (budget : Nat) (place : Place) : Parser Node := do
  return .grimoire place
    (← enclosed (pair expression) .rightBrace true budget "Expected '\x7d' after dictionary")

/-- The number after `potion`, which becomes a floating point number. -/
def potionLiteral (place : Place) : Parser Node := do
  let token ←
    if ← check .float then
      let token ← peek
      drop
      pure token
    else consume .integer "Expected number after 'potion'"
  match token.value with
  | .potion num birth => return .literal place (.potion num birth)
  | value =>
    match value.toFloat with
    | .ok num => return .literal place (.potion num 0)
    | .error fault => throw (.fault fault)

def charmLiteral (place : Place) : Parser Node := do
  if ← accept .trueWord then return .literal place (.charm true)
  else if ← accept .falseWord then return .literal place (.charm false)
  else fail (.expected "Expected 'true' or 'false' after 'charm'") place

/-- Literals, names, collections and expressions in parentheses. -/
def primary (expression : Parser Node) (budget : Nat) : Parser Node := do
  let token ← peek
  let place := token.place
  match token.kind with
  | .integer | .float | .string => drop; return .literal place token.value
  | .trueWord => drop; return .literal place (.charm true)
  | .falseWord => drop; return .literal place (.charm false)
  | .void => drop; return .literal place .void
  | .scroll =>
    drop
    return .literal place (← consume .string "Expected string after 'scroll'").value
  | .rune =>
    drop
    return .literal place (← consume .integer "Expected integer after 'rune'").value
  | .potion => drop; potionLiteral place
  | .charm => drop; charmLiteral place
  | .tome =>
    drop
    discard (consume .leftBracket "Expected '[' after 'tome'")
    listLiteral expression budget place
  | .grimoire =>
    drop
    discard (consume .leftBrace "Expected '\x7b' after 'grimoire'")
    dictLiteral expression budget place
  | .leftBracket => drop; listLiteral expression budget place
  | .leftBrace => drop; dictLiteral expression budget place
  | .identifier => drop; return .identifier place token.text
  | .leftParen =>
    drop
    let inner ← expression
    discard (consume .rightParen "Expected ')' after expression")
    return inner
  | kind => fail (.unexpectedToken kind.name) place

/-- Calls, indices and members that follow an expression. -/
def suffixes (expression : Parser Node) : (budget : Nat) → Node → Parser Node
  | 0, _ => exhausted
  | budget + 1, node => do
    if ← accept .leftParen then
      let args ←
        enclosed expression .rightParen false (budget + 1) "Expected ')' after arguments"
      suffixes expression budget (.call node.place node args)
    else if ← accept .leftBracket then
      let pos ← expression
      discard (consume .rightBracket "Expected ']' after index")
      suffixes expression budget (.index node.place node pos)
    else if ← accept .dot then
      let name ← consume .identifier "Expected member name after '.'"
      suffixes expression budget (.member node.place node name.text)
    else return node

/-- A primary expression with its calls, indices and members. -/
def postfixed (expression : Parser Node) (budget : Nat) : Parser Node := do
  suffixes expression budget (← primary expression budget)

def negated (expression : Parser Node) (outer : Nat) : (budget : Nat) → Parser Node
  | 0 => exhausted
  | budget + 1 => do
    let token ← peek
    if ← accept .minus then
      return .unary token.place .negation (← negated expression outer budget)
    else postfixed expression outer

def powers (expression : Parser Node) (outer : Nat) : (budget : Nat) → Parser Node
  | 0 => exhausted
  | budget + 1 => do
    let base ← negated expression outer outer
    if ← accept .power then
      return .binary base.place base .power (← powers expression outer budget)
    else return base

def joined (operatorOf : TokenKind → Option Operator) (operand : Parser Node) :
    (budget : Nat) → Node → Parser Node
  | 0, _ => exhausted
  | budget + 1, left => do
    match operatorOf (← peek).kind with
    | none => return left
    | some op =>
      drop
      let right ← operand
      joined operatorOf operand budget (.binary left.place left op right)

/-- One level of binary operators that associate to the left. -/
def leftAssociative (operatorOf : TokenKind → Option Operator) (operand : Parser Node)
    (budget : Nat) : Parser Node := do
  joined operatorOf operand budget (← operand)

def productOperator : TokenKind → Option Operator
  | .star => some .multiply
  | .slash => some .divide
  | .percent => some .modulo
  | _ => none

def sumOperator : TokenKind → Option Operator
  | .plus => some .add
  | .minus => some .subtract
  | _ => none

def comparisonOperator : TokenKind → Option Operator
  | .isWord => some .equal
  | .isntWord => some .unequal
  | .exceeds => some .greater
  | .under => some .less
  | .atleast => some .atLeast
  | .atmost => some .atMost
  | _ => none

def conjunctionOperator : TokenKind → Option Operator
  | .andWord => some .conjunction
  | _ => none

def disjunctionOperator : TokenKind → Option Operator
  | .orWord => some .disjunction
  | _ => none

def products (expression : Parser Node) (budget : Nat) : Parser Node :=
  leftAssociative productOperator (powers expression budget budget) budget

def sums (expression : Parser Node) (budget : Nat) : Parser Node :=
  leftAssociative sumOperator (products expression budget) budget

def comparisons (expression : Parser Node) (budget : Nat) : Parser Node :=
  leftAssociative comparisonOperator (sums expression budget) budget

def denials (expression : Parser Node) (outer : Nat) : (budget : Nat) → Parser Node
  | 0 => exhausted
  | budget + 1 => do
    let token ← peek
    if ← accept .notWord then
      return .unary token.place .denial (← denials expression outer budget)
    else comparisons expression outer

def conjunctions (expression : Parser Node) (budget : Nat) : Parser Node :=
  leftAssociative conjunctionOperator (denials expression budget budget) budget

def disjunctions (expression : Parser Node) (budget : Nat) : Parser Node :=
  leftAssociative disjunctionOperator (conjunctions expression budget) budget

def expression : (budget : Nat) → Parser Node
  | 0 => exhausted
  | budget + 1 => disjunctions (expression budget) (budget + 1)

end Expressions

section Statements

def isTypeWord : TokenKind → Bool
  | .scroll | .rune | .potion | .charm | .tome | .grimoire => true
  | _ => false

/-- A declaration of a variable, possibly with the word for a type before its value. -/
def declaration (value : Parser Node) (place : Place) : Parser Node := do
  let name ← consume .identifier "Expected variable name"
  discard (consume .asWord "Expected 'as' after variable name")
  let token ← peek
  if isTypeWord token.kind then
    drop
    return .declaration place name.text (← value) token.hint false
  else
    return .declaration place name.text (← value) none false

def constantDeclaration (value : Parser Node) (place : Place) : Parser Node := do
  discard (consume .prophecy "Expected 'prophecy' after 'const'")
  let name ← consume .identifier "Expected constant name"
  discard (consume .asWord "Expected 'as' after constant name")
  return .declaration place name.text (← value) none true

/-- A change of a variable, or of an element when the target in parentheses is an index. -/
def assignment (value : Parser Node) (budget : Nat) (place : Place) : Parser Node := do
  let target ← primary value budget
  discard (consume .asWord "Expected 'as' after assignment target")
  let value ← value
  match target with
  | .identifier _ name => return .assignment place name value
  | .index _ coll pos => return .indexAssignment place coll pos value
  | _ => fail .invalidTarget place

def deletion (place : Place) : Parser Node := do
  return .deletion place (← consume .identifier "Expected variable name to vanquish").text

def blockBody (statement : Parser Node) : (budget : Nat) → Parser (List Node)
  | 0 => exhausted
  | budget + 1 => do
    if (← check .rightBrace) || (← atEnd) then return []
    else
      skipNewlines
      if ← check .rightBrace then return []
      else
        let first ← statement
        skipNewlines
        return first :: (← blockBody statement budget)

def block (statement : Parser Node) (budget : Nat) : Parser (List Node) := do
  skipNewlines
  discard (consume .leftBrace "Expected '\x7b' to begin block")
  let statements ← blockBody statement budget
  discard (consume .rightBrace "Expected '\x7d' to end block")
  return statements

def spellDeclaration (statement : Parser Node) (budget : Nat) (place : Place) (aloud : Bool) :
    Parser Node := do
  let name ← consume .identifier "Expected spell name"
  discard (consume .leftParen "Expected '(' after spell name")
  let params ← enclosed (consume .identifier "Expected parameter name") .rightParen false
    budget "Expected ')' after parameters"
  return .spell place name.text (params.map Token.text) (← block statement budget) aloud

/-- The end of a spell, with or without a value. -/
def castStatement (value : Parser Node) (place : Place) : Parser Node := do
  if (← check .newline) || (← check .rightBrace) then return .cast place none
  else return .cast place (some (← value))

/-- The further branches of a conditional, wherever line feeds stand. -/
def branches (value statement : Parser Node) (outer : Nat) :
    (budget : Nat) → Parser (List (Node × List Node) × Option (List Node))
  | 0 => exhausted
  | budget + 1 => do
    skipNewlines
    if ← accept .otherwise then
      discard (consume .prophecy "Expected 'prophecy' after 'otherwise'")
      let cond ← value
      let body ← block statement outer
      let (alts, last) ← branches value statement outer budget
      return ((cond, body) :: alts, last)
    else if ← accept .fate then
      discard (consume .decrees "Expected 'decrees' after 'fate'")
      return ([], some (← block statement outer))
    else return ([], none)

def conditional (value statement : Parser Node) (budget : Nat) (place : Place) :
    Parser Node := do
  discard (consume .reveals "Expected 'reveals' after 'prophecy'")
  let cond ← value
  let outcome ← block statement budget
  let (alts, last) ← branches value statement budget budget
  return .conditional place cond outcome alts last

def patrol (value statement : Parser Node) (budget : Nat) (place : Place) : Parser Node := do
  discard (consume .untilWord "Expected 'until' after 'patrol'")
  let cond ← value
  return .patrol place cond (← block statement budget)

def hunt (value statement : Parser Node) (budget : Nat) (place : Place) : Parser Node := do
  discard (consume .each "Expected 'each' after 'hunt'")
  let name ← consume .identifier "Expected loop variable"
  discard (consume .inWord "Expected 'in' after loop variable")
  let iterable ← value
  return .hunt place name.text iterable (← block statement budget)

def statementWith (inner : Parser Node) (budget : Nat) : Parser Node := do
  let value := expression budget
  skipNewlines
  let token ← peek
  let place := token.place
  match token.kind with
  | .conjure | .summon => drop; declaration value place
  | .const => drop; constantDeclaration value place
  | .transmute => drop; assignment value budget place
  | .vanquish => drop; deletion place
  | .spell => drop; spellDeclaration inner budget place false
  | .incantation => drop; spellDeclaration inner budget place true
  | .cast => drop; castStatement value place
  | .prophecy => drop; conditional value inner budget place
  | .patrol => drop; patrol value inner budget place
  | .hunt => drop; hunt value inner budget place
  | .breakWord => drop; return .breakLoop place
  | .continueWord => drop; return .continueLoop place
  | _ =>
    let node ← value
    return .expression node.place node

def statement : (budget : Nat) → Parser Node
  | 0 => exhausted
  | budget + 1 => statementWith (statement budget) (budget + 1)

def statements (outer : Nat) : (budget : Nat) → Parser (List Node)
  | 0 => exhausted
  | budget + 1 => do
    if ← atEnd then return []
    else
      skipNewlines
      if ← atEnd then return []
      else
        let first ← statement outer
        return first :: (← statements outer budget)

end Statements

def parse (tokens : List Token) : Except Trouble Node := do
  let budget := tokens.length + 1
  let (nodes, _) ← (statements budget budget).run tokens
  return .program (.known 0 0) nodes

end Parser

end Spellbook
