import Spellbook.Number.Conversion
import Spellbook.Trouble
import Spellbook.Value

/-!
# Tokens

The words and signs of which scripts consist.  Every kind of token has a name; keywords and signs
have one spelling each.
-/

namespace Spellbook

inductive TokenKind where
  | integer
  | float
  | string
  | identifier
  | conjure
  | summon
  | transmute
  | const
  | prophecy
  | vanquish
  | asWord
  | scroll
  | rune
  | potion
  | charm
  | tome
  | grimoire
  | void
  | trueWord
  | falseWord
  | spell
  | incantation
  | cast
  | reveals
  | otherwise
  | fate
  | decrees
  | patrol
  | untilWord
  | hunt
  | each
  | inWord
  | breakWord
  | continueWord
  | isWord
  | isntWord
  | exceeds
  | under
  | atleast
  | atmost
  | andWord
  | orWord
  | notWord
  | plus
  | minus
  | star
  | slash
  | percent
  | power
  | leftParen
  | rightParen
  | leftBracket
  | rightBracket
  | leftBrace
  | rightBrace
  | comma
  | colon
  | dot
  | newline
  | indent
  | dedent
  | endOfFile
  | comment
  deriving DecidableEq

namespace TokenKind

def name : TokenKind → String
  | integer => "INTEGER"
  | float => "FLOAT"
  | string => "STRING"
  | identifier => "IDENTIFIER"
  | conjure => "CONJURE"
  | summon => "SUMMON"
  | transmute => "TRANSMUTE"
  | const => "CONST"
  | prophecy => "PROPHECY"
  | vanquish => "VANQUISH"
  | asWord => "AS"
  | scroll => "SCROLL"
  | rune => "RUNE"
  | potion => "POTION"
  | charm => "CHARM"
  | tome => "TOME"
  | grimoire => "GRIMOIRE"
  | void => "VOID"
  | trueWord => "TRUE"
  | falseWord => "FALSE"
  | spell => "SPELL"
  | incantation => "INCANTATION"
  | cast => "CAST"
  | reveals => "REVEALS"
  | otherwise => "OTHERWISE"
  | fate => "FATE"
  | decrees => "DECREES"
  | patrol => "PATROL"
  | untilWord => "UNTIL"
  | hunt => "HUNT"
  | each => "EACH"
  | inWord => "IN"
  | breakWord => "BREAK"
  | continueWord => "CONTINUE"
  | isWord => "IS"
  | isntWord => "ISNT"
  | exceeds => "EXCEEDS"
  | under => "UNDER"
  | atleast => "ATLEAST"
  | atmost => "ATMOST"
  | andWord => "AND"
  | orWord => "OR"
  | notWord => "NOT"
  | plus => "PLUS"
  | minus => "MINUS"
  | star => "STAR"
  | slash => "SLASH"
  | percent => "PERCENT"
  | power => "POWER"
  | leftParen => "LPAREN"
  | rightParen => "RPAREN"
  | leftBracket => "LBRACKET"
  | rightBracket => "RBRACKET"
  | leftBrace => "LBRACE"
  | rightBrace => "RBRACE"
  | comma => "COMMA"
  | colon => "COLON"
  | dot => "DOT"
  | newline => "NEWLINE"
  | indent => "INDENT"
  | dedent => "DEDENT"
  | endOfFile => "EOF"
  | comment => "COMMENT"

def all : List TokenKind :=
  [integer, float, string, identifier, conjure, summon, transmute, const, prophecy, vanquish,
    asWord, scroll, rune, potion, charm, tome, grimoire, void, trueWord, falseWord, spell,
    incantation, cast, reveals, otherwise, fate, decrees, patrol, untilWord, hunt, each, inWord,
    breakWord, continueWord, isWord, isntWord, exceeds, under, atleast, atmost, andWord, orWord,
    notWord, plus, minus, star, slash, percent, power, leftParen, rightParen, leftBracket,
    rightBracket, leftBrace, rightBrace, comma, colon, dot, newline, indent, dedent, endOfFile,
    comment]

def ofName? (name : String) : Option TokenKind := all.find? (·.name == name)

def keywords : List (String × TokenKind) :=
  [("conjure", conjure), ("summon", summon), ("transmute", transmute), ("const", const),
    ("prophecy", prophecy), ("vanquish", vanquish), ("as", asWord), ("scroll", scroll),
    ("rune", rune), ("potion", potion), ("charm", charm), ("tome", tome),
    ("grimoire", grimoire), ("void", void), ("true", trueWord), ("false", falseWord),
    ("spell", spell), ("incantation", incantation), ("cast", cast), ("reveals", reveals),
    ("otherwise", otherwise), ("fate", fate), ("decrees", decrees), ("patrol", patrol),
    ("until", untilWord), ("hunt", hunt), ("each", each), ("in", inWord),
    ("break", breakWord), ("continue", continueWord), ("is", isWord), ("isnt", isntWord),
    ("exceeds", exceeds), ("under", under), ("atleast", atleast), ("atmost", atmost),
    ("and", andWord), ("or", orWord), ("not", notWord)]

def ofWord (word : String) : TokenKind := (keywords.lookup word).getD identifier

def ofSign? : Char → Option TokenKind
  | '+' => some plus
  | '-' => some minus
  | '*' => some star
  | '/' => some slash
  | '%' => some percent
  | '(' => some leftParen
  | ')' => some rightParen
  | '[' => some leftBracket
  | ']' => some rightBracket
  | '{' => some leftBrace
  | '}' => some rightBrace
  | ',' => some comma
  | ':' => some colon
  | '.' => some dot
  | _ => none

/-- How a token changes the number of open brackets, which never falls below zero. -/
def depthAfter (depth : Nat) : TokenKind → Nat
  | leftParen | leftBracket | leftBrace => depth + 1
  | rightParen | rightBracket | rightBrace => depth - 1
  | _ => depth

end TokenKind

/-- A token with its value and its place. -/
structure Token where
  kind : TokenKind
  value : Value
  line : Int
  column : Int

namespace Token

def place (token : Token) : Place := .known token.line token.column

def text (token : Token) : String :=
  match token.value with
  | .scroll text => text
  | _ => ""

/-- The hint at a type that a token gives, if it carries one. -/
def hint (token : Token) : Option String :=
  match token.value with
  | .void => none
  | _ => some token.text

def valueText (token : Token) : String :=
  match token.value with
  | .rune integer => Number.integerText integer
  | .potion num _ => Number.floatText num
  | .scroll text => Text.quoted text
  | _ => ""

def describe (token : Token) : String :=
  "Token(" ++ token.kind.name ++ ", " ++ token.valueText ++
    ", line=" ++ Number.integerText token.line ++
    ", col=" ++ Number.integerText token.column ++ ")"

end Token

end Spellbook
