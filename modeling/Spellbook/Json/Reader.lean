import Spellbook.Datum
import Spellbook.Number.Conversion

/-!
# Reading JSON

The reader takes characters off the front of the text and keeps the rest.  A flaw is a message
together with how much of the text was left where it was found; the line and column that the full
message tells are computed from that at the end.
-/

namespace Spellbook.Json

/-- Why a text is not JSON. -/
inductive Flaw where
  /-- The text is malformed where so many characters are left. -/
  | malformed (msg : String) (left : Nat)
  | unreadable (fault : Fault)

def flawAt {α : Type} (msg : String) (text : List Char) : Except Flaw α :=
  .error (.malformed msg text.length)

/-- Is the character a blank between the parts of a text? -/
def isBlank (char : Char) : Bool :=
  char == ' ' || char == '\t' || char == '\n' || char == '\r'

def skipBlanks (text : List Char) : List Char := text.dropWhile isBlank

def hexValue? (char : Char) : Option Nat :=
  let point := char.toNat
  if 48 ≤ point && point ≤ 57 then some (point - 48)
  else if 97 ≤ point && point ≤ 102 then some (point - 87)
  else if 65 ≤ point && point ≤ 70 then some (point - 55)
  else none

def hexUnit? (digits : List Char) : Option Nat :=
  if digits.length = 4 then
    digits.foldlM (fun value digit => (hexValue? digit).map (16 * value + ·)) 0
  else none

/-- The character that an escape of a single letter stands for. -/
def simpleEscape? : Char → Option Char
  | '"' => some '"'
  | '\\' => some '\\'
  | '/' => some '/'
  | 'b' => some '\x08'
  | 'f' => some '\x0c'
  | 'n' => some '\n'
  | 'r' => some '\r'
  | 't' => some '\t'
  | _ => none

/-- Is the code unit the first half of a pair? -/
def isHighHalf (unit : Nat) : Bool := 0xD800 ≤ unit && unit ≤ 0xDBFF

def isLowHalf (unit : Nat) : Bool := 0xDC00 ≤ unit && unit ≤ 0xDFFF

/-- The character of a code unit; one half alone is replaced. -/
def unitChar (unit : Nat) : Char :=
  if isHighHalf unit || isLowHalf unit then Char.ofNat 0xFFFD else Char.ofNat unit

/-- The number that follows a code unit as the second half of a pair, where one may follow. -/
def secondUnit (text : List Char) : Except Flaw (Option Nat) :=
  match text with
  | '\\' :: 'u' :: digits =>
    if text.length ≤ 6 then .ok none
    else match hexUnit? (digits.take 4) with
      | none => flawAt "Invalid \\uXXXX escape" (text.drop 1)
      | some unit => .ok (if isLowHalf unit then some unit else none)
  | _ => .ok none

def numberEscape (text : List Char) : Except Flaw (Char × List Char) :=
  if text.length ≤ 4 then .error (.malformed "Invalid \\uXXXX escape" (text.length + 1))
  else
    let rest := text.drop 4
    match hexUnit? (text.take 4) with
    | none => .error (.malformed "Invalid \\uXXXX escape" (text.length + 1))
    | some unit =>
      if isHighHalf unit then
        match secondUnit rest with
        | .error flaw => .error flaw
        | .ok (some low) =>
          .ok (Char.ofNat (0x10000 + (unit - 0xD800) * 0x400 + (low - 0xDC00)), rest.drop 6)
        | .ok none => .ok (unitChar unit, rest)
      else .ok (unitChar unit, rest)

/-- The characters of a string after its opening quote, of which `left` were left before it. -/
def readChars (left : Nat) : (budget : Nat) → List Char → Except Flaw (List Char × List Char)
  | 0, _ => .error (.malformed "Unterminated string starting at" left)
  | _ + 1, [] => .error (.malformed "Unterminated string starting at" left)
  | _ + 1, '"' :: rest => .ok ([], rest)
  | budget + 1, '\\' :: rest =>
    match rest with
    | [] => .error (.malformed "Unterminated string starting at" left)
    | 'u' :: digits =>
      match numberEscape digits with
      | .error flaw => .error flaw
      | .ok (char, others) => do
        let (chars, others) ← readChars left budget others
        return (char :: chars, others)
    | letter :: others =>
      match simpleEscape? letter with
      | none => .error (.malformed "Invalid \\escape" (others.length + 2))
      | some char => do
        let (chars, others) ← readChars left budget others
        return (char :: chars, others)
  | budget + 1, char :: rest =>
    if char.toNat < 32 then flawAt "Invalid control character at" (char :: rest)
    else do
      let (chars, others) ← readChars left budget rest
      return (char :: chars, others)

def readString (text : List Char) : Except Flaw (String × List Char) := do
  let (chars, rest) ← readChars (text.length + 1) (text.length + 1) text
  return (String.ofList chars, rest)

def isDigit (char : Char) : Bool := '0' ≤ char && char ≤ '9'

def takeDigits (text : List Char) : List Char × List Char :=
  (text.takeWhile isDigit, text.dropWhile isDigit)

/-- Cut the whole part of a number off a text: zero, or digits that start with another digit. -/
def takeWhole : List Char → Option (List Char × List Char)
  | '0' :: rest => some (['0'], rest)
  | text =>
    let (digits, rest) := takeDigits text
    if digits.isEmpty then none else some (digits, rest)

/-- Cut a point off a text with the digits after it, if there are any. -/
def takeFraction (text : List Char) : List Char × List Char :=
  match text with
  | '.' :: rest =>
    let (digits, others) := takeDigits rest
    if digits.isEmpty then ([], text) else (digits, others)
  | _ => ([], text)

def takeExponent (text : List Char) : Option Int × List Char :=
  match text with
  | letter :: rest =>
    if letter == 'e' || letter == 'E' then
      let (negative, others) := Number.takeSign rest
      let (digits, others) := takeDigits others
      let value : Int := Number.digitsValue digits
      if digits.isEmpty then (none, text) else (some (if negative then -value else value), others)
    else (none, text)
  | [] => (none, text)

def takeMinus : List Char → List Char × List Char
  | '-' :: rest => (['-'], rest)
  | text => ([], text)

def readNumber (text : List Char) : Except Flaw (Datum × List Char) :=
  let (minus, body) := takeMinus text
  match takeWhole body with
  | none => flawAt "Expecting value" text
  | some (whole, rest) =>
    let (frac, rest) := takeFraction rest
    let (exp, rest) := takeExponent rest
    if frac.isEmpty && exp.isNone then
      match Number.integerOfText (String.ofList (minus ++ whole)) with
      | .ok integer => .ok (.rune integer, rest)
      | .error fault => .error (.unreadable fault)
    else
      .ok (.potion (Number.nearestDecimal (!minus.isEmpty) (Number.digitsValue (whole ++ frac))
        (exp.getD 0 - frac.length)), rest)

/-- The words with a meaning, and the data that they stand for. -/
def words : List (List Char × Datum) :=
  [("null".toList, .void), ("true".toList, .charm true), ("false".toList, .charm false),
    ("NaN".toList, .potion Binary64.notANumber),
    ("Infinity".toList, .potion (Binary64.infinity false)),
    ("-Infinity".toList, .potion (Binary64.infinity true))]

def readScalar (text : List Char) : Except Flaw (Datum × List Char) :=
  match words.find? fun (word, _) => word.isPrefixOf text with
  | some (word, datum) => .ok (datum, text.drop word.length)
  | none => readNumber text

mutual

/-- A value, with at most so many values nested or one after the other. -/
def readValue : (budget : Nat) → List Char → Except Flaw (Datum × List Char)
  | 0, text => flawAt "Expecting value" text
  | _ + 1, '"' :: rest => do
    let (text, rest) ← readString rest
    return (.scroll text, rest)
  | budget + 1, '[' :: rest =>
    match skipBlanks rest with
    | ']' :: others => .ok (.list [], others)
    | others => do
      let (items, others) ← readItems budget others
      return (.list items, others)
  | budget + 1, '\x7b' :: rest =>
    match skipBlanks rest with
    | '\x7d' :: others => .ok (.dict [], others)
    | others => do
      let (entries, others) ← readEntries budget others
      return (.dict entries, others)
  | _ + 1, text => readScalar text

def readItems : (budget : Nat) → List Char → Except Flaw (List Datum × List Char)
  | 0, text => flawAt "Expecting value" text
  | budget + 1, text => do
    let (item, rest) ← readValue budget text
    match skipBlanks rest with
    | ']' :: others => return ([item], others)
    | ',' :: others =>
      let (items, others) ← readItems budget (skipBlanks others)
      return (item :: items, others)
    | others => flawAt "Expecting ',' delimiter" others

/-- The entries of a dictionary that is not empty, up to its end. -/
def readEntries : (budget : Nat) → List Char → Except Flaw (List (Datum × Datum) × List Char)
  | 0, text => flawAt "Expecting value" text
  | budget + 1, '"' :: text => do
    let (key, rest) ← readString text
    match skipBlanks rest with
    | ':' :: others =>
      let (datum, rest) ← readValue budget (skipBlanks others)
      match skipBlanks rest with
      | '\x7d' :: others => return ([(.scroll key, datum)], others)
      | ',' :: others =>
        let (entries, others) ← readEntries budget (skipBlanks others)
        return ((.scroll key, datum) :: entries, others)
      | others => flawAt "Expecting ',' delimiter" others
    | others => flawAt "Expecting ':' delimiter" others
  | _ + 1, text => flawAt "Expecting property name enclosed in double quotes" text

end

def placed (msg : String) (text : List Char) (left : Nat) : String :=
  let pos := text.length - left
  let before := text.take pos
  let line := before.count '\n' + 1
  let column := (before.reverse.takeWhile (· != '\n')).length + 1
  s!"{msg}: line {line} column {column} (char {pos})"

def readText (text : List Char) : Except Flaw Datum := do
  if text.head? == some (Char.ofNat 0xFEFF) then
    flawAt "Unexpected UTF-8 BOM (decode using utf-8-sig)" text
  else
    let (datum, rest) ← readValue (2 * text.length + 2) (skipBlanks text)
    match skipBlanks rest with
    | [] => return datum
    | others => flawAt "Extra data" others

/-- The data that a text holds. -/
def read (text : String) : Except Fault Datum :=
  match readText text.toList with
  | .ok datum => .ok datum
  | .error (.malformed msg left) => .error (.malformedData (placed msg text.toList left))
  | .error (.unreadable fault) => .error fault

end Spellbook.Json
