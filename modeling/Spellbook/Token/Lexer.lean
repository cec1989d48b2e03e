import Spellbook.Token

/-!
# From characters to tokens

`Token.scan` divides a source into tokens, of which the last is the end of the file.  Blanks and
comments separate tokens.  A line feed is a token of its own, except inside brackets.

Places are counted while characters are taken.  The column of a token is the column after it less
its length, and its line is the line it ends on; so a string over several lines is placed relative
to its last line.
-/

namespace Spellbook.Token

/-- A position in the source: the characters that are left, and where the first of them stands. -/
structure Cursor where
  rest : List Char
  line : Nat
  column : Nat
  offset : Nat

namespace Cursor

def start (source : String) : Cursor := ⟨source.toList, 1, 1, 0⟩

/-- The position after some characters of the line, where `rest` is left. -/
def after (cursor : Cursor) (count : Nat) (rest : List Char) : Cursor :=
  { cursor with rest, column := cursor.column + count, offset := cursor.offset + count }

/-- The position after a line feed inside a string or a comment. -/
def afterLineFeed (cursor : Cursor) (rest : List Char) : Cursor :=
  { rest, line := cursor.line + 1, column := 2, offset := cursor.offset + 1 }

/-- Take characters as long as they satisfy a predicate. -/
def takeWhile (cursor : Cursor) (keep : Char → Bool) : List Char × Cursor :=
  let taken := cursor.rest.takeWhile keep
  (taken, cursor.after taken.length (cursor.rest.dropWhile keep))

def place (cursor : Cursor) : Place := .known cursor.line cursor.column

end Cursor

def between (kind : TokenKind) (value : Value) (start finish : Cursor) : Token :=
  { kind, value, line := finish.line
    column := (finish.column : Int) - ((finish.offset : Int) - start.offset) }

def escaped? (quote char : Char) : Option Char :=
  if char == quote || char == '\\' then some char
  else if char == 'n' then some '\n'
  else if char == 't' then some '\t'
  else if char == 'r' then some '\r'
  else none

/--
The text of a string up to its closing quote, and the position after that.  A backslash that
starts no escape stands for itself.
-/
def scanString (quote : Char) (cursor : Cursor) :
    List Char → Except Trouble (List Char × Cursor)
  | [] => .error (.caused .unterminatedString cursor.place)
  | char :: rest =>
    if char == quote then .ok ([], cursor.after 1 rest)
    else if char == '\n' then do
      let (text, finish) ← scanString quote (cursor.afterLineFeed rest) rest
      return (char :: text, finish)
    else if char == '\\' then
      match rest with
      | [] => .error (.caused .unterminatedString (cursor.after 1 []).place)
      | next :: others =>
        match escaped? quote next with
        | some meaning => do
          let (text, finish) ← scanString quote (cursor.after 2 others) others
          return (meaning :: text, finish)
        | none => do
          let (text, finish) ← scanString quote (cursor.after 1 rest) (next :: others)
          return (char :: text, finish)
    else do
      let (text, finish) ← scanString quote (cursor.after 1 rest) rest
      return (char :: text, finish)

/-- The position after the two tildes that close a comment. -/
def skipComment (cursor : Cursor) : List Char → Except Trouble Cursor
  | [] => .error (.caused .unterminatedComment cursor.place)
  | char :: rest =>
    if char == '~' && rest.head? == some '~' then .ok (cursor.after 2 rest.tail)
    else if char == '\n' then skipComment (cursor.afterLineFeed rest) rest
    else skipComment (cursor.after 1 rest) rest

/-- A number whose first digit stands at `start`. -/
def scanNumber (start : Cursor) : Except Trouble (Token × Cursor) :=
  let (whole, afterWhole) := start.takeWhile Unicode.isDigit
  match afterWhole.rest with
  | '.' :: digit :: _ =>
    if Unicode.isDigit digit then
      let (frac, finish) :=
        (afterWhole.after 1 afterWhole.rest.tail).takeWhile Unicode.isDigit
      match Number.floatOfText (String.ofList (whole ++ '.' :: frac)) with
      | .ok num => .ok (between .float (.potion num 0) start finish, finish)
      | .error fault => .error (.fault fault)
    else integer whole afterWhole
  | _ => integer whole afterWhole
where
  integer (digits : List Char) (finish : Cursor) : Except Trouble (Token × Cursor) :=
    match Number.integerOfText (String.ofList digits) with
    | .ok integer => .ok (between .integer (.rune integer) start finish, finish)
    | .error fault => .error (.fault fault)

def startsWord (char : Char) : Bool := Unicode.isLetter char || char == '_'

def continuesWord (char : Char) : Bool :=
  Unicode.isAlphanumeric char || char == '_'

/-- A keyword or identifier at `start`. -/
def scanWord (start : Cursor) : Token × Cursor :=
  let (chars, finish) := start.takeWhile continuesWord
  let word := String.ofList chars
  (between (.ofWord word) (.scroll word) start finish, finish)

/-- What stands at a position: a token, or something that is none, and the position after it. -/
def next (depth : Nat) (start : Cursor) (first : Char) (rest : List Char) :
    Except Trouble (Option Token × Cursor) :=
  let second := start.after 1 rest
  if first == ' ' || first == '\t' || first == '\r' then .ok (none, second)
  else if first == '\n' then
    let token : Token := ⟨.newline, .scroll "\n", start.line, second.column⟩
    .ok (if depth == 0 then some token else none,
      { second with line := start.line + 1, column := 1 })
  else if first == '~' then
    if rest.head? == some '~' then do
      return (none, ← skipComment (second.after 1 rest.tail) rest.tail)
    else .ok (none, (second.takeWhile (· != '\n')).2)
  else if first == '"' || first == '\'' then do
    let (text, finish) ← scanString first second rest
    return (some (between .string (.scroll (String.ofList text)) start finish), finish)
  else if Unicode.isDigit first then do
    let (token, finish) ← scanNumber start
    return (some token, finish)
  else if startsWord first then
    let (token, finish) := scanWord start
    .ok (some token, finish)
  else if first == '*' && rest.head? == some '*' then
    let finish := second.after 1 rest.tail
    .ok (some (between .power (.scroll "**") start finish), finish)
  else
    match TokenKind.ofSign? first with
    | some kind => .ok (some (between kind (.scroll first.toString) start second), second)
    | none => .error (.caused (.unexpectedCharacter first) start.place)

/--
The tokens from a position on, inside `depth` brackets.  Every round takes at least one character,
so a budget of one more than the characters left suffices.
-/
def scanFrom : (budget depth : Nat) → Cursor → Except Trouble (List Token)
  | 0, _, _ => .error (.fault .exhausted)
  | budget + 1, depth, cursor =>
    match cursor.rest with
    | [] => .ok [⟨.endOfFile, .scroll "", cursor.line, cursor.column⟩]
    | first :: rest => do
      match ← next depth cursor first rest with
      | (none, finish) => scanFrom budget depth finish
      | (some token, finish) =>
        return token :: (← scanFrom budget (token.kind.depthAfter depth) finish)

def scan (source : String) : Except Trouble (List Token) :=
  scanFrom (source.toList.length + 1) 0 (.start source)

end Spellbook.Token
