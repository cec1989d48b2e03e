import Spellbook.Text.Quoted

/-!
# UTF-8

Text in files and on connections is UTF-8.  Decoding stops at the first sequence that is not well
formed and tells where it is and what is wrong with it.
-/

namespace Spellbook.Text.Utf8

/-- What is wrong with a sequence of bytes. -/
inductive Fallacy where
  | startByte
  | continuationByte
  | truncated
  deriving DecidableEq

/-- A sequence of bytes that is no character: `length` bytes from `position` on. -/
structure Flaw where
  fallacy : Fallacy
  position : Nat
  length : Nat
  byte : UInt8

def Fallacy.text : Fallacy → String
  | .startByte => "invalid start byte"
  | .continuationByte => "invalid continuation byte"
  | .truncated => "unexpected end of data"

def Flaw.message (flaw : Flaw) : String :=
  if flaw.length ≤ 1 then
    "'utf-8' codec can't decode byte 0x" ++ String.ofList (hexadecimal 2 flaw.byte.toNat) ++
      " in position " ++ Nat.repr flaw.position ++ ": " ++ flaw.fallacy.text
  else
    "'utf-8' codec can't decode bytes in position " ++ Nat.repr flaw.position ++ "-" ++
      Nat.repr (flaw.position + flaw.length - 1) ++ ": " ++ flaw.fallacy.text

def encode (text : String) : List UInt8 := text.toList.flatMap String.utf8EncodeChar

/-- What stands at the start of a sequence of bytes. -/
inductive Head where
  | character (character : Char) (length : Nat)
  | invalid (fallacy : Fallacy) (length : Nat)
  | incomplete

def isContinuation (byte : UInt8) : Bool := 0x80 ≤ byte && byte < 0xC0

/-- The low six bits of a continuation byte. -/
def payload (byte : UInt8) : Nat := byte.toNat % 64

/--
May `second` follow `first`?  After some first bytes the second one is restricted, so that no
character has two forms and surrogates have none.
-/
def secondFits (first second : UInt8) : Bool :=
  isContinuation second &&
    (first != 0xE0 || 0xA0 ≤ second) && (first != 0xED || second < 0xA0) &&
    (first != 0xF0 || 0x90 ≤ second) && (first != 0xF4 || second < 0x90)

/-- The character, or what prevents one, at the start of a sequence that is not empty. -/
def head (first : UInt8) (rest : List UInt8) : Head :=
  if first < 0x80 then .character (Char.ofNat first.toNat) 1
  else if first < 0xC2 then .invalid .startByte 1
  else if first < 0xE0 then
    match rest with
    | [] => .incomplete
    | second :: _ =>
      if isContinuation second then
        .character (Char.ofNat (first.toNat % 32 * 64 + payload second)) 2
      else .invalid .continuationByte 1
  else if first < 0xF0 then
    match rest with
    | [] => .incomplete
    | second :: rest =>
      if !secondFits first second then .invalid .continuationByte 1
      else match rest with
        | [] => .incomplete
        | third :: _ =>
          if isContinuation third then
            .character (Char.ofNat
              ((first.toNat % 16 * 64 + payload second) * 64 + payload third)) 3
          else .invalid .continuationByte 2
  else if first < 0xF5 then
    match rest with
    | [] => .incomplete
    | second :: rest =>
      if !secondFits first second then .invalid .continuationByte 1
      else match rest with
        | [] => .incomplete
        | third :: rest =>
          if !isContinuation third then .invalid .continuationByte 2
          else match rest with
            | [] => .incomplete
            | fourth :: _ =>
              if isContinuation fourth then
                .character (Char.ofNat
                  (((first.toNat % 8 * 64 + payload second) * 64 + payload third) * 64 +
                    payload fourth)) 4
              else .invalid .continuationByte 3
  else .invalid .startByte 1

/--
Decode as far as characters are complete: the text, and the bytes of an unfinished character at
the end.  The budget bounds the number of characters.
-/
def decodeFrom : (budget position : Nat) → List UInt8 → Except Flaw (List Char × List UInt8)
  | _, _, [] => .ok ([], [])
  | 0, _, bytes => .ok ([], bytes)
  | budget + 1, position, first :: rest =>
    match head first rest with
    | .character character length =>
      match decodeFrom budget (position + length) (rest.drop (length - 1)) with
      | .ok (text, unfinished) => .ok (character :: text, unfinished)
      | .error flaw => .error flaw
    | .invalid fallacy length => .error ⟨fallacy, position, length, first⟩
    | .incomplete => .ok ([], first :: rest)

/-- Decode the complete characters of a sequence that may go on. -/
def decodePart (bytes : List UInt8) : Except Flaw (List Char × List UInt8) :=
  decodeFrom bytes.length 0 bytes

def decode (bytes : List UInt8) : Except Flaw (List Char) :=
  match decodePart bytes with
  | .error flaw => .error flaw
  | .ok (text, []) => .ok text
  | .ok (_, first :: rest) =>
    .error ⟨.truncated, bytes.length - (rest.length + 1), rest.length + 1, first⟩

end Spellbook.Text.Utf8
