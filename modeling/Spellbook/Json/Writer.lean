import Spellbook.Datum
import Spellbook.Fault

/-!
# Writing JSON

Data as JSON text in ASCII.  Two layouts are in use: one spread over lines, each nested by two more
blanks, and one on a single line.

Writing can fail in the middle, at an integer that is too long, a function, a device or a
collection that contains itself.  What was written before the failure counts, because it has
reached the file by then.
-/

namespace Spellbook.Json

/-- A text, and the fault that kept it from being completed. -/
structure Draft where
  text : List Char
  fault : Option Fault := none

namespace Draft

def ofString (text : String) : Draft := { text := text.toList }

def failed (fault : Fault) : Draft := { text := [], fault := some fault }

/-- Continue a text, unless it has failed. -/
def andThen (draft next : Draft) : Draft :=
  match draft.fault with
  | some _ => draft
  | none => { text := draft.text ++ next.text, fault := next.fault }

def toString (draft : Draft) : String := String.ofList draft.text

end Draft

/-- Where line breaks and blanks stand. -/
inductive Layout where
  | lines
  | compact

namespace Layout

/-- The break before the first item and after the last one. -/
def lineBreak (layout : Layout) (level : Nat) : List Char :=
  match layout with
  | lines => '\n' :: List.replicate (2 * level) ' '
  | compact => []

def separator (layout : Layout) (level : Nat) : List Char :=
  match layout with
  | lines => ',' :: lineBreak lines level
  | compact => [',', ' ']

end Layout

def unitEscape (unit : Nat) : List Char := ['\\', 'u'] ++ Text.hexadecimal 4 unit

/-- One character of a JSON string.  Characters beyond the first plane take two escapes. -/
def escapeChar (char : Char) : List Char :=
  if char == '"' || char == '\\' then ['\\', char]
  else if char == '\n' then ['\\', 'n']
  else if char == '\r' then ['\\', 'r']
  else if char == '\t' then ['\\', 't']
  else if char == '\x0c' then ['\\', 'f']
  else if char == '\x08' then ['\\', 'b']
  else
    let point := char.toNat
    if 32 ≤ point && point < 127 then [char]
    else if point < 0x10000 then unitEscape point
    else
      let rest := point - 0x10000
      unitEscape (0xD800 + rest / 0x400) ++ unitEscape (0xDC00 + rest % 0x400)

def quoted (text : String) : List Char :=
  '"' :: text.toList.flatMap escapeChar ++ ['"']

def floatText (num : Float) : String :=
  match Binary64.view num with
  | .notANumber => "NaN"
  | .infinite negative => if negative then "-Infinity" else "Infinity"
  | .finite .. => Number.floatText num

/-- An integer, unless it is too long to be written. -/
def integerDraft (integer : Int) : Draft :=
  if Number.isWritable integer then .ofString (Number.integerText integer)
  else .failed .tooLongToWrite

def functionType (kind : String) : String :=
  if kind == "builtin" then "BuiltinFunction" else "SlayFunction"

def keyText : Datum → Except Fault String
  | .scroll text => .ok text
  | .potion num => .ok (floatText num)
  | .charm truth => .ok (if truth then "true" else "false")
  | .void => .ok "null"
  | .rune integer =>
    if Number.isWritable integer then .ok (Number.integerText integer) else .error .tooLongToWrite
  | .complex .. => .error (.notSerializableKey "complex")
  | .function kind _ => .error (.notSerializableKey (functionType kind))
  | .device type => .error (.notSerializableKey type)
  | .list _ => .error (.notSerializableKey "list")
  | .dict _ => .error (.notSerializableKey "dict")
  | .cycle _ => .error .circularReference

/-- An item of a list.  What stands before it is written with it, unless it is too long. -/
def leading (lead : List Char) (datum : Datum) (draft : Draft) : Draft :=
  match datum with
  | .rune _ => if draft.fault.isSome then draft else { draft with text := lead ++ draft.text }
  | _ => Draft.andThen { text := lead } draft

mutual

/-- Data as JSON text that starts at a level of nesting. -/
def draft (layout : Layout) (level : Nat) : Datum → Draft
  | .void => .ofString "null"
  | .charm truth => .ofString (if truth then "true" else "false")
  | .rune integer => integerDraft integer
  | .potion num => .ofString (floatText num)
  | .scroll text => { text := quoted text }
  | .list [] => .ofString "[]"
  | .list (item :: items) =>
    (leading ('[' :: layout.lineBreak (level + 1)) item (draft layout (level + 1) item)).andThen
      ((draftItems layout (level + 1) items).andThen
        { text := layout.lineBreak level ++ [']'] })
  | .dict [] => .ofString "\x7b\x7d"
  | .dict (entry :: entries) =>
    Draft.andThen { text := '\x7b' :: layout.lineBreak (level + 1) }
      ((draftEntry layout (level + 1) [] entry).andThen
        ((draftEntries layout (level + 1) entries).andThen
          { text := layout.lineBreak level ++ ['\x7d'] }))
  | .complex .. => .failed (.notSerializable "complex")
  | .function kind _ => .failed (.notSerializable (functionType kind))
  | .device type => .failed (.notSerializable type)
  | .cycle _ => .failed .circularReference

def draftItems (layout : Layout) (level : Nat) : List Datum → Draft
  | [] => { text := [] }
  | item :: items =>
    (leading (layout.separator level) item (draft layout level item)).andThen
      (draftItems layout level items)

def draftEntry (layout : Layout) (level : Nat) (lead : List Char) : Datum × Datum → Draft
  | (key, datum) =>
    match keyText key with
    | .error fault => .failed fault
    | .ok text =>
      Draft.andThen { text := lead ++ quoted text ++ [':', ' '] } (draft layout level datum)

/-- The entries of a dictionary after the first one. -/
def draftEntries (layout : Layout) (level : Nat) : List (Datum × Datum) → Draft
  | [] => { text := [] }
  | entry :: entries =>
    (draftEntry layout level (layout.separator level) entry).andThen
      (draftEntries layout level entries)

end

def writeLines (datum : Datum) : Draft := draft .lines 0 datum

def writeCompact (datum : Datum) : Draft := draft .compact 0 datum

end Spellbook.Json
