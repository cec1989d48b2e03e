import Spellbook.Builtin

/-!
# Builtins for files

Files are read and written as a whole by their path, or piece by piece through a handle.
-/

namespace Spellbook.Builtin

open Spellbook.Action

/-- The mode that a word stands for. -/
def handleMode? : String → Option HandleMode
  | "read" => some .reading
  | "write" => some .writing
  | "append" => some .appending
  | _ => none

/-- Open a file in the mode that a word stands for. -/
def unrollAs (path mode : String) : Action Value :=
  match handleMode? mode with
  | none =>
    refuse .scrollDamaged s!"Unknown scroll mode '{mode}'. Use 'read', 'write', or 'append'"
  | some mode =>
    recover (openHandle path mode) fun trouble =>
      match trouble with
      | .fault (.noSuchFile _) => refuse .scrollDamaged ("Scroll not found: " ++ path)
      | .fault (.permissionDenied _) =>
        refuse .scrollDamaged ("Permission denied to access scroll: " ++ path)
      | _ => refuse .scrollDamaged ("Failed to unroll scroll: " ++ trouble.text)

/-- Open a file, for reading by default. -/
def unrollScroll : List Value → Action Value
  | [path] => do unrollAs (← text path) "read"
  | [path, mode] => do
    let path ← text path
    unrollAs path (← text mode)
  | _ => forbid "unroll_scroll requires 1-2 arguments (path, [mode])"

/-- Close a file. -/
def sealScroll : List Value → Action Value
  | [handle] => do
    orRefuse .scrollDamaged "Failed to seal scroll: " (close handle)
    return .void
  | _ => forbid "seal_scroll requires 1 argument (handle)"

/-- Write a text to a file, after its content if that is to be kept; gives the text's length. -/
def writeScroll (verb : String) (keep : Bool) (path content : Value) : Action Value := do
  let path ← text path
  let content ← text content
  recover (writeFile path keep content) fun trouble =>
    match trouble with
    | .fault (.permissionDenied _) =>
      refuse .scrollDamaged s!"Permission denied to {verb} scroll: {path}"
    | _ => refuse .scrollDamaged (s!"Failed to {verb} scroll: " ++ trouble.text)
  return .rune content.length

/-- Write a file anew. -/
def inscribeScroll : List Value → Action Value
  | [path, content] => writeScroll "inscribe" false path content
  | _ => forbid "inscribe_scroll requires 2 arguments (path, content)"

/-- Write at the end of a file. -/
def chronicleScroll : List Value → Action Value
  | [path, content] => writeScroll "chronicle" true path content
  | _ => forbid "chronicle_scroll requires 2 arguments (path, content)"

/-- The whole text of a file. -/
def decipherScroll : List Value → Action Value
  | [path] => do
    let path ← text path
    recover (do return .scroll (← readFile path)) fun trouble =>
      match trouble with
      | .fault (.noSuchFile _) => refuse .scrollDamaged ("Scroll not found: " ++ path)
      | .fault (.permissionDenied _) =>
        refuse .scrollDamaged ("Permission denied to decipher scroll: " ++ path)
      | _ => refuse .scrollDamaged ("Failed to decipher scroll: " ++ trouble.text)
  | _ => forbid "decipher_scroll requires 1 argument (path)"

/-- The greatest number of characters that can be asked for. -/
def longestReading : Int := Int.pow 2 63 - 1

/-- Read characters from a handle; all that are left if the number is not positive. -/
def readFrom (handle : Value) (count : Int) : Action Value :=
  orRefuse .scrollDamaged "Failed to read runes: " do
    match handle with
    | .handle ref .. =>
      if longestReading < count then fault .repetitionTooLarge
      else
        return .scroll (← readHandle ref (if 0 < count then some count.toNat else none))
    | other => lacks other "read"

/-- Read from an open file, to its end by default. -/
def readRunes : List Value → Action Value
  | [handle] => readFrom handle (-1)
  | [handle, count] => do readFrom handle (← integer count)
  | _ => forbid "read_runes requires 1-2 arguments (handle, [num_chars])"

/-- Write to a handle; gives the length of the text. -/
def etchRunes : List Value → Action Value
  | [handle, content] => do
    let content ← text content
    orRefuse .scrollDamaged "Failed to etch runes: " do
      match handle with
      | .handle ref .. =>
        writeHandle ref content
        return .rune content.length
      | other => lacks other "write"
  | _ => forbid "etch_runes requires 2 arguments (handle, content)"

/-- The lines of a file. -/
def divineLines : List Value → Action Value
  | [path] => do
    let path ← text path
    recover
      (do newTome ((Text.splitLines (← readFile path)).map .scroll))
      fun trouble =>
        match trouble with
        | .fault (.noSuchFile _) => refuse .scrollDamaged ("Scroll not found: " ++ path)
        | _ => refuse .scrollDamaged ("Failed to divine lines: " ++ trouble.text)
  | _ => forbid "divine_lines requires 1 argument (path)"

/-- Does a path lead somewhere? -/
def scrollExists : List Value → Action Value
  | [path] => do
    let path ← text path
    return .charm ((← get).files.leadsSomewhere path)
  | _ => forbid "scroll_exists requires 1 argument (path)"

/-- Delete a file. -/
def banishScroll : List Value → Action Value
  | [path] => do
    let path ← text path
    recover (removeFile path) fun trouble =>
      match trouble with
      | .fault (.noSuchFile _) => refuse .scrollDamaged ("Scroll not found: " ++ path)
      | .fault (.permissionDenied _) =>
        refuse .scrollDamaged ("Permission denied to banish scroll: " ++ path)
      | _ => refuse .scrollDamaged ("Failed to banish scroll: " ++ trouble.text)
    return .charm true
  | _ => forbid "banish_scroll requires 1 argument (path)"

/-- The builtins for files. -/
def scrolls : List Builtin :=
  [⟨"unroll_scroll", none, unrollScroll⟩,
    ⟨"seal_scroll", some 1, sealScroll⟩,
    ⟨"inscribe_scroll", some 2, inscribeScroll⟩,
    ⟨"chronicle_scroll", some 2, chronicleScroll⟩,
    ⟨"decipher_scroll", some 1, decipherScroll⟩,
    ⟨"read_runes", none, readRunes⟩,
    ⟨"etch_runes", some 2, etchRunes⟩,
    ⟨"divine_lines", some 1, divineLines⟩,
    ⟨"scroll_exists", some 1, scrollExists⟩,
    ⟨"banish_scroll", some 1, banishScroll⟩]

end Spellbook.Builtin
