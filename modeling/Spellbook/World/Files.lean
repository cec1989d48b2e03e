import Spellbook.Fault
import Spellbook.Text.Line

/-!
# Files

A tree of files and directories below the working directory.  The content of a file is kept apart
from its name, so that a file that is open outlives the removal of its name.

Paths are relative to the working directory.  A path that cannot be followed is a fault that tells
at which obstacle: a missing name, a file in place of a directory, a name that is too long.
-/

namespace Spellbook

/-- What a name in a directory stands for. -/
inductive FileEntry where
  | directory
  /-- A file, with the position of its content. -/
  | file (content : Nat)

/-- The names below the working directory, and the contents of files. -/
structure FileTree where
  entries : List (List String × FileEntry) := []
  contents : Array (List UInt8) := #[]

/-- Where a path leads. -/
inductive Destination where
  | found (location : List String) (entry : FileEntry)
  /-- The directory is there, the name is not. -/
  | vacant (location : List String)

namespace FileTree

def longestName : Nat := 255

def longestPath : Nat := 4095

/-- Divide a text at every occurrence of a character. -/
def splitAt (separator : Char) : List Char → List (List Char)
  | [] => [[]]
  | char :: rest =>
    if char == separator then [] :: splitAt separator rest
    else match splitAt separator rest with
      | part :: parts => (char :: part) :: parts
      | [] => [[char]]

/-- The names along a path. -/
def steps (path : String) : List String := (splitAt '/' path.toList).map String.ofList

/-- Does the name stay in the same directory? -/
def isIdle (step : String) : Bool := step == "" || step == "."

/-- Does the path end in such a way that it can only lead to a directory? -/
def wantsDirectory (path : String) : Bool :=
  match (steps path).getLast? with
  | some step => isIdle step || step == ".."
  | none => false

def entry? (tree : FileTree) (location : List String) : Option FileEntry :=
  if location.isEmpty then some .directory else tree.entries.lookup location

/-- Follow names from a directory on. -/
def walk (tree : FileTree) (path : String) (location : List String) :
    List String → Except Fault Destination
  | [] => .ok (.found location .directory)
  | step :: others =>
    if step == ".." then tree.walk path location.dropLast others
    else if longestName < step.utf8ByteSize then .error (.nameTooLong path)
    else
      match tree.entry? (location ++ [step]) with
      | some .directory => tree.walk path (location ++ [step]) others
      | some (.file content) =>
        if others.isEmpty then .ok (.found (location ++ [step]) (.file content))
        else .error (.notDirectory path)
      | none =>
        if others.isEmpty then .ok (.vacant (location ++ [step])) else .error (.noSuchFile path)

def endsInSlash (path : String) : Bool :=
  (steps path).getLast? == some "" &&
    match ((steps path).filter fun step => step != "").getLast? with
    | some step => !(step == "." || step == "..")
    | none => false

/-- Follow a path by its names, however it ends. -/
def resolve (tree : FileTree) (path : String) : Except Fault Destination :=
  if path.toList.contains (Char.ofNat 0) then .error .embeddedNull
  else if path.isEmpty then .error (.noSuchFile path)
  else if longestPath < path.utf8ByteSize then .error (.nameTooLong path)
  else tree.walk path [] ((steps path).filter fun step => !isIdle step)

def follow (tree : FileTree) (path : String) : Except Fault Destination :=
  match tree.resolve path with
  | .ok (.found location (.file content)) =>
    if wantsDirectory path then .error (.notDirectory path)
    else .ok (.found location (.file content))
  | destination => destination

def content (tree : FileTree) (pos : Nat) : List UInt8 := tree.contents[pos]?.getD []

def setContent (tree : FileTree) (pos : Nat) (bytes : List UInt8) : FileTree :=
  { tree with contents := tree.contents.modify pos fun _ => bytes }

def openForReading (tree : FileTree) (path : String) : Except Fault Nat :=
  match tree.follow path with
  | .ok (.found _ (.file content)) => .ok content
  | .ok (.found _ .directory) => .error (.isDirectory path)
  | .ok (.vacant _) => .error (.noSuchFile path)
  | .error fault => .error fault

/--
The pos of the content of a file, which is created or, unless kept, emptied.  A slash at the
end asks for a directory, which cannot be written.
-/
def openForWriting (tree : FileTree) (path : String) (keep : Bool) :
    Except Fault (Nat × FileTree) :=
  match tree.resolve path with
  | .error fault => .error fault
  | .ok (.found _ .directory) => .error (.isDirectory path)
  | .ok (.found _ (.file content)) =>
    if endsInSlash path then .error (.isDirectory path)
    else if wantsDirectory path then .error (.notDirectory path)
    else .ok (content, if keep then tree else tree.setContent content [])
  | .ok (.vacant location) =>
    if endsInSlash path then .error (.isDirectory path)
    else if wantsDirectory path then .error (.noSuchFile path)
    else
      let pos := tree.contents.size
      .ok (pos,
        { entries := (location, .file pos) :: tree.entries
          contents := tree.contents.push [] })

def leadsSomewhere (tree : FileTree) (path : String) : Bool :=
  match tree.follow path with
  | .ok (.found ..) => true
  | _ => false

def leadsToDirectory (tree : FileTree) (path : String) : Bool :=
  match tree.follow path with
  | .ok (.found _ .directory) => true
  | _ => false

/-- Remove the names that satisfy a predicate. -/
def removeEntries (tree : FileTree) (gone : List String → Bool) : FileTree :=
  { tree with entries := tree.entries.filter fun (location, _) => !gone location }

def removeFile (tree : FileTree) (path : String) : Except Fault FileTree :=
  match tree.follow path with
  | .ok (.found location (.file _)) => .ok (tree.removeEntries (· == location))
  | .ok (.found _ .directory) => .error (.isDirectory path)
  | .ok (.vacant _) => .error (.noSuchFile path)
  | .error fault => .error fault

def liesIn (directory location : List String) : Bool := directory.isPrefixOf location

def removeTree (tree : FileTree) (path : String) : Except Fault FileTree :=
  match tree.follow path with
  | .ok (.found location .directory) => .ok (tree.removeEntries (liesIn location))
  | .ok (.found _ (.file _)) => .error (.notTree path)
  | .ok (.vacant _) => .error (.noSuchFile path)
  | .error fault => .error fault

def makeDirectories (tree : FileTree) : (location : List String) → List String → FileTree
  | _, [] => tree
  | location, step :: others =>
    let here := location ++ [step]
    let tree := match tree.entry? here with
      | some _ => tree
      | none => { tree with entries := (here, .directory) :: tree.entries }
    tree.makeDirectories here others

/-- Put a file with a content at a path, with the directories that it needs. -/
def place (tree : FileTree) (path : String) (bytes : List UInt8) : FileTree :=
  let location := (steps path).filter fun step => !isIdle step
  let tree := tree.makeDirectories [] location.dropLast
  match tree.entry? location with
  | some (.file content) => tree.setContent content bytes
  | some .directory => tree
  | none =>
    { entries := (location, .file tree.contents.size) :: tree.entries
      contents := tree.contents.push bytes }

def placeDirectory (tree : FileTree) (path : String) : FileTree :=
  tree.makeDirectories [] ((steps path).filter fun step => !isIdle step)

/-- Copy an entry of one directory to the same place in another. -/
def copyEntry (source target : List String) (tree : FileTree)
    (entry : List String × FileEntry) : FileTree :=
  let location := target ++ entry.1.drop source.length
  match entry.2 with
  | .directory => tree.makeDirectories [] location
  | .file content =>
    { entries := (location, .file tree.contents.size) :: tree.entries
      contents := tree.contents.push (tree.content content) }

/-- Copy a directory with all that is in it to a path where nothing is. -/
def copyTree (tree : FileTree) (source target : String) : Except Fault FileTree :=
  match tree.follow source with
  | .error fault => .error fault
  | .ok (.vacant _) => .error (.noSuchFile source)
  | .ok (.found _ (.file _)) => .error (.notDirectory source)
  | .ok (.found location .directory) =>
    let destination := (steps target).filter fun step => !isIdle step
    match tree.follow target with
    | .error (.notDirectory _) => .error (.notDirectory target)
    | .ok (.found ..) => .error (.fileExists target)
    | _ =>
      let inside := tree.entries.filter fun (other, _) => liesIn location other && other != location
      .ok (inside.foldl (copyEntry location destination) (tree.makeDirectories [] destination))

/-- The files with their contents, sorted by path. -/
def listing (tree : FileTree) : List (String × List UInt8) :=
  let files := tree.entries.filterMap fun (location, entry) =>
    match entry with
    | .directory => none
    | .file content => some (String.intercalate "/" location, tree.content content)
  files.mergeSort fun left right => left.1 ≤ right.1

end FileTree

/-- How a file was opened. -/
inductive HandleMode where
  | reading
  | writing
  | appending
  deriving DecidableEq

def HandleMode.letter : HandleMode → String
  | reading => "r"
  | writing => "w"
  | appending => "a"

/--
An open file.  What is read comes in chunks of bytes, which are decoded and whose line ends are
unified; a character or line end that a chunk cuts in two waits for the next chunk.  What is
written waits until the file is closed.
-/
structure FileHandle where
  content : Nat
  mode : HandleMode
  closed : Bool := false
  /-- How many bytes were taken from the file. -/
  offset : Nat := 0
  /-- The bytes of an unfinished character. -/
  unfinished : List UInt8 := []
  /-- Is a carriage return waiting for a line feed? -/
  carriageReturn : Bool := false
  /-- The characters that can be read next. -/
  ready : List Char := []
  /-- The bytes that were written. -/
  written : List UInt8 := []

namespace FileHandle

/-- The most bytes that are taken from a file at once. -/
def chunkSize : Nat := 8192

/-- Make decoded characters ready; a carriage return at the end waits unless the file ends. -/
def accept (handle : FileHandle) (text : List Char) (ended : Bool) : FileHandle :=
  let text :=
    if handle.carriageReturn && (ended || !text.isEmpty) then '\r' :: text else text
  let waits := !ended && text.getLast? == some '\r'
  let stillWaits := handle.carriageReturn && text.isEmpty && !ended
  let text := if waits then text.dropLast else text
  { handle with
    carriageReturn := waits || stillWaits
    ready := handle.ready ++ Text.unifyNewlines text }

def receive (handle : FileHandle) (bytes : List UInt8) (ended : Bool) :
    Except Fault FileHandle :=
  let all := handle.unfinished ++ bytes
  if ended then
    match Text.Utf8.decode all with
    | .ok text => .ok ({ handle with unfinished := [] }.accept text true)
    | .error flaw => .error (.undecodable flaw)
  else
    match Text.Utf8.decodePart all with
    | .ok (text, unfinished) => .ok ({ handle with unfinished }.accept text false)
    | .error flaw => .error (.undecodable flaw)

def readChunk (handle : FileHandle) (bytes : List UInt8) :
    FileHandle × Except Fault (Bool × FileHandle) :=
  let chunk := (bytes.drop handle.offset).take chunkSize
  let handle := { handle with offset := handle.offset + chunk.length }
  (handle, (handle.receive chunk chunk.isEmpty).map fun filled => (chunk.isEmpty, filled))

def readable (handle : FileHandle) : Except Fault Unit :=
  if handle.closed then .error .closedFile
  else if handle.mode == .reading then .ok ()
  else .error .notReadable

def readAll (handle : FileHandle) (bytes : List UInt8) : FileHandle × Except Fault String :=
  match handle.readable with
  | .error fault => (handle, .error fault)
  | .ok () =>
    let rest := bytes.drop handle.offset
    let handle := { handle with offset := handle.offset + rest.length }
    match handle.receive rest true with
    | .ok filled => ({ filled with ready := [] }, .ok (String.ofList filled.ready))
    | .error fault => (handle, .error fault)

/--
Take chunks until enough is ready or the file has ended.  Each chunk but the last takes bytes, so a
budget of two more than there are bytes suffices.
-/
def fill (enough : List Char → Bool) (bytes : List UInt8) :
    (budget : Nat) → FileHandle → FileHandle × Except Fault Unit
  | 0, handle => (handle, .ok ())
  | budget + 1, handle =>
    if enough handle.ready then (handle, .ok ())
    else
      match handle.readChunk bytes with
      | (handle, .error fault) => (handle, .error fault)
      | (_, .ok (ended, filled)) =>
        if ended then (filled, .ok ()) else fill enough bytes budget filled

/-- Read so many characters, or fewer at the end of the file. -/
def readSome (handle : FileHandle) (bytes : List UInt8) (count : Nat) :
    FileHandle × Except Fault String :=
  match handle.readable with
  | .error fault => (handle, .error fault)
  | .ok () =>
    match fill (fun ready => count ≤ ready.length) bytes (bytes.length + 2) handle with
    | (handle, .error fault) => (handle, .error fault)
    | (handle, .ok ()) =>
      ({ handle with ready := handle.ready.drop count },
        .ok (String.ofList (handle.ready.take count)))

def readLine (handle : FileHandle) (bytes : List UInt8) :
    FileHandle × Except Fault (Option String) :=
  match handle.readable with
  | .error fault => (handle, .error fault)
  | .ok () =>
    match fill (·.contains '\n') bytes (bytes.length + 2) handle with
    | (handle, .error fault) => (handle, .error fault)
    | (handle, .ok ()) =>
      let (line, rest) := Text.takeLine handle.ready
      ({ handle with ready := rest },
        .ok (if line.isEmpty then none else some (String.ofList line)))

def write (handle : FileHandle) (text : String) : Except Fault FileHandle :=
  if handle.closed then .error .closedFile
  else if handle.mode == .reading then .error .notWritable
  else .ok { handle with written := handle.written ++ Text.Utf8.encode text }

/-- What the content of a file becomes when the handle is closed. -/
def flushed (handle : FileHandle) (bytes : List UInt8) : List UInt8 :=
  match handle.mode with
  | .reading => bytes
  | .writing => handle.written ++ bytes.drop handle.written.length
  | .appending => bytes ++ handle.written

end FileHandle

end Spellbook
