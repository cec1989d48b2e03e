import Spellbook.CommandLine

/-!
# The program

The outermost layer: it takes the files of the working directory, runs the command line on them,
prints what the run printed, and writes back the files that the run changed.  Speech, portals and
databases are not to be had here.

A run is a function of the lines that it reads.  Whenever it asks for one line more than there are,
what it printed so far is shown, a line is read, and the run is made anew with that line.
-/

namespace Spellbook.Main

/-- How deep directories are looked into for files. -/
def searchDepth : Nat := 3

/-- How many numbers are drawn ahead. -/
def diceAhead : Nat := 10000

/-- The files of the working directory with their paths, hidden ones left out. -/
def findFiles : (depth : Nat) → (inside : String) → IO (List (String × List UInt8))
  | 0, _ => return []
  | depth + 1, inside => do
    let entries ← ((← IO.currentDir) / inside).readDir
    let found ← entries.toList.mapM fun entry => do
      let path := inside ++ entry.fileName
      if entry.fileName.startsWith "." then return []
      else if ← entry.path.isDir then findFiles depth (path ++ "/")
      else return [(path, (← IO.FS.readBinFile entry.path).toList)]
    return found.flatten

/-- Write back the files that a run made, changed or removed. -/
def writeBack (before after : FileTree) : IO Unit := do
  let old := before.listing
  let new := after.listing
  for (path, bytes) in new do
    if old.lookup path != some bytes then
      match (path.splitOn "/").dropLast with
      | [] => pure ()
      | directories => IO.FS.createDirAll (String.intercalate "/" directories)
      IO.FS.writeBinFile path (ByteArray.mk bytes.toArray)
  for (path, _) in old do
    if (new.lookup path).isNone then IO.FS.removeFile path

def rollDice : IO (List Nat) :=
  (List.replicate diceAhead ()).mapM fun _ => IO.rand 0 (Nat.pow 2 30)

def withoutEnd (line : String) : String :=
  String.ofList (line.toList.reverse.dropWhile (· == '\n')).reverse

/-- Run the command line, reading lines as they are asked for. -/
partial def converse (args : List String) (world : World) (lines : List String) :
    IO (EStateM.Result Halt Machine Ending) := do
  let console : Console := { input := lines.map some }
  let result := CommandLine.program args (Machine.start { world with console })
  let machine := match result with
    | .ok _ machine => machine
    | .error _ machine => machine
  let fresh := machine.world.console.chunks.drop lines.length
  match fresh with
  | asking :: others =>
    IO.print asking
    if others.isEmpty then return result
    (← IO.getStdout).flush
    let line ← (← IO.getStdin).getLine
    if line.isEmpty then
      others.forM IO.print
      return result
    else converse args world (lines ++ [withoutEnd line])
  | [] => return result

end Spellbook.Main

open Spellbook in
def main (args : List String) : IO UInt32 := do
  let found ← Main.findFiles Main.searchDepth ""
  let files : FileTree := found.foldl (fun tree (path, bytes) => tree.place path bytes) {}
  let world : World :=
    { files, dice := ← Main.rollDice, network := { failOn := some "socket" } }
  let finish (machine : Machine) : IO Unit := do
    IO.eprint machine.world.console.errors
    Main.writeBack files machine.world.sealed.files
  match ← Main.converse args world [] with
  | .ok ending machine =>
    finish machine
    return (ending.getD 0).toNat.toUInt32
  | .error halt machine =>
    finish machine
    IO.eprintln (halt.className ++ ": " ++ halt.text)
    return 1
