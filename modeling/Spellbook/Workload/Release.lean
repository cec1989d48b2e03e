import Spellbook.Release
import Spellbook.Workload.Call

/-!
# The workload on releases

Releases that fail for want of the packaging tool on every system, and one that goes well.
-/

namespace Spellbook.Workload

open Spellbook.Action

/-- The systems for which releases are made. -/
def systems : List String := ["Windows", "Darwin", "Linux"]

def failure : CommandAnswer := { code := 1, errors := "failed" }

/-- Try a release and a single step with commands that fail. -/
def failingRelease (run : Nat) (system : String) : Action (List Datum) := do
  let ending ← apart { commands := [failure, failure] } (Release.make { system })
  let step ← apart { commands := [failure] } (Release.runStep "false" "Failing")
  let left := match ending with
    | none => .void
    | some _ => .scroll ("exit-" ++ system ++ "-" ++ Nat.repr run)
  return [left, .charm step]

def exampleNames : List String :=
  ["fibonacci", "file_scrolls", "hello_world", "m365_admin", "network_chat", "oracle_database",
    "quest_adventure", "tts_demo", "vampire_hunt", "web_page"]

/-- A working directory with the example scripts. -/
def workshop : FileTree :=
  exampleNames.foldl (fun tree name => tree.place ("examples/" ++ name ++ ".slay") []) {}

def filesIn (dir : String) : Action Nat := do
  return (← get).files.listing.countP fun (path, _) => path.startsWith (dir ++ "/")

/-- Make a release that goes well: how it ends, and how many examples go with it. -/
def goodRelease : Action (List Datum) := apart { files := workshop } do
  let ending ← Release.make { system := "Linux" }
  return [ending.elim .void .rune, .rune (← filesIn "dist/examples")]

def releaseRun (run : Nat) : Action (List Datum) := do
  let failed ← systems.mapM (failingRelease run)
  return failed.flatten ++ (← goodRelease)

def releasing (size : Int) : Action Datum := do
  return .list (← (List.range size.toNat).mapM releaseRun).flatten

end Spellbook.Workload
