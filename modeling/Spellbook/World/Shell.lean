import Spellbook.World.FileAccess

/-!
# The shell

Commands that are handed to the machine on which a program runs.  How the coming commands end is
part of the world; a command for which nothing is set ends well and says nothing.
-/

namespace Spellbook.Action

/-- Hand a command to the shell; the files that it makes are there when it has ended. -/
def runCommand (command : Command) : Action CommandAnswer := do
  note (.command command)
  let answer ← modifyGet fun world =>
    match world.commands with
    | [] => (({} : CommandAnswer), world)
    | answer :: others => (answer, { world with commands := others })
  match answer.failure with
  | some reason => fault (.commandFailed reason)
  | none =>
    modify fun world =>
      { world with
        files :=
          answer.creates.foldl (fun tree (path, bytes) => tree.place path bytes) world.files }
    return answer

end Spellbook.Action
