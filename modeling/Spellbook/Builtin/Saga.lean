import Spellbook.Builtin.Quest
import Spellbook.Json.Reader
import Spellbook.Json.Writer

/-!
# Builtins for saved games

A saga is a value in a file, as JSON.
-/

namespace Spellbook.Builtin

open Spellbook.Action

/-- Write data to a file; what was written before a failure stays there. -/
def saveData (datum : Datum) (path : String) : Action Unit := do
  let draft := Json.writeLines datum
  writeFile path false draft.toString
  match draft.fault with
  | some failure => fault failure
  | none => return

/-- Save a value to a file as JSON. -/
def sagaSave : List Value → Action Value
  | [value, path] => do
    let path ← text path
    orRefuse .questFailed "Failed to save saga: " (do saveData (← portray value) path)
    return .charm true
  | _ => forbid "saga_save requires 2 arguments (data, path)"

/-- The value saved in a file. -/
def sagaLoad : List Value → Action Value
  | [path] => do
    let path ← text path
    recover (do plantSaved (← ofResult (Json.read (← readFile path)))) fun trouble =>
      match trouble with
      | .fault (.noSuchFile _) => refuse .questFailed ("Saga not found: " ++ path)
      | .fault (.malformedData msg) => refuse .questFailed ("Saga is corrupted: " ++ msg)
      | _ => refuse .questFailed ("Failed to load saga: " ++ trouble.text)
  | _ => forbid "saga_load requires 1 argument (path)"

/-- The builtins for quests and sagas. -/
def quests : List Builtin :=
  [⟨"forge_hero", none, forgeHero⟩,
    ⟨"forge_creature", none, forgeCreature⟩,
    ⟨"roll_destiny", none, rollDestiny⟩,
    ⟨"inflict_wound", some 2, inflictWound⟩,
    ⟨"restore_vigor", some 2, restoreVigor⟩,
    ⟨"bestow_artifact", some 2, bestowArtifact⟩,
    ⟨"claim_loot", some 1, claimLoot⟩,
    ⟨"check_fate", some 1, checkFate⟩,
    ⟨"gain_experience", some 2, gainExperience⟩,
    ⟨"saga_save", some 2, sagaSave⟩,
    ⟨"saga_load", some 1, sagaLoad⟩,
    ⟨"encounter_chance", some 1, encounterChance⟩,
    ⟨"choose_fate", some 1, chooseFate⟩]

end Spellbook.Builtin
