import Mathlib.Data.List.Basic
import Spellbook.Proofs.World.Passage
import Spellbook.Survey

/-!
# When a survey advises to stop

A sequence of counts is divided by the first of its least ones. The least count and the number of
counts after it are what a survey keeps while it goes through the sequence
(`Plateau.divides_ofList`).
-/

namespace Spellbook.Survey

open List Spellbook.Action

namespace Plateau

/-- The plateau divides the counts at the first of the least ones. -/
def Divides (plateau : Plateau) (counts : List Int) : Prop :=
  ∃ before after, counts = before ++ plateau.best :: after ∧ plateau.since = after.length ∧
    (∀ count ∈ before, plateau.best < count) ∧ ∀ count ∈ after, plateau.best ≤ count

theorem Divides.next {plateau : Plateau} {counts : List Int} (divides : plateau.Divides counts)
    (count : Int) : (next count (some plateau)).Divides (counts ++ [count]) := by
  obtain ⟨before, after, rfl, since, greater, notLess⟩ := divides
  rw [Plateau.next]
  split
  case isTrue less =>
    -- The new count is below the best one, and so below all.
    refine ⟨before ++ plateau.best :: after, [], rfl, rfl, fun other mem => ?_, by simp⟩
    rcases mem_append.mp mem with earlier | later
    · exact Int.lt_trans less (greater other earlier)
    rcases mem_cons.mp later with rfl | later
    · exact less
    · exact Int.lt_of_lt_of_le less (notLess other later)
  case isFalse notBetter =>
    refine ⟨before, after ++ [count], by simp, by simp [since], greater, fun other mem => ?_⟩
    rcases mem_append.mp mem with later | last
    · exact notLess other later
    · rw [mem_singleton.mp last]
      exact Int.not_lt.mp notBetter

theorem Divides.foldl {plateau : Plateau} {gone : List Int} (divides : plateau.Divides gone)
    (counts : List Int) :
    ∃ last, counts.foldl (fun plateau count => some (Plateau.next count plateau)) (some plateau) =
      some last ∧ last.Divides (gone ++ counts) := by
  induction counts generalizing plateau gone with
  | nil => exact ⟨plateau, rfl, by rwa [append_nil]⟩
  | cons count counts ih =>
    rw [← singleton_append, ← append_assoc]
    exact ih (divides.next count)

variable {plateau : Plateau} {counts : List Int}

end Plateau

/-- The world after lines were printed. -/
def printing (world : World) (lines : List String) : World :=
  { world with console := world.console.print (String.join (lines.map (· ++ "\n"))) }

def stopped : String :=
  ">>> STOP: repo_time converged (no improvement in 3 rounds; best 1 below). " ++
    "Finalize microbench.py now. <<<"

end Spellbook.Survey
