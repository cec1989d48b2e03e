import Spellbook.Proofs.Grammar.Succession
import Spellbook.Proofs.Parsing.Source

/-!
# Sources on lines of their own

Two sources with a line feed between them are read as the statements of the one and then those of
the other, up to places, if each of them can be read on its own.  So are any number of sources.
-/

namespace Spellbook

open List TokenKind Grammar Token

/-- Two sources with a line feed between them. -/
theorem readSource_lines {first second : String} {place place' : Place}
    {stmts others : List Node} (former : readSource first = .ok (.program place stmts))
    (latter : readSource second = .ok (.program place' others)) :
    ∃ all, readSource (first ++ "\n" ++ second) = .ok (.program (.known 0 0) all) ∧
      all.map Node.unplaced = (stmts ++ others).map Node.unplaced := by
  obtain ⟨lexemes, items, tokens, finish, divided, -, spelled, -, later, stated, same⟩ :=
    readSource_eq_ok former
  obtain ⟨more, otherItems, otherTokens, closing, otherDivided, -, otherSpelled, isEnd,
    otherSucceeding, otherStated, otherSame⟩ := readSource_eq_ok latter
  obtain ⟨-, rfl⟩ := Node.program.inj same
  obtain ⟨-, rfl⟩ := Node.program.inj otherSame
  let feed : Token := ⟨.newline, .scroll "\n", 1, 1⟩
  have dividedAll : Divided (first ++ "\n" ++ second).toList (lexemes ++ lineFeed :: more) := by
    rw [String.toList_append, String.toList_append, append_assoc]
    exact divided.append (Breaks.lineFeed _) otherDivided.lineFeed
  -- The first source closes its brackets, so the line feed after it is seen.
  have descends := descend_of_succession spelled later stated
  have spelledAll : (tokens ++ feed :: otherTokens).map Token.lexeme =
      visible 0 (lexemes ++ lineFeed :: more) := by
    rw [visible_append descends, map_append, map_cons, spelled, otherSpelled]
    rfl
  have closes : Fresh [closing] := by
    rw [Fresh, map_singleton, isEnd]
    rfl
  have succeedingAll := later.append (rfl : feed.kind = .newline) otherSucceeding
    (otherSucceeding.fresh otherStated closes)
  rw [← map_append]
  refine readSource_of_succession dividedAll spelledAll isEnd succeedingAll ?_
  intro item mem
  rcases mem_append.mp mem with front | back
  · exact stated item front
  · exact otherStated item back

/-- Any number of sources with a line feed between each two of them. -/
theorem readSource_joined {sources : List String} {programs : List (List Node)}
    (read : sources.map readSource = programs.map fun stmts => .ok (.program (.known 0 0) stmts)) :
    ∃ all, readSource (Session.joined sources) = .ok (.program (.known 0 0) all) ∧
      all.map Node.unplaced = programs.flatten.map Node.unplaced := by
  induction sources generalizing programs with
  | nil =>
    cases programs with
    | nil => exact ⟨[], rfl, rfl⟩
    | cons stmts programs => cases read
  | cons source sources ih =>
    cases programs with
    | nil => cases read
    | cons stmts programs =>
      obtain ⟨first, others⟩ := List.cons.inj read
      cases sources with
      | nil =>
        cases map_eq_nil_iff.mp others.symm
        exact ⟨stmts, first, by simp⟩
      | cons second sources =>
        obtain ⟨rest, readRest, sameRest⟩ := ih others
        obtain ⟨all, readAll, sameAll⟩ := readSource_lines first readRest
        refine ⟨all, ?_, ?_⟩
        · rw [Session.joined, String.intercalate_cons_cons]
          exact readAll
        · rw [sameAll, map_append, sameRest, flatten_cons, map_append]

end Spellbook
