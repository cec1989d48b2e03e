import Spellbook.Proofs.Lexing.Course

/-!
# How scanning ends

Scanning gives tokens of which the last, and no other, is the end of the file, or it complains about
the text; unless it comes to a numeral that cannot be read, over which it fails below the language
(`scan_ends_iff`).  Digits without a place value make such a numeral, and so does an integer of
too many digits.
-/

namespace Spellbook.Token

namespace Course

variable {source : String} {pieces : List Piece} {depth : Nat} {cursor : Cursor}

/-- No token among the pieces is the end of the file. -/
theorem kind_ne_endOfFile (course : Course source pieces depth cursor) :
    ∀ token ∈ tokensOf pieces, token.kind ≠ .endOfFile := by
  induction course with
  | start => exact fun _ mem => absurd mem List.not_mem_nil
  | round course stands read parted ih =>
    intro token mem
    rw [tokensOf_concat] at mem
    rcases List.mem_append.mp mem with earlier | last
    · exact ih token earlier
    · have taken := Option.mem_toList.mp last
      rcases round_cases stands read with ⟨-, -, -, feeds⟩ | ⟨text, -, -, -, tokens⟩
      · rw [feeds token taken]
        decide
      · obtain ⟨kind, value, solid, rfl⟩ := tokens token taken
        rintro rfl
        cases solid

end Course

/-- Rounds lead to a numeral that cannot be read. -/
def ComesToStumble (source : String) : Prop :=
  ∃ pieces depth cursor, Course source pieces depth cursor ∧ stumbles cursor.rest = true

/-- The source is scanned, and the last token alone is the end of the file. -/
def IsScanned (source : String) : Prop :=
  ∃ tokens last, scan source = .ok (tokens ++ [last]) ∧ last.kind = .endOfFile ∧
    ∀ token ∈ tokens, token.kind ≠ .endOfFile

/-- Scanning complains about the source in the way of the language. -/
def IsRejected (source : String) : Prop :=
  ∃ error, scan source = .error (.error error) ∧ error.cause.errorClass = .darkMagicDetected

/-- Scanning fails below the language. -/
def IsMisread (source : String) : Prop :=
  ∃ failure, scan source = .error (.fault failure) ∧ failure.className = "ValueError"

section Ends

variable {source : String}

/-- A round that comes to a numeral that cannot be read fails over it. -/
theorem isMisread_of_comesToStumble (comes : ComesToStumble source) : IsMisread source := by
  obtain ⟨pieces, depth, cursor, course, illegible⟩ := comes
  cases stands : cursor.rest with
  | nil =>
    rw [stands] at illegible
    cases illegible
  | cons first rest =>
    have notFeed : first ≠ '\n' := by
      rintro rfl
      rw [stumbles_of_not_isDigit stands (by decide +kernel)] at illegible
      cases illegible
    have ending := next_ending depth stands notFeed
    generalize ended : next depth cursor first rest = outcome at ending
    cases ending with
    | passed nonempty passes legible => cases legible.symm.trans illegible
    | taken nonempty passes solid legible => cases legible.symm.trans illegible
    | complained dark legible => cases legible.symm.trans illegible
    | stumbled _ malformed => exact ⟨_, course.scan_of_failed stands ended, malformed⟩

/-- A course that leads to the end or to a failing round decides how scanning ends. -/
theorem isScanned_or_isRejected (legible : ¬ComesToStumble source) :
    IsScanned source ∨ IsRejected source := by
  obtain ⟨pieces, depth, cursor, course, ended⟩ :=
    (Course.start : Course source [] 0 _).exists_finished_or_failed
  rcases ended with finished | ⟨first, rest, trouble, stands, failed⟩
  · exact .inl ⟨tokensOf pieces, cursor.endToken, course.scan_of_finished finished, rfl,
      course.kind_ne_endOfFile⟩
  · have notFeed : first ≠ '\n' := by
      rintro rfl
      rw [next_of_lineFeed] at failed
      cases failed
    have ending := next_ending depth stands notFeed
    rw [failed] at ending
    cases ending with
    | complained dark => exact .inr ⟨_, course.scan_of_failed stands failed, dark⟩
    | stumbled illegible => exact (legible ⟨pieces, depth, cursor, course, illegible⟩).elim

end Ends

/--
For every source scanning ends with tokens or with a complaint of the language exactly if no rounds
lead to a numeral that cannot be read; and if some do, it fails below the language.
-/
theorem scan_ends_iff (source : String) :
    (IsScanned source ∨ IsRejected source ↔ ¬ComesToStumble source) ∧
      (ComesToStumble source → IsMisread source) := by
  refine ⟨⟨?_, isScanned_or_isRejected⟩, isMisread_of_comesToStumble⟩
  intro ended comes
  obtain ⟨failure, misread, -⟩ := isMisread_of_comesToStumble comes
  rcases ended with ⟨tokens, last, scanned, -⟩ | ⟨error, rejected, -⟩
  · cases scanned.symm.trans misread
  · cases rejected.symm.trans misread

set_option maxRecDepth 10000 in
/-- A superscript is a digit, but no integer is read from it. -/
theorem superscript_misread : scan "²" = .error (.fault (.malformedInteger "'²'")) := by
  have spelled : "²".toList = ['²'] := by decide
  rw [scan, Cursor.start, spelled]
  rfl

end Spellbook.Token
