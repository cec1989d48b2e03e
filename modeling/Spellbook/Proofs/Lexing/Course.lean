import Spellbook.Proofs.Lexing.Spelling

/-!
# The course of scanning

Scanning goes through a source in rounds.  Each round takes a piece off what is left: a token, or
something that is none.  A course of rounds is told by the pieces that were taken (`Course`), and
the source consists of them and of what is left (`Course.text_eq`).

Every source has a course to its end or to the first round that fails
(`exists_finished_or_failed`), and the course decides what scanning gives.
-/

namespace Spellbook.Token

open List

variable {cursor : Cursor} {trouble : Trouble}

/-! ## Courses -/

/-- What one round takes off a text: some characters, which may be a token. -/
structure Piece where
  text : List Char
  token? : Option Token

/-- The text that consists of pieces. -/
def textOf (pieces : List Piece) : List Char := pieces.flatMap Piece.text

/-- The tokens among pieces. -/
def tokensOf (pieces : List Piece) : List Token := pieces.filterMap Piece.token?

theorem textOf_concat (pieces : List Piece) (piece : Piece) :
    textOf (pieces ++ [piece]) = textOf pieces ++ piece.text := by
  rw [textOf, textOf, flatMap_append, flatMap_singleton]

theorem tokensOf_concat (pieces : List Piece) (piece : Piece) :
    tokensOf (pieces ++ [piece]) = tokensOf pieces ++ piece.token?.toList := by
  rw [tokensOf, tokensOf, filterMap_append]
  cases found : piece.token? <;> simp [found]

/-- How many brackets are open behind a piece. -/
def depthBehind (depth : Nat) (token? : Option Token) : Nat :=
  token?.elim depth fun token => token.kind.depthAfter depth

/-- Rounds from the start of a source take the pieces and lead to a position inside brackets. -/
inductive Course (source : String) : List Piece → (depth : Nat) → Cursor → Prop where
  | start : Course source [] 0 (.start source)
  | round {pieces : List Piece} {depth : Nat} {cursor finish : Cursor} {first : Char}
      {rest text : List Char} {token? : Option Token} (course : Course source pieces depth cursor)
      (stands : cursor.rest = first :: rest)
      (read : next depth cursor first rest = .ok (token?, finish))
      (parted : cursor.rest = text ++ finish.rest) :
      Course source (pieces ++ [⟨text, token?⟩]) (depthBehind depth token?) finish

/-- The token at the end of a text. -/
def Cursor.endToken (cursor : Cursor) : Token :=
  ⟨.endOfFile, .scroll "", cursor.line, cursor.column⟩

section Round

variable {depth : Nat} {start finish : Cursor} {first : Char} {rest text : List Char}
  {token? : Option Token} (stands : start.rest = first :: rest)
  (read : next depth start first rest = .ok (token?, finish))

include stands read

/-- A round takes a line feed, or it passes over a text that may be a solid token. -/
theorem round_cases :
    (start.rest = ['\n'] ++ finish.rest ∧ finish.line = start.line + 1 ∧ finish.column = 1 ∧
        ∀ token ∈ token?, token.kind = .newline) ∨
      ∃ text, text ≠ ['\n'] ∧ text ≠ [] ∧ Passes start text finish ∧
        ∀ token ∈ token?, ∃ kind value, kind.isSolid = true ∧
          token = between kind value start finish := by
  by_cases isFeed : first = '\n'
  · subst isFeed
    rw [next_of_lineFeed] at read
    cases read
    refine .inl ⟨stands, rfl, rfl, fun token mem => ?_⟩
    split at mem
    · cases mem
      rfl
    · cases mem
  · have ending := next_ending depth stands isFeed
    rw [read] at ending
    -- A text that passes starts with the character that is no line feed.
    have unlike {text : List Char} (passes : Passes start text finish) : text ≠ ['\n'] := by
      rintro rfl
      have same := stands.symm.trans passes.rest
      exact isFeed (List.cons.inj same).1
    cases ending with
    | passed nonempty passes => exact .inr ⟨_, unlike passes, nonempty, passes, by simp⟩
    | taken nonempty passes solid =>
      refine .inr ⟨_, unlike passes, nonempty, passes, fun token mem => ?_⟩
      cases mem
      exact ⟨_, _, solid, rfl⟩

/-- Every round takes a character at least. -/
theorem exists_parted :
    ∃ text, start.rest = text ++ finish.rest ∧ finish.rest.length < start.rest.length := by
  have shorter {text : List Char} (parted : start.rest = text ++ finish.rest)
      (nonempty : text ≠ []) : finish.rest.length < start.rest.length := by
    have some := length_pos_iff.mpr nonempty
    rw [parted, length_append]
    omega
  rcases round_cases stands read with ⟨parted, -⟩ | ⟨text, -, nonempty, passes, -⟩
  · exact ⟨_, parted, shorter parted (cons_ne_nil _ _)⟩
  · exact ⟨text, passes.rest, shorter passes.rest nonempty⟩

theorem scanFrom_of_ok (fuel : Nat) :
    scanFrom (fuel + 1) depth start =
      (token?.toList ++ ·) <$> scanFrom fuel (depthBehind depth token?) finish := by
  rw [scanFrom, stands]
  dsimp only
  rw [read]
  cases token? with
  | none => exact (id_map _).symm
  | some token =>
    change (scanFrom fuel (token.kind.depthAfter depth) finish >>= fun others =>
      pure (token :: others)) = _ <$> scanFrom fuel (token.kind.depthAfter depth) finish
    cases scanFrom fuel (token.kind.depthAfter depth) finish with
    | error trouble => rfl
    | ok others => rfl

end Round

namespace Course

variable {source : String} {pieces : List Piece} {depth : Nat} {cursor : Cursor}
  (course : Course source pieces depth cursor)

include course

theorem text_eq : source.toList = textOf pieces ++ cursor.rest := by
  induction course with
  | start => rfl
  | round course stands read parted ih =>
    rw [ih, parted, textOf_concat, append_assoc]

/-- Scanning goes on where the course has led. -/
theorem scan_eq : ∃ fuel, cursor.rest.length < fuel ∧
    scan source = (tokensOf pieces ++ ·) <$> scanFrom fuel depth cursor := by
  induction course with
  | start => exact ⟨_, Nat.lt_succ_self _, (id_map _).symm⟩
  | @round pieces depth cursor finish first rest text token? course stands read parted ih =>
    obtain ⟨fuel, room, same⟩ := ih
    obtain ⟨less, rfl⟩ : ∃ less, fuel = less + 1 := ⟨fuel - 1, by omega⟩
    obtain ⟨-, -, shorter⟩ := exists_parted stands read
    refine ⟨less, by omega, ?_⟩
    rw [same, scanFrom_of_ok stands read, tokensOf_concat, ← LawfulFunctor.comp_map]
    simp only [Function.comp_def, append_assoc]

theorem scan_of_finished (finished : cursor.rest = []) :
    scan source = .ok (tokensOf pieces ++ [cursor.endToken]) := by
  obtain ⟨fuel, room, same⟩ := course.scan_eq
  obtain ⟨less, rfl⟩ : ∃ less, fuel = less + 1 := ⟨fuel - 1, by omega⟩
  rw [same, scanFrom, finished]
  rfl

theorem scan_of_failed {first : Char} {rest : List Char} (stands : cursor.rest = first :: rest)
    (failed : next depth cursor first rest = .error trouble) :
    scan source = .error trouble := by
  obtain ⟨fuel, room, same⟩ := course.scan_eq
  obtain ⟨less, rfl⟩ : ∃ less, fuel = less + 1 := ⟨fuel - 1, by omega⟩
  rw [same, scanFrom, stands]
  dsimp only
  rw [failed]
  rfl

/-- From wherever a course has led, it can be followed to the end or to a round that fails. -/
theorem exists_finished_or_failed :
    ∃ pieces depth cursor, Course source pieces depth cursor ∧
      (cursor.rest = [] ∨ ∃ first rest trouble, cursor.rest = first :: rest ∧
        next depth cursor first rest = .error trouble) := by
  generalize long : cursor.rest.length = length
  induction length using Nat.strongRecOn generalizing pieces depth cursor with
  | ind length ih =>
    cases stands : cursor.rest with
    | nil => exact ⟨pieces, depth, cursor, course, .inl stands⟩
    | cons first rest =>
      cases read : next depth cursor first rest with
      | error trouble =>
        exact ⟨pieces, depth, cursor, course, .inr ⟨first, rest, trouble, stands, read⟩⟩
      | ok res =>
        obtain ⟨text, parted, shorter⟩ := exists_parted stands read
        exact ih _ (long ▸ shorter) (course.round stands read parted) rfl

end Course

end Spellbook.Token
