import Spellbook.Proofs.Lexing.Course

/-!
# Where tokens stand

A token is placed where its first character stands, counted in lines and in columns of the line,
except behind line feeds inside strings and comments.  A string with a line feed is placed on the
line on which it ends, and whatever follows on a line that began inside a string or a comment is
placed one column too far (`placed_of_solid`).  Everywhere else, and nowhere but there, places are
right (`scan_places_iff`).
-/

namespace Spellbook.Token

open List

/-! ## Lines and columns behind a text -/

/-- The line of the character behind a text, the first of which is one. -/
def lineBehind (text : List Char) : Nat := text.count '\n' + 1

/-- The column of the character behind a text, the first of which is one. -/
def columnBehind (text : List Char) : Nat := lineOffset text + 1

/-- Did the line on which the pieces end begin inside one of them? -/
def begunInside (pieces : List Piece) : Bool :=
  (pieces.reverse.find? fun piece => piece.text.contains '\n').any fun piece =>
    piece.text != ['\n']

theorem begunInside_concat (pieces : List Piece) (piece : Piece) :
    begunInside (pieces ++ [piece]) =
      if '\n' ∈ piece.text then piece.text != ['\n'] else begunInside pieces := by
  rw [begunInside, reverse_append, reverse_singleton, singleton_append,
    List.find?_cons, begunInside]
  by_cases feeds : '\n' ∈ piece.text
  · rw [contains_iff_mem.mpr feeds, if_pos feeds]
    rfl
  · rw [Bool.eq_false_iff.mpr (mt contains_iff_mem.mp feeds), if_neg feeds]

namespace Course

variable {source : String} {pieces : List Piece} {depth : Nat} {cursor : Cursor}

/-- Lines are counted right, and columns too unless the line began inside a piece. -/
theorem standing (course : Course source pieces depth cursor) :
    cursor.line = lineBehind (textOf pieces) ∧
      cursor.column = columnBehind (textOf pieces) + (begunInside pieces).toNat := by
  induction course with
  | start => exact ⟨rfl, rfl⟩
  | @round pieces depth cursor finish first rest text token? course stands read parted ih =>
    obtain ⟨line, column⟩ := ih
    rw [textOf_concat, begunInside_concat, lineBehind, columnBehind, count_append,
      lineOffset_append]
    rcases round_cases stands read with ⟨fed, nextLine, first, -⟩ | ⟨_, unlike, -, passes, -⟩
    · obtain rfl := append_cancel_right (parted.symm.trans fed)
      rw [nextLine, first, line, lineBehind]
      exact ⟨rfl, rfl⟩
    · obtain rfl := append_cancel_right (parted.symm.trans passes.rest)
      rw [passes.line, passes.column, line, column, lineBehind, columnBehind]
      dsimp only
      refine ⟨by omega, ?_⟩
      split
      · rw [bne_iff_ne.mpr unlike]
        rfl
      · omega

/-- Every piece of a course was taken where the pieces before it led. -/
theorem exists_round {before after : List Piece} {piece : Piece}
    (course : Course source (before ++ piece :: after) depth cursor) :
    ∃ depth start finish first rest, Course source before depth start ∧
      start.rest = first :: rest ∧ next depth start first rest = .ok (piece.token?, finish) ∧
        start.rest = piece.text ++ finish.rest := by
  generalize all : before ++ piece :: after = pieces at course
  induction course generalizing after with
  | start => simp at all
  | @round pieces depth cursor finish first rest text token? course stands read parted ih =>
    rcases eq_nil_or_concat after with rfl | ⟨others, last, rfl⟩
    · obtain ⟨rfl, same⟩ := append_inj' all rfl
      cases same
      exact ⟨depth, cursor, finish, first, rest, course, stands, read, parted⟩
    · rw [concat_eq_append, ← cons_append, ← append_assoc] at all
      exact ih (append_inj' all rfl).1

end Course

/--
The place that a token gets.  Its line is that of its last character; its column is counted back
from the end, and if it has no line feed, it is the column of its first character, or one more if
the line began inside a piece.
-/
theorem placed_of_solid {source : String} {before after : List Piece} {piece : Piece} {depth : Nat}
    {cursor : Cursor} (course : Course source (before ++ piece :: after) depth cursor)
    {token : Token} (taken : piece.token? = some token) (solid : token.kind.isSolid = true) :
    token.line = lineBehind (textOf before) + piece.text.count '\n' ∧
      token.column =
        if '\n' ∈ piece.text then (lineOffset piece.text + 2 : Int) - piece.text.length
        else columnBehind (textOf before) + (begunInside before).toNat := by
  obtain ⟨depth, start, finish, first, rest, earlier, stands, read, parted⟩ := course.exists_round
  obtain ⟨line, column⟩ := earlier.standing
  rcases round_cases stands read with ⟨-, -, -, feeds⟩ | ⟨text, -, -, passes, tokens⟩
  · rw [feeds token taken] at solid
    cases solid
  · obtain rfl := append_cancel_right (parted.symm.trans passes.rest)
    obtain ⟨kind, value, -, rfl⟩ := tokens token taken
    simp only [between, passes.line, passes.offset, passes.column, line, column]
    refine ⟨by omega, ?_⟩
    split <;> omega

/-- The token is placed where the character behind the pieces stands. -/
def StandsBehind (token : Token) (pieces : List Piece) : Prop :=
  token.line = lineBehind (textOf pieces) ∧ token.column = columnBehind (textOf pieces)

/-- A token is placed right unless a line feed is in it or the line began inside a piece. -/
theorem standsBehind_iff {source : String} {before after : List Piece} {piece : Piece} {depth : Nat}
    {cursor : Cursor} (course : Course source (before ++ piece :: after) depth cursor)
    {token : Token} (taken : piece.token? = some token) (solid : token.kind.isSolid = true) :
    StandsBehind token before ↔ '\n' ∉ piece.text ∧ begunInside before = false := by
  obtain ⟨line, column⟩ := placed_of_solid course taken solid
  rw [StandsBehind, line, column]
  constructor
  · rintro ⟨sameLine, sameColumn⟩
    have onOneLine : '\n' ∉ piece.text := count_eq_zero.mp (by omega)
    rw [if_neg onOneLine] at sameColumn
    refine ⟨onOneLine, ?_⟩
    cases inside : begunInside before with
    | false => rfl
    | true =>
      rw [inside, Bool.toNat_true] at sameColumn
      omega
  · rintro ⟨onOneLine, outside⟩
    rw [count_eq_zero.mpr onOneLine, if_neg onOneLine, outside]
    exact ⟨rfl, rfl⟩

/--
A source that is scanned divides into pieces, and the tokens among them are what is scanned, with
the end of the file behind them.  A token other than a line feed is placed where its first character
stands exactly if no line feed is in it and the line did not begin inside an earlier piece.
Otherwise it is placed on the line of its last character, in the column that is counted back from
there, which on a line that began inside a piece is one too many.
-/
theorem scan_places_iff {source : String} {tokens : List Token}
    (scanned : scan source = .ok tokens) :
    ∃ pieces depth cursor, Course source pieces depth cursor ∧ textOf pieces = source.toList ∧
      tokens = tokensOf pieces ++ [cursor.endToken] ∧
        ∀ (before after : List Piece) (piece : Piece) (token : Token),
          pieces = before ++ piece :: after → piece.token? = some token →
            token.kind.isSolid = true →
              (StandsBehind token before ↔ '\n' ∉ piece.text ∧ begunInside before = false) ∧
                token.line = lineBehind (textOf before) + piece.text.count '\n' ∧
                  token.column =
                    if '\n' ∈ piece.text then (lineOffset piece.text + 2 : Int) - piece.text.length
                    else columnBehind (textOf before) + (begunInside before).toNat := by
  obtain ⟨pieces, depth, cursor, course, ended⟩ :=
    (Course.start : Course source [] 0 _).exists_finished_or_failed
  rcases ended with finished | ⟨first, rest, trouble, stands, failed⟩
  · have same := course.scan_of_finished finished
    have whole := course.text_eq
    rw [finished, append_nil] at whole
    refine ⟨pieces, depth, cursor, course, whole.symm, Except.ok.inj (scanned.symm.trans same), ?_⟩
    rintro before after piece token rfl taken solid
    exact ⟨standsBehind_iff course taken solid, placed_of_solid course taken solid⟩
  · cases scanned.symm.trans (course.scan_of_failed stands failed)

/-- What is scanned of a source with a comment over two lines. -/
def aroundComment : List Token :=
  [⟨.identifier, .scroll "x", 1, 1⟩, ⟨.identifier, .scroll "y", 2, 5⟩,
    ⟨.newline, .scroll "\n", 2, 7⟩, ⟨.identifier, .scroll "z", 3, 1⟩,
    ⟨.endOfFile, .scroll "", 3, 2⟩]

set_option maxRecDepth 10000 in
theorem scan_places_iff_aroundComment :
    scan "x ~~\n~~ y\nz" = .ok aroundComment ∧
      ∃ pieces depth cursor, Course "x ~~\n~~ y\nz" pieces depth cursor ∧
        aroundComment = tokensOf pieces ++ [cursor.endToken] ∧
          ∀ (before after : List Piece) (piece : Piece) (token : Token),
            pieces = before ++ piece :: after → piece.token? = some token →
              token.kind.isSolid = true →
                (StandsBehind token before ↔ '\n' ∉ piece.text ∧ begunInside before = false) := by
  have scanned : scan "x ~~\n~~ y\nz" = .ok aroundComment :=
    scan_of_characters ['x', ' ', '~', '~', '\n', '~', '~', ' ', 'y', '\n', 'z'] (by decide) rfl
  obtain ⟨pieces, depth, cursor, course, -, tokens, placed⟩ := scan_places_iff scanned
  refine ⟨scanned, pieces, depth, cursor, course, tokens, ?_⟩
  intro before after piece token split taken solid
  exact (placed before after piece token split taken solid).1

set_option maxRecDepth 10000 in
/--
A string of two lines and a name behind it, in brackets.  The string starts on the first line in the
second column, the name on the second line in the fourth column; neither is placed there.
-/
theorem broken_string_misplaced :
    scan "[\"a\nb\" x\n]" = .ok [⟨.leftBracket, .scroll "[", 1, 1⟩,
      ⟨.string, .scroll "a\nb", 2, -1⟩, ⟨.identifier, .scroll "x", 2, 5⟩,
      ⟨.rightBracket, .scroll "]", 3, 1⟩, ⟨.endOfFile, .scroll "", 3, 2⟩] ∧
      (lineBehind ['['], columnBehind ['[']) = (1, 2) ∧
        (lineBehind "[\"a\nb\" ".toList, columnBehind "[\"a\nb\" ".toList) = (2, 4) :=
  ⟨scan_of_characters ['[', '"', 'a', '\n', 'b', '"', ' ', 'x', '\n', ']'] (by decide) rfl,
    by decide, by decide⟩

end Spellbook.Token
