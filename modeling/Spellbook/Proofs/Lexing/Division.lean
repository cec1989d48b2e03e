import Spellbook.Proofs.Grammar.Place
import Spellbook.Proofs.Lexing.Rounds

/-!
# How a text divides into lexemes

`Divided text lexemes` says that the text divides into the lexemes, all its line feeds included.  It
knows neither places nor brackets.  What `Token.scan` gives is this division without the line feeds
inside brackets (`scan_eq_ok`, `Divided.scanFrom`).

A division can be cut at any line feed between lexemes: what stands before it and what stands after
it divide on their own (`Divided.append`).
-/

namespace Spellbook

open List

namespace Token

variable {keep : Char → Bool} {char quote first : Char}
  {found text tail digits rest : List Char} {finish cursor start other last : Cursor}
  {token : Token} {depth fuel : Nat} {kind : TokenKind} {lexemes : List Lexeme}
  {tokens : List Token} {source : String}

/-! ## Texts after which no lexeme goes on -/

/-- The text is empty or starts with a line feed. -/
def Breaks (tail : List Char) : Prop := ∀ char ∈ tail.head?, char = '\n'

theorem Breaks.nil : Breaks [] := by
  intro char mem
  cases mem

theorem Breaks.lineFeed (rest : List Char) : Breaks ('\n' :: rest) := by
  intro char mem
  exact (Option.mem_some.mp mem).symm

section Tail

variable {tail : List Char} (breaks : Breaks tail)

include breaks

theorem takeWhile_append (ends : keep '\n' = false) (text : List Char) :
    (text ++ tail).takeWhile keep = text.takeWhile keep := by
  induction text with
  | nil =>
    cases tail with
    | nil => rfl
    | cons char rest =>
      rw [nil_append, breaks char rfl, takeWhile_cons, ends]
      rfl
  | cons char text ih =>
    rw [cons_append, takeWhile_cons, takeWhile_cons, ih]

theorem dropWhile_append (ends : keep '\n' = false) (text : List Char) :
    (text ++ tail).dropWhile keep = text.dropWhile keep ++ tail := by
  induction text with
  | nil =>
    cases tail with
    | nil => rfl
    | cons char rest =>
      rw [nil_append, breaks char rfl, dropWhile_cons, ends]
      rfl
  | cons char text ih =>
    rw [cons_append, dropWhile_cons, dropWhile_cons, ih]
    split <;> rfl

theorem head_append_ne (other : char ≠ '\n') (text : List Char) :
    ((text ++ tail).head? == some char) = (text.head? == some char) := by
  cases text with
  | cons first rest => rfl
  | nil =>
    cases tail with
    | nil => rfl
    | cons first rest =>
      obtain rfl := breaks first rfl
      simp [Ne.symm other]

end Tail

/-! ## Strings, comments, numbers and words -/

theorem scanString_append (tail : List Char)
    (read : scanString quote cursor text = .ok (found, finish)) (other : Cursor) :
    ∃ otherFinish, scanString quote other (text ++ tail) = .ok (found, otherFinish) ∧
      otherFinish.rest = finish.rest ++ tail := by
  fun_induction scanString quote cursor text generalizing other found with
  | case1 cursor => cases read
  | case2 cursor char rest closes =>
    cases read
    refine ⟨other.after 1 (rest ++ tail), ?_, rfl⟩
    rw [cons_append, scanString.eq_def]
    simp only [closes, if_true]
  | case3 cursor char rest unclosed isFeed ih =>
    obtain ⟨text, readRest, rfl⟩ := prepend_eq_ok.mp read
    obtain ⟨otherFinish, otherRead, same⟩ := ih readRest (other.afterLineFeed (rest ++ tail))
    refine ⟨otherFinish, ?_, same⟩
    rw [cons_append, scanString.eq_def]
    simp only [unclosed, isFeed, if_true, if_false, Bool.false_eq_true]
    exact prepend_eq_ok.mpr ⟨text, otherRead, rfl⟩
  | case4 cursor char unclosed noFeed isBackslash => cases read
  | case5 cursor char unclosed noFeed isBackslash second rest meaning isEscape ih =>
    obtain ⟨text, readRest, rfl⟩ := prepend_eq_ok.mp read
    obtain ⟨otherFinish, otherRead, same⟩ := ih readRest (other.after 2 (rest ++ tail))
    refine ⟨otherFinish, ?_, same⟩
    rw [cons_append, cons_append, scanString, if_neg unclosed, if_neg noFeed, if_pos isBackslash]
    simp only [isEscape]
    exact prepend_eq_ok.mpr ⟨text, otherRead, rfl⟩
  | case6 cursor char unclosed noFeed isBackslash second rest noEscape ih =>
    obtain ⟨text, readRest, rfl⟩ := prepend_eq_ok.mp read
    obtain ⟨otherFinish, otherRead, same⟩ :=
      ih readRest (other.after 1 (second :: (rest ++ tail)))
    refine ⟨otherFinish, ?_, same⟩
    rw [cons_append, cons_append, scanString, if_neg unclosed, if_neg noFeed, if_pos isBackslash]
    simp only [noEscape]
    exact prepend_eq_ok.mpr ⟨text, otherRead, rfl⟩
  | case7 cursor char rest unclosed noFeed noBackslash ih =>
    obtain ⟨text, readRest, rfl⟩ := prepend_eq_ok.mp read
    obtain ⟨otherFinish, otherRead, same⟩ := ih readRest (other.after 1 (rest ++ tail))
    refine ⟨otherFinish, ?_, same⟩
    rw [cons_append, scanString.eq_def]
    simp only [unclosed, noFeed, noBackslash, if_false, Bool.false_eq_true]
    exact prepend_eq_ok.mpr ⟨text, otherRead, rfl⟩

theorem skipComment_append (breaks : Breaks tail) (read : skipComment cursor text = .ok finish)
    (other : Cursor) :
    ∃ otherFinish, skipComment other (text ++ tail) = .ok otherFinish ∧
      otherFinish.rest = finish.rest ++ tail := by
  fun_induction skipComment cursor text generalizing other with
  | case1 cursor => cases read
  | case2 cursor char rest closes =>
    cases read
    refine ⟨other.after 2 (rest ++ tail).tail, ?_, ?_⟩
    · rw [cons_append, skipComment, head_append_ne breaks (by decide), if_pos closes]
    · cases rest with
      | nil => simp at closes
      | cons second others => rfl
  | case3 cursor char rest unclosed isFeed ih =>
    obtain ⟨otherFinish, otherRead, same⟩ := ih read (other.afterLineFeed (rest ++ tail))
    refine ⟨otherFinish, ?_, same⟩
    rw [cons_append, skipComment, head_append_ne breaks (by decide), if_neg unclosed, if_pos isFeed]
    exact otherRead
  | case4 cursor char rest unclosed noFeed ih =>
    obtain ⟨otherFinish, otherRead, same⟩ := ih read (other.after 1 (rest ++ tail))
    refine ⟨otherFinish, ?_, same⟩
    rw [cons_append, skipComment, head_append_ne breaks (by decide), if_neg unclosed, if_neg noFeed]
    exact otherRead

theorem scanInteger_append {otherFinish : Cursor} (stands : otherFinish.rest = finish.rest ++ tail)
    (read : scanNumber.integer start digits finish = .ok (token, last)) :
    ∃ otherToken otherLast, scanNumber.integer other digits otherFinish =
        .ok (otherToken, otherLast) ∧
      otherToken.lexeme = token.lexeme ∧ otherLast.rest = last.rest ++ tail := by
  unfold scanNumber.integer at read ⊢
  split at read
  · cases read
    exact ⟨_, _, rfl, rfl, stands⟩
  · cases read

theorem scanNumber_append (breaks : Breaks tail) (stands : other.rest = start.rest ++ tail)
    (read : scanNumber start = .ok (token, finish)) :
    ∃ otherToken otherFinish, scanNumber other = .ok (otherToken, otherFinish) ∧
      otherToken.lexeme = token.lexeme ∧ otherFinish.rest = finish.rest ++ tail := by
  have ends : Unicode.isDigit '\n' = false := by decide +kernel
  simp only [scanNumber, Cursor.takeWhile, Cursor.after, stands, takeWhile_append breaks ends,
    dropWhile_append breaks ends] at read ⊢
  generalize start.rest.takeWhile Unicode.isDigit = whole at read ⊢
  generalize start.rest.dropWhile Unicode.isDigit = rest at read ⊢
  split at read
  case h_1 digit others =>
    by_cases isDigit : Unicode.isDigit digit = true
    · simp only [isDigit, if_true, tail_cons, cons_append] at read ⊢
      rw [← cons_append, takeWhile_append breaks ends, dropWhile_append breaks ends]
      split at read
      · cases read
        exact ⟨_, _, rfl, rfl, rfl⟩
      · cases read
    · simp only [isDigit, if_false, cons_append, Bool.false_eq_true] at read ⊢
      exact scanInteger_append rfl read
  case h_2 noFraction =>
    split
    case h_1 digit others equal =>
      -- The text stops after the whole digits or after a point; so no fraction begins behind it.
      have isFeed : digit = '\n' := by
        cases rest with
        | nil =>
          subst equal
          exact absurd (breaks _ rfl) (by decide)
        | cons point more =>
          obtain ⟨rfl, same⟩ := List.cons.inj equal
          cases more with
          | nil => exact breaks digit (by rw [show tail = digit :: others from same]; rfl)
          | cons second more => exact (noFraction second more rfl).elim
      simp only [isFeed, ends, if_false, Bool.false_eq_true]
      exact scanInteger_append rfl read
    case h_2 => exact scanInteger_append rfl read

theorem scanWord_append (breaks : Breaks tail) (stands : other.rest = start.rest ++ tail) :
    (scanWord other).1.lexeme = (scanWord start).1.lexeme ∧
      (scanWord other).2.rest = (scanWord start).2.rest ++ tail := by
  have ends : continuesWord '\n' = false := by decide +kernel
  constructor
  · simp only [scanWord, Cursor.takeWhile, stands, takeWhile_append breaks ends, between, lexeme]
  · simp only [scanWord, Cursor.takeWhile, Cursor.after, stands, dropWhile_append breaks ends]

/-! ## One lexeme -/

/--
What stands at a position does not depend on where the position is, nor on what follows after a line
feed.
-/
theorem next_append (breaks : Breaks tail) (stands : start.rest = first :: rest)
    (otherStands : other.rest = first :: (rest ++ tail)) {found : Option Token}
    (read : next depth start first rest = .ok (found, finish)) :
    ∃ otherFound otherFinish, next depth other first (rest ++ tail) =
        .ok (otherFound, otherFinish) ∧
      otherFound.map Token.lexeme = found.map Token.lexeme ∧
        otherFinish.rest = finish.rest ++ tail := by
  have sameRest : other.rest = start.rest ++ tail := by
    rw [otherStands, stands, cons_append]
  unfold next at read ⊢
  dsimp only at read ⊢
  by_cases isBlank : (first == ' ' || first == '\t' || first == '\r') = true
  · rw [if_pos isBlank] at read ⊢
    cases read
    exact ⟨_, _, rfl, rfl, rfl⟩
  rw [if_neg isBlank] at read ⊢
  by_cases isFeed : (first == '\n') = true
  · rw [if_pos isFeed] at read ⊢
    cases read
    refine ⟨_, _, rfl, ?_, rfl⟩
    split <;> rfl
  rw [if_neg isFeed] at read ⊢
  by_cases isTilde : (first == '~') = true
  · rw [if_pos isTilde] at read ⊢
    rw [head_append_ne breaks (by decide)]
    by_cases isBlock : (rest.head? == some '~') = true
    · rw [if_pos isBlock] at read ⊢
      obtain ⟨last, skipped, equal⟩ := except_bind_eq_ok.mp read
      cases equal
      have sameTail : (rest ++ tail).tail = rest.tail ++ tail := by
        cases rest with
        | nil => simp at isBlock
        | cons second others => rfl
      rw [sameTail]
      obtain ⟨otherFinish, otherSkipped, same⟩ := skipComment_append breaks skipped
        ((other.after 1 (rest ++ tail)).after 1 (rest.tail ++ tail))
      exact ⟨none, otherFinish, except_bind_eq_ok.mpr ⟨otherFinish, otherSkipped, rfl⟩, rfl, same⟩
    · rw [if_neg isBlock] at read ⊢
      cases read
      exact ⟨_, _, rfl, rfl, dropWhile_append breaks rfl rest⟩
  rw [if_neg isTilde] at read ⊢
  by_cases isQuote : (first == '"' || first == '\'') = true
  · rw [if_pos isQuote] at read ⊢
    obtain ⟨⟨text, last⟩, scanned, equal⟩ := except_bind_eq_ok.mp read
    cases equal
    obtain ⟨otherFinish, otherScanned, same⟩ :=
      scanString_append tail scanned (other.after 1 (rest ++ tail))
    exact ⟨_, otherFinish, except_bind_eq_ok.mpr ⟨(text, otherFinish), otherScanned, rfl⟩, rfl,
      same⟩
  rw [if_neg isQuote] at read ⊢
  by_cases isDigit : Unicode.isDigit first = true
  · rw [if_pos isDigit] at read ⊢
    obtain ⟨⟨token, last⟩, scanned, equal⟩ := except_bind_eq_ok.mp read
    cases equal
    obtain ⟨otherToken, otherFinish, otherScanned, sameLexeme, same⟩ :=
      scanNumber_append breaks sameRest scanned
    exact ⟨some otherToken, otherFinish,
      except_bind_eq_ok.mpr ⟨(otherToken, otherFinish), otherScanned, rfl⟩,
      congrArg some sameLexeme, same⟩
  rw [if_neg isDigit] at read ⊢
  by_cases isWord : startsWord first = true
  · rw [if_pos isWord] at read ⊢
    cases read
    obtain ⟨sameLexeme, same⟩ := scanWord_append breaks sameRest
    exact ⟨_, _, rfl, congrArg some sameLexeme, same⟩
  rw [if_neg isWord] at read ⊢
  rw [head_append_ne breaks (by decide)]
  by_cases isPower : (first == '*' && rest.head? == some '*') = true
  · rw [if_pos isPower] at read ⊢
    cases read
    refine ⟨_, _, rfl, rfl, ?_⟩
    cases rest with
    | nil => simp at isPower
    | cons second others => rfl
  rw [if_neg isPower] at read ⊢
  split at read
  · cases read
    exact ⟨_, _, rfl, rfl, rfl⟩
  · cases read

/-! ## The length of what is left -/

/-- Every round takes a character at least, and apart from line feeds it gives solid tokens only. -/
theorem next_eq_ok (stands : start.rest = first :: rest) (notFeed : first ≠ '\n')
    {found : Option Token} (read : next depth start first rest = .ok (found, finish)) :
    finish.rest.length ≤ rest.length ∧ ∀ token ∈ found, token.kind.isSolid = true := by
  have shorter {text : List Char} (nonempty : text ≠ []) (passes : Passes start text finish) :
      finish.rest.length ≤ rest.length := by
    have lengths := congrArg length (stands.symm.trans passes.rest)
    have positive := length_pos_iff.mpr nonempty
    simp only [length_cons, length_append] at lengths
    omega
  have ending := next_ending depth stands notFeed
  rw [read] at ending
  cases ending with
  | passed nonempty passes => exact ⟨shorter nonempty passes, by rintro _ ⟨⟩⟩
  | taken nonempty passes solid =>
    refine ⟨shorter nonempty passes, ?_⟩
    rintro _ ⟨⟩
    exact solid

theorem next_of_lineFeed (depth : Nat) (start : Cursor) (rest : List Char) :
    next depth start '\n' rest =
      .ok (if depth == 0 then some ⟨.newline, .scroll "\n", start.line, start.column + 1⟩ else none,
        ⟨rest, start.line + 1, 1, start.offset + 1⟩) := rfl

theorem next_depth (notFeed : first ≠ '\n') (depth : Nat) (start : Cursor) (rest : List Char) :
    next depth start first rest = next 0 start first rest := by
  unfold next
  dsimp only
  rw [if_neg (show ¬(first == '\n') = true by simpa using notFeed),
    if_neg (show ¬(first == '\n') = true by simpa using notFeed)]

/-! ## Divisions -/

/-- The text divides into the lexemes, line feeds included. -/
inductive Divided : List Char → List Lexeme → Prop where
  | done : Divided [] []
  | skip {start finish : Cursor} {first : Char} {rest : List Char} {lexemes : List Lexeme}
      (stands : start.rest = first :: rest)
      (skipped : next 0 start first rest = .ok (none, finish))
      (others : Divided finish.rest lexemes) :
      Divided (first :: rest) lexemes
  | take {start finish : Cursor} {first : Char} {rest : List Char} {token : Token}
      {lexemes : List Lexeme}
      (stands : start.rest = first :: rest)
      (taken : next 0 start first rest = .ok (some token, finish))
      (others : Divided finish.rest lexemes) :
      Divided (first :: rest) (token.lexeme :: lexemes)

theorem Divided.append {more : List Lexeme} (divided : Divided text lexemes) (breaks : Breaks tail)
    (others : Divided tail more) :
    Divided (text ++ tail) (lexemes ++ more) := by
  induction divided with
  | done => exact others
  | @skip start finish first rest lexemes stands skipped divided ih =>
    obtain ⟨otherFound, otherFinish, read, sameFound, sameRest⟩ := next_append breaks stands
      (show ({ start with rest := first :: (rest ++ tail) } : Cursor).rest = _ from rfl) skipped
    obtain rfl : otherFound = none := Option.map_eq_none_iff.mp sameFound
    rw [← sameRest] at ih
    exact Divided.skip rfl read ih
  | @take start finish first rest token lexemes stands taken divided ih =>
    obtain ⟨otherFound, otherFinish, read, sameFound, sameRest⟩ := next_append breaks stands
      (show ({ start with rest := first :: (rest ++ tail) } : Cursor).rest = _ from rfl) taken
    obtain ⟨otherToken, rfl, sameLexeme⟩ := Option.map_eq_some_iff.mp sameFound
    rw [← sameRest] at ih
    rw [← sameLexeme]
    exact Divided.take rfl read ih

def lineFeed : Lexeme := ⟨.newline, .scroll "\n"⟩

theorem Divided.lineFeed (divided : Divided text lexemes) :
    Divided ('\n' :: text) (Token.lineFeed :: lexemes) :=
  @Divided.take ⟨'\n' :: text, 1, 1, 0⟩ _ '\n' text _ lexemes rfl
    (next_of_lineFeed 0 _ text) divided

/-! ## Scanning -/

/-- The lexemes without the line feeds inside brackets; the first stands inside `depth` of them. -/
def visible : (depth : Nat) → List Lexeme → List Lexeme
  | _, [] => []
  | depth, lexeme :: lexemes =>
    if lexeme.kind = .newline ∧ depth ≠ 0 then visible depth lexemes
    else lexeme :: visible (lexeme.kind.depthAfter depth) lexemes

def finale : Lexeme := ⟨.endOfFile, .scroll ""⟩

theorem isSolid_ne (solid : kind.isSolid = true) : kind ≠ .newline := by
  rintro rfl
  cases solid

theorem visible_of_solid {lexeme : Lexeme} (solid : lexeme.kind.isSolid = true) (depth : Nat)
    (lexemes : List Lexeme) :
    visible depth (lexeme :: lexemes) =
      lexeme :: visible (lexeme.kind.depthAfter depth) lexemes := by
  rw [visible, if_neg]
  rintro ⟨isFeed, -⟩
  exact isSolid_ne solid isFeed

/-- What is scanned is a division of the text, without the line feeds inside brackets. -/
theorem scanFrom_eq_ok (read : scanFrom fuel depth cursor = .ok tokens) :
    ∃ lexemes, Divided cursor.rest lexemes ∧
      tokens.map Token.lexeme = visible depth lexemes ++ [finale] := by
  induction fuel generalizing depth cursor tokens with
  | zero => cases read
  | succ fuel ih =>
    unfold scanFrom at read
    cases stands : cursor.rest with
    | nil =>
      rw [stands] at read
      cases read
      exact ⟨[], Divided.done, rfl⟩
    | cons first rest =>
      rw [stands] at read
      obtain ⟨⟨found, finish⟩, stepped, read⟩ := except_bind_eq_ok.mp read
      by_cases isFeed : first = '\n'
      · subst isFeed
        rw [next_of_lineFeed] at stepped
        cases depth with
        | zero =>
          cases stepped
          obtain ⟨others, readOthers, equal⟩ := except_bind_eq_ok.mp read
          cases equal
          obtain ⟨lexemes, divided, same⟩ := ih readOthers
          exact ⟨lineFeed :: lexemes, divided.lineFeed, congrArg (lineFeed :: ·) same⟩
        | succ depth =>
          cases stepped
          obtain ⟨lexemes, divided, same⟩ := ih read
          exact ⟨lineFeed :: lexemes, divided.lineFeed, same⟩
      · have solid := (next_eq_ok stands isFeed stepped).2
        rw [next_depth isFeed] at stepped
        cases found with
        | none =>
          obtain ⟨lexemes, divided, same⟩ := ih read
          exact ⟨lexemes, Divided.skip stands stepped divided, same⟩
        | some token =>
          obtain ⟨others, readOthers, equal⟩ := except_bind_eq_ok.mp read
          cases equal
          obtain ⟨lexemes, divided, same⟩ := ih readOthers
          refine ⟨token.lexeme :: lexemes, Divided.take stands stepped divided, ?_⟩
          rw [visible_of_solid (solid token rfl), map_cons, same]
          rfl

/-- What stands at a position does not depend on where the position is. -/
theorem next_elsewhere (stands : start.rest = first :: rest)
    (otherStands : other.rest = first :: rest) {found : Option Token}
    (read : next depth start first rest = .ok (found, finish)) :
    ∃ otherFound otherFinish, next depth other first rest = .ok (otherFound, otherFinish) ∧
      otherFound.map Token.lexeme = found.map Token.lexeme ∧ otherFinish.rest = finish.rest := by
  have moved := next_append Breaks.nil stands
    (show other.rest = first :: (rest ++ []) by rw [append_nil]; exact otherStands) read
  simpa only [append_nil] using moved

/-- A text that divides is scanned from any position, inside any number of brackets. -/
theorem Divided.scanFrom (divided : Divided text lexemes) (stands : cursor.rest = text)
    (enough : text.length < fuel) (depth : Nat) :
    ∃ tokens, Token.scanFrom fuel depth cursor = .ok tokens ∧
      tokens.map Token.lexeme = visible depth lexemes ++ [finale] := by
  induction divided generalizing cursor fuel depth with
  | done =>
    obtain ⟨less, rfl⟩ : ∃ less, fuel = less + 1 := ⟨fuel - 1, by omega⟩
    refine ⟨[⟨.endOfFile, .scroll "", cursor.line, cursor.column⟩], ?_, rfl⟩
    unfold Token.scanFrom
    rw [stands]
  | @skip start finish first rest lexemes startStands skipped divided ih =>
    obtain ⟨less, rfl⟩ : ∃ less, fuel = less + 1 := ⟨fuel - 1, by omega⟩
    have notFeed : first ≠ '\n' := by
      rintro rfl
      rw [next_of_lineFeed] at skipped
      cases skipped
    obtain ⟨found, otherFinish, read, sameFound, sameRest⟩ :=
      next_elsewhere startStands stands skipped
    obtain rfl : found = none := Option.map_eq_none_iff.mp sameFound
    have shorter := (next_eq_ok stands notFeed read).1
    obtain ⟨tokens, readOthers, same⟩ := ih sameRest
      (show finish.rest.length < less by
        rw [← sameRest]
        simp only [length_cons] at enough
        omega) depth
    refine ⟨tokens, ?_, same⟩
    unfold Token.scanFrom
    rw [stands]
    exact except_bind_eq_ok.mpr
      ⟨(none, otherFinish), by rw [next_depth notFeed]; exact read, readOthers⟩
  | @take start finish first rest token lexemes startStands taken divided ih =>
    obtain ⟨less, rfl⟩ : ∃ less, fuel = less + 1 := ⟨fuel - 1, by omega⟩
    simp only [length_cons] at enough
    by_cases isFeed : first = '\n'
    · subst isFeed
      rw [next_of_lineFeed] at taken
      cases taken
      unfold Token.scanFrom
      rw [stands]
      cases depth with
      | zero =>
        obtain ⟨tokens, readOthers, same⟩ :=
          @ih ⟨rest, cursor.line + 1, 1, cursor.offset + 1⟩ less rfl
            (Nat.lt_of_succ_lt_succ enough) 0
        refine ⟨⟨.newline, .scroll "\n", cursor.line, cursor.column + 1⟩ :: tokens, ?_,
          congrArg (Token.lineFeed :: ·) same⟩
        exact except_bind_eq_ok.mpr ⟨_, next_of_lineFeed 0 cursor rest,
          except_bind_eq_ok.mpr ⟨tokens, readOthers, rfl⟩⟩
      | succ depth =>
        obtain ⟨tokens, readOthers, same⟩ :=
          @ih ⟨rest, cursor.line + 1, 1, cursor.offset + 1⟩ less rfl
            (Nat.lt_of_succ_lt_succ enough) (depth + 1)
        refine ⟨tokens, ?_, same⟩
        exact except_bind_eq_ok.mpr ⟨_, next_of_lineFeed (depth + 1) cursor rest, readOthers⟩
    · obtain ⟨found, otherFinish, read, sameFound, sameRest⟩ :=
        next_elsewhere startStands stands taken
      obtain ⟨otherToken, rfl, sameLexeme⟩ := Option.map_eq_some_iff.mp sameFound
      obtain ⟨shorter, solid⟩ := next_eq_ok stands isFeed read
      have sameKind : otherToken.kind = token.kind := congrArg Lexeme.kind sameLexeme
      obtain ⟨tokens, readOthers, same⟩ := ih sameRest
        (show finish.rest.length < less by
          rw [← sameRest]
          omega) (token.kind.depthAfter depth)
      refine ⟨otherToken :: tokens, ?_, ?_⟩
      · unfold Token.scanFrom
        rw [stands]
        refine except_bind_eq_ok.mpr
          ⟨(some otherToken, otherFinish), by rw [next_depth isFeed]; exact read, ?_⟩
        rw [← sameKind] at readOthers
        exact except_bind_eq_ok.mpr ⟨tokens, readOthers, rfl⟩
      · have tokenSolid : token.lexeme.kind.isSolid = true := by
          rw [show token.lexeme.kind = otherToken.kind from sameKind.symm]
          exact solid otherToken rfl
        rw [map_cons, sameLexeme, same, visible_of_solid tokenSolid]
        rfl

theorem scan_eq_ok (read : scan source = .ok tokens) :
    ∃ lexemes, Divided source.toList lexemes ∧
      tokens.map Token.lexeme = visible 0 lexemes ++ [finale] :=
  scanFrom_eq_ok read

theorem Divided.scan (divided : Divided source.toList lexemes) :
    ∃ tokens, Token.scan source = .ok tokens ∧
      tokens.map Token.lexeme = visible 0 lexemes ++ [finale] :=
  @Divided.scanFrom _ (.start source) _ lexemes divided rfl (Nat.lt_succ_self _) 0

end Token

end Spellbook
