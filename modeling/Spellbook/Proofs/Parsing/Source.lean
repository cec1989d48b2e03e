import Spellbook.Proofs.Grammar.Balance
import Spellbook.Proofs.Grammar.Respelling
import Spellbook.Proofs.Lexing.Division
import Spellbook.Proofs.Parsing.StatementSound
import Spellbook.Session

/-!
# From texts to trees

A source is read if the lexemes that it divides into, without the line feeds inside brackets, are a
succession of statements: `readSource_eq_ok` and `readSource_of_succession`.  Where the lexemes of a
part of the source close exactly the brackets that they open, what is seen of the part does not
depend on what stands before it; and inside brackets none of its line feeds is seen.
-/

namespace Spellbook

open List TokenKind Grammar

namespace Token

/-! ## Which line feeds are seen -/

section Visible

variable {depth middle : Nat} {first second lexemes : List Lexeme}

theorem visible_append (descends : descend depth (first.map Lexeme.kind) = some middle) :
    visible depth (first ++ second) = visible depth first ++ visible middle second := by
  induction first generalizing depth with
  | nil =>
    cases descends
    rfl
  | cons lexeme first ih =>
    obtain ⟨next, enters, descends⟩ := Option.bind_eq_some_iff.mp descends
    rw [cons_append, visible, visible, depthAfter_of_some enters, ih descends]
    split
    case isTrue hidden =>
      rw [hidden.1] at enters
      cases enters
      rw [ih descends]
    case isFalse => rfl

/-- The lexemes that are not line feeds. -/
def firm (lexemes : List Lexeme) : List Lexeme := lexemes.filter (·.kind != .newline)

/-- Inside brackets no line feed is seen. -/
theorem visible_inside (descends : descend depth (lexemes.map Lexeme.kind) = some middle) :
    visible (depth + 1) lexemes = firm lexemes := by
  induction lexemes generalizing depth with
  | nil => rfl
  | cons lexeme lexemes ih =>
    obtain ⟨next, enters, descends⟩ := Option.bind_eq_some_iff.mp descends
    rw [visible, firm, filter_cons]
    by_cases isFeed : lexeme.kind = .newline
    · rw [isFeed] at enters
      cases enters
      rw [if_pos ⟨isFeed, Nat.succ_ne_zero _⟩, isFeed]
      exact ih descends
    · rw [if_neg (fun hidden => isFeed hidden.1), if_pos (by simpa using isFeed),
        depthAfter_of_some (depthAfter?_shift enters 1), ih descends]
      rfl

theorem firm_visible (depth : Nat) (lexemes : List Lexeme) :
    firm (visible depth lexemes) = firm lexemes := by
  induction lexemes generalizing depth with
  | nil => rfl
  | cons lexeme lexemes ih =>
    have others : ∀ depth, (visible depth lexemes).filter (·.kind != .newline) =
        lexemes.filter (·.kind != .newline) := ih
    rw [visible]
    split
    case isTrue hidden =>
      rw [firm, firm, filter_cons_of_neg (by simp [hidden.1]), others]
    case isFalse => rw [firm, firm, filter_cons, filter_cons, others]

/-- Line feeds make no difference to brackets. -/
theorem descend_visible (depth : Nat) (lexemes : List Lexeme) :
    descend depth ((visible depth lexemes).map Lexeme.kind) =
      descend depth (lexemes.map Lexeme.kind) := by
  induction lexemes generalizing depth with
  | nil => rfl
  | cons lexeme lexemes ih =>
    rw [visible]
    split
    case isTrue hidden =>
      rw [ih, map_cons, descend, hidden.1]
      rfl
    case isFalse =>
      rw [map_cons, map_cons, descend, descend]
      cases enters : depthAfter? depth lexeme.kind with
      | none => rfl
      | some next => rw [depthAfter_of_some enters, Option.bind_some, Option.bind_some, ih]

theorem feedsOutside_visible (depth : Nat) (lexemes : List Lexeme) :
    FeedsOutside depth ((visible depth lexemes).map Lexeme.kind) := by
  induction lexemes generalizing depth with
  | nil => trivial
  | cons lexeme lexemes ih =>
    rw [visible]
    split
    case isTrue => exact ih depth
    case isFalse seen =>
      refine ⟨?_, ih _⟩
      intro isFeed
      exact Decidable.not_not.mp fun inside => seen ⟨isFeed, inside⟩

end Visible

theorem visible_subset (depth : Nat) (lexemes : List Lexeme) :
    visible depth lexemes ⊆ lexemes := by
  induction lexemes generalizing depth with
  | nil => exact List.Subset.refl _
  | cons lexeme lexemes ih =>
    rw [visible]
    split
    · exact subset_cons_of_subset _ (ih depth)
    · exact cons_subset_cons _ (ih _)

/-- No lexeme of a text is the end of the file. -/
theorem Divided.ne_endOfFile {text : List Char} {lexemes : List Lexeme}
    (divided : Divided text lexemes) : ∀ lexeme ∈ lexemes, lexeme.kind ≠ .endOfFile := by
  induction divided with
  | done =>
    intro lexeme mem
    cases mem
  | skip stands skipped others ih => exact ih
  | @take start finish first rest token lexemes stands taken others ih =>
    intro lexeme mem
    rcases mem_cons.mp mem with rfl | later
    · by_cases isFeed : first = '\n'
      · subst isFeed
        rw [next_of_lineFeed] at taken
        cases taken
        intro isEnd
        cases isEnd
      · have solid := (next_eq_ok stands isFeed taken).2 token rfl
        intro isEnd
        rw [show token.kind = .endOfFile from isEnd] at solid
        cases solid
    · exact ih lexeme later

/-- A short text is scanned by evaluation, once its characters are given. -/
theorem scan_of_characters {source : String} (chars : List Char) {tokens : List Token}
    (spelled : source.toList = chars)
    (scanned : scanFrom (chars.length + 1) 0 ⟨chars, 1, 1, 0⟩ = .ok tokens) :
    scan source = .ok tokens := by
  subst spelled
  exact scanned

end Token

open Token

/-- The kinds of tokens are those of their lexemes. -/
theorem map_kind_eq {tokens : List Token} {lexemes : List Lexeme}
    (spelled : tokens.map Token.lexeme = lexemes) :
    tokens.map Token.kind = lexemes.map Lexeme.kind := by
  rw [← spelled, map_map]
  rfl

/-- A succession of statements closes exactly the brackets that it opens. -/
theorem descend_of_succession {lexemes : List Lexeme} {items : List Item} {tokens : List Token}
    {finish : Token} (spelled : tokens.map Token.lexeme = visible 0 lexemes)
    (succeeding : Succession finish items tokens) (stated : ∀ item ∈ items, States item.1 item.2) :
    descend 0 (lexemes.map Lexeme.kind) = some 0 := by
  rw [← descend_visible, ← map_kind_eq spelled]
  exact succeeding.balanced fun item mem => (stated item mem).balanced

/-- A source that is read is a succession of statements. -/
theorem readSource_eq_ok {source : String} {tree : Node} (read : readSource source = .ok tree) :
    ∃ lexemes items tokens finish,
      Divided source.toList lexemes ∧ Token.scan source = .ok (tokens ++ [finish]) ∧
        tokens.map Token.lexeme = visible 0 lexemes ∧ finish.kind = .endOfFile ∧
          Succession finish items tokens ∧ (∀ item ∈ items, States item.1 item.2) ∧
            tree = .program (.known 0 0) (items.map Prod.snd) := by
  obtain ⟨scanned, scan, parsed⟩ := except_bind_eq_ok.mp read
  obtain ⟨lexemes, divided, spelled⟩ := scan_eq_ok scan
  obtain ⟨items, tokens, finish, rest, rfl, isEnd, succeeding, stated, same⟩ :=
    Parser.parse_eq_ok.mp parsed
  -- The end of the file is the last token, since no lexeme of the text is one.
  obtain ⟨front, last, equal, frontSpelled, sameLast⟩ := spelled_snoc spelled
  rcases eq_nil_or_concat rest with rfl | ⟨others, final, rfl⟩
  · obtain ⟨rfl, -⟩ := append_inj' equal rfl
    exact ⟨lexemes, items, tokens, finish, divided, scan, frontSpelled, isEnd, succeeding, stated,
      same⟩
  · rw [concat_eq_append, ← cons_append, ← append_assoc] at equal
    obtain ⟨sameFront, -⟩ := append_inj' equal rfl
    have mem : finish.lexeme ∈ visible 0 lexemes := by
      rw [← frontSpelled, ← sameFront]
      exact mem_map_of_mem (mem_append_right _ mem_cons_self)
    exact (divided.ne_endOfFile _ (visible_subset 0 lexemes mem) isEnd).elim

/-- A source that spells out a succession of statements is read as these, up to places. -/
theorem readSource_of_succession {source : String} {lexemes : List Lexeme} {items : List Item}
    {tokens : List Token} {finish : Token} (divided : Divided source.toList lexemes)
    (spelled : tokens.map Token.lexeme = visible 0 lexemes) (isEnd : finish.kind = .endOfFile)
    (succeeding : Succession finish items tokens) (stated : ∀ item ∈ items, States item.1 item.2) :
    ∃ stmts, readSource source = .ok (.program (.known 0 0) stmts) ∧
      stmts.map Node.unplaced = (items.map Prod.snd).map Node.unplaced := by
  obtain ⟨scanned, scan, scannedSpelled⟩ := divided.scan
  obtain ⟨others, last, rfl, othersSpelled, sameLast⟩ := spelled_snoc scannedSpelled
  have isLast : last.kind = .endOfFile := kind_of_lexeme sameLast
  obtain ⟨found, foundSucceeding, copies⟩ := succeeding.respelled stated
    (othersSpelled.trans spelled.symm) (isLast.trans isEnd.symm)
  refine ⟨found.map Prod.snd, ?_, copies.same⟩
  exact except_bind_eq_ok.mpr ⟨_, scan, foundSucceeding.parses isLast copies.read []⟩

end Spellbook
