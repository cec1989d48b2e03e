import Spellbook.Proofs.Parsing.StatementComplete

/-!
# Successions of statements on lines of their own

A line feed keeps a statement apart from whatever follows, except that a conditional looks past line
feeds for its further branches.  What follows is fresh if none comes first there.  So statements
with a line feed after each are a succession, and two scripts with a line feed between them are a
succession of the statements of both.
-/

namespace Spellbook.Grammar

open List
open Spellbook.Parser (LineFeeds)

variable {feed closing finish : Token} {tokens : List Token} {items : List Item} {node : Node}

theorem lineFeeds_single (isFeed : feed.kind = .newline) : LineFeeds [feed] := by
  intro token mem
  rw [mem_singleton.mp mem]
  exact isFeed

/-- After its line feeds the text does not begin with a further branch of a conditional. -/
def Fresh (tokens : List Token) : Prop :=
  Ending.branch.clings (tokens.map Token.kind) = false

theorem fresh_of_begins {token : Token} (begins : token.kind.begins = true) (rest : List Token) :
    Fresh (token :: rest) := by
  have first := clings_branch LineFeeds.nil (begins_ne begins rfl) rest
  rw [nil_append] at first
  rw [Fresh, first]
  revert begins
  cases token.kind <;> decide

theorem Fresh.lines {lines : List Token} (feeds : LineFeeds lines) (fresh : Fresh tokens) :
    Fresh (lines ++ tokens) := by
  have none : (lines.map Token.kind).find? (· != .newline) = none := by
    simpa [LineFeeds] using feeds
  rw [Fresh, Ending.clings, map_append, List.find?_append, none, Option.none_or]
  exact fresh

/-- A succession does not begin with a further branch, nor does what closes it. -/
theorem Succession.fresh (later : Succession closing items tokens)
    (stated : ∀ item ∈ items, States item.1 item.2) (closes : Fresh [closing]) :
    Fresh (tokens ++ [closing]) := by
  cases later with
  | done feeds => exact closes.lines feeds
  | next feeds apart others =>
    obtain ⟨token, rest, rfl, begins⟩ := (stated _ mem_cons_self).starts
    rw [append_assoc]
    exact (fresh_of_begins begins _).lines feeds

theorem succession_single (apart : node.ending.clings [closing.kind] = false) :
    Succession closing [(tokens, node)] tokens := by
  have single := @Succession.next closing [] tokens [] node [] LineFeeds.nil apart
    (Succession.done LineFeeds.nil)
  rwa [append_nil, nil_append] at single

theorem States.parses (stated : States tokens node) (isEnd : finish.kind = .endOfFile)
    (apart : node.ending.clings [.endOfFile] = false) :
    Parser.parse (tokens ++ [finish]) = .ok (.program (.known 0 0) [node]) :=
  (succession_single (isEnd.symm ▸ apart)).parses isEnd (by simpa using stated) []

/-- A line feed keeps every statement apart from what is fresh. -/
theorem clings_lineFeed (ending : Ending) (isFeed : feed.kind = .newline) (fresh : Fresh tokens) :
    ending.clings ((feed :: tokens).map Token.kind) = false := by
  cases ending with
  | closed => rfl
  | value | bareCast =>
    rw [map_cons, isFeed]
    rfl
  | branch =>
    exact fresh.lines (lineFeeds_single isFeed)

/-- Statements with a line feed after each of them. -/
theorem succession_of_lines (closes : Fresh [closing]) (isFeed : feed.kind = .newline)
    (stated : ∀ item ∈ items, States item.1 item.2) :
    Succession closing items (items.flatMap fun item => item.1 ++ [feed]) := by
  induction items with
  | nil => exact Succession.done LineFeeds.nil
  | cons item items ih =>
    obtain ⟨first, others⟩ := forall_mem_cons.mp stated
    have further := ih others
    have apart := clings_lineFeed item.2.ending isFeed (further.fresh others closes)
    rw [flatMap_cons, append_assoc]
    exact Succession.next LineFeeds.nil apart (further.lines (lineFeeds_single isFeed))

/-- What keeps a statement apart from the end of the script keeps it apart from fresh lines. -/
theorem clings_beforeLine {ending : Ending} {rest : List Token}
    (apart : ending.clings ((rest ++ [finish]).map Token.kind) = false)
    (isFeed : feed.kind = .newline) (fresh : Fresh tokens) :
    ending.clings ((rest ++ feed :: tokens).map Token.kind) = false := by
  cases rest with
  | nil => exact clings_lineFeed ending isFeed fresh
  | cons first rest =>
    cases ending with
    | closed | value | bareCast => exact apart
    | branch =>
      have following : Fresh (feed :: tokens) := fresh.lines (lineFeeds_single isFeed)
      rw [Fresh] at following
      simp only [Ending.clings, map_append, List.find?_append] at apart following ⊢
      cases found : ((first :: rest).map Token.kind).find? (· != .newline) with
      | none => exact following
      | some kind =>
        rw [found] at apart
        exact apart

/-- Two scripts with a line feed between them. -/
theorem Succession.append {others : List Item} {more : List Token}
    (former : Succession finish items tokens) (isFeed : feed.kind = .newline)
    (latter : Succession closing others more) (fresh : Fresh (more ++ [closing])) :
    Succession closing (items ++ others) (tokens ++ feed :: more) := by
  induction former with
  | done lines => exact (latter.lines (lineFeeds_single isFeed)).lines lines
  | @next lines tokens rest node items feeds apart former ih =>
    have apartStill := clings_beforeLine apart isFeed fresh
    rw [← cons_append, ← append_assoc] at apartStill
    have whole := @Succession.next closing lines tokens (rest ++ feed :: more) node
      (items ++ others) feeds apartStill ih
    simpa only [append_assoc, cons_append] using whole

end Spellbook.Grammar
