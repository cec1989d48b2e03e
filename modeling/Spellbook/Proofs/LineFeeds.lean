import Spellbook.Proofs.Grammar.Weight
import Spellbook.Proofs.Parsing.Lines

/-!
# Line feeds between statements

On the outermost level a line feed ends every statement.  Inside a block no line feed is seen, since
a block stands in brackets; there two statements are kept apart only if the second does not go on
with the first.
-/

namespace Spellbook

open List TokenKind Grammar Token
open Spellbook.Parser (LineFeeds)

variable {source second : String} {place : Place} {node one two tree cond other : Node}
  {first front back tokens left right : List Token} {kind : TokenKind} {statements : List Node}

/-! ## Texts that are one statement -/

/-- A text that spells out one statement, with line feeds around it. -/
structure Sentence (source : String) (node : Node) where
  lexemes : List Lexeme
  before : List Token
  tokens : List Token
  after : List Token
  finish : Token
  divided : Divided source.toList lexemes
  scanned : Token.scan source = .ok (before ++ (tokens ++ after) ++ [finish])
  spelled : (before ++ (tokens ++ after)).map Token.lexeme = visible 0 lexemes
  beforeFeeds : LineFeeds before
  stated : States tokens node
  afterFeeds : LineFeeds after
  isEnd : finish.kind = .endOfFile
  apart : node.ending.clings ((after ++ [finish]).map Token.kind) = false

/-- A text that is read as one statement spells it out. -/
theorem exists_sentence (read : readSource source = .ok (.program place [node])) :
    Nonempty (Sentence source node) := by
  obtain ⟨lexemes, items, tokens, finish, divided, scanned, spelled, isEnd, later, stated,
    same⟩ := readSource_eq_ok read
  obtain ⟨-, single⟩ := Node.program.inj same
  obtain ⟨⟨statement, found⟩, rfl, rfl⟩ := map_eq_singleton_iff.mp single.symm
  cases later with
  | @next before _ rest _ _ beforeFeeds apart others =>
    cases others with
    | done afterFeeds =>
      exact ⟨⟨lexemes, before, statement, rest, finish, divided, scanned, spelled, beforeFeeds,
        stated _ mem_cons_self, afterFeeds, isEnd, apart⟩⟩

namespace Sentence

variable {source : String} {node : Node} (sentence : Sentence source node)

theorem balancedTokens : Balanced (sentence.before ++ (sentence.tokens ++ sentence.after)) :=
  (balanced_of_lineFeeds sentence.beforeFeeds).append
    (sentence.stated.balanced.append (balanced_of_lineFeeds sentence.afterFeeds))

/-- The text closes exactly the brackets that it opens. -/
theorem descend_eq : descend 0 (sentence.lexemes.map Lexeme.kind) = some 0 := by
  rw [← descend_visible, ← map_kind_eq sentence.spelled]
  exact sentence.balancedTokens

/-- The statement without its line feeds. -/
theorem solidStated : States (solids sentence.tokens) node := by
  have outside := feedsOutside_visible 0 sentence.lexemes
  rw [← map_kind_eq sentence.spelled] at outside
  exact sentence.stated.solids (feedsOutside_left sentence.stated.balanced
    (feedsOutside_right (balanced_of_lineFeeds sentence.beforeFeeds) outside))

/-- Without line feeds the text spells out the statement alone. -/
theorem firm_lexemes : firm sentence.lexemes = (solids sentence.tokens).map Token.lexeme := by
  have all : solids (sentence.before ++ (sentence.tokens ++ sentence.after)) =
      solids sentence.tokens := by
    rw [solids_append, solids_append, solids_of_lineFeeds sentence.beforeFeeds,
      solids_of_lineFeeds sentence.afterFeeds, nil_append, append_nil]
  rw [← firm_visible 0, ← sentence.spelled, ← all, firm, filter_map]
  rfl

end Sentence

/-! ## Two statements on the outermost level -/

theorem Sentence.reads (sentence : Sentence source node) :
    ∃ statements, readSource source = .ok (.program (.known 0 0) statements) ∧
      statements.map Node.unplaced = [node.unplaced] := by
  refine readSource_of_succession sentence.divided sentence.spelled sentence.isEnd
    (Succession.next sentence.beforeFeeds sentence.apart (Succession.done sentence.afterFeeds)) ?_
  simpa using sentence.stated

/-- Two statements with a line feed between them are read as these two. -/
theorem Sentence.pair {first : String} (former : Sentence first one)
    (latter : Sentence second two) :
    ∃ statements,
      readSource (first ++ "\n" ++ second) = .ok (.program (.known 0 0) statements) ∧
        statements.map Node.unplaced = [one.unplaced, two.unplaced] := by
  obtain ⟨_, readFirst, sameFirst⟩ := former.reads
  obtain ⟨_, readSecond, sameSecond⟩ := latter.reads
  obtain ⟨statements, read, same⟩ := readSource_lines readFirst readSecond
  refine ⟨statements, read, ?_⟩
  rw [same, map_append, sameFirst, sameSecond]
  rfl

/-! ## Two statements in a block -/

/-- The two texts on lines of their own, in a block. -/
def inBlock (first second : String) : String :=
  "prophecy reveals true \x7b" ++ "\n" ++ first ++ "\n" ++ second ++ "\n" ++ "\x7d"

/-- The kind of the first token of a text that is no line feed. -/
def leadingKind? (source : String) : Option TokenKind :=
  match Token.scan source with
  | .ok tokens => (tokens.map Token.kind).find? (· != .newline)
  | .error _ => none

def headingLexemes : List Lexeme :=
  [⟨.prophecy, .scroll "prophecy"⟩, ⟨.reveals, .scroll "reveals"⟩, ⟨.trueWord, .scroll "true"⟩,
    ⟨.leftBrace, .scroll "\x7b"⟩]

def closingBrace : Lexeme := ⟨.rightBrace, .scroll "\x7d"⟩

set_option maxRecDepth 10000 in
theorem divided_heading : Divided "prophecy reveals true \x7b".toList headingLexemes := by
  have chars : "prophecy reveals true \x7b".toList =
      ['p', 'r', 'o', 'p', 'h', 'e', 'c', 'y', ' ', 'r', 'e', 'v', 'e', 'a', 'l', 's', ' ',
        't', 'r', 'u', 'e', ' ', '\x7b'] := by decide
  rw [chars]
  refine @Divided.take ⟨_, 1, 1, 0⟩ _ _ _ ⟨.prophecy, .scroll "prophecy", _, _⟩ _ rfl rfl ?_
  refine @Divided.skip ⟨_, 1, 1, 0⟩ _ _ _ _ rfl rfl ?_
  refine @Divided.take ⟨_, 1, 1, 0⟩ _ _ _ ⟨.reveals, .scroll "reveals", _, _⟩ _ rfl rfl ?_
  refine @Divided.skip ⟨_, 1, 1, 0⟩ _ _ _ _ rfl rfl ?_
  refine @Divided.take ⟨_, 1, 1, 0⟩ _ _ _ ⟨.trueWord, .scroll "true", _, _⟩ _ rfl rfl ?_
  refine @Divided.skip ⟨_, 1, 1, 0⟩ _ _ _ _ rfl rfl ?_
  refine @Divided.take ⟨_, 1, 1, 0⟩ _ _ _ ⟨.leftBrace, .scroll "\x7b", _, _⟩ _ rfl rfl ?_
  exact Divided.done

set_option maxRecDepth 10000 in
theorem divided_closingBrace : Divided ['\x7d'] [closingBrace] :=
  @Divided.take ⟨_, 1, 1, 0⟩ _ _ _ ⟨.rightBrace, .scroll "\x7d", _, _⟩ _ rfl rfl Divided.done

section Block

variable {first second : String} {one two : Node} (former : Sentence first one)
  (latter : Sentence second two)

def blockLexemes : List Lexeme :=
  headingLexemes ++ lineFeed :: (former.lexemes ++ lineFeed :: (latter.lexemes ++
    [lineFeed, closingBrace]))

theorem divided_inBlock : Divided (inBlock first second).toList (blockLexemes former latter) := by
  have feed : "\n".toList = ['\n'] := by decide
  have brace : "\x7d".toList = ['\x7d'] := by decide
  have closed := latter.divided.append (Breaks.lineFeed _) divided_closingBrace.lineFeed
  have both := former.divided.append (Breaks.lineFeed _) closed.lineFeed
  have whole := divided_heading.append (Breaks.lineFeed _) both.lineFeed
  have split : ∀ heading : String,
      (heading ++ "\n" ++ first ++ "\n" ++ second ++ "\n" ++ "\x7d").toList =
        heading.toList ++ '\n' :: (first.toList ++ '\n' :: (second.toList ++ ['\n', '\x7d'])) := by
    intro heading
    simp only [String.toList_append, append_assoc, feed, brace, cons_append, nil_append]
  exact (split _).symm ▸ whole

/-- No line feed of a block is seen. -/
theorem visible_inBlock : visible 0 (blockLexemes former latter) =
    headingLexemes ++ ((solids former.tokens).map Token.lexeme ++
      ((solids latter.tokens).map Token.lexeme ++ [closingBrace])) := by
  have inside : ∀ {source : String} {node : Node} (sentence : Sentence source node)
      (rest : List Lexeme), visible 1 (sentence.lexemes ++ lineFeed :: rest) =
        (solids sentence.tokens).map Token.lexeme ++ visible 1 rest := by
    intro source node sentence rest
    rw [visible_append (descend_shift sentence.descend_eq 1), visible_inside sentence.descend_eq,
      sentence.firm_lexemes]
    rfl
  have heading : descend 0 (headingLexemes.map Lexeme.kind) = some 1 := rfl
  rw [blockLexemes, visible_append heading]
  change headingLexemes ++ visible 1 (former.lexemes ++ _) = _
  rw [inside former, inside latter]
  rfl

/-- What goes on with a statement is decided by the first token that is no line feed. -/
theorem clings_cons (ending : Grammar.Ending) (other : kind ≠ .newline) (kinds : List TokenKind) :
    ending.clings (kind :: kinds) = ending.clings [kind] := by
  cases ending with
  | closed | value | bareCast => rfl
  | branch =>
    simp only [Grammar.Ending.clings]
    rw [List.find?_cons_of_pos (by simpa using other),
      List.find?_cons_of_pos (by simpa using other)]

/-- The first token of a text that is one statement is the first token of the statement. -/
theorem Sentence.leadingKind (sentence : Sentence source node) :
    ∃ token rest, solids sentence.tokens = token :: rest ∧ token.kind ≠ .newline ∧
      leadingKind? source = some token.kind := by
  obtain ⟨token, rest, same, begins⟩ := sentence.solidStated.starts
  have other : token.kind ≠ .newline := begins_ne begins rfl
  refine ⟨token, rest, same, other, ?_⟩
  simp only [leadingKind?, sentence.scanned]
  rw [← List.head?_filter, filter_map]
  have all : solids (sentence.before ++ (sentence.tokens ++ sentence.after) ++ [sentence.finish]) =
      token :: (rest ++ solids [sentence.finish]) := by
    rw [solids_append, solids_append, solids_append, solids_of_lineFeeds sentence.beforeFeeds,
      solids_of_lineFeeds sentence.afterFeeds, nil_append, append_nil, same]
    rfl
  exact congrArg (fun tokens => (tokens.map Token.kind).head?) all

theorem exists_of_unplaced_conditional {body : List Node}
    (same : tree.unplaced = .conditional .unknown cond body [] none) :
    ∃ place test statements, tree = .conditional place test statements [] none ∧
      test.unplaced = cond ∧ statements.map Node.unplaced = body := by
  cases tree with
  | conditional place test statements alts otherwise =>
    simp only [Node.unplaced, Node.unplacedAll_eq_map, Node.unplacedBranches_eq_map,
      Node.unplacedBlock_eq_map, Node.conditional.injEq, map_eq_nil_iff,
      Option.map_eq_none_iff, true_and] at same
    obtain ⟨sameTest, sameBody, rfl, rfl⟩ := same
    exact ⟨place, test, statements, rfl, sameTest, sameBody⟩
  | _ => cases same

/-- Nothing goes on with a statement before a closing brace. -/
theorem clings_rightBrace (ending : Grammar.Ending) : ending.clings [.rightBrace] = false := by
  cases ending <;> rfl

/-- If the second statement does not go on with the first, the block has both. -/
theorem readSource_inBlock (former : Sentence first one) (latter : Sentence second two)
    (apart : one.ending.clings (leadingKind? second).toList = false) :
    ∃ place cond statements,
      readSource (inBlock first second) =
          .ok (.program (.known 0 0) [.conditional place cond statements [] none]) ∧
        cond.unplaced = .literal .unknown (.charm true) ∧
          statements.map Node.unplaced = [one.unplaced, two.unplaced] := by
  obtain ⟨token, rest, latterTokens, other, leading⟩ := latter.leadingKind
  rw [leading, Option.toList_some] at apart
  let prophecy : Token := ⟨.prophecy, .scroll "prophecy", 1, 1⟩
  let reveals : Token := ⟨.reveals, .scroll "reveals", 1, 1⟩
  let word : Token := ⟨.trueWord, .scroll "true", 1, 1⟩
  let opening : Token := ⟨.leftBrace, .scroll "\x7b", 1, 1⟩
  let closing : Token := ⟨.rightBrace, .scroll "\x7d", 1, 1⟩
  let finish : Token := ⟨.endOfFile, .scroll "", 1, 1⟩
  have bothOnes : Succession closing [(solids former.tokens, one), (solids latter.tokens, two)]
      ([] ++ (solids former.tokens ++ solids latter.tokens)) := by
    refine Succession.next LineFeeds.nil ?_ (succession_single (clings_rightBrace _))
    rw [latterTokens, cons_append, map_cons, clings_cons _ other]
    exact apart
  have stated : ∀ item ∈ [(solids former.tokens, one), (solids latter.tokens, two)],
      States item.1 item.2 := by
    simpa using And.intro former.solidStated latter.solidStated
  have cond : Expresses .disjunction [word] (.literal word.place (.charm true)) :=
    Expresses.loosenTo (by decide) (Expresses.leaf rfl)
  have whole := @States.conditional prophecy reveals [word] _ _ _ [] none rfl rfl cond stated
    (Braced.intro LineFeeds.nil (show opening.kind = .leftBrace from rfl) bothOnes rfl)
    (by simp) (by simp) (by simp)
  have spelled : (prophecy :: reveals :: ([word] ++ ([] ++ opening :: ([] ++
      (solids former.tokens ++ solids latter.tokens) ++ [closing]) ++
        furtherTokens [] none))).map Token.lexeme = visible 0 (blockLexemes former latter) := by
    rw [visible_inBlock]
    simp only [furtherTokens, flatMap_nil, Option.map_none, Option.getD_none, nil_append,
      append_nil, cons_append, map_cons, map_append, append_assoc]
    rfl
  obtain ⟨statements, read, same⟩ := @readSource_of_succession _ _ [(_, _)] _ finish
    (divided_inBlock former latter) spelled rfl (succession_single rfl) (by simpa using whole)
  obtain ⟨tree, rfl, sameTree⟩ := map_eq_singleton_iff.mp same
  obtain ⟨place, test, body, rfl, sameTest, sameBody⟩ := exists_of_unplaced_conditional sameTree
  exact ⟨place, test, body, read, sameTest, sameBody⟩

end Block

/-! ## Where the first statement of the block ends -/

/-- The tokens of a statement that ends with a value have a weight that its tree determines. -/
theorem weight_of_unplaced {second : List Token} (stated : States first one)
    (others : States second two) (same : two.unplaced = one.unplaced) (ends : one.ending = .value) :
    Grammar.weight second = Grammar.weight first := by
  rw [stated.weight ends, others.weight ((ending_of_unplaced same).trans ends), same]

/-- A value does not go on with what a statement begins with and remain the same. -/
theorem eq_nil_of_binding (stated : States first one) (longer : States (first ++ front) other)
    (same : other.unplaced = one.unplaced) (ends : one.ending = .value)
    (next : States (front ++ back) two) (goesOn : ∀ token ∈ front.head?, token.kind.binding ≠ 0) :
    front = [] := by
  have light : Grammar.weight front = 0 := by
    have equal := weight_of_unplaced stated longer same ends
    rw [weight_append] at equal
    omega
  have balanced : Balanced front := longer.balanced.of_append stated.balanced
  cases front with
  | nil => rfl
  | cons token front =>
    have binds := goesOn token rfl
    obtain ⟨starting, rest, equal, begins⟩ := next.starts
    obtain ⟨rfl, -⟩ := List.cons.inj equal
    -- Of the tokens that begin a statement, only a parenthesis goes on with a value without
    -- adding weight.
    have isParen : token.kind = .leftParen := by
      rw [weight_cons] at light
      have noWeight : token.kind.weight = 0 := by omega
      revert binds begins noWeight
      cases token.kind <;> decide
    have leads := next.leads (by
      rintro other (rfl | _)
      exact isParen)
    have notClosing := Leads.notClosing leads light
    rw [Grammar.Balanced, map_cons, isParen] at balanced
    have inside : descend 1 (front.map Token.kind) = some 0 := balanced
    have bound := le_of_descend (by
      intro kind mem
      obtain ⟨other, present, rfl⟩ := mem_map.mp mem
      exact notClosing other (mem_cons_of_mem _ present)) inside
    omega

/-- A value does not go on with anything that cannot go on with it. -/
theorem eq_nil_of_apart (stated : States first one) (longer : States (first ++ front) other)
    (same : other.unplaced = one.unplaced) (ends : one.ending = .value)
    (noFeed : ∀ token ∈ front, token.kind ≠ .newline)
    (apart : one.ending.clings ((front ++ back).map Token.kind) = false) :
    front = [] := by
  cases front with
  | nil => rfl
  | cons token front =>
    have other := noFeed token mem_cons_self
    let closing : Token := ⟨.rightBrace, .scroll "", 1, 1⟩
    have stops := Grammar.Stops.cons other (front ++ [closing])
    have enough : (first ++ token :: front).length < first.length + front.length + 2 := by
      simp only [length_append, length_cons]
      omega
    have readShort := stated.read (show first.length < first.length + front.length + 2 by omega)
      stops (by
        rw [map_cons, clings_cons _ other]
        rwa [cons_append, map_cons, clings_cons _ other] at apart)
    have readLong := longer.read enough
      (Grammar.Stops.cons (show closing.kind ≠ .newline by decide) []) (clings_rightBrace _)
    rw [append_assoc, cons_append, readShort] at readLong
    have rests := congrArg Prod.snd (Except.ok.inj readLong)
    rw [ends, ending_of_unplaced same, ends] at rests
    simp [Grammar.Ending.after] at rests

/-- A conditional does not go on with a statement. -/
theorem clings_branch_of_begins (begins : kind.begins = true) :
    Grammar.Ending.clings .branch [kind] = false := by
  revert begins
  cases kind <;> decide

theorem length_of_bareCast (stated : States tokens node) (ends : node.ending = .bareCast) :
    tokens.length = 1 := by
  cases stated with
  | bareCast isCast => rfl
  | @assignment _ _ _ _ targetNode _ _ _ _ _ _ assigns =>
    cases targetNode <;> cases assigns <;> cases ends
  | @conditional _ _ _ _ _ _ _ last => cases last <;> cases ends
  | _ => cases ends

/--
Tokens that are two statements in two ways, the first the same in both, are the same two statements:
so if the first does not go on with the second in one way, it does not in the other.
-/
theorem clings_of_same {second : List Token} {former latter : Node} (leftStated : States left one)
    (rightStated : States right two) (firstStated : States first former)
    (secondStated : States second latter)
    (spelled : (left ++ right).map Token.lexeme = (first ++ second).map Token.lexeme)
    (noFeed : ∀ token ∈ right, token.kind ≠ .newline) (same : one.unplaced = former.unplaced)
    (apart : one.ending.clings (right.map Token.kind) = false) :
    former.ending.clings (second.map Token.kind) = false := by
  have sameEnding := ending_of_unplaced same
  rw [map_append, map_append] at spelled
  -- It suffices to cut the tokens in the same place.
  have conclude : right.map Token.lexeme = second.map Token.lexeme →
      former.ending.clings (second.map Token.kind) = false := by
    intro equal
    rw [← kinds_of_spelled equal, ← sameEnding]
    exact apart
  obtain ⟨token, rest, rfl, begins⟩ := secondStated.starts
  cases ends : former.ending with
  | closed => rfl
  | branch =>
    have other : token.kind ≠ .newline := begins_ne begins rfl
    rw [map_cons, clings_cons _ other]
    exact clings_branch_of_begins begins
  | bareCast =>
    rw [← ends]
    refine conclude (append_inj' spelled ?_).2
    have lengths := congrArg List.length spelled
    simp only [length_append, length_map, length_of_bareCast firstStated ends,
      length_of_bareCast leftStated (sameEnding.trans ends)] at lengths
    simpa using lengths
  | value =>
    rw [← ends]
    rcases append_eq_append_iff.mp spelled with
      ⟨extra, firstSpelled, rightSpelled⟩ | ⟨extra, leftSpelled, secondSpelled⟩
    · obtain ⟨front, back, rfl, frontSpelled, backSpelled⟩ :=
        map_eq_append_iff.mp rightSpelled
      obtain ⟨tree, longer, sameTree⟩ := firstStated.phrased (left ++ front)
        (by rw [map_append, frontSpelled, firstSpelled])
      obtain rfl : front = [] := eq_nil_of_apart leftStated longer (sameTree.trans same.symm)
        (sameEnding.trans ends)
        (fun token mem => noFeed token (mem_append_left _ mem)) apart
      exact conclude backSpelled
    · obtain ⟨front, back, equal, frontSpelled, backSpelled⟩ :=
        map_eq_append_iff.mp secondSpelled
      obtain ⟨tree, longer, sameTree⟩ := leftStated.phrased (first ++ front)
        (by rw [map_append, frontSpelled, leftSpelled])
      cases goesOn : token.kind.binding != 0 with
      | false =>
        rw [ends]
        exact goesOn
      | true =>
        obtain rfl : front = [] := eq_nil_of_binding firstStated longer (sameTree.trans same)
          ends (equal ▸ secondStated) (by
            intro head isHead
            cases front with
            | nil => cases isHead
            | cons other front =>
              cases isHead
              obtain ⟨rfl, -⟩ := List.cons.inj equal
              simpa using goesOn)
        rw [equal] at conclude ⊢
        exact conclude backSpelled.symm

/-! ## What a block of two statements is made of -/

theorem eq_nil_of_lineFeeds {lines : List Token} (feeds : LineFeeds lines)
    (noFeed : ∀ token ∈ lines, token.kind ≠ .newline) : lines = [] := by
  cases lines with
  | nil => rfl
  | cons line lines =>
    exact (noFeed line mem_cons_self (feeds line mem_cons_self)).elim

/-- A conditional of one branch is a condition and a block. -/
theorem exists_of_conditional
    (stated : States tokens (.conditional place cond statements [] none)) :
    ∃ prophecy reveals test body items,
      tokens = prophecy :: reveals :: (test ++ body) ∧ Expresses .disjunction test cond ∧
        Braced items body ∧ (∀ item ∈ items, States item.1 item.2) ∧
          statements = items.map Prod.snd := by
  generalize shape : Node.conditional place cond statements [] none = node at stated
  cases stated with
  | @conditional prophecy reveals test body _ items alternatives last isProphecy isReveals tested
      stated braced testedAlso statedAlso statedLast =>
    obtain ⟨rfl, rfl, rfl, noneElse, noLast⟩ := Node.conditional.inj shape
    obtain rfl : alternatives = [] := map_eq_nil_iff.mp noneElse.symm
    obtain rfl : last = none := Option.map_eq_none_iff.mp noLast.symm
    refine ⟨prophecy, reveals, test, body, items, ?_, tested, braced, stated, rfl⟩
    simp [furtherTokens]
  | @assignment _ _ _ _ targetNode _ _ _ _ _ _ assigns =>
    cases targetNode <;> cases assigns <;> cases shape
  | _ => cases shape

/-- An expression that begins with a literal before a brace is that literal. -/
theorem eq_nil_of_literal {word opening : Token} {more rest : List Token}
    (isLeaf : word.leaf? = some node) (tested : Expresses .disjunction (word :: more) cond)
    (isOpening : opening.kind = .leftBrace)
    (brace : ∀ token ∈ (more ++ opening :: rest).head?, token.kind = .leftBrace) :
    more = [] := by
  cases more with
  | nil => rfl
  | cons next more =>
    have single : Expresses .disjunction [word] node :=
      Expresses.loosenTo (by decide) (Expresses.leaf isLeaf)
    have loose : next.kind.binding = 0 := by
      rw [brace next rfl]
      rfl
    have readShort := single.parses (show [word].length < more.length + 3 by simp) loose
      (more ++ opening :: rest)
    have readLong := tested.parses (show (word :: next :: more).length < more.length + 3 by simp)
      (show opening.kind.binding = 0 by rw [isOpening]; rfl) rest
    have lengths := congrArg (fun res => res.2.length)
      (Except.ok.inj (readShort.symm.trans readLong))
    simp only [length_cons, length_append] at lengths
    omega

/-- The tokens of the block, however it is read. -/
theorem Sentence.spelled_inBlock {first : String} (former : Sentence first one)
    (latter : Sentence second two) (block : Sentence (inBlock first second) node) :
    block.tokens.map Token.lexeme = headingLexemes ++ ((solids former.tokens).map Token.lexeme ++
        ((solids latter.tokens).map Token.lexeme ++ [closingBrace])) ∧
      ∀ token ∈ block.tokens, token.kind ≠ .newline := by
  obtain ⟨scanned, scan, spelled⟩ := (divided_inBlock former latter).scan
  cases block.scanned.symm.trans scan
  rw [map_append, visible_inBlock] at spelled
  obtain ⟨spelled, -⟩ := append_inj' spelled rfl
  have solid : ∀ tokens : List Token, ∀ lexeme ∈ (solids tokens).map Token.lexeme,
      lexeme.kind ≠ .newline := by
    intro tokens lexeme mem
    obtain ⟨token, inside, rfl⟩ := mem_map.mp mem
    exact bne_iff_ne.mp (mem_filter.mp inside).2
  have noFeed : ∀ token ∈ block.before ++ (block.tokens ++ block.after),
      token.kind ≠ .newline := by
    intro token mem
    have present := mem_map_of_mem (f := Token.lexeme) mem
    rw [spelled] at present
    simp only [mem_append] at present
    rcases present with heading | early | late | last
    · have headingSolid : ∀ lexeme ∈ headingLexemes, lexeme.kind ≠ .newline := by
        simp [headingLexemes]
      exact headingSolid _ heading
    · exact solid _ _ early
    · exact solid _ _ late
    · rw [show token.kind = closingBrace.kind from
        congrArg Lexeme.kind (mem_singleton.mp last)]
      decide
  have noneBefore := eq_nil_of_lineFeeds block.beforeFeeds
    fun token mem => noFeed token (mem_append_left _ mem)
  have noneAfter := eq_nil_of_lineFeeds block.afterFeeds
    fun token mem => noFeed token (mem_append_right _ (mem_append_right _ mem))
  rw [noneBefore, noneAfter, nil_append, append_nil] at spelled noFeed
  exact ⟨spelled, noFeed⟩

theorem succession_pair {closing : Token} {inner : List Token}
    (later : Succession closing [(left, one), (right, two)] inner)
    (noFeed : ∀ token ∈ inner, token.kind ≠ .newline) :
    inner = left ++ right ∧ one.ending.clings ((right ++ [closing]).map Token.kind) = false := by
  cases later with
  | next feeds apart others =>
    cases others with
    | next feedsBetween apartNext last =>
      cases last with
      | done feedsAfter =>
        obtain rfl := eq_nil_of_lineFeeds feeds fun token mem => noFeed token (by simp [mem])
        obtain rfl := eq_nil_of_lineFeeds feedsBetween fun token mem => noFeed token (by simp [mem])
        obtain rfl := eq_nil_of_lineFeeds feedsAfter fun token mem => noFeed token (by simp [mem])
        rw [nil_append, append_nil] at apart
        exact ⟨by simp, apart⟩

/-- If the block has both statements, the second does not go on with the first. -/
theorem apart_of_readSource_inBlock {first : String} {here : Place} (former : Sentence first one)
    (latter : Sentence second two)
    (read : readSource (inBlock first second) =
      .ok (.program place [.conditional here cond statements [] none]))
    (same : statements.map Node.unplaced = [one.unplaced, two.unplaced]) :
    one.ending.clings (leadingKind? second).toList = false := by
  obtain ⟨block⟩ := exists_sentence read
  obtain ⟨spelled, noFeed⟩ := former.spelled_inBlock latter block
  obtain ⟨prophecy, reveals, test, body, items, tokens, tested, braced, stated, rfl⟩ :=
    exists_of_conditional block.stated
  rw [tokens] at spelled noFeed
  cases braced with
  | @intro lines inner opening closing feeds isOpening later isClosing =>
    obtain rfl := eq_nil_of_lineFeeds feeds fun token mem => noFeed token (by simp [mem])
    obtain ⟨word, more, rfl, -⟩ := tested.starts
    simp only [headingLexemes, map_cons, cons_append, nil_append, List.cons.injEq] at spelled
    obtain ⟨-, -, isTrue, spelled⟩ := spelled
    have isLeaf : word.leaf? = some (.literal word.place (.charm true)) := by
      simp only [Token.leaf?, kind_of_lexeme isTrue]
    obtain rfl := eq_nil_of_literal isLeaf tested isOpening (by
      intro token isHead
      have head := congrArg List.head? spelled
      rw [List.head?_map, Option.mem_def.mp isHead] at head
      exact kind_of_lexeme (Option.some.inj head))
    simp only [nil_append, map_cons, List.cons.injEq] at spelled
    obtain ⟨-, spelled⟩ := spelled
    rw [map_append, ← append_assoc] at spelled
    obtain ⟨spelled, -⟩ := append_inj' spelled rfl
    rw [map_map] at same
    obtain ⟨⟨left, leftNode⟩, others, rfl, sameLeft, sameOthers⟩ := map_eq_cons_iff.mp same
    obtain ⟨⟨right, rightNode⟩, rfl, sameRight⟩ := map_eq_singleton_iff.mp sameOthers
    obtain ⟨rfl, apart⟩ := succession_pair later fun token mem => noFeed token (by simp [mem])
    have rightStated := stated (right, rightNode) (by simp)
    have noFeedRight : ∀ token ∈ right, token.kind ≠ .newline :=
      fun token mem => noFeed token (by simp [mem])
    have apartRight : leftNode.ending.clings (right.map Token.kind) = false := by
      obtain ⟨token, rest, rfl, -⟩ := rightStated.starts
      have other := noFeedRight token mem_cons_self
      rw [cons_append, map_cons, clings_cons _ other] at apart
      rw [map_cons, clings_cons _ other]
      exact apart
    have conclusion := clings_of_same (stated (left, leftNode) (by simp)) rightStated
      former.solidStated latter.solidStated (by rw [spelled, map_append]) noFeedRight
      sameLeft apartRight
    obtain ⟨token, rest, latterTokens, other, leading⟩ := latter.leadingKind
    rw [latterTokens, map_cons, clings_cons _ other] at conclusion
    rw [leading]
    exact conclusion

/--
On the outermost level a line feed keeps any two statements apart.  In a block it does not count:
there the two texts are the same two statements exactly if the second does not go on with the first.
-/
theorem lineFeed_separates {first second : String} {one two : Node} {place other : Place}
    (readFirst : readSource first = .ok (.program place [one]))
    (readSecond : readSource second = .ok (.program other [two])) :
    (∃ statements,
      readSource (first ++ "\n" ++ second) = .ok (.program (.known 0 0) statements) ∧
        statements.map Node.unplaced = [one.unplaced, two.unplaced]) ∧
    ((∃ place cond statements,
      readSource (inBlock first second) =
          .ok (.program (.known 0 0) [.conditional place cond statements [] none]) ∧
        cond.unplaced = .literal .unknown (.charm true) ∧
          statements.map Node.unplaced = [one.unplaced, two.unplaced]) ↔
      one.ending.clings (leadingKind? second).toList = false) := by
  obtain ⟨former⟩ := exists_sentence readFirst
  obtain ⟨latter⟩ := exists_sentence readSecond
  refine ⟨former.pair latter, ?_, readSource_inBlock former latter⟩
  rintro ⟨place, cond, statements, read, -, same⟩
  exact apart_of_readSource_inBlock former latter read same

/-- A short text is read by evaluation, once its characters and its tokens are given. -/
theorem readSource_of_characters (chars : List Char) (tokens : List Token)
    (spelled : source.toList = chars)
    (scanned : scanFrom (chars.length + 1) 0 ⟨chars, 1, 1, 0⟩ = .ok tokens)
    (parsed : Parser.parse tokens = .ok tree) :
    readSource source = .ok tree := by
  subst spelled
  rw [readSource, show Token.scan source = .ok tokens from scanned]
  exact parsed

set_option maxRecDepth 10000 in
theorem lineFeed_separates_nameThenGroup :
    readSource "x" = .ok (.program (.known 0 0)
        [.expression (.known 1 1) (.identifier (.known 1 1) "x")]) ∧
      readSource "(y)" = .ok (.program (.known 0 0)
        [.expression (.known 1 2) (.identifier (.known 1 2) "y")]) ∧
      (∃ statements,
        readSource ("x" ++ "\n" ++ "(y)") = .ok (.program (.known 0 0) statements) ∧
          statements.map Node.unplaced =
            [.expression .unknown (.identifier .unknown "x"),
              .expression .unknown (.identifier .unknown "y")]) ∧
      ¬∃ place cond statements,
        readSource (inBlock "x" "(y)") =
            .ok (.program (.known 0 0) [.conditional place cond statements [] none]) ∧
          cond.unplaced = .literal .unknown (.charm true) ∧
            statements.map Node.unplaced =
              [.expression .unknown (.identifier .unknown "x"),
                .expression .unknown (.identifier .unknown "y")] := by
  have readName : readSource "x" = .ok (.program (.known 0 0)
      [.expression (.known 1 1) (.identifier (.known 1 1) "x")]) :=
    readSource_of_characters ['x']
      [⟨.identifier, .scroll "x", 1, 1⟩, ⟨.endOfFile, .scroll "", 1, 2⟩] (by decide) rfl rfl
  have readGroup : readSource "(y)" = .ok (.program (.known 0 0)
      [.expression (.known 1 2) (.identifier (.known 1 2) "y")]) :=
    readSource_of_characters ['(', 'y', ')']
      [⟨.leftParen, .scroll "(", 1, 1⟩, ⟨.identifier, .scroll "y", 1, 2⟩,
        ⟨.rightParen, .scroll ")", 1, 3⟩, ⟨.endOfFile, .scroll "", 1, 4⟩] (by decide) rfl rfl
  obtain ⟨apart, joined⟩ := lineFeed_separates readName readGroup
  refine ⟨readName, readGroup, apart, ?_⟩
  rw [show leadingKind? "(y)" = some .leftParen by decide +kernel] at joined
  intro both
  exact absurd (joined.mp both) (by decide)

def statements? (source : String) : Option (List Node) :=
  match readSource source with
  | .ok (.program _ statements) => some statements
  | _ => none

set_option maxRecDepth 10000 in
/--
A name and an expression in parentheses on the next line are one statement each, but in a block they
are one statement together.
-/
theorem inBlock_joins :
    (statements? "x").map List.length = some 1 ∧ (statements? "(y)").map List.length = some 1 ∧
      ∃ place cond statement,
        statements? (inBlock "x" "(y)") =
          some [.conditional place cond [statement] [] none] := by
  refine ⟨by decide +kernel, by decide +kernel, ?_⟩
  obtain ⟨place, cond, statement, read⟩ : ∃ place cond statement,
      readSource (inBlock "x" "(y)") =
        .ok (.program (.known 0 0) [.conditional place cond [statement] [] none]) :=
    ⟨_, _, _, readSource_of_characters
      ['p', 'r', 'o', 'p', 'h', 'e', 'c', 'y', ' ', 'r', 'e', 'v', 'e', 'a', 'l', 's', ' ',
        't', 'r', 'u', 'e', ' ', '\x7b', '\n', 'x', '\n', '(', 'y', ')', '\n', '\x7d']
      [⟨.prophecy, .scroll "prophecy", 1, 1⟩, ⟨.reveals, .scroll "reveals", 1, 10⟩,
        ⟨.trueWord, .scroll "true", 1, 18⟩, ⟨.leftBrace, .scroll "\x7b", 1, 23⟩,
        ⟨.identifier, .scroll "x", 2, 1⟩, ⟨.leftParen, .scroll "(", 3, 1⟩,
        ⟨.identifier, .scroll "y", 3, 2⟩, ⟨.rightParen, .scroll ")", 3, 3⟩,
        ⟨.rightBrace, .scroll "\x7d", 4, 1⟩, ⟨.endOfFile, .scroll "", 4, 2⟩] (by decide) rfl rfl⟩
  rw [statements?, read]
  exact ⟨place, cond, statement, rfl⟩

end Spellbook
