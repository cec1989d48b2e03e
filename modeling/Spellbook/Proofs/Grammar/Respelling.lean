import Mathlib.Tactic.Choose
import Spellbook.Proofs.Grammar.Place
import Spellbook.Proofs.Grammar.Statement

/-!
# The grammar does not look at places

Tokens of the same kinds and values spell out the same tree, wherever they stand
(`Expresses.movable`, `States.movable`). So it is enough to know what lexemes say in one place
(`Movable.phrased`).
-/

namespace Spellbook.Grammar

open List
open Spellbook.Parser (LineFeeds)

variable {tokens others : List Token} {lexeme : Lexeme} {first second : Token}
  {reading : List Token → Node → Prop} {trailingComma : Bool} {items : List Item} {place : Place}
  {node : Node}

/-! ## Tokens at other places -/

def movedTo (place : Int × Int) (token : Token) : Token :=
  { token with line := place.1, column := place.2 }

/-- Tokens at other places, which are numbered. -/
def moved (places : Nat → Int × Int) (tokens : List Token) : List Token :=
  tokens.mapIdx fun index => movedTo (places index)

section Moved

variable (places : Nat → Int × Int)

@[simp]
theorem moved_nil : moved places [] = [] := rfl

@[simp]
theorem moved_cons (token : Token) (tokens : List Token) :
    moved places (token :: tokens) =
      movedTo (places 0) token :: moved (fun index => places (index + 1)) tokens :=
  mapIdx_cons

@[simp]
theorem moved_append (first second : List Token) :
    moved places (first ++ second) =
      moved places first ++ moved (fun index => places (index + first.length)) second :=
  mapIdx_append

@[simp]
theorem text_movedTo (place : Int × Int) (token : Token) :
    (movedTo place token).text = token.text := rfl

@[simp]
theorem hint_movedTo (place : Int × Int) (token : Token) :
    (movedTo place token).hint = token.hint := rfl

theorem kinds_moved (tokens : List Token) :
    (moved places tokens).map Token.kind = tokens.map Token.kind := by
  induction tokens generalizing places with
  | nil => rfl
  | cons token tokens ih =>
    rw [moved_cons, map_cons, ih]
    rfl

theorem lineFeeds_moved {lines : List Token} (feeds : LineFeeds lines) :
    LineFeeds (moved places lines) := by
  intro token mem
  obtain ⟨index, inside, rfl⟩ := mem_mapIdx.mp mem
  exact feeds lines[index] (getElem_mem inside)

end Moved

/-- Tokens that are the same up to places are the same tokens at other places. -/
theorem exists_moved (same : others.map Token.lexeme = tokens.map Token.lexeme) :
    ∃ places, others = moved places tokens := by
  refine ⟨fun index => others[index]?.elim (0, 0) fun token => (token.line, token.column), ?_⟩
  apply ext_getElem?
  intro index
  have alike := congrArg (·[index]?) same
  simp only [List.getElem?_map] at alike
  rw [moved, List.getElem?_mapIdx]
  cases found : others[index]? with
  | none =>
    rw [found, Option.map_none, eq_comm, Option.map_eq_none_iff] at alike
    rw [alike]
    rfl
  | some other =>
    rw [found, Option.map_some, eq_comm, Option.map_eq_some_iff] at alike
    obtain ⟨token, stands, sameLexeme⟩ := alike
    obtain ⟨sameKind, sameValue⟩ := Lexeme.mk.inj sameLexeme
    rw [stands, Option.map_some, movedTo, sameKind, sameValue]
    rfl

theorem kind_of_lexeme {token : Token} (same : token.lexeme = lexeme) :
    token.kind = lexeme.kind := by
  rw [← same]
  rfl

theorem value_of_lexeme {token : Token} (same : token.lexeme = lexeme) :
    token.value = lexeme.value := by
  rw [← same]
  rfl

/-- Tokens in the middle, with one token after them. -/
theorem spelled_snoc {lexemes : List Lexeme} {last : Lexeme}
    (spelled : tokens.map Token.lexeme = lexemes ++ [last]) :
    ∃ inner token, tokens = inner ++ [token] ∧ inner.map Token.lexeme = lexemes ∧
      token.lexeme = last := by
  obtain ⟨inner, back, rfl, innerSpelled, backSpelled⟩ := map_eq_append_iff.mp spelled
  obtain ⟨token, rfl, same⟩ := map_eq_singleton_iff.mp backSpelled
  exact ⟨inner, token, rfl, innerSpelled, same⟩

/-! ## Phrases -/

/-- Wherever the tokens stand, they say the node, up to places. -/
abbrev Movable (reading : List Token → Node → Prop) (tokens : List Token) (node : Node) : Prop :=
  ∀ places, ∃ tree, reading (moved places tokens) tree ∧ tree.unplaced = node.unplaced

/-- However its tokens are placed, the phrase says the node, up to places. -/
def Phrased (reading : List Token → Node → Prop) (lexemes : List Lexeme) (node : Node) : Prop :=
  ∀ tokens : List Token, tokens.map Token.lexeme = lexemes →
    ∃ tree, reading tokens tree ∧ tree.unplaced = node.unplaced

/-- A lexeme as a token; its place does not matter. -/
def token (lexeme : Lexeme) : Token := ⟨lexeme.kind, lexeme.value, 0, 0⟩

theorem map_lexeme_token (lexemes : List Lexeme) :
    (lexemes.map token).map Token.lexeme = lexemes := by
  rw [map_map]
  exact map_id lexemes

theorem Phrased.here {lexemes : List Lexeme} (phrased : Phrased reading lexemes node) :
    ∃ tree, reading (lexemes.map token) tree ∧ tree.unplaced = node.unplaced :=
  phrased _ (map_lexeme_token lexemes)

/-- It is enough to find out what lexemes say in one place. -/
theorem Movable.phrased {lexemes : List Lexeme} {tree : Node}
    (movable : Movable reading tokens tree) (spelled : tokens.map Token.lexeme = lexemes)
    (same : tree.unplaced = node.unplaced) : Phrased reading lexemes node := by
  intro others othersSpelled
  obtain ⟨places, rfl⟩ := exists_moved (othersSpelled.trans spelled.symm)
  obtain ⟨other, read, alike⟩ := movable places
  exact ⟨other, read, alike.trans same⟩

/-! ## Listings -/

section Listings

variable {α γ : Type} {spell : α → List Token} {fine : α → Prop} {key : α → γ} {parts : List α}
  (movable : ∀ part ∈ parts, ∀ places, ∃ found, spell found = moved places (spell part) ∧
    fine found ∧ key found = key part)

include movable

theorem Separated.moved {lists : List (List Token)} (separated : Separated lists tokens)
    (all : parts.map spell = lists) (places : Nat → Int × Int) :
    ∃ found : List α, Separated (found.map spell) (moved places tokens) ∧
      (∀ part ∈ found, fine part) ∧ found.map key = parts.map key := by
  induction separated generalizing parts places with
  | single list =>
    obtain ⟨part, rfl, rfl⟩ := map_eq_singleton_iff.mp all
    obtain ⟨found, spelled, isFine, same⟩ := movable part mem_cons_self places
    refine ⟨[found], ?_, forall_mem_singleton.mpr isFine, congrArg ([·]) same⟩
    rw [← spelled]
    exact .single _
  | comma isComma separated ih =>
    obtain ⟨part, parts, rfl, rfl, rest⟩ := map_eq_cons_iff.mp all
    obtain ⟨first, spelled, isFine, same⟩ := movable part mem_cons_self places
    obtain ⟨found, others, areFine, sameOthers⟩ := ih (forall_mem_cons.mp movable).2 rest _
    refine ⟨first :: found, ?_, forall_mem_cons.mpr ⟨isFine, areFine⟩, ?_⟩
    · rw [moved_append, moved_cons, ← spelled]
      exact .comma isComma others
    · rw [map_cons, map_cons, same, sameOthers]

theorem Listing.moved (listed : Listing trailingComma (parts.map spell) tokens)
    (places : Nat → Int × Int) :
    ∃ found : List α, Listing trailingComma (found.map spell) (moved places tokens) ∧
      (∀ part ∈ found, fine part) ∧ found.map key = parts.map key := by
  generalize all : parts.map spell = lists at listed
  cases listed with
  | empty =>
    obtain rfl := map_eq_nil_iff.mp all
    exact ⟨[], .empty, fun _ mem => absurd mem not_mem_nil, rfl⟩
  | plain separated =>
    obtain ⟨found, others, areFine, same⟩ := separated.moved movable all places
    exact ⟨found, .plain others, areFine, same⟩
  | trailing allowed separated isComma =>
    obtain ⟨found, others, areFine, same⟩ := separated.moved movable all places
    rw [moved_append, moved_cons]
    exact ⟨found, .trailing allowed others isComma, areFine, same⟩

theorem flatMap_moved (places : Nat → Int × Int) :
    ∃ found : List α, found.flatMap spell = moved places (parts.flatMap spell) ∧
      (∀ part ∈ found, fine part) ∧ found.map key = parts.map key := by
  induction parts generalizing places with
  | nil => exact ⟨[], rfl, fun _ mem => absurd mem not_mem_nil, rfl⟩
  | cons part parts ih =>
    obtain ⟨first, spelled, isFine, same⟩ := movable part mem_cons_self places
    obtain ⟨found, others, areFine, sameOthers⟩ := ih (forall_mem_cons.mp movable).2 _
    refine ⟨first :: found, ?_, forall_mem_cons.mpr ⟨isFine, areFine⟩, ?_⟩
    · rw [flatMap_cons, flatMap_cons, moved_append, spelled, others]
    · rw [map_cons, map_cons, same, sameOthers]

end Listings

/-- Items that are read and have the same nodes as others, up to places. -/
structure Copies (reading : List Token → Node → Prop) (found items : List Item) : Prop where
  read : ∀ item ∈ found, reading item.1 item.2
  same : (found.map Prod.snd).map Node.unplaced = (items.map Prod.snd).map Node.unplaced

theorem Copies.nil : Copies reading [] [] := ⟨fun _ mem => absurd mem not_mem_nil, rfl⟩

theorem Copies.cons {found : List Item} {item copy : Item} (read : reading copy.1 copy.2)
    (same : copy.2.unplaced = item.2.unplaced) (copies : Copies reading found items) :
    Copies reading (copy :: found) (item :: items) where
  read := forall_mem_cons.mpr ⟨read, copies.read⟩
  same := by simp only [map_cons, same, copies.same]

theorem Listing.movedItems (movable : ∀ item ∈ items, Movable reading item.1 item.2)
    (listed : Listing trailingComma (items.map Prod.fst) tokens) (places : Nat → Int × Int) :
    ∃ found : List Item, Listing trailingComma (found.map Prod.fst) (Grammar.moved places tokens) ∧
      Copies reading found items := by
  have each : ∀ item ∈ items, ∀ places, ∃ found : Item,
      found.1 = Grammar.moved places item.1 ∧ reading found.1 found.2 ∧
        found.2.unplaced = item.2.unplaced := by
    intro item mem places
    obtain ⟨tree, read, same⟩ := movable item mem places
    exact ⟨(_, tree), rfl, read, same⟩
  obtain ⟨found, others, read, same⟩ := listed.moved each places
  refine ⟨found, others, read, ?_⟩
  rw [map_map, map_map]
  exact same

theorem Listing.movedEntries {entries : List Entry}
    (keys : ∀ entry ∈ entries, Movable (Expresses .disjunction) entry.key.1 entry.key.2)
    (colons : ∀ entry ∈ entries, entry.colon.kind = .colon)
    (values : ∀ entry ∈ entries, Movable (Expresses .disjunction) entry.value.1 entry.value.2)
    (listed : Listing trailingComma (entries.map Entry.tokens) tokens)
    (places : Nat → Int × Int) :
    ∃ found : List Entry,
      Listing trailingComma (found.map Entry.tokens) (Grammar.moved places tokens) ∧
        (∀ entry ∈ found, Expresses .disjunction entry.key.1 entry.key.2 ∧
          entry.colon.kind = .colon ∧ Expresses .disjunction entry.value.1 entry.value.2) ∧
          (found.map Entry.pair).map (fun pair => (pair.1.unplaced, pair.2.unplaced)) =
            (entries.map Entry.pair).map fun pair => (pair.1.unplaced, pair.2.unplaced) := by
  have each : ∀ entry ∈ entries, ∀ places, ∃ found : Entry,
      found.tokens = Grammar.moved places entry.tokens ∧
        (Expresses .disjunction found.key.1 found.key.2 ∧ found.colon.kind = .colon ∧
          Expresses .disjunction found.value.1 found.value.2) ∧
          (found.pair.1.unplaced, found.pair.2.unplaced) =
            (entry.pair.1.unplaced, entry.pair.2.unplaced) := by
    intro entry mem places
    choose key keySpelled keySame using keys entry mem
    choose value valueSpelled valueSame using values entry mem
    simp only [Entry.tokens, moved_append, moved_cons, Entry.pair]
    exact ⟨⟨(_, key _), _, (_, value _)⟩, rfl, ⟨keySpelled _, colons entry mem, valueSpelled _⟩,
      congrArg₂ Prod.mk (keySame _) (valueSame _)⟩
  obtain ⟨found, others, fine, same⟩ := listed.moved each places
  refine ⟨found, others, fine, ?_⟩
  rw [map_map, map_map]
  exact same

theorem Opening.moved {word bracket : TokenKind} {heading : List Token}
    (opened : Opening word bracket heading place) (places : Nat → Int × Int) :
    ∃ otherPlace, Opening word bracket (moved places heading) otherPlace := by
  cases opened with
  | bare isBracket => exact ⟨_, .bare isBracket⟩
  | named isWord isBracket => exact ⟨_, .named isWord isBracket⟩

/-! ## Expressions -/

theorem leaf_movedTo {token : Token} (isLeaf : token.leaf? = some node) (place : Int × Int) :
    ∃ other, (movedTo place token).leaf? = some other ∧ other.unplaced = node.unplaced := by
  unfold Token.leaf? at isLeaf ⊢
  rw [show (movedTo place token).kind = token.kind from rfl]
  split at isLeaf
  all_goals first
    | (cases isLeaf; exact ⟨_, rfl, rfl⟩)
    | cases isLeaf

theorem annotated_of_lexeme {word token otherWord otherToken : Token}
    (sameWord : otherWord.lexeme = word.lexeme) (same : otherToken.lexeme = token.lexeme) :
    otherWord.annotated? otherToken = word.annotated? token := by
  have sameKind : otherToken.kind = token.kind := kind_of_lexeme same
  have sameValue : otherToken.value = token.value := value_of_lexeme same
  have sameWordKind : otherWord.kind = word.kind := kind_of_lexeme sameWord
  unfold Token.annotated? Token.potionValue?
  rw [sameKind, sameValue, sameWordKind]

theorem text_of_lexeme (same : second.lexeme = first.lexeme) : second.text = first.text := by
  unfold Token.text
  rw [show second.value = first.value from value_of_lexeme same]

/-- Tokens that are an expression are one wherever they stand. -/
theorem Expresses.movable {level : Level} (spelled : Expresses level tokens node) :
    Movable (Expresses level) tokens node := by
  induction spelled with
  | loosen inner ih =>
    choose tree spelled same using ih
    exact fun places => ⟨_, (spelled places).loosen, same places⟩
  | join leftSide isOperator rightSide leftMovable rightMovable =>
    choose left leftSpelled leftSame using leftMovable
    choose right rightSpelled rightSame using rightMovable
    intro places
    rw [moved_append, moved_cons]
    refine ⟨_, (leftSpelled _).join isOperator (rightSpelled _), ?_⟩
    simp only [Node.unplaced, leftSame, rightSame]
  | power leftSide isPower rightSide leftMovable rightMovable =>
    choose left leftSpelled leftSame using leftMovable
    choose right rightSpelled rightSame using rightMovable
    intro places
    rw [moved_append, moved_cons]
    refine ⟨_, (leftSpelled _).power isPower (rightSpelled _), ?_⟩
    simp only [Node.unplaced, leftSame, rightSame]
  | deny isNot inner ih =>
    choose tree spelled same using ih
    intro places
    rw [moved_cons]
    refine ⟨_, .deny isNot (spelled _), ?_⟩
    simp only [Node.unplaced, same]
  | negate isMinus inner ih =>
    choose tree spelled same using ih
    intro places
    rw [moved_cons]
    refine ⟨_, .negate isMinus (spelled _), ?_⟩
    simp only [Node.unplaced, same]
  | call called isOpening args listed isClosing calledMovable argumentsMovable =>
    choose tree spelled same using calledMovable
    choose found foundListed copies using listed.movedItems argumentsMovable
    intro places
    simp only [moved_append, moved_cons, moved_nil]
    refine ⟨_, (spelled _).call isOpening (copies _).read (foundListed _) isClosing, ?_⟩
    simp only [Node.unplaced, Node.unplacedAll_eq_map, same, (copies _).same]
  | index indexed isOpening positioned isClosing indexedMovable positionMovable =>
    choose tree spelled same using indexedMovable
    choose pos positionSpelled positionSame using positionMovable
    intro places
    simp only [moved_append, moved_cons, moved_nil]
    refine ⟨_, (spelled _).index isOpening (positionSpelled _) isClosing, ?_⟩
    simp only [Node.unplaced, same, positionSame]
  | member inner isDot isName ih =>
    choose tree spelled same using ih
    intro places
    simp only [moved_append, moved_cons, moved_nil]
    refine ⟨_, (spelled _).member isDot isName, ?_⟩
    simp only [Node.unplaced, same, text_movedTo]
  | leaf isLeaf =>
    intro places
    obtain ⟨other, otherLeaf, same⟩ := leaf_movedTo isLeaf (places 0)
    exact ⟨other, .leaf otherLeaf, same⟩
  | annotated isLiteral =>
    exact fun places => ⟨_, .annotated ((annotated_of_lexeme rfl rfl).trans isLiteral), rfl⟩
  | tome opened elems listed isClosing movable =>
    choose otherPlace otherOpened using opened.moved
    choose found foundListed copies using listed.movedItems movable
    intro places
    simp only [moved_append, moved_cons, moved_nil]
    refine ⟨_, .tome (otherOpened _) (copies _).read (foundListed _) isClosing, ?_⟩
    simp only [Node.unplaced, Node.unplacedAll_eq_map, (copies _).same]
  | grimoire opened keys colons values listed isClosing keysMovable valuesMovable =>
    choose otherPlace otherOpened using opened.moved
    choose found foundListed fine same using listed.movedEntries keysMovable colons valuesMovable
    intro places
    simp only [moved_append, moved_cons, moved_nil]
    refine ⟨_, .grimoire (otherOpened _) (fun entry mem => (fine _ entry mem).1)
      (fun entry mem => (fine _ entry mem).2.1)
      (fun entry mem => (fine _ entry mem).2.2) (foundListed _) isClosing, ?_⟩
    simp only [Node.unplaced, Node.unplacedPairs_eq_map, same]
  | group isOpening inside isClosing ih =>
    choose tree spelled same using ih
    intro places
    simp only [moved_append, moved_cons, moved_nil]
    exact ⟨_, .group isOpening (spelled _) isClosing, same _⟩

/-! ## Statements -/

theorem ending_unplaced (node : Node) : node.unplaced.ending = node.ending := by
  cases node with
  | cast place value => cases value <;> rfl
  | conditional place cond outcome alts otherwise => cases otherwise <;> rfl
  | _ => rfl

theorem ending_of_unplaced {first second : Node} (same : first.unplaced = second.unplaced) :
    first.ending = second.ending := by
  rw [← ending_unplaced first, same, ending_unplaced]

theorem kinds_of_spelled {first second : List Token}
    (same : first.map Token.lexeme = second.map Token.lexeme) :
    first.map Token.kind = second.map Token.kind := by
  have split : Token.kind = Lexeme.kind ∘ Token.lexeme := rfl
  rw [split, ← map_map, ← map_map, same]

theorem Succession.moved {closing otherClosing : Token}
    (later : Succession closing items tokens)
    (movable : ∀ item ∈ items, Movable States item.1 item.2)
    (sameClosing : otherClosing.kind = closing.kind) (places : Nat → Int × Int) :
    ∃ found : List Item, Succession otherClosing found (Grammar.moved places tokens) ∧
      Copies States found items := by
  induction later generalizing places with
  | done feeds => exact ⟨[], .done (lineFeeds_moved places feeds), .nil⟩
  | @next lines tokens rest node items feeds apart later ih =>
    obtain ⟨first, others⟩ := forall_mem_cons.mp movable
    choose tree stated same using first
    choose found foundSucceeding copies using ih others
    simp only [moved_append]
    refine ⟨(_, tree _) :: found _, .next (lineFeeds_moved _ feeds) ?_ (foundSucceeding _),
      .cons (stated _) (same _) (copies _)⟩
    rw [ending_of_unplaced (same _), map_append, kinds_moved, map_singleton,
      sameClosing, ← map_singleton, ← map_append]
    exact apart

theorem Braced.moved {body : List Token} (braced : Braced items body)
    (movable : ∀ item ∈ items, Movable States item.1 item.2) (places : Nat → Int × Int) :
    ∃ found : List Item, Braced found (Grammar.moved places body) ∧ Copies States found items := by
  cases braced with
  | @intro lines inner opening closing feeds isOpening later isClosing =>
    choose found foundSucceeding copies using
      later.moved movable (show (movedTo (places _) closing).kind = closing.kind from rfl)
    simp only [moved_append, moved_cons, moved_nil]
    exact ⟨_, .intro (lineFeeds_moved _ feeds) isOpening (foundSucceeding _) isClosing, copies _⟩

theorem Alternative.moved (alt : Alternative)
    (tested : Expresses .disjunction alt.condition.1 alt.condition.2)
    (movable : ∀ item ∈ alt.items, Movable States item.1 item.2)
    (places : Nat → Int × Int) :
    ∃ found : Alternative, found.tokens = Grammar.moved places alt.tokens ∧
      (Expresses .disjunction found.condition.1 found.condition.2 ∧
        ∀ item ∈ found.items, States item.1 item.2) ∧
        (found.branch.1.unplaced, found.branch.2.map Node.unplaced) =
          (alt.branch.1.unplaced, alt.branch.2.map Node.unplaced) := by
  choose condition expresses sameCondition using tested.movable
  choose items braced copies using alt.braced.moved movable
  simp only [Alternative.tokens, moved_append, moved_cons]
  exact ⟨⟨_, movedTo _ alt.otherwise, movedTo _ alt.prophecy,
    (Grammar.moved _ alt.condition.1, condition _), items _, _,
    lineFeeds_moved _ alt.feeds, alt.isOtherwise, alt.isProphecy, braced _⟩,
    rfl, ⟨expresses _, (copies _).read⟩, congrArg₂ Prod.mk (sameCondition _) (copies _).same⟩

theorem lastResort_moved {last : Option LastResort}
    (movable : ∀ resort ∈ last, ∀ item ∈ resort.items, Movable States item.1 item.2)
    (places : Nat → Int × Int) :
    ∃ found : Option LastResort,
      (found.map LastResort.tokens).getD [] =
          moved places ((last.map LastResort.tokens).getD []) ∧
        (∀ resort ∈ found, ∀ item ∈ resort.items, States item.1 item.2) ∧
          Node.unplacedBlock (found.map LastResort.branch) =
            Node.unplacedBlock (last.map LastResort.branch) := by
  cases last with
  | none => exact ⟨none, rfl, fun _ mem => absurd mem (by simp), rfl⟩
  | some resort =>
    choose items braced copies using resort.braced.moved (movable resort rfl)
    simp only [Option.map_some, Option.getD_some, LastResort.tokens, moved_append, moved_cons,
      Node.unplacedBlock_eq_map]
    refine ⟨some ⟨_, movedTo _ resort.fate, movedTo _ resort.decrees, items _, _,
      lineFeeds_moved _ resort.feeds, resort.isFate, resort.isDecrees, braced _⟩, rfl, ?_,
      congrArg some (copies _).same⟩
    rintro _ ⟨⟩
    exact (copies _).read

theorem assigned_unplaced (place : Place) (value target : Node) :
    (assigned? place value target).map Node.unplaced =
      assigned? .unknown value.unplaced target.unplaced := by
  cases target <;> rfl

theorem assigned_of_unplaced {value otherValue target otherTarget : Node}
    (assigns : assigned? place value target = some node) (otherPlace : Place)
    (sameValue : otherValue.unplaced = value.unplaced)
    (sameTarget : otherTarget.unplaced = target.unplaced) :
    ∃ other, assigned? otherPlace otherValue otherTarget = some other ∧
      other.unplaced = node.unplaced := by
  have same : (assigned? otherPlace otherValue otherTarget).map Node.unplaced =
      some node.unplaced := by
    rw [assigned_unplaced, sameValue, sameTarget, ← assigned_unplaced place, assigns,
      Option.map_some]
  exact Option.map_eq_some_iff.mp same

theorem isTypeWord_head_moved (places : Nat → Int × Int)
    (untyped : ∀ token ∈ tokens.head?, Parser.isTypeWord token.kind = false) :
    ∀ token ∈ (moved places tokens).head?, Parser.isTypeWord token.kind = false := by
  cases tokens with
  | nil => exact untyped
  | cons first rest =>
    rw [moved_cons]
    rintro _ ⟨⟩
    exact untyped first rfl

/-- Tokens that are a statement are one wherever they stand. -/
theorem States.movable (stated : States tokens node) : Movable States tokens node := by
  induction stated with
  | declaration isVerb isName isAs untyped valued =>
    choose tree spelled same using valued.movable
    intro places
    simp only [moved_cons]
    refine ⟨_, .declaration isVerb isName isAs (isTypeWord_head_moved _ untyped) (spelled _), ?_⟩
    simp only [Node.unplaced, same, text_movedTo]
  | typedDeclaration isVerb isName isAs isType valued =>
    choose tree spelled same using valued.movable
    intro places
    simp only [moved_cons]
    refine ⟨_, .typedDeclaration isVerb isName isAs isType (spelled _), ?_⟩
    simp only [Node.unplaced, same, text_movedTo, hint_movedTo]
  | constant isConst isProphecy isName isAs valued =>
    choose tree spelled same using valued.movable
    intro places
    simp only [moved_cons]
    refine ⟨_, .constant isConst isProphecy isName isAs (spelled _), ?_⟩
    simp only [Node.unplaced, same, text_movedTo]
  | assignment isVerb targeted isAs valued assigns =>
    choose target targetSpelled sameTarget using targeted.movable
    choose tree spelled same using valued.movable
    intro places
    simp only [moved_cons, moved_append]
    obtain ⟨other, otherAssigns, sameOther⟩ :=
      assigned_of_unplaced assigns (movedTo (places 0) _).place (same _) (sameTarget _)
    exact ⟨other, .assignment isVerb (targetSpelled _) isAs (spelled _) otherAssigns, sameOther⟩
  | deletion isVerb isName =>
    intro places
    simp only [moved_cons, moved_nil]
    refine ⟨_, .deletion isVerb isName, ?_⟩
    simp only [Node.unplaced, text_movedTo]
  | @spell _ _ _ _ params _ _ _ _ isWord isName isOpening named listed isClosing stated braced
      movable =>
    have each : ∀ param ∈ params, ∀ places, ∃ found : Token,
        [found] = moved places [param] ∧ found.kind = .identifier ∧
          found.text = param.text :=
      fun param mem places =>
        ⟨movedTo (places 0) param, rfl, named param mem, rfl⟩
    choose names foundListed foundNamed sameNames using listed.moved each
    choose items foundBraced copies using braced.moved movable
    intro places
    simp only [moved_cons, moved_append]
    refine ⟨_, .spell isWord isName isOpening (foundNamed _) (foundListed _) isClosing
      (copies _).read (foundBraced _), ?_⟩
    simp only [Node.unplaced, Node.unplacedAll_eq_map, text_movedTo, sameNames, (copies _).same]
  | bareCast isCast =>
    intro places
    rw [moved_cons]
    exact ⟨_, .bareCast isCast, rfl⟩
  | cast isCast valued =>
    choose tree spelled same using valued.movable
    intro places
    rw [moved_cons]
    refine ⟨_, .cast isCast (spelled _), ?_⟩
    simp only [Node.unplaced, Node.unplacedOption, same]
  | conditional isProphecy isReveals tested stated braced testedAlso statedAlso statedLast movable
      movableAlso movableLast =>
    choose condition spelled sameCondition using tested.movable
    choose items foundBraced copies using braced.moved movable
    choose alternatives alternativeTokens fine sameAlternatives using
      flatMap_moved fun alt mem => Alternative.moved alt (testedAlso alt mem) (movableAlso alt mem)
    choose last lastTokens lastStated sameLast using lastResort_moved movableLast
    intro places
    simp only [furtherTokens, moved_cons, moved_append, ← alternativeTokens, ← lastTokens]
    refine ⟨_, .conditional isProphecy isReveals (spelled _) (copies _).read (foundBraced _)
      (fun alt mem => (fine _ alt mem).1)
      (fun alt mem => (fine _ alt mem).2) (lastStated _), ?_⟩
    simp only [Node.unplaced, Node.unplacedAll_eq_map, Node.unplacedBranches_eq_map,
      map_map, sameCondition, (copies _).same, sameLast]
    exact congrArg (Node.conditional _ _ _ · _) (sameAlternatives _)
  | patrol isPatrol isUntil tested stated braced movable =>
    choose condition spelled sameCondition using tested.movable
    choose items foundBraced copies using braced.moved movable
    intro places
    simp only [moved_cons, moved_append]
    refine ⟨_, .patrol isPatrol isUntil (spelled _) (copies _).read (foundBraced _), ?_⟩
    simp only [Node.unplaced, Node.unplacedAll_eq_map, sameCondition, (copies _).same]
  | hunt isHunt isEach isName isIn drawn stated braced movable =>
    choose iterable spelled sameIterable using drawn.movable
    choose items foundBraced copies using braced.moved movable
    intro places
    simp only [moved_cons, moved_append]
    refine ⟨_, .hunt isHunt isEach isName isIn (spelled _) (copies _).read (foundBraced _), ?_⟩
    simp only [Node.unplaced, Node.unplacedAll_eq_map, text_movedTo, sameIterable, (copies _).same]
  | breakLoop isBreak =>
    intro places
    rw [moved_cons]
    exact ⟨_, .breakLoop isBreak, rfl⟩
  | continueLoop isContinue =>
    intro places
    rw [moved_cons]
    exact ⟨_, .continueLoop isContinue, rfl⟩
  | expression valued =>
    choose tree spelled same using valued.movable
    intro places
    refine ⟨_, .expression (spelled _), ?_⟩
    simp only [Node.unplaced, same]

section Phrases

variable {lexemes : List Lexeme} {tree : Node}

theorem Expresses.phrased {level : Level} (spelled : Expresses level tokens node) :
    Phrased (Expresses level) (tokens.map Token.lexeme) node :=
  spelled.movable.phrased rfl rfl

theorem Phrased.of_expresses {level : Level} (spelled : Expresses level (lexemes.map token) tree)
    (same : tree.unplaced = node.unplaced) : Phrased (Expresses level) lexemes node :=
  spelled.movable.phrased (map_lexeme_token lexemes) same

theorem States.phrased (stated : States tokens node) :
    Phrased States (tokens.map Token.lexeme) node :=
  stated.movable.phrased rfl rfl

theorem Phrased.of_states (stated : States (lexemes.map token) tree)
    (same : tree.unplaced = node.unplaced) : Phrased States lexemes node :=
  stated.movable.phrased (map_lexeme_token lexemes) same

end Phrases

/-- Statements one after the other are the same ones wherever their tokens stand. -/
theorem Succession.respelled {closing otherClosing : Token}
    (later : Succession closing items tokens) (stated : ∀ item ∈ items, States item.1 item.2)
    (spelled : others.map Token.lexeme = tokens.map Token.lexeme)
    (sameClosing : otherClosing.kind = closing.kind) :
    ∃ found : List Item, Succession otherClosing found others ∧ Copies States found items := by
  obtain ⟨places, rfl⟩ := exists_moved spelled
  exact later.moved (fun item mem => (stated item mem).movable) sameClosing places

end Spellbook.Grammar
