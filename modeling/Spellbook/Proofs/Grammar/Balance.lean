import Spellbook.Proofs.Grammar.Statement

/-!
# Brackets are balanced in expressions and statements

The tokens of an expression or of a statement close every bracket that they open and no other one.
No line feed stands in an expression, and where no line feed stands inside brackets, those of a
statement can all be left out.
-/

namespace Spellbook

open List
open Spellbook.Parser (LineFeeds)

variable {kind : TokenKind}

namespace TokenKind

variable {depth final : Nat} {kinds : List TokenKind}

def opens : TokenKind → Bool
  | leftParen | leftBracket | leftBrace => true
  | _ => false

def closes : TokenKind → Bool
  | rightParen | rightBracket | rightBrace => true
  | _ => false

/-- Is a token of the kind neither a bracket nor a line feed? -/
def isFlat (kind : TokenKind) : Bool := !kind.opens && !kind.closes && kind != newline

/-- The number of open brackets after a token of the kind, unless it closes one too many. -/
def depthAfter? (depth : Nat) (kind : TokenKind) : Option Nat :=
  if kind.closes then
    match depth with
    | 0 => none
    | depth + 1 => some depth
  else if kind.opens then some (depth + 1)
  else some depth

/--
The number of open brackets after tokens of the given kinds, if they close none that was not open.
-/
def descend : (depth : Nat) → List TokenKind → Option Nat
  | depth, [] => some depth
  | depth, kind :: kinds => (depthAfter? depth kind).bind (descend · kinds)

theorem descend_append (depth : Nat) (first second : List TokenKind) :
    descend depth (first ++ second) = (descend depth first).bind (descend · second) := by
  induction first generalizing depth with
  | nil => rfl
  | cons kind kinds ih =>
    rw [cons_append, descend, descend, Option.bind_assoc]
    congr 1
    funext next
    exact ih next

theorem depthAfter?_shift (enters : depthAfter? depth kind = some final) (outer : Nat) :
    depthAfter? (depth + outer) kind = some (final + outer) := by
  unfold depthAfter? at enters ⊢
  split at enters
  case isTrue closing =>
    rw [if_pos closing]
    cases depth with
    | zero => cases enters
    | succ less =>
      cases enters
      rw [show final + 1 + outer = final + outer + 1 by omega]
  case isFalse notClosing =>
    rw [if_neg notClosing]
    split at enters
    case isTrue opening =>
      cases enters
      rw [if_pos opening, show depth + 1 + outer = depth + outer + 1 by omega]
    case isFalse notOpening =>
      cases enters
      rw [if_neg notOpening]

/-- Brackets around tokens make no difference to them. -/
theorem descend_shift (descends : descend depth kinds = some final) (outer : Nat) :
    descend (depth + outer) kinds = some (final + outer) := by
  induction kinds generalizing depth with
  | nil =>
    cases descends
    rfl
  | cons kind kinds ih =>
    obtain ⟨next, enters, descends⟩ := Option.bind_eq_some_iff.mp descends
    rw [descend, depthAfter?_shift enters outer]
    exact ih descends

theorem le_of_descend (notClosing : ∀ kind ∈ kinds, kind.closes = false)
    (descends : descend depth kinds = some final) :
    depth ≤ final := by
  induction kinds generalizing depth with
  | nil =>
    cases descends
    exact Nat.le_refl _
  | cons kind kinds ih =>
    obtain ⟨next, enters, descends⟩ := Option.bind_eq_some_iff.mp descends
    have further := ih (forall_mem_cons.mp notClosing).2 descends
    have enters : (if kind.opens then some (depth + 1) else some depth) = some next := by
      simpa [depthAfter?, notClosing kind mem_cons_self] using enters
    split at enters <;> cases enters <;> omega

theorem depthAfter_of_some (enters : depthAfter? depth kind = some final) :
    kind.depthAfter depth = final := by
  unfold depthAfter? at enters
  split at enters
  case isTrue closing =>
    cases depth with
    | zero => cases enters
    | succ depth =>
      cases enters
      revert closing
      cases kind <;> intro known <;> first | rfl | cases known
  case isFalse notClosing =>
    split at enters
    case isTrue opening =>
      cases enters
      revert opening
      cases kind <;> intro known <;> first | rfl | cases known
    case isFalse notOpening =>
      cases enters
      revert notClosing notOpening
      cases kind <;> first | exact fun _ _ => rfl | simp [closes, opens]

/-- No line feed stands inside brackets, where the first token stands inside `depth` of them. -/
def FeedsOutside : (depth : Nat) → List TokenKind → Prop
  | _, [] => True
  | depth, kind :: kinds =>
    (kind = newline → depth = 0) ∧ FeedsOutside (kind.depthAfter depth) kinds

theorem feedsOutside_of_noFeed (noFeed : ∀ kind ∈ kinds, kind ≠ newline) (depth : Nat) :
    FeedsOutside depth kinds := by
  induction kinds generalizing depth with
  | nil => trivial
  | cons kind kinds ih =>
    obtain ⟨notFeed, others⟩ := forall_mem_cons.mp noFeed
    exact ⟨fun isFeed => (notFeed isFeed).elim, ih others _⟩

theorem feedsOutside_append {middle : Nat} {first second : List TokenKind}
    (descends : descend depth first = some middle) :
    FeedsOutside depth (first ++ second) ↔
      FeedsOutside depth first ∧ FeedsOutside middle second := by
  induction first generalizing depth with
  | nil =>
    cases descends
    simp [FeedsOutside]
  | cons kind kinds ih =>
    obtain ⟨next, enters, descends⟩ := Option.bind_eq_some_iff.mp descends
    rw [cons_append, FeedsOutside, FeedsOutside, depthAfter_of_some enters, ih descends, and_assoc]

/-- Inside brackets there is no line feed at all. -/
theorem ne_newline_of_feedsOutside (outside : FeedsOutside (depth + 1) kinds)
    (descends : descend depth kinds = some final) :
    ∀ kind ∈ kinds, kind ≠ newline := by
  induction kinds generalizing depth with
  | nil =>
    intro kind mem
    cases mem
  | cons first kinds ih =>
    obtain ⟨next, enters, descends⟩ := Option.bind_eq_some_iff.mp descends
    obtain ⟨notFeed, outside⟩ := outside
    rw [depthAfter_of_some (depthAfter?_shift enters 1)] at outside
    intro kind mem
    rcases mem_cons.mp mem with rfl | later
    · intro isFeed
      cases notFeed isFeed
    · exact ih outside descends kind later

end TokenKind

open TokenKind

/-- Does a statement of the kind have a block? -/
def Node.hasBlock : Node → Bool
  | .spell .. | .conditional .. | .patrol .. | .hunt .. => true
  | _ => false

namespace Grammar

variable {tokens first second inner lines body : List Token} {token opening closing : Token}
  {left right : TokenKind}
  {parts : List (List Token)} {level : Level} {node : Node} {items : List Item}
  {alts : List Alternative} {last : Option LastResort}

/-- The tokens close exactly the brackets that they open. -/
def Balanced (tokens : List Token) : Prop := descend 0 (tokens.map Token.kind) = some 0

theorem Balanced.descend (balanced : Balanced tokens) (depth : Nat) :
    TokenKind.descend depth (tokens.map Token.kind) = some depth := by
  have shifted := descend_shift balanced depth
  rwa [Nat.zero_add] at shifted

theorem Balanced.nil : Balanced [] := rfl

theorem Balanced.append (firstBalanced : Balanced first) (secondBalanced : Balanced second) :
    Balanced (first ++ second) := by
  rw [Balanced, map_append, descend_append, firstBalanced]
  exact secondBalanced

theorem Balanced.of_append (balanced : Balanced (first ++ second))
    (firstBalanced : Balanced first) :
    Balanced second := by
  rw [Balanced, map_append, descend_append, firstBalanced] at balanced
  exact balanced

theorem Balanced.single (notOpening : token.kind.opens = false)
    (notClosing : token.kind.closes = false) :
    Balanced [token] := by
  simp [Balanced, TokenKind.descend, depthAfter?, notOpening, notClosing]

theorem Balanced.cons (isKind : token.kind = kind) (flat : kind.isFlat = true)
    (balanced : Balanced tokens) :
    Balanced (token :: tokens) := by
  simp only [TokenKind.isFlat, Bool.and_eq_true, Bool.not_eq_true', ← isKind] at flat
  exact (Balanced.single flat.1.1 flat.1.2).append balanced

theorem Balanced.wrap (isOpening : opening.kind = left) (balanced : Balanced inner)
    (isClosing : closing.kind = right) (opens : left.opens = true)
    (closes : right.closes = true) :
    Balanced (opening :: (inner ++ [closing])) := by
  have notClosing : left.closes = false := by
    revert opens
    cases left <;> decide
  have enters : depthAfter? 0 opening.kind = some 1 := by
    simp [depthAfter?, isOpening, opens, notClosing]
  have leaves : depthAfter? 1 closing.kind = some 0 := by
    simp [depthAfter?, isClosing, closes]
  rw [Balanced, map_cons, map_append, TokenKind.descend, enters, Option.bind_some,
    descend_append, balanced.descend, Option.bind_some, map_singleton, TokenKind.descend,
    leaves]
  rfl

theorem balanced_of_lineFeeds (feeds : LineFeeds lines) : Balanced lines := by
  induction lines with
  | nil => exact Balanced.nil
  | cons line lines ih =>
    have isFeed := feeds line mem_cons_self
    exact (Balanced.single (by rw [isFeed]; rfl) (by rw [isFeed]; rfl)).append (ih feeds.tail)

/-! ## Expressions -/

/-- Balanced tokens without line feeds. -/
structure Tidy (tokens : List Token) : Prop where
  balanced : Balanced tokens
  noFeed : ∀ token ∈ tokens, token.kind ≠ .newline

namespace Tidy

theorem nil : Tidy [] := ⟨Balanced.nil, by simp⟩

theorem append (firstTidy : Tidy first) (secondTidy : Tidy second) :
    Tidy (first ++ second) where
  balanced := firstTidy.balanced.append secondTidy.balanced
  noFeed := by
    intro token mem
    rcases mem_append.mp mem with early | late
    · exact firstTidy.noFeed token early
    · exact secondTidy.noFeed token late

theorem single (isKind : token.kind = kind) (flat : kind.isFlat = true) : Tidy [token] := by
  simp only [TokenKind.isFlat, Bool.and_eq_true, Bool.not_eq_true', bne_iff_ne, ← isKind] at flat
  refine ⟨Balanced.single flat.1.1 flat.1.2, ?_⟩
  intro other mem
  rw [mem_singleton.mp mem]
  exact flat.2

theorem cons (isKind : token.kind = kind) (flat : kind.isFlat = true) (tidy : Tidy tokens) :
    Tidy (token :: tokens) :=
  (single isKind flat).append tidy

theorem wrap (isOpening : opening.kind = left) (tidy : Tidy inner)
    (isClosing : closing.kind = right) (opens : left.opens = true)
    (closes : right.closes = true) :
    Tidy (opening :: (inner ++ [closing])) where
  balanced := Balanced.wrap isOpening tidy.balanced isClosing opens closes
  noFeed := by
    intro token mem
    rcases mem_cons.mp mem with rfl | inside
    · intro isFeed
      obtain rfl := isOpening.symm.trans isFeed
      cases opens
    · rcases mem_append.mp inside with within | last
      · exact tidy.noFeed token within
      · intro isFeed
        rw [mem_singleton.mp last] at isFeed
        obtain rfl := isClosing.symm.trans isFeed
        cases closes

end Tidy

theorem Separated.tidy (separated : Separated parts tokens) (tidy : ∀ part ∈ parts, Tidy part) :
    Tidy tokens := by
  induction separated with
  | single part => exact tidy part mem_cons_self
  | comma isComma others ih =>
    have rest := ih (forall_mem_cons.mp tidy).2
    exact (tidy _ mem_cons_self).append (rest.cons isComma rfl)

theorem Listing.tidy {trailingComma : Bool} (listed : Listing trailingComma parts tokens)
    (tidy : ∀ part ∈ parts, Tidy part) :
    Tidy tokens := by
  cases listed with
  | empty => exact Tidy.nil
  | plain separated => exact separated.tidy tidy
  | trailing allowed separated isComma =>
    exact (separated.tidy tidy).append (Tidy.single isComma rfl)

theorem isFlat_of_operator {op : Operator} (isOperator : level.operator? kind = some op) :
    kind.isFlat = true := by
  revert isOperator
  cases level <;> cases kind <;> intro known <;> first | rfl | cases known

theorem isFlat_of_leaf (isLeaf : token.leaf? = some node) : token.kind.isFlat = true := by
  unfold Token.leaf? at isLeaf
  split at isLeaf
  all_goals first
    | (cases isLeaf; simp only [*]; rfl)
    | cases isLeaf

theorem isFlat_of_annotated {word : Token} {value : Value}
    (isLiteral : word.annotated? token = some value) :
    word.kind.isFlat = true ∧ token.kind.isFlat = true := by
  unfold Token.annotated? at isLiteral
  split at isLiteral
  all_goals first
    | (simp only [*]; exact ⟨rfl, rfl⟩)
    | cases isLiteral

theorem Opening.tidy {word bracket : TokenKind} (flat : word.isFlat = true)
    (isOpening : bracket.opens = true) {heading : List Token} {place : Place}
    (opened : Opening word bracket heading place) (tidy : Tidy inner)
    (isClosing : closing.kind = right) (closes : right.closes = true) :
    Tidy (heading ++ (inner ++ [closing])) := by
  cases opened with
  | bare isBracket => exact tidy.wrap isBracket isClosing isOpening closes
  | named isWord isBracket =>
    exact (tidy.wrap isBracket isClosing isOpening closes).cons isWord flat

/-- An expression is balanced and runs over no line feed. -/
theorem Expresses.tidy (spelled : Expresses level tokens node) : Tidy tokens := by
  induction spelled with
  | loosen inner ih => exact ih
  | join leftSide isOperator rightSide leftTidy rightTidy =>
    exact leftTidy.append (rightTidy.cons rfl (isFlat_of_operator isOperator))
  | power leftSide isPower rightSide leftTidy rightTidy =>
    exact leftTidy.append (rightTidy.cons isPower rfl)
  | deny isNot inner ih =>
    exact ih.cons isNot rfl
  | negate isMinus inner ih =>
    exact ih.cons isMinus rfl
  | call called isOpening args listed isClosing calledTidy argumentsTidy =>
    have inside := listed.tidy (forall_mem_map.mpr argumentsTidy)
    exact calledTidy.append (inside.wrap isOpening isClosing rfl rfl)
  | index indexed isOpening positioned isClosing indexedTidy positionTidy =>
    exact indexedTidy.append (positionTidy.wrap isOpening isClosing rfl rfl)
  | member inner isDot isName ih =>
    exact ih.append ((Tidy.single isName rfl).cons isDot rfl)
  | leaf isLeaf => exact Tidy.single rfl (isFlat_of_leaf isLeaf)
  | annotated isLiteral =>
    obtain ⟨wordFlat, tokenFlat⟩ := isFlat_of_annotated isLiteral
    exact (Tidy.single rfl tokenFlat).cons rfl wordFlat
  | tome opened elems listed isClosing elementsTidy =>
    have inside := listed.tidy (forall_mem_map.mpr elementsTidy)
    exact opened.tidy rfl rfl inside isClosing rfl
  | grimoire opened keys colons values listed isClosing keysTidy valuesTidy =>
    have inside := listed.tidy (forall_mem_map.mpr fun entry inside =>
      (keysTidy entry inside).append ((valuesTidy entry inside).cons (colons entry inside) rfl))
    exact opened.tidy rfl rfl inside isClosing rfl
  | group isOpening inside isClosing ih =>
    exact ih.wrap isOpening isClosing rfl rfl

/-! ## Statements -/

theorem Succession.balanced (succeeding : Succession closing items tokens)
    (balanced : ∀ item ∈ items, Balanced item.1) :
    Balanced tokens := by
  induction succeeding with
  | done feeds => exact balanced_of_lineFeeds feeds
  | next feeds apart others ih =>
    have rest := ih (forall_mem_cons.mp balanced).2
    exact (balanced_of_lineFeeds feeds).append ((balanced _ mem_cons_self).append rest)

theorem Braced.balanced (braced : Braced items body) (balanced : ∀ item ∈ items, Balanced item.1) :
    Balanced body := by
  cases braced with
  | intro feeds isOpening succeeding isClosing =>
    exact (balanced_of_lineFeeds feeds).append
      ((succeeding.balanced balanced).wrap isOpening isClosing rfl rfl)

theorem furtherTokens_balanced (tested : ∀ alt ∈ alts,
      Expresses .disjunction alt.condition.1 alt.condition.2)
    (balanced : ∀ alt ∈ alts, ∀ item ∈ alt.items, Balanced item.1)
    (balancedLast : ∀ resort ∈ last, ∀ item ∈ resort.items, Balanced item.1) :
    Balanced (furtherTokens alts last) := by
  induction alts with
  | nil =>
    cases last with
    | none => exact Balanced.nil
    | some resort =>
      have body := resort.braced.balanced (balancedLast resort rfl)
      exact (balanced_of_lineFeeds resort.feeds).append
        ((body.cons resort.isDecrees rfl).cons resort.isFate rfl)
  | cons alt others ih =>
    have rest := ih (forall_mem_cons.mp tested).2 (forall_mem_cons.mp balanced).2
    have body := alt.braced.balanced (balanced _ mem_cons_self)
    have branch := (tested _ mem_cons_self).tidy.balanced.append body
    have tokens : Balanced alt.tokens :=
      (balanced_of_lineFeeds alt.feeds).append
        ((branch.cons alt.isProphecy rfl).cons alt.isOtherwise rfl)
    rw [furtherTokens, flatMap_cons, append_assoc]
    exact tokens.append rest

theorem hasBlock_of_assigned {place : Place} {value target : Node}
    (assigns : assigned? place value target = some node) :
    node.hasBlock = false := by
  unfold assigned? at assigns
  split at assigns <;> cases assigns <;> rfl

theorem isFlat_of_verb {verb : Token} (isVerb : verb.kind = .conjure ∨ verb.kind = .summon) :
    verb.kind.isFlat = true := by
  rcases isVerb with isVerb | isVerb
  · rw [isVerb]
    rfl
  · rw [isVerb]
    rfl

theorem isFlat_of_typeWord (isType : Parser.isTypeWord kind = true) : kind.isFlat = true := by
  revert isType
  cases kind <;> decide

theorem parameters_tidy {params : List Token} (listed : Listing false (params.map ([·])) inner)
    (named : ∀ param ∈ params, param.kind = .identifier) :
    Tidy inner :=
  listed.tidy (forall_mem_map.mpr fun param mem =>
    Tidy.single (named param mem) rfl)

/-- A statement closes exactly the brackets that it opens; one without a block has no line feed. -/
theorem States.balanced_and_tidy (stated : States tokens node) :
    Balanced tokens ∧ (node.hasBlock = false → Tidy tokens) := by
  have plain {tokens : List Token} {node : Node} (tidy : Tidy tokens) :
      Balanced tokens ∧ (node.hasBlock = false → Tidy tokens) :=
    ⟨tidy.balanced, fun _ => tidy⟩
  induction stated with
  | declaration isVerb isName isAs untyped valued =>
    exact plain (((valued.tidy.cons isAs rfl).cons isName rfl).cons rfl (isFlat_of_verb isVerb))
  | typedDeclaration isVerb isName isAs isType valued =>
    have value := valued.tidy.cons rfl (isFlat_of_typeWord isType)
    exact plain (((value.cons isAs rfl).cons isName rfl).cons rfl (isFlat_of_verb isVerb))
  | constant isConst isProphecy isName isAs valued =>
    have named := (valued.tidy.cons isAs rfl).cons isName rfl
    exact plain ((named.cons isProphecy rfl).cons isConst rfl)
  | assignment isVerb targeted isAs valued assigns =>
    exact plain ((targeted.tidy.append (valued.tidy.cons isAs rfl)).cons isVerb rfl)
  | deletion isVerb isName => exact plain ((Tidy.single isName rfl).cons isVerb rfl)
  | spell isWord isName isOpening named listed isClosing stated braced ih =>
    have inside := (parameters_tidy listed named).balanced.wrap isOpening isClosing rfl rfl
    have rest := inside.append (braced.balanced fun item mem => (ih item mem).1)
    have whole := (rest.cons isName rfl).cons isWord (by split <;> rfl)
    refine ⟨?_, by rintro ⟨⟩⟩
    simpa only [cons_append, append_assoc, nil_append] using whole
  | bareCast isCast => exact plain (Tidy.single isCast rfl)
  | cast isCast valued => exact plain (valued.tidy.cons isCast rfl)
  | conditional isProphecy isReveals tested stated braced testedAlso statedAlso statedLast ih ihAlso
      ihLast =>
    have further := furtherTokens_balanced testedAlso
      (fun alt found item mem => (ihAlso alt found item mem).1)
      fun resort found item mem => (ihLast resort found item mem).1
    have body := braced.balanced fun item mem => (ih item mem).1
    have rest := tested.tidy.balanced.append (body.append further)
    exact ⟨(rest.cons isReveals rfl).cons isProphecy rfl, by rintro ⟨⟩⟩
  | patrol isPatrol isUntil tested stated braced ih =>
    have body := braced.balanced fun item mem => (ih item mem).1
    have rest := tested.tidy.balanced.append body
    exact ⟨(rest.cons isUntil rfl).cons isPatrol rfl, by rintro ⟨⟩⟩
  | hunt isHunt isEach isName isIn drawn stated braced ih =>
    have body := braced.balanced fun item mem => (ih item mem).1
    have rest := drawn.tidy.balanced.append body
    exact ⟨(((rest.cons isIn rfl).cons isName rfl).cons isEach rfl).cons isHunt rfl, by rintro ⟨⟩⟩
  | breakLoop isBreak => exact plain (Tidy.single isBreak rfl)
  | continueLoop isContinue => exact plain (Tidy.single isContinue rfl)
  | expression valued => exact plain valued.tidy

theorem States.balanced (stated : States tokens node) : Balanced tokens :=
  stated.balanced_and_tidy.1

/-! ## Statements without line feeds -/

/-- The tokens that are not line feeds. -/
def solids (tokens : List Token) : List Token := tokens.filter (·.kind != .newline)

theorem solids_append (first second : List Token) :
    solids (first ++ second) = solids first ++ solids second :=
  filter_append ..

theorem solids_cons (isKind : token.kind = kind) (other : (kind != .newline) = true)
    (rest : List Token) :
    solids (token :: rest) = token :: solids rest :=
  filter_cons_of_pos (by rwa [isKind])

theorem solids_of_lineFeeds (feeds : LineFeeds lines) : solids lines = [] := by
  refine filter_eq_nil_iff.mpr ?_
  intro token mem
  simp [feeds token mem]

theorem solids_of_noFeed (noFeed : ∀ token ∈ tokens, token.kind ≠ .newline) :
    solids tokens = tokens := by
  refine filter_eq_self.mpr ?_
  intro token mem
  simpa using noFeed token mem

theorem solids_of_tidy (tidy : Tidy tokens) : solids tokens = tokens :=
  solids_of_noFeed tidy.noFeed

/-- What stands inside braces has no line feeds to leave out. -/
theorem Braced.solids (braced : Braced items body) (balanced : ∀ item ∈ items, Balanced item.1)
    (outside : FeedsOutside 0 (body.map Token.kind)) :
    Braced items (Grammar.solids body) := by
  cases braced with
  | @intro lines inner opening closing feeds isOpening succeeding isClosing =>
    have innerBalanced := succeeding.balanced balanced
    rw [map_append, feedsOutside_append (balanced_of_lineFeeds feeds)] at outside
    have inside : FeedsOutside 1 ((inner ++ [closing]).map Token.kind) := by
      have tail := outside.2.2
      rw [isOpening] at tail
      exact tail
    rw [map_append, feedsOutside_append (innerBalanced.descend 1)] at inside
    have noFeed := ne_newline_of_feedsOutside inside.1 innerBalanced
    have innerSolid : Grammar.solids inner = inner := solids_of_noFeed
      fun token mem => noFeed token.kind (mem_map_of_mem mem)
    have same : Grammar.solids (lines ++ opening :: (inner ++ [closing])) =
        [] ++ opening :: (inner ++ [closing]) := by
      rw [solids_append, solids_of_lineFeeds feeds, solids_cons isOpening rfl, solids_append,
        innerSolid, solids_cons isClosing rfl]
      rfl
    rw [same]
    exact Braced.intro LineFeeds.nil isOpening succeeding isClosing

theorem feedsOutside_right (balanced : Balanced first)
    (outside : FeedsOutside 0 ((first ++ second).map Token.kind)) :
    FeedsOutside 0 (second.map Token.kind) := by
  rw [map_append, feedsOutside_append balanced] at outside
  exact outside.2

theorem feedsOutside_left (balanced : Balanced first)
    (outside : FeedsOutside 0 ((first ++ second).map Token.kind)) :
    FeedsOutside 0 (first.map Token.kind) := by
  rw [map_append, feedsOutside_append balanced] at outside
  exact outside.1

theorem feedsOutside_tail (isKind : token.kind = kind) (flat : kind.isFlat = true)
    (outside : FeedsOutside 0 ((token :: tokens).map Token.kind)) :
    FeedsOutside 0 (tokens.map Token.kind) :=
  @feedsOutside_right [token] tokens (Balanced.nil.cons isKind flat) outside

theorem Braced.solids_after (tidy : Tidy first) (braced : Braced items body)
    (stated : ∀ item ∈ items, States item.1 item.2)
    (outside : FeedsOutside 0 ((first ++ body).map Token.kind)) :
    ∃ found, Grammar.solids (first ++ body) = first ++ found ∧ Braced items found := by
  refine ⟨Grammar.solids body, by rw [solids_append, solids_of_tidy tidy], ?_⟩
  exact braced.solids (fun item mem => (stated item mem).balanced)
    (feedsOutside_right tidy.balanced outside)

theorem Alternative.solids (alt : Alternative)
    (tested : Expresses .disjunction alt.condition.1 alt.condition.2)
    (balanced : ∀ item ∈ alt.items, Balanced item.1)
    (outside : FeedsOutside 0 (alt.tokens.map Token.kind)) :
    ∃ found : Alternative, Grammar.solids alt.tokens = found.tokens ∧
      found.condition = alt.condition ∧ found.items = alt.items := by
  have outsideBody : FeedsOutside 0 (alt.body.map Token.kind) := by
    have words := feedsOutside_right (balanced_of_lineFeeds alt.feeds) outside
    exact feedsOutside_right tested.tidy.balanced (feedsOutside_tail alt.isProphecy rfl
      (feedsOutside_tail alt.isOtherwise rfl words))
  refine ⟨⟨[], alt.otherwise, alt.prophecy, alt.condition,
    alt.items, Grammar.solids alt.body, LineFeeds.nil, alt.isOtherwise,
    alt.isProphecy, alt.braced.solids balanced outsideBody⟩, ?_, rfl, rfl⟩
  simp only [Alternative.tokens, solids_append, solids_of_lineFeeds alt.feeds]
  rw [solids_cons alt.isOtherwise rfl, solids_cons alt.isProphecy rfl,
    solids_append, solids_of_tidy tested.tidy]

theorem alternatives_solids (tested : ∀ alt ∈ alts,
      Expresses .disjunction alt.condition.1 alt.condition.2)
    (balanced : ∀ alt ∈ alts, ∀ item ∈ alt.items, Balanced item.1)
    (outside : FeedsOutside 0 ((alts.flatMap Alternative.tokens).map Token.kind)) :
    ∃ found : List Alternative,
      solids (alts.flatMap Alternative.tokens) = found.flatMap Alternative.tokens ∧
        alts.map Alternative.branch = found.map Alternative.branch ∧
          ∀ other ∈ found, ∃ original ∈ alts,
            original.condition = other.condition ∧ original.items = other.items := by
  induction alts with
  | nil => exact ⟨[], rfl, rfl, forall_mem_nil _⟩
  | cons alt others ih =>
    have firstBalanced : Balanced alt.tokens := by
      have whole := @furtherTokens_balanced [alt] none (by simpa using tested alt mem_cons_self)
        (by simpa using balanced alt mem_cons_self) (by simp)
      simpa [furtherTokens] using whole
    rw [flatMap_cons] at outside
    obtain ⟨first, firstSolid, sameCondition, sameItems⟩ := alt.solids
      (tested _ mem_cons_self) (balanced _ mem_cons_self)
      (feedsOutside_left firstBalanced outside)
    obtain ⟨found, foundSolid, sameBranches, each⟩ := ih
      (forall_mem_cons.mp tested).2 (forall_mem_cons.mp balanced).2
      (feedsOutside_right firstBalanced outside)
    refine ⟨first :: found, ?_, ?_, forall_mem_cons.mpr ⟨?_, fun other mem => ?_⟩⟩
    · rw [flatMap_cons, flatMap_cons, solids_append, firstSolid, foundSolid]
    · rw [map_cons, map_cons, sameBranches, Alternative.branch, Alternative.branch, sameCondition,
        sameItems]
    · exact ⟨alt, mem_cons_self, sameCondition.symm, sameItems.symm⟩
    · obtain ⟨original, present, same⟩ := each other mem
      exact ⟨original, mem_cons_of_mem _ present, same⟩

theorem lastResort_solids (balanced : ∀ resort ∈ last, ∀ item ∈ resort.items, Balanced item.1)
    (outside : FeedsOutside 0 (((last.map LastResort.tokens).getD []).map Token.kind)) :
    ∃ found : Option LastResort,
      solids ((last.map LastResort.tokens).getD []) = (found.map LastResort.tokens).getD [] ∧
        last.map LastResort.branch = found.map LastResort.branch ∧
          ∀ other ∈ found, ∃ original ∈ last, original.items = other.items := by
  cases last with
  | none => exact ⟨none, rfl, rfl, by rintro _ ⟨⟩⟩
  | some resort =>
    have outsideBody : FeedsOutside 0 (resort.body.map Token.kind) := by
      have words := feedsOutside_right (balanced_of_lineFeeds resort.feeds) outside
      exact feedsOutside_tail resort.isDecrees rfl (feedsOutside_tail resort.isFate rfl words)
    refine ⟨some ⟨[], resort.fate, resort.decrees, resort.items, solids resort.body,
      LineFeeds.nil, resort.isFate, resort.isDecrees,
      resort.braced.solids (balanced resort rfl) outsideBody⟩, ?_, rfl, ?_⟩
    · simp only [Option.map_some, Option.getD_some, LastResort.tokens, solids_append,
        solids_of_lineFeeds resort.feeds]
      rw [solids_cons resort.isFate rfl, solids_cons resort.isDecrees rfl]
    · rintro _ ⟨⟩
      exact ⟨resort, rfl, rfl⟩

/-- A statement without line feeds inside brackets is the same statement without any. -/
theorem States.solids (stated : States tokens node)
    (outside : FeedsOutside 0 (tokens.map Token.kind)) :
    States (Grammar.solids tokens) node := by
  -- Statements without blocks have no line feeds.
  have plain (noBlock : node.hasBlock = false) : States (Grammar.solids tokens) node := by
    rw [solids_of_tidy (stated.balanced_and_tidy.2 noBlock)]
    exact stated
  cases stated with
  | @spell word name opening closing parameters inner body items aloud isWord isName isOpening
      named listed isClosing stated braced =>
    have inside := (parameters_tidy listed named).wrap isOpening isClosing rfl rfl
    have heading : Tidy (word :: name :: opening :: (inner ++ [closing])) :=
      (inside.cons isName rfl).cons isWord (by cases aloud <;> rfl)
    have split : word :: name :: opening :: (inner ++ closing :: body) =
        (word :: name :: opening :: (inner ++ [closing])) ++ body := by
      simp only [cons_append, append_assoc, nil_append]
    rw [split] at outside ⊢
    obtain ⟨found, same, solid⟩ := braced.solids_after heading stated outside
    rw [same]
    simp only [cons_append, append_assoc, nil_append]
    exact States.spell isWord isName isOpening named listed isClosing stated solid
  | @conditional prophecy reveals test body condition items alts last isProphecy isReveals
      tested stated braced testedAlso statedAlso statedLast =>
    have heading : Tidy (prophecy :: reveals :: test) :=
      (tested.tidy.cons isReveals rfl).cons isProphecy rfl
    have balanced : ∀ item ∈ items, Balanced item.1 :=
      fun item mem => (stated item mem).balanced
    have balancedAlso : ∀ alt ∈ alts, ∀ item ∈ alt.items,
        Balanced item.1 :=
      fun alt found item mem => (statedAlso alt found item mem).balanced
    rw [← cons_append, ← cons_append] at outside ⊢
    have outsideBody := feedsOutside_right heading.balanced outside
    have outsideFurther := feedsOutside_right (braced.balanced balanced) outsideBody
    rw [furtherTokens] at outsideFurther
    have alternativesBalanced : Balanced (alts.flatMap Alternative.tokens) := by
      have whole := @furtherTokens_balanced alts none testedAlso balancedAlso (by simp)
      simpa [furtherTokens] using whole
    obtain ⟨found, foundSolid, sameBranches, each⟩ := alternatives_solids testedAlso balancedAlso
      (feedsOutside_left alternativesBalanced outsideFurther)
    obtain ⟨resort, resortSolid, sameResort, eachResort⟩ := lastResort_solids
      (fun resort found item mem => (statedLast resort found item mem).balanced)
      (feedsOutside_right alternativesBalanced outsideFurther)
    have solidBody := braced.solids balanced
      (feedsOutside_left (braced.balanced balanced) outsideBody)
    have furtherSolid : Grammar.solids (furtherTokens alts last) =
        furtherTokens found resort := by
      rw [furtherTokens, solids_append, foundSolid, resortSolid, furtherTokens]
    rw [solids_append, solids_of_tidy heading, solids_append, furtherSolid, sameBranches,
      sameResort]
    refine States.conditional isProphecy isReveals tested stated solidBody ?_ ?_ ?_
    · intro alt mem
      obtain ⟨original, present, same⟩ := each alt mem
      rw [← same.1]
      exact testedAlso original present
    · intro alt mem
      obtain ⟨original, present, same⟩ := each alt mem
      rw [← same.2]
      exact statedAlso original present
    · intro last mem
      obtain ⟨original, present, same⟩ := eachResort last mem
      rw [← same]
      exact statedLast original present
  | @patrol word untilWord test body condition items isPatrol isUntil tested stated braced =>
    have heading : Tidy (word :: untilWord :: test) :=
      (tested.tidy.cons isUntil rfl).cons isPatrol rfl
    rw [← cons_append, ← cons_append] at outside ⊢
    obtain ⟨found, same, solid⟩ := braced.solids_after heading stated outside
    rw [same]
    exact States.patrol isPatrol isUntil tested stated solid
  | @hunt word each name inWord source body iterable items isHunt isEach isName isIn drawn stated
      braced =>
    have heading : Tidy (word :: each :: name :: inWord :: source) :=
      (((drawn.tidy.cons isIn rfl).cons isName rfl).cons isEach rfl).cons isHunt rfl
    simp only [← cons_append] at outside ⊢
    obtain ⟨found, same, solid⟩ := braced.solids_after heading stated outside
    rw [same]
    exact States.hunt isHunt isEach isName isIn drawn stated solid
  | assignment isVerb targeted isAs valued assigns =>
    exact plain (hasBlock_of_assigned assigns)
  | _ => exact plain rfl

end Grammar

end Spellbook
