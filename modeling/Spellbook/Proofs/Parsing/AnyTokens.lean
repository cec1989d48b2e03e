import Spellbook.Proofs.Parsing.ExpressionComplete

/-!
# The parser on any tokens

On any list of tokens the parser ends: in a tree, in an error at the place of a token, or because of
a number after `potion` that is too large. It never looks beyond the first end of file, and its
budget is never used up.

All three are shown at once, by comparing runs that have budgets of their own, on lists that are the
same up to an end of file (`Fork`).
-/

namespace Spellbook

open List

/-- A value that fits the kind of the token, if the kind calls for one. -/
structure Token.IsShaped (token : Token) : Prop where
  integer : token.kind = .integer → ∃ integer, token.value = .rune integer
  float : token.kind = .float → ∃ number birth, token.value = .potion number birth
  text : token.kind = .string ∨ token.kind = .identifier → ∃ text, token.value = .scroll text

namespace Parser

variable {ι α β : Type}

/-- What reading tokens can end in, instead of a tree. -/
inductive Mistake (tokens : List Token) : Trouble → Prop where
  /-- An error of the grammar, at the place of a token. -/
  | miscast {cause : Cause} {token : Token} (isMiscast : cause.errorClass = .spellMiscast)
      (member : token ∈ tokens) : Mistake tokens (.caused cause token.place)
  /-- An integer after `potion` that is too large for a floating point number. -/
  | overflow {before after : List Token} {word number : Token} {integer : Int}
      (parts : tokens = before ++ word :: number :: after) (isPotion : word.kind = .potion)
      (isInteger : number.kind = .integer) (value : number.value = .rune integer)
      (tooLarge : Number.floatOfInteger integer = .error .integerTooLarge) :
      Mistake tokens (.fault .integerTooLarge)

/-- Tokens up to an end of file, and ways to go on after it. -/
structure Fork (ι : Type) where
  front : List Token
  finish : Token
  beyond : ι → List Token
  isEnd : finish.kind = .endOfFile
  shaped : ∀ token ∈ front, token.IsShaped

namespace Fork

/-- The tokens that may be looked at. -/
def tokens (fork : Fork ι) : List Token := fork.front ++ [fork.finish]

/-- The place of a token that may be looked at. -/
def Marks (fork : Fork ι) (place : Place) : Prop := ∃ token ∈ fork.tokens, token.place = place

/-- Some of the tokens before the end, the end and the way to go on. -/
def on (fork : Fork ι) (way : ι) (input : List Token) : List Token :=
  input ++ fork.finish :: fork.beyond way

end Fork

/-- In every way the same outcome after the same tokens, of which at least so many were taken. -/
inductive Alike (fork : Fork ι) (taken : Nat) (input : List Token)
    (ended : ι → Except Trouble (α × List Token)) : Prop where
  | ok (res : α) {rest : List Token} (suffix : rest <:+ input)
      (shorter : rest.length + taken ≤ input.length)
      (same : ∀ way, ended way = .ok (res, fork.on way rest))
  | error {trouble : Trouble} (mistake : Mistake fork.tokens trouble)
      (same : ∀ way, ended way = .error trouble)

/-- Parsers that do the same wherever fewer tokens than a bound are left before the end. -/
def Agree (fork : Fork ι) (bound taken : Nat) (parser : ι → Parser α) : Prop :=
  ∀ input, input <:+ fork.front → input.length < bound →
    Alike fork taken input fun way => parser way (fork.on way input)

/-! ## Parsers one after the other -/

namespace Alike

variable {fork : Fork ι} {taken fewer more : Nat} {input rest : List Token}
  {ended ended' : ι → Except Trouble (α × List Token)}

theorem of_eq (alike : Alike fork taken input ended) (same : ∀ way, ended' way = ended way) :
    Alike fork taken input ended' := by
  rwa [funext same]

theorem weaken (alike : Alike fork taken input ended) (le : fewer ≤ taken) :
    Alike fork fewer input ended := by
  cases alike with
  | ok res suffix shorter same =>
    exact .ok res suffix (Nat.le_trans (Nat.add_le_add_left le _) shorter) same
  | error mistake same => exact .error mistake same

/-- Tokens that were taken before count. -/
theorem after (alike : Alike fork more rest ended) (suffix : rest <:+ input)
    (shorter : rest.length + taken ≤ input.length) : Alike fork (taken + more) input ended := by
  cases alike with
  | ok res lastSuffix lastShorter same =>
    exact .ok res (lastSuffix.trans suffix) (by omega) same
  | error mistake same => exact .error mistake same

theorem stay (input : List Token) (res : α) :
    Alike fork 0 input fun way => .ok (res, fork.on way input) :=
  .ok res (suffix_refl _) (Nat.le_refl _) fun _ => rfl

theorem take (token : Token) (input : List Token) (res : α) :
    Alike fork 1 (token :: input) fun way => .ok (res, fork.on way input) :=
  .ok res (suffix_cons token input) (Nat.le_refl _) fun _ => rfl

/-- A token was found that does not belong where it stands. -/
theorem miscast {cause : Cause} {token : Token} (mem : token ∈ fork.tokens)
    (isMiscast : cause.errorClass = .spellMiscast)
    (same : ∀ way, ended way = .error (.caused cause token.place)) :
    Alike fork taken input ended :=
  .error (.miscast isMiscast mem) same

theorem bind {first : ι → Parser α} {next : ι → α → Parser β} {given : ι → List Token}
    (begun : Alike fork taken input fun way => first way (given way))
    (further : ∀ res rest, rest <:+ input → rest.length + taken ≤ input.length →
      Alike fork more rest fun way => next way res (fork.on way rest)) :
    Alike fork (taken + more) input fun way => (first way >>= next way) (given way) := by
  cases begun with
  | error mistake same => exact .error mistake fun way => bind_of_error (same way)
  | ok res suffix shorter same =>
    exact ((further _ _ suffix shorter).after suffix shorter).of_eq fun way => bind_of_ok (same way)

end Alike

namespace Agree

variable {fork : Fork ι} {bound below taken fewer : Nat} {first : ι → Parser α}

/-- With a bound of zero there is nothing to read. -/
theorem zero (taken : Nat) (parser : ι → Parser α) : Agree fork 0 taken parser :=
  fun _ _ short => absurd short (Nat.not_lt_zero _)

theorem mono (agree : Agree fork bound taken first) (below_le : below ≤ bound)
    (fewer_le : fewer ≤ taken) : Agree fork below fewer first :=
  fun input suffix short =>
    (agree input suffix (Nat.lt_of_lt_of_le short below_le)).weaken fewer_le

theorem lower (agree : Agree fork bound taken first) : Agree fork (bound - 1) taken first :=
  agree.mono (Nat.sub_le _ _) (Nat.le_refl _)

theorem inside (agree : Agree fork (bound - 1) taken first) (below_le : below ≤ bound) :
    Agree fork (below - 1) taken first :=
  agree.mono (Nat.sub_le_sub_right below_le 1) (Nat.le_refl _)

/-- What is known of a parser that takes a token, if that does not matter. -/
theorem lax (agree : Agree fork bound 1 first) : Agree fork bound 0 first :=
  agree.mono (Nat.le_refl _) (Nat.zero_le _)

theorem pure (res : α) : Agree fork bound 0 fun _ => (Pure.pure res : Parser α) :=
  fun input _ _ => .stay input res

theorem fail {cause : Cause} {place : Place} (isMiscast : cause.errorClass = .spellMiscast)
    (marked : fork.Marks place) :
    Agree fork bound taken fun _ => (Parser.fail cause place : Parser α) := by
  obtain ⟨token, mem, rfl⟩ := marked
  exact fun _ _ _ => .miscast mem isMiscast fun _ => rfl

/-- A parser that may take nothing, and then another one. -/
theorem bind {next : ι → α → Parser β} (begun : Agree fork bound 0 first)
    (further : ∀ res, Agree fork bound taken (next · res)) :
    Agree fork bound taken fun way => first way >>= next way := by
  intro input suffix short
  have alike := (begun input suffix short).bind fun res rest restSuffix shorter =>
    further res rest (restSuffix.trans suffix) (Nat.lt_of_le_of_lt shorter short)
  rwa [Nat.zero_add] at alike

/-- A parser that takes a token, and then another one. -/
theorem step {next : ι → α → Parser β} (begun : Agree fork bound 1 first)
    (further : ∀ res, Agree fork (bound - 1) 0 (next · res)) :
    Agree fork bound 1 fun way => first way >>= next way := by
  intro input suffix short
  exact (begun input suffix short).bind fun res rest restSuffix shorter =>
    further res rest (restSuffix.trans suffix) (by omega)

theorem discard (agree : Agree fork bound taken first) :
    Agree fork bound taken fun way => Functor.discard (first way) := by
  intro input suffix short
  cases agree input suffix short with
  | error mistake same =>
    refine .error mistake fun way => ?_
    exact congrArg (· >>= fun (_, rest) => .ok ((), rest)) (same way)
  | ok res restSuffix shorter same =>
    refine .ok () restSuffix shorter fun way => ?_
    exact congrArg (· >>= fun (_, rest) => .ok ((), rest)) (same way)

theorem ite {cond : Prop} [Decidable cond] {other : ι → Parser α}
    (yes : Agree fork bound taken first) (no : Agree fork bound taken other) :
    Agree fork bound taken fun way => if cond then first way else other way := by
  split
  · exact yes
  · exact no

/-- Parsers agree if they do so at the end of file and at every other token. -/
theorem of_next
    (ended : 0 < bound → Alike fork taken [] fun way =>
      first way (fork.finish :: fork.beyond way))
    (given : ∀ token input, token :: input <:+ fork.front → input.length + 1 < bound →
      Alike fork taken (token :: input) fun way => first way (token :: fork.on way input)) :
    Agree fork bound taken first := by
  intro input suffix short
  cases input with
  | nil => exact ended short
  | cons token input => exact given token input suffix short

end Agree

/-! ## Primitive parsers -/

namespace Fork

variable (fork : Fork ι)

theorem finish_mem : fork.finish ∈ fork.tokens :=
  mem_append_right _ (mem_singleton_self _)

theorem finish_kind_ne {kind : TokenKind} (known : kind.Known) : fork.finish.kind ≠ kind := by
  rw [fork.isEnd]
  exact (ne_of_beq_false known).symm

variable {fork} {token : Token} {input : List Token} (suffix : token :: input <:+ fork.front)

include suffix

theorem mem_front : token ∈ fork.front := suffix.subset mem_cons_self

theorem mem_tokens : token ∈ fork.tokens := mem_append_left _ (mem_front suffix)

theorem suffix_tail : input <:+ fork.front := (suffix_cons token input).trans suffix

end Fork

namespace Agree

variable {fork : Fork ι} {bound taken : Nat}

theorem peek : Agree fork bound 0 fun _ => Parser.peek := by
  apply of_next
  · intro _
    exact .stay [] fork.finish
  · intro token input _ _
    exact .stay (token :: input) token

theorem check (kind : TokenKind) : Agree fork bound 0 fun _ => Parser.check kind :=
  peek.bind fun _ => pure _

theorem atEnd : Agree fork bound 0 fun _ => Parser.atEnd :=
  peek.bind fun _ => pure _

/-- What goes on after a token was taken or not. -/
theorem accept_bind {kind : TokenKind} (known : kind.Known) {next : ι → Bool → Parser α}
    (yes : Agree fork (bound - 1) (taken - 1) (next · true))
    (no : Agree fork bound taken (next · false)) :
    Agree fork bound taken fun way => accept kind >>= next way := by
  apply of_next
  · intro positive
    have other := fork.finish_kind_ne known
    exact (no [] nil_suffix positive).of_eq fun _ => bind_of_ok (accept_of_ne known other _)
  · intro token input suffix short
    by_cases same : token.kind = kind
    · have alike := (yes input (Fork.suffix_tail suffix) (by omega)).after
        (suffix_cons token input) (Nat.le_refl _)
      exact (alike.weaken (by omega)).of_eq fun _ => bind_of_ok (accept_of_eq known same _)
    · exact (no (token :: input) suffix short).of_eq fun _ =>
        bind_of_ok (accept_of_ne known same _)

theorem consume {kind : TokenKind} (known : kind.Known) (message : String) :
    Agree fork bound 1 fun _ => Parser.consume kind message := by
  apply of_next
  · intro _
    exact .miscast fork.finish_mem rfl fun _ => consume_of_ne known (fork.finish_kind_ne known) _ _
  · intro token input suffix _
    by_cases same : token.kind = kind
    · exact (Alike.take token input token).of_eq fun _ => consume_of_eq known same _ _
    · exact .miscast (Fork.mem_tokens suffix) rfl fun _ => consume_of_ne known same _ _

/-- What goes on after a word that tells nothing. -/
theorem past {kind : TokenKind} {message : String} (known : kind.Known)
    {next : ι → Unit → Parser α} (further : ∀ res, Agree fork bound taken (next · res)) :
    Agree fork bound taken fun way =>
      Functor.discard (Parser.consume kind message) >>= next way :=
  (consume known message).discard.lax.bind further

theorem skipNewlines : Agree fork bound 0 fun _ => Parser.skipNewlines := by
  intro input suffix short
  have other : fork.finish.kind ≠ .newline := fork.finish_kind_ne rfl
  have skipped (way : ι) : (fork.on way input).dropWhile (·.kind == .newline) =
      fork.on way (input.dropWhile (·.kind == .newline)) := by
    clear suffix short
    unfold Fork.on
    induction input with
    | nil => simp [other]
    | cons token input ih => by_cases feed : token.kind = .newline <;> simp [feed, ih]
  have rest := dropWhile_suffix (l := input) (·.kind == .newline)
  have alike := (@peek ι fork bound).discard _ (rest.trans suffix)
    (Nat.lt_of_le_of_lt rest.length_le short)
  exact (alike.after rest rest.length_le).of_eq fun way =>
    (skipNewlines_eq _).trans (by rw [skipped])

end Agree

/-- The next token is taken where it is known that there is one. -/
theorem Alike.drop {fork : Fork ι} {bound : Nat} {parser : ι → Parser α} {token : Token}
    {input : List Token} (suffix : token :: input <:+ fork.front) (short : input.length + 1 < bound)
    (further : Agree fork (bound - 1) 0 parser) :
    Alike fork 1 (token :: input) fun way =>
      (Parser.drop >>= fun _ => parser way) (token :: fork.on way input) :=
  ((further input (Fork.suffix_tail suffix) (by omega)).after (suffix_cons token input)
    (Nat.le_refl _)).of_eq fun _ => drop_then

/-! ## Budgets -/

/-- Room for so many tokens in all budgets. -/
def Room (bound : Nat) (budget : ι → Nat) : Prop := ∀ way, bound ≤ budget way

namespace Room

variable {bound below : Nat} {budget : ι → Nat} (room : Room bound budget)

include room

theorem mono (below_le : below ≤ bound) : Room below budget :=
  fun way => Nat.le_trans below_le (room way)

theorem lower : Room (bound - 1) budget := room.mono (Nat.sub_le _ _)

end Room

namespace Agree

variable {fork : Fork ι} {bound taken : Nat} {budget : ι → Nat}

/--
Loops agree if each round does, given that the next ones do with one token less.  A loop without a
budget for its first round has no token to read.
-/
theorem rounds (loop : ι → Nat → β → Parser α)
    (round : ∀ {below : Nat} {budget : ι → Nat}, below ≤ bound →
      Room below (budget · + 1) →
      (∀ given, Agree fork (below - 1) taken fun way => loop way (budget way) given) →
      ∀ given, Agree fork below taken fun way => loop way (budget way + 1) given)
    (room : Room bound budget) (given : β) :
    Agree fork bound taken fun way => loop way (budget way) given := by
  -- The induction is on the number of tokens, up to the bound.
  have all (below : Nat) : below ≤ bound → ∀ {budget}, Room below budget → ∀ given,
      Agree fork below taken fun way => loop way (budget way) given := by
    induction below with
    | zero => exact fun _ _ _ _ => zero _ _
    | succ below ih =>
      intro below_le budget room
      obtain ⟨less, rfl⟩ : ∃ less : ι → Nat, budget = (less · + 1) :=
        ⟨(budget · - 1), funext fun way => (Nat.sub_add_cancel (by have := room way; omega)).symm⟩
      exact round below_le room
        (ih (Nat.le_of_succ_le below_le) fun way => Nat.le_of_succ_le_succ (room way))
  exact all bound (Nat.le_refl _) room given

/-- The same for loops that carry nothing from round to round. -/
theorem levels (loop : ι → Nat → Parser α)
    (level : ∀ {below : Nat} {budget : ι → Nat}, below ≤ bound →
      Room below (budget · + 1) →
      Agree fork (below - 1) taken (fun way => loop way (budget way)) →
      Agree fork below taken fun way => loop way (budget way + 1))
    (room : Room bound budget) : Agree fork bound taken fun way => loop way (budget way) :=
  rounds (fun way budget (_ : Unit) => loop way budget)
    (fun below_le room further _ => level below_le room (further ())) room ()

end Agree

/-! ## Numbers after `potion` -/

theorem floatOfInteger_eq_error {int : Int} {fault : Fault}
    (failed : Number.floatOfInteger int = .error fault) : fault = .integerTooLarge := by
  unfold Number.floatOfInteger at failed
  split at failed
  · cases failed
  · cases failed
    rfl

theorem potionLiteral_of_other {token : Token} (notFloat : token.kind ≠ .float)
    (notInteger : token.kind ≠ .integer) (place : Place) (rest : List Token) :
    potionLiteral place (token :: rest) =
      .error (.caused (.expected "Expected number after 'potion'") token.place) := by
  unfold potionLiteral
  rw [bind_of_ok (check_cons rfl token rest), decide_eq_false notFloat]
  exact bind_of_error (consume_of_ne rfl notInteger _ rest)

/-- After `potion`, a number is read or missed, unless it is too large. -/
theorem Alike.potionLiteral {fork : Fork ι} {word : Token} {input : List Token}
    (suffix : word :: input <:+ fork.front) (isPotion : word.kind = .potion) (place : Place) :
    Alike fork 0 input fun way => Parser.potionLiteral place (fork.on way input) := by
  cases input with
  | nil =>
    exact .miscast fork.finish_mem rfl fun _ =>
      potionLiteral_of_other (fork.finish_kind_ne rfl) (fork.finish_kind_ne rfl) place _
  | cons num input =>
    have after := Fork.suffix_tail suffix
    have shaped := fork.shaped num (Fork.mem_front after)
    have read (res : Node) (ended : ι → Except Trouble (Node × List Token))
        (same : ∀ way, ended way = .ok (res, fork.on way input)) :
        Alike fork 0 (num :: input) ended :=
      ((Alike.take num input res).weaken (Nat.zero_le _)).of_eq same
    by_cases isFloat : num.kind = .float
    · obtain ⟨value, birth, carried⟩ := shaped.float isFloat
      have literal (way : ι) := Grammar.potionLiteral_of_number (Or.inl isFloat) place
        (fork.on way input)
      rw [carried] at literal
      exact read _ _ literal
    by_cases isInteger : num.kind = .integer
    · obtain ⟨int, carried⟩ := shaped.integer isInteger
      have literal (way : ι) := Grammar.potionLiteral_of_number (Or.inr isInteger) place
        (fork.on way input)
      simp only [carried, Grammar.potionConversion, Value.toFloat] at literal
      cases converted : Number.floatOfInteger int with
      | ok value =>
        simp only [converted] at literal
        exact read _ _ literal
      | error fault =>
        cases floatOfInteger_eq_error converted
        obtain ⟨before, parts⟩ := suffix
        have whole : fork.tokens = before ++ word :: num :: (input ++ [fork.finish]) := by
          rw [Fork.tokens, ← parts, append_assoc]
          rfl
        simp only [converted] at literal
        exact .error (.overflow whole isPotion isInteger carried converted) literal
    · exact .miscast (Fork.mem_tokens after) rfl fun _ =>
        potionLiteral_of_other isFloat isInteger place _

/-! ## Lists in brackets -/

namespace Agree

variable {fork : Fork ι} {bound : Nat} {budget outer : ι → Nat}

section Lists

variable {item : ι → Parser α} (items : Agree fork bound 1 item) (room : Room bound budget)

include items room

theorem commaSeparated (closer : Option TokenKind) :
    Agree fork bound 1 fun way => Parser.commaSeparated (item way) closer (budget way) := by
  refine levels (fun way => Parser.commaSeparated (item way) closer) ?_ room
  intro below budget below_le _ further
  unfold Parser.commaSeparated
  refine (items.mono below_le (Nat.le_refl _)).step fun first => accept_bind rfl ?_ (pure _)
  have goesOn (closed : Bool) : Agree fork (below - 1 - 1) 0 fun way =>
      if closed then Pure.pure [first]
      else do return first :: (← Parser.commaSeparated (item way) closer (budget way)) :=
    ite (pure _) (further.lower.lax.bind fun others => pure _)
  cases closer with
  | none => exact (pure false).bind goesOn
  | some kind => exact (check kind).bind goesOn

theorem enclosed {closer : TokenKind} (known : closer.Known) (trailingComma : Bool)
    (message : String) :
    Agree fork bound 1 fun way =>
      Parser.enclosed (item way) closer trailingComma (budget way) message := by
  unfold Parser.enclosed
  have closes (found : List α) : Agree fork bound 1 fun _ =>
      do Functor.discard (Parser.consume closer message); return found :=
    (consume known message).discard.step fun _ => pure _
  refine (check closer).bind fun closed => ite ((pure _).bind closes) ?_
  exact (items.commaSeparated room _).lax.bind closes

end Lists

/-! ## Expressions -/

section Literals

variable {inner : ι → Parser Node} (reads : Agree fork bound 1 inner)

include reads

theorem pair : Agree fork bound 1 fun way => Parser.pair (inner way) := by
  unfold Parser.pair
  refine reads.step fun key => past rfl fun _ => ?_
  exact reads.lower.lax.bind fun value => pure _

variable (room : Room bound budget)

include room

theorem listLiteral (place : Place) :
    Agree fork bound 1 fun way => Parser.listLiteral (inner way) (budget way) place := by
  unfold Parser.listLiteral
  exact (reads.enclosed room rfl true _).step fun items => pure _

theorem dictLiteral (place : Place) :
    Agree fork bound 1 fun way => Parser.dictLiteral (inner way) (budget way) place := by
  unfold Parser.dictLiteral
  exact (reads.pair.enclosed room rfl true _).step fun entries => pure _

end Literals

theorem charmLiteral {place : Place} (marked : fork.Marks place) :
    Agree fork bound 1 fun _ => Parser.charmLiteral place := by
  unfold Parser.charmLiteral
  refine accept_bind rfl (pure _) ?_
  exact accept_bind rfl (pure _) (fail rfl marked)

section Joining

variable {operatorOf : TokenKind → Option Operator} (noOperator : operatorOf .endOfFile = none)
  {operand : ι → Parser Node} (reads : Agree fork bound 1 operand) (room : Room bound budget)

include noOperator reads room

theorem joined (left : Node) :
    Agree fork bound 0 fun way =>
      Parser.joined operatorOf (operand way) (budget way) left := by
  refine rounds (fun way => Parser.joined operatorOf (operand way)) ?_ room left
  intro below budget below_le _ further left
  have goesOn (op : Operator) : Agree fork (below - 1) 0 fun way =>
      operand way >>= fun right => Parser.joined operatorOf (operand way) (budget way)
        (.binary left.place left op right) :=
    (reads.mono (by omega) (Nat.zero_le _)).bind fun right => further _
  unfold Parser.joined
  apply of_next
  · intro _
    simp only [peek_then, fork.isEnd, noOperator]
    exact .stay [] left
  · intro token input suffix short
    simp only [peek_then]
    cases operatorOf token.kind with
    | none => exact .stay (token :: input) left
    | some op => exact (Alike.drop suffix short (goesOn op)).weaken (Nat.zero_le _)

theorem leftAssociative :
    Agree fork bound 1 fun way =>
      Parser.leftAssociative operatorOf (operand way) (budget way) := by
  unfold Parser.leftAssociative
  exact reads.step fun left => joined noOperator reads.lower room.lower left

end Joining

section Levels

variable {inner : ι → Parser Node} (reads : Agree fork (bound - 1) 1 inner)
  (room : Room bound budget)

include reads room

theorem primary :
    Agree fork bound 1 fun way => Parser.primary (inner way) (budget way) := by
  unfold Parser.primary
  apply of_next
  · intro _
    simp only [peek_then, fork.isEnd]
    exact .miscast fork.finish_mem rfl fun _ => rfl
  · intro token input suffix short
    have marked : fork.Marks token.place := ⟨token, Fork.mem_tokens suffix, rfl⟩
    simp only [peek_then]
    cases kind : token.kind with
    | integer | float | string | trueWord | falseWord | void | identifier =>
      exact .drop suffix short (pure _)
    | scroll | rune => exact .drop suffix short ((consume rfl _).lax.bind fun _ => pure _)
    | potion =>
      -- What a number after it can do wrong depends on the word, so this is no matter of `Agree`.
      exact ((Alike.potionLiteral suffix kind token.place).after (suffix_cons token input)
        (Nat.le_refl _)).of_eq fun _ => drop_then
    | charm => exact .drop suffix short (charmLiteral marked).lax
    | tome => exact .drop suffix short (past rfl fun _ => (reads.listLiteral room.lower _).lax)
    | grimoire => exact .drop suffix short (past rfl fun _ => (reads.dictLiteral room.lower _).lax)
    | leftBracket => exact .drop suffix short (reads.listLiteral room.lower _).lax
    | leftBrace => exact .drop suffix short (reads.dictLiteral room.lower _).lax
    | leftParen => exact .drop suffix short (reads.lax.bind fun _ => past rfl fun _ => pure _)
    | _ => exact .miscast (Fork.mem_tokens suffix) rfl fun _ => rfl

theorem suffixes (node : Node) :
    Agree fork bound 0 fun way => Parser.suffixes (inner way) (budget way) node := by
  refine rounds (fun way => Parser.suffixes (inner way)) ?_ room node
  intro below budget below_le room further node
  have inside := reads.inside below_le
  unfold Parser.suffixes
  refine accept_bind rfl ?_ (accept_bind rfl ?_ (accept_bind rfl ?_ ?_))
  · exact (inside.enclosed room.lower rfl false _).lax.bind fun args => further _
  · exact inside.lax.bind fun pos => past rfl fun _ => further _
  · exact (consume rfl _).lax.bind fun name => further _
  · exact pure _

theorem postfixed :
    Agree fork bound 1 fun way => Parser.postfixed (inner way) (budget way) := by
  unfold Parser.postfixed
  exact (reads.primary room).step fun node => suffixes reads.lower room.lower node

theorem negated (wide : Room bound outer) :
    Agree fork bound 1 fun way => Parser.negated (inner way) (outer way) (budget way) := by
  refine levels (fun way => Parser.negated (inner way) (outer way)) ?_ room
  intro below budget below_le _ further
  unfold Parser.negated
  refine peek.bind fun token => accept_bind rfl ?_ ?_
  · exact further.lax.bind fun operand => pure _
  · exact (reads.inside below_le).postfixed (wide.mono below_le)

theorem powers (wide : Room bound outer) :
    Agree fork bound 1 fun way => Parser.powers (inner way) (outer way) (budget way) := by
  refine levels (fun way => Parser.powers (inner way) (outer way)) ?_ room
  intro below budget below_le _ further
  have base := (reads.inside below_le).negated (wide.mono below_le) (wide.mono below_le)
  unfold Parser.powers
  refine base.step fun node => accept_bind rfl ?_ (pure _)
  exact further.lower.lax.bind fun exp => pure _

theorem comparisons :
    Agree fork bound 1 fun way => Parser.comparisons (inner way) (budget way) :=
  leftAssociative rfl (leftAssociative rfl (leftAssociative rfl (reads.powers room room) room) room)
    room

theorem denials (wide : Room bound outer) :
    Agree fork bound 1 fun way => Parser.denials (inner way) (outer way) (budget way) := by
  refine levels (fun way => Parser.denials (inner way) (outer way)) ?_ room
  intro below budget below_le _ further
  unfold Parser.denials
  refine peek.bind fun token => accept_bind rfl ?_ ?_
  · exact further.lax.bind fun operand => pure _
  · exact (reads.inside below_le).comparisons (wide.mono below_le)

theorem disjunctions :
    Agree fork bound 1 fun way => Parser.disjunctions (inner way) (budget way) :=
  leftAssociative rfl (leftAssociative rfl (reads.denials room room) room) room

end Levels

/-- An expression is read alike with all budgets that exceed the number of tokens. -/
theorem expression (room : Room bound budget) :
    Agree fork bound 1 fun way => Parser.expression (budget way) :=
  levels (fun _ => Parser.expression) (fun _ room further => further.disjunctions room) room

/-! ## Statements -/

theorem deletion (place : Place) : Agree fork bound 1 fun _ => Parser.deletion place := by
  unfold Parser.deletion
  exact (consume rfl _).step fun name => pure _

section Values

variable {value : ι → Parser Node} (reads : Agree fork bound 1 value)

include reads

theorem declaration (place : Place) :
    Agree fork bound 1 fun way => Parser.declaration (value way) place := by
  have reading := reads.lower.lax
  unfold Parser.declaration
  refine (consume rfl _).step fun name => ?_
  refine past rfl fun _ => of_next ?_ ?_
  · intro positive
    simp only [peek_then, fork.isEnd]
    exact (reading.bind fun node => pure _) [] nil_suffix positive
  · intro token input suffix short
    simp only [peek_then]
    cases isTypeWord token.kind with
    | true =>
      refine (Alike.drop suffix short ?_).weaken (Nat.zero_le _)
      exact reading.lower.bind fun node => pure _
    | false => exact (reading.bind fun node => pure _) (token :: input) suffix short

theorem constantDeclaration (place : Place) :
    Agree fork bound 1 fun way => Parser.constantDeclaration (value way) place := by
  unfold Parser.constantDeclaration
  refine (consume rfl _).discard.step fun _ => ?_
  refine (consume rfl _).lax.bind fun name => past rfl fun _ => ?_
  exact reads.lower.lax.bind fun node => pure _

theorem assignment {place : Place} (marked : fork.Marks place) (room : Room bound budget) :
    Agree fork bound 1 fun way => Parser.assignment (value way) (budget way) place := by
  unfold Parser.assignment
  refine (reads.lower.primary room).step fun target => past rfl fun _ => ?_
  refine reads.lower.lax.bind fun given => ?_
  cases target with
  | identifier | index => exact pure _
  | _ => exact fail rfl marked

theorem castStatement (place : Place) :
    Agree fork bound 0 fun way => Parser.castStatement (value way) place := by
  unfold Parser.castStatement
  refine (check _).bind fun feed => (check _).bind fun closed => ite (pure _) ?_
  exact reads.lax.bind fun node => pure _

end Values

section Blocks

variable {inner : ι → Parser Node} (reads : Agree fork bound 1 inner) (room : Room bound budget)

include reads room

theorem blockBody :
    Agree fork bound 0 fun way => Parser.blockBody (inner way) (budget way) := by
  refine levels (fun way => Parser.blockBody (inner way)) ?_ room
  intro below budget below_le _ further
  unfold Parser.blockBody
  refine (check _).bind fun closed => atEnd.bind fun ended => ite (pure _) ?_
  refine skipNewlines.bind fun _ => (check _).bind fun closed => ite (pure _) ?_
  refine ((reads.mono below_le (Nat.le_refl _)).step fun first => ?_).lax
  exact skipNewlines.bind fun _ => further.bind fun others => pure _

theorem block :
    Agree fork bound 1 fun way => Parser.block (inner way) (budget way) := by
  unfold Parser.block
  refine skipNewlines.bind fun _ => (consume rfl _).discard.step fun _ => ?_
  exact (reads.lower.blockBody room.lower).bind fun nodes => past rfl fun _ => pure _

theorem spellDeclaration (place : Place) (aloud : Bool) :
    Agree fork bound 1 fun way =>
      Parser.spellDeclaration (inner way) (budget way) place aloud := by
  unfold Parser.spellDeclaration
  refine (consume rfl _).step fun name => past rfl fun _ => ?_
  refine ((consume rfl _).enclosed room.lower rfl _ _).lax.bind fun params => ?_
  exact (reads.lower.block room.lower).lax.bind fun nodes => pure _

variable {value : ι → Parser Node} (values : Agree fork bound 1 value)

include values

theorem branches (wide : Room bound outer) :
    Agree fork bound 0 fun way =>
      Parser.branches (value way) (inner way) (outer way) (budget way) := by
  refine levels (fun way => Parser.branches (value way) (inner way) (outer way)) ?_ room
  intro below budget below_le _ further
  have test : Agree fork (below - 1) 0 value := values.mono (by omega) (Nat.zero_le _)
  have body : Agree fork (below - 1) 0 fun way => Parser.block (inner way) (outer way) :=
    (reads.block wide).mono (by omega) (Nat.zero_le _)
  unfold Parser.branches
  refine skipNewlines.bind fun _ => accept_bind rfl ?_ (accept_bind rfl ?_ (pure _))
  · refine past rfl fun _ => test.bind fun cond => ?_
    exact body.bind fun nodes => further.bind fun others => pure _
  · exact past rfl fun _ => body.bind fun nodes => pure _

theorem conditional (place : Place) :
    Agree fork bound 0 fun way =>
      Parser.conditional (value way) (inner way) (budget way) place := by
  unfold Parser.conditional
  refine past rfl fun _ => values.lax.bind fun cond => ?_
  refine (reads.block room).lax.bind fun consequence => ?_
  exact (reads.branches room values room).bind fun others => pure _

theorem patrol (place : Place) :
    Agree fork bound 0 fun way => Parser.patrol (value way) (inner way) (budget way) place := by
  unfold Parser.patrol
  refine past rfl fun _ => values.lax.bind fun cond => ?_
  exact (reads.block room).lax.bind fun nodes => pure _

theorem hunt (place : Place) :
    Agree fork bound 0 fun way => Parser.hunt (value way) (inner way) (budget way) place := by
  unfold Parser.hunt
  refine past rfl fun _ => (consume rfl _).lax.bind fun name => ?_
  refine past rfl fun _ => values.lax.bind fun iterable => ?_
  exact (reads.block room).lax.bind fun nodes => pure _

end Blocks

theorem statementWith {inner : ι → Parser Node} (reads : Agree fork (bound - 1) 1 inner)
    (room : Room bound budget) :
    Agree fork bound 1 fun way => Parser.statementWith (inner way) (budget way) := by
  have values : Agree fork bound 1 fun way => Parser.expression (budget way) := expression room
  have further := values.lower
  unfold Parser.statementWith
  refine skipNewlines.bind fun _ => of_next ?_ ?_
  · intro positive
    simp only [peek_then, fork.isEnd]
    exact (values.step fun node => pure _) [] nil_suffix positive
  · intro token input suffix short
    have marked : fork.Marks token.place := ⟨token, Fork.mem_tokens suffix, rfl⟩
    simp only [peek_then]
    -- The word that a statement starts with is taken, and so all that follows has less to read.
    cases kind : token.kind with
    | conjure | summon => exact .drop suffix short (further.declaration _).lax
    | const => exact .drop suffix short (further.constantDeclaration _).lax
    | transmute => exact .drop suffix short (further.assignment marked room.lower).lax
    | vanquish => exact .drop suffix short (deletion _).lax
    | spell | incantation =>
      exact .drop suffix short (reads.spellDeclaration room.lower _ _).lax
    | cast => exact .drop suffix short (further.castStatement _)
    | prophecy => exact .drop suffix short (reads.conditional room.lower further _)
    | patrol => exact .drop suffix short (reads.patrol room.lower further _)
    | hunt => exact .drop suffix short (reads.hunt room.lower further _)
    | breakWord | continueWord => exact .drop suffix short (pure _)
    | _ => exact (values.step fun node => pure _) (token :: input) suffix short

/-- A statement is read alike with all budgets that exceed the number of tokens. -/
theorem statement (room : Room bound budget) :
    Agree fork bound 1 fun way => Parser.statement (budget way) :=
  levels (fun _ => Parser.statement) (fun _ room further => further.statementWith room) room

theorem statements (wide : Room bound outer) (room : Room bound budget) :
    Agree fork bound 0 fun way => Parser.statements (outer way) (budget way) := by
  refine levels (fun way => Parser.statements (outer way)) ?_ room
  intro below budget below_le _ further
  have reading : Agree fork below 1 fun way => Parser.statement (outer way) :=
    statement (wide.mono below_le)
  unfold Parser.statements
  refine atEnd.bind fun ended => ite (pure _) (skipNewlines.bind fun _ => ?_)
  refine atEnd.bind fun ended => ite (pure _) ?_
  exact (reading.step fun first => further.bind fun others => pure _).lax

end Agree

/-! ## Whole lists -/

/-- The tokens that count: those up to the first end of file, which is the last of them. -/
def upToEnd : List Token → List Token
  | [] => []
  | token :: tokens =>
    if token.kind = .endOfFile then [token] else token :: upToEnd tokens

theorem exists_upToEnd {tokens : List Token} (hasEnd : ∃ token ∈ tokens, token.kind = .endOfFile) :
    ∃ front finish others, tokens = front ++ finish :: others ∧
      upToEnd tokens = front ++ [finish] ∧ finish.kind = .endOfFile := by
  induction tokens with
  | nil =>
    obtain ⟨_, mem, _⟩ := hasEnd
    cases mem
  | cons first tokens ih =>
    by_cases isEnd : first.kind = .endOfFile
    · exact ⟨[], first, tokens, rfl, if_pos isEnd, isEnd⟩
    · have later : ∃ token ∈ tokens, token.kind = .endOfFile := by
        obtain ⟨token, mem, kind⟩ := hasEnd
        rcases mem_cons.mp mem with rfl | mem
        · exact absurd kind isEnd
        · exact ⟨token, mem, kind⟩
      obtain ⟨front, finish, others, rfl, counted, kind⟩ := ih later
      refine ⟨first :: front, finish, others, rfl, ?_, kind⟩
      rw [upToEnd, if_neg isEnd, counted, cons_append]

/-- The tree of all statements, read with the given budgets. -/
def parseWithin (outer budget : Nat) (tokens : List Token) : Except Trouble Node := do
  let (nodes, _) ← (statements outer budget).run tokens
  return .program (.known 0 0) nodes

/-- Budgets and what stands beyond the end of file make no difference to a tree or to a mistake. -/
theorem exists_parseWithin_eq {front : List Token} {finish : Token}
    (isEnd : finish.kind = .endOfFile) (shaped : ∀ token ∈ front, token.IsShaped) :
    ∃ outcome,
      (∀ others outer budget, front.length < outer → front.length < budget →
        parseWithin outer budget (front ++ finish :: others) = outcome) ∧
      ((∃ nodes, outcome = .ok (.program (.known 0 0) nodes)) ∨
        ∃ trouble, outcome = .error trouble ∧ Mistake (front ++ [finish]) trouble) := by
  -- All ways to go on, each with all budgets that have room, are compared at once.
  let Sufficient := { budget : Nat // front.length < budget }
  let fork : Fork (List Token × Sufficient × Sufficient) :=
    { front, finish, beyond := Prod.fst, isEnd, shaped }
  have outer : Room (front.length + 1) fun way : List Token × Sufficient × Sufficient =>
    way.2.1.1 := fun way => way.2.1.2
  have inner : Room (front.length + 1) fun way : List Token × Sufficient × Sufficient =>
    way.2.2.1 := fun way => way.2.2.2
  cases @Agree.statements _ fork _ _ _ outer inner front (suffix_refl _) (Nat.lt_succ_self _) with
  | ok nodes _ _ same =>
    refine ⟨_, fun others outer budget wide enough => ?_, .inl ⟨nodes, rfl⟩⟩
    exact congrArg (· >>= _) (same (others, ⟨outer, wide⟩, ⟨budget, enough⟩))
  | error mistake same =>
    refine ⟨_, fun others outer budget wide enough => ?_, .inr ⟨_, rfl, mistake⟩⟩
    exact congrArg (· >>= _) (same (others, ⟨outer, wide⟩, ⟨budget, enough⟩))

/--
Whatever the tokens are, only those up to the first end of file count, in every budget that has room
for them, and they end in a program or in a mistake made at one of them.
-/
theorem parse_ends_within_tokens {tokens : List Token}
    (hasEnd : ∃ token ∈ tokens, token.kind = .endOfFile)
    (shaped : ∀ token ∈ upToEnd tokens, token.IsShaped) :
    (∀ others, parse (upToEnd tokens ++ others) = parse tokens) ∧
      (∀ outer budget, (upToEnd tokens).length ≤ outer → (upToEnd tokens).length ≤ budget →
        parseWithin outer budget tokens = parse tokens) ∧
      ((∃ nodes, parse tokens = .ok (.program (.known 0 0) nodes)) ∨
        ∃ trouble, parse tokens = .error trouble ∧ Mistake (upToEnd tokens) trouble) := by
  obtain ⟨front, finish, rest, rfl, counted, isEnd⟩ := exists_upToEnd hasEnd
  rw [counted] at shaped ⊢
  have shapedFront (token : Token) (member : token ∈ front) : token.IsShaped :=
    shaped token (mem_append_left _ member)
  rw [length_append, length_singleton]
  obtain ⟨outcome, same, ends⟩ := exists_parseWithin_eq isEnd shapedFront
  have parsed (others : List Token) : parse (front ++ finish :: others) = outcome := by
    have fits : front.length < (front ++ finish :: others).length + 1 := by
      rw [length_append]
      omega
    exact same others _ _ fits fits
  rw [parsed]
  refine ⟨fun others => ?_, fun outer budget => same rest outer budget, ends⟩
  rw [append_assoc, singleton_append, parsed]

/-- A list that ends too early, and beyond its end a closing bracket and a name without a text. -/
def cutShort : List Token :=
  [⟨.cast, .void, 1, 1⟩, ⟨.leftBracket, .void, 1, 6⟩, ⟨.integer, .rune 7, 1, 7⟩,
    ⟨.endOfFile, .void, 1, 8⟩, ⟨.rightBracket, .void, 2, 1⟩, ⟨.identifier, .void, 2, 2⟩]

theorem parse_ends_within_tokens_cutShort :
    (∃ token ∈ cutShort, token.kind = .endOfFile) ∧
      (∀ token ∈ upToEnd cutShort, token.IsShaped) ∧
      (∀ others, parse (upToEnd cutShort ++ others) =
        .error (.caused (.expected "Expected ']' after list elements") (.known 1 8))) ∧
      ∀ outer budget, 4 ≤ outer → 4 ≤ budget → parseWithin outer budget cutShort =
        .error (.caused (.expected "Expected ']' after list elements") (.known 1 8)) := by
  have hasEnd : ∃ token ∈ cutShort, token.kind = .endOfFile :=
    ⟨⟨.endOfFile, .void, 1, 8⟩, by simp [cutShort], rfl⟩
  have shaped : ∀ token ∈ upToEnd cutShort, token.IsShaped := by
    intro token member
    simp only [upToEnd, cutShort, reduceCtorEq, if_false, if_true, mem_cons,
      not_mem_nil, or_false] at member
    rcases member with rfl | rfl | rfl | rfl
    all_goals constructor <;> simp
  obtain ⟨beyond, within, -⟩ := parse_ends_within_tokens hasEnd shaped
  exact ⟨hasEnd, shaped, beyond, within⟩

end Parser

end Spellbook
