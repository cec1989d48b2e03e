import Spellbook.Node.Parser

/-!
# What the primitive parsers do

For most primitives there are two statements. One computes it on an input whose first token is
known; it serves to follow a parser along tokens that are given. The other says what an input on
which it succeeded looks like; it serves to find out what a parser has read.
-/

namespace Spellbook

/-- The kind can be asked for.  By `rfl` so can every kind but that of the end of file. -/
abbrev TokenKind.Known (kind : TokenKind) : Prop := (kind == .endOfFile) = false

namespace Parser

variable {input rest output : List Token} {found : Unit} {token : Token} {kind : TokenKind}

variable {α β : Type}

/-! ## Sequences of parsers -/

theorem bind_of_ok {first : Parser α} {next : α → Parser β} {result : α}
    (read : first input = .ok (result, rest)) :
    (first >>= next) input = next result rest := by
  change StateT.bind first next input = _
  simp only [StateT.bind, bind, Except.bind, read]

theorem bind_of_error {first : Parser α} {next : α → Parser β} {trouble : Trouble}
    (failed : first input = .error trouble) :
    (first >>= next) input = .error trouble := by
  change StateT.bind first next input = _
  simp only [StateT.bind, bind, Except.bind, failed]

theorem bind_eq_ok {first : Parser α} {next : α → Parser β} {result : β} :
    (first >>= next) input = .ok (result, output) ↔ ∃ middle rest,
        first input = .ok (middle, rest) ∧ next middle rest = .ok (result, output) := by
  change StateT.bind first next input = _ ↔ _
  simp only [StateT.bind, bind, Except.bind]
  cases first input with
  | error failure => simp
  | ok pair =>
    obtain ⟨middle, rest⟩ := pair
    constructor
    · intro read
      exact ⟨middle, rest, rfl, read⟩
    · rintro ⟨found, others, equal, read⟩
      cases equal
      exact read

theorem pure_eq_ok {result found : α} :
    (pure result : Parser α) input = .ok (found, output) ↔ result = found ∧ input = output := by
  change Except.ok (result, input) = _ ↔ _
  simp

theorem bind_pure_eq_ok {first : Parser α} {make : α → β} {result : β} :
    (first >>= fun found => pure (make found)) input = .ok (result, output) ↔
      ∃ found, first input = .ok (found, output) ∧ make found = result := by
  simp only [bind_eq_ok, pure_eq_ok]
  grind

theorem discard_of_ok {parser : Parser α} {result : α} (read : parser input = .ok (result, rest)) :
    (discard parser) input = .ok ((), rest) := by
  change StateT.map _ parser input = _
  simp only [StateT.map, bind, Except.bind, read]
  rfl

theorem discard_eq_ok {parser : Parser α} :
    (discard parser) input = .ok (found, output) ↔
      ∃ result, parser input = .ok (result, output) := by
  change StateT.map _ parser input = _ ↔ _
  simp only [StateT.map, bind, Except.bind]
  cases parser input with
  | error failure => simp
  | ok pair =>
    obtain ⟨result, rest⟩ := pair
    change Except.ok ((), rest) = _ ↔ _
    simp

theorem exhausted_ne_ok {result : α} : (exhausted : Parser α) input ≠ .ok (result, output) := by
  intro equal
  cases equal

theorem fail_ne_ok {cause : Cause} {place : Place} {result : α} :
    (fail cause place : Parser α) input ≠ .ok (result, output) := by
  intro equal
  cases equal

/-! ## Looking at the next token -/

@[simp]
theorem peek_cons (token : Token) (rest : List Token) :
    peek (token :: rest) = .ok (token, token :: rest) := rfl

theorem peek_eq_ok :
    peek input = .ok (token, output) ↔ ∃ rest, input = token :: rest ∧ output = token :: rest := by
  cases input with
  | nil =>
    constructor
    · intro equal
      cases equal
    · rintro ⟨rest, impossible, -⟩
      cases impossible
  | cons first rest =>
    rw [peek_cons]
    constructor
    · intro equal
      cases equal
      exact ⟨rest, rfl, rfl⟩
    · rintro ⟨others, equal, rfl⟩
      cases equal
      rfl

@[simp]
theorem drop_cons (token : Token) (rest : List Token) : drop (token :: rest) = .ok ((), rest) := rfl

@[simp]
theorem atEnd_cons (token : Token) (rest : List Token) :
    atEnd (token :: rest) = .ok (token.kind == .endOfFile, token :: rest) := rfl

theorem check_cons (known : kind.Known) (token : Token) (rest : List Token) :
    check kind (token :: rest) = .ok (decide (token.kind = kind), token :: rest) := by
  change Except.ok (token.kind != .endOfFile && token.kind == kind, _) = _
  have equal : (token.kind != .endOfFile && token.kind == kind) =
      decide (token.kind = kind) := by
    by_cases same : token.kind = kind
    · simp [same, ne_of_beq_false known]
    · simp [same]
  rw [equal]

/-! ## Taking the next token -/

theorem accept_of_eq (known : kind.Known) (same : token.kind = kind) (rest : List Token) :
    accept kind (token :: rest) = .ok (true, rest) := by
  unfold accept
  rw [bind_of_ok (check_cons known token rest), decide_eq_true same]
  rfl

theorem accept_of_ne (known : kind.Known) (differ : token.kind ≠ kind) (rest : List Token) :
    accept kind (token :: rest) = .ok (false, token :: rest) := by
  unfold accept
  rw [bind_of_ok (check_cons known token rest), decide_eq_false differ]
  rfl

theorem consume_of_eq (known : kind.Known) (same : token.kind = kind) (msg : String)
    (rest : List Token) :
    consume kind msg (token :: rest) = .ok (token, rest) := by
  unfold consume
  rw [bind_of_ok (peek_cons token rest),
    bind_of_ok (check_cons known token rest), decide_eq_true same]
  rfl

theorem consume_of_ne (known : kind.Known) (differ : token.kind ≠ kind) (msg : String)
    (rest : List Token) :
    consume kind msg (token :: rest) = .error (.caused (.expected msg) token.place) := by
  unfold consume
  rw [bind_of_ok (peek_cons token rest),
    bind_of_ok (check_cons known token rest), decide_eq_false differ]
  rfl

theorem consume_eq_ok (known : kind.Known) {msg : String}
    (read : consume kind msg input = .ok (token, output)) :
    input = token :: output ∧ token.kind = kind := by
  cases input with
  | nil => cases read
  | cons first rest =>
    by_cases same : first.kind = kind
    · rw [consume_of_eq known same] at read
      cases read
      exact ⟨rfl, same⟩
    · rw [consume_of_ne known same] at read
      cases read

/-! ## Along given tokens -/

section Along

variable {next : Token → Parser α} {yes no : Parser α} {first : Unit → Parser α} {msg : String}
  {result : α}

theorem peek_then : (peek >>= next) (token :: rest) = next token (token :: rest) :=
  bind_of_ok (peek_cons token rest)

theorem drop_then : (drop >>= first) (token :: rest) = first () rest :=
  bind_of_ok (drop_cons token rest)

theorem check_then (same : token.kind = kind) (known : kind.Known) :
    (check kind >>= fun found => if found then yes else no) (token :: rest) =
      yes (token :: rest) := by
  rw [bind_of_ok (check_cons known token rest), decide_eq_true same, if_pos rfl]

theorem check_else (differ : token.kind ≠ kind) (known : kind.Known) :
    (check kind >>= fun found => if found then yes else no) (token :: rest) =
      no (token :: rest) := by
  rw [bind_of_ok (check_cons known token rest), decide_eq_false differ]
  rfl

theorem consume_then (same : token.kind = kind) (known : kind.Known) :
    (consume kind msg >>= next) (token :: rest) = next token rest :=
  bind_of_ok (consume_of_eq known same msg rest)

theorem discard_then (same : token.kind = kind) (known : kind.Known) :
    (discard (consume kind msg) >>= first) (token :: rest) = first () rest :=
  bind_of_ok (discard_of_ok (consume_of_eq known same msg rest))

theorem accept_then (same : token.kind = kind) (known : kind.Known) :
    (accept kind >>= fun found => if found then yes else no) (token :: rest) = yes rest :=
  bind_of_ok (accept_of_eq known same rest)

theorem accept_else (differ : token.kind ≠ kind) (known : kind.Known) :
    (accept kind >>= fun found => if found then yes else no) (token :: rest) = no (token :: rest) :=
  bind_of_ok (accept_of_ne known differ rest)

theorem of_peek (read : (peek >>= next) input = .ok (result, output)) :
    ∃ token rest, input = token :: rest ∧ next token (token :: rest) = .ok (result, output) := by
  obtain ⟨token, _, peeked, more⟩ := bind_eq_ok.mp read
  obtain ⟨rest, rfl, rfl⟩ := peek_eq_ok.mp peeked
  exact ⟨token, rest, rfl, more⟩

theorem of_consume (read : (consume kind msg >>= next) input = .ok (result, output))
    (known : kind.Known) :
    ∃ token rest, input = token :: rest ∧ token.kind = kind ∧
      next token rest = .ok (result, output) := by
  obtain ⟨token, rest, consumed, more⟩ := bind_eq_ok.mp read
  obtain ⟨rfl, isKind⟩ := consume_eq_ok known consumed
  exact ⟨token, rest, rfl, isKind, more⟩

theorem of_discard (read : (discard (consume kind msg) >>= first) input = .ok (result, output))
    (known : kind.Known) :
    ∃ token rest, input = token :: rest ∧ token.kind = kind ∧
      first () rest = .ok (result, output) := by
  obtain ⟨_, rest, discarded, more⟩ := bind_eq_ok.mp read
  obtain ⟨token, consumed⟩ := discard_eq_ok.mp discarded
  obtain ⟨rfl, isKind⟩ := consume_eq_ok known consumed
  exact ⟨token, rest, rfl, isKind, more⟩

theorem of_check
    (read : (check kind >>= fun found => if found then yes else no) input = .ok (result, output))
    (known : kind.Known) :
    ∃ token rest, input = token :: rest ∧
      (token.kind = kind ∧ yes (token :: rest) = .ok (result, output) ∨
        token.kind ≠ kind ∧ no (token :: rest) = .ok (result, output)) := by
  cases input with
  | nil => cases read
  | cons token rest =>
    refine ⟨token, rest, rfl, ?_⟩
    by_cases same : token.kind = kind
    · rw [check_then same known] at read
      exact Or.inl ⟨same, read⟩
    · rw [check_else same known] at read
      exact Or.inr ⟨same, read⟩

theorem of_accept
    (read : (accept kind >>= fun found => if found then yes else no) input = .ok (result, output))
    (known : kind.Known) :
    ∃ token rest, input = token :: rest ∧
      (token.kind = kind ∧ yes rest = .ok (result, output) ∨
        token.kind ≠ kind ∧ no (token :: rest) = .ok (result, output)) := by
  cases input with
  | nil => cases read
  | cons token rest =>
    refine ⟨token, rest, rfl, ?_⟩
    by_cases same : token.kind = kind
    · rw [accept_then same known] at read
      exact Or.inl ⟨same, read⟩
    · rw [accept_else same known] at read
      exact Or.inr ⟨same, read⟩

end Along

/-! ## Line feeds -/

def LineFeeds (tokens : List Token) : Prop :=
  ∀ token ∈ tokens, token.kind = .newline

theorem LineFeeds.nil : LineFeeds [] := by
  intro token mem
  cases mem

theorem LineFeeds.append {first second : List Token}
    (firstFeeds : LineFeeds first) (secondFeeds : LineFeeds second) :
    LineFeeds (first ++ second) := by
  intro token mem
  rcases List.mem_append.mp mem with early | late
  · exact firstFeeds token early
  · exact secondFeeds token late

theorem LineFeeds.tail {tokens : List Token} (feeds : LineFeeds (token :: tokens)) :
    LineFeeds tokens := by
  intro other mem
  exact feeds other (List.mem_cons_of_mem token mem)

/-- Line feeds are skipped at once; then a token has to follow. -/
theorem skipNewlines_eq (input : List Token) :
    skipNewlines input = (discard peek : Parser Unit) (input.dropWhile (·.kind == .newline)) := rfl

theorem skipNewlines_append {lines : List Token} (feeds : LineFeeds lines)
    (other : token.kind ≠ .newline) (rest : List Token) :
    skipNewlines (lines ++ token :: rest) = .ok ((), token :: rest) := by
  have dropped : (lines ++ token :: rest).dropWhile (·.kind == .newline) =
      token :: rest := by
    rw [List.dropWhile_append_of_pos]
    · simp [other]
    · intro line mem
      simp [feeds line mem]
  rw [skipNewlines_eq, dropped]
  exact discard_of_ok (peek_cons token rest)

theorem skipNewlines_cons (other : token.kind ≠ .newline) (rest : List Token) :
    skipNewlines (token :: rest) = .ok ((), token :: rest) :=
  skipNewlines_append LineFeeds.nil other rest

theorem skipNewlines_eq_ok (read : skipNewlines input = .ok (found, output)) : ∃ lines token rest,
      input = lines ++ token :: rest ∧ LineFeeds lines ∧
        token.kind ≠ .newline ∧ output = token :: rest := by
  induction input with
  | nil => cases read
  | cons first others ih =>
    by_cases feed : first.kind = .newline
    · have same : (first :: others).dropWhile (·.kind == .newline) =
          others.dropWhile (·.kind == .newline) := by
        simp [feed]
      have shorter : skipNewlines others = .ok (found, output) := by
        rw [← read, skipNewlines_eq, skipNewlines_eq, same]
      obtain ⟨lines, token, rest, rfl, feeds, other, rfl⟩ := ih shorter
      refine ⟨first :: lines, token, rest, rfl, ?_, other, rfl⟩
      exact List.forall_mem_cons.mpr ⟨feed, feeds⟩
    · rw [skipNewlines_cons feed] at read
      cases read
      exact ⟨[], first, others, rfl, LineFeeds.nil, feed, rfl⟩

theorem of_skip {next : Unit → Parser α} {result : α}
    (read : (skipNewlines >>= next) input = .ok (result, output)) :
    ∃ lines token rest, input = lines ++ token :: rest ∧ LineFeeds lines ∧
      token.kind ≠ .newline ∧ next () (token :: rest) = .ok (result, output) := by
  obtain ⟨_, _, skipped, more⟩ := bind_eq_ok.mp read
  obtain ⟨lines, token, rest, rfl, feeds, other, rfl⟩ := skipNewlines_eq_ok skipped
  exact ⟨lines, token, rest, rfl, feeds, other, more⟩

end Parser

end Spellbook
