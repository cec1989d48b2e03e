import Spellbook.Proofs.Grammar.Leading
import Spellbook.Proofs.Lexing.Spelling
import Spellbook.Proofs.LineByLine

/-!
# Words for types in declarations

After the `as` of a declaration a word for a type is a hint: what follows is any expression.
Anywhere else, and so in parentheses, it belongs to the literal behind it, which it has to announce
and which `potion` converts. So the two ways are both read exactly if the phrase is an expression
that begins with a literal which the word announces.
-/

namespace Spellbook

open List TokenKind Grammar Token

/-! ## The values of literals -/

namespace Lexeme

/-- The value of a literal is of the type that the kind tells. -/
structure Typed (lexeme : Lexeme) : Prop where
  text : lexeme.kind = .string → ∃ text, lexeme.value = .scroll text
  integer : lexeme.kind = .integer → ∃ integer, lexeme.value = .rune integer
  float : lexeme.kind = .float → ∃ number, lexeme.value = .potion number 0

/-- A lexeme of another kind is no literal with a value. -/
theorem Typed.of_ne {lexeme : Lexeme} (notString : lexeme.kind ≠ .string)
    (notInteger : lexeme.kind ≠ .integer) (notFloat : lexeme.kind ≠ .float) : lexeme.Typed :=
  ⟨fun isString => (notString isString).elim, fun isInteger => (notInteger isInteger).elim,
    fun isFloat => (notFloat isFloat).elim⟩

theorem Spellable.typed {lexeme : Lexeme} (spellable : lexeme.Spellable) : lexeme.Typed := by
  cases spellable with
  | integer short => exact ⟨by rintro ⟨⟩, fun _ => ⟨_, rfl⟩, by rintro ⟨⟩⟩
  | string text => exact ⟨fun _ => ⟨text, rfl⟩, by rintro ⟨⟩, by rintro ⟨⟩⟩
  | @keyword word kind known =>
    have others : (keywords.all fun entry =>
        entry.2 != .string && entry.2 != .integer && entry.2 != .float) = true := by decide
    have other := all_eq_true.mp others _ (TokenKind.mem_of_lookup known)
    simp only [Bool.and_eq_true, bne_iff_ne] at other
    exact .of_ne other.1.1 other.1.2 other.2
  | identifier starts continues free =>
    exact .of_ne (by rintro ⟨⟩) (by rintro ⟨⟩) (by rintro ⟨⟩)
  | @sign char kind known =>
    unfold ofSign? at known
    split at known <;> cases known <;>
      exact .of_ne (by rintro ⟨⟩) (by rintro ⟨⟩) (by rintro ⟨⟩)
  | power => exact .of_ne (by rintro ⟨⟩) (by rintro ⟨⟩) (by rintro ⟨⟩)
  | lineFeed => exact .of_ne (by rintro ⟨⟩) (by rintro ⟨⟩) (by rintro ⟨⟩)

end Lexeme

namespace Token

theorem kind_of_scanInteger {start finish last : Cursor} {digits : List Char} {token : Token}
    (read : scanNumber.integer start digits finish = .ok (token, last)) :
    token.kind = .integer := by
  unfold scanNumber.integer at read
  split at read
  · cases read
    rfl
  · cases read

theorem typed_of_scanNumber {start finish : Cursor} {token : Token}
    (read : scanNumber start = .ok (token, finish)) : token.lexeme.Typed := by
  rcases spellable_of_scanNumber read with isFloat | spellable
  · simp only [scanNumber, Cursor.takeWhile, Cursor.after] at read
    split at read
    case h_1 digit others equal =>
      split at read
      · split at read
        · cases read
          exact ⟨by rintro ⟨⟩, by rintro ⟨⟩, fun _ => ⟨_, rfl⟩⟩
        · cases read
      · rw [kind_of_scanInteger read] at isFloat
        cases isFloat
    case h_2 =>
      rw [kind_of_scanInteger read] at isFloat
      cases isFloat
  · exact spellable.typed

/-- Every lexeme that a text divides into is of the type that its kind tells. -/
theorem Divided.typed {text : List Char} {lexemes : List Lexeme} (divided : Divided text lexemes) :
    ∀ lexeme ∈ lexemes, lexeme.Typed := by
  induction divided with
  | done =>
    intro lexeme mem
    cases mem
  | skip stands skipped others ih => exact ih
  | take stands taken others ih =>
    refine forall_mem_cons.mpr ⟨?_, ih⟩
    rcases number_or_spellable_of_next stands taken with ⟨last, scanned⟩ | spellable
    · exact typed_of_scanNumber scanned
    · exact spellable.typed

theorem typed_of_scan {source : String} {tokens : List Token}
    (scanned : scan source = .ok tokens) : ∀ token ∈ tokens, token.lexeme.Typed := by
  obtain ⟨lexemes, divided, same⟩ := scan_eq_ok scanned
  intro token mem
  have inside : token.lexeme ∈ visible 0 lexemes ++ [finale] := by
    rw [← same]
    exact mem_map_of_mem mem
  rcases mem_append.mp inside with seen | last
  · exact divided.typed _ (visible_subset 0 lexemes seen)
  · rw [mem_singleton.mp last]
    exact .of_ne (by decide) (by decide) (by decide)

end Token

/-! ## Reading declarations -/

/-- The beginning of a declaration, up to `as`. -/
structure Heading where
  verb : Token
  name : Token
  preposition : Token
  isVerb : verb.kind = .conjure ∨ verb.kind = .summon
  isName : name.kind = .identifier
  isAs : preposition.kind = .asWord

namespace Heading

variable (heading : Heading) {tokens : List Token} {finish word : Token} {node tree : Node}

def before (tokens : List Token) : List Token :=
  heading.verb :: heading.name :: heading.preposition :: tokens

/-- An expression in parentheses has no hint. -/
theorem parse_grouped {opening closing : Token} (isOpening : opening.kind = .leftParen)
    (valued : Expresses .disjunction tokens node) (isClosing : closing.kind = .rightParen)
    (isEnd : finish.kind = .endOfFile) :
    Parser.parse (heading.before (opening :: (tokens ++ [closing, finish]))) =
      .ok (.program (.known 0 0)
        [.declaration heading.verb.place heading.name.text node none false]) := by
  have grouped : Expresses .disjunction (opening :: (tokens ++ [closing])) node :=
    .loosenTo (by decide) (.group isOpening valued isClosing)
  have untyped : ∀ token ∈ (opening :: (tokens ++ [closing])).head?,
      Parser.isTypeWord token.kind = false := by
    intro token first
    obtain rfl := Option.some.inj first
    rw [isOpening]
    rfl
  have states := States.declaration heading.isVerb heading.isName heading.isAs untyped grouped
  have read := states.parses isEnd rfl
  rw [← read]
  simp only [before, cons_append, append_assoc, nil_append]

/-- Behind `as` a declaration that is read has an expression, unless it has a hint. -/
theorem expression_of_parse {opening : Token} (untyped : Parser.isTypeWord opening.kind = false)
    (read : Parser.parse (heading.before (opening :: tokens)) = .ok tree) :
    ∃ value rest node, value ++ rest = opening :: tokens ∧ Expresses .disjunction value node := by
  have notFeed : heading.verb.kind ≠ .newline := by
    rcases heading.isVerb with isVerb | isVerb <;> rw [isVerb] <;> decide
  have notEnd : heading.verb.kind ≠ .endOfFile := by
    rcases heading.isVerb with isVerb | isVerb <;> rw [isVerb] <;> decide
  rw [Parser.parse] at read
  obtain ⟨⟨nodes, left⟩, stated, -⟩ := except_bind_eq_ok.mp read
  change Parser.statements _ _ (heading.before (opening :: tokens)) = .ok (nodes, left) at stated
  rw [before, statements_of_begins _ _ notFeed notEnd] at stated
  obtain ⟨first, middle, declared, -⟩ := Parser.bind_eq_ok.mp stated
  rw [statement_of_verb heading.isVerb, Parser.declaration,
    Parser.bind_of_ok (Parser.consume_of_eq rfl heading.isName _ _),
    Parser.bind_of_ok (Parser.discard_of_ok (Parser.consume_of_eq rfl heading.isAs _ _)),
    Parser.bind_of_ok (Parser.peek_cons opening tokens)] at declared
  simp only [untyped, Bool.false_eq_true, if_false] at declared
  obtain ⟨node, after, valued, -⟩ := Parser.bind_eq_ok.mp declared
  obtain ⟨value, next, rest, equal, -, expresses, -⟩ := Parser.expression_sound valued
  exact ⟨value, next :: rest, node, equal.symm, expresses⟩

end Heading

/--
Two sources: one declares a variable with a word for a type before a phrase, the other one with the
word and the same phrase in parentheses.
-/
structure Renditions (plain grouped : String) where
  heading : Heading
  word : Token
  phrase : List Token
  finish : Token
  isType : Parser.isTypeWord word.kind = true
  isEnd : finish.kind = .endOfFile
  scanned : Token.scan plain = .ok (heading.before (word :: (phrase ++ [finish])))
  otherHeading : Heading
  opening : Token
  otherWord : Token
  otherPhrase : List Token
  closing : Token
  otherFinish : Token
  isOpening : opening.kind = .leftParen
  isClosing : closing.kind = .rightParen
  otherIsEnd : otherFinish.kind = .endOfFile
  otherScanned : Token.scan grouped = .ok
    (otherHeading.before (opening :: (otherWord :: otherPhrase ++ [closing, otherFinish])))
  sameName : otherHeading.name.lexeme = heading.name.lexeme
  sameWord : otherWord.lexeme = word.lexeme
  samePhrase : otherPhrase.map Token.lexeme = phrase.map Token.lexeme

namespace Renditions

variable {plain grouped : String} (both : Renditions plain grouped) {node tree tree' : Node}

/-- The declaration with a hint is read if the phrase is an expression. -/
theorem read_plain (valued : Expresses .disjunction both.phrase node) :
    readSource plain = .ok (.program (.known 0 0)
      [.declaration both.heading.verb.place both.heading.name.text node both.word.hint false]) :=
  have states := States.typedDeclaration both.heading.isVerb both.heading.isName
    both.heading.isAs both.isType valued
  except_bind_eq_ok.mpr ⟨_, both.scanned, states.parses both.isEnd rfl⟩

/-- The other one is read if the word and the phrase are an expression. -/
theorem read_grouped (valued : Expresses .disjunction (both.otherWord :: both.otherPhrase) node) :
    readSource grouped = .ok (.program (.known 0 0)
      [.declaration both.otherHeading.verb.place both.heading.name.text node none false]) := by
  rw [← text_of_lexeme both.sameName]
  exact except_bind_eq_ok.mpr ⟨_, both.otherScanned,
    both.otherHeading.parse_grouped both.isOpening valued both.isClosing both.otherIsEnd⟩

theorem map_lexeme : (both.otherWord :: both.otherPhrase).map Token.lexeme =
    (both.word :: both.phrase).map Token.lexeme := by
  rw [map_cons, map_cons, both.sameWord, both.samePhrase]

/-- A phrase that is read with a hint before it closes exactly the brackets that it opens. -/
theorem balanced_of_read (read : readSource plain = .ok tree) : Grammar.Balanced both.phrase := by
  rcases readSource_eq_ok read with
    ⟨lexemes, items, tokens, finish, -, scanned, -, -, later, stated, -⟩
  have same : both.heading.before (both.word :: both.phrase) ++ [both.finish] =
      tokens ++ [finish] := Except.ok.inj (both.scanned.symm.trans scanned)
  have whole : Grammar.Balanced (both.heading.before (both.word :: both.phrase)) := by
    rw [(append_inj' same rfl).1]
    exact later.balanced fun item mem => (stated item mem).balanced
  have front : Grammar.Balanced (both.heading.before [both.word]) := by
    have last : Grammar.Balanced [both.word] :=
      Grammar.Balanced.nil.cons rfl (isFlat_of_typeWord both.isType)
    exact ((last.cons both.heading.isAs rfl).cons both.heading.isName rfl).cons rfl
      (isFlat_of_verb both.heading.isVerb)
  exact whole.of_append front

/-- If the declaration in parentheses is read, they hold an expression. -/
theorem titled_of_read (read : readSource grouped = .ok tree)
    (balanced : Grammar.Balanced both.phrase) :
    ∃ node, Expresses .disjunction (both.word :: both.phrase) node := by
  obtain ⟨tokens, scanned, parsed⟩ := except_bind_eq_ok.mp read
  obtain rfl := Except.ok.inj (both.otherScanned.symm.trans scanned)
  have untyped : Parser.isTypeWord both.opening.kind = false := by
    rw [both.isOpening]
    rfl
  rcases both.otherHeading.expression_of_parse untyped parsed with
    ⟨value, rest, node, equal, valued⟩
  have inside : Grammar.Balanced (both.otherWord :: both.otherPhrase) := by
    have kinds := map_kind_eq both.map_lexeme
    rw [map_map] at kinds
    unfold Grammar.Balanced
    rw [kinds]
    exact balanced.cons rfl (isFlat_of_typeWord both.isType)
  obtain ⟨found, expresses⟩ := valued.of_leftParen both.isOpening inside both.isClosing equal
  obtain ⟨node, spelled, -⟩ := expresses.phrased _ both.map_lexeme.symm
  exact ⟨node, spelled⟩

/-- Both are read exactly if the phrase is an expression that the word announces. -/
theorem both_read_iff :
    ((∃ tree, readSource plain = .ok tree) ∧ ∃ tree, readSource grouped = .ok tree) ↔
      (∃ node, Expresses .disjunction both.phrase node) ∧
        ∃ head ∈ both.phrase.head?, Announces both.word head := by
  rw [← exists_titled_iff both.isType]
  constructor
  · rintro ⟨⟨tree, readPlain⟩, tree', readGrouped⟩
    exact both.titled_of_read readGrouped (both.balanced_of_read readPlain)
  · intro titled
    obtain ⟨⟨node, valued⟩, -⟩ := (exists_titled_iff both.isType).mp titled
    obtain ⟨whole, spelled⟩ := titled
    obtain ⟨other, expresses, -⟩ := spelled.phrased _ both.map_lexeme
    exact ⟨⟨_, both.read_plain valued⟩, _, both.read_grouped expresses⟩

/-- What is read in parentheses is read with a hint too, if it closes the brackets it opens. -/
theorem plain_of_grouped (balanced : Grammar.Balanced both.phrase)
    (read : readSource grouped = .ok tree) :
    ∃ tree, readSource plain = .ok tree := by
  obtain ⟨⟨node, valued⟩, -⟩ :=
    (exists_titled_iff both.isType).mp (both.titled_of_read read balanced)
  exact ⟨_, both.read_plain valued⟩

/-- What the two are read as, if both are read. -/
theorem trees_of_read (readPlain : readSource plain = .ok tree)
    (readGrouped : readSource grouped = .ok tree') :
    ∃ head tail own titled exts value, both.phrase = head :: tail ∧
      Announces both.word head ∧ Titled both.word head own titled ∧
      tree = .program (.known 0 0) [.declaration both.heading.verb.place both.heading.name.text
        (extended own exts) both.word.hint false] ∧
      tree' = .program (.known 0 0)
        [.declaration both.otherHeading.verb.place both.heading.name.text value none false] ∧
      value.unplaced = (extended titled exts).unplaced := by
  obtain ⟨node, spelled⟩ := both.titled_of_read readGrouped (both.balanced_of_read readPlain)
  obtain ⟨head, tail, own, titled, exts, starts, announces, isTitled, valued, rfl⟩ :=
    spelled.untitled both.isType
  obtain ⟨value, expresses, same⟩ := spelled.phrased _ both.map_lexeme
  refine ⟨head, tail, own, titled, exts, value, starts, announces, isTitled, ?_, ?_, same⟩
  · exact Except.ok.inj (readPlain.symm.trans (both.read_plain valued))
  · exact Except.ok.inj (readGrouped.symm.trans (both.read_grouped expresses))

end Renditions

/-! ## The values that are bound -/

namespace Grammar

variable {word head : Token} {own titled : Node}

theorem number_of_announces (isPotion : word.kind = .potion) (announces : Announces word head) :
    head.kind = .float ∨ head.kind = .integer := by
  rcases announces with ⟨value, isLiteral⟩ | ⟨isTome, -⟩ | ⟨isGrimoire, -⟩
  · unfold Token.annotated? at isLiteral
    split at isLiteral <;> simp_all
  · rw [isPotion] at isTome
    cases isTome
  · rw [isPotion] at isGrimoire
    cases isGrimoire

/-- Only integers are converted. -/
theorem Titled.unplaced_eq (isTitled : Titled word head own titled)
    (announces : Announces word head) (typed : head.lexeme.Typed)
    (apart : ¬ (word.kind = .potion ∧ head.kind = .integer)) :
    own.unplaced = titled.unplaced := by
  by_cases isPotion : word.kind = .potion
  · obtain ⟨value, converted, rfl, rfl⟩ := isTitled.converted isPotion
    have isFloat : head.kind = .float :=
      (number_of_announces isPotion announces).resolve_right fun isInteger =>
        apart ⟨isPotion, isInteger⟩
    obtain ⟨num, same⟩ := typed.float isFloat
    have same : head.value = .potion num 0 := same
    rw [Token.potionValue?, same] at converted
    cases converted
    rw [same]
    rfl
  · exact isTitled.alike isPotion

/-- An integer becomes the floating point number next to it. -/
theorem Titled.converts (isTitled : Titled word head own titled) (typed : head.lexeme.Typed)
    (isPotion : word.kind = .potion) (isInteger : head.kind = .integer) :
    ∃ int num, Number.floatOfInteger int = .ok num ∧
      own = .literal head.place (.rune int) ∧ titled = .literal word.place (.potion num 0) := by
  obtain ⟨value, converted, rfl, rfl⟩ := isTitled.converted isPotion
  obtain ⟨int, same⟩ := typed.integer isInteger
  have same : head.value = .rune int := same
  rw [Token.potionValue?, same] at converted
  cases found : Number.floatOfInteger int with
  | ok num =>
    simp only [Value.toFloat, found, Option.some.injEq] at converted
    exact ⟨int, num, found, by rw [same], by rw [converted]⟩
  | error fault =>
    simp only [Value.toFloat, found] at converted
    cases converted

end Grammar

namespace Machine

/-- The machine in which a variable was declared. -/
def declaring (machine : Machine) (name : String) (value : Value) : Machine :=
  { machine with scopes := machine.scopes.define name value false }

/--
Wherever one program gives a value, the other one gives the same value and prints the same, and the
machines agree afterwards.
-/
def Follows (one other : Node) : Prop :=
  ∀ {machine final : Machine} {value : Value}, interpret one machine = .ok value final →
    ∃ last, interpret other machine = .ok value last ∧ final.Agrees last ∧
      final.printed = last.printed

theorem follows_of_unplaced {one other : List Node} {place place' : Place}
    (same : one.map Node.unplaced = other.map Node.unplaced) :
    Follows (.program place one) (.program place' other) := by
  intro machine final value ended
  -- Both are compared with the run in which all places are forgotten.
  let mirror : Machine := { machine with closures := machine.closures.map Closure.unplaced }
  have begun : Mirrored machine.printed mirror.printed machine mirror := .anew rfl rfl rfl
  have alike := (sequence_mirrors one).parallel _ _ begun
  rw [show Eval.sequence evaluate one machine = .ok value final from ended, same] at alike
  obtain ⟨between, endedMirror, mirrored⟩ := alike.of_left
  have alikeOther := (sequence_mirrors other).parallel _ _ begun
  rw [endedMirror] at alikeOther
  obtain ⟨last, endedLast, mirroredLast⟩ := alikeOther.of_right
  refine ⟨last, endedLast, .of_mirrored mirrored mirroredLast, ?_⟩
  obtain ⟨said, saidHere, saidThere⟩ := mirrored.world.printed
  obtain ⟨saidLast, saidHereLast, saidThereLast⟩ := mirroredLast.world.printed
  have sameSaid : machine.printed ++ said = machine.printed ++ saidLast :=
    saidThere.symm.trans saidThereLast
  exact saidHere.trans (sameSaid.trans saidHereLast.symm)

/-- Hints are not looked at. -/
theorem interpret_hint {place place' : Place} {name : String} {value : Node}
    (hint : Option String) :
    interpret (.program place [.declaration place' name value hint false]) =
      interpret (.program place [.declaration place' name value none false]) := rfl

theorem interpret_literal {place place' place'' : Place} {name : String} {value : Value}
    (hint : Option String) (machine : Machine) :
    interpret (.program place [.declaration place' name (.literal place'' value) hint false])
        machine =
      .ok value (machine.declaring name value) := rfl

end Machine

/-- Is the word the one for the type of the value? -/
def TokenKind.tells (word : TokenKind) : Value → Bool
  | .scroll _ => word == .scroll
  | .rune _ => word == .rune
  | .potion _ _ => word == .potion
  | .charm _ => word == .charm
  | _ => false

namespace Grammar

variable {word head : Token}

/-- The value of a literal is of the type that the word before it tells. -/
theorem tells_of_annotated {value : Value} (isLiteral : word.annotated? head = some value)
    (typed : head.lexeme.Typed) : word.kind.tells value = true := by
  unfold Token.annotated? at isLiteral
  split at isLiteral
  case h_1 isWord isKind =>
    obtain ⟨text, same⟩ := typed.text isKind
    rw [← Option.some.inj isLiteral, isWord, show head.value = .scroll text from same]
    rfl
  case h_2 isWord isKind =>
    obtain ⟨int, same⟩ := typed.integer isKind
    rw [← Option.some.inj isLiteral, isWord, show head.value = .rune int from same]
    rfl
  case h_3 isWord isKind | h_4 isWord isKind =>
    unfold Token.potionValue? at isLiteral
    rw [isWord]
    split at isLiteral
    · cases isLiteral
      rfl
    · split at isLiteral <;> cases isLiteral
      rfl
  case h_5 isWord isKind | h_6 isWord isKind =>
    rw [← Option.some.inj isLiteral, isWord]
    rfl
  case h_7 => cases isLiteral

/-- A bracket alone is no expression. -/
theorem annotated_of_lone {level : Level} {node : Node} (announces : Announces word head)
    (spelled : Expresses level [head] node) : ∃ value, word.annotated? head = some value := by
  rcases announces with annotated | ⟨-, isBracket⟩ | ⟨-, isBracket⟩
  · exact annotated
  all_goals
    have balanced := spelled.tidy.balanced
    simp [Grammar.Balanced, TokenKind.descend, TokenKind.depthAfter?, isBracket, TokenKind.opens,
      TokenKind.closes] at balanced

end Grammar

namespace Renditions

open Machine

variable {plain grouped : String} (both : Renditions plain grouped) {tree tree' : Node}
  {head : Token} {tail : List Token}

theorem typed_of_phrase (starts : both.phrase = head :: tail) : head.lexeme.Typed := by
  refine typed_of_scan both.scanned head ?_
  simp [Heading.before, starts]

/-- The two bind the same value unless `potion` stands before an integer. -/
theorem follows (readPlain : readSource plain = .ok tree)
    (readGrouped : readSource grouped = .ok tree') (starts : both.phrase = head :: tail)
    (apart : ¬ (both.word.kind = .potion ∧ head.kind = .integer)) :
    Follows tree tree' ∧ Follows tree' tree := by
  obtain ⟨first, others, own, titled, exts, value, equal, announces, isTitled, rfl, rfl,
    same⟩ := both.trees_of_read readPlain readGrouped
  obtain ⟨rfl, rfl⟩ := List.cons.inj (starts.symm.trans equal)
  have alike := isTitled.unplaced_eq announces (both.typed_of_phrase starts) apart
  have values : (extended own exts).unplaced = value.unplaced :=
    (unplaced_extended alike exts).trans same.symm
  unfold Follows
  rw [interpret_hint both.word.hint]
  constructor
  · refine @follows_of_unplaced [_] [_] _ _ ?_
    simp only [map_cons, map_nil, Node.unplaced, values]
  · refine @follows_of_unplaced [_] [_] _ _ ?_
    simp only [map_cons, map_nil, Node.unplaced, values]

/-- What is bound by a literal alone. -/
theorem lone_values (readPlain : readSource plain = .ok tree)
    (readGrouped : readSource grouped = .ok tree') (lone : both.phrase = [head]) :
    ∃ own given,
      (∀ machine, interpret tree machine = .ok own (machine.declaring both.heading.name.text own)) ∧
      (∀ machine, interpret tree' machine =
        .ok given (machine.declaring both.heading.name.text given)) ∧
      both.word.kind.tells given = true ∧
      (own = given ↔ ¬ (both.word.kind = .potion ∧ head.kind = .integer)) := by
  have typed := both.typed_of_phrase lone
  obtain ⟨⟨node, valued⟩, first, isFirst, announces⟩ :=
    both.both_read_iff.mp ⟨⟨_, readPlain⟩, _, readGrouped⟩
  rw [lone] at valued isFirst
  obtain rfl := Option.some.inj isFirst
  obtain ⟨given, isLiteral⟩ := annotated_of_lone announces valued
  obtain ⟨own, isLeaf, isTitled⟩ := leaf_of_annotated isLiteral
  have plainValue : Expresses .disjunction both.phrase (.literal head.place own) := by
    rw [lone]
    exact .loosenTo (by decide) (.leaf isLeaf)
  obtain ⟨otherHead, equal, sameHead⟩ := map_eq_singleton_iff.mp (lone ▸ both.samePhrase)
  have groupedValue : Expresses .disjunction (both.otherWord :: both.otherPhrase)
      (.literal both.otherWord.place given) := by
    rw [equal]
    exact .loosenTo (by decide)
      (.annotated ((annotated_of_lexeme both.sameWord sameHead).trans isLiteral))
  obtain rfl := Except.ok.inj (readPlain.symm.trans (both.read_plain plainValue))
  obtain rfl := Except.ok.inj (readGrouped.symm.trans (both.read_grouped groupedValue))
  refine ⟨own, given, fun machine => interpret_literal _ machine,
    fun machine => interpret_literal _ machine, tells_of_annotated isLiteral typed, ?_, ?_⟩
  · rintro rfl ⟨isPotion, isInteger⟩
    obtain ⟨int, num, -, isRune, isFloat⟩ := isTitled.converts typed isPotion isInteger
    cases isRune
    cases isFloat
  · intro apart
    have same := isTitled.unplaced_eq announces typed apart
    simpa only [Node.unplaced, Node.literal.injEq, true_and] using same

/--
A declaration with a hint and the same one in parentheses are both read exactly if the phrase is an
expression that begins with a literal which the word announces.  Where only one is read, it is the
one with the hint, unless the phrase does not close exactly the brackets that it opens.

If both are read, they give the same value and change the same, except where `potion` stands before
an integer: then the one goes on from the integer as the other goes on from the floating point
number next to it.  A literal alone is bound to a value of the type of the word in parentheses, and
with a hint to the same value, with that exception.
-/
theorem declared_alike_iff_announced (both : Renditions plain grouped) :
    (((∃ tree, readSource plain = .ok tree) ∧ ∃ tree, readSource grouped = .ok tree) ↔
      (∃ node, Expresses .disjunction both.phrase node) ∧
        ∃ head ∈ both.phrase.head?, Announces both.word head) ∧
    (Grammar.Balanced both.phrase → (∃ tree, readSource grouped = .ok tree) →
      ∃ tree, readSource plain = .ok tree) ∧
    (¬ Grammar.Balanced both.phrase → ¬ ∃ tree, readSource plain = .ok tree) ∧
    ∀ tree tree', readSource plain = .ok tree → readSource grouped = .ok tree' →
      ∃ head tail, both.phrase = head :: tail ∧
        (¬ (both.word.kind = .potion ∧ head.kind = .integer) →
          Follows tree tree' ∧ Follows tree' tree) ∧
        (both.word.kind = .potion → head.kind = .integer →
          ∃ integer number exts value, Number.floatOfInteger integer = .ok number ∧
            tree = .program (.known 0 0) [.declaration both.heading.verb.place
              both.heading.name.text (extended (.literal head.place (.rune integer)) exts)
              both.word.hint false] ∧
            tree' = .program (.known 0 0) [.declaration both.otherHeading.verb.place
              both.heading.name.text value none false] ∧
            value.unplaced =
              (extended (.literal both.word.place (.potion number 0)) exts).unplaced) ∧
        (tail = [] → ∃ own given,
          (∀ machine, interpret tree machine =
            .ok own (machine.declaring both.heading.name.text own)) ∧
          (∀ machine, interpret tree' machine =
            .ok given (machine.declaring both.heading.name.text given)) ∧
          both.word.kind.tells given = true ∧
          (own = given ↔ ¬ (both.word.kind = .potion ∧ head.kind = .integer))) := by
  refine ⟨both.both_read_iff, ?_, ?_, ?_⟩
  · rintro balanced ⟨tree', readGrouped⟩
    exact both.plain_of_grouped balanced readGrouped
  · rintro unbalanced ⟨tree, readPlain⟩
    exact unbalanced (both.balanced_of_read readPlain)
  · intro tree tree' readPlain readGrouped
    obtain ⟨head, tail, own, titled, exts, value, starts, -, isTitled, plainTree, groupedTree,
      same⟩ := both.trees_of_read readPlain readGrouped
    refine ⟨head, tail, starts, both.follows readPlain readGrouped starts, ?_, ?_⟩
    · intro isPotion isInteger
      obtain ⟨integer, number, converted, rfl, rfl⟩ :=
        isTitled.converts (both.typed_of_phrase starts) isPotion isInteger
      exact ⟨integer, number, exts, value, converted, plainTree, groupedTree, same⟩
    · rintro rfl
      exact both.lone_values readPlain readGrouped starts

set_option maxRecDepth 10000 in
/-- An integer after `potion`, with a hint and in parentheses. -/
def potionOfFive : Renditions "conjure x as potion 5" "conjure x as (potion 5)" where
  heading := ⟨⟨.conjure, .scroll "conjure", 1, 1⟩, ⟨.identifier, .scroll "x", 1, 9⟩,
    ⟨.asWord, .scroll "as", 1, 11⟩, Or.inl rfl, rfl, rfl⟩
  word := ⟨.potion, .scroll "potion", 1, 14⟩
  phrase := [⟨.integer, .rune 5, 1, 21⟩]
  finish := ⟨.endOfFile, .scroll "", 1, 22⟩
  isType := rfl
  isEnd := rfl
  scanned := Token.scan_of_characters ['c', 'o', 'n', 'j', 'u', 'r', 'e', ' ', 'x', ' ', 'a', 's',
    ' ', 'p', 'o', 't', 'i', 'o', 'n', ' ', '5'] (by decide) rfl
  otherHeading := ⟨⟨.conjure, .scroll "conjure", 1, 1⟩, ⟨.identifier, .scroll "x", 1, 9⟩,
    ⟨.asWord, .scroll "as", 1, 11⟩, Or.inl rfl, rfl, rfl⟩
  opening := ⟨.leftParen, .scroll "(", 1, 14⟩
  otherWord := ⟨.potion, .scroll "potion", 1, 15⟩
  otherPhrase := [⟨.integer, .rune 5, 1, 22⟩]
  closing := ⟨.rightParen, .scroll ")", 1, 23⟩
  otherFinish := ⟨.endOfFile, .scroll "", 1, 24⟩
  isOpening := rfl
  isClosing := rfl
  otherIsEnd := rfl
  otherScanned := Token.scan_of_characters ['c', 'o', 'n', 'j', 'u', 'r', 'e', ' ', 'x', ' ', 'a',
    's', ' ', '(', 'p', 'o', 't', 'i', 'o', 'n', ' ', '5', ')'] (by decide) rfl
  sameName := rfl
  sameWord := rfl
  samePhrase := rfl

/-- Both are read and bind different values. -/
theorem declared_alike_iff_announced_potionOfFive :
    ∃ tree tree', readSource "conjure x as potion 5" = .ok tree ∧
      readSource "conjure x as (potion 5)" = .ok tree' ∧
      ∃ own given,
        (∀ machine, interpret tree machine = .ok own (machine.declaring "x" own)) ∧
        (∀ machine, interpret tree' machine = .ok given (machine.declaring "x" given)) ∧
        TokenKind.potion.tells given = true ∧ own ≠ given := by
  obtain ⟨read, -, -, values⟩ := declared_alike_iff_announced potionOfFive
  have announces : Announces potionOfFive.word ⟨.integer, .rune 5, 1, 21⟩ := Or.inl ⟨_, rfl⟩
  have five : Expresses .disjunction potionOfFive.phrase (.literal (.known 1 21) (.rune 5)) :=
    .loosenTo (by decide) (.leaf rfl)
  obtain ⟨⟨tree, readPlain⟩, tree', readGrouped⟩ := read.mpr ⟨⟨_, five⟩, _, rfl, announces⟩
  obtain ⟨head, tail, starts, -, -, alone⟩ := values tree tree' readPlain readGrouped
  obtain ⟨rfl, rfl⟩ := List.cons.inj starts
  obtain ⟨own, given, plainValue, groupedValue, tells, same⟩ := alone rfl
  exact ⟨tree, tree', readPlain, readGrouped, own, given, plainValue, groupedValue, tells,
    fun equal => same.mp equal ⟨rfl, rfl⟩⟩

/-- The value that a source gives in an empty world, if it is read and gives one. -/
def value? (source : String) : Option Value :=
  match readSource source with
  | .ok program =>
    match interpret program (start {}) with
    | .ok value _ => some value
    | .error _ _ => none
  | .error _ => none

/-- With a hint, `potion` does not convert an integer. -/
theorem hint_not_converting :
    (value? "conjure x as (potion 5)").map TokenKind.potion.tells = some true ∧
      (value? "conjure x as potion 5").map TokenKind.potion.tells = some false ∧
        (value? "conjure x as potion 5").map TokenKind.rune.tells = some true := by
  decide +kernel

end Renditions

end Spellbook
