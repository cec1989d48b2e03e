import Spellbook.Proofs.Grammar.Succession
import Spellbook.Proofs.Lexing.Spelling
import Spellbook.Proofs.Precedence
import Spellbook.Proofs.Store.Portrait

/-!
# Typing back what is shown

The text that a session shows for a plain value is a script.  Scanning divides it into the lexemes
of a datum, parsing makes the expression of the datum from them, and the evaluation of the
expression plants the datum into the store.  So the value that comes out has the portrait of the
value that was shown.
-/

namespace Spellbook

open List Token Grammar

variable {items : List Datum} {entries : List (Datum × Datum)} {entry : Datum × Datum}
  {text : List Char} {value : Value} {datum : Datum} {pairs : List (Node × Node)}

namespace Datum

/-! ## The lexemes and the expression of a datum -/

mutual

/-- The lexemes of a datum.  A negative integer is the minus sign before a positive one. -/
def lexemes : Datum → List Lexeme
  | void => [.ofLiteral .void]
  | charm truth => [.ofLiteral (.charm truth)]
  | rune int =>
    (if int < 0 then [.ofSign .minus "-"] else []) ++ [.ofLiteral (.rune int.natAbs)]
  | scroll text => [.ofLiteral (.scroll text)]
  | list items =>
    [.ofSign .tome "tome", .ofSign .leftBracket "["] ++
      (Lexeme.listed (lexemesAll items) ++ [.ofSign .rightBracket "]"])
  | dict entries =>
    [.ofSign .grimoire "grimoire", .ofSign .leftBrace "\x7b"] ++
      (Lexeme.listed (lexemesEntries entries) ++ [.ofSign .rightBrace "\x7d"])
  | _ => []

def lexemesAll : List Datum → List (List Lexeme)
  | [] => []
  | datum :: data => datum.lexemes :: lexemesAll data

def lexemesEntries : List (Datum × Datum) → List (List Lexeme)
  | [] => []
  | (key, value) :: entries =>
    (key.lexemes ++ .ofSign .colon ":" :: value.lexemes) :: lexemesEntries entries

end

mutual

/-- The expression that makes a datum. -/
def expression : Datum → Node
  | void => .literal .unknown .void
  | charm truth => .literal .unknown (.charm truth)
  | rune int =>
    if int < 0 then .unary .unknown .negation (.literal .unknown (.rune int.natAbs))
    else .literal .unknown (.rune int.natAbs)
  | scroll text => .literal .unknown (.scroll text)
  | list items => .tome .unknown (expressions items)
  | dict entries => .grimoire .unknown (entryExpressions entries)
  | _ => .bare .unknown

def expressions : List Datum → List Node
  | [] => []
  | datum :: data => datum.expression :: expressions data

def entryExpressions : List (Datum × Datum) → List (Node × Node)
  | [] => []
  | (key, value) :: entries => (key.expression, value.expression) :: entryExpressions entries

end

mutual

/-- How deep a datum is nested. -/
def height : Datum → Nat
  | list items => heightAll items + 1
  | dict entries => heightEntries entries + 1
  | _ => 1

def heightAll : List Datum → Nat
  | [] => 0
  | datum :: data => max datum.height (heightAll data)

def heightEntries : List (Datum × Datum) → Nat
  | [] => 0
  | (key, value) :: entries => max (max key.height value.height) (heightEntries entries)

end

theorem height_le_of_mem {item : Datum} (mem : item ∈ items) :
    item.height ≤ heightAll items := by
  induction items with
  | nil => cases mem
  | cons first items ih =>
    rw [heightAll]
    rcases mem_cons.mp mem with rfl | later
    · exact Nat.le_max_left _ _
    · exact Nat.le_trans (ih later) (Nat.le_max_right _ _)

theorem height_le_of_entry (mem : entry ∈ entries) :
    entry.1.height ≤ heightEntries entries ∧ entry.2.height ≤ heightEntries entries := by
  induction entries with
  | nil => cases mem
  | cons first entries ih =>
    rw [heightEntries]
    rcases mem_cons.mp mem with rfl | later
    · omega
    · have further := ih later
      omega

theorem lexemesAll_eq_map (data : List Datum) : lexemesAll data = data.map lexemes := by
  induction data with
  | nil => rfl
  | cons datum data ih => rw [lexemesAll, ih, map_cons]

theorem expressions_eq_map (data : List Datum) : expressions data = data.map expression := by
  induction data with
  | nil => rfl
  | cons datum data ih => rw [expressions, ih, map_cons]

/-- A key and a value as a part of a dictionary. -/
def entryPhrase (entry : Datum × Datum) : EntryPhrase :=
  .withColon (entry.1.lexemes, entry.1.expression) (entry.2.lexemes, entry.2.expression)

theorem lexemesEntries_eq_map (entries : List (Datum × Datum)) :
    lexemesEntries entries = (entries.map entryPhrase).map EntryPhrase.lexemes := by
  induction entries with
  | nil => rfl
  | cons entry entries ih =>
    rw [lexemesEntries, ih]
    rfl

theorem entryExpressions_eq_map (entries : List (Datum × Datum)) :
    entryExpressions entries =
      entries.map fun entry => (entry.1.expression, entry.2.expression) := by
  induction entries with
  | nil => rfl
  | cons entry entries ih => rw [entryExpressions, ih, map_cons]

end Datum

/-! ## Scanning -/

namespace Token

/-- The text divides into the lexemes wherever none of them can go on after it. -/
structure Denotes (text : List Char) (lexemes : List Lexeme) : Prop where
  divided : ∀ {tail : List Char} {further : List Lexeme}, Parted tail → Divided tail further →
    Divided (text ++ tail) (lexemes ++ further)

theorem Denotes.of_spells {lexeme : Lexeme}
    (spells : ∀ {tail}, Parted tail → Spells text lexeme tail) :
    Denotes text [lexeme] :=
  ⟨fun parted divided => divided.spelled (spells parted)⟩

/-- A sign other than the star, before anything. -/
theorem Divided.sign {lexemes : List Lexeme} (divided : Divided text lexemes) (char : Char)
    (kind : TokenKind) (known : TokenKind.ofSign? char = some kind)
    (noStar : (char == '*') = false) :
    Divided (char :: text) (⟨kind, .scroll char.toString⟩ :: lexemes) := by
  apply divided.spelled (spells_sign_before known _)
  rw [noStar]
  rfl

theorem Denotes.listed {parts : List (List Char × List Lexeme)}
    (each : ∀ part ∈ parts, Denotes part.1 part.2) :
    Denotes ([',', ' '].intercalate (parts.map Prod.fst)) (Lexeme.listed (parts.map Prod.snd)) := by
  constructor
  intro tail further parted divided
  induction parts with
  | nil => exact divided
  | cons part parts ih =>
    obtain ⟨first, others⟩ := forall_mem_cons.mp each
    cases parts with
    | nil =>
      have alone : [',', ' '].intercalate [part.1] = part.1 := append_nil _
      rw [map_singleton, map_singleton, alone]
      exact first.divided parted divided
    | cons second parts =>
      have rest := (ih others).blank.sign ',' .comma rfl rfl
      have texts : [',', ' '].intercalate ((part :: second :: parts).map Prod.fst) =
          part.1 ++ ',' :: ' ' :: [',', ' '].intercalate ((second :: parts).map Prod.fst) := rfl
      have lexemes : Lexeme.listed ((part :: second :: parts).map Prod.snd) =
          part.2 ++ .ofSign .comma "," :: Lexeme.listed ((second :: parts).map Prod.snd) := rfl
      rw [texts, lexemes, append_assoc, append_assoc]
      exact first.divided (parted_cons (by decide) _) rest

/-- A collection after the word for it. -/
theorem Denotes.collection {inner : List Char} {lexemes : List Lexeme}
    (denotes : Denotes inner lexemes) (word : String) (kind : TokenKind)
    (openingSign : Char) (opening : TokenKind) (closingSign : Char) (closing : TokenKind)
    (isWord : TokenKind.keywords.lookup word = some kind)
    (isOpening : TokenKind.ofSign? openingSign = some opening)
    (noStar : (openingSign == '*') = false)
    (isClosing : TokenKind.ofSign? closingSign = some closing)
    (separates : closingSign ∈ separators) :
    Denotes (word.toList ++ ' ' :: openingSign :: (inner ++ [closingSign]))
      ([⟨kind, .scroll word⟩, ⟨opening, .scroll openingSign.toString⟩] ++
        (lexemes ++ [⟨closing, .scroll closingSign.toString⟩])) := by
  constructor
  intro tail further parted divided
  have closed := divided.spelled (spells_sign parted isClosing)
  have filled := denotes.divided (parted_cons separates tail) closed
  have headed := (filled.sign openingSign opening isOpening noStar).blank
  have named := headed.spelled (spells_keyword (parted_cons (by decide) _) isWord)
  simpa using named

end Token

namespace Datum

theorem denotes_literal {word : String} {kind : TokenKind}
    (isWord : TokenKind.keywords.lookup word = some kind)
    (isLexeme : Lexeme.ofLiteral value = ⟨kind, .scroll word⟩) :
    Denotes word.toList [.ofLiteral value] := by
  rw [isLexeme]
  exact .of_spells fun parted => spells_keyword parted isWord

theorem denotes_natural {num : Nat} (short : num < Nat.pow 10 Number.digitLimit) :
    Denotes (Nat.repr num).toList [.ofLiteral (.rune num)] := by
  rw [Nat.repr_eq_ofList_toDigits, String.toList_ofList]
  exact .of_spells fun parted => spells_integer parted short

theorem guarded_of_plain (plain : text.any isDelicate = false) : Lexeme.guarded text = text := by
  induction text with
  | nil => rfl
  | cons char text ih =>
    rw [any_cons, Bool.or_eq_false_iff] at plain
    have single : ¬(char = '\\' ∨ char = '"') := by
      simpa [isDelicate, or_comm] using plain.1
    rw [Lexeme.guarded, flatMap_cons, if_neg single]
    exact congrArg (char :: ·) (ih plain.2)

theorem denotes_entry (key : Denotes entry.1.text.toList entry.1.lexemes)
    (value : Denotes entry.2.text.toList entry.2.lexemes) :
    Denotes (entryText entry).toList (entryPhrase entry).lexemes := by
  constructor
  intro tail further parted divided
  have rest := (value.divided parted divided).blank.sign ':' .colon rfl rfl
  have whole := key.divided (parted_cons (by decide) _) rest
  simpa [entryText, entryPhrase, EntryPhrase.withColon, EntryPhrase.lexemes, Lexeme.ofSign]
    using whole

/-- Scanning divides the text of a datum into its lexemes. -/
theorem denotes_text (typeable : datum.Typeable) (short : datum.isOverlong = false) :
    Denotes datum.text.toList datum.lexemes := by
  induction typeable with
  | void =>
    rw [text, lexemes]
    exact denotes_literal rfl rfl
  | charm truth =>
    rw [text, lexemes]
    cases truth <;> exact denotes_literal rfl rfl
  | rune int =>
    rw [isOverlong, Bool.not_eq_false', Number.isWritable, decide_eq_true_iff] at short
    rw [text, lexemes, Number.integerText]
    split
    · rw [String.toList_append]
      constructor
      intro tail further parted divided
      have read := (denotes_natural short).divided parted divided
      exact read.sign '-' .minus rfl rfl
    · exact denotes_natural short
  | @scroll words plain =>
    rw [text, lexemes, String.toList_append, String.toList_append]
    apply Denotes.of_spells
    intro tail parted
    have spells := spells_string words tail
    rwa [guarded_of_plain plain] at spells
  | @list items each ih =>
    rw [isOverlong, anyOverlong_eq_any, any_eq_false] at short
    rw [text, lexemes, texts_eq_map, lexemesAll_eq_map, String.toList_append,
      String.toList_append, String.toList_intercalate, map_map, append_assoc]
    have inner := @Denotes.listed (items.map fun item => (item.text.toList, item.lexemes)) <| by
      rw [forall_mem_map]
      intro item mem
      exact ih item mem (by simpa using short item mem)
    rw [map_map, map_map] at inner
    exact inner.collection "tome" .tome '[' .leftBracket ']' .rightBracket rfl rfl rfl rfl
      (by decide)
  | @dict entries scalars keys values distinct ihKeys ihValues =>
    rw [isOverlong, anyEntryOverlong_eq_any, any_eq_false] at short
    rw [text, lexemes, entryTexts_eq_map, lexemesEntries_eq_map, String.toList_append,
      String.toList_append, String.toList_intercalate, map_map, map_map,
      append_assoc]
    have inner := @Denotes.listed
        (entries.map fun entry => ((entryText entry).toList, (entryPhrase entry).lexemes)) <| by
      rw [forall_mem_map]
      intro entry mem
      have both := short entry mem
      rw [Bool.or_eq_true, not_or, Bool.not_eq_true, Bool.not_eq_true] at both
      exact denotes_entry (ihKeys entry mem both.1) (ihValues entry mem both.2)
    rw [map_map, map_map] at inner
    exact inner.collection "grimoire" .grimoire '\x7b' .leftBrace '\x7d' .rightBrace rfl rfl rfl
      rfl (by decide)

/-! ## Parsing -/

theorem phrased_expression (typeable : datum.Typeable) :
    Phrased (Expresses .negation) datum.lexemes datum.expression := by
  induction typeable with
  | void | charm | scroll =>
    rw [lexemes, expression]
    exact (Phrased.literal _ _).tight _
  | rune int =>
    rw [lexemes, expression]
    split
    · exact Phrased.negation _ ((Phrased.literal _ _).tight _)
    · exact (Phrased.literal _ _).tight _
  | @list items each ih =>
    rw [lexemes, expression, lexemesAll_eq_map, expressions_eq_map]
    have headed := @Phrased.headedTome _ (items.map fun item => (item.lexemes, item.expression))
      .unknown (.named "tome" "[")
      (forall_mem_map.mpr fun item mem => (ih item mem).loosest)
    rw [map_map, map_map] at headed
    exact headed.tight _
  | @dict entries scalars keys values distinct ihKeys ihValues =>
    rw [lexemes, expression, lexemesEntries_eq_map, entryExpressions_eq_map]
    have headed := @Phrased.headedGrimoire _ (entries.map entryPhrase) .unknown
      (.named "grimoire" "\x7b")
      (forall_mem_map.mpr fun entry mem => (ihKeys entry mem).loosest)
      (forall_mem_map.mpr fun _ _ => rfl)
      (forall_mem_map.mpr fun entry mem => (ihValues entry mem).loosest)
    have nodes : (entries.map entryPhrase).map (fun phrase => (phrase.key.2, phrase.value.2)) =
        entries.map fun entry => (entry.1.expression, entry.2.expression) := map_map
    rw [nodes] at headed
    exact headed.tight _

end Datum

/-- A source that divides into the phrase of an expression is read as that expression. -/
theorem readSource_of_phrase {source : String} {lexemes : List Lexeme} {level : Level} {node : Node}
    (divided : Divided source.toList lexemes) (phrased : Phrased (Expresses level) lexemes node) :
    ∃ place tree, readSource source = .ok (.program (.known 0 0) [.expression place tree]) ∧
      tree.unplaced = node.unplaced := by
  obtain ⟨anywhere, said, -⟩ := phrased.here
  have outside : TokenKind.FeedsOutside 0 (lexemes.map Lexeme.kind) := by
    apply TokenKind.feedsOutside_of_noFeed
    rw [← map_kind_eq (map_lexeme_token lexemes)]
    exact forall_mem_map.mpr said.tidy.noFeed
  obtain ⟨scanned, scan, spelled⟩ := divided.scan
  rw [visible_of_feedsOutside outside] at spelled
  obtain ⟨tokens, finish, rfl, tokensSpelled, isFinish⟩ := spelled_snoc spelled
  have isEnd : finish.kind = .endOfFile := kind_of_lexeme isFinish
  obtain ⟨tree, expresses, same⟩ := phrased.loosest tokens tokensSpelled
  have succeeding : Succession finish [(tokens, .expression tree.place tree)] tokens := by
    apply succession_single
    rw [isEnd]
    rfl
  have parsed := succeeding.parses isEnd (by simpa using States.expression expresses) []
  exact ⟨tree.place, tree, except_bind_eq_ok.mpr ⟨_, scan, parsed⟩, same⟩

/-! ## Evaluation -/

namespace Node

variable {node : Node}

theorem exists_of_unplaced_literal (same : node.unplaced = .literal .unknown value) :
    ∃ place, node = .literal place value := by
  cases node <;> simp_all [unplaced]

theorem exists_of_unplaced_negation {operand : Node}
    (same : node.unplaced = .unary .unknown .negation operand) :
    ∃ place inner, node = .unary place .negation inner ∧ inner.unplaced = operand := by
  cases node <;> simp_all [unplaced]

theorem exists_of_unplaced_tome {elems : List Node} (same : node.unplaced = .tome .unknown elems) :
    ∃ place inner, node = .tome place inner ∧ inner.map unplaced = elems := by
  cases node <;> simp_all [unplaced]

theorem exists_of_unplaced_grimoire (same : node.unplaced = .grimoire .unknown pairs) :
    ∃ place inner, node = .grimoire place inner ∧
      inner.map (fun pair => (pair.1.unplaced, pair.2.unplaced)) = pairs := by
  cases node <;> simp_all [unplaced]

end Node

namespace Eval

variable {α : Type} {fuel : Nat}

/-- Evaluation that changes nothing but the store. -/
def stow {α : Type} (change : Store → α × Store) : Eval α := act (Action.withStore change)

theorem pure_eq_stow (res : α) : pure res = stow fun store => (res, store) :=
  rfl

theorem stow_bind {β : Type} (change : Store → α × Store) (next : α → Store → β × Store) :
    (stow change >>= fun res => stow (next res)) =
      stow fun store => next (change store).1 (change store).2 :=
  rfl

theorem stow_plant_of_scalar (isScalar : datum.scalar? = some value) :
    stow (·.plant datum) = pure value := by
  rw [pure_eq_stow]
  congr 1
  funext store
  exact Store.plant_of_scalar isScalar store

section Parts

variable {self : Node → Eval Value}

/-- Every node that is the expression of the datum, up to places, plants the datum. -/
def Plants (self : Node → Eval Value) (datum : Datum) : Prop :=
  ∀ node : Node, node.unplaced = datum.expression.unplaced → self node = stow (·.plant datum)

theorem values_eq_stow (each : ∀ item ∈ items, Plants self item) {nodes : List Node}
    (same : nodes.map Node.unplaced = items.map fun item => item.expression.unplaced) :
    values self nodes = stow (·.plantList items) := by
  induction items generalizing nodes with
  | nil =>
    obtain rfl := map_eq_nil_iff.mp same
    rfl
  | cons item items ih =>
    obtain ⟨node, others, rfl, first, rest⟩ := map_eq_cons_iff.mp same
    obtain ⟨plants, further⟩ := forall_mem_cons.mp each
    rw [values, plants node first, ih further rest]
    simp only [pure_eq_stow, stow_bind]
    rfl

theorem checkKey_of_scalar {key : Datum} (isScalar : key.scalar? = some value) :
    act (Operation.checkKey value) = pure () := by
  cases key with
  | void | charm | rune | scroll =>
    cases isScalar
    rfl
  | _ => cases isScalar

/-- The entries of a grimoire are written one after the other. -/
theorem fillEntries_eq_stow (scalars : ∀ entry ∈ entries, entry.1.scalar?.isSome = true)
    (keys : ∀ entry ∈ entries, Plants self entry.1)
    (values : ∀ entry ∈ entries, Plants self entry.2)
    (same : (pairs.map fun pair => (pair.1.unplaced, pair.2.unplaced)) =
      entries.map fun entry => (entry.1.expression.unplaced, entry.2.expression.unplaced))
    (written : Entries) :
    fillEntries self pairs written =
      stow fun store =>
        ((Store.plantEntriesFrom .given store entries).1.foldl
          (fun entries pair => entries.put pair.1 pair.2) written,
          (Store.plantEntriesFrom .given store entries).2) := by
  induction entries generalizing pairs written with
  | nil =>
    obtain rfl := map_eq_nil_iff.mp same
    rfl
  | cons entry entries ih =>
    obtain ⟨pair, others, rfl, first, rest⟩ := map_eq_cons_iff.mp same
    obtain ⟨scalar, otherScalars⟩ := forall_mem_cons.mp scalars
    obtain ⟨key, otherKeys⟩ := forall_mem_cons.mp keys
    obtain ⟨value, otherValues⟩ := forall_mem_cons.mp values
    obtain ⟨keyValue, isScalar⟩ := Option.isSome_iff_exists.mp scalar
    obtain ⟨sameKey, sameValue⟩ := Prod.mk.inj first
    rw [fillEntries, key pair.1 sameKey, stow_plant_of_scalar isScalar, pure_bind,
      value pair.2 sameValue, checkKey_of_scalar isScalar]
    simp only [pure_bind, ih otherScalars otherKeys otherValues rest]
    rw [stow_bind]
    congr 1
    funext store
    rw [Store.plantEntries_cons, Store.plant_of_scalar isScalar, foldl_cons]

end Parts

theorem run_literal (enough : 0 < fuel) (place : Place) (value : Value) :
    run fuel (.literal place value) = pure value := by
  cases fuel with
  | zero => cases enough
  | succ fuel => rfl

/-- The minus sign makes a negative integer of a positive one. -/
theorem run_negated (enough : 1 < fuel) (place place' : Place) (int : Int) :
    run fuel (.unary place .negation (.literal place' (.rune int))) = pure (.rune (-int)) := by
  cases fuel with
  | zero => cases enough
  | succ fuel =>
    rw [run, step, run_literal (Nat.lt_of_succ_lt_succ enough)]
    rfl

theorem run_program (fuel : Nat) (place place' : Place) (node : Node) :
    run (fuel + 2) (.program place [.expression place' node]) = run fuel node :=
  rfl

/-- The evaluation of a datum's expression plants the datum. -/
theorem run_plants (typeable : datum.Typeable) (enough : datum.height < fuel) :
    Plants (run fuel) datum := by
  induction typeable generalizing fuel with
  | void | charm | scroll =>
    intro node same
    obtain ⟨place, rfl⟩ := Node.exists_of_unplaced_literal same
    rw [run_literal (Nat.zero_lt_of_lt enough), stow_plant_of_scalar rfl]
  | rune int =>
    intro node same
    rw [stow_plant_of_scalar rfl]
    rw [Datum.expression] at same
    split at same
    case isTrue negative =>
      obtain ⟨place, inner, rfl, sameInner⟩ := Node.exists_of_unplaced_negation same
      obtain ⟨place', rfl⟩ := Node.exists_of_unplaced_literal sameInner
      rw [run_negated enough, Int.ofNat_natAbs_of_nonpos (Int.le_of_lt negative), Int.neg_neg]
    case isFalse nonnegative =>
      obtain ⟨place, rfl⟩ := Node.exists_of_unplaced_literal same
      rw [run_literal (Nat.zero_lt_of_lt enough), Int.natAbs_of_nonneg (Int.not_lt.mp nonnegative)]
  | @list items each ih =>
    intro node same
    rw [Datum.expression, Node.unplaced, Node.unplacedAll_eq_map, Datum.expressions_eq_map,
      map_map] at same
    obtain ⟨place, inner, rfl, sameInner⟩ := Node.exists_of_unplaced_tome same
    rw [Datum.height] at enough
    cases fuel with
    | zero => cases enough
    | succ fuel =>
      have plants : ∀ item ∈ items, Plants (run fuel) item := by
        intro item mem
        apply ih item mem
        have le := Datum.height_le_of_mem mem
        omega
      rw [run, step, values_eq_stow plants sameInner]
      exact stow_bind _ fun (values : List Value) store => store.addTome values.toArray
  | @dict entries scalars keys values distinct ihKeys ihValues =>
    intro node same
    rw [Datum.expression, Node.unplaced, Node.unplacedPairs_eq_map,
      Datum.entryExpressions_eq_map, map_map] at same
    obtain ⟨place, inner, rfl, sameInner⟩ := Node.exists_of_unplaced_grimoire same
    rw [Datum.height] at enough
    cases fuel with
    | zero => cases enough
    | succ fuel =>
      have plantsKeys : ∀ entry ∈ entries, Plants (run fuel) entry.1 := by
        intro entry mem
        apply ihKeys entry mem
        have le := (Datum.height_le_of_entry mem).1
        omega
      have plantsValues : ∀ entry ∈ entries, Plants (run fuel) entry.2 := by
        intro entry mem
        apply ihValues entry mem
        have le := (Datum.height_le_of_entry mem).2
        omega
      rw [run, step, fillEntries_eq_stow scalars plantsKeys plantsValues sameInner]
      exact stow_bind _ fun written store => store.addGrimoire written

end Eval

/-! ## Typing back -/

def Machine.withStore (machine : Machine) (store : Store) : Machine :=
  { machine with world := { machine.world with store } }

namespace Store

/--
What is shown for a value can be typed back.  If a value spreads out to void, truth values,
integers, texts without quotes and backslashes, lists, and dictionaries whose keys are such and
different, and no integer among them has too many digits to be written, then the text that is shown
for it is read as a single expression.  Wherever this is evaluated, it makes a value that spreads
out to the same, and changes nothing else.  The only other outcome is that there is no text, because
an integer has too many digits.
-/
theorem shown_types_back {store : Store} {value : Value}
    (typeable : (store.portray value).Typeable) :
    ((store.portray value).isOverlong = true → store.shown value = .error .tooLongToWrite) ∧
      ((store.portray value).isOverlong = false →
        ∃ text place tree, store.shown value = .ok text ∧
          readSource text = .ok (.program (.known 0 0) [.expression place tree]) ∧
            ∀ (machine : Machine) (fuel : Nat), (store.portray value).height + 2 < fuel →
              ∃ res after,
                Eval.run fuel (.program (.known 0 0) [.expression place tree]) machine =
                    .ok res (machine.withStore after) ∧
                  machine.world.store.Keeps after ∧
                    after.portray res = store.portray value) := by
  constructor
  · intro overlong
    rw [shown_eq typeable, overlong]
    rfl
  · intro short
    have divided := (Datum.denotes_text typeable short).divided Parted.nil Divided.done
    rw [append_nil, append_nil] at divided
    rcases readSource_of_phrase divided (Datum.phrased_expression typeable) with
      ⟨place, tree, read, same⟩
    refine ⟨(store.portray value).text, place, tree, ?_, read, ?_⟩
    · rw [shown_eq typeable, short]
      rfl
    · intro machine fuel enough
      obtain ⟨inner, rfl⟩ : ∃ inner, fuel = inner + 2 := ⟨fuel - 2, by omega⟩
      have planted := Eval.run_plants typeable (Nat.lt_of_add_lt_add_right enough) tree same
      refine ⟨_, (machine.world.store.plant (store.portray value)).2, ?_,
        (found_of_typeable typeable).keeps _, portray_plant typeable machine.world.store⟩
      rw [Eval.run_program, planted]
      rfl

/-- A tome inside a grimoire, with a negative integer and a text full of signs. -/
def sample : Store :=
  { tomes := #[#[.rune (-3), .charm true, .scroll "~ a,\n]"]]
    grimoires := #[#[(.rune 1, .tome 0), (.scroll "", .void)]] }

theorem shown_types_back_sample :
    sample.shown (.grimoire 0) =
        .ok "grimoire \x7b1: tome [-3, true, \"~ a,\n]\"], \"\": void\x7d" ∧
      (sample.portray (.grimoire 0)).Typeable ∧
        (sample.portray (.grimoire 0)).isOverlong = false ∧
          ∃ text place tree, sample.shown (.grimoire 0) = .ok text ∧
            readSource text = .ok (.program (.known 0 0) [.expression place tree]) ∧
              ∀ (machine : Machine) (fuel : Nat),
                (sample.portray (.grimoire 0)).height + 2 < fuel →
                  ∃ res after,
                    Eval.run fuel (.program (.known 0 0) [.expression place tree]) machine =
                        .ok res (machine.withStore after) ∧
                      machine.world.store.Keeps after ∧
                        after.portray res = sample.portray (.grimoire 0) := by
  have portrait : sample.portray (.grimoire 0) =
      .dict [(.rune 1, .list [.rune (-3), .charm true, .scroll "~ a,\n]"]), (.scroll "", .void)] :=
    rfl
  have typeable : (sample.portray (.grimoire 0)).Typeable := by
    rw [portrait]
    have items : (Datum.list [.rune (-3), .charm true, .scroll "~ a,\n]"]).Typeable :=
      .list (by simpa using ⟨.rune _, .charm _, .scroll (by decide)⟩)
    refine .dict (by simp [Datum.scalar?]) ?_ ?_ ?_
    · simpa using ⟨.rune _, .scroll (by decide)⟩
    · simpa using ⟨items, .void⟩
    · simp [Datum.Clash, Datum.scalar?, Value.sameKey, Value.identical, Value.scalarEqual,
        Value.quantity?]
  have short : (sample.portray (.grimoire 0)).isOverlong = false := by
    rw [portrait]
    decide +kernel
  have shown : sample.shown (.grimoire 0) =
      .ok "grimoire \x7b1: tome [-3, true, \"~ a,\n]\"], \"\": void\x7d" := by
    rw [shown_eq typeable, short]
    rfl
  exact ⟨shown, typeable, short, (shown_types_back typeable).2 short⟩

/-- An integer of one digit too many is not shown at all. -/
theorem no_text_beyond_limit :
    (Datum.rune (Nat.pow 10 Number.digitLimit)).Typeable ∧
      ({} : Store).portray (.rune (Nat.pow 10 Number.digitLimit)) =
        .rune (Nat.pow 10 Number.digitLimit) ∧
        ({} : Store).shown (.rune (Nat.pow 10 Number.digitLimit)) = .error .tooLongToWrite := by
  have typeable : (({} : Store).portray (.rune (Nat.pow 10 Number.digitLimit))).Typeable := .rune _
  refine ⟨.rune _, rfl, ?_⟩
  rw [shown_eq typeable, show ({} : Store).portray _ = .rune _ from rfl, Datum.isOverlong,
    Number.isWritable, Int.natAbs_natCast, decide_eq_false (Nat.lt_irrefl _)]
  rfl

end Store

end Spellbook
