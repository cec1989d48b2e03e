import Spellbook.Builtin.Canvas
import Spellbook.Proofs.Lexing.Numeral
import Spellbook.Proofs.Store.Descent
import Spellbook.Proofs.World.Record

/-!
# The tags of a page

The elements of a page are trees, and the tags in its text are met in the order in which one walks
around the trees: an opening tag, the tags of the content, the matching closing tag.  An element
without content has one tag of its own, whatever stands in it (`Builtin.weavePage_nests`).

An integer of too many digits keeps a page from being woven (`Builtin.overlong_not_woven`).
-/

namespace Spellbook

open List

namespace Page

/-! ## Tags in a text -/

inductive Tag where
  | opening (name : String)
  | closing (name : String)
  /-- A tag that closes itself. -/
  | single (name : String)
  deriving DecidableEq

/-- The tag of what stands between angle brackets. -/
def Tag.ofInside (inside : List Char) : Tag :=
  if inside.head? == some '/' then .closing (String.ofList inside.tail)
  else
    let name := String.ofList (inside.takeWhile Unicode.isAlphanumeric)
    if inside.getLast? == some '/' then .single name else .opening name

/-- The tags in a text.  `inside?` holds what was read of a tag so far, the last character first. -/
def tagsFrom : (inside? : Option (List Char)) → List Char → List Tag
  | _, [] => []
  | none, char :: rest => tagsFrom (if char == '<' then some [] else none) rest
  | some inside, char :: rest =>
    if char == '>' then .ofInside inside.reverse :: tagsFrom none rest
    else tagsFrom (some (char :: inside)) rest

/-- The tags of a text, in order. -/
def tagsIn (text : String) : List Tag := tagsFrom none text.toList

/-- Is the character none that tags begin or end with? -/
def isPlain (char : Char) : Bool := char != '<' && char != '>'

/-- The text has these tags, wherever it stands between tags. -/
def Bears (text : List Char) (tags : List Tag) : Prop :=
  ∀ rest, tagsFrom none (text ++ rest) = tags ++ tagsFrom none rest

namespace Bears

variable {text more : List Char} {tags moreTags : List Tag}

theorem append (first : Bears text tags) (second : Bears more moreTags) :
    Bears (text ++ more) (tags ++ moreTags) := by
  intro rest
  rw [append_assoc, first, second, append_assoc]

theorem of_plain (plain : text.all isPlain = true) : Bears text [] := by
  intro rest
  induction text with
  | nil => rfl
  | cons char text ih =>
    rw [all_cons, Bool.and_eq_true, isPlain, Bool.and_eq_true] at plain
    rw [cons_append, tagsFrom, beq_false_of_ne (bne_iff_ne.mp plain.1.1)]
    exact ih plain.2

theorem tagsFrom_inside {inside : List Char} (plain : text.all isPlain = true) (rest : List Char) :
    tagsFrom (some inside) (text ++ '>' :: rest) =
      .ofInside (inside.reverse ++ text) :: tagsFrom none rest := by
  induction text generalizing inside with
  | nil => rw [nil_append, append_nil, tagsFrom, if_pos (beq_self_eq_true _)]
  | cons char text ih =>
    rw [all_cons, Bool.and_eq_true, isPlain, Bool.and_eq_true] at plain
    rw [cons_append, tagsFrom, beq_false_of_ne (bne_iff_ne.mp plain.1.2),
      if_neg Bool.false_ne_true, ih plain.2, reverse_cons, append_assoc, singleton_append]

theorem tag (plain : text.all isPlain = true) : Bears ('<' :: text ++ ['>']) [.ofInside text] := by
  intro rest
  rw [append_assoc, singleton_append, cons_append, tagsFrom, if_pos (beq_self_eq_true _),
    tagsFrom_inside plain]
  rfl

/-- Line feeds between texts bear no tags. -/
theorem intercalate {α : Type} {items : List α} {texts : List String} {tags : α → List Tag}
    (each : Forall₂ (fun item text => Bears (String.toList text) (tags item)) items texts) :
    Bears (String.intercalate "\n" texts).toList (items.flatMap tags) := by
  rw [String.toList_intercalate]
  induction each with
  | nil => exact of_plain rfl
  | cons first rest ih =>
    cases rest with
    | nil =>
      rw [flatMap_singleton, map_singleton, intercalate_singleton]
      exact first
    | cons second rest =>
      rw [map_cons, map_cons, intercalate_cons_cons, flatMap_cons, append_assoc]
      exact first.append ((of_plain rfl).append ih)

end Bears

/-! ## Trees of elements -/

/-- A text, or an element with what stands in it. -/
inductive Tree where
  | text (words : String)
  | element (tag : String) (inside : List Tree)

namespace Tree

mutual

/-- The tags that are met on the way around a tree. -/
def tags : Tree → List Tag
  | text _ => []
  | element tag inside =>
    if emptyTags.contains tag then [.single tag]
    else .opening tag :: (tagsOfAll inside ++ [.closing tag])

def tagsOfAll : List Tree → List Tag
  | [] => []
  | tree :: trees => tree.tags ++ tagsOfAll trees

end

theorem tagsOfAll_eq (trees : List Tree) : tagsOfAll trees = trees.flatMap tags := by
  induction trees with
  | nil => rfl
  | cons tree trees ih => rw [tagsOfAll, ih, flatMap_cons]

end Tree

/-- The value has a text without angle brackets. -/
def HasPlainText (store : Store) (value : Value) : Prop :=
  ∃ text, store.plainText value = .ok text ∧ text.toList.all isPlain = true

/-- A word that may be the name of a tag. -/
def IsWord (tag : List Char) : Prop := tag ≠ [] ∧ tag.all Unicode.isAlphanumeric = true

/-- The record of an element with a word for a tag and with plain attributes. -/
structure Frames (store : Store) (ref : Nat) (tag : String) (content : Value) : Prop where
  typed : (store.grimoire ref).field? "type" = some (.scroll "element")
  tagged : (store.grimoire ref).field? "tag" = some (.scroll tag)
  filled : (store.grimoire ref).field? "content" = some content
  adorned : ∃ names, (store.grimoire ref).field? "attrs" = some (.grimoire names) ∧
    ∀ entry ∈ (store.grimoire names).toList, HasPlainText store entry.1 ∧ HasPlainText store entry.2
  word : IsWord tag.toList

/-- What stands in an element, part by part. -/
def parts (store : Store) : Value → List Value
  | .tome ref => (store.tome ref).toList
  | .void => []
  | value => [value]

/-- The value is a tree in the store. -/
inductive Depicts (store : Store) : Value → Tree → Prop where
  | text {words : String} (plain : words.toList.all isPlain = true) :
      Depicts store (.scroll words) (.text words)
  | integer {integer : Int} (short : Number.isWritable integer = true) :
      Depicts store (.rune integer) (.text (Number.integerText integer))
  | ofParts {ref : Nat} {tag : String} {content : Value} {trees : Value → Tree}
      (frames : Frames store ref tag content)
      (each : ∀ part ∈ parts store content, Depicts store part (trees part)) :
      Depicts store (.grimoire ref) (.element tag ((parts store content).map trees))

/-- A value depicts one tree at most. -/
theorem Depicts.unique {store : Store} {value : Value} {tree other : Tree}
    (depicts : Depicts store value tree) (depicts' : Depicts store value other) : tree = other := by
  induction depicts generalizing other with
  | text =>
    cases depicts'
    rfl
  | integer =>
    cases depicts'
    rfl
  | ofParts frames each ih =>
    cases depicts' with
    | ofParts frames' each' =>
      cases frames.tagged.symm.trans frames'.tagged
      cases frames.filled.symm.trans frames'.filled
      congr 1
      exact map_congr_left fun part mem => ih part mem (each' part mem)

/-- What can be made of every item can be made of all of them. -/
theorem mapM_of_each {α β : Type} {make : α → Except Fault β} {fits : α → β → Prop} {items : List α}
    (each : ∀ item ∈ items, ∃ res, make item = .ok res ∧ fits item res) :
    ∃ results, items.mapM make = .ok results ∧ Forall₂ fits items results := by
  induction items with
  | nil => exact ⟨[], rfl, .nil⟩
  | cons item items ih =>
    obtain ⟨⟨res, made, fit⟩, others⟩ := forall_mem_cons.mp each
    obtain ⟨results, all, fitting⟩ := ih others
    refine ⟨res :: results, ?_, .cons fit fitting⟩
    rw [mapM_cons, made, all]
    rfl

/-- A text without angle brackets that ends in a quote. -/
def IsQuoted (text : List Char) : Prop := text.all isPlain = true ∧ text.getLast? = some '"'

theorem isQuoted_intercalate {α : Type} {items : List α} {texts : List String}
    (each : Forall₂ (fun _ text => IsQuoted text.toList) items texts) (some : items ≠ []) :
    IsQuoted (String.intercalate " " texts).toList := by
  rw [String.toList_intercalate]
  induction each with
  | nil => exact absurd rfl some
  | cons first rest ih =>
    cases rest with
    | nil =>
      rw [map_singleton, intercalate_singleton]
      exact first
    | cons second rest =>
      have others := ih (cons_ne_nil _ _)
      rw [map_cons] at others ⊢
      rw [map_cons, intercalate_cons_cons]
      refine ⟨?_, ?_⟩
      · rw [all_append, all_append, first.1, others.1]
        rfl
      · rw [getLast?_append, others.2]
        rfl

/-- The attributes of an element have no angle brackets, begin with a blank and end in a quote. -/
theorem attributes_ok {store : Store} {names : Nat}
    (each : ∀ entry ∈ (store.grimoire names).toList,
      HasPlainText store entry.1 ∧ HasPlainText store entry.2) :
    ∃ text, attributes store (.grimoire names) = .ok text ∧
      (text.toList = [] ∨ ∃ quoted, text.toList = ' ' :: quoted ∧ IsQuoted quoted) := by
  have written : ∃ texts,
      writeEntries store (fun name text => name ++ "=\"" ++ text ++ "\"") (.grimoire names) =
          .ok texts ∧
        Forall₂ (fun _ text => IsQuoted text.toList) (store.grimoire names).toList texts := by
    apply mapM_of_each
    rintro ⟨key, value⟩ member
    obtain ⟨⟨name, named, plain⟩, ⟨text, valued, plain'⟩⟩ := each _ member
    dsimp only at named valued ⊢
    refine ⟨name ++ "=\"" ++ text ++ "\"", by rw [named, valued]; rfl, ?_, ?_⟩
    · simp [plain, plain', isPlain]
    · rw [String.toList_append, getLast?_append]
      rfl
  obtain ⟨texts, written, quoted⟩ := written
  rw [attributes]
  split
  case isFalse => exact ⟨"", rfl, .inl rfl⟩
  case isTrue some =>
    have some : (store.grimoire names).toList ≠ [] := by simpa [Store.isTruthy] using some
    refine ⟨" " ++ String.intercalate " " texts, by rw [written]; rfl,
      .inr ⟨_, String.toList_append, isQuoted_intercalate quoted some⟩⟩

/-! ## The tags of an element -/

theorem isPlain_of_isAlphanumeric {char : Char} (part : Unicode.isAlphanumeric char = true) :
    isPlain char = true ∧ char ≠ '/' := by
  have others : ['/', '<', '>'].all (!Unicode.isAlphanumeric ·) = true := by decide +kernel
  have unlike (other) (mem : other ∈ ['/', '<', '>']) : char ≠ other := by
    rintro rfl
    have away := all_eq_true.mp others char mem
    rw [part] at away
    cases away
  simp [isPlain, unlike]

namespace IsWord

variable {tag rest : List Char} (word : IsWord tag)

include word

theorem isPlain : tag.all isPlain = true :=
  all_eq_true.mpr fun char mem =>
    (isPlain_of_isAlphanumeric (all_eq_true.mp word.2 char mem)).1

theorem takeWhile (stops : ∀ first ∈ rest.head?, first = ' ') :
    (tag ++ rest).takeWhile Unicode.isAlphanumeric = tag := by
  apply takeWhile_run (all_eq_true.mp word.2)
  intro first mem
  rw [stops first mem]
  decide +kernel

theorem head_ne : ((tag ++ rest).head? == some '/') = false := by
  obtain ⟨first, others, rfl⟩ := exists_cons_of_ne_nil word.1
  have part := all_eq_true.mp word.2 first mem_cons_self
  rw [cons_append, head?_cons, beq_eq_false_iff_ne]
  rintro ⟨⟩
  exact (isPlain_of_isAlphanumeric part).2 rfl

variable {attributes : List Char}
  (shape : attributes = [] ∨ ∃ quoted, attributes = ' ' :: quoted ∧ IsQuoted quoted)

include shape

theorem ofInside_single :
    Tag.ofInside (tag ++ attributes ++ [' ', '/']) = .single (String.ofList tag) := by
  have stops : ∀ first ∈ (attributes ++ [' ', '/']).head?, first = ' ' := by
    rcases shape with rfl | ⟨quoted, rfl, -⟩ <;>
      · rintro _ ⟨⟩
        rfl
  rw [append_assoc, Tag.ofInside, word.head_ne, word.takeWhile stops]
  simp

theorem ofInside_opening : Tag.ofInside (tag ++ attributes) = .opening (String.ofList tag) := by
  have stops : ∀ first ∈ attributes.head?, first = ' ' := by
    rcases shape with rfl | ⟨quoted, rfl, -⟩ <;> rintro _ ⟨⟩
    rfl
  have ends : ((tag ++ attributes).getLast? == some '/') = false := by
    rw [beq_eq_false_iff_ne]
    intro slash
    rcases shape with rfl | ⟨quoted, rfl, isQuoted⟩
    · rw [append_nil] at slash
      have part := all_eq_true.mp word.2 '/' (mem_of_getLast? slash)
      exact (isPlain_of_isAlphanumeric part).2 rfl
    · rw [getLast?_append, getLast?_cons, isQuoted.2] at slash
      cases slash
  rw [Tag.ofInside, word.head_ne, word.takeWhile stops, ends]
  rfl

end IsWord

section Element

variable {store : Store} {ref fuel : Nat} {tag inner : String} {value : Value}
  {tags : List Tag}

theorem Frames.record?_eq (frames : Frames store ref tag value) :
    record? store "element" (.grimoire ref) = some (store.grimoire ref) := by
  have typed : Entries.get? (store.grimoire ref) (.scroll "type") =
    some (.scroll "element") := frames.typed
  simp only [record?, typed, beq_self_eq_true, if_true]

theorem Frames.present (frames : Frames store ref tag value) :
    .grimoire ref ∈ store.collections := by
  have typed := frames.typed
  rw [Entries.field?, Entries.get?_eq_find?] at typed
  obtain ⟨entry, found, -⟩ := Option.map_eq_some_iff.mp typed
  exact Store.grimoire_mem_of_entry (mem_of_find?_eq_some found)

theorem Frames.bare {names : Nat}
    (typed : (store.grimoire ref).field? "type" = some (.scroll "element"))
    (tagged : (store.grimoire ref).field? "tag" = some (.scroll tag))
    (filled : (store.grimoire ref).field? "content" = some value)
    (adorned : (store.grimoire ref).field? "attrs" = some (.grimoire names))
    (none : (store.grimoire names).toList = []) (word : IsWord tag.toList) :
    Frames store ref tag value :=
  ⟨typed, tagged, filled, ⟨names, adorned, by rw [none]; nofun⟩, word⟩

theorem field_of_some {entries : Entries} {name : String}
    (found : entries.field? name = some value) : field entries name = .ok value := by
  have found : entries.get? (.scroll name) = some value := found
  rw [field, found]

/-- An element is written around its content. -/
theorem Frames.element_eq (frames : Frames store ref tag value) (fuel : Nat) :
    ∃ attributes : String,
      (attributes.toList = [] ∨ ∃ quoted, attributes.toList = ' ' :: quoted ∧ IsQuoted quoted) ∧
        element store (fuel + 1) (.grimoire ref) =
          (content store (element store fuel) value).map fun inner =>
            if emptyTags.contains tag then "<" ++ tag ++ attributes ++ " />"
            else "<" ++ tag ++ attributes ++ ">" ++ inner ++ "</" ++ tag ++ ">" := by
  obtain ⟨names, adorned, plain⟩ := frames.adorned
  obtain ⟨attributes, attributed, shape⟩ := attributes_ok plain
  refine ⟨attributes, shape, ?_⟩
  have adorned : Entries.get? (store.grimoire ref) (.scroll "attrs") =
    some (.grimoire names) := adorned
  rw [element, frames.record?_eq]
  simp only [field_of_some frames.tagged, field_of_some frames.filled, adorned, attributed]
  · change (content store (element store fuel) value >>= _) = _
    cases content store (element store fuel) value with
    | error fault => rfl
    | ok inner =>
      change (if emptyTags.contains tag = true then pure _ else pure _) = Except.ok _
      split <;> rfl
  · rintro _ ⟨⟩

/-- The tags of an element are around those of its content. -/
theorem Frames.element_ok (frames : Frames store ref tag value)
    (written : content store (element store fuel) value = .ok inner)
    (bears : Bears inner.toList tags) :
    ∃ text, element store (fuel + 1) (.grimoire ref) = .ok text ∧
      Bears text.toList (if emptyTags.contains tag then [.single tag]
        else .opening tag :: (tags ++ [.closing tag])) := by
  obtain ⟨attributeText, shape, made⟩ := frames.element_eq fuel
  rw [written] at made
  refine ⟨_, made, ?_⟩
  have attributes : attributeText.toList.all isPlain = true := by
    rcases shape with none | ⟨quoted, same, plain, -⟩
    · rw [none]
      rfl
    · rw [same, all_cons, plain]
      rfl
  have word := frames.word
  split
  · have single := Bears.tag (by simp [word.isPlain, attributes, isPlain] :
      (tag.toList ++ attributeText.toList ++ [' ', '/']).all isPlain = true)
    rw [word.ofInside_single shape, String.ofList_toList] at single
    simpa using single
  · have opening := Bears.tag (by simp [word.isPlain, attributes] :
      (tag.toList ++ attributeText.toList).all isPlain = true)
    have closing := Bears.tag (by simp [word.isPlain, isPlain] :
      ('/' :: tag.toList).all isPlain = true)
    rw [word.ofInside_opening shape, String.ofList_toList] at opening
    have whole := opening.append (bears.append closing)
    simpa [Tag.ofInside] using whole

theorem content_rune (write : Value → Except Fault String) (int : Int) :
    content store write (.rune int) = Number.textOfInteger int := by
  have other : (record? store "element" (.rune int)).isSome = false := rfl
  have same : store.plainText (.rune int) = Number.textOfInteger int := rfl
  rw [content, other, if_neg Bool.false_ne_true, same]
  · nofun
  · nofun

theorem content_of_parts {write : Value → Except Fault String} {texts : List String}
    (plain : ∀ part ∈ parts store value, record? store "element" part = none →
      write part = store.plainText part)
    (written : (parts store value).mapM write = .ok texts) :
    content store write value = .ok (String.intercalate "\n" texts) := by
  have single (one : parts store value = [value])
      (unfolded : content store write value =
        if (record? store "element" value).isSome then write value else store.plainText value) :
      content store write value = .ok (String.intercalate "\n" texts) := by
    rw [one] at written plain
    have text : write value = .ok (String.intercalate "\n" texts) := by
      rw [mapM_cons] at written
      cases made : write value with
      | error failure =>
        rw [made] at written
        cases written
      | ok text =>
        rw [made] at written
        cases written
        rfl
    rw [unfolded]
    cases recorded : record? store "element" value with
    | some entries => exact text
    | none => exact (plain value mem_cons_self recorded).symm.trans text
  cases value with
  | tome items =>
    rw [parts] at written
    rw [content, written]
    rfl
  | void =>
    cases written
    rfl
  | _ => exact single rfl rfl

theorem element_of_plain (plain : record? store "element" value = none) :
    element store (fuel + 1) value = store.plainText value := by
  cases value with
  | scroll words => rfl
  | _ =>
    rw [element, plain]
    rintro _ ⟨⟩

theorem all_isPlain_integerText (int : Int) :
    (Number.integerText int).toList.all isPlain = true := by
  have digits : (Nat.toDigits 10 int.natAbs).all isPlain = true := by
    rw [all_eq_true]
    intro digit mem
    have decimal := Nat.isDigit_of_mem_toDigits (by decide) (by decide) mem
    rw [isPlain, Bool.and_eq_true, bne_iff_ne, bne_iff_ne]
    refine ⟨?_, ?_⟩ <;>
      · rintro rfl
        cases decimal
  rw [Number.integerText]
  split <;> simp [Nat.toList_repr, digits, isPlain]

end Element

/--
A tree is written as a text that bears its tags.  Nothing that a value is inside of is smaller than
its tree, so the way down never comes back to an element, and there is room for it.
-/
theorem Depicts.written {store : Store} {value : Value} {tree : Tree}
    (depicts : Depicts store value tree) {fuel : Nat} {above : List Store.Ancestor}
    (descent : store.Descent above)
    (larger : ∀ ref, .grimoire ref ∈ above → ∀ other,
      Depicts store (.grimoire ref) other → sizeOf tree < sizeOf other)
    (room : store.depth < fuel + above.length) :
    ∃ text, element store fuel value = .ok text ∧ Bears text.toList tree.tags := by
  induction depicts generalizing fuel above with
  | @text words plain =>
    refine ⟨words, by cases fuel <;> rfl, ?_⟩
    rw [Tree.tags]
    exact .of_plain plain
  | @integer int short =>
    have short' := descent.length_lt_depth
    obtain ⟨fuel, rfl⟩ : ∃ less, fuel = less + 1 := ⟨fuel - 1, by omega⟩
    refine ⟨Number.integerText int, ?_, ?_⟩
    · have written : store.plainText (.rune int) = Number.textOfInteger int := rfl
      rw [element_of_plain rfl, written, Number.textOfInteger, if_pos short]
    · rw [Tree.tags]
      exact .of_plain (all_isPlain_integerText int)
  | @ofParts ref tag value trees frames each ih =>
    have depicts := Depicts.ofParts frames each
    have fresh : .grimoire ref ∉ above := fun mem =>
      Nat.lt_irrefl _ (larger ref mem _ depicts)
    have further := descent.further frames.present fresh
    have short := further.length_lt_depth
    rw [length_cons] at short
    obtain ⟨fuel, rfl⟩ : ∃ less, fuel = less + 2 := ⟨fuel - 2, by omega⟩
    have written (part) (mem : part ∈ parts store value) :
        ∃ text, element store (fuel + 1) part = .ok text ∧
          Bears text.toList (trees part).tags := by
      have less :
          sizeOf (trees part) < sizeOf (Tree.element tag ((parts store value).map trees)) := by
        have inside := sizeOf_lt_of_mem (mem_map_of_mem (f := trees) mem)
        rw [Tree.element.sizeOf_spec]
        omega
      refine ih part mem further (fun other inside tree depicts' => ?_) ?_
      · rcases mem_cons.mp inside with same | inside
        · cases same
          rwa [← depicts.unique depicts']
        · exact Nat.lt_trans less (larger other inside tree depicts')
      · rw [length_cons]
        omega
    obtain ⟨texts, made, bear⟩ := mapM_of_each written
    have inner := content_of_parts (fun part _ => element_of_plain) made
    rw [Tree.tags, Tree.tagsOfAll_eq, flatMap_map]
    exact frames.element_ok inner (.intercalate bear)

theorem body_ok {store : Store} {items : List Value} {trees : Value → Tree}
    (each : ∀ item ∈ items, Depicts store item (trees item)) :
    ∃ text, body store items = .ok text ∧
      tagsIn text = items.flatMap fun item => (trees item).tags := by
  have written (item) (mem : item ∈ items) :
      ∃ text, element store (store.depth + 1) item = .ok text ∧
        Bears text.toList (trees item).tags :=
    (each item mem).written (.start store) (fun _ inside => absurd inside not_mem_nil)
      (Nat.lt_succ_self _)
  obtain ⟨texts, made, bear⟩ := mapM_of_each written
  refine ⟨String.intercalate "\n" texts, by rw [body, made]; rfl, ?_⟩
  have all := Bears.intercalate bear []
  rwa [append_nil, tagsFrom, append_nil] at all

end Page

namespace Builtin

open Spellbook.Action Page

/-- The record of a canvas with its title, its style rules and its body. -/
structure IsCanvas (world : World) (ref : Nat) (title : String) (rules items : Nat) :
    Prop where
  titled : (world.record ref).field? "title" = some (.scroll title)
  styled : (world.record ref).field? "styles" = some (.tome rules)
  filled : (world.record ref).field? "body" = some (.tome items)

theorem field?_of_some {world : World} {ref : Nat} {name : String} {value : Value}
    (found : (world.record ref).field? name = some value) :
    Action.field? ref name world = .ok (some value) world := by
  rw [← found]
  rfl

theorem partOf_of_tome {world : World} {ref items : Nat} {part : String}
    (found : (world.record ref).field? part = some (.tome items)) :
    partOf ref part world = .ok (world.store.tome items).toList world := by
  rw [partOf, bind_of_ok (field?_of_some found)]
  rfl

/-- The page of a canvas has the body of the canvas in it. -/
theorem weavePage_eq {world : World} {ref rules items : Nat} {title css : String}
    (canvas : IsCanvas world ref title rules items)
    (styled : Page.styles world.store (world.store.tome rules).toList = .ok css) :
    weavePage [.grimoire ref] world =
      (ofResult (Page.body world.store (world.store.tome items).toList) >>= fun body =>
        pure (.scroll (Page.frame title css body)) : Action Value) world := by
  have titled : fieldOr ref "title" (.scroll "Untitled") world =
      .ok (.scroll title) world := by
    rw [fieldOr, bind_of_ok (field?_of_some canvas.titled)]
    rfl
  have woven : weave (.grimoire ref) world =
      (ofResult (Page.body world.store (world.store.tome items).toList) >>= fun body =>
        pure (Page.frame title css body) : Action String) world := by
    rw [weave, bind_of_ok titled, bind_of_ok (partOf_of_tome canvas.styled)]
    change (ofResult (Page.styles world.store _) >>= _) world = _
    rw [styled]
    change ((partOf ref "body") >>= _) world = _
    rw [bind_of_ok (partOf_of_tome canvas.filled)]
    rfl
  change (weave (.grimoire ref) >>= _) world = _
  cases written : Page.body world.store (world.store.tome items).toList with
  | error fault =>
    rw [written] at woven
    rw [bind_of_error woven]
    rfl
  | ok body =>
    rw [written] at woven
    rw [bind_of_ok woven]
    rfl

/--
A canvas in whose body every item is a text or a tree of elements is woven into a page, and the tags
in the body of the page are those that are met on the way around the trees, one after the other.
-/
theorem weavePage_nests {world : World} {ref rules items : Nat} {title css : String}
    (canvas : IsCanvas world ref title rules items)
    (styled : Page.styles world.store (world.store.tome rules).toList = .ok css)
    {trees : Value → Tree}
    (each : ∀ item ∈ (world.store.tome items).toList, Depicts world.store item (trees item)) :
    ∃ body, weavePage [.grimoire ref] world =
        .ok (.scroll (Page.frame title css body)) world ∧
      tagsIn body = (world.store.tome items).toList.flatMap fun item => (trees item).tags := by
  obtain ⟨body, written, tags⟩ := body_ok each
  refine ⟨body, ?_, tags⟩
  rw [weavePage_eq canvas styled, written]
  rfl

/-- A world with a canvas: a text, and an element in which a list holds a text and an image. -/
def gallery : World := left ((do
  let canvas ← conjureCanvas [.scroll "Gallery"]
  let image ← enchantElement [.scroll "img", .scroll "none", ← newRecord [("src", .scroll "a.png")]]
  let list ← enchantElement [.scroll "ul", ← newTome [.scroll "one", image]]
  appendToCanvas [← appendToCanvas [canvas, .scroll "hello"], list]) {})

/-- The trees of that canvas. -/
def galleryTree : Value → Tree
  | .scroll words => .text words
  | .grimoire 2 => .element "img" [.text "none"]
  | _ => .element "ul" [.text "one", .element "img" [.text "none"]]

theorem weavePage_nests_gallery :
    IsCanvas gallery 0 "Gallery" 0 1 ∧
      ∃ body, weavePage [.grimoire 0] gallery =
          .ok (.scroll (Page.frame "Gallery" "" body)) gallery ∧
        tagsIn body = [.opening "ul", .single "img", .closing "ul"] := by
  have canvas : IsCanvas gallery 0 "Gallery" 0 1 := ⟨rfl, rfl, rfl⟩
  have text (words) (plain : words.toList.all isPlain = true) :
      Depicts gallery.store (.scroll words) (galleryTree (.scroll words)) := .text plain
  have image : Depicts gallery.store (.grimoire 2) (galleryTree (.grimoire 2)) := by
    have frames : Frames gallery.store 2 "img" (.scroll "none") := by
      refine ⟨rfl, rfl, rfl, ⟨1, rfl, ?_⟩, by decide, by decide +kernel⟩
      rintro entry (_ | ⟨_, ⟨⟩⟩)
      exact ⟨⟨"src", rfl, rfl⟩, ⟨"a.png", rfl, rfl⟩⟩
    exact .ofParts frames fun part member => by
      cases mem_singleton.mp member
      exact text _ rfl
  have list : Depicts gallery.store (.grimoire 4) (galleryTree (.grimoire 4)) := by
    have frames : Frames gallery.store 4 "ul" (.tome 2) :=
      .bare rfl rfl rfl rfl rfl ⟨by decide, by decide +kernel⟩
    exact .ofParts frames fun part member => by
      rcases mem_cons.mp member with rfl | member
      · exact text _ rfl
      · cases mem_singleton.mp member
        exact image
  have each : ∀ item ∈ (gallery.store.tome 1).toList,
      Depicts gallery.store item (galleryTree item) := by
    intro item member
    rcases mem_cons.mp member with rfl | member
    · exact text _ rfl
    · cases mem_singleton.mp member
      exact list
  have met : ((gallery.store.tome 1).toList.flatMap fun item => (galleryTree item).tags) =
      [.opening "ul", .single "img", .closing "ul"] := by decide +kernel
  rw [← met]
  exact ⟨canvas, weavePage_nests canvas rfl each⟩

/-! ## Integers that are too long -/

/-- A world with a canvas in whose body an element holds the integer. -/
def ledger (int : Int) : World := left ((do
  let canvas ← conjureCanvas [.scroll "Ledger"]
  appendToCanvas [canvas, ← enchantElement [.scroll "p", .rune int]]) {})

/-- A page is not woven when an integer in it has a digit too many. -/
theorem overlong_not_woven :
    IsCanvas (ledger (Nat.pow 10 Number.digitLimit)) 0 "Ledger" 0 1 ∧
      ((ledger (Nat.pow 10 Number.digitLimit)).store.tome 1).toList = [.grimoire 2] ∧
        Frames (ledger (Nat.pow 10 Number.digitLimit)).store 2 "p"
            (.rune (Nat.pow 10 Number.digitLimit)) ∧
          weavePage [.grimoire 0] (ledger (Nat.pow 10 Number.digitLimit)) =
            .error (.fault .tooLongToWrite) (ledger (Nat.pow 10 Number.digitLimit)) := by
  have overlong : Number.textOfInteger (Nat.pow 10 Number.digitLimit) = .error .tooLongToWrite := by
    rw [Number.textOfInteger, Number.isWritable, Int.natAbs_natCast,
      decide_eq_false (Nat.lt_irrefl _)]
    rfl
  -- Nothing else depends on the integer, which would be too long to compute with.
  generalize ((Nat.pow 10 Number.digitLimit : Nat) : Int) = integer at overlong ⊢
  have sheet : (ledger integer).record 0 =
    #[(.scroll "title", .scroll "Ledger"), (.scroll "styles", .tome 0),
      (.scroll "body", .tome 1)] := rfl
  have canvas : IsCanvas (ledger integer) 0 "Ledger" 0 1 := by
    constructor
    all_goals
      rw [sheet]
      rfl
  have recorded : (ledger integer).store.grimoire 2 =
      #[(.scroll "type", .scroll "element"), (.scroll "tag", .scroll "p"),
        (.scroll "content", .rune integer), (.scroll "attrs", .grimoire 1)] := rfl
  have frames : Frames (ledger integer).store 2 "p" (.rune integer) := by
    have bare : ((ledger integer).store.grimoire 1).toList = [] := rfl
    apply Frames.bare _ _ _ _ bare
    · exact ⟨by decide, by decide +kernel⟩
    all_goals
      rw [recorded]
      rfl
  have items : ((ledger integer).store.tome 1).toList = [.grimoire 2] := rfl
  have unwritten : Page.body (ledger integer).store [.grimoire 2] = .error .tooLongToWrite := by
    obtain ⟨attributes, -, made⟩ := frames.element_eq (ledger integer).store.depth
    rw [content_rune, overlong] at made
    rw [Page.body, mapM_cons, made]
    rfl
  have styled : Page.styles (ledger integer).store ((ledger integer).store.tome 0).toList =
    .ok "" := rfl
  refine ⟨canvas, items, frames, ?_⟩
  rw [weavePage_eq canvas styled, items, unwritten]
  rfl

end Builtin

end Spellbook
