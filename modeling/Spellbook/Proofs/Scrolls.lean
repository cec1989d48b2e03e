import Mathlib.Data.List.Induction
import Spellbook.Builtin.Scroll
import Spellbook.Proofs.World.Locations

/-!
# Scrolls as texts under names

The builtins for whole files act on a map from names to texts. What a name holds after any calls is
told by the calls alone (`ScrollCall.held`), and it is this text that is read, with its line ends
unified as a whole. A call leaves everything as it is except the file that it names.
-/

namespace Spellbook

open List

/-- A call of a builtin for whole files. -/
inductive ScrollCall where
  | inscribe (name text : String)
  | chronicle (name text : String)
  | banish (name : String)
  | inquire (name : String)
  | decipher (name : String)

namespace ScrollCall

def name : ScrollCall → String
  | inscribe name _ | chronicle name _ | banish name | inquire name | decipher name => name

def act : ScrollCall → Action Value
  | inscribe name text => Builtin.inscribeScroll [.scroll name, .scroll text]
  | chronicle name text => Builtin.chronicleScroll [.scroll name, .scroll text]
  | banish name => Builtin.banishScroll [.scroll name]
  | inquire name => Builtin.scrollExists [.scroll name]
  | decipher name => Builtin.decipherScroll [.scroll name]

/-- The world after a call, however it ends. -/
def after (call : ScrollCall) (world : World) : World := Action.left (call.act world)

def afterAll (calls : List ScrollCall) (world : World) : World :=
  calls.foldl (fun world call => call.after world) world

/-! ## What a name holds -/

/-- Does the call make the earlier text of the name irrelevant? -/
def settles (name : String) : ScrollCall → Bool
  | inscribe own _ | banish own => own == name
  | _ => false

/-- The text that a call that settles a name leaves there. -/
def settlement : ScrollCall → Option String
  | inscribe _ text => some text
  | _ => none

/-- The text that the call adds to the name. -/
def addition? (name : String) : ScrollCall → Option String
  | chronicle own text => if own == name then some text else none
  | _ => none

/-- What the last call that settled the name left there, or else what it held at first. -/
def settled (name : String) (first : Option String) (calls : List ScrollCall) : Option String :=
  (calls.reverse.find? (settles name)).elim first settlement

/-- The texts that were added to the name since a call settled it. -/
def additions (name : String) (calls : List ScrollCall) : List String :=
  ((calls.reverse.takeWhile fun call => !call.settles name).filterMap (addition? name)).reverse

/-- What the name holds after calls. -/
def held (name : String) (first : Option String) (calls : List ScrollCall) : Option String :=
  if (additions name calls).isEmpty then settled name first calls
  else some ((settled name first calls).getD "" ++ String.join (additions name calls))

/-- What a call leaves under its own name. -/
def leaves : ScrollCall → Option String → Option String
  | inscribe _ text, _ => some text
  | chronicle _ text, text? => some (text?.getD "" ++ text)
  | banish _, _ => none
  | inquire _, text? | decipher _, text? => text?

section History

variable {name : String} {first : Option String} {calls : List ScrollCall} {call : ScrollCall}

theorem settled_concat :
    settled name first (calls ++ [call]) =
      if call.settles name then call.settlement else settled name first calls := by
  rw [settled, reverse_append, reverse_singleton, singleton_append, List.find?_cons]
  cases call.settles name <;> rfl

theorem additions_concat :
    additions name (calls ++ [call]) =
      if call.settles name then [] else additions name calls ++ (call.addition? name).toList := by
  rw [additions, reverse_append, reverse_singleton, singleton_append, takeWhile_cons]
  cases call.settles name with
  | true => rfl
  | false =>
    rw [Bool.not_false, if_pos rfl, filterMap_cons]
    cases call.addition? name with
    | none => simp [additions]
    | some text => simp [additions]

theorem held_concat_of_settles (settles : call.settles name = true) :
    held name first (calls ++ [call]) = call.settlement := by
  rw [held, additions_concat, settled_concat, if_pos settles, if_pos settles]
  rfl

theorem held_concat_of_addition (settles : call.settles name = false) {text : String}
    (adds : call.addition? name = some text) :
    held name first (calls ++ [call]) = some ((held name first calls).getD "" ++ text) := by
  have unsettled : ¬call.settles name = true := Bool.eq_false_iff.mp settles
  rw [held, held, additions_concat, settled_concat, if_neg unsettled, if_neg unsettled, adds]
  cases additions name calls with
  | nil => simp [String.join]
  | cons earlier others => simp [String.join, String.append_assoc]

theorem held_concat_of_other (settles : call.settles name = false)
    (adds : call.addition? name = none) :
    held name first (calls ++ [call]) = held name first calls := by
  have unsettled : ¬call.settles name = true := Bool.eq_false_iff.mp settles
  rw [held, held, additions_concat, settled_concat, if_neg unsettled, if_neg unsettled, adds,
    Option.toList_none, append_nil]

/-- A call turns what its name held into what it leaves there. -/
theorem held_concat_self :
    held call.name first (calls ++ [call]) = call.leaves (held call.name first calls) := by
  cases call with
  | inscribe own text => exact held_concat_of_settles (beq_self_eq_true own)
  | banish own => exact held_concat_of_settles (beq_self_eq_true own)
  | chronicle own text => exact held_concat_of_addition rfl (if_pos (beq_self_eq_true own))
  | inquire own => exact held_concat_of_other rfl rfl
  | decipher own => exact held_concat_of_other rfl rfl

/-- A call is of no account for other names. -/
theorem held_concat_of_ne (unlike : call.name ≠ name) :
    held name first (calls ++ [call]) = held name first calls := by
  cases call with
  | inscribe own text => exact held_concat_of_other (beq_false_of_ne unlike) rfl
  | banish own => exact held_concat_of_other (beq_false_of_ne unlike) rfl
  | chronicle own text =>
    exact held_concat_of_other rfl (if_neg (Bool.eq_false_iff.mp (beq_false_of_ne unlike)))
  | inquire own => exact held_concat_of_other rfl rfl
  | decipher own => exact held_concat_of_other rfl rfl

end History

/-! ## Answers -/

/-- The error for a file that is not there. -/
def notFound (name : String) : Trouble := .told .scrollDamaged ("Scroll not found: " ++ name)

/-- The answer to a call whose name holds a text, or nothing. -/
def answer : ScrollCall → Option String → Except Trouble Value
  | inscribe _ text, _ | chronicle _ text, _ => .ok (.rune text.length)
  | inquire _, text? => .ok (.charm text?.isSome)
  | banish _, some _ => .ok (.charm true)
  | decipher _, some text => .ok (.scroll (String.ofList (Text.unifyNewlines text.toList)))
  | banish name, none | decipher name, none => .error (notFound name)

/-- May the call change anything, if its name holds a text or nothing? -/
def alters : ScrollCall → Option String → Bool
  | inscribe .., _ | chronicle .., _ => true
  | banish _, text? => text?.isSome
  | inquire _, _ | decipher _, _ => false

end ScrollCall

/-- A plain name that is not denied, under which there is a file with the text, or nothing. -/
structure World.Holds (world : World) (name : String) (text? : Option String) : Prop where
  plain : FileTree.IsPlain name
  allowed : world.denied.contains name = false
  keeps : world.files.Keeps name text?

namespace ScrollCall

/--
A call on a name that holds a text, or nothing, gives the answer to that, and then the files are
as before except that the name holds what the call leaves.
-/
structure Ends (call : ScrollCall) (text? : Option String) (world : World) (files : FileTree) :
    Prop where
  act_eq : call.act world = Action.ending (call.answer text?) { world with files }
  orderly : files.Orderly
  keeps : files.Keeps call.name (call.leaves text?)
  elsewhere : ∀ location ≠ [call.name], files.sight? location = world.files.sight? location
  unaltered : call.alters text? = false → files = world.files

section Step

open Spellbook.Action

variable {world : World} {name text : String} {text? : Option String}

theorem text_scroll (world : World) (words : String) :
    Action.text (.scroll words) world = .ok words world :=
  text_of_ok rfl

/-- A call that asks, or that fails, leaves the files as they are. -/
theorem Ends.of_unaltered {call : ScrollCall} (orderly : world.files.Orderly)
    (holds : world.Holds call.name text?) (same : call.leaves text? = text?)
    (acts : call.act world = ending (call.answer text?) world) :
    call.Ends text? world world.files where
  act_eq := acts
  orderly := orderly
  keeps := by
    rw [same]
    exact holds.keeps
  elsewhere _ _ := rfl
  unaltered _ := rfl

theorem writeScroll_of_written (verb : String) {keep : Bool} {files : FileTree}
    (written : writeFile name keep text world = .ok () { world with files }) :
    Builtin.writeScroll verb keep (.scroll name) (.scroll text) world =
      .ok (.rune text.length) { world with files } := by
  rw [Builtin.writeScroll, bind_of_ok (text_scroll world name), bind_of_ok (text_scroll world text),
    bind_of_ok (recover_of_ok written)]
  rfl

/-- Writing and extending a file end alike. -/
theorem exists_written (orderly : world.files.Orderly) (holds : world.Holds name text?)
    (verb : String) (keep : Bool) (text : String) :
    ∃ files : FileTree, Builtin.writeScroll verb keep (.scroll name) (.scroll text) world =
        .ok (.rune text.length) { world with files } ∧ files.Orderly ∧
      files.Keeps name (some ((if keep then text?.getD "" else "") ++ text)) ∧
      ∀ loc ≠ [name], files.sight? loc = world.files.sight? loc := by
  rcases orderly.written holds.plain holds.keeps keep text with
    ⟨pos, later, opens, orderly, seen⟩
  refine ⟨_, writeScroll_of_written verb (writeFile_of_keep holds.allowed opens text), orderly, ?_,
    fun loc elsewhere => (seen loc).trans (if_neg elsewhere)⟩
  exact (seen [name]).trans (if_pos rfl)

theorem banish_of_missing (holds : world.Holds name none) :
    (banish name).act world = .error (notFound name) world := by
  have removes : removeFile name world = .error (.fault (.noSuchFile name)) world := by
    rw [removeFile, bind_of_ok (checkAccess_of_allowed holds.allowed)]
    change (ofResult (world.files.removeFile name) >>= _) world = _
    rw [holds.plain.removeFile_of_missing holds.keeps.missing]
    rfl
  rw [act, Builtin.banishScroll, bind_of_ok (text_scroll world name)]
  exact bind_of_error (recover_of_error removes)

theorem banish_of_existing (holds : world.Holds name (some text)) :
    (banish name).act world =
      .ok (.charm true) { world with files := world.files.removeEntries (· == [name]) } := by
  obtain ⟨pos, there, -⟩ := holds.keeps.existing
  have removes : removeFile name world =
      .ok () { world with files := world.files.removeEntries (· == [name]) } := by
    rw [removeFile, bind_of_ok (checkAccess_of_allowed holds.allowed)]
    change (ofResult (world.files.removeFile name) >>= _) world = _
    rw [holds.plain.removeFile_of_file there]
    rfl
  rw [act, Builtin.banishScroll, bind_of_ok (text_scroll world name)]
  exact bind_of_ok (recover_of_ok removes)

theorem inquire_act (holds : world.Holds name text?) :
    (inquire name).act world = .ok (.charm text?.isSome) world := by
  have looks : world.files.leadsSomewhere name = text?.isSome := by
    rw [holds.plain.leadsSomewhere_eq, holds.keeps, Option.isSome_map]
  rw [act, Builtin.scrollExists, bind_of_ok (text_scroll world name), ← looks]
  rfl

theorem decipher_of_missing (holds : world.Holds name none) :
    (decipher name).act world = .error (notFound name) world := by
  have reads : readFile name world = .error (.fault (.noSuchFile name)) world := by
    rw [readFile, openForReading]
    refine bind_of_error ?_
    rw [bind_of_ok (checkAccess_of_allowed holds.allowed)]
    change ofResult (world.files.openForReading name) world = _
    rw [holds.plain.openForReading_of_missing holds.keeps.missing]
    rfl
  rw [act, Builtin.decipherScroll, bind_of_ok (text_scroll world name)]
  exact recover_of_error (bind_of_error reads)

theorem decipher_of_existing (holds : world.Holds name (some text)) :
    (decipher name).act world =
      .ok (.scroll (String.ofList (Text.unifyNewlines text.toList))) world := by
  obtain ⟨pos, there, content⟩ := holds.keeps.existing
  have reads := readFile_of_opened holds.allowed (holds.plain.openForReading_of_file there) content
  rw [act, Builtin.decipherScroll, bind_of_ok (text_scroll world name)]
  exact recover_of_ok (bind_of_ok reads)

/-- Every call ends as the text under its name demands. -/
theorem exists_ends (call : ScrollCall) (orderly : world.files.Orderly)
    (holds : world.Holds call.name text?) : ∃ files, call.Ends text? world files := by
  cases call with
  | inscribe name text =>
    rcases exists_written orderly holds "inscribe" false text with
      ⟨files, acts, orderly, keeps, elsewhere⟩
    rw [if_neg Bool.false_ne_true, String.empty_append] at keeps
    exact ⟨files, acts, orderly, keeps, elsewhere, fun unaltered => by cases unaltered⟩
  | chronicle name text =>
    rcases exists_written orderly holds "chronicle" true text with
      ⟨files, acts, orderly, keeps, elsewhere⟩
    exact ⟨files, acts, orderly, keeps, elsewhere, fun unaltered => by cases unaltered⟩
  | banish name =>
    cases text? with
    | none => exact ⟨_, .of_unaltered orderly holds rfl (banish_of_missing holds)⟩
    | some text =>
      have seen := world.files.sight_removeEntries (cons_ne_nil name [])
      exact ⟨_, banish_of_existing holds, FileTree.Orderly.kept.removeEntries orderly _,
        (seen [name]).trans (if_pos rfl),
        fun loc elsewhere => (seen loc).trans (if_neg elsewhere),
        fun unaltered => by cases unaltered⟩
  | inquire name => exact ⟨_, .of_unaltered orderly holds rfl (inquire_act holds)⟩
  | decipher name =>
    cases text? with
    | none => exact ⟨_, .of_unaltered orderly holds rfl (decipher_of_missing holds)⟩
    | some text => exact ⟨_, .of_unaltered orderly holds rfl (decipher_of_existing holds)⟩

end Step

/-! ## Any calls -/

section Run

variable {world : World} {texts : String → Option String} {calls : List ScrollCall}

theorem Ends.after_eq {call : ScrollCall} {text? : Option String} {files : FileTree}
    (ends : call.Ends text? world files) : call.after world = { world with files } := by
  rw [after, ends.act_eq, Action.left_ending]

theorem afterAll_concat (calls : List ScrollCall) (call : ScrollCall) (world : World) :
    afterAll (calls ++ [call]) world = call.after (afterAll calls world) :=
  foldl_append

/-- After calls, every name holds what the calls tell. -/
theorem afterAll_holds (orderly : world.files.Orderly)
    (holds : ∀ call ∈ calls, world.Holds call.name (texts call.name)) :
    (afterAll calls world).files.Orderly ∧ ∀ name, world.Holds name (texts name) →
      (afterAll calls world).Holds name (held name (texts name) calls) := by
  induction calls using List.reverseRecOn with
  | nil => exact ⟨orderly, fun name first => first⟩
  | append_singleton calls call ih =>
    rcases ih fun each mem => holds each (mem_append_left _ mem) with
      ⟨orderly, sofar⟩
    have own := sofar call.name (holds call (mem_append_right _ mem_cons_self))
    obtain ⟨files, ends⟩ := call.exists_ends orderly own
    rw [afterAll_concat, ends.after_eq]
    refine ⟨ends.orderly, fun name first => ?_⟩
    have former := sofar name first
    refine ⟨former.plain, former.allowed, ?_⟩
    by_cases same : call.name = name
    · rw [← same, held_concat_self]
      exact ends.keeps
    · have elsewhere : [name] ≠ [call.name] := fun equal => same (List.cons.inj equal).1.symm
      rw [held_concat_of_ne same]
      exact (ends.elsewhere [name] elsewhere).trans former.keeps

/--
A call that follows others answers as the text demands that its name holds after them, makes it
hold what it holds after the call too, and leaves everything else as it was.
-/
theorem calls_refine_texts {call : ScrollCall} (built : world.files.Built)
    (holds : ∀ each ∈ calls ++ [call], world.Holds each.name (texts each.name)) :
    (afterAll calls world).files.Keeps call.name (held call.name (texts call.name) calls) ∧
      ∃ files : FileTree,
        call.act (afterAll calls world) =
            Action.ending (call.answer (held call.name (texts call.name) calls))
              { afterAll calls world with files } ∧
          files.Keeps call.name (held call.name (texts call.name) (calls ++ [call])) ∧
          (∀ location ≠ [call.name],
            files.sight? location = (afterAll calls world).files.sight? location) ∧
          (call.alters (held call.name (texts call.name) calls) = false →
            files = (afterAll calls world).files) := by
  rcases afterAll_holds built.orderly fun each member => holds each (mem_append_left _ member)
    with ⟨orderly, sofar⟩
  have own := sofar call.name (holds call (mem_append_right _ mem_cons_self))
  obtain ⟨files, ends⟩ := call.exists_ends orderly own
  rw [held_concat_self]
  exact ⟨own.keeps, files, ends.act_eq, ends.keeps, ends.elsewhere, ends.unaltered⟩

/-- A working directory with one file, which ends in a carriage return. -/
def desk : World := { files := FileTree.place {} "log" (Text.Utf8.encode "old\r") }

def deskTexts (name : String) : Option String := if name = "log" then some "old\r" else none

/-- Work on two files at once. -/
def deskCalls : List ScrollCall :=
  [chronicle "log" "\nnew", inscribe "map" "north", banish "map", chronicle "log" "\r"]

theorem calls_refine_texts_desk :
    desk.files.Built ∧
      (∀ each ∈ deskCalls ++ [decipher "log"], desk.Holds each.name (deskTexts each.name)) ∧
      ∃ world, (decipher "log").act (afterAll deskCalls desk) =
        .ok (.scroll "old\nnew\n") world := by
  have built : desk.files.Built := .place .empty "log" (Text.Utf8.encode "old\r")
  have log : desk.Holds "log" (some "old\r") :=
    ⟨⟨by decide, by decide, by decide, by decide, by decide, by decide⟩, rfl, rfl⟩
  have noMap : desk.Holds "map" none :=
    ⟨⟨by decide, by decide, by decide, by decide, by decide, by decide⟩, rfl, rfl⟩
  have holds : ∀ each ∈ deskCalls ++ [decipher "log"],
      desk.Holds each.name (deskTexts each.name) := by
    intro each member
    simp only [deskCalls, cons_append, nil_append, mem_cons, not_mem_nil,
      or_false] at member
    rcases member with rfl | rfl | rfl | rfl | rfl
    · exact log
    · exact noMap
    · exact noMap
    · exact log
    · exact log
  obtain ⟨-, files, acts, -⟩ := calls_refine_texts built holds
  exact ⟨built, holds, _, acts⟩

end Run

end ScrollCall

end Spellbook
