import Spellbook.Builtin.Speech
import Spellbook.Proofs.World.Passage

/-!
# The volume of the speech engine

Texts are whispered and shouted at a volume of their own, and afterwards the volume is set back,
unless the engine refuses to speak in between (`SpeechCall.volume_after`). No other call and no
other refusal changes the volume.
-/

namespace Spellbook

/-! ## Requests to the speech library -/

namespace World

/-- The volume of the engine for builtins, started or not. -/
def volume (world : World) : Float :=
  (world.narrator.getD ((world.speech.map SpeechLibrary.engine).getD {})).volume

/-- The world once a request has been made. -/
def hearing (world : World) (event : SpeechEvent) : World :=
  { world with journal := .speech event :: world.journal }

/-- Is the request refused, if it is made now? -/
def refuses (world : World) (event : SpeechEvent) : Bool :=
  world.speech.any (·.refuses event (.speech event :: world.journal))

/-- Are all the requests granted, if they are made one after the other? -/
def grants : World → List SpeechEvent → Bool
  | _, [] => true
  | world, event :: events => !world.refuses event && (world.hearing event).grants events

/-- The requests that start the engine for builtins. -/
def opening (world : World) : List SpeechEvent := if world.narrator.isSome then [] else [.start]

/-- The requests that bring the engine to a volume. -/
def rise (loudness : Float) : List SpeechEvent :=
  [.get "volume", .set "volume" (.potion loudness)]

/-- The requests that speak a text and set the volume back. -/
def fall (words : String) (usual : Float) : List SpeechEvent :=
  [.say words, .wait, .set "volume" (.potion usual)]

/-- Can the engine for builtins be started, or has it been? -/
def hasVoice (world : World) : Bool :=
  (world.narrator.isSome || world.speech.isSome) && world.grants world.opening

/--
Would the engine be left at a volume at which a text is to be spoken: does it grant what brings it
to the volume, and then refuse to speak or to be set back?
-/
def strands (world : World) (loudness : Float) (words : String) : Bool :=
  world.hasVoice && world.grants (world.opening ++ rise loudness) &&
    !world.grants (world.opening ++ (rise loudness ++ fall words world.volume))

/-- The world after events of speech. -/
def hearingAll (world : World) (events : List SpeechEvent) : World := events.foldl hearing world

/-- The world with the engine for builtins at a volume. -/
def atVolume (world : World) (volume : Float) : World :=
  { world with narrator := world.narrator.map fun engine => { engine with volume } }

section Requests

variable {world : World}

theorem grants_append (front back : List SpeechEvent) :
    world.grants (front ++ back) =
      (world.grants front && (world.hearingAll front).grants back) := by
  induction front generalizing world with
  | nil => rfl
  | cons event front ih => rw [List.cons_append, grants, grants, ih, Bool.and_assoc]; rfl

/-- What is granted is told by the library and the journal. -/
theorem grants_eq {other : World} (speech : other.speech = world.speech)
    (journal : other.journal = world.journal) (events : List SpeechEvent) :
    other.grants events = world.grants events := by
  induction events generalizing world other with
  | nil => rfl
  | cons event events ih =>
    have next : (other.hearing event).grants events = (world.hearing event).grants events :=
      ih speech (congrArg (Event.speech event :: ·) journal)
    rw [grants, grants, next, refuses, refuses, speech, journal]

theorem narrator_hearingAll (events : List SpeechEvent) :
    (world.hearingAll events).narrator = world.narrator := by
  induction events generalizing world with
  | nil => rfl
  | cons event events ih => exact ih

variable {engine : SpeechEngine} (started : world.narrator = some engine)

include started

theorem volume_of_started : world.volume = engine.volume := by
  rw [volume, started, Option.getD_some]

theorem volume_atVolume (volume : Float) : (world.atVolume volume).volume = volume := by
  rw [World.volume, atVolume, started, Option.map_some, Option.getD_some]

end Requests

end World

namespace Action

variable {α : Type} {world : World} {event : SpeechEvent} {events : List SpeechEvent}

theorem askSpeech_eq (event : SpeechEvent) (world : World) :
    askSpeech event world =
      (if world.refuses event then fault (.speechRefused event.name) else pure () : Action Unit)
        (world.hearing event) := rfl

theorem askSpeech_of_refused (refused : world.refuses event = true) :
    askSpeech event world = .error (.fault (.speechRefused event.name)) (world.hearing event) := by
  rw [askSpeech_eq, if_pos refused]
  rfl

theorem askSpeech_of_granted (granted : world.refuses event = false) :
    askSpeech event world = .ok () (world.hearing event) := by
  rw [askSpeech_eq, granted]
  rfl

/-- Make requests one after the other. -/
def askAll : List SpeechEvent → Action Unit
  | [] => return
  | event :: events => do
    askSpeech event
    askAll events

theorem askAll_of_granted (granted : world.grants events = true) :
    askAll events world = .ok () (world.hearingAll events) := by
  induction events generalizing world with
  | nil => rfl
  | cons event events ih =>
    rw [World.grants, Bool.and_eq_true, Bool.not_eq_true'] at granted
    exact (bind_of_ok (askSpeech_of_granted granted.1)).trans (ih granted.2)

theorem askAll_of_refused (refused : world.grants events = false) :
    ∃ trouble after, askAll events world = .error trouble after ∧ after.volume = world.volume := by
  induction events generalizing world with
  | nil => cases refused
  | cons event events ih =>
    cases answer : world.refuses event with
    | true => exact ⟨_, _, bind_of_error (askSpeech_of_refused answer), rfl⟩
    | false =>
      rw [World.grants, answer, Bool.not_false, Bool.true_and] at refused
      obtain ⟨trouble, after, ended, same⟩ := ih refused
      exact ⟨trouble, after, (bind_of_ok (askSpeech_of_granted answer)).trans ended, same⟩

/-- Speak a text at a volume, once the engine has been started. -/
def sayStarted (loudness : Float) (words : String) : Action Unit := do
  let usual ← getVolume
  setVolume loudness
  sayAloud words
  setVolume usual

section Started

variable {engine : SpeechEngine} (started : world.narrator = some engine)

include started

theorem getVolume_of_granted (granted : world.refuses (.get "volume") = false) :
    getVolume world = .ok world.volume (world.hearing (.get "volume")) := by
  have kept : (world.hearing (.get "volume")).narrator = some engine := started
  have read : getVolume world = .ok ((world.hearing (.get "volume")).narrator.getD {}).volume _ :=
    bind_of_ok (askSpeech_of_granted granted)
  rw [read, kept, World.volume_of_started started, Option.getD_some]

/-- The volume is changed and set back in between requests. -/
theorem sayStarted_eq (loudness : Float) (words : String) :
    sayStarted loudness words world =
      (do
        askAll (World.rise loudness)
        modify (World.atVolume · loudness)
        askAll (World.fall words world.volume)
        modify (World.atVolume · world.volume) : Action Unit) world := by
  rw [sayStarted]
  cases answer : world.refuses (.get "volume") with
  | true =>
    have unread : getVolume world = _ := bind_of_error (askSpeech_of_refused answer)
    rw [bind_of_error unread, World.rise, askAll, bind_assoc,
      bind_of_error (askSpeech_of_refused answer)]
  | false =>
    rw [bind_of_ok (getVolume_of_granted started answer)]
    simp only [setVolume, sayAloud, World.rise, World.fall, askAll, bind_assoc, pure_bind]
    rw [bind_of_ok (askSpeech_of_granted answer)]
    rfl

/-- The volume that is left is the usual one, unless the engine is stranded at the other. -/
theorem volume_left_sayStarted (loudness : Float) (words : String) :
    (left (sayStarted loudness words world)).volume =
      if world.grants (World.rise loudness) &&
          !world.grants (World.rise loudness ++ World.fall words world.volume)
      then loudness else world.volume := by
  rw [sayStarted_eq started, World.grants_append]
  cases risen : world.grants (World.rise loudness) with
  | false =>
    obtain ⟨trouble, after, ended, same⟩ := askAll_of_refused risen
    rw [bind_of_error ended]
    exact same
  | true =>
    rw [bind_of_ok (askAll_of_granted risen)]
    have there := (World.narrator_hearingAll (World.rise loudness)).trans started
    generalize world.hearingAll (World.rise loudness) = middle at there
    change (left ((askAll (World.fall words world.volume) >>= fun _ =>
      modify (World.atVolume · world.volume)) (middle.atVolume loudness))).volume = _
    have same : (middle.atVolume loudness).grants (World.fall words world.volume) =
        middle.grants (World.fall words world.volume) := World.grants_eq rfl rfl _
    cases fallen : middle.grants (World.fall words world.volume) with
    | false =>
      obtain ⟨trouble, after, ended, stays⟩ := askAll_of_refused (same.trans fallen)
      rw [bind_of_error ended]
      exact stays.trans (World.volume_atVolume there loudness)
    | true =>
      rw [bind_of_ok (askAll_of_granted (same.trans fallen))]
      have loud : (middle.atVolume loudness).narrator =
          some { engine with volume := loudness } := by
        rw [World.atVolume, there, Option.map_some]
      exact World.volume_atVolume ((World.narrator_hearingAll _).trans loud) _

end Started

/-! ## Starting the engine -/

theorem getWorld_bind (more : World → Action α) (world : World) :
    (get >>= more) world = more world world := rfl

/-- The engine is started exactly if that is possible, and then it has its usual volume. -/
theorem startNarrator_ends (world : World) :
    (∃ trouble after, startNarrator world = .error trouble after ∧ after.volume = world.volume ∧
        world.hasVoice = false) ∨
      ∃ engine after, startNarrator world = .ok () after ∧ after.narrator = some engine ∧
        engine.volume = world.volume ∧ world.hasVoice = true ∧
          ∀ events, after.grants events = (world.hearingAll world.opening).grants events := by
  rw [startNarrator, getWorld_bind, World.hasVoice, World.opening, World.volume]
  cases narrator : world.narrator with
  | some engine => exact .inr ⟨engine, world, rfl, narrator, rfl, rfl, fun _ => rfl⟩
  | none =>
    rw [Option.isSome_none, if_neg Bool.false_ne_true, if_neg Bool.false_ne_true, getWorld_bind]
    cases speech : world.speech with
    | none =>
      refine .inl ⟨_, world, rfl, ?_, rfl⟩
      rw [World.volume, narrator, speech]
    | some library =>
      have kept : (world.hearing .start).speech = some library := speech
      rw [Option.isNone_some, if_neg Bool.false_ne_true, World.grants]
      cases answer : world.refuses .start with
      | true =>
        have refused := askSpeech_of_refused answer
        refine .inl ⟨_, world.hearing .start, bind_of_error (recover_of_error refused), ?_, rfl⟩
        rw [World.volume, kept, show (world.hearing .start).narrator = none from narrator]
      | false =>
        have granted := askSpeech_of_granted answer
        rw [bind_of_ok (recover_of_ok granted)]
        refine .inr ⟨library.engine, _, rfl, ?_, rfl, rfl, World.grants_eq rfl rfl⟩
        exact congrArg (Option.map SpeechLibrary.engine) kept

/-- The volume that a text spoken at another volume leaves. -/
theorem volume_left_sayAtVolume (loudness : Float) (words : String) (world : World) :
    (left (sayAtVolume loudness words world)).volume =
      if world.strands loudness words then loudness else world.volume := by
  change (left ((startNarrator >>= fun _ => sayStarted loudness words) world)).volume = _
  rcases startNarrator_ends world with
    ⟨trouble, after, ended, same, mute⟩ | ⟨engine, after, ended, started, usual, voiced, granting⟩
  · rw [bind_of_error ended, World.strands, mute]
    exact same
  · have opens (events : List SpeechEvent) :
        world.grants (world.opening ++ events) = after.grants events := by
      rw [World.grants_append, (Bool.and_eq_true_iff.mp voiced).2, granting, Bool.true_and]
    have volume : after.volume = world.volume := (World.volume_of_started started).trans usual
    rw [bind_of_ok ended, volume_left_sayStarted started, volume, World.strands, voiced, opens,
      opens, Bool.true_and]

/-! ## What keeps the volume -/

/-- The engine for builtins has the same volume before and after. -/
def SameVolume (before after : World) : Prop := after.volume = before.volume

instance : Passage SameVolume where
  refl _ := rfl
  trans former latter := Eq.trans latter former

namespace SameVolume

theorem print (text : String) : Abides SameVolume (Action.print text) := ⟨fun _ => rfl⟩

theorem askSpeech (event : SpeechEvent) : Abides SameVolume (Action.askSpeech event) := by
  constructor
  intro world
  cases answer : world.refuses event with
  | true => rw [askSpeech_of_refused answer]; rfl
  | false => rw [askSpeech_of_granted answer]; rfl

theorem startNarrator : Abides SameVolume Action.startNarrator := by
  constructor
  intro world
  rcases startNarrator_ends world with
    ⟨trouble, after, ended, same, -⟩ | ⟨engine, after, ended, started, usual, -⟩
  · rw [ended]
    exact same
  · rw [ended]
    exact (World.volume_of_started started).trans usual

theorem modifyNarrator {change : SpeechEngine → SpeechEngine}
    (keeps : ∀ engine, (change engine).volume = engine.volume) :
    Abides SameVolume (Action.modifyNarrator change) := by
  constructor
  intro world
  have left : left (Action.modifyNarrator change world) =
    { world with narrator := world.narrator.map change } := rfl
  rw [left, SameVolume, World.volume, World.volume]
  cases world.narrator with
  | none => rfl
  | some engine => exact keeps engine

theorem sayAloud (words : String) : Abides SameVolume (Action.sayAloud words) :=
  .bind (askSpeech _) fun _ => askSpeech _

theorem chooseVoice (num : Int) : Abides SameVolume (Builtin.chooseVoice num) := by
  apply Abides.bind startNarrator
  intro started
  apply Abides.bind (.bind (askSpeech _) fun _ => .bind .get fun _ => .pure _)
  intro voices
  split
  · exact .bind (askSpeech _) fun _ => modifyNarrator fun _ => rfl
  · exact .bind (.ofResult _) fun _ => .refuse _ _

theorem speakSpell (args : List Value) :
    Abides SameVolume (Builtin.speakSpell args) := by
  unfold Builtin.speakSpell
  split
  · apply Abides.bind (.text _)
    intro words
    apply Abides.bind
    · exact .recover (.bind startNarrator fun _ => sayAloud _) fun _ => print _
    · exact fun _ => .pure _
  · exact .refuse _ _

theorem changeVoice (args : List Value) :
    Abides SameVolume (Builtin.changeVoice args) := by
  unfold Builtin.changeVoice
  split
  · apply Abides.bind (.ofResult _)
    intro num
    apply Abides.bind
    · apply Abides.recover (chooseVoice num)
      rintro (failure | failure)
      · exact .throw _
      · exact .refuse _ _
    · exact fun _ => .pure _
  · exact .refuse _ _

theorem setSpeechRate (args : List Value) :
    Abides SameVolume (Builtin.setSpeechRate args) := by
  unfold Builtin.setSpeechRate
  split
  · apply Abides.bind (.ofResult _)
    intro rate
    apply Abides.bind
    · apply Abides.orRefuse
      exact .bind startNarrator fun _ => .bind (askSpeech _) fun _ => modifyNarrator fun _ => rfl
    · exact fun _ => .pure _
  · exact .refuse _ _

end SameVolume

/-- Speak a text in some way at a volume, or print it. -/
def utter (loudness : Float) (tone : String → String) (label : String) (value : Value) :
    Action Value := do
  let words ← text value
  recover (sayAtVolume loudness (tone words)) fun _ => printLine (label ++ tone words)
  return .void

/-- What is printed instead does not change the volume. -/
theorem volume_left_recover (action : Action Unit) (line : String) (world : World) :
    (left ((do
      recover action fun _ => printLine line
      return .void : Action Value) world)).volume = (left (action world)).volume := by
  have mended : recover action (fun _ => printLine line) world =
      .ok () (left (recover action (fun _ => printLine line) world)) ∧
        (left (recover action (fun _ => printLine line) world)).volume =
          (left (action world)).volume := by
    cases ended : action world with
    | ok res after => rw [recover_of_ok ended]; exact ⟨rfl, rfl⟩
    | error trouble after => rw [recover_of_error ended]; exact ⟨rfl, rfl⟩
  rw [bind_of_ok mended.1]
  exact mended.2

end Action

/-! ## Calls -/

/-- A call of a builtin for speech. -/
inductive SpeechCall where
  | speak (args : List Value)
  | whisper (args : List Value)
  | shout (args : List Value)
  | changeVoice (args : List Value)
  | setRate (args : List Value)

namespace SpeechCall

open Spellbook.Action

/-- The builtin that a call runs. -/
def act : SpeechCall → Action Value
  | speak args => Builtin.speakSpell args
  | whisper args => Builtin.whisperSpell args
  | shout args => Builtin.shoutSpell args
  | changeVoice args => Builtin.changeVoice args
  | setRate args => Builtin.setSpeechRate args

/-- The world that the call leaves. -/
def after (call : SpeechCall) (world : World) : World := left (call.act world)

def afterAll (calls : List SpeechCall) (world : World) : World :=
  calls.foldl (fun world call => call.after world) world

/-- The volume at which a call speaks and the text that it speaks, if it changes the volume. -/
def utterance? : SpeechCall → World → Option (Float × String)
  | whisper [value], world => (world.store.plainText value).toOption.map ((0.3, ·))
  | shout [value], world =>
    (world.store.plainText value).toOption.map fun words => (1.0, Unicode.upperText words)
  | _, _ => none

/-- The volume of an utterance, if it leaves the engine stranded there. -/
def strandedAt? (world : World) (utterance : Float × String) : Option Float :=
  if world.strands utterance.1 utterance.2 then some utterance.1 else none

/-- The volume at which the call leaves the engine stranded, if it does. -/
def stranding? (call : SpeechCall) (world : World) : Option Float :=
  (call.utterance? world).bind (strandedAt? world)

theorem volume_left_utter (loudness : Float) (tone : String → String) (label : String)
    (value : Value) (world : World) :
    (left (utter loudness tone label value world)).volume =
      (((world.store.plainText value).toOption.map fun words => (loudness, tone words)).bind
        (strandedAt? world)).getD world.volume := by
  unfold utter
  cases written : world.store.plainText value with
  | error failure =>
    rw [bind_of_error (text_of_error written)]
    rfl
  | ok words =>
    rw [bind_of_ok (text_of_ok written), volume_left_recover, volume_left_sayAtVolume]
    change _ = (if world.strands loudness (tone words) then some loudness else none).getD _
    split <;> rfl

/-- The volume after a call is the usual one, or the one at which the engine is stranded. -/
theorem volume_after (call : SpeechCall) (world : World) :
    (call.after world).volume = (call.stranding? world).getD world.volume := by
  cases call with
  | speak args => exact (SameVolume.speakSpell args).related world
  | changeVoice args => exact (SameVolume.changeVoice args).related world
  | setRate args => exact (SameVolume.setSpeechRate args).related world
  | whisper args =>
    rcases args with _ | ⟨value, _ | _⟩
    · rfl
    · exact volume_left_utter 0.3 id "[Whispering]: " value world
    · rfl
  | shout args =>
    rcases args with _ | ⟨value, _ | _⟩
    · rfl
    · exact volume_left_utter 1.0 Unicode.upperText "[SHOUTING]: " value world
    · rfl

theorem afterAll_concat (calls : List SpeechCall) (call : SpeechCall) (world : World) :
    afterAll (calls ++ [call]) world = call.after (afterAll calls world) :=
  List.foldl_append

/--
Each of the calls leaves the engine at the volume that it had before, exactly if none leaves it
stranded at another volume: having granted what brings it to the volume of a whisper or a shout, the
engine must not refuse to speak or to be set back.
-/
theorem calls_keep_volume_iff (calls : List SpeechCall) (world : World) :
    (∀ before call, before ++ [call] <+: calls →
        (afterAll (before ++ [call]) world).volume = (afterAll before world).volume) ↔
      ∀ before call, before ++ [call] <+: calls →
        ∀ volume ∈ call.stranding? (afterAll before world),
          volume = (afterAll before world).volume := by
  have each (call : SpeechCall) (world : World) :
      (call.after world).volume = world.volume ↔
        ∀ volume ∈ call.stranding? world, volume = world.volume := by
    rw [volume_after]
    cases call.stranding? world <;> simp
  simp only [afterAll_concat, each]

/-- A world whose speech engine does not speak. -/
def mute : World where
  speech := some { failOn := some "say" }

/-- A whisper that the engine refuses to speak leaves it at the volume of a whisper. -/
theorem whisper_strands :
    mute.volume = 0.8 ∧ ((whisper [.scroll "a"]).after mute).volume = 0.3 ∧
      ((whisper [.scroll "a"]).after mute).volume ≠ mute.volume := by
  decide +kernel

end SpeechCall

end Spellbook
