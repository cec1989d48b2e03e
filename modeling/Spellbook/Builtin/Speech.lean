import Spellbook.Builtin
import Spellbook.Unicode.Case
import Spellbook.World.Speech

/-!
# Builtins for speech

Texts are spoken, whispered or shouted.  Where that is not possible they are printed instead.
-/

namespace Spellbook.Builtin

open Spellbook.Action

/-- Say a text, or print it if that fails. -/
def speakSpell : List Value → Action Value
  | [value] => do
    let words ← text value
    recover
      (do
        startNarrator
        sayAloud words)
      fun _ => printLine ("[Speaking]: " ++ words)
    return .void
  | _ => forbid "speak_spell requires exactly 1 argument"

/-- Say a text softly. -/
def whisperSpell : List Value → Action Value
  | [value] => do
    let words ← text value
    recover (sayAtVolume 0.3 words) fun _ => printLine ("[Whispering]: " ++ words)
    return .void
  | _ => forbid "whisper_spell requires exactly 1 argument"

/-- Say a text in capitals and loudly. -/
def shoutSpell : List Value → Action Value
  | [value] => do
    let words := Unicode.upperText (← text value)
    recover (sayAtVolume 1.0 words) fun _ => printLine ("[SHOUTING]: " ++ words)
    return .void
  | _ => forbid "shout_spell requires exactly 1 argument"

/-- Take the voice with a number. -/
def chooseVoice (num : Int) : Action Unit := do
  startNarrator
  let voices ← getVoices
  match (if 0 ≤ num then voices[num.toNat]? else none) with
  | some voice => setVoice voice
  | none =>
    let wanted ← integerText num
    let last := Number.integerText ((voices.length : Int) - 1)
    refuse .voiceSilenced s!"Voice id {wanted} not found. Available: 0-{last}"

/-- As `chooseVoice`; faults become errors. -/
def changeVoice : List Value → Action Value
  | [value] => do
    let num ← integer value
    recover (chooseVoice num) fun trouble =>
      match trouble with
      | .error _ => throw trouble
      | .fault _ => refuse .voiceSilenced ("Failed to change voice: " ++ trouble.text)
    return .void
  | _ => forbid "change_voice requires exactly 1 argument"

/-- Set how fast texts are said. -/
def setSpeechRate : List Value → Action Value
  | [value] => do
    let rate ← integer value
    orRefuse .voiceSilenced "Failed to set speech rate: " do
      startNarrator
      setRate rate
    return .void
  | _ => forbid "set_speech_rate requires exactly 1 argument"

/-- The builtins for speech. -/
def speech : List Builtin :=
  [⟨"speak_spell", some 1, speakSpell⟩,
    ⟨"whisper_spell", some 1, whisperSpell⟩,
    ⟨"shout_spell", some 1, shoutSpell⟩,
    ⟨"change_voice", some 1, changeVoice⟩,
    ⟨"set_speech_rate", some 1, setSpeechRate⟩]

end Spellbook.Builtin
