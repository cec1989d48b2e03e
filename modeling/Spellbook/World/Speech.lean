import Spellbook.World

/-!
# Speech

There are two speech engines, one for the results of incantations and one for builtins.  Each is
started when it is first needed, and the library may be missing or refuse.
-/

namespace Spellbook.Action

def askSpeech (event : SpeechEvent) : Action Unit := do
  note (.speech event)
  let world ← get
  if world.speech.any (·.refuses event world.journal) then fault (.speechRefused event.name)

def sayAloud (text : String) : Action Unit := do
  askSpeech (.say text)
  askSpeech .wait

/-- Start the engine for incantations; tells whether there is one. -/
def startHerald : Action Bool := do
  if (← get).heraldStarted then return true
  else if (← get).speech.isNone then return false
  else
    recover
      (do
        askSpeech .start
        modify fun world => { world with heraldStarted := true }
        return true)
      fun _ => return false

/-- Speak the result of an incantation, or print it where that is not possible. -/
def speakResult (text : String) : Action Unit := do
  if ← startHerald then
    recover (sayAloud text) fun _ => printLine ("[Speaking]: " ++ text)
  else printLine ("[Speaking]: " ++ text)

def startNarrator : Action Unit := do
  if (← get).narrator.isSome then return
  else if (← get).speech.isNone then
    refuse .voiceSilenced "pyttsx3 is not installed. Run: pip install pyttsx3"
  else
    recover (askSpeech .start) fun trouble =>
      refuse .voiceSilenced ("Failed to initialize TTS: " ++ trouble.text)
    modify fun world => { world with narrator := world.speech.map SpeechLibrary.engine }

def modifyNarrator (change : SpeechEngine → SpeechEngine) : Action Unit :=
  modify fun world => { world with narrator := world.narrator.map change }

def getVolume : Action Float := do
  askSpeech (.get "volume")
  return ((← get).narrator.getD {}).volume

def setVolume (volume : Float) : Action Unit := do
  askSpeech (.set "volume" (.potion volume))
  modifyNarrator fun engine => { engine with volume }

def setRate (rate : Int) : Action Unit := do
  askSpeech (.set "rate" (.rune rate))
  modifyNarrator fun engine => { engine with rate }

def getVoices : Action (List String) := do
  askSpeech (.get "voices")
  return ((← get).speech.map SpeechLibrary.voices).getD []

def setVoice (voice : String) : Action Unit := do
  askSpeech (.set "voice" (.scroll voice))
  modifyNarrator fun engine => { engine with voice := some voice }

def sayAtVolume (volume : Float) (text : String) : Action Unit := do
  startNarrator
  let usual ← getVolume
  setVolume volume
  sayAloud text
  setVolume usual

end Spellbook.Action
