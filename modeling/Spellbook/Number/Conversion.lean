import Spellbook.Fault
import Spellbook.Number.Reading

/-!
# Conversions between texts and numbers that can fail

The readers and writers of numbers with their failures as faults.
-/

namespace Spellbook.Number

/-- At most this many characters of a text are shown when it is not an integer. -/
def shownWidth : Nat := 200

def integerOfText (text : String) : Except Fault Int :=
  match readInteger text.toList with
  | .ok integer => .ok integer
  | .error .malformed =>
    .error (.malformedInteger (String.ofList ((Text.quoted text).toList.take shownWidth)))
  | .error (.tooLong digits) => .error (.tooLongToRead digits)

def floatOfText (text : String) : Except Fault Float :=
  match readFloat? text.toList with
  | some num => .ok num
  | none => .error (.malformedFloat (Text.quoted text))

def textOfInteger (integer : Int) : Except Fault String :=
  if isWritable integer then .ok (integerText integer) else .error .tooLongToWrite

def floatOfInteger (integer : Int) : Except Fault Float :=
  match Binary64.ofInt? integer with
  | some num => .ok num
  | none => .error .integerTooLarge

def integerOfFloat (num : Float) : Except Fault Int :=
  match Binary64.view num with
  | .notANumber => .error .notANumberToInteger
  | .infinite _ => .error .infinityToInteger
  | .finite negative significand exp => .ok (Binary64.truncate negative significand exp)

end Spellbook.Number
