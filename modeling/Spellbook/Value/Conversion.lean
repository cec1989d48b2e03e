import Spellbook.Number.Conversion
import Spellbook.Value

/-!
# Numbers that values stand for

Numbers, truths and texts stand for an integer and for a floating point number.  A text that spells
none is a fault, and so is any other value.
-/

namespace Spellbook.Value

def toInteger : Value → Except Fault Int
  | rune integer => .ok integer
  | charm truth => .ok (if truth then 1 else 0)
  | potion num _ => Number.integerOfFloat num
  | scroll text => Number.integerOfText text
  | value => .error (.notIntegerArgument value.typeName)

/-- The floating point number that a value stands for. -/
def toFloat : Value → Except Fault Float
  | rune integer => Number.floatOfInteger integer
  | charm truth => .ok (if truth then 1 else 0)
  | potion num _ => .ok num
  | scroll text => Number.floatOfText text
  | value => .error (.notFloatArgument value.typeName)

end Spellbook.Value
