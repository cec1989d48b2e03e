import Spellbook.Fault
import Spellbook.Number.Text

/-!
# Errors of the language

A script error has a class, a cause and a place in the source, which may be unknown.  Together with
the faults below the language they are the troubles an operation can end in.
-/

namespace Spellbook

/-- The classes of script errors. -/
inductive ErrorClass where
  | general
  | spellMiscast
  | darkMagicDetected
  | unknownIncantation
  | forbiddenMagic
  | cursedScroll
  | prophecyViolation
  | portalFailure
  | voiceSilenced
  | scrollDamaged
  | oracleSilent
  | questFailed
  | azureRealmError
  deriving DecidableEq

namespace ErrorClass

def name : ErrorClass → String
  | general => "SlayScriptError"
  | spellMiscast => "SpellMiscast"
  | darkMagicDetected => "DarkMagicDetected"
  | unknownIncantation => "UnknownIncantation"
  | forbiddenMagic => "ForbiddenMagic"
  | cursedScroll => "CursedScroll"
  | prophecyViolation => "ProphecyViolation"
  | portalFailure => "PortalFailure"
  | voiceSilenced => "VoiceSilenced"
  | scrollDamaged => "ScrollDamaged"
  | oracleSilent => "OracleSilent"
  | questFailed => "QuestFailed"
  | azureRealmError => "AzureRealmError"

/-- The words that open the message of an error of the class. -/
def exclamation : ErrorClass → String
  | general => ""
  | spellMiscast => "Spell Miscast! "
  | darkMagicDetected => "Dark Magic Detected! "
  | unknownIncantation => "Unknown Incantation! "
  | forbiddenMagic => "Forbidden Magic! "
  | cursedScroll => "Cursed Scroll! "
  | prophecyViolation => "Prophecy Violation! "
  | portalFailure => "Portal Failure! "
  | voiceSilenced => "Voice Silenced! "
  | scrollDamaged => "Scroll Damaged! "
  | oracleSilent => "Oracle Silent! "
  | questFailed => "Quest Failed! "
  | azureRealmError => "Azure Realm Error! "

def all : List ErrorClass :=
  [general, spellMiscast, darkMagicDetected, unknownIncantation, forbiddenMagic, cursedScroll,
    prophecyViolation, portalFailure, voiceSilenced, scrollDamaged, oracleSilent, questFailed,
    azureRealmError]

def ofName? (name : String) : Option ErrorClass := all.find? (·.name == name)

end ErrorClass

/-- A place in a source.  Either coordinate may be unknown. -/
structure Place where
  line : Option Int
  column : Option Int
  deriving DecidableEq

namespace Place

def unknown : Place := ⟨none, none⟩

def known (line column : Int) : Place := ⟨some line, some column⟩

/-- How a message tells the place.  A column alone tells nothing. -/
def text (place : Place) : String :=
  match place.line with
  | none => ""
  | some line =>
    " at line " ++ Number.integerText line ++
      match place.column with
      | none => ""
      | some column => ", column " ++ Number.integerText column

end Place

/-- The causes of script errors. -/
inductive Cause where
  | unexpectedCharacter (char : Char)
  | unterminatedString
  | unterminatedComment
  /-- A token is missing; the message says which. -/
  | expected (message : String)
  /-- A token that starts no expression. -/
  | unexpectedToken (kind : String)
  | invalidTarget
  | undefined (name : String)
  | constantModified (name : String)
  | constantVanquished (name : String)
  /-- A tree that is no statement and no expression. -/
  | noVisitor (kind : String)
  | unknownOperator (op : String)
  | unknownUnaryOperator (op : String)
  | notNumbers
  | divisionByVoid
  | notAddable
  | notMultipliable
  | notNegatable
  | tomeIndexType
  | scrollIndexType
  | tomeIndexRange (index : String)
  | scrollIndexRange (index : String)
  | keyNotFound (key : String)
  | notIndexable
  | notCallable
  | wrongArity (wanted given : Nat)
  | noMember (name : String)
  | notHuntable
  /-- An error that a builtin words itself. -/
  | told (errorClass : ErrorClass) (message : String)

namespace Cause

def errorClass : Cause → ErrorClass
  | unexpectedCharacter _ | unterminatedString | unterminatedComment => .darkMagicDetected
  | expected _ | unexpectedToken _ | invalidTarget => .spellMiscast
  | undefined _ => .unknownIncantation
  | constantModified _ | constantVanquished _ => .prophecyViolation
  | told errorClass _ => errorClass
  | _ => .forbiddenMagic

def message : Cause → String
  | unexpectedCharacter char => "Unexpected character '" ++ char.toString ++ "'"
  | unterminatedString => "Unterminated string"
  | unterminatedComment => "Unterminated multi-line comment"
  | expected message => message
  | unexpectedToken kind => "Unexpected token: " ++ kind
  | invalidTarget => "Invalid assignment target"
  | undefined name => s!"Undefined variable '{name}'"
  | constantModified name => s!"Cannot modify the prophecy '{name}' - it is constant"
  | constantVanquished name => s!"Cannot vanquish the prophecy '{name}' - it is constant"
  | noVisitor kind => "No visitor for " ++ kind
  | unknownOperator op => s!"Unknown operator '{op}'"
  | unknownUnaryOperator op => s!"Unknown unary operator '{op}'"
  | notNumbers => "Arithmetic operations require numbers"
  | divisionByVoid => "Division by void is forbidden"
  | notAddable => "Invalid operands for addition"
  | notMultipliable => "Invalid operands for multiplication"
  | notNegatable => "Negation requires a number"
  | tomeIndexType => "Tome index must be a rune (integer)"
  | scrollIndexType => "Scroll index must be a rune (integer)"
  | tomeIndexRange index => s!"Tome index {index} out of range"
  | scrollIndexRange index => s!"Scroll index {index} out of range"
  | keyNotFound key => s!"Key '{key}' not found in grimoire"
  | notIndexable => "Cannot index into this type"
  | notCallable => "Can only invoke spells and incantations"
  | wrongArity wanted given => s!"Expected {wanted} arguments but got {given}"
  | noMember name => s!"No such member '{name}'"
  | notHuntable => "Cannot hunt through non-iterable"
  | told _ message => message

end Cause

structure ScriptError where
  cause : Cause
  place : Place

namespace ScriptError

/-- The full message of an error: exclamation, cause and place. -/
def text (error : ScriptError) : String :=
  error.cause.errorClass.exclamation ++ error.cause.message ++ error.place.text

end ScriptError

/-- What an operation can fail with. -/
inductive Trouble where
  | error (failure : ScriptError)
  | fault (failure : Fault)

namespace Trouble

def className : Trouble → String
  | .error failure => failure.cause.errorClass.name
  | .fault failure => failure.className

def text : Trouble → String
  | .error failure => failure.text
  | .fault failure => failure.message

def caused (cause : Cause) (place : Place) : Trouble := .error ⟨cause, place⟩

/-- An error that a builtin words itself; builtins do not know the place of their call. -/
def told (errorClass : ErrorClass) (message : String) : Trouble :=
  .error ⟨.told errorClass message, .unknown⟩

end Trouble

end Spellbook
