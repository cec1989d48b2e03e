import Spellbook.Text.Utf8

/-!
# Faults

A fault is a failure below the language: an operation on values that makes no sense, a number that
does not fit, a file that cannot be opened, a device that refuses.  Scripts do not see the
difference to the language's own errors, but the session does: a fault ends it.

Every fault has a class name and a message.
-/

namespace Spellbook

/-- The failures below the language, by cause. -/
inductive Fault where
  /-- Two values that have no order. -/
  | unordered (symbol left right : String)
  /-- An operator that does not take two values of these types. -/
  | unsupportedOperands (symbol left right : String)
  /-- A text or list to which a value of another type is to be appended. -/
  | cannotConcatenate (left right : String)
  | unhashable (type : String)
  | notIterable (type : String)
  | notContainer (type : String)
  | notSubscriptable (type : String)
  | notIntegerArgument (type : String)
  | notFloatArgument (type : String)
  /-- A value with no place in a save file. -/
  | notSerializable (type : String)
  | notSerializableKey (type : String)
  /-- An item other than a text among texts to be joined. -/
  | notJoinable (index : Nat) (type : String)
  /-- A value without items where texts are to be joined. -/
  | nothingToJoin
  | textIndexType (type : String)
  | listIndexType (type : String)
  | missingArguments (function names : String)
  | tooManyArguments (function counts : String)
  | malformedInteger (quoted : String)
  | malformedFloat (quoted : String)
  | tooLongToWrite
  | tooLongToRead (digits : Nat)
  | notANumberToInteger
  | infinityToInteger
  | integerTooLarge
  | quotientTooLarge
  | powerTooLarge
  | complexPowerTooLarge
  | indexTooLarge
  | repetitionTooLarge
  | repeatedTextTooLong
  | rangeTooLarge
  | integerModuloZero
  | floatModuloZero
  | zeroToNegativePower
  | zeroStep
  | assignmentOutOfRange
  | listOutOfRange
  | textOutOfRange
  | missingKey (quoted : String)
  | noAttribute (type member : String)
  | notInList
  | emptyRange (low high : Int)
  | negativeSleep
  /-- Fewer than no bytes are to be received. -/
  | negativeSize
  | changedDuringIteration
  | circularReference
  | closedFile
  | notReadable
  | notWritable
  | embeddedNull
  | noSuchFile (path : String)
  | isDirectory (path : String)
  | notDirectory (path : String)
  /-- A file that was to be removed as a directory. -/
  | notTree (path : String)
  | permissionDenied (path : String)
  | nameTooLong (path : String)
  | fileExists (path : String)
  | undecodable (flaw : Text.Utf8.Flaw)
  | malformedData (message : String)
  | endOfInput
  | keyboardInterrupt
  | speechRefused (event : String)
  | connectionRefused (reason : String)
  | databaseRefused (reason : String)
  | noData
  | noMoreResponses
  | commandFailed (reason : String)
  /-- More items, characters or digits than there can be anywhere. -/
  | outOfMemory
  /-- A comparison of collections that comes back to the collections it began with. -/
  | endlessComparison
  /-- A bound on the depth or length of a computation was reached. -/
  | exhausted

namespace Fault

def className : Fault → String
  | unordered .. | unsupportedOperands .. | cannotConcatenate .. | unhashable _ | notIterable _
  | notContainer _ | notSubscriptable _ | notIntegerArgument _ | notFloatArgument _
  | notSerializable _ | notSerializableKey _ | notJoinable .. | nothingToJoin | textIndexType _
  | listIndexType _ | missingArguments .. | tooManyArguments .. => "TypeError"
  | malformedInteger _ | malformedFloat _ | tooLongToWrite | tooLongToRead _
  | notANumberToInteger | zeroStep | notInList | emptyRange .. | negativeSleep
  | negativeSize | circularReference | closedFile | embeddedNull | noData => "ValueError"
  | infinityToInteger | integerTooLarge | quotientTooLarge | powerTooLarge
  | complexPowerTooLarge | repetitionTooLarge | repeatedTextTooLong | rangeTooLarge =>
    "OverflowError"
  | integerModuloZero | floatModuloZero | zeroToNegativePower => "ZeroDivisionError"
  | indexTooLarge | assignmentOutOfRange | listOutOfRange | textOutOfRange => "IndexError"
  | missingKey _ => "KeyError"
  | noAttribute .. => "AttributeError"
  | changedDuringIteration | speechRefused _ | noMoreResponses | commandFailed _ => "RuntimeError"
  | notReadable | notWritable => "UnsupportedOperation"
  | noSuchFile _ => "FileNotFoundError"
  | isDirectory _ => "IsADirectoryError"
  | notDirectory _ | notTree _ => "NotADirectoryError"
  | permissionDenied _ => "PermissionError"
  | nameTooLong _ => "OSError"
  | fileExists _ => "FileExistsError"
  | undecodable _ => "UnicodeDecodeError"
  | malformedData _ => "JSONDecodeError"
  | endOfInput => "EOFError"
  | keyboardInterrupt => "KeyboardInterrupt"
  | connectionRefused _ => "OSError"
  | databaseRefused _ => "Error"
  | outOfMemory => "MemoryError"
  | endlessComparison | exhausted => "RecursionError"

def fileFailure (num : Nat) (words path : String) : String :=
  "[Errno " ++ Nat.repr num ++ "] " ++ words ++ ": " ++ Text.quoted path

def message : Fault → String
  | unordered symbol left right =>
    s!"'{symbol}' not supported between instances of '{left}' and '{right}'"
  | unsupportedOperands symbol left right =>
    s!"unsupported operand type(s) for {symbol}: '{left}' and '{right}'"
  | cannotConcatenate left right => s!"can only concatenate {left} (not \"{right}\") to {left}"
  | unhashable type => s!"unhashable type: '{type}'"
  | notIterable type => s!"'{type}' object is not iterable"
  | notContainer type => s!"argument of type '{type}' is not iterable"
  | notSubscriptable type => s!"'{type}' object is not subscriptable"
  | notIntegerArgument type =>
    s!"int() argument must be a string, a bytes-like object or a real number, not '{type}'"
  | notFloatArgument type => s!"float() argument must be a string or a real number, not '{type}'"
  | notSerializable type => s!"Object of type {type} is not JSON serializable"
  | notSerializableKey type =>
    s!"keys must be str, int, float, bool or None, not {type}"
  | notJoinable index type => s!"sequence item {index}: expected str instance, {type} found"
  | nothingToJoin => "can only join an iterable"
  | textIndexType type => s!"string indices must be integers, not '{type}'"
  | listIndexType type => s!"list indices must be integers or slices, not {type}"
  | missingArguments function names => s!"{function}() missing {names}"
  | tooManyArguments function counts => s!"{function}() takes {counts}"
  | malformedInteger quoted => s!"invalid literal for int() with base 10: {quoted}"
  | malformedFloat quoted => s!"could not convert string to float: {quoted}"
  | tooLongToWrite =>
    "Exceeds the limit (4300 digits) for integer string conversion; " ++
      "use sys.set_int_max_str_digits() to increase the limit"
  | tooLongToRead digits =>
    "Exceeds the limit (4300 digits) for integer string conversion: " ++
      s!"value has {digits} digits; " ++
      "use sys.set_int_max_str_digits() to increase the limit"
  | notANumberToInteger => "cannot convert float NaN to integer"
  | infinityToInteger => "cannot convert float infinity to integer"
  | integerTooLarge => "int too large to convert to float"
  | quotientTooLarge => "integer division result too large for a float"
  | powerTooLarge => "(34, 'Numerical result out of range')"
  | complexPowerTooLarge => "complex exponentiation"
  | indexTooLarge | repetitionTooLarge => "cannot fit 'int' into an index-sized integer"
  | repeatedTextTooLong => "repeated string is too long"
  | rangeTooLarge => "Python int too large to convert to C ssize_t"
  | integerModuloZero => "integer modulo by zero"
  | floatModuloZero => "float modulo"
  | zeroToNegativePower => "0.0 cannot be raised to a negative power"
  | zeroStep => "range() arg 3 must not be zero"
  | assignmentOutOfRange => "list assignment index out of range"
  | listOutOfRange => "list index out of range"
  | textOutOfRange => "string index out of range"
  | missingKey quoted => quoted
  | noAttribute type member => s!"'{type}' object has no attribute '{member}'"
  | notInList => "list.remove(x): x not in list"
  | emptyRange low high => s!"empty range for randrange() ({low}, {high + 1}, {high + 1 - low})"
  | negativeSleep => "sleep length must be non-negative"
  | negativeSize => "negative buffersize in recv"
  | changedDuringIteration => "dictionary changed size during iteration"
  | circularReference => "Circular reference detected"
  | closedFile => "I/O operation on closed file."
  | notReadable => "not readable"
  | notWritable => "not writable"
  | embeddedNull => "embedded null byte"
  | noSuchFile path => fileFailure 2 "No such file or directory" path
  | isDirectory path => fileFailure 21 "Is a directory" path
  | notDirectory path => fileFailure 20 "Not a directory" path
  | notTree path => s!"[Errno 20] Not a directory: PosixPath({Text.quoted path})"
  | permissionDenied path => fileFailure 13 "Permission denied" path
  | nameTooLong path => fileFailure 36 "File name too long" path
  | fileExists path => fileFailure 17 "File exists" path
  | undecodable flaw => flaw.message
  | malformedData message => message
  | endOfInput => "EOF when reading a line"
  | keyboardInterrupt | outOfMemory => ""
  | speechRefused event => s!"{event} failed"
  | connectionRefused reason => reason
  | databaseRefused reason => reason
  | noData => "no json"
  | noMoreResponses => "no more responses"
  | commandFailed reason => reason
  | endlessComparison => "maximum recursion depth exceeded in comparison"
  | exhausted => "maximum recursion depth exceeded"

end Fault

end Spellbook
