import Spellbook.Node.Sketch
import Spellbook.Session

/-!
# The command line

The arguments name a file, or a command with `-c`, and ask for debug output with `-d`; without
either a session starts.  Long options may be shortened, values may be attached to options, and
`--` ends the options.
-/

namespace Spellbook

namespace CommandLine

open Eval

/-! ## Running sources -/

def printLines (lines : List String) : Eval Unit :=
  act (Action.print (String.join (lines.map (· ++ "\n"))))

def printOutline (indent : Int) (sketch : Sketch) : Eval Unit := do
  let outline := sketch.outline (← get).world.store indent
  printLines outline.lines
  match outline.fault with
  | some failure => fault failure
  | none => return

/-- Run a source, with its tokens, its tree and its result if asked for. -/
def runSource (source : String) (debug : Bool) : Eval Unit := do
  let tokens ← ofResult (Token.scan source)
  if debug then
    printLines (["=== Tokens ==="] ++ tokens.map ("  " ++ ·.describe) ++ [""])
  let program ← ofResult (Parser.parse tokens)
  if debug then
    printLines ["=== AST ==="]
    printOutline 0 program.sketch
    printLines [""]
  let res ← Machine.interpret program
  match debug, res with
  | false, _ | _, .void => return
  | true, res =>
    let text ← act (Action.text res)
    printLines ["=== Result: " ++ text ++ " ==="]

/-- Run a source; an error of the language is printed and gives an exit code. -/
def runAndReport (source : String) (debug : Bool) : Eval Ending := do
  match ← attempt (runSource source debug) with
  | .ok () => return none
  | .error halt =>
    if halt.isScriptError then
      printLines ["", halt.text]
      return some 1
    else throw halt

def isFileFault : Fault → Bool
  | .noSuchFile _ | .isDirectory _ | .notDirectory _ | .permissionDenied _ | .nameTooLong _ => true
  | _ => false

def runFile (path : String) (debug : Bool) : Eval Ending := do
  match ← attempt (act (Action.readFile path)) with
  | .ok source => runAndReport source debug
  | .error (.trouble (.fault (.noSuchFile _))) =>
    printLines ["Scroll not found: " ++ path]
    return some 1
  | .error halt =>
    match halt with
    | .trouble (.fault failure) =>
      if isFileFault failure then
        printLines ["Failed to read scroll: " ++ failure.message]
        return some 1
      else throw halt
    | _ => throw halt

/-! ## Reading the arguments -/

inductive Switch where
  | help
  | debug
  | command
  | version
  deriving DecidableEq

namespace Switch

def short : Switch → String
  | help => "-h"
  | debug => "-d"
  | command => "-c"
  | version => "-v"

def long : Switch → String
  | help => "--help"
  | debug => "--debug"
  | command => "--command"
  | version => "--version"

def all : List Switch := [help, debug, command, version]

def named? (name : String) : Option Switch :=
  all.find? fun switch => switch.short == name || switch.long == name

def takesValue (switch : Switch) : Bool := switch == command

/-- How messages call an option. -/
def label (switch : Switch) : String := switch.short ++ "/" ++ switch.long

end Switch

/-- A value that is attached to an option, perhaps by an equals sign. -/
structure Attachment where
  bySign : Bool
  value : String

inductive Argument where
  | plain (text : String)
  /-- Two dashes, after which all arguments are plain. -/
  | dashes
  | option (switch : Switch) (name : String) (attached : Option Attachment)
  | unknown (text : String)

namespace Argument

def cutAtSign (text : List Char) : List Char × Option (List Char) :=
  match text with
  | [] => ([], none)
  | '=' :: rest => ([], some rest)
  | char :: rest =>
    let (front, back) := cutAtSign rest
    (char :: front, back)

def isNegativeNumber (text : List Char) : Bool :=
  match text with
  | '-' :: rest =>
    let body := if rest.getLast? == some '\n' then rest.dropLast else rest
    let isDecimal (char : Char) : Bool := (Unicode.decimalValue? char).isSome
    let whole := body.takeWhile isDecimal
    match body.dropWhile isDecimal with
    | [] => !whole.isEmpty
    | '.' :: frac => !frac.isEmpty && frac.all isDecimal
    | _ => false
  | _ => false

/-- The long options that a text may stand for, with their attachment. -/
def longMatches (text : List Char) : List Argument :=
  let (front, back) := cutAtSign text
  let attached := back.map fun value => ⟨true, String.ofList value⟩
  Switch.all.filterMap fun switch =>
    if front.isPrefixOf switch.long.toList then some (option switch switch.long attached) else none

/-- The options that a text with a single dash may stand for. -/
def shortMatches (text : List Char) : List Argument :=
  Switch.all.filterMap fun switch =>
    if switch.short.toList == text.take 2 then
      some (option switch switch.short (some ⟨false, String.ofList (text.drop 2)⟩))
    else none

def optionName : Argument → String
  | option _ name _ => name
  | _ => ""

/-- What an argument that starts with a dash is taken for, if it is no option. -/
def ofDashed (text : List Char) : Argument :=
  if isNegativeNumber text || text.contains ' ' then plain (String.ofList text)
  else unknown (String.ofList text)

/-- What an argument is taken for; a message if that is not clear. -/
def classify (text : String) : Except String Argument :=
  match text.toList with
  | '-' :: rest =>
    match Switch.named? text with
    | some switch => .ok (option switch text none)
    | none =>
      if rest.isEmpty then .ok (plain text)
      else
        let (front, back) := cutAtSign text.toList
        match Switch.named? (String.ofList front), back with
        | some switch, some value =>
          .ok (option switch (String.ofList front) (some ⟨true, String.ofList value⟩))
        | _, _ =>
          let candidates := if rest.head? == some '-' then longMatches text.toList
            else shortMatches text.toList
          match candidates with
          | [] => .ok (ofDashed text.toList)
          | [candidate] => .ok candidate
          | candidates =>
            .error (s!"ambiguous option: {text} could match " ++
              String.intercalate ", " (candidates.map optionName))
  | _ => .ok (plain text)

def classifyAll : List String → Except String (List Argument)
  | [] => .ok []
  | text :: texts =>
    if text == "--" then .ok (dashes :: texts.map plain)
    else do
      let argument ← classify text
      return argument :: (← classifyAll texts)

end Argument

structure Request where
  file : Option String := none
  command : Option String := none
  debug : Bool := false
  /-- Arguments that nothing was found for. -/
  extras : List String := []

inductive Outcome where
  | request (request : Request)
  | help
  | version
  | error (message : String)

def ignored (switch : Switch) (value : String) : Outcome :=
  .error (s!"argument {switch.label}: ignored explicit argument " ++ Text.quoted value)

def valueMissing (switch : Switch) : Outcome :=
  .error s!"argument {switch.label}: expected one argument"

/-- The options without values that are written together, and how they end. -/
inductive Cluster where
  | error (outcome : Outcome)
  /-- The options, then perhaps one that takes the next argument, and what is left over. -/
  | flags (switches : List Switch) (pending : Option Switch) (value : Option String)
      (extra : Option String)

/-- Take apart options that are written together after one dash. -/
def cluster (switch : Switch) (bySign : Bool) : List Char → Cluster
  | [] =>
    if switch.takesValue then .flags [] (some switch) (some "") none
    else .error (ignored switch "")
  | first :: rest =>
    let text := String.ofList (first :: rest)
    if switch.takesValue then .flags [] (some switch) (some text) none
    else if bySign || first == '-' then .error (ignored switch text)
    else
      match Switch.named? (String.ofList ['-', first]) with
      | none => .flags [switch] none none (some ("-" ++ text))
      | some next =>
        match rest with
        | [] =>
          if next.takesValue then .flags [switch] (some next) none none
          else .flags [switch, next] none none none
        | '=' :: value =>
          if next.takesValue then .flags [switch] (some next) (some (String.ofList value)) none
          else .error (ignored next (String.ofList value))
        | rest =>
          match cluster next false rest with
          | .error outcome => .error outcome
          | .flags switches pending value extra => .flags (switch :: switches) pending value extra

/-- Carry out an option without a value; some of them end the reading. -/
def apply (request : Request) : Switch → Outcome
  | .help => .help
  | .version => .version
  | .debug => .request { request with debug := true }
  | .command => .request request

/-- Carry out options without values in order, and go on if none of them ends the reading. -/
def applyAll (request : Request) (next : Request → Outcome) : List Switch → Outcome
  | [] => next request
  | switch :: switches =>
    match apply request switch with
    | .request request => applyAll request next switches
    | outcome => outcome

/-- Take the plain arguments after the last option: at most one is the file. -/
def takeRest (request : Request) (hasFile : Bool) (rest : List Argument) : Request :=
  let textOf : Argument → String
    | .plain text | .unknown text => text
    | .dashes => "--"
    | .option _ name _ => name
  let withExtras (request : Request) (rest : List Argument) : Request :=
    { request with extras := request.extras ++ rest.map textOf }
  if hasFile then withExtras request rest
  else
    match rest with
    | .plain text :: .dashes :: others => withExtras { request with file := some text } others
    | .plain text :: others => withExtras { request with file := some text } others
    | .dashes :: .plain text :: others => withExtras { request with file := some text } others
    | .dashes :: others => withExtras request others
    | others => withExtras request others

def anyOption (args : List Argument) : Bool :=
  args.any fun
    | .option .. | .unknown _ => true
    | _ => false

def readArguments (request : Request) (hasFile : Bool) : List Argument → Outcome
  | [] => .request request
  | .unknown text :: others =>
    readArguments { request with extras := request.extras ++ [text] } hasFile others
  | .dashes :: others => .request (takeRest request hasFile (.dashes :: others))
  | .plain text :: others =>
    if !anyOption others then .request (takeRest request hasFile (.plain text :: others))
    else if hasFile then
      readArguments { request with extras := request.extras ++ [text] } true others
    else readArguments { request with file := some text } true others
  | .option switch _ none :: others =>
    if switch.takesValue then
      match others with
      | .plain value :: others =>
        readArguments { request with command := some value } hasFile others
      | _ => valueMissing switch
    else
      match apply request switch with
      | .request request => readArguments request hasFile others
      | outcome => outcome
  | .option switch name (some attached) :: others =>
    let parts :=
      if name == switch.short then cluster switch attached.bySign attached.value.toList
      else if switch.takesValue then .flags [] (some switch) (some attached.value) none
      else .error (ignored switch attached.value)
    match parts with
    | .error outcome => outcome
    | .flags switches none _ extra =>
      applyAll { request with extras := request.extras ++ extra.toList }
        (fun request => readArguments request hasFile others) switches
    | .flags switches (some _) (some value) _ =>
      applyAll { request with command := some value }
        (fun request => readArguments request hasFile others) switches
    | .flags switches (some switch) none _ =>
      match others with
      | .plain value :: others =>
        applyAll { request with command := some value }
          (fun request => readArguments request hasFile others) switches
      | _ => valueMissing switch

def outcomeOf (args : List String) : Outcome :=
  match Argument.classifyAll args with
  | .error message => .error message
  | .ok classified =>
    match readArguments {} false classified with
    | .request request =>
      if request.extras.isEmpty then .request request
      else .error ("unrecognized arguments: " ++ String.intercalate " " request.extras)
    | outcome => outcome

/-! ## The program -/

def usage : String := "usage: slayscript [-h] [-d] [-c COMMAND] [-v] [file]\n"

def helpText : String :=
  usage ++
    "\nSlayScript - Cast spells, slay bugs.\n" ++
    "\npositional arguments:\n" ++
    "  file                  Path to a .slay file to execute\n" ++
    "\noptions:\n" ++
    "  -h, --help            show this help message and exit\n" ++
    "  -d, --debug           Show debug output (tokens and AST)\n" ++
    "  -c COMMAND, --command COMMAND\n" ++
    "                        Execute a single command\n" ++
    "  -v, --version         show program's version number and exit\n"

/-- Do what the arguments ask for. -/
def obey (request : Request) : Eval Ending := do
  let command := request.command.getD ""
  let file := request.file.getD ""
  if !command.isEmpty then runAndReport command request.debug
  else if !file.isEmpty then runFile file request.debug
  else
    Session.repl
    return none

def program (args : List String) : Eval Ending := do
  match outcomeOf args with
  | .request request => obey request
  | .help =>
    act (Action.print helpText)
    return some 0
  | .version =>
    act (Action.printLine ("SlayScript " ++ Session.version))
    return some 0
  | .error message =>
    act (Action.printError (usage ++ "slayscript: error: " ++ message ++ "\n"))
    return some 2

end CommandLine

end Spellbook
