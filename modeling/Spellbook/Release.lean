import Spellbook.World.Shell

/-!
# Making a release

A release is the program as one executable file, with the example scripts beside it.  It is made
in four steps: install what the packaging needs, remove what an earlier release left, package the
program, copy the examples.  Packaging is the work of an outside tool; each step that fails
decides whether the release goes on.
-/

namespace Spellbook.Release

open Spellbook.Action

structure Platform where
  system : String
  /-- The version of the interpreter that the packaging runs on. -/
  version : String := "3.x"
  /-- The command that starts the interpreter. -/
  interpreter : String := "python"

namespace Platform

/-- Does the platform name paths and executables the way Windows does? -/
def isWindows (platform : Platform) : Bool := platform.system == "Windows"

def executableEnding (platform : Platform) : String := if platform.isWindows then ".exe" else ""

/-- What stands between the two paths of a packaged directory. -/
def pathSeparator (platform : Platform) : String := if platform.isWindows then ";" else ":"

def speechDriver (platform : Platform) : String :=
  match platform.system with
  | "Windows" => "sapi5"
  | "Darwin" => "nsss"
  | _ => "espeak"

end Platform

def programName : String := "slayscript"

def printLines (lines : List String) : Action Unit :=
  print (String.join (lines.map (· ++ "\n")))

def rule : String := String.ofList (List.replicate 50 '=')

/-- Run a command and say what it is for; tell whether it ended well. -/
def runStep (line desc : String) : Action Bool := do
  printLines ["  " ++ desc ++ "..."]
  let answer ← runCommand (.line line)
  if answer.code == 0 then return true
  else
    printLines ["  Error: " ++ answer.errors]
    return false

def heading (platform : Platform) : List String :=
  [rule, "  SlayScript Build Script", "  Cast spells, slay bugs.", rule, "",
    "Platform: " ++ platform.system, "Python: " ++ platform.version, ""]

/-- Install what the packaging needs; tell whether the packaging tool is there. -/
def install (platform : Platform) : Action Bool := do
  printLines ["Step 1: Installing dependencies"]
  let installer := platform.interpreter ++ " -m pip install "
  if !(← runStep (installer ++ "-r requirements.txt") "Installing requirements") then
    printLines ["Warning: Could not install requirements.txt dependencies"]
  if ← runStep (installer ++ "pyinstaller") "Installing PyInstaller" then
    printLines [""]
    return true
  else
    printLines ["Error: Failed to install PyInstaller"]
    return false

/-- Remove what is at a path, if anything is. -/
def clean (path : String) : Action Unit := do
  let files := (← get).files
  if files.leadsSomewhere path then
    let cleaned ← ofResult
      (if files.leadsToDirectory path then files.removeTree path else files.removeFile path)
    modify fun world => { world with files := cleaned }
    printLines ["  Removed " ++ path]

/-- Remove what an earlier release left. -/
def cleanAll : Action Unit := do
  printLines ["Step 2: Cleaning previous builds"]
  ["build", "dist", programName ++ ".spec"].forM clean
  printLines [""]

/-- The words of the command that packages the program. -/
def packaging (platform : Platform) : List String :=
  [platform.interpreter, "-m", "PyInstaller", "--onefile", "--name=" ++ programName,
    "--add-data=slayscript" ++ platform.pathSeparator ++ "slayscript", "--console", "--noconfirm",
    "--hidden-import=pyttsx3.drivers", "--hidden-import=pyttsx3.drivers." ++ platform.speechDriver,
    "slayscript_cli.py"]

def package (platform : Platform) : Action Bool := do
  let words := packaging platform
  printLines ["Step 3: Building executable", "  Running: " ++ String.intercalate " " words]
  let answer ← runCommand (.program words)
  printLines [""]
  if answer.code == 0 then return true
  else
    printLines ["Error: Build failed"]
    return false

/-- Put the example scripts beside the executable, in place of any that are there. -/
def copyExamples : Action Unit := do
  printLines ["Step 4: Copying examples to dist folder"]
  let target := "dist/examples"
  if (← get).files.leadsSomewhere target then
    let cleaned ← ofResult ((← get).files.removeTree target)
    modify fun world => { world with files := cleaned }
  let copied ← ofResult ((← get).files.copyTree "examples" target)
  modify fun world => { world with files := copied }
  printLines ["  Copied examples to " ++ target, ""]

def invocation (platform : Platform) : String :=
  if platform.isWindows then "dist\\" ++ programName ++ ".exe" else "./dist/" ++ programName

def firstExample (platform : Platform) : String :=
  if platform.isWindows then "examples\\hello_world.slay" else "examples/hello_world.slay"

def farewell (platform : Platform) : List String :=
  [rule, "  Build complete!",
    "  Executable: dist/" ++ programName ++ platform.executableEnding, rule, "",
    "To run SlayScript:", "  " ++ invocation platform ++ " " ++ firstExample platform, "",
    "To start the REPL:", "  " ++ invocation platform, ""]

/-- Make a release; without the packaging tool, or if it fails, the exit code is 1. -/
def make (platform : Platform) : Action Ending := do
  printLines (heading platform)
  if !(← install platform) then return some 1
  cleanAll
  if !(← package platform) then return some 1
  copyExamples
  printLines (farewell platform)
  return none

end Spellbook.Release
