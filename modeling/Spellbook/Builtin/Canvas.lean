import Spellbook.Builtin
import Spellbook.Page

/-!
# Builtins for pages

A canvas is a record with a title, style rules and a body; weaving it gives the text of a page.
-/

namespace Spellbook.Builtin

open Spellbook.Action

/-- A new canvas with a title. -/
def conjureCanvas : List Value → Action Value
  | [title] => do
    let title ← text title
    let styles ← newTome []
    let body ← newTome []
    newRecord [("title", .scroll title), ("styles", styles), ("body", body)]
  | _ => forbid "conjure_canvas requires 1 argument (title)"

/-- An element of a page, as a record. -/
def enchantElement : List Value → Action Value
  | tag :: content :: others => do
    let tag ← text tag
    let attrs ← match others with
      | attrs :: _ => pure attrs
      | [] => newRecord []
    newRecord [("type", .scroll "element"), ("tag", .scroll tag), ("content", content),
      ("attrs", attrs)]
  | _ => forbid "enchant_element requires at least 2 arguments (tag, content)"

/-- A rule of style, as a record. -/
def enchantStyle : List Value → Action Value
  | [selector, properties] => do
    let selector ← text selector
    match properties with
    | .grimoire _ =>
      newRecord [("type", .scroll "style"), ("selector", .scroll selector),
        ("properties", properties)]
    | _ => forbid "Style properties must be a grimoire (dict)"
  | _ => forbid "enchant_style requires 2 arguments (selector, properties)"

/-- Put an item at the end of a part of a canvas. -/
def extendCanvas (part : String) (canvas item : Value) : Action Value := do
  match canvas with
  | .grimoire ref =>
    match ← field? ref part with
    | some coll =>
      appendTo coll item
      return canvas
    | none => forbid "Invalid canvas"
  | _ => forbid "Invalid canvas"

/-- Add an element to the body. -/
def appendToCanvas : List Value → Action Value
  | [canvas, item] => extendCanvas "body" canvas item
  | _ => forbid "append_to_canvas requires 2 arguments (canvas, element)"

/-- Add a rule of style. -/
def addStyleToCanvas : List Value → Action Value
  | [canvas, item] => extendCanvas "styles" canvas item
  | _ => forbid "add_style_to_canvas requires 2 arguments (canvas, style)"

/-- The elements of a part of a canvas; none if the part is not there. -/
def partOf (ref : Nat) (part : String) : Action (List Value) := do
  match ← field? ref part with
  | some coll => elements coll
  | none => return []

/-- The text of the page on a canvas. -/
def weave : Value → Action String
  | .grimoire ref => do
    let title ← fieldOr ref "title" (.scroll "Untitled")
    let rules ← partOf ref "styles"
    let styles ← ofResult (Page.styles (← store) rules)
    let elements ← partOf ref "body"
    let body ← ofResult (Page.body (← store) elements)
    return Page.frame (← text title) styles body
  | _ => forbid "Invalid canvas"

/-- The page on a canvas, as a scroll. -/
def weavePage : List Value → Action Value
  | [canvas] => do return .scroll (← weave canvas)
  | _ => forbid "weave_page requires 1 argument (canvas)"

/-- Write the page on a canvas to a file. -/
def scribePage : List Value → Action Value
  | [canvas, path] => do
    let path ← text path
    let page ← weave canvas
    writeFile path false page
    return .scroll path
  | _ => forbid "scribe_page requires 2 arguments (canvas, filename)"

/-- The names along a path with `..` and `.` resolved, the last first. -/
def resolveSteps (steps : List String) : List String :=
  steps.foldl
    (fun resolved step =>
      if FileTree.isIdle step then resolved
      else if step == ".." then resolved.drop 1
      else step :: resolved)
    []

/-- The address of a file, in which the working directory has a name of its own. -/
def fileAddress (path : String) : String :=
  if path.toList.head? == some '/' then "file://" ++ path
  else
    let names := (resolveSteps (FileTree.steps path)).reverse
    "file://" ++ String.intercalate "/" ("<cwd>" :: names)

/-- Show a file in the browser. -/
def summonBrowser : List Value → Action Value
  | [path] => do
    note (.browse (fileAddress (← text path)))
    return .charm true
  | _ => forbid "summon_browser requires 1 argument (filename)"

/-- The builtins for pages. -/
def canvases : List Builtin :=
  [⟨"conjure_canvas", some 1, conjureCanvas⟩,
    ⟨"enchant_element", none, enchantElement⟩,
    ⟨"enchant_style", some 2, enchantStyle⟩,
    ⟨"append_to_canvas", some 2, appendToCanvas⟩,
    ⟨"add_style_to_canvas", some 2, addStyleToCanvas⟩,
    ⟨"weave_page", some 1, weavePage⟩,
    ⟨"scribe_page", some 2, scribePage⟩,
    ⟨"summon_browser", some 1, summonBrowser⟩]

end Spellbook.Builtin
