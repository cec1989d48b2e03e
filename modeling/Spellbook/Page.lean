import Spellbook.Store.Display
import Spellbook.Store.Equality

/-!
# Pages

A page is made of elements and style rules.  Both are records: an element has a tag, attributes
and a content that may hold further elements, a style rule has a selector and properties.  What is
no element is written as its text, and what is no style rule as nothing.
-/

namespace Spellbook.Page

def record? (store : Store) (type : String) : Value → Option Entries
  | .grimoire ref =>
    let entries := store.grimoire ref
    match entries.get? (.scroll "type") with
    | some (.scroll text) => if text == type then some entries else none
    | _ => none
  | _ => none

def field (entries : Entries) (name : String) : Except Fault Value :=
  match entries.get? (.scroll name) with
  | some value => .ok value
  | none => .error (.missingKey (Text.quoted name))

/-- The entries of a grimoire, each written in some way. -/
def writeEntries (store : Store) (write : String → String → String) :
    Value → Except Fault (List String)
  | .grimoire ref =>
    (store.grimoire ref).toList.mapM fun (key, value) => do
      let name ← store.plainText key
      return write name (← store.plainText value)
  | value => .error (.noAttribute value.typeName "items")

/-- The attributes of an element, each after a blank. -/
def attributes (store : Store) (value : Value) : Except Fault String :=
  if store.isTruthy value then do
    let texts ← writeEntries store (fun name text => name ++ "=\"" ++ text ++ "\"") value
    return " " ++ String.intercalate " " texts
  else .ok ""

/-- The tags of the elements that have no content. -/
def emptyTags : List String := ["br", "hr", "img", "input", "meta", "link"]

def isEmptyTag : Value → Bool
  | .scroll tag => emptyTags.contains tag
  | _ => false

/-- The content of an element as text, given how elements are written. -/
def content (store : Store) (write : Value → Except Fault String) : Value → Except Fault String
  | .tome ref => do
    let parts ← (store.tome ref).toList.mapM write
    .ok (String.intercalate "\n" parts)
  | .void => .ok ""
  | value => if (record? store "element" value).isSome then write value else store.plainText value

/-- An element as text.  Elements are nested at most as deep as the budget. -/
def element (store : Store) : (budget : Nat) → Value → Except Fault String
  | _, .scroll text => .ok text
  | 0, _ => .error .exhausted
  | budget + 1, value =>
    match record? store "element" value with
    | none => store.plainText value
    | some entries => do
      let tag ← field entries "tag"
      let value ← field entries "content"
      let attributeText ← match entries.get? (.scroll "attrs") with
        | some value => attributes store value
        | none => .ok ""
      let inner ← content store (element store budget) value
      let tagText ← store.plainText tag
      if isEmptyTag tag then return "<" ++ tagText ++ attributeText ++ " />"
      else
        return "<" ++ tagText ++ attributeText ++ ">" ++ inner ++ "</" ++ tagText ++ ">"

def style (store : Store) (value : Value) : Except Fault String :=
  match record? store "style" value with
  | none => .ok ""
  | some entries => do
    let selector ← field entries "selector"
    let properties ← field entries "properties"
    let lines ← writeEntries store (fun name text => "  " ++ name ++ ": " ++ text ++ ";") properties
    let selectorText ← store.plainText selector
    return selectorText ++ " \x7b\n" ++ String.intercalate "\n" lines ++ "\n\x7d"

def styles (store : Store) (rules : List Value) : Except Fault String := do
  return String.intercalate "\n" (← rules.mapM (style store))

def body (store : Store) (elements : List Value) : Except Fault String := do
  return String.intercalate "\n" (← elements.mapM (element store (store.depth + 1)))

def frame (title styles body : String) : String :=
  String.intercalate "\n"
    ["<!DOCTYPE html>",
      "<html lang=\"en\">",
      "<head>",
      "    <meta charset=\"UTF-8\">",
      "    <meta name=\"viewport\" content=\"width=device-width, initial-scale=1.0\">",
      "    <title>" ++ title ++ "</title>",
      "    <style>",
      styles,
      "    </style>",
      "</head>",
      "<body>",
      body,
      "</body>",
      "</html>"]

end Spellbook.Page
