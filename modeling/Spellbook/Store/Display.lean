import Spellbook.Store

/-!
# The text of values

Two texts of a value.  The plain one is printed and joined to other texts: a scroll is its own
text, and inside collections scrolls are quoted.  The other one is shown by a session and can be
typed back.
-/

namespace Spellbook.Store

/-- The text of a value inside a collection, below the collections of `above`. -/
def innerText (store : Store) :
    (budget : Nat) → (above : List Ancestor) → Value → Except Fault String
  | _, _, .void => .ok "None"
  | _, _, .charm truth => .ok (if truth then "True" else "False")
  | _, _, .rune integer => Number.textOfInteger integer
  | _, _, .potion num _ => .ok (Number.floatText num)
  | _, _, .complex real imaginary => .ok (Number.complexText real imaginary)
  | _, _, .scroll text => .ok (Text.quoted text)
  | _, _, .spell _ name aloud => .ok (Value.functionText (Value.spellKind aloud) name)
  | _, _, .builtin name _ => .ok (Value.functionText "builtin" name)
  | _, _, .handle _ path mode =>
    .ok ("<_io.TextIOWrapper name=" ++ Text.quoted path ++ " mode=" ++ Text.quoted mode ++
      " encoding='utf-8'>")
  | _, _, .portal _ => .ok "<Socket object>"
  | _, _, .connection _ => .ok "<Connection object>"
  | 0, _, _ => .error .exhausted
  | budget + 1, above, .tome ref =>
    if above.contains (.tome ref) then .ok "[...]"
    else do
      let texts ← (store.tome ref).toList.mapM
        (store.innerText budget (.tome ref :: above))
      return "[" ++ String.intercalate ", " texts ++ "]"
  | budget + 1, above, .grimoire ref =>
    if above.contains (.grimoire ref) then .ok "\x7b...\x7d"
    else do
      let texts ← (store.grimoire ref).toList.mapM fun (key, value) => do
        let keyText ← store.innerText budget (.grimoire ref :: above) key
        let valueText ← store.innerText budget (.grimoire ref :: above) value
        return keyText ++ ": " ++ valueText
      return "\x7b" ++ String.intercalate ", " texts ++ "\x7d"

def quotedText (store : Store) (value : Value) : Except Fault String :=
  store.innerText (store.depth + 1) [] value

def plainText (store : Store) : Value → Except Fault String
  | .scroll text => .ok text
  | value => store.quotedText value

/-- The text of a value that a session shows, down to the given depth. -/
def shownTo (store : Store) : (depth : Nat) → Value → Except Fault String
  | _, .void => .ok "void"
  | _, .charm truth => .ok (if truth then "true" else "false")
  | _, .scroll text => .ok ("\"" ++ text ++ "\"")
  | 0, _ => .error .exhausted
  | depth + 1, .tome ref => do
    let texts ← (store.tome ref).toList.mapM (store.shownTo depth)
    return "tome [" ++ String.intercalate ", " texts ++ "]"
  | depth + 1, .grimoire ref => do
    let texts ← (store.grimoire ref).toList.mapM fun (key, value) => do
      return (← store.shownTo depth key) ++ ": " ++ (← store.shownTo depth value)
    return "grimoire \x7b" ++ String.intercalate ", " texts ++ "\x7d"
  | _ + 1, value => store.plainText value

def shown (store : Store) (value : Value) : Except Fault String :=
  store.shownTo (store.depth + 1) value

end Spellbook.Store
