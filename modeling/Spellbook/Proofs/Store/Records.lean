import Spellbook.Store

/-!
# Fields of records

A record is a grimoire whose fields stand under texts.  Only a text is the same key as a text, so
what is written under a key is found under it again and changes nothing else
(`Entries.get?_put_self`, `Entries.get?_put_of_ne`).
-/

namespace Spellbook

namespace Value

variable {key : Value} {name : String}

theorem sameKey_scroll_iff : key.sameKey (.scroll name) = true ↔ key = .scroll name := by
  cases key <;> simp [sameKey, identical, scalarEqual, quantity?]

theorem scroll_sameKey_iff : (scroll name).sameKey key = true ↔ key = .scroll name := by
  cases key with
  | scroll text => simp [sameKey, identical, scalarEqual, eq_comm (a := name)]
  | _ => simp [sameKey, identical, scalarEqual, quantity?]

end Value

namespace Entries

/-- Write a value under a key of a list of entries. -/
def putIn (key value : Value) : List (Value × Value) → List (Value × Value)
  | [] => [(key, value)]
  | entry :: entries =>
    if entry.1.sameKey key then (entry.1, value) :: entries else entry :: putIn key value entries

theorem toList_put (entries : Entries) (key value : Value) :
    (entries.put key value).toList = putIn key value entries.toList := by
  obtain ⟨entries⟩ := entries
  induction entries with
  | nil => simp [put, putIn]
  | cons entry entries ih =>
    rw [putIn]
    split
    case isTrue same => simp [put, List.findIdx?_cons, same]
    case isFalse other =>
      rw [← ih]
      cases found : entries.findIdx? (fun entry => entry.1.sameKey key) <;>
        simp [put, List.findIdx?_cons, other, found]

theorem get?_eq_find? (entries : Entries) (key : Value) :
    entries.get? key = (entries.toList.find? fun entry => entry.1.sameKey key).map Prod.snd := by
  rw [get?, Array.find?_toList]

theorem get?_put_self (entries : Entries) (name : String) (value : Value) :
    (entries.put (.scroll name) value).get? (.scroll name) = some value := by
  rw [get?_eq_find?, toList_put]
  induction entries.toList with
  | nil => simp [putIn, Value.sameKey_scroll_iff]
  | cons entry entries ih =>
    rw [putIn]
    split
    case isTrue same => simp [same]
    case isFalse other => simpa [other] using ih

theorem get?_put_of_ne (entries : Entries) {key : Value} {name : String} (value : Value)
    (other : key ≠ .scroll name) :
    (entries.put key value).get? (.scroll name) = entries.get? (.scroll name) := by
  rw [get?_eq_find?, get?_eq_find?, toList_put]
  induction entries.toList with
  | nil => simp [putIn, Value.sameKey_scroll_iff, other]
  | cons entry entries ih =>
    rw [putIn]
    split
    case isTrue same =>
      have unlike : ¬entry.1.sameKey (.scroll name) = true := by
        intro named
        rw [Value.sameKey_scroll_iff.mp named, Value.scroll_sameKey_iff] at same
        exact other same
      simp [unlike]
    case isFalse =>
      rw [List.find?_cons, List.find?_cons]
      cases entry.1.sameKey (.scroll name) with
      | true => rfl
      | false => exact ih

theorem put_put_self (entries : Entries) (name : String) (former value : Value) :
    (entries.put (.scroll name) former).put (.scroll name) value =
      entries.put (.scroll name) value := by
  rw [← Array.toList_inj, toList_put, toList_put, toList_put]
  induction entries.toList with
  | nil => simp [putIn, Value.sameKey_scroll_iff]
  | cons entry entries ih =>
    by_cases same : entry.1.sameKey (.scroll name) = true
    · simp [putIn, same]
    · simp [putIn, same, ih]

/-- If a field is there, writing it and writing another can be done in any order. -/
theorem put_comm {entries : Entries} {name other : String} (unlike : name ≠ other)
    (there : (entries.get? (.scroll name)).isSome = true) (value otherValue : Value) :
    (entries.put (.scroll name) value).put (.scroll other) otherValue =
      (entries.put (.scroll other) otherValue).put (.scroll name) value := by
  rw [get?_eq_find?, Option.isSome_map] at there
  rw [← Array.toList_inj, toList_put, toList_put, toList_put, toList_put]
  generalize entries.toList = entries at there ⊢
  induction entries with
  | nil => cases there
  | cons entry entries ih =>
    by_cases here : entry.1.sameKey (.scroll name) = true
    · have apart : ¬entry.1.sameKey (.scroll other) = true := by
        rw [Value.sameKey_scroll_iff] at here ⊢
        rw [here]
        exact fun same => unlike (Value.scroll.inj same)
      simp [putIn, here, apart]
    · have more : (entries.find? fun entry =>
          entry.1.sameKey (.scroll name)).isSome = true := by simpa [here] using there
      by_cases second : entry.1.sameKey (.scroll other) = true
      · simp [putIn, here, second]
      · simp [putIn, here, second, ih more]

end Entries

end Spellbook
