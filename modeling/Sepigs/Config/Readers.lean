import Sepigs.Lib.Checked
import Sepigs.Lib.Json
import Sepigs.Lib.JsMap
import Sepigs.Lib.JsString

/-!
# Reading fields (`config/schema.ts`, the readers)

Each reader gives the value of a field, or `none` and a complaint that names the field.
-/

namespace Sepigs

/-- The fields of a value that `isRecord` accepts. -/
abbrev Record := List (String × Json)

open Checked (push collect)

/-- `errors.push(error); return undefined;` -/
def reject {α : Type} (error : String) : Checked (Option α) := do
  push error
  pure none

/-- A string that `value.trim().length` keeps. -/
def nonBlank : Json → Option String
  | .string value => if JsString.isBlank value then none else some value
  | _ => none

section Readers

variable (record : Record) (key path : String)

def readString : Checked (Option String) :=
  match (record.lookup key).bind nonBlank with
  | some value => pure (some value)
  | none => reject s!"{path}.{key} must be a non-empty string"

def readOptionalString : Checked (Option String) :=
  match record.lookup key with
  | none => pure none
  | some value =>
    match nonBlank value with
    | some text => pure (some text)
    | none => reject s!"{path}.{key} must be a non-empty string when provided"

def readNumber (min max : Nat) : Checked (Option Nat) :=
  match (record.lookup key).bind (Json.integerIn min max) with
  | some value => pure (some value)
  | none => reject s!"{path}.{key} must be an integer between {min} and {max}"

def readOptionalNumber (min max : Nat) : Checked (Option Nat) :=
  match record.lookup key with
  | none => pure none
  | some value =>
    match value.integerIn min max with
    | some number => pure (some number)
    | none => reject s!"{path}.{key} must be an integer between {min} and {max} when provided"

def readOptionalBoolean : Checked (Option Bool) :=
  match record.lookup key with
  | none => pure none
  | some (.boolean value) => pure (some value)
  | some _ => reject s!"{path}.{key} must be a boolean when provided"

/-- The items of an array of strings, each trimmed. -/
def readStrings (path : String) (items : List Json) : Checked (List String) :=
  collect
    (fun index item =>
      match nonBlank item with
      | some text => pure [JsString.trim text]
      | none => do
        push s!"{path}[{index}] must be a non-empty string"
        pure [])
    items

def readStringArray : Checked (Option (List String)) :=
  match record.lookup key with
  | none => pure none
  | some (.array items) => do
    let output ← readStrings s!"{path}.{key}" items
    pure (some output)
  | some _ => reject s!"{path}.{key} must be an array of non-empty strings"

def readOptionsRecord : Checked Record :=
  match record.lookup key with
  | none => pure []
  | some (.object fields) => pure fields
  | some _ => do
    push s!"{path}.{key} must be an object when provided"
    pure []

/-- The integers between two bounds among the items. -/
def readIntegers (path range : String) (min max : Nat) (items : List Json) :
    Checked (List Nat) :=
  collect
    (fun index item =>
      match item.integerIn min max with
      | some value => pure [value]
      | none => do
        push s!"{path}[{index}] must be an integer between {range}"
        pure [])
    items

/-- A single value is an array of one. -/
def portValues : Json → List Json
  | .array items => items
  | value => [value]

def readPortArray : Checked (Option (List Nat)) :=
  match record.lookup key with
  | none => pure none
  | some value => do
    let output ← readIntegers s!"{path}.{key}" "1 and 65535" 1 65535 (portValues value)
    pure (some output)

def readByteArray : Checked (Option (List Nat)) :=
  match record.lookup key with
  | none => pure none
  | some (.array items) => do
    let output ← readIntegers s!"{path}.{key}" "0 and 255" 0 255 items
    pure (some output)
  | some _ => reject s!"{path}.{key} must be an array of bytes"

/-- Writing under the key in lower case: the last one of a spelling stays. -/
def readEntries (toLowerCase : String → String) (path : String) :
    Record → JsMap String (List String) → Checked (JsMap String (List String))
  | [], output => pure output
  | (entryKey, .array items) :: entries, output => do
    let values ← readStrings s!"{path}.{entryKey}" items
    readEntries toLowerCase path entries (output.set (toLowerCase entryKey) values)
  | (entryKey, _) :: entries, output => do
    push s!"{path}.{entryKey} must be an array of strings"
    readEntries toLowerCase path entries output

def readStringArrayRecord (toLowerCase : String → String) :
    Checked (Option (JsMap String (List String))) :=
  match record.lookup key with
  | none => pure none
  | some (.object entries) => do
    let output ← readEntries toLowerCase s!"{path}.{key}" entries ∅
    pure (some output)
  | some _ => reject s!"{path}.{key} must be an object of string arrays"

end Readers

/-! ## What is read without a complaint -/

@[simp] theorem not_clean_reject {α : Type} (error : String) :
    ¬ (reject error : Checked (Option α)).Clean := by
  unfold reject
  simp

/-- The strings that an array holds, as `readStringArray` gives them. -/
def stringsOf (items : List Json) : List String :=
  items.filterMap fun item => (nonBlank item).map JsString.trim

def integersOf (min max : Nat) (items : List Json) : List Nat :=
  items.filterMap (Json.integerIn min max)

theorem readStrings_clean {path : String} {items : List Json}
    (h : (readStrings path items).Clean) : (readStrings path items).value = stringsOf items := by
  have hvalue := Checked.value_collect
    (g := fun item => ((nonBlank item).map JsString.trim).toList) ?_ h
  · unfold stringsOf
    rw [List.filterMap_eq_flatMap_toList]
    exact hvalue
  · intro i item hclean
    cases hitem : nonBlank item with
    | none => simp [hitem] at hclean
    | some text => simp

theorem readIntegers_clean {path range : String} {min max : Nat} {items : List Json}
    (h : (readIntegers path range min max items).Clean) :
    (readIntegers path range min max items).value = integersOf min max items := by
  have hvalue := Checked.value_collect (g := fun item => (item.integerIn min max).toList) ?_ h
  · unfold integersOf
    rw [List.filterMap_eq_flatMap_toList]
    exact hvalue
  · intro i item hclean
    cases hitem : item.integerIn min max with
    | none => simp [hitem] at hclean
    | some value => simp

/-- The strings of a field that is an array, `none` where there is no field. -/
def givenStrings (record : Record) (key : String) : Option (List String) :=
  (record.lookup key).map fun
    | .array items => stringsOf items
    | _ => []

/-- The ports of a field: one, or an array of them. -/
def givenPorts (record : Record) (key : String) : Option (List Nat) :=
  (record.lookup key).map fun value => integersOf 1 65535 (portValues value)

theorem readString_clean {record : Record} {key path : String}
    (h : (readString record key path).Clean) :
    ∃ text, (record.lookup key).bind nonBlank = some text ∧
      (readString record key path).value = some text := by
  unfold readString at h ⊢
  cases htext : (record.lookup key).bind nonBlank with
  | none => simp [htext] at h
  | some text => exact ⟨text, rfl, rfl⟩

theorem readOptionalString_clean {record : Record} {key path : String}
    (h : (readOptionalString record key path).Clean) :
    (readOptionalString record key path).value = (record.lookup key).bind nonBlank := by
  unfold readOptionalString at h ⊢
  cases hvalue : record.lookup key with
  | none => rfl
  | some value =>
    cases htext : nonBlank value with
    | none => simp [hvalue, htext] at h
    | some text => simp [htext]

theorem readStringArray_clean {record : Record} {key path : String}
    (h : (readStringArray record key path).Clean) :
    (readStringArray record key path).value = givenStrings record key := by
  unfold readStringArray at h ⊢
  unfold givenStrings
  cases hvalue : record.lookup key with
  | none => rfl
  | some value =>
    cases value with
    | array items =>
      simp only [hvalue, Checked.clean_bind] at h
      simp only [Checked.value_bind, Checked.value_pure, readStrings_clean h.1, Option.map_some]
    | _ => simp [hvalue] at h

theorem readPortArray_clean {record : Record} {key path : String}
    (h : (readPortArray record key path).Clean) :
    (readPortArray record key path).value = givenPorts record key := by
  unfold readPortArray at h ⊢
  unfold givenPorts
  cases hvalue : record.lookup key with
  | none => rfl
  | some value =>
    simp only [hvalue, Checked.clean_bind] at h
    simp only [Checked.value_bind, Checked.value_pure, readIntegers_clean h.1, Option.map_some]

end Sepigs
