import Mathlib.Data.List.Nodup

/-!
# JSON values

Numbers are exact, and the fields of an object stand in the order of insertion.  The rule
of induction over a value and its parts, and how fields are read and written.
-/

inductive Json where
  | null
  | boolean (value : Bool)
  | number (value : Rat)
  | string (value : String)
  | array (items : List Json)
  | object (fields : List (String × Json))
deriving Repr

namespace Json

/-- The integer that a number is, when it lies between the bounds. -/
def integerIn (min max : Nat) : Json → Option Nat
  | number value =>
    if value.den = 1 ∧ (min : Int) ≤ value.num ∧ value.num ≤ (max : Int) then
      some value.num.toNat
    else none
  | _ => none

def isScalar : Json → Bool
  | .array _ => false
  | .object _ => false
  | _ => true

/-- What holds of scalars, and of arrays and objects when it does of their parts. -/
@[elab_as_elim] theorem induction {P : Json → Prop} (scalar : ∀ x, x.isScalar = true → P x)
    (array : ∀ items, (∀ x ∈ items, P x) → P (.array items))
    (object : ∀ fields, (∀ field ∈ fields, P field.2) → P (.object fields)) : ∀ x, P x := by
  refine @Json.rec P (fun items => ∀ x ∈ items, P x) (fun fields => ∀ field ∈ fields, P field.2)
    (fun field => P field.2) (scalar _ rfl) (fun _ => scalar _ rfl) (fun _ => scalar _ rfl)
    (fun _ => scalar _ rfl) array object ?_ ?_ ?_ ?_ (fun _ _ h => h)
  · rintro x ⟨⟩
  · intro head tail ihHead ihTail x hx
    rcases List.mem_cons.mp hx with rfl | htail
    · exact ihHead
    · exact ihTail x htail
  · rintro field ⟨⟩
  · intro head tail ihHead ihTail field hfield
    rcases List.mem_cons.mp hfield with rfl | htail
    · exact ihHead
    · exact ihTail field htail

def keys (fields : List (String × Json)) : List String := fields.map Prod.fst

/-- `object[key]`, with `none` for a field that is not there. -/
def field (fields : List (String × Json)) (key : String) : Option Json :=
  (fields.find? fun field => field.1 = key).map Prod.snd

/-- `object[key] = value`: a field that is there keeps its place, a new one comes last. -/
def assign (fields : List (String × Json)) (key : String) (value : Json) : List (String × Json) :=
  if key ∈ keys fields then fields.map fun field => (field.1, if field.1 = key then value else field.2)
  else fields ++ [(key, value)]

theorem mem_keys {fields : List (String × Json)} {field : String × Json} (h : field ∈ fields) :
    field.1 ∈ keys fields := List.mem_map_of_mem h

/-- Only the field of a key changes; without one the fields stay as they are. -/
theorem map_eq_self_of_notMem {fields : List (String × Json)} {key : String} (f : Json → Json)
    (h : key ∉ keys fields) :
    fields.map (fun field => (field.1, if field.1 = key then f field.2 else field.2)) = fields := by
  refine (List.map_congr_left fun field hmem => ?_).trans (List.map_id fields)
  rw [if_neg]
  · rfl
  · intro heq
    exact h (heq ▸ mem_keys hmem)

theorem field_eq_none {fields : List (String × Json)} {key : String} (h : field fields key = none) :
    key ∉ keys fields := by
  intro hmem
  obtain ⟨found, hfound, hkey⟩ := List.mem_map.mp hmem
  have hnone := List.find?_eq_none.mp (Option.map_eq_none_iff.mp h) found hfound
  exact hnone (by simpa using hkey)

theorem field_eq_some {fields : List (String × Json)} {key : String} {value : Json}
    (h : field fields key = some value) : (key, value) ∈ fields := by
  obtain ⟨found, hfind, rfl⟩ := Option.map_eq_some_iff.mp h
  have hkey : found.1 = key := by simpa using List.find?_some hfind
  exact hkey ▸ List.mem_of_find?_eq_some hfind

/-- The value of a key is one value when the keys are distinct. -/
theorem value_unique {fields : List (String × Json)} (hnodup : (keys fields).Nodup) {key : String}
    {x y : Json} (hx : (key, x) ∈ fields) (hy : (key, y) ∈ fields) : x = y := by
  have hpair := List.inj_on_of_nodup_map hnodup hx hy rfl
  exact congrArg Prod.snd hpair

end Json
