import Sepigs.Lib.JsonDiff
import Sepigs.Lib.JsonText
import Mathlib.Data.List.Sort
import Mathlib.Data.Prod.Lex
import Mathlib.Data.String.Basic

/-!
# JSON values up to the order of keys

`Same` values are equal but for the order of the keys of their objects.  Sorting the keys
of every object before writing the value tells two values apart exactly when they are not
the same.
-/

namespace Json

/-- No object in the value holds a key twice. -/
inductive Distinct : Json → Prop
  | scalar {x : Json} : x.isScalar = true → Distinct x
  | array {items : List Json} : (∀ x ∈ items, Distinct x) → Distinct (.array items)
  | object {fields : List (String × Json)} : (keys fields).Nodup →
      (∀ field ∈ fields, Distinct field.2) → Distinct (.object fields)

inductive Same : Json → Json → Prop
  | scalar {x : Json} : x.isScalar = true → Same x x
  | array {xs ys : List Json} : xs.length = ys.length →
      (∀ (i : Nat) (x y : Json), xs[i]? = some x → ys[i]? = some y → Same x y) →
      Same (.array xs) (.array ys)
  | object {fs gs : List (String × Json)} : (keys fs).Perm (keys gs) →
      (∀ (key : String) (x y : Json), (key, x) ∈ fs → (key, y) ∈ gs → Same x y) →
      Same (.object fs) (.object gs)

theorem Same.keys_perm {fs gs : List (String × Json)} (h : Same (.object fs) (.object gs)) :
    (keys fs).Perm (keys gs) := by
  cases h with
  | scalar hscalar => cases hscalar
  | object hkeys => exact hkeys

theorem Same.value {fs gs : List (String × Json)} (h : Same (.object fs) (.object gs))
    {key : String} {x y : Json} (hx : (key, x) ∈ fs) (hy : (key, y) ∈ gs) : Same x y := by
  cases h with
  | scalar hscalar => cases hscalar
  | object _ hfields => exact hfields key x y hx hy

theorem Same.string {a b : String} (h : Same (.string a) (.string b)) : a = b := by
  cases h
  rfl

theorem Same.refl {x : Json} (h : Distinct x) : Same x x := by
  induction h with
  | scalar hscalar => exact .scalar hscalar
  | array _ ih =>
    refine .array rfl fun i x y hx hy => ?_
    cases hx.symm.trans hy
    exact ih x (List.mem_of_getElem? hx)
  | object hnodup _ ih =>
    refine .object (List.Perm.refl _) fun key x y hx hy => ?_
    rw [← value_unique hnodup hx hy]
    exact ih _ hx

theorem Same.of_perm {fs gs : List (String × Json)} (hperm : fs.Perm gs) (h : Distinct (.object fs)) :
    Same (.object fs) (.object gs) := by
  cases h with
  | scalar hscalar => cases hscalar
  | object hnodup hfields =>
    refine .object (hperm.map Prod.fst) fun key x y hx hy => ?_
    rw [← value_unique hnodup hx (hperm.mem_iff.mpr hy)]
    exact .refl (hfields _ hx)

theorem Same.symm {x y : Json} (h : Same x y) : Same y x := by
  induction h with
  | scalar hscalar => exact .scalar hscalar
  | array hlength _ ih => exact .array hlength.symm fun i x y hx hy => ih i y x hy hx
  | object hkeys _ ih => exact .object hkeys.symm fun key x y hx hy => ih key y x hy hx

theorem Same.trans {x y z : Json} (hxy : Same x y) (hyz : Same y z) : Same x z := by
  induction hxy generalizing z with
  | scalar => exact hyz
  | array hlength _ ih =>
    cases hyz with
    | scalar hscalar => cases hscalar
    | array hlength' hitems' =>
      refine .array (hlength.trans hlength') fun i x z hx hz => ?_
      obtain ⟨hi, -⟩ := List.getElem?_eq_some_iff.mp hx
      have hy := List.getElem?_eq_getElem (hlength ▸ hi)
      exact ih i x _ hx hy (hitems' i _ z hy hz)
  | object hkeys _ ih =>
    cases hyz with
    | scalar hscalar => cases hscalar
    | object hkeys' hfields' =>
      refine .object (hkeys.trans hkeys') fun key x z hx hz => ?_
      obtain ⟨field, hfield, rfl⟩ := List.mem_map.mp (hkeys.mem_iff.mp (mem_keys hx))
      exact ih field.1 x field.2 hx hfield (hfields' field.1 field.2 z hfield hz)

/-! ## Sorting the keys -/

/-- `localeCompare` compares any two texts, but may put distinct ones on a par. -/
structure LocalePreorder (localeCompare : String → String → Int) : Prop where
  total : ∀ left right, localeCompare left right ≤ 0 ∨ localeCompare right left ≤ 0
  trans : ∀ {a b c}, localeCompare a b ≤ 0 → localeCompare b c ≤ 0 → localeCompare a c ≤ 0

/-- `localeCompare` orders distinct keys strictly. -/
structure LocaleOrder (localeCompare : String → String → Int) : Prop extends
    LocalePreorder localeCompare where
  strict : ∀ {left right}, localeCompare left right ≤ 0 → localeCompare right left ≤ 0 →
    left = right

/-- `localeCompare` tells the keys of one object apart. -/
inductive Apart (localeCompare : String → String → Int) : Json → Prop
  | scalar {x : Json} : x.isScalar = true → Apart localeCompare x
  | array {items : List Json} : (∀ x ∈ items, Apart localeCompare x) → Apart localeCompare (.array items)
  | object {fields : List (String × Json)} :
      (∀ left ∈ keys fields, ∀ right ∈ keys fields, localeCompare left right ≤ 0 →
        localeCompare right left ≤ 0 → left = right) →
      (∀ field ∈ fields, Apart localeCompare field.2) → Apart localeCompare (.object fields)

theorem LocaleOrder.apart {localeCompare : String → String → Int} (h : LocaleOrder localeCompare)
    (x : Json) : Apart localeCompare x := by
  induction x using induction with
  | scalar x hscalar => exact .scalar hscalar
  | array items ih => exact .array ih
  | object fields ih => exact .object (fun left _ right _ => h.strict) ih

/-- Whether a key is the decimal text of an array index. -/
def isArrayIndex (key : String) : Bool :=
  match key.toNat? with
  | some n => n < 4294967295 && toString n = key
  | none => false

/-- The order in which an object keeps its fields: array indices first, by their value, then
the others as they were added. -/
def propertyOrder (entries : List (String × Json)) : List (String × Json) :=
  (entries.filter fun entry => isArrayIndex entry.1).mergeSort
      (fun left right => left.1.toNat?.getD 0 ≤ right.1.toNat?.getD 0) ++
    entries.filter fun entry => !isArrayIndex entry.1

section Sorting

variable (localeCompare : String → String → Int)

/-- `.sort(([left], [right]) => left.localeCompare(right))` -/
def sortEntries (entries : List (String × Json)) : List (String × Json) :=
  entries.mergeSort fun left right => localeCompare left.1 right.1 ≤ 0

mutual
/-- The values are sorted before the entries: the order of the entries is by their keys. -/
def sortValue : Json → Json
  | .null => .null
  | .boolean value => .boolean value
  | .number value => .number value
  | .string value => .string value
  | .array items => .array (sortItems items)
  | .object fields => .object (propertyOrder (sortEntries localeCompare (sortFields fields)))

def sortItems : List Json → List Json
  | [] => []
  | item :: items => sortValue item :: sortItems items

def sortFields : List (String × Json) → List (String × Json)
  | [] => []
  | (key, child) :: fields => (key, sortValue child) :: sortFields fields
end

/-- `JSON.stringify(sortValue(value))` -/
def stableJson (number : Rat → List Char) (value : Json) : String :=
  stringify number (sortValue localeCompare value)

theorem sortItems_eq_map (items : List Json) :
    sortItems localeCompare items = items.map (sortValue localeCompare) := by
  induction items with
  | nil => rfl
  | cons item items ih => rw [sortItems, ih, List.map_cons]

theorem sortFields_eq_map (fields : List (String × Json)) : sortFields localeCompare fields =
    fields.map fun field => (field.1, sortValue localeCompare field.2) := by
  induction fields with
  | nil => rfl
  | cons field fields ih => rw [sortFields, ih, List.map_cons]

theorem keys_sortFields (fields : List (String × Json)) :
    keys (sortFields localeCompare fields) = keys fields := by
  rw [sortFields_eq_map, keys, List.map_map]
  rfl

theorem propertyOrder_perm (entries : List (String × Json)) :
    (propertyOrder entries).Perm entries := by
  refine ((List.mergeSort_perm _ _).append_right _).trans ?_
  exact List.filter_append_perm _ entries

theorem sorted_perm (fields : List (String × Json)) :
    (propertyOrder (sortEntries localeCompare (sortFields localeCompare fields))).Perm
      (sortFields localeCompare fields) :=
  (propertyOrder_perm _).trans (List.mergeSort_perm _ _)

variable {localeCompare}

/-- Entries with the same distinct keys and values are sorted into one list. -/
theorem sortEntries_eq_of_perm (horder : LocalePreorder localeCompare) {fs gs : List (String × Json)}
    (hapart : ∀ left ∈ keys fs, ∀ right ∈ keys fs, localeCompare left right ≤ 0 →
      localeCompare right left ≤ 0 → left = right)
    (hnodup : (keys fs).Nodup) (hperm : fs.Perm gs) :
    sortEntries localeCompare fs = sortEntries localeCompare gs := by
  let le : String × Json → String × Json → Bool := fun left right =>
    localeCompare left.1 right.1 ≤ 0
  have hpairwise : ∀ entries, (sortEntries localeCompare entries).Pairwise fun a b => le a b := by
    intro entries
    refine List.pairwise_mergeSort ?_ ?_ entries
    · intro a b c hab hbc
      exact decide_eq_true (horder.trans (of_decide_eq_true hab) (of_decide_eq_true hbc))
    · intro a b
      simpa [le] using horder.total a.1 b.1
  refine List.Perm.eq_of_pairwise ?_ (hpairwise fs) (hpairwise gs)
    (((List.mergeSort_perm _ _).trans hperm).trans (List.mergeSort_perm _ _).symm)
  intro a b ha hb hab hba
  have hmem : a ∈ fs := (List.mergeSort_perm _ _).mem_iff.mp ha
  have hmem' : b ∈ fs := hperm.mem_iff.mpr ((List.mergeSort_perm _ _).mem_iff.mp hb)
  have hkey : a.1 = b.1 := hapart a.1 (List.mem_map_of_mem hmem) b.1 (List.mem_map_of_mem hmem')
    (of_decide_eq_true hab) (of_decide_eq_true hba)
  exact List.inj_on_of_nodup_map hnodup hmem hmem' hkey

theorem isScalar_sortValue (x : Json) : (sortValue localeCompare x).isScalar = x.isScalar := by
  cases x <;> rfl

theorem sortValue_scalar {x : Json} (h : x.isScalar = true) : sortValue localeCompare x = x := by
  cases x <;> first | rfl | cases h

theorem mem_sortFields {fields : List (String × Json)} {key : String} {x : Json}
    (h : (key, x) ∈ fields) :
    (key, sortValue localeCompare x) ∈ sortFields localeCompare fields := by
  rw [sortFields_eq_map]
  exact List.mem_map.mpr ⟨(key, x), h, rfl⟩

theorem sortFields_perm {fs gs : List (String × Json)}
    (h : sortValue localeCompare (.object fs) = sortValue localeCompare (.object gs)) :
    (sortFields localeCompare fs).Perm (sortFields localeCompare gs) := by
  have hsorted := Json.object.inj h
  exact ((sorted_perm localeCompare fs).symm.trans (.of_eq hsorted)).trans (sorted_perm localeCompare gs)

theorem sortValue_field {fs gs : List (String × Json)} (hnodup : (keys gs).Nodup)
    (h : sortValue localeCompare (.object fs) = sortValue localeCompare (.object gs))
    {key : String} {x y : Json} (hx : (key, x) ∈ fs) (hy : (key, y) ∈ gs) :
    sortValue localeCompare x = sortValue localeCompare y := by
  refine value_unique ?_ ((sortFields_perm h).mem_iff.mp (mem_sortFields hx)) (mem_sortFields hy)
  rw [keys_sortFields]
  exact hnodup

theorem same_of_sortValue_eq (x : Json) (hx : Distinct x) : ∀ y, Distinct y →
    sortValue localeCompare x = sortValue localeCompare y → Same x y := by
  induction x using induction with
  | scalar x hscalar =>
    intro y _ h
    have hy : y.isScalar = true := by
      rw [← @isScalar_sortValue localeCompare y, ← h, isScalar_sortValue, hscalar]
    rw [sortValue_scalar hscalar, sortValue_scalar hy] at h
    exact h ▸ .scalar hscalar
  | array xs ih =>
    intro y hy h
    cases y with
    | array ys =>
      have hitems : xs.map (sortValue localeCompare) = ys.map (sortValue localeCompare) := by
        rw [← sortItems_eq_map, ← sortItems_eq_map]
        exact Json.array.inj h
      have hlength : xs.length = ys.length := by simpa using congrArg List.length hitems
      refine .array hlength fun i x y hxi hyi => ?_
      have hmem := List.mem_of_getElem? hxi
      cases hx with
      | scalar hscalar => cases hscalar
      | array hxs =>
        cases hy with
        | scalar hscalar => cases hscalar
        | array hys =>
          exact ih x hmem (hxs x hmem) y (hys y (List.mem_of_getElem? hyi))
            ((map_eq_map_iff_items hlength).mp hitems i x y hxi hyi)
    | _ => cases h
  | object fs ih =>
    intro y hy h
    cases y with
    | object gs =>
      have hperm := sortFields_perm h
      have hkeys : (keys fs).Perm (keys gs) := by
        rw [← keys_sortFields localeCompare fs, ← keys_sortFields localeCompare gs]
        exact hperm.map Prod.fst
      cases hx with
      | scalar hscalar => cases hscalar
      | object hnodup hxs =>
        cases hy with
        | scalar hscalar => cases hscalar
        | object hnodup' hys =>
          refine .object hkeys fun key x y hxm hym => ?_
          exact ih (key, x) hxm (hxs _ hxm) y (hys _ hym) (sortValue_field hnodup' h hxm hym)
    | _ => cases h

theorem sortFields_subset {fs gs : List (String × Json)} (hkeys : keys fs ⊆ keys gs)
    (h : ∀ key x y, (key, x) ∈ fs → (key, y) ∈ gs →
      sortValue localeCompare x = sortValue localeCompare y) :
    sortFields localeCompare fs ⊆ sortFields localeCompare gs := by
  rintro ⟨key, value⟩ hmem
  rw [sortFields_eq_map] at hmem
  obtain ⟨field, hfield, heq⟩ := List.mem_map.mp hmem
  obtain ⟨rfl, rfl⟩ := Prod.mk.inj heq
  obtain ⟨field', hfield', hkey⟩ := List.mem_map.mp (hkeys (mem_keys hfield))
  have hpair : (field.1, field'.2) ∈ gs := by
    rw [← hkey]
    exact hfield'
  rw [h field.1 field.2 field'.2 hfield hpair]
  exact mem_sortFields hpair

theorem sortValue_eq_of_same (horder : LocalePreorder localeCompare) {x y : Json}
    (hapart : Apart localeCompare x) (hx : Distinct x) (hy : Distinct y) (h : Same x y) :
    sortValue localeCompare x = sortValue localeCompare y := by
  induction h with
  | scalar => rfl
  | @array xs ys hlength _ ih =>
    cases hapart with
    | scalar hscalar => cases hscalar
    | array haparts =>
      cases hx with
      | scalar hscalar => cases hscalar
      | array hxs =>
        cases hy with
        | scalar hscalar => cases hscalar
        | array hys =>
          rw [sortValue, sortValue, sortItems_eq_map, sortItems_eq_map,
            (map_eq_map_iff_items hlength).mpr]
          intro i x y hxi hyi
          have hmem := List.mem_of_getElem? hxi
          exact ih i x y hxi hyi (haparts x hmem) (hxs x hmem) (hys y (List.mem_of_getElem? hyi))
  | @object fs gs hkeys _ ih =>
    cases hapart with
    | scalar hscalar => cases hscalar
    | object hkeysApart haparts =>
      cases hx with
      | scalar hscalar => cases hscalar
      | object hnodup hxs =>
        cases hy with
        | scalar hscalar => cases hscalar
        | object hnodup' hys =>
          have hnodups : ∀ fields : List (String × Json), (keys fields).Nodup →
              (keys (sortFields localeCompare fields)).Nodup := by
            intro fields hfields
            rw [keys_sortFields]
            exact hfields
          have hperm : (sortFields localeCompare fs).Perm (sortFields localeCompare gs) := by
            rw [List.perm_ext_iff_of_nodup (hnodups fs hnodup).of_map (hnodups gs hnodup').of_map]
            have hsub := sortFields_subset hkeys.subset fun key x y hx hy =>
              ih key x y hx hy (haparts _ hx) (hxs _ hx) (hys _ hy)
            have hsub' := sortFields_subset hkeys.symm.subset fun key y x hy hx =>
              (ih key x y hx hy (haparts _ hx) (hxs _ hx) (hys _ hy)).symm
            exact fun entry => ⟨fun hmem => hsub hmem, fun hmem => hsub' hmem⟩
          rw [sortValue, sortValue, sortEntries_eq_of_perm horder _ (hnodups fs hnodup) hperm]
          rw [keys_sortFields]
          exact hkeysApart

/-- Values of one stable text are the same up to the order of keys. -/
theorem same_of_stableJson_eq {number : Rat → List Char} (hnumber : NumberText number) {x y : Json}
    (hx : Distinct x) (hy : Distinct y)
    (h : stableJson localeCompare number x = stableJson localeCompare number y) : Same x y :=
  same_of_sortValue_eq x hx y hy (stringify_injective hnumber h)

theorem stableJson_eq_of_same (horder : LocalePreorder localeCompare) (number : Rat → List Char)
    {x y : Json} (hapart : Apart localeCompare x) (hx : Distinct x) (hy : Distinct y) (h : Same x y) :
    stableJson localeCompare number x = stableJson localeCompare number y :=
  congrArg (stringify number) (sortValue_eq_of_same horder hapart hx hy h)

/-- Two values have one stable text exactly when they are the same up to the order of keys. -/
theorem stableJson_eq_iff (horder : LocaleOrder localeCompare) {number : Rat → List Char}
    (hnumber : NumberText number) {x y : Json} (hx : Distinct x) (hy : Distinct y) :
    stableJson localeCompare number x = stableJson localeCompare number y ↔ Same x y := by
  constructor
  · exact same_of_stableJson_eq hnumber hx hy
  · exact stableJson_eq_of_same horder.toLocalePreorder number (horder.apart x) hx hy

theorem isArrayIndex_eq_false {key : String} {c : Char} (hmem : c ∈ key.toList) (hdigit : c.isDigit = false) :
    isArrayIndex key = false := by
  unfold isArrayIndex
  split
  · next n _ =>
    rw [Bool.and_eq_false_iff]
    refine .inr (decide_eq_false ?_)
    rintro rfl
    have hdigits : (toString n).toList = Nat.toDigits 10 n := Nat.toList_repr
    rw [hdigits] at hmem
    rw [Nat.isDigit_of_mem_toDigits (by decide) (by decide) hmem] at hdigit
    cases hdigit
  · rfl

section Par

variable {first second : String} (hfirst : isArrayIndex first = false) (hsecond : isArrayIndex second = false)

include hfirst hsecond

theorem sortValue_pair (h : localeCompare first second ≤ 0) (x y : Json) :
    sortValue localeCompare (.object [(first, x), (second, y)]) =
      .object [(first, sortValue localeCompare x), (second, sortValue localeCompare y)] := by
  have hsorted : sortEntries localeCompare
      [(first, sortValue localeCompare x), (second, sortValue localeCompare y)] =
      [(first, sortValue localeCompare x), (second, sortValue localeCompare y)] :=
    List.mergeSort_of_pairwise (by simp [h])
  rw [sortValue, sortFields_eq_map]
  dsimp only [List.map]
  rw [hsorted]
  simp [propertyOrder, hfirst, hsecond]

/-- Two keys on a par stay in the order in which they are given. -/
theorem sortValue_ne_of_par (hne : first ≠ second) (h : localeCompare first second ≤ 0)
    (h' : localeCompare second first ≤ 0) (x y : Json) :
    sortValue localeCompare (.object [(first, x), (second, y)]) ≠
      sortValue localeCompare (.object [(second, y), (first, x)]) := by
  rw [sortValue_pair hfirst hsecond h, sortValue_pair hsecond hfirst h']
  intro hsorted
  have hheads := (List.cons.inj (Json.object.inj hsorted)).1
  exact hne (Prod.mk.inj hheads).1

end Par

end Sorting

/-- By the letters, then by their case. -/
def caseCompare (left right : String) : Int :=
  let key : String → String ×ₗ String := fun text => toLex (text.toLower, text)
  if key left ≤ key right then if left = right then 0 else -1 else 1

theorem caseCompare_order : LocaleOrder caseCompare := by
  have hle : ∀ left right, caseCompare left right ≤ 0 ↔
      toLex (left.toLower, left) ≤ toLex (right.toLower, right) := by
    intro left right
    unfold caseCompare
    by_cases h : toLex (left.toLower, left) ≤ toLex (right.toLower, right)
    · rw [if_pos h]
      split <;> simp [h]
    · simp [h]
  refine ⟨⟨?_, ?_⟩, ?_⟩
  · intro left right
    rw [hle, hle]
    exact le_total _ _
  · intro a b c hab hbc
    rw [hle] at *
    exact hab.trans hbc
  · intro left right h h'
    rw [hle] at *
    exact (Prod.mk.inj (toLex.injective (le_antisymm h h'))).2

/-! ## Differences up to the order of keys -/

/-- Arrays of one length, objects with the same keys, or the same scalar. -/
def SameShape : Json → Json → Prop
  | .array xs, .array ys => xs.length = ys.length
  | .object fs, .object gs => (keys fs).Perm (keys gs)
  | x, y => x = y

/-- The values that the path leads to are not of the same shape. -/
inductive Differs : Json → Json → List Step → Prop
  | here {x y : Json} : ¬ SameShape x y → Differs x y []
  | item {xs ys : List Json} {i : Nat} {x y : Json} {path : List Step} :
      xs.length = ys.length → xs[i]? = some x → ys[i]? = some y → Differs x y path →
      Differs (.array xs) (.array ys) (.item i :: path)
  | field {fs gs : List (String × Json)} {key : String} {x y : Json} {path : List Step} :
      (keys fs).Perm (keys gs) → (key, x) ∈ fs → (key, y) ∈ gs → Differs x y path →
      Differs (.object fs) (.object gs) (.field key :: path)

theorem Same.sameShape {x y : Json} (h : Same x y) : SameShape x y := by
  cases h with
  | scalar hscalar => cases x <;> first | rfl | cases hscalar
  | array hlength => exact hlength
  | object hkeys => exact hkeys

theorem Same.not_differs {x y : Json} (h : Same x y) {path : List Step} : ¬ Differs x y path := by
  intro hdiffers
  induction hdiffers with
  | here hshape => exact hshape h.sameShape
  | item _ hx hy _ ih =>
    cases h with
    | scalar hscalar => cases hscalar
    | array _ hitems => exact ih (hitems _ _ _ hx hy)
  | field _ hx hy _ ih =>
    exact ih (h.value hx hy)

/-- Values that differ nowhere are the same. -/
theorem same_of_not_differs (x : Json) : ∀ y, (∀ path, ¬ Differs x y path) → Same x y := by
  induction x using induction with
  | scalar x hscalar =>
    intro y h
    have hshape : SameShape x y := not_not.mp fun hshape => h [] (.here hshape)
    have heq : x = y := by
      cases x <;> first | exact hshape | cases hscalar
    exact heq ▸ .scalar hscalar
  | array xs ih =>
    intro y h
    have hshape : SameShape (.array xs) y := not_not.mp fun hshape => h [] (.here hshape)
    cases y with
    | array ys =>
      refine .array hshape fun i x y hx hy => ih x (List.mem_of_getElem? hx) y fun path hdiffers => ?_
      exact h _ (.item hshape hx hy hdiffers)
    | _ => cases hshape
  | object fs ih =>
    intro y h
    have hshape : SameShape (.object fs) y := not_not.mp fun hshape => h [] (.here hshape)
    cases y with
    | object gs =>
      refine .object hshape fun key x y hx hy => ih _ hx y fun path hdiffers => ?_
      exact h _ (.field hshape hx hy hdiffers)
    | _ => cases hshape

theorem same_iff_not_differs (x y : Json) : Same x y ↔ ∀ path, ¬ Differs x y path :=
  ⟨fun h _ => h.not_differs, same_of_not_differs x y⟩

end Json
