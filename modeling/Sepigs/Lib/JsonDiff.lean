import Sepigs.Lib.Json

/-!
# Where two JSON values differ

Two values have one head when they are arrays of one length, objects with one list of
keys, or the same scalar.  They differ at the places, reached by equal steps in both,
where the heads are not the same.  Values that differ nowhere are equal.
-/

namespace Json

def SameHead : Json → Json → Prop
  | .array xs, .array ys => xs.length = ys.length
  | .object fs, .object gs => keys fs = keys gs
  | x, y => x = y

theorem SameHead.refl (x : Json) : SameHead x x := by
  cases x <;> rfl

inductive Step
  | item (index : Nat)
  | field (key : String)
deriving DecidableEq, Repr

/-- The key that a step goes through; the items of an array have none. -/
def Step.key : Step → String
  | .item _ => ""
  | .field key => key

/-- The key that a place is stored under, in a value that is stored under `key` itself. -/
def storedUnder (key : String) : List Step → String
  | [] => key
  | step :: path => storedUnder step.key path

/-- At the path, the first value holds `u` and the second `v`, whose heads are not the same. -/
inductive Differ : Json → Json → List Step → Json → Json → Prop
  | here {x y : Json} : ¬ SameHead x y → Differ x y [] x y
  | item {xs ys : List Json} {i : Nat} {x y u v : Json} {path : List Step} :
      xs.length = ys.length → xs[i]? = some x → ys[i]? = some y → Differ x y path u v →
      Differ (.array xs) (.array ys) (.item i :: path) u v
  | field {fs gs : List (String × Json)} {i : Nat} {key : String} {x y u v : Json}
      {path : List Step} :
      keys fs = keys gs → fs[i]? = some (key, x) → gs[i]? = some (key, y) →
      Differ x y path u v → Differ (.object fs) (.object gs) (.field key :: path) u v

/-- What holds of two values wherever their heads agree, if it does of their parts, and
wherever their heads do not agree. -/
@[elab_as_elim] theorem pair_induction {P : Json → Json → Prop}
    (unlike : ∀ x y, ¬ SameHead x y → P x y)
    (scalar : ∀ x, x.isScalar = true → P x x)
    (array : ∀ xs ys : List Json, xs.length = ys.length →
      (∀ (i : Nat) (x y : Json), xs[i]? = some x → ys[i]? = some y → P x y) →
      P (.array xs) (.array ys))
    (object : ∀ fs gs : List (String × Json), keys fs = keys gs →
      (∀ (i : Nat) (key : String) (x y : Json), fs[i]? = some (key, x) → gs[i]? = some (key, y) →
        P x y) → P (.object fs) (.object gs)) :
    ∀ x y, P x y := by
  intro x
  induction x using induction with
  | scalar x hx =>
    intro y
    by_cases h : x = y
    · exact h ▸ scalar x hx
    · refine unlike x y fun hhead => h ?_
      cases x <;> cases hx <;> exact hhead
  | array xs ih =>
    intro y
    by_cases h : SameHead (.array xs) y
    · cases y with
      | array ys => exact array xs ys h fun i x y hx _ => ih x (List.mem_of_getElem? hx) y
      | _ => exact absurd h (by rintro ⟨⟩)
    · exact unlike _ _ h
  | object fs ih =>
    intro y
    by_cases h : SameHead (.object fs) y
    · cases y with
      | object gs => exact object fs gs h fun i key x y hx _ => ih _ (List.mem_of_getElem? hx) y
      | _ => exact absurd h (by rintro ⟨⟩)
    · exact unlike _ _ h

theorem differ_of_not_sameHead {x y u v : Json} {path : List Step} (h : ¬ SameHead x y)
    (hdiffer : Differ x y path u v) : path = [] ∧ u = x ∧ v = y := by
  cases hdiffer with
  | here => exact ⟨rfl, rfl, rfl⟩
  | item hlength => exact absurd hlength h
  | field hkeys => exact absurd hkeys h

theorem forall_differ_of_not_sameHead {x y : Json} {Q : List Step → Json → Json → Prop}
    (h : ¬ SameHead x y) : (∀ path u v, Differ x y path u v → Q path u v) ↔ Q [] x y := by
  constructor
  · intro hall
    exact hall [] x y (.here h)
  · rintro hQ path u v hdiffer
    obtain ⟨rfl, rfl, rfl⟩ := differ_of_not_sameHead h hdiffer
    exact hQ

theorem not_differ_scalar {x u v : Json} {path : List Step} (h : x.isScalar = true) :
    ¬ Differ x x path u v := by
  intro hdiffer
  cases hdiffer with
  | here hhead => exact hhead (.refl x)
  | item => cases h
  | field => cases h

theorem forall_differ_array {xs ys : List Json} {Q : List Step → Json → Json → Prop}
    (h : xs.length = ys.length) :
    (∀ path u v, Differ (.array xs) (.array ys) path u v → Q path u v) ↔
      ∀ (i : Nat) (x y : Json), xs[i]? = some x → ys[i]? = some y →
        ∀ path u v, Differ x y path u v → Q (.item i :: path) u v := by
  constructor
  · intro hall i x y hx hy path u v hdiffer
    exact hall _ u v (.item h hx hy hdiffer)
  · intro hall path u v hdiffer
    cases hdiffer with
    | here hhead => exact absurd h hhead
    | item _ hx hy hrest => exact hall _ _ _ hx hy _ _ _ hrest

theorem forall_differ_object {fs gs : List (String × Json)} {Q : List Step → Json → Json → Prop}
    (h : keys fs = keys gs) :
    (∀ path u v, Differ (.object fs) (.object gs) path u v → Q path u v) ↔
      ∀ (i : Nat) (key : String) (x y : Json), fs[i]? = some (key, x) → gs[i]? = some (key, y) →
        ∀ path u v, Differ x y path u v → Q (.field key :: path) u v := by
  constructor
  · intro hall i key x y hx hy path u v hdiffer
    exact hall _ u v (.field h hx hy hdiffer)
  · intro hall path u v hdiffer
    cases hdiffer with
    | here hhead => exact absurd h hhead
    | field _ hx hy hrest => exact hall _ _ _ _ hx hy _ _ _ hrest

theorem exists_field_of_keys_eq {fs gs : List (String × Json)} {i : Nat} {key : String} {x : Json}
    (h : keys fs = keys gs) (hx : fs[i]? = some (key, x)) : ∃ y, gs[i]? = some (key, y) := by
  have hkey : (keys gs)[i]? = some key := by
    rw [← h, keys, List.getElem?_map, hx]
    rfl
  rw [keys, List.getElem?_map] at hkey
  obtain ⟨field, hfield, rfl⟩ := Option.map_eq_some_iff.mp hkey
  exact ⟨field.2, hfield⟩

/-- Items are equal after a function of the item when they are so place by place. -/
theorem map_eq_map_iff_items {α : Type} {f : Json → α} {xs ys : List Json}
    (h : xs.length = ys.length) :
    xs.map f = ys.map f ↔
      ∀ (i : Nat) (x y : Json), xs[i]? = some x → ys[i]? = some y → f x = f y := by
  constructor
  · intro heq i x y hx hy
    have hi := congrArg (fun items => items[i]?) heq
    simp only [List.getElem?_map, hx, hy] at hi
    exact Option.some.inj hi
  · intro hall
    refine List.ext_getElem (by simpa using h) fun i hi hi' => ?_
    rw [List.length_map] at hi hi'
    rw [List.getElem_map, List.getElem_map]
    exact hall i _ _ (List.getElem?_eq_getElem hi) (List.getElem?_eq_getElem hi')

/-- Fields are equal after a function of the field when they are so place by place. -/
theorem map_eq_map_iff_fields {α : Type} {f : String → Json → α} {fs gs : List (String × Json)}
    (h : keys fs = keys gs) :
    fs.map (fun field => (field.1, f field.1 field.2)) =
        gs.map (fun field => (field.1, f field.1 field.2)) ↔
      ∀ (i : Nat) (key : String) (x y : Json), fs[i]? = some (key, x) → gs[i]? = some (key, y) →
        f key x = f key y := by
  constructor
  · intro heq i key x y hx hy
    have hi := congrArg (fun fields => fields[i]?) heq
    simp only [List.getElem?_map, hx, hy, Option.map_some, Option.some.injEq, Prod.mk.injEq,
      true_and] at hi
    exact hi
  · intro hall
    have hlength : fs.length = gs.length := by
      simpa [keys] using congrArg List.length h
    refine List.ext_getElem (by simpa using hlength) fun i hi hi' => ?_
    rw [List.length_map] at hi hi'
    rw [List.getElem_map, List.getElem_map]
    have hf : fs[i]? = some (fs[i].1, fs[i].2) := List.getElem?_eq_getElem hi
    obtain ⟨y, hy⟩ := exists_field_of_keys_eq h hf
    have hg : gs[i] = (fs[i].1, y) := by
      rw [List.getElem?_eq_getElem hi'] at hy
      exact Option.some.inj hy
    rw [hall i _ _ _ hf hy, hg]

theorem eq_iff_fields {fs gs : List (String × Json)} (h : keys fs = keys gs) :
    fs = gs ↔ ∀ (i : Nat) (key : String) (x y : Json), fs[i]? = some (key, x) →
      gs[i]? = some (key, y) → x = y := by
  have hself : ∀ fields : List (String × Json),
      fields = fields.map fun field => (field.1, field.2) := fun fields => (List.map_id fields).symm
  rw [← @map_eq_map_iff_fields _ (fun _ value => value) _ _ h, ← hself fs, ← hself gs]

/-- Values that differ nowhere are equal. -/
theorem eq_iff_not_differ (x y : Json) : x = y ↔ ∀ path u v, Differ x y path u v → False := by
  induction x, y using pair_induction with
  | unlike x y h =>
    rw [forall_differ_of_not_sameHead h, iff_false]
    rintro rfl
    exact h (.refl x)
  | scalar x h => exact iff_of_true rfl fun path u v => not_differ_scalar h
  | array xs ys h ih =>
    rw [forall_differ_array h, Json.array.injEq, ← List.map_id xs, ← List.map_id ys,
      map_eq_map_iff_items h, List.map_id, List.map_id]
    exact forall_congr' fun i => forall_congr' fun x => forall_congr' fun y =>
      forall_congr' fun hx => forall_congr' fun hy => ih i x y hx hy
  | object fs gs h ih =>
    rw [forall_differ_object h, Json.object.injEq, eq_iff_fields h]
    exact forall_congr' fun i => forall_congr' fun key => forall_congr' fun x =>
      forall_congr' fun y => forall_congr' fun hx => forall_congr' fun hy => ih i key x y hx hy

/-- An assignment hides the value of its own key only. -/
theorem assign_eq_iff {fs gs : List (String × Json)} (h : keys fs = keys gs) (name : String)
    (value : Json) : assign fs name value = assign gs name value ↔
      ∀ (i : Nat) (key : String) (x y : Json), fs[i]? = some (key, x) → gs[i]? = some (key, y) →
        key ≠ name → x = y := by
  unfold assign
  by_cases hmem : name ∈ keys fs
  · rw [if_pos hmem, if_pos (h ▸ hmem),
      @map_eq_map_iff_fields _ (fun key field => if key = name then value else field) _ _ h]
    refine forall_congr' fun i => forall_congr' fun key => forall_congr' fun x =>
      forall_congr' fun y => forall_congr' fun _ => forall_congr' fun _ => ?_
    by_cases hkey : key = name <;> simp [hkey]
  · rw [if_neg hmem, if_neg (h ▸ hmem), List.append_left_inj, eq_iff_fields h]
    refine forall_congr' fun i => forall_congr' fun key => forall_congr' fun x =>
      forall_congr' fun y => forall_congr' fun hx => forall_congr' fun _ => ?_
    have hkey : key ≠ name := by
      rintro rfl
      exact hmem (mem_keys (List.mem_of_getElem? hx))
    exact ⟨fun heq _ => heq, fun heq => heq hkey⟩

theorem not_differ_self {x u v : Json} {path : List Step} : ¬ Differ x x path u v :=
  (eq_iff_not_differ x x).mp rfl path u v

/-- Objects that agree in all fields but one differ below that field. -/
theorem differ_one_field {before after : List (String × Json)} {key : String} {x y u v : Json}
    {path : List Step}
    (h : Differ (.object (before ++ (key, x) :: after)) (.object (before ++ (key, y) :: after))
      path u v) :
    ∃ below, path = .field key :: below ∧ Differ x y below u v := by
  have hkeys : keys (before ++ (key, x) :: after) = keys (before ++ (key, y) :: after) := by
    simp [keys]
  refine (@forall_differ_object _ _ (fun path u v => ∃ below, path = .field key :: below ∧
    Differ x y below u v) hkeys).mpr ?_ path u v h
  intro i name x' y' hx hy path u v hdiffer
  by_cases hi : i = before.length
  · subst hi
    rw [List.getElem?_append_right (Nat.le_refl _), Nat.sub_self, List.getElem?_cons_zero] at hx hy
    cases hx
    cases hy
    exact ⟨path, rfl, hdiffer⟩
  · have hsame : (before ++ (key, x) :: after)[i]? = (before ++ (key, y) :: after)[i]? := by
      rw [List.getElem?_append, List.getElem?_append]
      split
      · rfl
      · next hlt =>
        obtain ⟨j, hj⟩ : ∃ j, i - before.length = j + 1 := ⟨i - before.length - 1, by omega⟩
        rw [hj, List.getElem?_cons_succ, List.getElem?_cons_succ]
    rw [hx, hy] at hsame
    cases hsame
    exact absurd hdiffer not_differ_self

end Json
