import Mathlib.Algebra.GroupWithZero.Nat
import Mathlib.Data.List.AList

/-!
# Key-value maps with set, get and delete

Mathlib's association lists under the operations of a mutable map, with the
lookup equations in one `if` each (`get_set`, `get_delete`), and the total of a
map of counters.  Iteration order is not that of insertion; nothing here
depends on it.
-/

universe u v

/-- A finite map. -/
abbrev KeyMap (κ : Type u) (ν : Type v) := AList (fun _ : κ => ν)

namespace KeyMap

variable {κ : Type u} {ν : Type v} [DecidableEq κ]

def get (m : KeyMap κ ν) (k : κ) : Option ν := AList.lookup k m

def set (m : KeyMap κ ν) (k : κ) (v : ν) : KeyMap κ ν := AList.insert k v m

def delete (m : KeyMap κ ν) (k : κ) : KeyMap κ ν := AList.erase k m

def has (m : KeyMap κ ν) (k : κ) : Bool := (m.get k).isSome

omit [DecidableEq κ] in
def values (m : KeyMap κ ν) : List ν := m.entries.map Sigma.snd

/-- The map of a list of entries; of two entries with one key the later counts. -/
def ofEntries (entries : List (κ × ν)) : KeyMap κ ν :=
  entries.foldl (fun m e => m.set e.1 e.2) ∅

@[simp] theorem get_empty (k : κ) : get (∅ : KeyMap κ ν) k = none := rfl

@[simp] theorem get_set_self (m : KeyMap κ ν) (k : κ) (v : ν) : (m.set k v).get k = some v :=
  AList.lookup_insert m

theorem get_set_of_ne (m : KeyMap κ ν) {k k' : κ} (v : ν) (h : k' ≠ k) :
    (m.set k v).get k' = m.get k' :=
  AList.lookup_insert_ne h

theorem get_set (m : KeyMap κ ν) (k k' : κ) (v : ν) :
    (m.set k v).get k' = if k' = k then some v else m.get k' := by
  split
  · next h => rw [h, get_set_self]
  · next h => exact get_set_of_ne m v h

@[simp] theorem get_delete_self (m : KeyMap κ ν) (k : κ) : (m.delete k).get k = none :=
  AList.lookup_erase k m

theorem get_delete_of_ne (m : KeyMap κ ν) {k k' : κ} (h : k' ≠ k) :
    (m.delete k).get k' = m.get k' :=
  AList.lookup_erase_ne h

theorem get_delete (m : KeyMap κ ν) (k k' : κ) :
    (m.delete k).get k' = if k' = k then none else m.get k' := by
  split
  · next h => rw [h, get_delete_self]
  · next h => exact get_delete_of_ne m h

/-- Writing a value that looks the same through `f` changes no lookup through `f`. -/
theorem map_get_set {α : Type*} (m : KeyMap κ ν) {k : κ} {v v' : ν} (f : ν → α)
    (hk : m.get k = some v) (hf : f v' = f v) :
    (fun k' => ((m.set k v').get k').map f) = fun k' => (m.get k').map f := by
  funext k'
  rw [get_set]
  split
  · next h => rw [h, hk, Option.map_some, Option.map_some, hf]
  · rfl

theorem has_eq_true (m : KeyMap κ ν) (k : κ) : m.has k = true ↔ ∃ v, m.get k = some v :=
  Option.isSome_iff_exists

theorem has_eq_false (m : KeyMap κ ν) (k : κ) : m.has k = false ↔ m.get k = none := by
  simp [has]

theorem mem_values (m : KeyMap κ ν) (v : ν) : v ∈ m.values ↔ ∃ k, m.get k = some v := by
  unfold values get
  constructor
  · intro h
    obtain ⟨⟨k, w⟩, hm, rfl⟩ := List.mem_map.mp h
    exact ⟨k, AList.mem_lookup_iff.mpr hm⟩
  · rintro ⟨k, h⟩
    exact List.mem_map.mpr ⟨⟨k, v⟩, AList.mem_lookup_iff.mp h, rfl⟩

theorem values_set (m : KeyMap κ ν) (k : κ) (v : ν) :
    (m.set k v).values = v :: (m.delete k).values := by
  show (List.kinsert k v m.entries).map Sigma.snd = v :: (List.kerase k m.entries).map Sigma.snd
  rw [List.kinsert_def, List.map_cons]

theorem values_delete_sublist (m : KeyMap κ ν) (k : κ) : (m.delete k).values.Sublist m.values :=
  (List.kerase_sublist k m.entries).map _

/-! ## Counters -/

omit [DecidableEq κ] in
/-- The sum of all counters of a map. -/
def total (m : KeyMap κ Nat) : Nat := m.values.sum

theorem total_delete (m : KeyMap κ Nat) (k : κ) :
    (m.delete k).total + (m.get k).getD 0 = m.total := by
  show ((List.kerase k m.entries).map Sigma.snd).sum + ((List.dlookup k m.entries).getD 0) =
    (m.entries.map Sigma.snd).sum
  induction m.entries with
  | nil => rfl
  | cons e l ih =>
    by_cases h : k = e.1
    · obtain ⟨k', n⟩ := e
      subst h
      have he : List.kerase k (⟨k, n⟩ :: l) = l := List.kerase_cons_eq rfl
      rw [he, List.dlookup_cons_eq]
      simp [Nat.add_comm]
    · rw [List.kerase_cons_ne h, List.dlookup_cons_ne l e h]
      simp only [List.map_cons, List.sum_cons]
      omega

theorem total_set (m : KeyMap κ Nat) (k : κ) (n : Nat) :
    (m.set k n).total + (m.get k).getD 0 = m.total + n := by
  have h : (m.set k n).total = n + (m.delete k).total := by
    unfold total
    rw [values_set, List.sum_cons]
  have := total_delete m k
  omega

end KeyMap
