import Mathlib.Data.List.Nodup

/-!
# Maps that remember the order of insertion

Entries with distinct keys, oldest first.  Writing a key that is there keeps its
place; a key that was deleted comes back at the end.
-/

universe u v

structure JsMap (κ : Type u) (ν : Type v) where
  entries : List (κ × ν)
  nodup : (entries.map Prod.fst).Nodup

namespace JsMap

variable {κ : Type u} {ν : Type v}

def empty : JsMap κ ν := ⟨[], List.nodup_nil⟩

instance : EmptyCollection (JsMap κ ν) := ⟨empty⟩

def size (m : JsMap κ ν) : Nat := m.entries.length

def keys (m : JsMap κ ν) : List κ := m.entries.map Prod.fst

def values (m : JsMap κ ν) : List ν := m.entries.map Prod.snd

@[ext] theorem ext {m m' : JsMap κ ν} (h : m.entries = m'.entries) : m = m' := by
  cases m
  cases m'
  cases h
  rfl

theorem length_keys (m : JsMap κ ν) : m.keys.length = m.size := List.length_map _

/-- Only some of the entries stay. -/
def filter (m : JsMap κ ν) (p : κ × ν → Bool) : JsMap κ ν where
  entries := m.entries.filter p
  nodup := m.nodup.sublist (List.filter_sublist.map Prod.fst)

variable [DecidableEq κ]

def get (m : JsMap κ ν) (k : κ) : Option ν :=
  (m.entries.find? fun entry => entry.1 = k).map Prod.snd

def has (m : JsMap κ ν) (k : κ) : Bool := (m.get k).isSome

def delete (m : JsMap κ ν) (k : κ) : JsMap κ ν := m.filter fun entry => entry.1 ≠ k

theorem get_eq_some_iff (m : JsMap κ ν) (k : κ) (v : ν) : m.get k = some v ↔ (k, v) ∈ m.entries := by
  unfold get
  constructor
  · intro h
    obtain ⟨entry, hfind, rfl⟩ := Option.map_eq_some_iff.mp h
    have hkey : entry.1 = k := by simpa using List.find?_some hfind
    exact hkey ▸ List.mem_of_find?_eq_some hfind
  · intro h
    cases hfind : m.entries.find? fun entry => entry.1 = k with
    | none =>
      have hne := List.find?_eq_none.mp hfind (k, v) h
      simp at hne
    | some entry =>
      have hkey : entry.1 = k := by simpa using List.find?_some hfind
      have hmem := List.mem_of_find?_eq_some hfind
      have heq : entry = (k, v) := List.inj_on_of_nodup_map m.nodup hmem h hkey
      rw [heq]
      rfl

theorem get_eq_none_iff (m : JsMap κ ν) (k : κ) : m.get k = none ↔ k ∉ m.keys := by
  constructor
  · intro h hmem
    obtain ⟨⟨k', v⟩, hentry, rfl⟩ := List.mem_map.mp hmem
    rw [(m.get_eq_some_iff k' v).mpr hentry] at h
    cases h
  · intro h
    cases hget : m.get k with
    | none => rfl
    | some v => exact absurd (List.mem_map.mpr ⟨_, (m.get_eq_some_iff k v).mp hget, rfl⟩) h

theorem has_eq_true_iff (m : JsMap κ ν) (k : κ) : m.has k = true ↔ k ∈ m.keys := by
  rw [has, Option.isSome_iff_ne_none, Ne, get_eq_none_iff, Decidable.not_not]

/-- Writing a value: in place, or at the end. -/
def set (m : JsMap κ ν) (k : κ) (v : ν) : JsMap κ ν :=
  if h : k ∈ m.keys then
    { entries := m.entries.map fun entry => if entry.1 = k then (k, v) else entry
      nodup := by
        have hkeys : (m.entries.map fun entry => if entry.1 = k then (k, v) else entry).map Prod.fst =
            m.entries.map Prod.fst := by
          rw [List.map_map]
          refine List.map_congr_left fun entry _ => ?_
          show (if entry.1 = k then (k, v) else entry).1 = entry.1
          split
          · next heq => exact heq.symm
          · rfl
        exact hkeys ▸ m.nodup }
  else
    { entries := m.entries ++ [(k, v)]
      nodup := by
        rw [List.map_append, List.nodup_append]
        refine ⟨m.nodup, List.nodup_singleton k, ?_⟩
        intro a ha b hb heq
        obtain rfl := List.mem_singleton.mp hb
        exact h (heq ▸ ha) }

theorem entries_set_of_notMem (m : JsMap κ ν) {k : κ} (v : ν) (h : k ∉ m.keys) :
    (m.set k v).entries = m.entries ++ [(k, v)] := by
  unfold set
  rw [dif_neg h]

theorem entries_set_of_mem (m : JsMap κ ν) {k : κ} (v : ν) (h : k ∈ m.keys) :
    (m.set k v).entries = m.entries.map fun entry => if entry.1 = k then (k, v) else entry := by
  unfold set
  rw [dif_pos h]

theorem entries_delete (m : JsMap κ ν) (k : κ) :
    (m.delete k).entries = m.entries.filter fun entry => entry.1 ≠ k := rfl

/-- Without its first entry. -/
theorem entries_delete_of_cons (m : JsMap κ ν) {k : κ} {v : ν} {rest : List (κ × ν)}
    (h : m.entries = (k, v) :: rest) : (m.delete k).entries = rest := by
  have hnodup := m.nodup
  rw [h, List.map_cons, List.nodup_cons] at hnodup
  rw [entries_delete, h, List.filter_cons_of_neg (by simp), List.filter_eq_self]
  intro entry hmem
  exact decide_eq_true fun heq => hnodup.1 (List.mem_map.mpr ⟨entry, hmem, heq⟩)

theorem mem_entries_set (m : JsMap κ ν) (k k' : κ) (v v' : ν) :
    (k', v') ∈ (m.set k v).entries ↔ k' = k ∧ v' = v ∨ k' ≠ k ∧ (k', v') ∈ m.entries := by
  by_cases h : k ∈ m.keys
  · rw [entries_set_of_mem m v h, List.mem_map]
    constructor
    · rintro ⟨entry, hmem, heq⟩
      split at heq
      · cases heq
        exact Or.inl ⟨rfl, rfl⟩
      · next hne =>
        cases heq
        exact Or.inr ⟨hne, hmem⟩
    · rintro (⟨rfl, rfl⟩ | ⟨hne, hmem⟩)
      · obtain ⟨entry, hmem, hkey⟩ := List.mem_map.mp h
        exact ⟨entry, hmem, if_pos hkey⟩
      · exact ⟨_, hmem, if_neg hne⟩
  · rw [entries_set_of_notMem m v h, List.mem_append, List.mem_singleton, Prod.mk.injEq]
    constructor
    · rintro (hmem | heq)
      · refine Or.inr ⟨?_, hmem⟩
        rintro rfl
        exact h (List.mem_map.mpr ⟨_, hmem, rfl⟩)
      · exact Or.inl heq
    · rintro (heq | ⟨-, hmem⟩)
      · exact Or.inr heq
      · exact Or.inl hmem

theorem mem_entries_delete (m : JsMap κ ν) (k k' : κ) (v' : ν) :
    (k', v') ∈ (m.delete k).entries ↔ k' ≠ k ∧ (k', v') ∈ m.entries := by
  rw [entries_delete, List.mem_filter, decide_eq_true_eq, and_comm]

theorem get_set (m : JsMap κ ν) (k k' : κ) (v : ν) :
    (m.set k v).get k' = if k' = k then some v else m.get k' := by
  ext v'
  rw [get_eq_some_iff, mem_entries_set]
  split
  · next h => simp [h, eq_comm]
  · next h => simp [h, get_eq_some_iff]

theorem get_delete (m : JsMap κ ν) (k k' : κ) :
    (m.delete k).get k' = if k' = k then none else m.get k' := by
  ext v'
  rw [get_eq_some_iff, mem_entries_delete]
  split
  · next h => simp [h]
  · next h => simp [h, get_eq_some_iff]

/-- A key that is written and deleted is gone with what it held. -/
theorem delete_set (m : JsMap κ ν) (k : κ) (v : ν) : (m.set k v).delete k = m.delete k := by
  refine JsMap.ext ?_
  rw [entries_delete, entries_delete]
  by_cases h : k ∈ m.keys
  · rw [entries_set_of_mem m v h, List.filter_map]
    refine Eq.trans (List.map_congr_left ?_) (List.map_id _ |>.trans (List.filter_congr ?_))
    · intro entry hentry
      by_cases hkey : entry.1 = k
      · simp [hkey] at hentry
      · exact if_neg hkey
    · intro entry _
      by_cases hkey : entry.1 = k <;> simp [hkey]
  · rw [entries_set_of_notMem m v h, List.filter_append]
    simp

/-- Writing what is there changes nothing. -/
theorem set_of_get (m : JsMap κ ν) {k : κ} {v : ν} (h : m.get k = some v) : m.set k v = m := by
  have hmem := (m.get_eq_some_iff k v).mp h
  refine JsMap.ext ?_
  rw [entries_set_of_mem m v (List.mem_map.mpr ⟨_, hmem, rfl⟩)]
  refine (List.map_congr_left fun entry hentry => ?_).trans (List.map_id _)
  by_cases hkey : entry.1 = k
  · rw [if_pos hkey]
    exact List.inj_on_of_nodup_map m.nodup hmem hentry hkey.symm
  · exact if_neg hkey

theorem mem_keys_set (m : JsMap κ ν) (k a : κ) (v : ν) : a ∈ (m.set k v).keys ↔ a = k ∨ a ∈ m.keys := by
  rw [← has_eq_true_iff, ← has_eq_true_iff, has, has, get_set]
  by_cases h : a = k <;> simp [h]

theorem size_set_of_notMem (m : JsMap κ ν) {k : κ} (v : ν) (h : k ∉ m.keys) :
    (m.set k v).size = m.size + 1 := by
  unfold size
  rw [entries_set_of_notMem m v h, List.length_append, List.length_singleton]

theorem delete_of_notMem (m : JsMap κ ν) {k : κ} (h : k ∉ m.keys) : m.delete k = m := by
  refine JsMap.ext (List.filter_eq_self.mpr fun entry hmem => ?_)
  refine decide_eq_true ?_
  rintro rfl
  exact h (List.mem_map.mpr ⟨entry, hmem, rfl⟩)

theorem size_delete_of_mem (m : JsMap κ ν) {k : κ} (h : k ∈ m.keys) :
    (m.delete k).size + 1 = m.size := by
  have hcount : (m.entries.filter fun entry => decide (entry.1 = k)).length = 1 := by
    have hkeys : m.keys.count k = 1 := List.count_eq_one_of_mem m.nodup h
    rw [keys, List.count, List.countP_map, List.countP_eq_length_filter] at hkeys
    rw [← hkeys]
    congr 1
  have hsplit := List.length_eq_length_filter_add (l := m.entries) fun entry => decide (entry.1 = k)
  have hrest : (m.delete k).size = (m.entries.filter fun entry => !decide (entry.1 = k)).length := by
    unfold size
    rw [entries_delete]
    congr 1
    exact List.filter_congr fun entry _ => decide_not
  unfold size at hrest ⊢
  omega

end JsMap
