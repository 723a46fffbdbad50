import Sepigs.Lib.JsMap

/-!
# Maps ordered by recency

A key that is used is deleted and written again, so that it stands at the end.  A map
kept in this way is sorted by any relation that says "used before".
-/

universe u v

namespace JsMap

variable {κ : Type u} {ν : Type v} [DecidableEq κ]

/-- The key comes last. -/
def touch (m : JsMap κ ν) (k : κ) (v : ν) : JsMap κ ν := (m.delete k).set k v

theorem notMem_keys_delete (m : JsMap κ ν) (k : κ) : k ∉ (m.delete k).keys := by
  intro h
  obtain ⟨⟨k', v⟩, hentry, rfl⟩ := List.mem_map.mp h
  exact ((m.mem_entries_delete k' k' v).mp hentry).1 rfl

theorem keys_delete (m : JsMap κ ν) (k : κ) : (m.delete k).keys = m.keys.filter fun a => a ≠ k := by
  unfold keys
  rw [entries_delete, List.filter_map]
  rfl

theorem mem_keys_delete (m : JsMap κ ν) (k a : κ) : a ∈ (m.delete k).keys ↔ a ∈ m.keys ∧ a ≠ k := by
  rw [keys_delete, List.mem_filter]
  simp

theorem entries_touch (m : JsMap κ ν) (k : κ) (v : ν) :
    (m.touch k v).entries = (m.delete k).entries ++ [(k, v)] :=
  entries_set_of_notMem _ v (notMem_keys_delete m k)

theorem keys_touch (m : JsMap κ ν) (k : κ) (v : ν) :
    (m.touch k v).keys = (m.delete k).keys ++ [k] := by
  unfold keys
  rw [entries_touch, List.map_append]
  rfl

theorem mem_keys_touch (m : JsMap κ ν) (k a : κ) (v : ν) :
    a ∈ (m.touch k v).keys ↔ a ∈ m.keys ∨ a = k := by
  rw [keys_touch, List.mem_append, mem_keys_delete, List.mem_singleton]
  by_cases h : a = k <;> simp [h]

theorem mem_entries_touch (m : JsMap κ ν) (k k' : κ) (v v' : ν) :
    (k', v') ∈ (m.touch k v).entries ↔ k' = k ∧ v' = v ∨ k' ≠ k ∧ (k', v') ∈ m.entries := by
  rw [entries_touch, List.mem_append, mem_entries_delete, List.mem_singleton, Prod.mk.injEq]
  exact or_comm

/-- One key after the other. -/
def touchAll (m : JsMap κ ν) (used : List (κ × ν)) : JsMap κ ν :=
  used.foldl (fun m entry => m.touch entry.1 entry.2) m

/-- The keys that were used come last, in the order of use. -/
theorem entries_touchAll (used : List (κ × ν)) (m : JsMap κ ν) (hnodup : (used.map Prod.fst).Nodup) :
    (m.touchAll used).entries = (m.entries.filter fun entry => entry.1 ∉ used.map Prod.fst) ++ used := by
  induction used generalizing m with
  | nil =>
    show m.entries = _
    simp
  | cons entry used ih =>
    rw [List.map_cons, List.nodup_cons] at hnodup
    show ((m.touch entry.1 entry.2).touchAll used).entries = _
    rw [ih _ hnodup.2, entries_touch, entries_delete, List.filter_append, List.filter_filter,
      List.append_assoc]
    congr 1
    · refine List.filter_congr fun other _ => ?_
      by_cases h : other.1 = entry.1 <;> simp [h]
    · simp [hnodup.1]

/-- The keys are in the order of the relation. -/
def SortedBy (before : κ → κ → Prop) (m : JsMap κ ν) : Prop := m.keys.Pairwise before

variable {before before' : κ → κ → Prop} {m : JsMap κ ν}

omit [DecidableEq κ] in
theorem sortedBy_empty : SortedBy before (∅ : JsMap κ ν) := List.Pairwise.nil

theorem SortedBy.delete (h : SortedBy before m) (k : κ) : SortedBy before (m.delete k) := by
  unfold SortedBy
  rw [keys_delete]
  exact h.filter _

omit [DecidableEq κ] in
theorem SortedBy.congr (h : SortedBy before m)
    (hsame : ∀ a ∈ m.keys, ∀ b ∈ m.keys, before a b → before' a b) : SortedBy before' m :=
  List.Pairwise.imp_of_mem (fun ha hb hab => hsame _ ha _ hb hab) h

theorem SortedBy.touch (h : SortedBy before m) (k : κ) (v : ν)
    (hsame : ∀ a b, a ≠ k → b ≠ k → before a b → before' a b)
    (hlast : ∀ a ∈ m.keys, a ≠ k → before' a k) : SortedBy before' (m.touch k v) := by
  unfold SortedBy
  rw [keys_touch, List.pairwise_append]
  refine ⟨?_, List.pairwise_singleton _ _, ?_⟩
  · apply (h.delete k).congr
    intro a ha b hb hab
    exact hsame a b ((mem_keys_delete m k a).mp ha).2 ((mem_keys_delete m k b).mp hb).2 hab
  · intro a ha b hb
    rw [List.mem_singleton.mp hb]
    obtain ⟨hmem, hne⟩ := (mem_keys_delete m k a).mp ha
    exact hlast a hmem hne

omit [DecidableEq κ] in
/-- The first key is before all others. -/
theorem SortedBy.head (h : SortedBy before m) {k : κ} (hhead : m.keys.head? = some k) :
    ∀ a ∈ m.keys, a = k ∨ before k a := by
  unfold SortedBy at h
  cases hkeys : m.keys with
  | nil =>
    rw [hkeys] at hhead
    cases hhead
  | cons first rest =>
    rw [hkeys] at hhead h
    cases hhead
    intro a ha
    rcases List.mem_cons.mp ha with rfl | ha
    · exact .inl rfl
    · exact .inr (List.rel_of_pairwise_cons h ha)

end JsMap
