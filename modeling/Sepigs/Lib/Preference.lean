import Mathlib.Data.List.Rotate

/-!
# Orders of preference

A list of members is put in an order of preference: the good ones before the
others, possibly with a chosen member in front.  A cursor that walks round a
list meets every member once in a turn.
-/

namespace Preference

universe u

variable {α : Type u}

/-- `order` holds the members, good ones first; behind its head the good ones and the
others are in the order of `members`. -/
structure Order (good : α → Bool) (members order : List α) : Prop where
  perm : order.Perm members
  good_first : order.Pairwise fun a b => good b = true → good a = true
  good_kept : (order.tail.filter good).Sublist members
  rest_kept : (order.tail.filter fun a => !good a).Sublist members

theorem Order.ne_nil {good : α → Bool} {members order : List α} (h : Order good members order)
    (hne : members ≠ []) : order ≠ [] := by
  intro hnil
  have hperm := h.perm
  rw [hnil] at hperm
  exact hne hperm.symm.eq_nil

theorem pairwise_append_good {good : α → Bool} {front back : List α}
    (hfront : ∀ a ∈ front, good a = true) (hback : ∀ a ∈ back, good a = false) :
    (front ++ back).Pairwise fun a b => good b = true → good a = true := by
  refine List.pairwise_append.mpr ⟨?_, ?_, ?_⟩
  · exact List.pairwise_of_forall_mem_list fun a ha _ _ _ => hfront a ha
  · exact List.pairwise_of_forall_mem_list fun _ _ b hb h => absurd h (by simp [hback b hb])
  · exact fun a ha _ _ _ => hfront a ha

theorem pairwise_of_none_good {good : α → Bool} {l : List α} (h : ∀ a ∈ l, good a = false) :
    l.Pairwise fun a b => good b = true → good a = true :=
  @pairwise_append_good α good [] l (by simp) h

/-- The part behind the head of a list in order stays in order. -/
theorem tail_filter_sublist {p : α → Bool} {l members : List α} (h : (l.filter p).Sublist members) :
    (l.tail.filter p).Sublist members :=
  ((List.tail_sublist l).filter p).trans h

theorem filter_partition (good : α → Bool) (members : List α) :
    (members.filter good ++ members.filter fun a => !good a).filter good = members.filter good := by
  rw [List.filter_append, List.filter_filter, List.filter_filter]
  simp

theorem filter_partition_not (good : α → Bool) (members : List α) :
    ((members.filter good ++ members.filter fun a => !good a).filter fun a => !good a) =
      members.filter fun a => !good a := by
  rw [List.filter_append, List.filter_filter, List.filter_filter]
  simp

theorem order_partition (good : α → Bool) (members : List α) :
    Order good members (members.filter good ++ members.filter fun a => !good a) where
  perm := List.filter_append_perm good members
  good_first := pairwise_append_good (by simp) (by simp)
  good_kept := by
    apply tail_filter_sublist
    rw [filter_partition]
    exact List.filter_sublist
  rest_kept := by
    apply tail_filter_sublist
    rw [filter_partition_not]
    exact List.filter_sublist

section Chosen

variable [DecidableEq α] {good : α → Bool} {members : List α} {chosen : α}

/-- A chosen member moves to the front. -/
theorem perm_cons_filter_ne (hnodup : members.Nodup) (h : chosen ∈ members) :
    (chosen :: members.filter fun a => a ≠ chosen).Perm members := by
  have hfilter : (members.filter fun a => a ≠ chosen) = members.erase chosen := by
    rw [hnodup.erase_eq_filter]
    apply List.filter_congr
    intro a _
    by_cases ha : a = chosen <;> simp [ha]
  rw [hfilter]
  exact (List.perm_cons_erase h).symm

/-- A good member is chosen. -/
theorem order_chosen (hnodup : members.Nodup) (h : chosen ∈ members.filter good) :
    Order good members
      (chosen :: (members.filter good).filter (fun a => a ≠ chosen) ++
        members.filter fun a => !good a) where
  perm := by
    refine List.Perm.trans ?_ (List.filter_append_perm good members)
    exact (perm_cons_filter_ne (hnodup.filter good) h).append_right _
  good_first := by
    apply pairwise_append_good
    · intro a ha
      rcases List.mem_cons.mp ha with rfl | ha
      · exact (List.mem_filter.mp h).2
      · exact (List.mem_filter.mp (List.mem_filter.mp ha).1).2
    · simp
  good_kept := by
    show (((members.filter good).filter (fun a => a ≠ chosen) ++
      members.filter fun a => !good a).filter good).Sublist members
    rw [List.filter_append]
    have hnone : (members.filter fun a => !good a).filter good = [] := by
      simp
    rw [hnone, List.append_nil]
    exact (List.filter_sublist.trans List.filter_sublist).trans List.filter_sublist
  rest_kept := by
    show (((members.filter good).filter (fun a => a ≠ chosen) ++
      members.filter fun a => !good a).filter fun a => !good a).Sublist members
    rw [List.filter_append]
    have hnone : ((members.filter good).filter fun a => a ≠ chosen).filter (fun a => !good a) =
        [] := by
      simp only [List.filter_eq_nil_iff, List.mem_filter]
      rintro a ⟨⟨-, hgood⟩, -⟩
      simp [hgood]
    rw [hnone, List.nil_append]
    exact List.filter_sublist.trans List.filter_sublist

/-- No member is good, and one is chosen. -/
theorem order_chosen_of_none_good (hnodup : members.Nodup) (h : chosen ∈ members)
    (hgood : ∀ a ∈ members, good a = false) :
    Order good members (chosen :: members.filter fun a => a ≠ chosen) where
  perm := perm_cons_filter_ne hnodup h
  good_first := by
    apply pairwise_of_none_good
    intro a ha
    exact hgood a ((perm_cons_filter_ne hnodup h).mem_iff.mp ha)
  good_kept := List.filter_sublist.trans List.filter_sublist
  rest_kept := List.filter_sublist.trans List.filter_sublist

end Chosen

/-- One turn of a cursor from any position meets every member once. -/
theorem turn_perm (members : List α) (cursor : Nat) :
    ((List.range members.length).map fun i => members[(cursor + i) % members.length]?).Perm
      (members.map some) := by
  have hturn : ((List.range members.length).map fun i =>
      members[(cursor + i) % members.length]?) = (members.rotate cursor).map some := by
    apply List.ext_getElem
    · simp
    · intro i hi hi'
      have hpos : 0 < members.length := by
        simp at hi
        omega
      rw [List.getElem_map, List.getElem_map, List.getElem_rotate, List.getElem_range,
        Nat.add_comm cursor i]
      exact List.getElem?_eq_getElem (Nat.mod_lt _ hpos)
  rw [hturn]
  exact (List.rotate_perm members cursor).map some

end Preference
