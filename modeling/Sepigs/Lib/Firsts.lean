import Mathlib.Data.List.Basic

/-!
# First occurrences

The items of a list without those that are the same as an earlier one, for any notion of
sameness.
-/

namespace Firsts

universe u

variable {α : Type u}

open Classical in
/-- The first occurrences among the items, after those that were seen. -/
noncomputable def firstsFrom (same : α → α → Prop) (seen : List α) : List α → List α
  | [] => []
  | x :: xs =>
    if ∃ y ∈ seen, same y x then firstsFrom same seen xs
    else x :: firstsFrom same (x :: seen) xs

noncomputable def firsts (same : α → α → Prop) (xs : List α) : List α := firstsFrom same [] xs

variable {same same' : α → α → Prop} {seen : List α}

theorem firstsFrom_cons_of_same {x : α} (h : ∃ y ∈ seen, same y x) (xs : List α) :
    firstsFrom same seen (x :: xs) = firstsFrom same seen xs := by
  rw [firstsFrom, if_pos h]

theorem firstsFrom_cons_of_new {x : α} (h : ¬ ∃ y ∈ seen, same y x) (xs : List α) :
    firstsFrom same seen (x :: xs) = x :: firstsFrom same (x :: seen) xs := by
  rw [firstsFrom, if_neg h]

theorem firstsFrom_sublist (xs : List α) (seen : List α) : (firstsFrom same seen xs).Sublist xs := by
  induction xs generalizing seen with
  | nil => exact List.Sublist.refl []
  | cons x xs ih =>
    by_cases h : ∃ y ∈ seen, same y x
    · rw [firstsFrom_cons_of_same h]
      exact (ih seen).cons x
    · rw [firstsFrom_cons_of_new h]
      exact (ih (x :: seen)).cons_cons x

/-- No item is the same as one that was seen. -/
theorem firstsFrom_new (xs : List α) (seen : List α) :
    ∀ x ∈ firstsFrom same seen xs, ∀ y ∈ seen, ¬ same y x := by
  induction xs generalizing seen with
  | nil =>
    intro x hx
    cases hx
  | cons z xs ih =>
    intro x hx y hy
    by_cases h : ∃ y ∈ seen, same y z
    · rw [firstsFrom_cons_of_same h] at hx
      exact ih seen x hx y hy
    · rw [firstsFrom_cons_of_new h] at hx
      rcases List.mem_cons.mp hx with rfl | hx
      · intro hsame
        exact h ⟨y, hy, hsame⟩
      · exact ih (z :: seen) x hx y (List.mem_cons_of_mem z hy)

theorem pairwise_firstsFrom (xs : List α) (seen : List α) :
    (firstsFrom same seen xs).Pairwise fun x y => ¬ same x y := by
  induction xs generalizing seen with
  | nil => exact List.Pairwise.nil
  | cons x xs ih =>
    by_cases h : ∃ y ∈ seen, same y x
    · rw [firstsFrom_cons_of_same h]
      exact ih seen
    · rw [firstsFrom_cons_of_new h, List.pairwise_cons]
      refine ⟨?_, ih (x :: seen)⟩
      intro y hy
      exact firstsFrom_new xs (x :: seen) y hy x List.mem_cons_self

/-- Every item is the same as one that was seen or as a first occurrence. -/
theorem exists_same (hrefl : ∀ x, same x x) (xs : List α) (seen : List α) :
    ∀ x ∈ xs, (∃ y ∈ seen, same y x) ∨ ∃ y ∈ firstsFrom same seen xs, same y x := by
  induction xs generalizing seen with
  | nil =>
    intro x hx
    cases hx
  | cons z xs ih =>
    intro x hx
    by_cases h : ∃ y ∈ seen, same y z
    · rw [firstsFrom_cons_of_same h]
      rcases List.mem_cons.mp hx with rfl | hx
      · exact .inl h
      · exact ih seen x hx
    · rw [firstsFrom_cons_of_new h]
      rcases List.mem_cons.mp hx with rfl | hx
      · exact .inr ⟨x, List.mem_cons_self, hrefl x⟩
      · rcases ih (z :: seen) x hx with ⟨y, hy, hsame⟩ | ⟨y, hy, hsame⟩
        · rcases List.mem_cons.mp hy with rfl | hy
          · exact .inr ⟨y, List.mem_cons_self, hsame⟩
          · exact .inl ⟨y, hy, hsame⟩
        · exact .inr ⟨y, List.mem_cons_of_mem z hy, hsame⟩

/-- Two notions that agree on the items have the same first occurrences. -/
theorem firstsFrom_congr (xs : List α) (seen : List α)
    (h : ∀ x ∈ seen ++ xs, ∀ y ∈ xs, (same x y ↔ same' x y)) :
    firstsFrom same seen xs = firstsFrom same' seen xs := by
  induction xs generalizing seen with
  | nil => rfl
  | cons z xs ih =>
    have hiff : (∃ y ∈ seen, same y z) ↔ ∃ y ∈ seen, same' y z := by
      constructor
      · rintro ⟨y, hy, hsame⟩
        exact ⟨y, hy, (h y (List.mem_append_left _ hy) z List.mem_cons_self).mp hsame⟩
      · rintro ⟨y, hy, hsame⟩
        exact ⟨y, hy, (h y (List.mem_append_left _ hy) z List.mem_cons_self).mpr hsame⟩
    by_cases hseen : ∃ y ∈ seen, same y z
    · rw [firstsFrom_cons_of_same hseen, firstsFrom_cons_of_same (hiff.mp hseen)]
      apply ih seen
      intro x hx y hy
      apply h x _ y (List.mem_cons_of_mem z hy)
      rcases List.mem_append.mp hx with hx | hx
      · exact List.mem_append_left _ hx
      · exact List.mem_append_right _ (List.mem_cons_of_mem z hx)
    · rw [firstsFrom_cons_of_new hseen, firstsFrom_cons_of_new fun hs => hseen (hiff.mpr hs)]
      congr 1
      apply ih (z :: seen)
      intro x hx y hy
      apply h x _ y (List.mem_cons_of_mem z hy)
      rcases List.mem_append.mp hx with hx | hx
      · rcases List.mem_cons.mp hx with rfl | hx
        · exact List.mem_append_right _ List.mem_cons_self
        · exact List.mem_append_left _ hx
      · exact List.mem_append_right _ (List.mem_cons_of_mem z hx)

theorem firsts_congr {xs : List α} (h : ∀ x ∈ xs, ∀ y ∈ xs, (same x y ↔ same' x y)) :
    firsts same xs = firsts same' xs :=
  firstsFrom_congr xs [] h

/-- A list without repetitions has only first occurrences. -/
theorem firstsFrom_eq_self (xs : List α) (seen : List α) (hseen : ∀ x ∈ xs, ∀ y ∈ seen, ¬ same y x)
    (h : xs.Pairwise fun x y => ¬ same x y) : firstsFrom same seen xs = xs := by
  induction xs generalizing seen with
  | nil => rfl
  | cons x xs ih =>
    rw [List.pairwise_cons] at h
    have hnew : ¬ ∃ y ∈ seen, same y x := by
      rintro ⟨y, hy, hsame⟩
      exact hseen x List.mem_cons_self y hy hsame
    rw [firstsFrom_cons_of_new hnew]
    congr 1
    apply ih (x :: seen) _ h.2
    intro z hz y hy
    rcases List.mem_cons.mp hy with rfl | hy
    · exact h.1 z hz
    · exact hseen z (List.mem_cons_of_mem x hz) y hy

end Firsts
