import Mathlib.Data.List.Nodup

/-!
# A search around a circle

`item 0`, …, `item (n - 1)` are asked one after the other from a cursor on, and from the
start again at the end, until one is not taken.  A round of `n` attempts asks each item at
most once, and finds none exactly if all are taken (`round_none_iff`, `round_nodup`).
-/

namespace CyclicSearch

universe u

variable {α : Type u}

structure Outcome (α : Type u) where
  found : Option α
  cursor : Nat
  asked : List α

def search (item : Nat → α) (n : Nat) (taken : α → Bool) : Nat → Nat → Outcome α
  | 0, cursor => ⟨none, cursor, []⟩
  | attempts + 1, cursor =>
    if taken (item cursor) then
      let later := search item n taken attempts ((cursor + 1) % n)
      ⟨later.found, later.cursor, item cursor :: later.asked⟩
    else ⟨some (item cursor), (cursor + 1) % n, [item cursor]⟩

/-- A whole round. -/
def round (item : Nat → α) (n : Nat) (taken : α → Bool) (cursor : Nat) : Outcome α :=
  search item n taken n cursor

/-- The items from the cursor on. -/
def ahead (item : Nat → α) (n cursor : Nat) (j : Nat) : α := item ((cursor + j) % n)

theorem ahead_zero (item : Nat → α) {n cursor : Nat} (h : cursor < n) :
    ahead item n cursor 0 = item cursor := by
  unfold ahead
  rw [Nat.add_zero, Nat.mod_eq_of_lt h]

theorem ahead_succ (item : Nat → α) (n cursor j : Nat) :
    ahead item n ((cursor + 1) % n) j = ahead item n cursor (j + 1) := by
  unfold ahead
  rw [Nat.mod_add_mod, Nat.add_right_comm, Nat.add_assoc]

theorem mod_eq_ite {n cursor j : Nat} (hcursor : cursor < n) (hj : j < n) :
    (cursor + j) % n = if cursor + j < n then cursor + j else cursor + j - n := by
  by_cases h : cursor + j < n
  · rw [if_pos h, Nat.mod_eq_of_lt h]
  · rw [if_neg h, Nat.mod_eq_sub_mod (by omega), Nat.mod_eq_of_lt (by omega)]

/-- Every place is ahead of every cursor. -/
theorem exists_ahead {n cursor i : Nat} (hcursor : cursor < n) (hi : i < n) :
    ∃ j, j < n ∧ (cursor + j) % n = i := by
  by_cases h : cursor ≤ i
  · refine ⟨i - cursor, by omega, ?_⟩
    rw [mod_eq_ite hcursor (by omega), if_pos (by omega)]
    omega
  · refine ⟨i + n - cursor, by omega, ?_⟩
    rw [mod_eq_ite hcursor (by omega), if_neg (by omega)]
    omega

/-- The first attempts ask the items ahead, all but the last of them taken; the last one is
taken only if there were no attempts left. -/
theorem search_spec (item : Nat → α) {n : Nat} (taken : α → Bool) (attempts : Nat) :
    ∀ cursor, cursor < n → ∃ k, k ≤ attempts ∧
      (search item n taken attempts cursor).asked = (List.range k).map (ahead item n cursor) ∧
      (search item n taken attempts cursor).cursor < n ∧
      ((search item n taken attempts cursor).found = none ∧ k = attempts ∧
          (∀ j, j < k → taken (ahead item n cursor j) = true) ∨
        ∃ j, j + 1 = k ∧ (search item n taken attempts cursor).found = some (ahead item n cursor j) ∧
          taken (ahead item n cursor j) = false) := by
  induction attempts with
  | zero =>
    intro cursor hcursor
    refine ⟨0, Nat.le_refl 0, rfl, hcursor, Or.inl ⟨rfl, rfl, fun j hj => ?_⟩⟩
    omega
  | succ attempts ih =>
    intro cursor hcursor
    have hnext : (cursor + 1) % n < n := Nat.mod_lt _ (by omega)
    have hzero := ahead_zero item hcursor
    unfold search
    by_cases htaken : taken (item cursor) = true
    · obtain ⟨k, hk, hasked, hlast, hfound⟩ := ih ((cursor + 1) % n) hnext
      rw [if_pos htaken]
      refine ⟨k + 1, by omega, ?_, hlast, ?_⟩
      · simp only [hasked, List.range_succ_eq_map, List.map_cons, List.map_map, hzero]
        congr 1
        apply List.map_congr_left
        intro j _
        exact ahead_succ item n cursor j
      · rcases hfound with ⟨hnone, hall, htakens⟩ | ⟨j, hj, hsome, hfree⟩
        · refine Or.inl ⟨hnone, by omega, fun j hj => ?_⟩
          cases j with
          | zero =>
            rw [hzero]
            exact htaken
          | succ j =>
            rw [← ahead_succ]
            exact htakens j (by omega)
        · right
          rw [ahead_succ] at hsome hfree
          exact ⟨j + 1, by omega, hsome, hfree⟩
    · rw [if_neg htaken]
      refine ⟨1, by omega, ?_, hnext, Or.inr ⟨0, rfl, ?_, ?_⟩⟩
      · simp [hzero]
      · rw [hzero]
      · rw [hzero]
        exact Bool.eq_false_iff.mpr htaken

section Round

variable {item : Nat → α} {n cursor : Nat} {taken : α → Bool} (hcursor : cursor < n)

include hcursor

theorem round_cursor : (round item n taken cursor).cursor < n := by
  obtain ⟨k, -, -, hlast, -⟩ := search_spec item taken n cursor hcursor
  exact hlast

theorem round_some {a : α} (h : (round item n taken cursor).found = some a) :
    taken a = false ∧ ∃ i, i < n ∧ a = item i := by
  unfold round at h
  obtain ⟨k, -, -, -, hfound⟩ := search_spec item taken n cursor hcursor
  rcases hfound with ⟨hnone, -⟩ | ⟨j, -, hsome, hfree⟩
  · rw [hnone] at h
    cases h
  · rw [hsome] at h
    cases h
    exact ⟨hfree, (cursor + j) % n, Nat.mod_lt _ (by omega), rfl⟩

theorem round_none_iff : (round item n taken cursor).found = none ↔ ∀ i, i < n → taken (item i) = true := by
  unfold round
  obtain ⟨k, -, -, -, hfound⟩ := search_spec item taken n cursor hcursor
  constructor
  · intro hnone i hi
    rcases hfound with ⟨-, rfl, hall⟩ | ⟨j, -, hsome, -⟩
    · obtain ⟨j, hj, rfl⟩ := exists_ahead hcursor hi
      exact hall j hj
    · rw [hnone] at hsome
      cases hsome
  · intro hall
    rcases hfound with ⟨hnone, -⟩ | ⟨j, -, -, hfree⟩
    · exact hnone
    · have htaken := hall ((cursor + j) % n) (Nat.mod_lt _ (by omega))
      unfold ahead at hfree
      rw [hfree] at htaken
      cases htaken

theorem round_asked {a : α} (h : a ∈ (round item n taken cursor).asked) : ∃ i, i < n ∧ a = item i := by
  unfold round at h
  obtain ⟨k, -, hasked, -⟩ := search_spec item taken n cursor hcursor
  rw [hasked] at h
  obtain ⟨j, -, rfl⟩ := List.mem_map.mp h
  exact ⟨(cursor + j) % n, Nat.mod_lt _ (by omega), rfl⟩

/-- No item is asked twice, if no two are the same. -/
theorem round_nodup (hinj : ∀ i j, i < n → j < n → item i = item j → i = j) :
    (round item n taken cursor).asked.Nodup := by
  unfold round
  obtain ⟨k, hk, hasked, -⟩ := search_spec item taken n cursor hcursor
  rw [hasked]
  refine List.Nodup.map_on ?_ List.nodup_range
  intro i hi j hj heq
  have hik := List.mem_range.mp hi
  have hjk := List.mem_range.mp hj
  have hmod := hinj _ _ (Nat.mod_lt _ (by omega)) (Nat.mod_lt _ (by omega)) heq
  rw [mod_eq_ite hcursor (by omega), mod_eq_ite hcursor (by omega)] at hmod
  split at hmod <;> split at hmod <;> omega

end Round

end CyclicSearch
