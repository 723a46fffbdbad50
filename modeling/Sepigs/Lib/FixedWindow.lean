import Mathlib.Data.List.Basic

/-!
# Counting by fixed windows

A limiter that counts the requests of a window from the first one on, admits a window's first and as many
as the limit allows, and begins the next window with the first request after the end.

What it admits in any stretch of time as long as a window is at most twice the limit, since such a stretch
meets two windows at most; and whom it refuses has asked more often than that in such a stretch.
-/

namespace FixedWindow

structure Window where
  count : Nat
  resetsAt : Int
deriving DecidableEq, Repr

def allow (limit : Nat) (length now : Int) : Option Window → Bool × Window
  | none => (true, ⟨1, now + length⟩)
  | some window =>
    if window.resetsAt ≤ now then (true, ⟨1, now + length⟩)
    else (decide (window.count + 1 ≤ limit), ⟨window.count + 1, window.resetsAt⟩)

/-- A request's time and whether it was admitted. -/
abbrev Request := Int × Bool

/-- How many were admitted from one time on and before another. -/
def admitted (since before : Int) (history : List Request) : Nat :=
  history.countP fun request => request.2 && decide (since ≤ request.1 ∧ request.1 < before)

/-- How many there were from a time on. -/
def asked (since : Int) (history : List Request) : Nat :=
  history.countP fun request => decide (since ≤ request.1)

def admittedFrom (since : Int) (history : List Request) : Nat :=
  history.countP fun request => request.2 && decide (since ≤ request.1)

/-- The refused had asked too often. -/
def RefusesOnly (limit : Nat) (length : Int) (history : List Request) : Prop :=
  ∀ before now after, history = before ++ (now, false) :: after → limit ≤ asked (now - length + 1) before

/-- Nothing was asked yet, or the window counts what was asked since it began. -/
structure Windowed (limit : Nat) (length : Int) (history : List Request) (window : Option Window) : Prop where
  unasked : window = none → history = []
  within : ∀ w, window = some w → ∀ request ∈ history, request.1 < w.resetsAt
  begins : ∀ w, window = some w → ∃ request ∈ history, request.1 = w.resetsAt - length
  counts : ∀ w, window = some w → w.count = asked (w.resetsAt - length) history
  current : ∀ w, window = some w → admittedFrom (w.resetsAt - length) history ≤ max 1 limit
  previous : ∀ w, window = some w →
    admitted (w.resetsAt - 2 * length) (w.resetsAt - length) history ≤ max 1 limit
  always : ∀ time, admitted time (time + length) history ≤ 2 * max 1 limit
  refuses : RefusesOnly limit length history

variable {limit : Nat} {length : Int} {history : List Request} {window : Option Window}

theorem windowed_nil (limit : Nat) (length : Int) : Windowed limit length [] none where
  unasked _ := rfl
  within w h := by cases h
  begins w h := by cases h
  counts w h := by cases h
  current w h := by cases h
  previous w h := by cases h
  always time := Nat.zero_le _
  refuses before now after h := by simp at h

theorem admittedFrom_le_asked (since : Int) (history : List Request) :
    admittedFrom since history ≤ asked since history := by
  unfold admittedFrom asked
  apply List.countP_mono_left
  intro request _ h
  simp only [Bool.and_eq_true] at h
  exact h.2

theorem asked_mono {since since' : Int} (h : since' ≤ since) (history : List Request) :
    asked since history ≤ asked since' history := by
  unfold asked
  apply List.countP_mono_left
  intro request _ hrequest
  simp only [decide_eq_true_eq] at hrequest ⊢
  omega

theorem admittedFrom_mono {since since' : Int} (h : since' ≤ since) (history : List Request) :
    admittedFrom since history ≤ admittedFrom since' history := by
  unfold admittedFrom
  apply List.countP_mono_left
  intro request _ hrequest
  simp only [Bool.and_eq_true, decide_eq_true_eq] at hrequest ⊢
  exact ⟨hrequest.1, by omega⟩

theorem admitted_le_admittedFrom (since before : Int) (history : List Request) :
    admitted since before history ≤ admittedFrom since history := by
  unfold admitted admittedFrom
  apply List.countP_mono_left
  intro request _ hrequest
  simp only [Bool.and_eq_true, decide_eq_true_eq] at hrequest ⊢
  exact ⟨hrequest.1, hrequest.2.1⟩

/-- Up to a time in between, and from it on. -/
theorem admitted_le_add (history : List Request) {since before middle lower : Int} (h : lower ≤ since) :
    admitted since before history ≤ admitted lower middle history + admittedFrom middle history := by
  induction history with
  | nil => exact Nat.zero_le _
  | cons request history ih =>
    unfold admitted admittedFrom at ih ⊢
    simp only [List.countP_cons]
    obtain ⟨time, ok⟩ := request
    cases ok with
    | false => simpa using ih
    | true =>
      simp only [Bool.true_and, decide_eq_true_eq]
      split <;> split <;> split <;> omega

theorem admitted_append (since before : Int) (history : List Request) (now : Int) (ok : Bool) :
    admitted since before (history ++ [(now, ok)]) =
      admitted since before history + if ok ∧ since ≤ now ∧ now < before then 1 else 0 := by
  unfold admitted
  rw [List.countP_append, List.countP_singleton]
  simp

theorem admittedFrom_append (since : Int) (history : List Request) (now : Int) (ok : Bool) :
    admittedFrom since (history ++ [(now, ok)]) =
      admittedFrom since history + if ok ∧ since ≤ now then 1 else 0 := by
  unfold admittedFrom
  rw [List.countP_append, List.countP_singleton]
  simp

theorem asked_append (since : Int) (history : List Request) (now : Int) (ok : Bool) :
    asked since (history ++ [(now, ok)]) = asked since history + if since ≤ now then 1 else 0 := by
  unfold asked
  rw [List.countP_append, List.countP_singleton]
  simp

/-- Nothing is later than the latest. -/
theorem asked_eq_zero {now : Int} (hbefore : ∀ request ∈ history, request.1 < now) : asked now history = 0 := by
  unfold asked
  refine List.countP_eq_zero.mpr fun request hmem h => ?_
  have hlt := hbefore request hmem
  simp only [decide_eq_true_eq] at h
  omega

theorem admittedFrom_eq_zero {now : Int} (hbefore : ∀ request ∈ history, request.1 < now) :
    admittedFrom now history = 0 := by
  have hle := admittedFrom_le_asked now history
  rw [asked_eq_zero hbefore] at hle
  omega

/-- Whether a new window begins. -/
theorem admit_cases (limit : Nat) (length now : Int) (window : Option Window) :
    ((∀ w, window = some w → w.resetsAt ≤ now) ∧ allow limit length now window = (true, ⟨1, now + length⟩)) ∨
    ∃ w, window = some w ∧ now < w.resetsAt ∧
      allow limit length now window = (decide (w.count + 1 ≤ limit), ⟨w.count + 1, w.resetsAt⟩) := by
  cases window with
  | none => exact .inl ⟨fun w h => (by cases h), rfl⟩
  | some w =>
    by_cases hends : w.resetsAt ≤ now
    · refine .inl ⟨fun w' h => ?_, if_pos hends⟩
      cases h
      exact hends
    · exact .inr ⟨w, rfl, by omega, if_neg hends⟩

/-- A request of a longer history is the last one or one of the shorter. -/
theorem last_or_earlier {last request : Request} {before after : List Request}
    (h : history ++ [last] = before ++ request :: after) :
    (history = before ∧ last = request) ∨ ∃ rest, history = before ++ request :: rest := by
  rcases List.eq_nil_or_concat after with rfl | ⟨rest, other, rfl⟩
  · exact .inl ⟨List.append_inj_left' h rfl, List.head_eq_of_cons_eq (List.append_inj_right' h rfl)⟩
  · rw [List.concat_eq_append, ← List.cons_append, ← List.append_assoc] at h
    exact .inr ⟨rest, List.append_inj_left' h rfl⟩

/-- Who is refused has asked as often as the limit allows, before. -/
theorem RefusesOnly.step (h : RefusesOnly limit length history) {now : Int} {ok : Bool}
    (hmany : ok = false → limit ≤ asked (now - length + 1) history) :
    RefusesOnly limit length (history ++ [(now, ok)]) := by
  intro before time after heq
  rcases last_or_earlier heq with ⟨rfl, hlast⟩ | ⟨rest, hrest⟩
  · cases hlast
    exact hmany rfl
  · exact h before time rest hrest

/-- The bound on the two last windows bounds what ends with the latest request. -/
theorem admitted_step {start now : Int} {ok : Bool} {most : Nat}
    (halways : ∀ time, admitted time (time + length) history ≤ 2 * most)
    (hcurrent : admittedFrom start (history ++ [(now, ok)]) ≤ most)
    (hprevious : admitted (start - length) start (history ++ [(now, ok)]) ≤ most)
    (hstart : start ≤ now) (time : Int) :
    admitted time (time + length) (history ++ [(now, ok)]) ≤ 2 * most := by
  by_cases hmeets : time ≤ now ∧ now < time + length
  · have hparts := @admitted_le_add (history ++ [(now, ok)]) time (time + length) start (start - length) (by omega)
    omega
  · rw [admitted_append, if_neg (fun h => hmeets h.2)]
    exact halways time

/-- **One request more.** -/
theorem Windowed.step (h : Windowed limit length history window) (hlength : 0 < length) {now : Int}
    (hlatest : ∀ request ∈ history, request.1 ≤ now) :
    Windowed limit length (history ++ [(now, (allow limit length now window).1)])
      (some (allow limit length now window).2) := by
  rcases admit_cases limit length now window with ⟨hends, heq⟩ | ⟨w, rfl, hgoes, heq⟩
  · have hbefore : ∀ request ∈ history, request.1 < now := by
      intro request hmem
      cases window with
      | none =>
        rw [h.unasked rfl] at hmem
        cases hmem
      | some w =>
        have hend := hends w rfl
        have hwithin := h.within w rfl request hmem
        omega
    -- the window that ends began a whole length before
    have hlast : admittedFrom (now - length) history ≤ max 1 limit := by
      cases window with
      | none =>
        rw [h.unasked rfl]
        exact Nat.zero_le _
      | some w =>
        have hend := hends w rfl
        exact Nat.le_trans (admittedFrom_mono (by omega) history) (h.current w rfl)
    have hcurrent : admittedFrom now (history ++ [(now, true)]) ≤ max 1 limit := by
      rw [admittedFrom_append, admittedFrom_eq_zero hbefore]
      split <;> omega
    have hprevious : admitted (now - length) now (history ++ [(now, true)]) ≤ max 1 limit := by
      rw [admitted_append, if_neg (by omega)]
      exact Nat.le_trans (admitted_le_admittedFrom _ _ history) hlast
    have hstart : now + length - length = now := by omega
    have hstart' : now + length - 2 * length = now - length := by omega
    rw [heq]
    refine ⟨fun hnone => (by cases hnone), ?_, ?_, ?_, ?_, ?_, ?_, ?_⟩
    · rintro w ⟨⟩ request hmem
      show request.1 < now + length
      rcases List.mem_append.mp hmem with hmem | hmem
      · have := hbefore request hmem
        omega
      · rw [List.mem_singleton.mp hmem]
        omega
    · rintro w ⟨⟩
      exact ⟨(now, true), List.mem_append_right _ List.mem_cons_self, hstart.symm⟩
    · rintro w ⟨⟩
      show 1 = asked (now + length - length) (history ++ [(now, true)])
      rw [hstart, asked_append, asked_eq_zero hbefore, if_pos (Int.le_refl _)]
    · rintro w ⟨⟩
      show admittedFrom (now + length - length) _ ≤ _
      rw [hstart]
      exact hcurrent
    · rintro w ⟨⟩
      show admitted (now + length - 2 * length) (now + length - length) _ ≤ _
      rw [hstart, hstart']
      exact hprevious
    · exact admitted_step h.always hcurrent hprevious (Int.le_refl _)
    · exact h.refuses.step fun hfalse => by cases hfalse
  · obtain ⟨first, hfirst, hbegan⟩ := h.begins w rfl
    have hstarted : w.resetsAt - length ≤ now := by
      have := hlatest first hfirst
      omega
    have hcounts := h.counts w rfl
    have hcurrent : admittedFrom (w.resetsAt - length) (history ++ [(now, decide (w.count + 1 ≤ limit))]) ≤
        max 1 limit := by
      rw [admittedFrom_append]
      by_cases hroom : w.count + 1 ≤ limit
      · have hle := admittedFrom_le_asked (w.resetsAt - length) history
        split <;> omega
      · rw [if_neg (fun hok => hroom (of_decide_eq_true hok.1))]
        exact h.current w rfl
    have hprevious : admitted (w.resetsAt - 2 * length) (w.resetsAt - length)
        (history ++ [(now, decide (w.count + 1 ≤ limit))]) ≤ max 1 limit := by
      rw [admitted_append, if_neg (by omega)]
      exact h.previous w rfl
    rw [heq]
    refine ⟨fun hnone => (by cases hnone), ?_, ?_, ?_, ?_, ?_, ?_, ?_⟩
    · rintro w' ⟨⟩ request hmem
      rcases List.mem_append.mp hmem with hmem | hmem
      · exact h.within w rfl request hmem
      · rw [List.mem_singleton.mp hmem]
        exact hgoes
    · rintro w' ⟨⟩
      exact ⟨first, List.mem_append_left _ hfirst, hbegan⟩
    · rintro w' ⟨⟩
      show w.count + 1 = asked (w.resetsAt - length) _
      rw [asked_append, if_pos hstarted, hcounts]
    · rintro w' ⟨⟩
      exact hcurrent
    · rintro w' ⟨⟩
      exact hprevious
    · have hback : w.resetsAt - length - length = w.resetsAt - 2 * length := by omega
      refine admitted_step h.always hcurrent ?_ hstarted
      rw [hback]
      exact hprevious
    · refine h.refuses.step fun hfull => ?_
      have hfull := of_decide_eq_false hfull
      have hasked := @asked_mono (w.resetsAt - length) (now - length + 1) (by omega) history
      omega

end FixedWindow
