import Mathlib.Data.List.Infix
import Mathlib.Data.Nat.Find

/-!
# Reading by attempts

Chunks are added to what has come, and each time the whole is tried: the attempt waits
for more, fails, or is done with some of the bytes.  Only the attempts at the ends of
chunks are made.
-/

namespace Accumulate

universe u v w

inductive Attempt (ε : Type u) (α : Type v) where
  | wait
  | fail (error : ε)
  | done (value : α) (consumed : Nat)
deriving DecidableEq, Repr

inductive Reading (ε : Type u) (α : Type v) (β : Type w) where
  | waiting
  | rejected (error : ε)
  | resolved (value : α) (remainder : List β) (unread : List (List β))
deriving DecidableEq, Repr

variable {ε : Type u} {α : Type v} {β : Type w}

def accumulate (attempt : List β → Attempt ε α) : List β → List (List β) → Reading ε α β
  | _, [] => .waiting
  | data, chunk :: chunks =>
    match attempt (data ++ chunk) with
    | .wait => accumulate attempt (data ++ chunk) chunks
    | .fail error => .rejected error
    | .done value consumed => .resolved value ((data ++ chunk).drop consumed) chunks

/-- What has come after a number of chunks. -/
def upTo (chunks : List (List β)) (k : Nat) : List β := (chunks.take k).flatten

theorem upTo_start (chunks : List (List β)) (k : Nat) : upTo chunks k <+: chunks.flatten := by
  refine ⟨(chunks.drop k).flatten, ?_⟩
  unfold upTo
  rw [← List.flatten_append, List.take_append_drop]

theorem upTo_of_le {chunks : List (List β)} {k : Nat} (h : chunks.length ≤ k) :
    upTo chunks k = chunks.flatten := by
  unfold upTo
  rw [List.take_of_length_le h]

theorem length_upTo_mono (chunks : List (List β)) {j k : Nat} (h : j ≤ k) :
    (upTo chunks j).length ≤ (upTo chunks k).length := by
  have hsplit := List.take_append_drop j (chunks.take k)
  rw [List.take_take, Nat.min_eq_left h] at hsplit
  unfold upTo
  rw [← hsplit, List.flatten_append, List.length_append]
  omega

/-- The first attempt that does not wait decides. -/
theorem accumulate_resolved_iff (attempt : List β → Attempt ε α) (data : List β)
    (chunks : List (List β)) (value : α) (remainder : List β) (unread : List (List β)) :
    accumulate attempt data chunks = .resolved value remainder unread ↔
      ∃ k consumed, k < chunks.length ∧
        attempt (data ++ upTo chunks (k + 1)) = .done value consumed ∧
        remainder = (data ++ upTo chunks (k + 1)).drop consumed ∧ unread = chunks.drop (k + 1) ∧
        ∀ j, j < k → attempt (data ++ upTo chunks (j + 1)) = .wait := by
  induction chunks generalizing data with
  | nil =>
    constructor
    · intro h
      cases h
    · rintro ⟨k, consumed, hk, -⟩
      exact absurd hk (Nat.not_lt_zero k)
  | cons chunk chunks ih =>
    have hfirst : data ++ upTo (chunk :: chunks) 1 = data ++ chunk := by simp [upTo]
    have hlater (k : Nat) : data ++ upTo (chunk :: chunks) (k + 1) = data ++ chunk ++ upTo chunks k := by
      simp [upTo]
    unfold accumulate
    cases hattempt : attempt (data ++ chunk) with
    | wait =>
      simp only []
      rw [ih (data ++ chunk)]
      constructor
      · rintro ⟨k, consumed, hk, hdone, hremainder, hunread, hbefore⟩
        refine ⟨k + 1, consumed, by simpa using hk, ?_, ?_, ?_, ?_⟩
        · rw [hlater]
          exact hdone
        · rw [hlater]
          exact hremainder
        · simpa using hunread
        · intro j hj
          cases j with
          | zero =>
            rw [hfirst]
            exact hattempt
          | succ j =>
            rw [hlater]
            exact hbefore j (by omega)
      · rintro ⟨k, consumed, hk, hdone, hremainder, hunread, hbefore⟩
        cases k with
        | zero =>
          rw [hfirst, hattempt] at hdone
          cases hdone
        | succ k =>
          rw [hlater] at hdone hremainder
          refine ⟨k, consumed, by simpa using hk, hdone, hremainder, by simpa using hunread, ?_⟩
          intro j hj
          have hwait := hbefore (j + 1) (by omega)
          rwa [hlater] at hwait
    | fail error =>
      constructor
      · intro h
        cases h
      · rintro ⟨k, consumed, hk, hdone, -, -, hbefore⟩
        cases k with
        | zero =>
          rw [hfirst, hattempt] at hdone
          cases hdone
        | succ k =>
          have hwait := hbefore 0 (by omega)
          rw [hfirst, hattempt] at hwait
          cases hwait
    | done value' consumed' =>
      constructor
      · intro h
        cases h
        exact ⟨0, consumed', by simp, by rw [hfirst]; exact hattempt, by rw [hfirst], by simp,
          fun j hj => absurd hj (Nat.not_lt_zero j)⟩
      · rintro ⟨k, consumed, hk, hdone, hremainder, hunread, hbefore⟩
        cases k with
        | zero =>
          rw [hfirst] at hdone hremainder
          rw [hattempt] at hdone
          cases hdone
          rw [hremainder, hunread]
          simp
        | succ k =>
          have hwait := hbefore 0 (by omega)
          rw [hfirst, hattempt] at hwait
          cases hwait

/-- It waits when every attempt waits. -/
theorem accumulate_waiting_iff (attempt : List β → Attempt ε α) (data : List β)
    (chunks : List (List β)) :
    accumulate attempt data chunks = .waiting ↔
      ∀ k, k < chunks.length → attempt (data ++ upTo chunks (k + 1)) = .wait := by
  induction chunks generalizing data with
  | nil =>
    constructor
    · intro _ k hk
      exact absurd hk (Nat.not_lt_zero k)
    · intro _
      rfl
  | cons chunk chunks ih =>
    have hfirst : data ++ upTo (chunk :: chunks) 1 = data ++ chunk := by simp [upTo]
    have hlater (k : Nat) : data ++ upTo (chunk :: chunks) (k + 1) = data ++ chunk ++ upTo chunks k := by
      simp [upTo]
    unfold accumulate
    constructor
    · intro h k hk
      cases hattempt : attempt (data ++ chunk) with
      | wait =>
        rw [hattempt] at h
        cases k with
        | zero =>
          rw [hfirst]
          exact hattempt
        | succ k =>
          rw [hlater]
          exact (ih (data ++ chunk)).mp h k (by simpa using hk)
      | fail error =>
        rw [hattempt] at h
        cases h
      | done value consumed =>
        rw [hattempt] at h
        cases h
    · intro h
      have hwait := h 0 (by simp)
      rw [hfirst] at hwait
      rw [hwait]
      refine (ih (data ++ chunk)).mpr fun k hk => ?_
      have hnext := h (k + 1) (by simpa using hk)
      rwa [hlater] at hnext

/-! ## Attempts that look at a head only -/

/-- An attempt that is done has seen all it needs: more bytes change nothing, and fewer
neither while they hold what was consumed. -/
structure Framed (attempt : List β → Attempt ε α) : Prop where
  positive : ∀ data value consumed, attempt data = .done value consumed → 0 < consumed
  consumed_le : ∀ data value consumed, attempt data = .done value consumed → consumed ≤ data.length
  more : ∀ data rest value consumed, attempt data = .done value consumed →
    attempt (data ++ rest) = .done value consumed
  fewer : ∀ data rest value consumed, attempt (data ++ rest) = .done value consumed →
    consumed ≤ data.length → attempt data = .done value consumed

/-- An attempt that is done exactly on the bytes that start with one of some heads. -/
structure Reads (attempt : List β → Attempt ε α) (IsHead : List β → α → Prop) : Prop where
  nonempty : ∀ head value, IsHead head value → head ≠ []
  done_iff : ∀ data value consumed, attempt data = .done value consumed ↔
    ∃ head, IsHead head value ∧ head <+: data ∧ consumed = head.length

theorem Reads.framed {attempt : List β → Attempt ε α} {IsHead : List β → α → Prop}
    (h : Reads attempt IsHead) : Framed attempt where
  positive := by
    intro data value consumed hdone
    obtain ⟨head, hhead, -, rfl⟩ := (h.done_iff data value consumed).mp hdone
    exact List.length_pos_iff.mpr (h.nonempty head value hhead)
  consumed_le := by
    intro data value consumed hdone
    obtain ⟨head, -, hstart, rfl⟩ := (h.done_iff data value consumed).mp hdone
    exact hstart.length_le
  more := by
    intro data rest value consumed hdone
    obtain ⟨head, hhead, hstart, hconsumed⟩ := (h.done_iff data value consumed).mp hdone
    exact (h.done_iff _ value consumed).mpr
      ⟨head, hhead, hstart.trans (List.prefix_append data rest), hconsumed⟩
  fewer := by
    intro data rest value consumed hdone hle
    obtain ⟨head, hhead, hstart, rfl⟩ := (h.done_iff _ value consumed).mp hdone
    refine (h.done_iff data value _).mpr ⟨head, hhead, ?_, rfl⟩
    exact List.prefix_of_prefix_length_le hstart (List.prefix_append data rest) hle

/-- An attempt on too many bytes fails. -/
def limited (maxBytes : Nat) (error : ε) (attempt : List β → Attempt ε α) (data : List β) : Attempt ε α :=
  if maxBytes < data.length then .fail error else attempt data

/-- No attempt before the head is complete does anything but wait. -/
def WaitsBefore (attempt : List β → Attempt ε α) (consumed : Nat) (chunks : List (List β)) : Prop :=
  ∀ k, 0 < k → (upTo chunks k).length < consumed → attempt (upTo chunks k) = .wait

/-- A chunk ends in these bounds. -/
def EndsWithin (chunks : List (List β)) (first last : Nat) : Prop :=
  ∃ k, first ≤ (upTo chunks k).length ∧ (upTo chunks k).length ≤ last

section Framed

variable {attempt : List β → Attempt ε α} (hframed : Framed attempt) {chunks : List (List β)}
  (maxBytes : Nat) (error : ε)

include hframed

theorem Framed.of_start {data whole : List β} {value : α} {consumed : Nat} (hstart : data <+: whole)
    (h : attempt data = .done value consumed) : attempt whole = .done value consumed := by
  obtain ⟨rest, rfl⟩ := hstart
  exact hframed.more data rest value consumed h

/-- The reading resolves when some chunk ends, within the limit, at or after the end of the
head and no attempt before that fails. -/
theorem Framed.resolved_iff (value : α) :
    (∃ remainder unread, accumulate (limited maxBytes error attempt) [] chunks =
        .resolved value remainder unread) ↔
      ∃ consumed k, attempt (upTo chunks k) = .done value consumed ∧
        (upTo chunks k).length ≤ maxBytes ∧ WaitsBefore attempt consumed chunks := by
  constructor
  · rintro ⟨remainder, unread, h⟩
    obtain ⟨k, consumed, hk, hdone, -, -, hbefore⟩ :=
      (accumulate_resolved_iff _ [] chunks value remainder unread).mp h
    rw [List.nil_append] at hdone
    unfold limited at hdone
    split at hdone
    · cases hdone
    · next hlimit =>
      refine ⟨consumed, k + 1, hdone, by omega, fun j hj hlt => ?_⟩
      have hle := hframed.consumed_le _ _ _ hdone
      have hjk : j - 1 < k := by
        by_contra hge
        have hmono := length_upTo_mono chunks (show k + 1 ≤ j by omega)
        omega
      have hwait := hbefore (j - 1) hjk
      rw [List.nil_append, show j - 1 + 1 = j by omega] at hwait
      unfold limited at hwait
      split at hwait
      · cases hwait
      · exact hwait
  · rintro ⟨consumed, k, hdone, hlimit, hbefore⟩
    -- the first chunk end at or after the end of the head
    have hexists : ∃ j, consumed ≤ (upTo chunks (j + 1)).length := by
      refine ⟨k, Nat.le_trans (hframed.consumed_le _ _ _ hdone) ?_⟩
      exact length_upTo_mono chunks (Nat.le_succ k)
    classical
    obtain ⟨j, hj, hfirst⟩ : ∃ j, consumed ≤ (upTo chunks (j + 1)).length ∧
        ∀ i, i < j → (upTo chunks (i + 1)).length < consumed := by
      refine ⟨Nat.find hexists, Nat.find_spec hexists, fun i hi => ?_⟩
      have hmin := Nat.find_min hexists hi
      omega
    have hpos := hframed.positive _ _ _ hdone
    have hjk : j + 1 ≤ k := by
      by_contra hlt
      have hle := hframed.consumed_le _ _ _ hdone
      cases k with
      | zero => simp [upTo] at hle; omega
      | succ k =>
        have hbelow := hfirst k (by omega)
        omega
    have hdone' : attempt (upTo chunks (j + 1)) = .done value consumed := by
      have hstart : upTo chunks (j + 1) <+: upTo chunks k :=
        List.prefix_of_prefix_length_le (upTo_start chunks _) (upTo_start chunks _)
          (length_upTo_mono chunks hjk)
      obtain ⟨rest, hrest⟩ := hstart
      rw [← hrest] at hdone
      exact hframed.fewer _ rest value consumed hdone hj
    have hjlimit := length_upTo_mono chunks hjk
    have hlt : j < chunks.length := by
      by_contra hge
      cases j with
      | zero =>
        have hnil : chunks = [] := List.length_eq_zero_iff.mp (by omega)
        rw [hnil] at hj
        have hzero : consumed ≤ 0 := hj
        omega
      | succ j =>
        have hbelow := hfirst j (by omega)
        rw [upTo_of_le (by omega)] at hbelow
        rw [upTo_of_le (by omega)] at hj
        omega
    refine ⟨_, _, (accumulate_resolved_iff _ [] chunks value _ _).mpr
      ⟨j, consumed, hlt, ?_, rfl, rfl, fun i hi => ?_⟩⟩
    · unfold limited
      rw [List.nil_append, if_neg (by omega)]
      exact hdone'
    · have hshort := hfirst i hi
      unfold limited
      rw [List.nil_append, if_neg (by omega)]
      exact hbefore (i + 1) (by omega) hshort

/-- What is left after the head is what follows it, read or not. -/
theorem Framed.remainder {value : α} {remainder : List β} {unread : List (List β)}
    (h : accumulate (limited maxBytes error attempt) [] chunks = .resolved value remainder unread) :
    ∃ consumed, attempt chunks.flatten = .done value consumed ∧
      remainder ++ unread.flatten = chunks.flatten.drop consumed := by
  obtain ⟨k, consumed, hk, hdone, hremainder, hunread, -⟩ :=
    (accumulate_resolved_iff _ [] chunks value remainder unread).mp h
  rw [List.nil_append] at hdone hremainder
  unfold limited at hdone
  split at hdone
  · cases hdone
  · have hle := hframed.consumed_le _ _ _ hdone
    refine ⟨consumed, hframed.of_start (upTo_start chunks _) hdone, ?_⟩
    have hwhole : upTo chunks (k + 1) ++ (chunks.drop (k + 1)).flatten = chunks.flatten := by
      unfold upTo
      rw [← List.flatten_append, List.take_append_drop]
    rw [hremainder, hunread, ← hwhole, List.drop_append_of_le_length hle]

omit hframed in
/-- Where the whole is refused, no split waits for ever. -/
theorem not_waiting {attempt' : List β → Attempt ε α} (hne : chunks ≠ [])
    (h : attempt' chunks.flatten ≠ .wait) : accumulate attempt' [] chunks ≠ .waiting := by
  intro hwaiting
  have hlength : 0 < chunks.length := List.length_pos_iff.mpr hne
  have hlast := (accumulate_waiting_iff attempt' [] chunks).mp hwaiting (chunks.length - 1) (by omega)
  rw [List.nil_append, upTo_of_le (by omega)] at hlast
  exact h hlast

/-- What the whole is refused for is refused in any split, whatever the limit. -/
theorem Framed.rejected_of_fail (hne : chunks ≠ []) {e : ε} (h : attempt chunks.flatten = .fail e) :
    ∃ e', accumulate (limited maxBytes error attempt) [] chunks = .rejected e' := by
  cases hreading : accumulate (limited maxBytes error attempt) [] chunks with
  | waiting =>
    refine absurd hreading (not_waiting hne ?_)
    unfold limited
    intro hwait
    split at hwait
    · cases hwait
    · rw [h] at hwait
      cases hwait
  | rejected e' => exact ⟨e', rfl⟩
  | resolved value remainder unread =>
    obtain ⟨consumed, hdone, -⟩ := hframed.remainder maxBytes error hreading
    rw [h] at hdone
    cases hdone

/-- **Refused as a whole, refused in pieces**, within the limit. -/
theorem Framed.rejected (hne : chunks ≠ []) (hlimit : chunks.flatten.length ≤ maxBytes) {e : ε}
    (h : attempt chunks.flatten = .fail e) :
    ∃ e', accumulate (limited maxBytes error attempt) [] chunks = .rejected e' := by
  cases hreading : accumulate (limited maxBytes error attempt) [] chunks with
  | waiting =>
    refine absurd hreading (not_waiting hne ?_)
    unfold limited
    rw [if_neg (by omega), h]
    intro hwait
    cases hwait
  | rejected e' => exact ⟨e', rfl⟩
  | resolved value remainder unread =>
    obtain ⟨consumed, hdone, -⟩ := hframed.remainder maxBytes error hreading
    rw [h] at hdone
    cases hdone

/-- Beyond the limit: refused in pieces unless the head is complete before the limit. -/
theorem Framed.rejected_iff (hne : chunks ≠ []) (hlimit : maxBytes < chunks.flatten.length) :
    (∃ e', accumulate (limited maxBytes error attempt) [] chunks = .rejected e') ↔
      ¬ ∃ value consumed k, attempt (upTo chunks k) = .done value consumed ∧
        (upTo chunks k).length ≤ maxBytes ∧ WaitsBefore attempt consumed chunks := by
  constructor
  · rintro ⟨e', h⟩ ⟨value, hresolves⟩
    obtain ⟨remainder, unread, hresolved⟩ :=
      (hframed.resolved_iff maxBytes error value).mpr hresolves
    rw [h] at hresolved
    cases hresolved
  · intro h
    cases hreading : accumulate (limited maxBytes error attempt) [] chunks with
    | waiting =>
      refine absurd hreading (not_waiting hne ?_)
      unfold limited
      rw [if_pos hlimit]
      intro hwait
      cases hwait
    | rejected e' => exact ⟨e', rfl⟩
    | resolved value remainder unread =>
      exact absurd ⟨value, (hframed.resolved_iff maxBytes error value).mp ⟨_, _, hreading⟩⟩ h

end Framed

section Reads

variable {attempt : List β → Attempt ε α} {IsHead : List β → α → Prop} (h : Reads attempt IsHead)
  {chunks : List (List β)} (maxBytes : Nat) (error : ε)

include h

theorem Reads.attempt_append {head : List β} {value : α} (hhead : IsHead head value) (payload : List β) :
    attempt (head ++ payload) = .done value head.length :=
  (h.done_iff _ value _).mpr ⟨head, hhead, List.prefix_append head payload, rfl⟩

/-- In one piece a head is read and the rest is left. -/
theorem Reads.accumulate_singleton {head payload : List β} {value : α} (hhead : IsHead head value)
    (hlimit : (head ++ payload).length ≤ maxBytes) :
    accumulate (limited maxBytes error attempt) [] [head ++ payload] = .resolved value payload [] := by
  unfold accumulate limited
  rw [List.nil_append, if_neg (by omega), h.attempt_append hhead payload]
  simp only []
  rw [List.drop_left]

/-- In pieces the same is read exactly when every attempt before the end of the head waits. -/
theorem Reads.resolved_iff {head payload : List β} {value : α} (hhead : IsHead head value)
    (hwhole : chunks.flatten = head ++ payload) (hlimit : (head ++ payload).length ≤ maxBytes) :
    (∃ remainder unread, accumulate (limited maxBytes error attempt) [] chunks =
        .resolved value remainder unread ∧ remainder ++ unread.flatten = payload) ↔
      WaitsBefore attempt head.length chunks := by
  have hdone : attempt chunks.flatten = .done value head.length := by
    rw [hwhole]
    exact h.attempt_append hhead payload
  constructor
  · rintro ⟨remainder, unread, hresolved, -⟩
    obtain ⟨consumed, k, hk, -, hwaits⟩ :=
      (h.framed.resolved_iff maxBytes error value).mp ⟨remainder, unread, hresolved⟩
    rw [h.framed.of_start (upTo_start chunks k) hk] at hdone
    cases hdone
    exact hwaits
  · intro hwaits
    obtain ⟨remainder, unread, hresolved⟩ := (h.framed.resolved_iff maxBytes error value).mpr
      ⟨head.length, chunks.length, by rw [upTo_of_le (Nat.le_refl _)]; exact hdone,
        by rw [upTo_of_le (Nat.le_refl _), hwhole]; exact hlimit, hwaits⟩
    obtain ⟨consumed, hconsumed, hrest⟩ := h.framed.remainder maxBytes error hresolved
    rw [hdone] at hconsumed
    cases hconsumed
    rw [hwhole, List.drop_left] at hrest
    exact ⟨remainder, unread, hresolved, hrest⟩

/-- With the head complete, the reading is over: it has the head's value, or it is refused. -/
theorem Reads.resolved_or_rejected {head payload : List β} {value : α} (hhead : IsHead head value)
    (hwhole : chunks.flatten = head ++ payload) :
    (WaitsBefore attempt head.length chunks ∧ EndsWithin chunks head.length maxBytes ∧
      ∃ remainder unread, accumulate (limited maxBytes error attempt) [] chunks =
        .resolved value remainder unread ∧ remainder ++ unread.flatten = payload) ∨
    (¬ (WaitsBefore attempt head.length chunks ∧ EndsWithin chunks head.length maxBytes) ∧
      ∃ e, accumulate (limited maxBytes error attempt) [] chunks = .rejected e) := by
  have hdone : attempt chunks.flatten = .done value head.length := by
    rw [hwhole]
    exact h.attempt_append hhead payload
  by_cases hends : WaitsBefore attempt head.length chunks ∧ EndsWithin chunks head.length maxBytes
  · left
    obtain ⟨hwaits, k, hlong, hlimit⟩ := hends
    have hstart : head <+: upTo chunks k := by
      refine List.prefix_of_prefix_length_le ?_ (upTo_start chunks k) hlong
      rw [hwhole]
      exact List.prefix_append head payload
    obtain ⟨remainder, unread, hresolved⟩ := (h.framed.resolved_iff maxBytes error value).mpr
      ⟨head.length, k, (h.done_iff _ value _).mpr ⟨head, hhead, hstart, rfl⟩, hlimit, hwaits⟩
    obtain ⟨consumed, hconsumed, hrest⟩ := h.framed.remainder maxBytes error hresolved
    rw [hdone] at hconsumed
    cases hconsumed
    rw [hwhole, List.drop_left] at hrest
    exact ⟨hwaits, ⟨k, hlong, hlimit⟩, remainder, unread, hresolved, hrest⟩
  · right
    refine ⟨hends, ?_⟩
    cases hreading : accumulate (limited maxBytes error attempt) [] chunks with
    | waiting =>
      have hne : chunks ≠ [] := by
        rintro rfl
        exact h.nonempty head value hhead (List.append_eq_nil_iff.mp hwhole.symm).1
      refine absurd hreading (not_waiting hne ?_)
      unfold limited
      intro hwait
      split at hwait
      · cases hwait
      · rw [hdone] at hwait
        cases hwait
    | rejected e => exact ⟨e, rfl⟩
    | resolved value' remainder unread =>
      obtain ⟨consumed, k, hk, hlimit, hwaits⟩ :=
        (h.framed.resolved_iff maxBytes error value').mp ⟨remainder, unread, hreading⟩
      have hle := h.framed.consumed_le _ _ _ hk
      rw [h.framed.of_start (upTo_start chunks k) hk] at hdone
      cases hdone
      exact absurd ⟨hwaits, k, hle, hlimit⟩ hends

/-- **Refused as a whole, refused in pieces**: within the limit always, beyond it unless a
head is complete at the end of a chunk within the limit. -/
theorem Reads.rejected (hne : chunks ≠ []) {e : ε}
    (hwhole : accumulate (limited maxBytes error attempt) [] [chunks.flatten] = .rejected e)
    (hlimit : chunks.flatten.length ≤ maxBytes) :
    ∃ e', accumulate (limited maxBytes error attempt) [] chunks = .rejected e' := by
  unfold accumulate limited at hwhole
  rw [List.nil_append, if_neg (by omega)] at hwhole
  cases hattempt : attempt chunks.flatten with
  | wait =>
    rw [hattempt] at hwhole
    cases hwhole
  | done value consumed =>
    rw [hattempt] at hwhole
    cases hwhole
  | fail e' => exact h.framed.rejected maxBytes error hne hlimit hattempt

theorem Reads.rejected_iff (hne : chunks ≠ []) (hlimit : maxBytes < chunks.flatten.length) :
    (∃ e', accumulate (limited maxBytes error attempt) [] chunks = .rejected e') ↔
      ¬ ∃ head value k, IsHead head value ∧ head <+: upTo chunks k ∧
        (upTo chunks k).length ≤ maxBytes ∧ WaitsBefore attempt head.length chunks := by
  rw [h.framed.rejected_iff maxBytes error hne hlimit]
  refine not_congr ⟨?_, ?_⟩
  · rintro ⟨value, consumed, k, hdone, hk, hwaits⟩
    obtain ⟨head, hhead, hstart, rfl⟩ := (h.done_iff _ value consumed).mp hdone
    exact ⟨head, value, k, hhead, hstart, hk, hwaits⟩
  · rintro ⟨head, value, k, hhead, hstart, hk, hwaits⟩
    exact ⟨value, head.length, k, (h.done_iff _ value _).mpr ⟨head, hhead, hstart, rfl⟩, hk, hwaits⟩

end Reads

end Accumulate
