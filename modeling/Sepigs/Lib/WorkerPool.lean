import Mathlib.Algebra.BigOperators.Group.List.Basic
import Mathlib.Algebra.GroupWithZero.Nat
import Mathlib.Data.List.Perm.Basic

/-!
# Workers that share an index

The jobs are numbered.  A worker that is ready takes the job at the shared index, or is done
when there is none left; what it took settles at some time with a result, which the worker then
counts.  The workers act in any order.

In every order each job is taken once and settles once (`Exact`), and a pool comes to its end
in as many steps as `work` says.
-/

namespace WorkerPool

universe u

inductive Slot (ρ : Type u) where
  | ready
  | busy (job : Nat)
  | settled (job : Nat) (result : ρ)
  | done

/-- `results` has what has settled, and `counted` what the workers have counted, in order. -/
structure Pool (ρ : Type u) where
  next : Nat
  slots : List (Slot ρ)
  results : List (Nat × ρ)
  counted : List (Nat × ρ)

inductive Label (ρ : Type u) where
  | take (worker : Nat)
  | settle (worker : Nat) (result : ρ)
  | count (worker : Nat)

variable {ρ : Type u}

namespace Slot

def busyJob : Slot ρ → Option Nat
  | .busy job => some job
  | _ => none

def settledJob : Slot ρ → Option (Nat × ρ)
  | .settled job result => some (job, result)
  | _ => none

/-- The steps a worker makes for what it has. -/
def work : Slot ρ → Nat
  | .ready => 1
  | .busy _ => 3
  | .settled _ _ => 2
  | .done => 0

end Slot

namespace Pool

def start (workers : Nat) : Pool ρ := ⟨0, List.replicate workers .ready, [], []⟩

def busy (pool : Pool ρ) : List Nat := pool.slots.filterMap Slot.busyJob

def settled (pool : Pool ρ) : List (Nat × ρ) := pool.slots.filterMap Slot.settledJob

/-- All workers are done. -/
def finished (pool : Pool ρ) : Bool :=
  pool.slots.all fun
    | .done => true
    | _ => false

def step (jobs : Nat) (pool : Pool ρ) : Label ρ → Option (Pool ρ)
  | .take worker =>
    match pool.slots[worker]? with
    | some .ready =>
      if pool.next < jobs then
        some { pool with next := pool.next + 1, slots := pool.slots.set worker (.busy pool.next) }
      else some { pool with slots := pool.slots.set worker .done }
    | _ => none
  | .settle worker result =>
    match pool.slots[worker]? with
    | some (.busy job) =>
      some { pool with
        slots := pool.slots.set worker (.settled job result)
        results := pool.results ++ [(job, result)] }
    | _ => none
  | .count worker =>
    match pool.slots[worker]? with
    | some (.settled job result) =>
      some { pool with
        slots := pool.slots.set worker .ready
        counted := pool.counted ++ [(job, result)] }
    | _ => none

/-- The steps that are left. -/
def work (jobs : Nat) (pool : Pool ρ) : Nat := 3 * (jobs - pool.next) + (pool.slots.map Slot.work).sum

end Pool

open Pool

/-- One worker's slot, and the others'. -/
theorem split_slot {slots : List (Slot ρ)} {k : Nat} {slot : Slot ρ} (h : slots[k]? = some slot) :
    ∃ before after, slots = before ++ slot :: after ∧ ∀ next, slots.set k next = before ++ next :: after := by
  obtain ⟨hk, rfl⟩ := List.getElem?_eq_some_iff.mp h
  refine ⟨slots.take k, slots.drop (k + 1), ?_, fun next => ?_⟩
  · rw [List.getElem_cons_drop, List.take_append_drop]
  · rw [List.set_eq_take_append_cons_drop, if_pos hk]

/-- What a step does to the slots. -/
theorem step_cases {jobs : Nat} {pool pool' : Pool ρ} {label : Label ρ} (h : pool.step jobs label = some pool') :
    ∃ before after,
      (∃ worker, label = .take worker ∧ pool.slots = before ++ .ready :: after ∧ pool.next < jobs ∧
        pool' = { pool with next := pool.next + 1, slots := before ++ .busy pool.next :: after }) ∨
      (∃ worker, label = .take worker ∧ pool.slots = before ++ .ready :: after ∧ jobs ≤ pool.next ∧
        pool' = { pool with slots := before ++ .done :: after }) ∨
      (∃ worker job result, label = .settle worker result ∧ pool.slots = before ++ .busy job :: after ∧
        pool' = { pool with
          slots := before ++ .settled job result :: after
          results := pool.results ++ [(job, result)] }) ∨
      (∃ worker job result, label = .count worker ∧ pool.slots = before ++ .settled job result :: after ∧
        pool' = { pool with
          slots := before ++ .ready :: after
          counted := pool.counted ++ [(job, result)] }) := by
  cases label with
  | take worker =>
    unfold step at h
    simp only [] at h
    split at h
    · next hslot =>
      obtain ⟨before, after, hslots, hset⟩ := split_slot hslot
      refine ⟨before, after, ?_⟩
      split at h
      · next hlt =>
        cases h
        exact Or.inl ⟨worker, rfl, hslots, hlt, by rw [hset]⟩
      · next hge =>
        cases h
        exact Or.inr (Or.inl ⟨worker, rfl, hslots, by omega, by rw [hset]⟩)
    · cases h
  | settle worker result =>
    unfold step at h
    simp only [] at h
    split at h
    · next job hslot =>
      obtain ⟨before, after, hslots, hset⟩ := split_slot hslot
      cases h
      exact ⟨before, after, Or.inr (Or.inr (Or.inl ⟨worker, job, result, rfl, hslots, by rw [hset]⟩))⟩
    · cases h
  | count worker =>
    unfold step at h
    simp only [] at h
    split at h
    · next job result hslot =>
      obtain ⟨before, after, hslots, hset⟩ := split_slot hslot
      cases h
      exact ⟨before, after, Or.inr (Or.inr (Or.inr ⟨worker, job, result, rfl, hslots, by rw [hset]⟩))⟩
    · cases h

/-- Taking a job moves the index, if there is one. -/
theorem step_take {jobs worker : Nat} {pool pool' : Pool ρ} (h : pool.step jobs (.take worker) = some pool') :
    (pool'.next = pool.next + 1 ∧ pool.next < jobs ∨ pool'.next = pool.next ∧ jobs ≤ pool.next) ∧
      pool'.results = pool.results ∧ pool'.counted = pool.counted := by
  obtain ⟨before, after, ⟨k, -, -, hlt, rfl⟩ | ⟨k, -, -, hge, rfl⟩ | ⟨k, job, result, hlabel, -⟩ |
    ⟨k, job, result, hlabel, -⟩⟩ := step_cases h
  · exact ⟨Or.inl ⟨rfl, hlt⟩, rfl, rfl⟩
  · exact ⟨Or.inr ⟨rfl, hge⟩, rfl, rfl⟩
  · cases hlabel
  · cases hlabel

theorem step_settle {jobs worker job : Nat} {pool pool' : Pool ρ} {result : ρ}
    (hslot : pool.slots[worker]? = some (.busy job)) (h : pool.step jobs (.settle worker result) = some pool') :
    pool'.next = pool.next ∧ pool'.results = pool.results ++ [(job, result)] ∧ pool'.counted = pool.counted := by
  unfold step at h
  simp only [hslot] at h
  cases h
  exact ⟨rfl, rfl, rfl⟩

theorem step_count {jobs worker job : Nat} {pool pool' : Pool ρ} {result : ρ}
    (hslot : pool.slots[worker]? = some (.settled job result)) (h : pool.step jobs (.count worker) = some pool') :
    pool'.next = pool.next ∧ pool'.results = pool.results ∧ pool'.counted = pool.counted ++ [(job, result)] := by
  unfold step at h
  simp only [hslot] at h
  cases h
  exact ⟨rfl, rfl, rfl⟩

theorem busy_of_settle {jobs worker : Nat} {pool pool' : Pool ρ} {result : ρ}
    (h : pool.step jobs (.settle worker result) = some pool') : ∃ job, pool.slots[worker]? = some (.busy job) := by
  unfold step at h
  simp only [] at h
  split at h
  · next job hslot => exact ⟨job, hslot⟩
  · cases h

theorem settled_of_count {jobs worker : Nat} {pool pool' : Pool ρ} (h : pool.step jobs (.count worker) = some pool') :
    ∃ job result, pool.slots[worker]? = some (.settled job result) := by
  unfold step at h
  simp only [] at h
  split at h
  · next job result hslot => exact ⟨job, result, hslot⟩
  · cases h

/-! ## Every job once -/

/-- Below the index, each job is under way or has settled, once; each result is to be counted
or has been, once. -/
structure Exact (jobs workers : Nat) (pool : Pool ρ) : Prop where
  length : pool.slots.length = workers
  next_le : pool.next ≤ jobs
  taken : (pool.busy ++ pool.results.map Prod.fst).Perm (List.range pool.next)
  counted : (pool.settled ++ pool.counted).Perm pool.results
  done : .done ∈ pool.slots → pool.next = jobs

theorem Exact.start (jobs workers : Nat) : Exact jobs workers (Pool.start workers : Pool ρ) where
  length := List.length_replicate
  next_le := Nat.zero_le _
  taken := by simp [Pool.start, busy, Slot.busyJob]
  counted := by simp [Pool.start, settled, Slot.settledJob]
  done h := by
    have hslot := List.eq_of_mem_replicate h
    cases hslot

theorem filterMap_split {α : Type*} (f : Slot ρ → Option α) (before after : List (Slot ρ)) (slot : Slot ρ) :
    (before ++ slot :: after).filterMap f = before.filterMap f ++ (f slot).toList ++ after.filterMap f := by
  rw [List.filterMap_append, List.filterMap_cons, List.append_assoc]
  cases f slot <;> rfl

/-- One item goes to the end. -/
theorem perm_move {α : Type*} (a b c : List α) (x : α) :
    (a ++ [x] ++ b ++ c).Perm (a ++ [] ++ b ++ (c ++ [x])) := by
  rw [List.append_nil, List.append_assoc, List.append_assoc, List.append_assoc, ← List.append_assoc b c [x]]
  exact List.Perm.append_left a List.perm_append_comm

/-- The other workers' slots stay. -/
theorem mem_of_mem_split {before after : List (Slot ρ)} {slot old other : Slot ρ}
    (h : other ∈ before ++ slot :: after) (hne : other ≠ slot) : other ∈ before ++ old :: after := by
  simp only [List.mem_append, List.mem_cons] at h ⊢
  rcases h with hbefore | heq | hafter
  · exact Or.inl hbefore
  · exact absurd heq hne
  · exact Or.inr (Or.inr hafter)

theorem Exact.step {jobs workers : Nat} {pool pool' : Pool ρ} {label : Label ρ} (h : Exact jobs workers pool)
    (hstep : pool.step jobs label = some pool') : Exact jobs workers pool' := by
  obtain ⟨hlength, hnext, htaken, hcounted, hdone⟩ := h
  unfold busy at htaken
  unfold settled at hcounted
  obtain ⟨before, after, ⟨worker, -, hslots, hlt, rfl⟩ | ⟨worker, -, hslots, hge, rfl⟩ |
    ⟨worker, job, result, -, hslots, rfl⟩ | ⟨worker, job, result, -, hslots, rfl⟩⟩ := step_cases hstep
  all_goals
    rw [hslots] at hlength hdone
    rw [hslots, filterMap_split] at htaken hcounted
  · refine ⟨?_, hlt, ?_, ?_, fun hmem => ?_⟩
    · simpa using hlength
    · show (List.filterMap _ (before ++ .busy pool.next :: after) ++ _).Perm (List.range (pool.next + 1))
      rw [filterMap_split, List.range_succ]
      refine (perm_move _ _ _ pool.next).trans ?_
      rw [← List.append_assoc]
      exact htaken.append_right [pool.next]
    · show (List.filterMap _ (before ++ .busy pool.next :: after) ++ _).Perm _
      rw [filterMap_split]
      exact hcounted
    · have hend := hdone (mem_of_mem_split hmem (by simp))
      omega
  · refine ⟨?_, hnext, ?_, ?_, fun _ => ?_⟩
    · simpa using hlength
    · show (List.filterMap _ (before ++ .done :: after) ++ _).Perm _
      rw [filterMap_split]
      exact htaken
    · show (List.filterMap _ (before ++ .done :: after) ++ _).Perm _
      rw [filterMap_split]
      exact hcounted
    · show pool.next = jobs
      omega
  · refine ⟨?_, hnext, ?_, ?_, fun hmem => ?_⟩
    · simpa using hlength
    · show (List.filterMap _ (before ++ .settled job result :: after) ++ _).Perm _
      rw [filterMap_split, List.map_append]
      exact (perm_move _ _ _ job).symm.trans htaken
    · show (List.filterMap _ (before ++ .settled job result :: after) ++ _).Perm (pool.results ++ _)
      rw [filterMap_split]
      refine (perm_move _ _ _ (job, result)).trans ?_
      rw [← List.append_assoc]
      exact hcounted.append_right _
    · exact hdone (mem_of_mem_split hmem (by simp))
  · refine ⟨?_, hnext, ?_, ?_, fun hmem => ?_⟩
    · simpa using hlength
    · show (List.filterMap _ (before ++ Slot.ready :: after) ++ _).Perm _
      rw [filterMap_split]
      exact htaken
    · show (List.filterMap _ (before ++ Slot.ready :: after) ++ (pool.counted ++ _)).Perm _
      rw [filterMap_split]
      exact (perm_move _ _ _ (job, result)).symm.trans hcounted
    · exact hdone (mem_of_mem_split hmem (by simp))

/-- A job that is under way is one of the jobs. -/
theorem Exact.busy_lt {jobs workers worker job : Nat} {pool : Pool ρ} (h : Exact jobs workers pool)
    (hslot : pool.slots[worker]? = some (.busy job)) : job < jobs := by
  have hbusy : job ∈ pool.busy := List.mem_filterMap.mpr ⟨_, List.mem_of_getElem? hslot, rfl⟩
  have htaken := h.taken.mem_iff.mp (List.mem_append_left _ hbusy)
  exact Nat.lt_of_lt_of_le (List.mem_range.mp htaken) h.next_le

theorem Exact.busy_le {jobs workers : Nat} {pool : Pool ρ} (h : Exact jobs workers pool) :
    pool.busy.length ≤ workers := by
  rw [← h.length]
  exact List.length_filterMap_le _ _

theorem finished_iff {pool : Pool ρ} : pool.finished = true ↔ ∀ slot ∈ pool.slots, slot = .done := by
  unfold finished
  rw [List.all_eq_true]
  constructor
  · intro h slot hslot
    have hdone := h slot hslot
    cases slot with
    | done => rfl
    | ready => cases hdone
    | busy job => cases hdone
    | settled job result => cases hdone
  · intro h slot hslot
    rw [h slot hslot]

theorem finished_filterMap {α : Type*} {pool : Pool ρ} (h : pool.finished = true) {f : Slot ρ → Option α}
    (hf : f .done = none) : pool.slots.filterMap f = [] := by
  rw [List.filterMap_eq_nil_iff]
  intro slot hslot
  rw [finished_iff.mp h slot hslot, hf]

/-- **A pool that has come to its end** has settled every job once, and counted every result. -/
theorem Exact.finished {jobs workers : Nat} {pool : Pool ρ} (h : Exact jobs workers pool)
    (hworkers : jobs = 0 ∨ 0 < workers) (hfinished : pool.finished = true) :
    pool.next = jobs ∧ (pool.results.map Prod.fst).Perm (List.range jobs) ∧ pool.counted.Perm pool.results := by
  have hall := finished_iff.mp hfinished
  have hnext : pool.next = jobs := by
    rcases hworkers with hzero | hpos
    · have hle := h.next_le
      omega
    · have hlength := h.length
      obtain ⟨slot, hslot⟩ := List.exists_mem_of_length_pos (show 0 < pool.slots.length by omega)
      rw [hall slot hslot] at hslot
      exact h.done hslot
  have htaken := h.taken
  have hcounted := h.counted
  unfold busy at htaken
  unfold settled at hcounted
  rw [finished_filterMap hfinished rfl, List.nil_append] at htaken
  rw [finished_filterMap hfinished rfl, List.nil_append] at hcounted
  rw [hnext] at htaken
  exact ⟨hnext, htaken, hcounted⟩

/-! ## Progress -/

theorem step_work {jobs : Nat} {pool pool' : Pool ρ} {label : Label ρ} (hstep : pool.step jobs label = some pool') :
    pool'.work jobs + 1 = pool.work jobs := by
  obtain ⟨before, after, ⟨worker, -, hslots, hlt, rfl⟩ | ⟨worker, -, hslots, hge, rfl⟩ |
    ⟨worker, job, result, -, hslots, rfl⟩ | ⟨worker, job, result, -, hslots, rfl⟩⟩ := step_cases hstep
  all_goals
    unfold work
    rw [hslots]
    simp only [List.map_append, List.map_cons, List.sum_append, List.sum_cons, Slot.work]
    omega

theorem start_work (jobs workers : Nat) : (Pool.start workers : Pool ρ).work jobs = 3 * jobs + workers := by
  unfold work Pool.start
  rw [List.map_replicate, List.sum_replicate_nat]
  simp only [Slot.work]
  omega

/-- A pool that has not come to its end makes a step. -/
theorem exists_step (jobs : Nat) {pool : Pool ρ} (result : ρ) (h : pool.finished = false) :
    ∃ label pool', pool.step jobs label = some pool' := by
  have hslot : ∃ slot ∈ pool.slots, slot ≠ .done := by
    by_contra hnone
    have hall : pool.finished = true := by
      rw [finished_iff]
      intro slot hslot
      by_contra hne
      exact hnone ⟨slot, hslot, hne⟩
    rw [h] at hall
    cases hall
  obtain ⟨slot, hmem, hne⟩ := hslot
  obtain ⟨k, hk⟩ := List.mem_iff_getElem?.mp hmem
  cases slot with
  | done => exact absurd rfl hne
  | ready =>
    refine ⟨.take k, ?_⟩
    unfold step
    simp only [hk]
    split
    · exact ⟨_, rfl⟩
    · exact ⟨_, rfl⟩
  | busy job =>
    refine ⟨.settle k result, ?_⟩
    unfold step
    simp only [hk]
    exact ⟨_, rfl⟩
  | settled job other =>
    refine ⟨.count k, ?_⟩
    unfold step
    simp only [hk]
    exact ⟨_, rfl⟩

end WorkerPool
