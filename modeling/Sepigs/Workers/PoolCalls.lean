import Sepigs.Workers.WorkerPool
import Mathlib.Logic.Relation

/-!
# What the callers of the worker pool see

To its callers the pool is a list of calls, each with a task and, once it has settled, its
reply.  `TaskStep` says what may become of them: a call is made, a call gets the result of its
own task, or it is rejected.  `pool_refines`: every step of the pool, its timers and its threads
is a run of such steps, however messages are delayed or lost.
-/

namespace Sepigs

/-- A call as its caller sees it. -/
structure TaskCall where
  task : WorkerTask
  reply : Option (Except String WorkerTaskResult)

inductive TaskStep (digest : String → String) : List TaskCall → List TaskCall → Prop
  | run {calls : List TaskCall} (task : WorkerTask) : TaskStep digest calls (calls ++ [⟨task, none⟩])
  | resolve {calls : List TaskCall} {call : Nat} {task : WorkerTask}
    (hcall : calls[call]? = some ⟨task, none⟩) :
    TaskStep digest calls (calls.set call ⟨task, some (.ok (runTask digest task))⟩)
  | reject {calls : List TaskCall} {call : Nat} {task : WorkerTask} (error : String)
    (hcall : calls[call]? = some ⟨task, none⟩) :
    TaskStep digest calls (calls.set call ⟨task, some (.error error)⟩)

abbrev TaskRuns (digest : String → String) : List TaskCall → List TaskCall → Prop :=
  Relation.ReflTransGen (TaskStep digest)

section TaskRuns

variable {digest : String → String} {calls calls' : List TaskCall}

theorem TaskStep.kept (h : TaskStep digest calls calls') {call : Nat} {x : TaskCall}
    (hcall : calls[call]? = some x) :
    ∃ x', calls'[call]? = some x' ∧ x'.task = x.task ∧ (x.reply.isSome → x' = x) := by
  have hlt := (List.getElem?_eq_some_iff.mp hcall).1
  have hset : ∀ {k : Nat} {task : WorkerTask} {reply : Except String WorkerTaskResult},
      calls[k]? = some ⟨task, none⟩ →
      ∃ x', (calls.set k ⟨task, some reply⟩)[call]? = some x' ∧ x'.task = x.task ∧
        (x.reply.isSome → x' = x) := by
    intro k task reply hk
    by_cases heq : k = call
    · subst heq
      rw [List.getElem?_set_self hlt]
      cases hcall.symm.trans hk
      exact ⟨_, rfl, rfl, fun hsome => by cases hsome⟩
    · rw [List.getElem?_set_ne heq]
      exact ⟨x, hcall, rfl, fun _ => rfl⟩
  cases h with
  | run task =>
    refine ⟨x, ?_, rfl, fun _ => rfl⟩
    rw [List.getElem?_append_left hlt]
    exact hcall
  | resolve hk => exact hset hk
  | reject error hk => exact hset hk

/-- A call that has settled stays so. -/
theorem TaskRuns.settled (h : TaskRuns digest calls calls') {call : Nat} {task : WorkerTask}
    {reply : Except String WorkerTaskResult} (hcall : calls[call]? = some ⟨task, some reply⟩) :
    calls'[call]? = some ⟨task, some reply⟩ := by
  induction h with
  | refl => exact hcall
  | tail _ hstep ih =>
    obtain ⟨x, hx, -, heq⟩ := hstep.kept ih
    rw [hx, heq rfl]

/-- A call that has resolved has the result of its own task. -/
def Correct (digest : String → String) (calls : List TaskCall) : Prop :=
  ∀ call ∈ calls, ∀ result, call.reply = some (.ok result) → result = runTask digest call.task

theorem TaskRuns.correct (h : TaskRuns digest calls calls') (hcorrect : Correct digest calls) :
    Correct digest calls' := by
  induction h with
  | refl => exact hcorrect
  | tail _ hstep ih =>
    intro x hx result hresult
    cases hstep with
    | run task =>
      rcases List.mem_append.mp hx with hx | hx
      · exact ih x hx result hresult
      · rw [List.mem_singleton.mp hx] at hresult
        cases hresult
    | resolve hk =>
      rcases List.mem_or_eq_of_mem_set hx with hx | rfl
      · exact ih x hx result hresult
      · cases hresult
        rfl
    | reject error hk =>
      rcases List.mem_or_eq_of_mem_set hx with hx | rfl
      · exact ih x hx result hresult
      · cases hresult

end TaskRuns

/-! ## The pool's calls -/

def WorkerCall.view (call : WorkerCall) : TaskCall :=
  ⟨call.task, match call.state with
    | .settled reply => some reply
    | _ => none⟩

namespace PoolSystem

variable {digest : String → String} {s t : PoolSystem}

def view (s : PoolSystem) : List TaskCall := s.calls.map WorkerCall.view

/-- A task was sent under the number `id`, for the call that awaits it if one does. -/
def Asked (s : PoolSystem) (id : Nat) (task : WorkerTask) : Prop :=
  id < s.pool.nextTaskId ∧ ∀ call, (id, call) ∈ s.pool.pending.entries →
    ∃ state, s.calls[call]? = some ⟨task, state⟩

/-- The messages on their way are requests, and the answers to such. -/
structure Carries (digest : String → String) (s : PoolSystem) (thread : WorkerThread) : Prop where
  inbox : ∀ message ∈ thread.inbox, ∃ (id : Nat) (task : WorkerTask), message = WorkerRequest.json ⟨id, task⟩ ∧
    s.Asked id task
  outbox : ∀ message ∈ thread.outbox, ∃ (id : Nat) (task : WorkerTask),
    message = workerEntry digest (WorkerRequest.json ⟨id, task⟩) ∧ s.Asked id task

/-- The tasks that are pending, the calls that await one and the armed timers are the same. -/
structure Accounted (s : PoolSystem) : Prop where
  waiting : ∀ id call, (id, call) ∈ s.pool.pending.entries ↔
    ∃ task, s.calls[call]? = some ⟨task, .waiting id⟩
  timers : ∀ timer, timer ∈ s.timers ↔ timer ∈ s.pool.pending.entries

structure Served (digest : String → String) (s : PoolSystem) : Prop where
  accounted : s.Accounted
  nodup : s.timers.Nodup
  fresh : ∀ id call, (id, call) ∈ s.pool.pending.entries → id < s.pool.nextTaskId
  carries : ∀ thread ∈ s.threads, s.Carries digest thread

/-- Nothing is asked under an old number again, and calls keep their tasks. -/
structure Later (s t : PoolSystem) : Prop where
  next : s.pool.nextTaskId ≤ t.pool.nextTaskId
  pending : ∀ id call, id < s.pool.nextTaskId → (id, call) ∈ t.pool.pending.entries →
    (id, call) ∈ s.pool.pending.entries
  tasks : ∀ (call : Nat) (task : WorkerTask) (state : WorkerCallState),
    s.calls[call]? = some ⟨task, state⟩ → ∃ state', t.calls[call]? = some ⟨task, state'⟩

theorem Asked.later {id : Nat} {task : WorkerTask} (h : s.Asked id task) (hlater : Later s t) :
    t.Asked id task := by
  refine ⟨Nat.lt_of_lt_of_le h.1 hlater.next, fun call hcall => ?_⟩
  obtain ⟨state, hstate⟩ := h.2 call (hlater.pending id call h.1 hcall)
  exact hlater.tasks call task state hstate

theorem Carries.later {thread : WorkerThread} (h : s.Carries digest thread) (hlater : Later s t) :
    t.Carries digest thread where
  inbox message hmem := by
    obtain ⟨id, task, heq, hasked⟩ := h.inbox message hmem
    exact ⟨id, task, heq, hasked.later hlater⟩
  outbox message hmem := by
    obtain ⟨id, task, heq, hasked⟩ := h.outbox message hmem
    exact ⟨id, task, heq, hasked.later hlater⟩

/-! ## Settling -/

section Settle

variable {call : Nat} {reply : Except String WorkerTaskResult}

theorem getElem?_settle (s : PoolSystem) (call k : Nat) (reply : Except String WorkerTaskResult) :
    (s.settle call reply).calls[k]? =
      if k = call then s.calls[k]?.map (WorkerCall.settle reply) else s.calls[k]? := by
  show (s.calls.modify call (WorkerCall.settle reply))[k]? = _
  rw [List.getElem?_modify]
  by_cases hk : k = call
  · subst hk
    simp
  · simp [hk, Ne.symm hk]

theorem settle_task (reply : Except String WorkerTaskResult) (task : WorkerTask)
    (state : WorkerCallState) : ∃ state', WorkerCall.settle reply ⟨task, state⟩ = ⟨task, state'⟩ := by
  cases state with
  | settled r => exact ⟨_, rfl⟩
  | starting => exact ⟨_, rfl⟩
  | waiting id => exact ⟨_, rfl⟩

theorem settle_not_waiting (reply : Except String WorkerTaskResult) (x : WorkerCall) (task : WorkerTask)
    (id : Nat) : x.settle reply ≠ ⟨task, .waiting id⟩ := by
  unfold WorkerCall.settle
  split
  · next h =>
    rintro rfl
    cases h
  · intro heq
    cases heq

/-- What the callers see when a promise is resolved or rejected. -/
theorem settle_runs (s : PoolSystem)
    (h : ∀ x result, s.calls[call]? = some x → reply = .ok result →
      result = runTask digest x.task) :
    TaskRuns digest s.view (s.settle call reply).view := by
  have hview : (s.settle call reply).view =
      (s.calls.modify call (WorkerCall.settle reply)).map WorkerCall.view := rfl
  cases hx : s.calls[call]? with
  | none =>
    have hsame : s.calls.modify call (WorkerCall.settle reply) = s.calls := by
      refine List.ext_getElem? fun k => ?_
      have hk := getElem?_settle s call k reply
      by_cases heq : k = call
      · subst heq
        rw [if_pos rfl, hx] at hk
        rw [hx]
        exact hk
      · rw [if_neg heq] at hk
        exact hk
    rw [hview, hsame]
    exact .refl
  | some x =>
    have hset : s.calls.modify call (WorkerCall.settle reply) = s.calls.set call (x.settle reply) := by
      refine List.ext_getElem? fun k => ?_
      have hk := getElem?_settle s call k reply
      by_cases heq : k = call
      · subst heq
        rw [if_pos rfl, hx] at hk
        rw [List.getElem?_set_self (List.getElem?_eq_some_iff.mp hx).1]
        exact hk
      · rw [if_neg heq] at hk
        rw [List.getElem?_set_ne (Ne.symm heq)]
        exact hk
    rw [hview, hset, List.map_set]
    have hviewed : s.view[call]? = some x.view := by
      show (s.calls.map WorkerCall.view)[call]? = _
      rw [List.getElem?_map, hx]
      rfl
    obtain ⟨task, state⟩ := x
    have hopen : (∀ r, state ≠ .settled r) →
        TaskRuns digest s.view (s.view.set call ⟨task, some reply⟩) := by
      intro hstate
      have hviewed : s.view[call]? = some ⟨task, none⟩ := by
        rw [hviewed]
        cases state with
        | settled r => exact absurd rfl (hstate r)
        | _ => rfl
      cases reply with
      | ok result =>
        obtain rfl := h _ result hx rfl
        exact .single (.resolve hviewed)
      | error error => exact .single (.reject error hviewed)
    cases state with
    | settled r =>
      obtain ⟨hlt, hget⟩ := List.getElem?_eq_some_iff.mp hviewed
      have hsame : s.view.set call (WorkerCall.view ⟨task, .settled r⟩) = s.view := by
        rw [← hget]
        exact List.set_getElem_self hlt
      show TaskRuns digest s.view (s.view.set call (WorkerCall.view ⟨task, .settled r⟩))
      rw [hsame]
    | starting => exact hopen fun r heq => by cases heq
    | waiting id => exact hopen fun r heq => by cases heq

end Settle

/-! ## Steps -/

/-- Only threads change, and they carry what they may. -/
theorem Served.same (h : Served digest s) (hcalls : t.calls = s.calls)
    (hpending : t.pool.pending = s.pool.pending) (hnext : t.pool.nextTaskId = s.pool.nextTaskId)
    (htimers : t.timers = s.timers) (hcarries : ∀ thread ∈ t.threads, s.Carries digest thread) :
    Served digest t := by
  have hlater : Later s t := by
    refine ⟨by rw [hnext], fun id call _ hmem => by rwa [hpending] at hmem, ?_⟩
    intro call task state hcall
    exact ⟨state, by rw [hcalls]; exact hcall⟩
  refine ⟨⟨fun id call => ?_, fun timer => ?_⟩, ?_, fun id call hmem => ?_, fun thread hmem => ?_⟩
  · rw [hpending, hcalls]
    exact h.accounted.waiting id call
  · rw [htimers, hpending]
    exact h.accounted.timers timer
  · rw [htimers]
    exact h.nodup
  · rw [hnext]
    rw [hpending] at hmem
    exact h.fresh id call hmem
  · exact (hcarries thread hmem).later hlater

/-- The call of a task is one. -/
theorem pending_unique {id call call' : Nat} (h : (id, call) ∈ s.pool.pending.entries)
    (h' : (id, call') ∈ s.pool.pending.entries) : call = call' := by
  have hget := (s.pool.pending.get_eq_some_iff id call).mpr h
  have hget' := (s.pool.pending.get_eq_some_iff id call').mpr h'
  exact Option.some.inj (hget.symm.trans hget')

theorem settle_later (s : PoolSystem) (call : Nat) (reply : Except String WorkerTaskResult) :
    ∀ (k : Nat) (task : WorkerTask) (state : WorkerCallState), s.calls[k]? = some ⟨task, state⟩ →
      ∃ state', (s.settle call reply).calls[k]? = some ⟨task, state'⟩ := by
  intro k task state hk
  rw [getElem?_settle, hk]
  split
  · obtain ⟨state', hstate'⟩ := settle_task reply task state
    exact ⟨state', congrArg some hstate'⟩
  · exact ⟨state, rfl⟩

theorem waiting_settle (s : PoolSystem) (call k id : Nat) (reply : Except String WorkerTaskResult) :
    (∃ task, (s.settle call reply).calls[k]? = some ⟨task, .waiting id⟩) ↔
      k ≠ call ∧ ∃ task, s.calls[k]? = some ⟨task, .waiting id⟩ := by
  rw [getElem?_settle]
  by_cases hk : k = call
  · refine ⟨fun ⟨task, htask⟩ => ?_, fun h => absurd hk h.1⟩
    rw [if_pos hk] at htask
    obtain ⟨x, -, hx⟩ := Option.map_eq_some_iff.mp htask
    exact absurd hx (settle_not_waiting reply x task id)
  · rw [if_neg hk]
    exact ⟨fun h => ⟨hk, h⟩, fun h => h.2⟩

/-- A pending task is over, and its call settles. -/
theorem Served.forget (h : Served digest s) {id call : Nat}
    (hmem : (id, call) ∈ s.pool.pending.entries) (reply : Except String WorkerTaskResult) :
    Served digest ((s.forget id call).settle call reply) := by
  have hdelete : ∀ id' call', (id', call') ∈ (s.pool.pending.delete id).entries ↔
      call' ≠ call ∧ (id', call') ∈ s.pool.pending.entries := by
    intro id' call'
    rw [JsMap.mem_entries_delete]
    refine and_congr_left fun hmem' => not_congr ⟨?_, ?_⟩
    · rintro rfl
      exact pending_unique hmem' hmem
    · rintro rfl
      obtain ⟨task, htask⟩ := (h.accounted.waiting id call').mp hmem
      obtain ⟨task', htask'⟩ := (h.accounted.waiting id' call').mp hmem'
      cases htask.symm.trans htask'
      rfl
  have hlater : Later s ((s.forget id call).settle call reply) :=
    ⟨Nat.le_refl _, fun id' call' _ hmem' => ((hdelete id' call').mp hmem').2,
      settle_later (s.forget id call) call reply⟩
  refine ⟨⟨fun id' call' => ?_, fun timer => ?_⟩, h.nodup.erase _, fun id' call' hmem' => ?_,
    fun thread hthread => (h.carries thread hthread).later hlater⟩
  · rw [waiting_settle]
    show (id', call') ∈ (s.pool.pending.delete id).entries ↔
      call' ≠ call ∧ ∃ task, s.calls[call']? = some ⟨task, .waiting id'⟩
    rw [hdelete, h.accounted.waiting]
  · obtain ⟨id', call'⟩ := timer
    show (id', call') ∈ s.timers.erase (id, call) ↔ (id', call') ∈ (s.pool.pending.delete id).entries
    rw [h.nodup.mem_erase_iff, h.accounted.timers, JsMap.mem_entries_delete]
    refine and_congr_left fun hmem' => not_congr ⟨fun heq => (Prod.mk.inj heq).1, ?_⟩
    rintro rfl
    rw [pending_unique hmem' hmem]
  · exact h.fresh id' call' ((hdelete id' call').mp hmem').2

/-- A call that awaits nothing settles. -/
theorem Served.settle (h : Served digest s) {call : Nat}
    (hcall : ∀ id, (id, call) ∉ s.pool.pending.entries) (reply : Except String WorkerTaskResult) :
    Served digest (s.settle call reply) := by
  have hlater : Later s (s.settle call reply) :=
    ⟨Nat.le_refl _, fun _ _ _ hmem => hmem, settle_later s call reply⟩
  refine ⟨⟨fun id k => ?_, h.accounted.timers⟩, h.nodup, h.fresh,
    fun thread hthread => (h.carries thread hthread).later hlater⟩
  rw [waiting_settle, ← h.accounted.waiting]
  refine ⟨fun hmem => ⟨?_, hmem⟩, fun hmem => hmem.2⟩
  rintro rfl
  exact hcall id hmem

theorem Served.not_pending {call : Nat} {x : WorkerCall} (h : Served digest s)
    (hcall : s.calls[call]? = some x)
    (hx : ∀ id, x.state ≠ .waiting id) (id : Nat) : (id, call) ∉ s.pool.pending.entries := by
  intro hmem
  obtain ⟨task, htask⟩ := (h.accounted.waiting id call).mp hmem
  cases hcall.symm.trans htask
  exact hx id rfl

/-! ## The methods -/

theorem served_start (h : Served digest s) : Served digest s.start ∧ s.start.view = s.view := by
  unfold start
  split
  · exact ⟨h, rfl⟩
  · refine ⟨h.same rfl rfl rfl rfl fun thread hthread => ?_, rfl⟩
    rcases List.mem_append.mp hthread with hthread | hthread
    · exact h.carries thread hthread
    · rw [List.eq_of_mem_replicate hthread]
      exact ⟨fun _ hmem => (by cases hmem), fun _ hmem => (by cases hmem)⟩

/-- A call is made that awaits nothing yet. -/
theorem served_addCall (h : Served digest s) {x : WorkerCall} (hx : ∀ id, x.state ≠ .waiting id) :
    Served digest (s.addCall x) := by
  have hlater : Later s (s.addCall x) := by
    refine ⟨Nat.le_refl _, fun _ _ _ hmem => hmem, fun call task state hcall => ⟨state, ?_⟩⟩
    show (s.calls ++ [x])[call]? = _
    rw [List.getElem?_append_left (List.getElem?_eq_some_iff.mp hcall).1]
    exact hcall
  refine ⟨⟨fun id call => ?_, h.accounted.timers⟩, h.nodup, h.fresh,
    fun thread hthread => (h.carries thread hthread).later hlater⟩
  refine (h.accounted.waiting id call).trans (exists_congr fun task => ?_)
  show s.calls[call]? = _ ↔ (s.calls ++ [x])[call]? = _
  by_cases hlt : call < s.calls.length
  · rw [List.getElem?_append_left hlt]
  · rw [List.getElem?_append_right (Nat.le_of_not_lt hlt), List.getElem?_eq_none (Nat.le_of_not_lt hlt)]
    refine ⟨fun heq => (by cases heq), fun heq => ?_⟩
    obtain rfl := List.mem_singleton.mp (List.mem_of_getElem? heq)
    exact absurd rfl (hx id)

/-- A call that awaits nothing gets a task of its own number. -/
theorem served_register (h : Served digest s) {call : Nat} {task : WorkerTask}
    (hcall : s.calls[call]? = some ⟨task, .starting⟩) :
    Served digest (s.register call task) ∧ (s.register call task).Asked s.pool.nextTaskId task ∧
      (s.register call task).view = s.view := by
  have hnot : ∀ id, (id, call) ∉ s.pool.pending.entries :=
    h.not_pending hcall fun id heq => by cases heq
  have hfresh : ∀ call', (s.pool.nextTaskId, call') ∉ s.pool.pending.entries :=
    fun call' hmem => Nat.lt_irrefl _ (h.fresh _ _ hmem)
  have hlt := (List.getElem?_eq_some_iff.mp hcall).1
  have hself : (s.register call task).calls[call]? = some ⟨task, .waiting s.pool.nextTaskId⟩ :=
    List.getElem?_set_self hlt
  have hother : ∀ k, k ≠ call → (s.register call task).calls[k]? = s.calls[k]? :=
    fun k hk => List.getElem?_set_ne (Ne.symm hk)
  have hpending : ∀ id call', (id, call') ∈ (s.register call task).pool.pending.entries ↔
      id = s.pool.nextTaskId ∧ call' = call ∨ (id, call') ∈ s.pool.pending.entries := by
    intro id call'
    refine (JsMap.mem_entries_set ..).trans (or_congr_right ⟨fun hmem => hmem.2, fun hmem => ⟨?_, hmem⟩⟩)
    rintro rfl
    exact hfresh call' hmem
  have hlater : Later s (s.register call task) := by
    refine ⟨Nat.le_succ _, fun id call' hid hmem => ?_, fun k task' state hk => ?_⟩
    · rcases (hpending id call').mp hmem with ⟨rfl, -⟩ | hmem
      · exact absurd hid (Nat.lt_irrefl _)
      · exact hmem
    · by_cases heq : k = call
      · subst heq
        cases hcall.symm.trans hk
        exact ⟨_, hself⟩
      · rw [hother k heq]
        exact ⟨state, hk⟩
  refine ⟨⟨⟨fun id k => ?_, fun timer => ?_⟩, ?_, fun id k hmem => ?_, fun thread hthread =>
    (h.carries thread hthread).later hlater⟩, ⟨Nat.lt_succ_self _, fun k hmem => ?_⟩, ?_⟩
  · rw [hpending]
    by_cases heq : k = call
    · subst heq
      rw [hself]
      constructor
      · rintro (⟨rfl, -⟩ | hmem)
        · exact ⟨task, rfl⟩
        · exact absurd hmem (hnot id)
      · rintro ⟨task', htask'⟩
        cases htask'
        exact .inl ⟨rfl, rfl⟩
    · rw [hother k heq, ← h.accounted.waiting]
      exact ⟨fun hmem => hmem.resolve_left fun hself => heq hself.2, .inr⟩
  · obtain ⟨id, k⟩ := timer
    rw [hpending]
    show (id, k) ∈ s.timers ++ [(s.pool.nextTaskId, call)] ↔ _
    rw [List.mem_append, List.mem_singleton, h.accounted.timers, Prod.mk.injEq, or_comm]
  · show (s.timers ++ [(s.pool.nextTaskId, call)]).Nodup
    refine h.nodup.append (List.nodup_singleton _) fun timer hmem htimer => ?_
    rw [List.mem_singleton.mp htimer] at hmem
    exact hfresh call ((h.accounted.timers _).mp hmem)
  · rcases (hpending id k).mp hmem with ⟨rfl, -⟩ | hmem
    · exact Nat.lt_succ_self _
    · exact Nat.lt_succ_of_lt (h.fresh id k hmem)
  · rcases (hpending _ k).mp hmem with ⟨-, rfl⟩ | hmem
    · exact ⟨_, hself⟩
    · exact absurd hmem (hfresh k)
  · show (s.calls.set call ⟨task, .waiting s.pool.nextTaskId⟩).map WorkerCall.view = s.calls.map
      WorkerCall.view
    obtain ⟨_, hget⟩ := List.getElem?_eq_some_iff.mp hcall
    have hviewed : WorkerCall.view ⟨task, .waiting s.pool.nextTaskId⟩ = WorkerCall.view s.calls[call] := by
      rw [hget]
      rfl
    rw [List.map_set, hviewed, ← List.map_set, List.set_getElem_self hlt]

theorem served_postMessage (h : Served digest s) {id : Nat} {task : WorkerTask}
    (hasked : s.Asked id task) (worker : Nat) :
    Served digest (s.postMessage worker (WorkerRequest.json ⟨id, task⟩)) := by
  refine h.same rfl rfl rfl rfl fun thread hthread => ?_
  obtain ⟨k, hk⟩ := List.mem_iff_getElem?.mp hthread
  have hk : (s.threads.modify worker _)[k]? = some thread := hk
  rw [List.getElem?_modify] at hk
  obtain ⟨old, hold, rfl⟩ := Option.map_eq_some_iff.mp hk
  have hcarries := h.carries old (List.mem_of_getElem? hold)
  split
  · split
    · refine ⟨fun message hmem => ?_, hcarries.outbox⟩
      rcases List.mem_append.mp hmem with hmem | hmem
      · exact hcarries.inbox message hmem
      · exact ⟨id, task, List.mem_singleton.mp hmem, hasked⟩
    · exact hcarries
  · exact hcarries

/-- `run` from `pickWorker` on, for a call that awaits nothing. -/
theorem served_submit (h : Served digest s) {call : Nat} {task : WorkerTask}
    (hcall : s.calls[call]? = some ⟨task, .starting⟩) :
    Served digest (s.submit call task) ∧ TaskRuns digest s.view (s.submit call task).view := by
  unfold submit
  split
  · exact ⟨h.settle (h.not_pending hcall fun id heq => by cases heq) _,
      settle_runs s fun _ _ _ heq => by cases heq⟩
  · next worker hworker =>
    obtain ⟨hserved, hasked, hview⟩ := served_register h hcall
    refine ⟨served_postMessage hserved hasked worker, ?_⟩
    show TaskRuns digest s.view (s.register call task).view
    rw [hview]

theorem addCall_view (x : WorkerCall) : (s.addCall x).view = s.view ++ [x.view] := by
  show (s.calls ++ [x]).map WorkerCall.view = _
  rw [List.map_append]
  rfl

theorem served_run (h : Served digest s) (task : WorkerTask) :
    Served digest (s.run task) ∧ TaskRuns digest s.view (s.run task).view := by
  have hstarting : ∀ {t : PoolSystem}, Served digest t →
      Served digest (t.addCall ⟨task, .starting⟩) ∧
        TaskRuns digest t.view (t.addCall ⟨task, .starting⟩).view := by
    intro t ht
    refine ⟨served_addCall ht fun id heq => (by cases heq), ?_⟩
    rw [addCall_view]
    exact .single (.run task)
  unfold run
  split
  · refine ⟨served_addCall h fun id heq => (by cases heq), ?_⟩
    rw [addCall_view]
    refine .tail (.single (.run task)) ?_
    have hlast : (s.view ++ [⟨task, none⟩])[s.view.length]? = some ⟨task, none⟩ := by simp
    have hstep := @TaskStep.reject digest _ _ _ "worker pool is disabled" hlast
    rw [List.set_append_right _ _ (Nat.le_refl _), Nat.sub_self] at hstep
    exact hstep
  · split
    · obtain ⟨hserved, hview⟩ := served_start h
      rw [← hview]
      exact hstarting hserved
    · obtain ⟨hserved, hruns⟩ := hstarting h
      have hcall : (s.addCall ⟨task, .starting⟩).calls[s.calls.length]? = some ⟨task, .starting⟩ := by
        show (s.calls ++ [_])[s.calls.length]? = _
        simp
      obtain ⟨hserved', hruns'⟩ := served_submit hserved hcall
      exact ⟨hserved', hruns.trans hruns'⟩

/-- The calls of a list are rejected. -/
theorem rejectAll_spec (digest : String → String) (error : String) (calls : List Nat) : ∀ s : PoolSystem,
    (s.rejectAll error calls).pool = s.pool ∧ (s.rejectAll error calls).timers = s.timers ∧
      (s.rejectAll error calls).threads = s.threads ∧
      TaskRuns digest s.view (s.rejectAll error calls).view ∧
      (∀ (k : Nat) (task : WorkerTask) (state : WorkerCallState), s.calls[k]? = some ⟨task, state⟩ →
        ∃ state', (s.rejectAll error calls).calls[k]? = some ⟨task, state'⟩) ∧
      ∀ k id, (∃ task, (s.rejectAll error calls).calls[k]? = some ⟨task, .waiting id⟩) ↔
        k ∉ calls ∧ ∃ task, s.calls[k]? = some ⟨task, .waiting id⟩ := by
  induction calls with
  | nil => exact fun s => ⟨rfl, rfl, rfl, .refl, fun _ _ state h => ⟨state, h⟩, fun _ _ => by simp [rejectAll]⟩
  | cons call calls ih =>
    intro s
    obtain ⟨hpool, htimers, hthreads, hruns, htasks, hwaiting⟩ := ih (s.settle call (.error error))
    refine ⟨hpool, htimers, hthreads, .trans (settle_runs s fun _ _ _ heq => by cases heq) hruns,
      fun k task state hk => ?_, fun k id => ?_⟩
    · obtain ⟨state', hk'⟩ := settle_later s call (.error error) k task state hk
      exact htasks k task state' hk'
    · refine (hwaiting k id).trans ?_
      rw [waiting_settle, List.mem_cons, not_or, ← and_assoc, and_comm (a := k ∉ calls)]

theorem served_stop (h : Served digest s) :
    Served digest s.stop ∧ TaskRuns digest s.view s.stop.view := by
  obtain ⟨hpool, htimers, hthreads, hruns, htasks, hwaiting⟩ :=
    rejectAll_spec digest "worker pool stopped" s.pool.pending.values s
  have htimer : ∀ timer, timer ∉ s.stop.timers := by
    intro timer hmem
    have hmem : timer ∈ (s.rejectAll "worker pool stopped" s.pool.pending.values).timers.filter
      fun timer => !(s.rejectAll "worker pool stopped"
        s.pool.pending.values).pool.pending.entries.contains timer := hmem
    rw [htimers, hpool, List.mem_filter, h.accounted.timers] at hmem
    simp [hmem.1] at hmem
  have hlater : Later s s.stop := by
    refine ⟨?_, fun id call _ hmem => (by cases hmem), htasks⟩
    show _ ≤ (s.rejectAll _ _).pool.nextTaskId
    rw [hpool]
  refine ⟨⟨⟨fun id call => ?_, fun timer => ?_⟩, ?_, fun id call hmem => (by cases hmem),
    fun thread hthread => ?_⟩, hruns⟩
  · refine ⟨fun hmem => (by cases hmem), fun hcall => ?_⟩
    obtain ⟨hnot, hcall⟩ := (hwaiting call id).mp hcall
    have hmem := (h.accounted.waiting id call).mpr hcall
    exact absurd (List.mem_map_of_mem hmem) hnot
  · exact ⟨fun hmem => absurd hmem (htimer timer), fun hmem => by cases hmem⟩
  · rw [List.eq_nil_iff_forall_not_mem.mpr htimer]
    exact List.nodup_nil
  · have hthread : thread ∈ (s.rejectAll _ _).threads := hthread
    rw [hthreads] at hthread
    exact (h.carries thread hthread).later hlater

/-! ## Messages and timers -/

theorem served_timeout (h : Served digest s) {id call : Nat} (hmem : (id, call) ∈ s.timers) :
    Served digest (s.timeout id call) ∧ TaskRuns digest s.view (s.timeout id call).view := by
  have hpending := (h.accounted.timers _).mp hmem
  refine ⟨h.forget hpending _, ?_⟩
  exact settle_runs (s.forget id call) fun _ _ _ heq => by cases heq

/-- An answer reaches the call that asked, if it still waits. -/
theorem served_handleMessage (h : Served digest s) {id : Nat} {task : WorkerTask}
    (hasked : s.Asked id task) :
    Served digest (s.handleMessage (workerEntry digest (WorkerRequest.json ⟨id, task⟩))) ∧
      TaskRuns digest s.view
        (s.handleMessage (workerEntry digest (WorkerRequest.json ⟨id, task⟩))).view := by
  unfold handleMessage
  rw [isWorkerResponse_workerEntry]
  dsimp only
  rw [taskId_natCast]
  dsimp only
  cases hget : s.pool.pending.get id with
  | none => exact ⟨h, .refl⟩
  | some call =>
    have hmem := (s.pool.pending.get_eq_some_iff id call).mp hget
    obtain ⟨state, hcall⟩ := hasked.2 call hmem
    refine ⟨h.forget hmem _, settle_runs (s.forget id call) fun x result hx heq => ?_⟩
    cases hcall.symm.trans hx
    cases heq
    rfl

/-- A thread that carries what it may is put in the place of another. -/
theorem served_setThread (h : Served digest s) {worker : Nat} {thread : WorkerThread}
    (hcarries : s.Carries digest thread) : Served digest (s.setThread worker thread) := by
  refine h.same rfl rfl rfl rfl fun x hx => ?_
  rcases List.mem_or_eq_of_mem_set hx with hx | rfl
  · exact h.carries x hx
  · exact hcarries

theorem served_step (h : Served digest s) {a : Label} (hstep : s.step digest a = some t) :
    Served digest t ∧ TaskRuns digest s.view t.view := by
  cases a with
  | start =>
    obtain rfl := Option.some.inj hstep
    obtain ⟨hserved, hview⟩ := served_start h
    exact ⟨hserved, by rw [hview]⟩
  | run task =>
    obtain rfl := Option.some.inj hstep
    exact served_run h task
  | stop =>
    obtain rfl := Option.some.inj hstep
    exact served_stop h
  | resume call =>
    dsimp only [step] at hstep
    split at hstep
    · next task hcall =>
      obtain rfl := Option.some.inj hstep
      exact served_submit h hcall
    · cases hstep
  | stopped k =>
    dsimp only [step] at hstep
    split at hstep
    · split at hstep
      · obtain rfl := Option.some.inj hstep
        exact ⟨h.same rfl rfl rfl rfl h.carries, .refl⟩
      · cases hstep
    · cases hstep
  | work worker =>
    dsimp only [step] at hstep
    split at hstep
    · next message inbox outbox hthread =>
      obtain rfl := Option.some.inj hstep
      obtain ⟨hinbox, houtbox⟩ := h.carries _ (List.mem_of_getElem? hthread)
      refine ⟨served_setThread h ⟨fun x hx => hinbox x (List.mem_cons_of_mem _ hx), ?_⟩, .refl⟩
      intro x hx
      rcases List.mem_append.mp hx with hx | hx
      · exact houtbox x hx
      · obtain ⟨id, task, rfl, hasked⟩ := hinbox message List.mem_cons_self
        exact ⟨id, task, List.mem_singleton.mp hx, hasked⟩
    · cases hstep
  | deliver worker =>
    dsimp only [step] at hstep
    split at hstep
    · next inbox message outbox alive hthread =>
      obtain rfl := Option.some.inj hstep
      obtain ⟨hinbox, houtbox⟩ := h.carries _ (List.mem_of_getElem? hthread)
      obtain ⟨id, task, rfl, hasked⟩ := houtbox message List.mem_cons_self
      have hserved : Served digest (s.setThread worker ⟨inbox, outbox, alive⟩) :=
        served_setThread h ⟨hinbox, fun x hx => houtbox x (List.mem_cons_of_mem _ hx)⟩
      exact served_handleMessage hserved hasked
    · cases hstep
  | exit worker =>
    dsimp only [step] at hstep
    split at hstep
    · next inbox outbox hthread =>
      obtain rfl := Option.some.inj hstep
      obtain ⟨-, houtbox⟩ := h.carries _ (List.mem_of_getElem? hthread)
      exact ⟨served_setThread h ⟨fun x hx => (by cases hx), houtbox⟩, .refl⟩
    · cases hstep
  | lose worker =>
    dsimp only [step] at hstep
    split at hstep
    · next inbox outbox hthread =>
      obtain rfl := Option.some.inj hstep
      obtain ⟨hinbox, -⟩ := h.carries _ (List.mem_of_getElem? hthread)
      exact ⟨served_setThread h ⟨hinbox, fun x hx => (by cases hx)⟩, .refl⟩
    · cases hstep
  | timeout id call =>
    dsimp only [step] at hstep
    split at hstep
    · next hmem =>
      obtain rfl := Option.some.inj hstep
      exact served_timeout h hmem
    · cases hstep

theorem served_new (digest : String → String) (config : WorkerConfig) : Served digest (new config) where
  accounted := by
    refine ⟨fun id call => ⟨fun hmem => (by cases hmem), ?_⟩, fun timer => Iff.rfl⟩
    rintro ⟨task, htask⟩
    cases htask
  nodup := List.nodup_nil
  fresh _ _ hmem := by cases hmem
  carries _ hmem := by cases hmem

theorem served_run_steps {as : List Label} (h : Served digest s)
    (hrun : (system digest).run s as = some t) :
    Served digest t ∧ TaskRuns digest s.view t.view :=
  (system digest).run_relation (fun _ _ => True) (Served digest)
    (fun s t => TaskRuns digest s.view t.view) (fun _ => .refl) (fun _ _ _ h h' => h.trans h')
    (fun _ _ _ h _ hstep => served_step h hstep) as s t h ((system digest).along_true s as) hrun

/-- **The pool serves its calls.**  Between two states of a run its callers see a run of calls:
each settles at most once, with the result of its own task or an error; the tasks that are
pending, the calls that await one and the armed timers are the same. -/
theorem pool_refines (digest : String → String) (config : WorkerConfig) {as bs : List Label}
    (hs : (system digest).run (new config) as = some s) (ht : (system digest).run s bs = some t) :
    TaskRuns digest s.view t.view ∧ Correct digest t.view ∧ t.Accounted ∧
      ∀ (call : Nat) (task : WorkerTask) (reply : Except String WorkerTaskResult),
        s.view[call]? = some ⟨task, some reply⟩ → t.view[call]? = some ⟨task, some reply⟩ := by
  obtain ⟨hserved, hruns⟩ := served_run_steps (served_new digest config) hs
  obtain ⟨hserved', hruns'⟩ := served_run_steps hserved ht
  have hall : TaskRuns digest (new config).view t.view := hruns.trans hruns'
  have hcorrect : Correct digest (new config).view := fun _ hmem => by cases hmem
  exact ⟨hruns', hall.correct hcorrect, hserved'.accounted, fun call task reply hcall =>
    TaskRuns.settled hruns' hcall⟩

/-- A task that is answered after another one has timed out. -/
theorem pool_refines_late : ∃ s t, TaskRuns id (view s) (view t) ∧ Correct id (view t) ∧
    Accounted t ∧ (view t).length = 2 := by
  have hs : ∃ s, (system id).run (new ⟨true, 1, 1000⟩) [.start, .run (.sha256 "a"), .timeout 1 0] =
      some s := ⟨_, rfl⟩
  obtain ⟨s, hs⟩ := hs
  have ht : ∃ t, (system id).run s [.run (.sha256 "b"), .work 0, .work 0, .deliver 0, .deliver 0] =
      some t ∧ t.view.length = 2 := by
    cases hs
    exact ⟨_, rfl, rfl⟩
  obtain ⟨t, ht, hlength⟩ := ht
  obtain ⟨hruns, hcorrect, haccounted, -⟩ := pool_refines id _ hs ht
  exact ⟨s, t, hruns, hcorrect, haccounted, hlength⟩

end PoolSystem

end Sepigs
