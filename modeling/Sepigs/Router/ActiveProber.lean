import Mathlib.Data.List.Induction
import Sepigs.Lib.JsMap
import Sepigs.Lib.Runs
import Sepigs.Lib.WorkerPool
import Sepigs.Router.Policy

/-!
# Active probing (`router/prober.ts`, `router/health.ts`)

`runOnce` probes the targets that are not backed off, up to a budget, with workers that share
an index: a `WorkerPool` whose jobs are the positions of these targets.  The environment says
in which order the probes settle, how, and what time it is then.

Each probe is recorded once: in the backoff states, the health store and the policies.  A
record reads the clock once.
-/

namespace Sepigs

open WorkerPool (Pool)

structure ProbingConfig where
  maxConcurrency : Nat
  budgetPerInterval : Nat
  backoffBaseMs : Nat
  backoffMaxMs : Nat
deriving DecidableEq, Repr

structure ProbeState where
  failures : Nat
  nextAllowedAt : Nat
deriving DecidableEq, Repr

inductive ProbeOutcome where
  | resolved
  | rejected
  | timedOut
deriving DecidableEq, Repr

/-- What `probeTarget` returns. -/
def ProbeOutcome.ok (outcome : ProbeOutcome) : Bool := outcome = .resolved

structure HealthSample where
  tag : String
  ok : Bool
  latencyMs : Rat
  timestamp : Nat
deriving DecidableEq, Repr

/-- The sample of one job of a run. -/
structure ProbeRecord extends HealthSample where
  job : Nat
deriving DecidableEq, Repr

structure HealthStore where
  maxSamples : Nat
  buckets : JsMap String (List HealthSample)

structure ProbeRunSummary where
  attempted : Nat
  skipped : Nat
  succeeded : Nat
  failed : Nat
deriving DecidableEq, Repr

/-- The locals of a run that is under way.  `probed` has the targets whose `probe` was called,
and `log` what was recorded, with what others called on the policies in between. -/
structure ProbeRun where
  targets : List String
  runnable : List String
  pool : Pool ProbeOutcome
  succeeded : Nat
  failed : Nat
  probed : List String
  log : List (ProbeRecord ⊕ PolicyCall)

structure ActiveProber where
  config : ProbingConfig
  healthStore : HealthStore
  policyManager : RoutingPolicyManager
  states : JsMap String ProbeState
  running : Option ProbeRun

def HealthStore.record (store : HealthStore) (sample : HealthSample) : HealthStore :=
  let samples := (store.buckets.get sample.tag).getD [] ++ [sample]
  { store with buckets := store.buckets.set sample.tag (samples.drop (samples.length - store.maxSamples)) }

def ProbeRun.records (run : ProbeRun) : List ProbeRecord := run.log.filterMap Sum.getLeft?

/-- What the run gave the health store. -/
def ProbeRun.samples (run : ProbeRun) : List HealthSample := run.records.map ProbeRecord.toHealthSample

namespace ActiveProber

def backoffMs (config : ProbingConfig) (failures : Nat) : Nat :=
  min config.backoffMaxMs (config.backoffBaseMs * 2 ^ min (failures - 1) 16)

def recordSuccess (prober : ActiveProber) (tag : String) (latencyMs : Rat) (now : Nat) : ActiveProber :=
  { prober with
    states := prober.states.set tag ⟨0, 0⟩
    healthStore := prober.healthStore.record ⟨tag, true, latencyMs, now⟩
    policyManager := prober.policyManager.recordSuccess tag latencyMs }

def recordFailure (prober : ActiveProber) (tag : String) (latencyMs : Rat) (now : Nat) : ActiveProber :=
  let previous := (prober.states.get tag).getD ⟨0, 0⟩
  let failures := previous.failures + 1
  { prober with
    states := prober.states.set tag ⟨failures, now + backoffMs prober.config failures⟩
    healthStore := prober.healthStore.record ⟨tag, false, latencyMs, now⟩
    policyManager := prober.policyManager.recordFailure now tag }

/-- The end of `probeTarget`. -/
def record (prober : ActiveProber) (sample : HealthSample) : ActiveProber :=
  if sample.ok then prober.recordSuccess sample.tag sample.latencyMs sample.timestamp
  else prober.recordFailure sample.tag sample.latencyMs sample.timestamp

def canProbe (states : JsMap String ProbeState) (now : Nat) (tag : String) : Bool :=
  match states.get tag with
  | none => true
  | some state => state.nextAllowedAt ≤ now

/-- The targets that are not backed off; `clock` has the time at each call of `canProbe`. -/
def notBackedOff (states : JsMap String ProbeState) (clock : Nat → Nat) (targets : List String) : List String :=
  (targets.zipIdx.filter fun target => canProbe states (clock target.2) target.1).map Prod.fst

/-- The targets a run probes. -/
def runnable (prober : ActiveProber) (targets : List String) (clock : Nat → Nat) : List String :=
  (notBackedOff prober.states clock targets).take prober.config.budgetPerInterval

/-- `runOnce` up to its first `await`: it has returned, or it is under way. -/
def runOnce (prober : ActiveProber) (targets : List String) (clock : Nat → Nat) :
    Option ProbeRunSummary × ActiveProber :=
  match prober.running with
  | some _ => (some ⟨0, targets.length, 0, 0⟩, prober)
  | none =>
    let runnable := prober.runnable targets clock
    (none, { prober with
      running := some
        { targets := targets
          runnable := runnable
          pool := Pool.start (min prober.config.maxConcurrency runnable.length)
          succeeded := 0
          failed := 0
          probed := []
          log := [] } })

/-- A worker goes on, a probe settles at some time, `runOnce` is called again, or others call
the policies. -/
inductive Label where
  | take (worker : Nat)
  | settle (worker : Nat) (outcome : ProbeOutcome) (latencyMs : Rat) (now : Nat)
  | count (worker : Nat)
  | runOnce (targets : List String) (clock : Nat → Nat)
  | policy (call : PolicyCall)

/-- The worker takes the target at the index and calls its `probe`, or ends. -/
def take (prober : ActiveProber) (run : ProbeRun) (worker : Nat) : Option ActiveProber :=
  (run.pool.step run.runnable.length (.take worker)).map fun pool =>
    { prober with
      running := some { run with
        pool := pool
        probed := run.probed ++ run.runnable[run.pool.next]?.toList } }

/-- `probeTarget` comes to its end, and records how. -/
def settle (prober : ActiveProber) (run : ProbeRun) (worker : Nat) (outcome : ProbeOutcome) (latencyMs : Rat)
    (now : Nat) : Option ActiveProber :=
  match run.pool.slots[worker]? with
  | some (.busy job) =>
    (run.pool.step run.runnable.length (.settle worker outcome)).map fun pool =>
      let sample : HealthSample := ⟨run.runnable.getD job "", outcome.ok, latencyMs, now⟩
      { prober.record sample with
        running := some { run with
          pool := pool
          log := run.log ++ [.inl ⟨sample, job⟩] } }
  | _ => none

/-- The worker counts what its probe came to. -/
def count (prober : ActiveProber) (run : ProbeRun) (worker : Nat) : Option ActiveProber :=
  match run.pool.slots[worker]? with
  | some (.settled _ outcome) =>
    (run.pool.step run.runnable.length (.count worker)).map fun pool =>
      { prober with
        running := some { run with
          pool := pool
          succeeded := if outcome.ok then run.succeeded + 1 else run.succeeded
          failed := if outcome.ok then run.failed else run.failed + 1 } }
  | _ => none

def policy (prober : ActiveProber) (run : ProbeRun) (call : PolicyCall) : ActiveProber :=
  { prober with
    policyManager := prober.policyManager.perform call
    running := some { run with log := run.log ++ [.inr call] } }

def step (prober : ActiveProber) (label : Label) : Option ActiveProber :=
  match prober.running, label with
  | some run, .take worker => prober.take run worker
  | some run, .settle worker outcome latencyMs now => prober.settle run worker outcome latencyMs now
  | some run, .count worker => prober.count run worker
  | some _, .runOnce targets clock => some (prober.runOnce targets clock).2
  | some run, .policy call => some (prober.policy run call)
  | none, _ => none

/-- A run that is under way, and what goes on meanwhile. -/
def system : Runs.System ActiveProber Label := ⟨step⟩

/-- All workers have ended: `runOnce` returns. -/
def finish (prober : ActiveProber) : Option (ProbeRunSummary × ActiveProber) :=
  match prober.running with
  | none => none
  | some run =>
    if run.pool.finished then
      some (⟨run.runnable.length, run.targets.length - run.runnable.length, run.succeeded, run.failed⟩,
        { prober with running := none })
    else none

/-! ## Backoff -/

theorem backoffMs_mono (config : ProbingConfig) {j k : Nat} (h : j ≤ k) : backoffMs config j ≤ backoffMs config k := by
  have hexponent : min (j - 1) 16 ≤ min (k - 1) 16 := by omega
  have hpow : 2 ^ min (j - 1) 16 ≤ 2 ^ min (k - 1) 16 := Nat.pow_le_pow_right (by decide) hexponent
  have hproduct := Nat.mul_le_mul_left config.backoffBaseMs hpow
  unfold backoffMs
  omega

theorem backoffMs_le (config : ProbingConfig) (failures : Nat) : backoffMs config failures ≤ config.backoffMaxMs :=
  Nat.min_le_left _ _

/-- The backoff states after a record. -/
def statesAfter (config : ProbingConfig) (states : JsMap String ProbeState) (sample : HealthSample) :
    JsMap String ProbeState :=
  let failures := ((states.get sample.tag).getD ⟨0, 0⟩).failures + 1
  states.set sample.tag (if sample.ok then ⟨0, 0⟩ else ⟨failures, sample.timestamp + backoffMs config failures⟩)

def statesAfterAll (config : ProbingConfig) (states : JsMap String ProbeState) (samples : List HealthSample) :
    JsMap String ProbeState :=
  samples.foldl (statesAfter config) states

/-- What a record calls on the policies. -/
def callOf (sample : HealthSample) : PolicyCall :=
  if sample.ok then .recordSuccess sample.tag sample.latencyMs else .recordFailure sample.timestamp sample.tag

/-- A record goes to the backoff states, the health store and the policies. -/
theorem record_eq (prober : ActiveProber) (sample : HealthSample) :
    prober.record sample =
      { prober with
        states := statesAfter prober.config prober.states sample
        healthStore := prober.healthStore.record sample
        policyManager := prober.policyManager.perform (callOf sample) } := by
  obtain ⟨tag, ok, latencyMs, timestamp⟩ := sample
  cases ok with
  | true => rfl
  | false => rfl

/-- The samples of a tag. -/
def ofTag (tag : String) (samples : List HealthSample) : List HealthSample := samples.filter fun sample => sample.tag = tag

/-- The failures at the end, and those before the first sample if there was no success since. -/
def failuresInRow (states : JsMap String ProbeState) (tag : String) (samples : List HealthSample) : Nat :=
  ((ofTag tag samples).reverse.takeWhile fun sample => !sample.ok).length +
    if (ofTag tag samples).all fun sample => !sample.ok then ((states.get tag).getD ⟨0, 0⟩).failures else 0

section Backoff

variable (config : ProbingConfig) (states : JsMap String ProbeState) {tag : String} (samples : List HealthSample)
  {sample : HealthSample}

theorem statesAfterAll_append_singleton :
    statesAfterAll config states (samples ++ [sample]) = statesAfter config (statesAfterAll config states samples) sample := by
  unfold statesAfterAll
  rw [List.foldl_append]
  rfl

theorem ofTag_append_of_ne (h : sample.tag ≠ tag) : ofTag tag (samples ++ [sample]) = ofTag tag samples := by
  unfold ofTag
  rw [List.filter_append, List.filter_cons_of_neg (by simpa using h), List.filter_nil, List.append_nil]

theorem ofTag_append_of_eq (h : sample.tag = tag) : ofTag tag (samples ++ [sample]) = ofTag tag samples ++ [sample] := by
  unfold ofTag
  rw [List.filter_append, List.filter_cons_of_pos (by simpa using h), List.filter_nil]

theorem failuresInRow_of_ok (h : sample.tag = tag) (hok : sample.ok = true) :
    failuresInRow states tag (samples ++ [sample]) = 0 := by
  unfold failuresInRow
  rw [ofTag_append_of_eq samples h]
  simp [hok]

theorem failuresInRow_of_failed (h : sample.tag = tag) (hfailed : sample.ok = false) :
    failuresInRow states tag (samples ++ [sample]) = failuresInRow states tag samples + 1 := by
  unfold failuresInRow
  rw [ofTag_append_of_eq samples h]
  simp [hfailed]
  omega

theorem statesAfter_get_of_ne (h : sample.tag ≠ tag) : (statesAfter config states sample).get tag = states.get tag := by
  unfold statesAfter
  rw [JsMap.get_set, if_neg (Ne.symm h)]

theorem statesAfter_get_of_ok (h : sample.tag = tag) (hok : sample.ok = true) :
    (statesAfter config states sample).get tag = some ⟨0, 0⟩ := by
  unfold statesAfter
  rw [JsMap.get_set, if_pos h.symm, if_pos hok]

theorem statesAfter_get_of_failed (h : sample.tag = tag) (hfailed : sample.ok = false) :
    (statesAfter config states sample).get tag =
      some ⟨((states.get tag).getD ⟨0, 0⟩).failures + 1,
        sample.timestamp + backoffMs config (((states.get tag).getD ⟨0, 0⟩).failures + 1)⟩ := by
  unfold statesAfter
  rw [JsMap.get_set, if_pos h.symm, if_neg (by rw [hfailed]; exact Bool.false_ne_true), h]

/-- The count of a tag is that of its failures in a row. -/
theorem statesAfterAll_failures (tag : String) :
    (((statesAfterAll config states samples).get tag).getD ⟨0, 0⟩).failures = failuresInRow states tag samples := by
  induction samples using List.reverseRecOn with
  | nil => simp [statesAfterAll, failuresInRow, ofTag]
  | append_singleton samples sample ih =>
    rw [statesAfterAll_append_singleton]
    by_cases htag : sample.tag = tag
    · cases hok : sample.ok with
      | true =>
        rw [statesAfter_get_of_ok config _ htag hok, failuresInRow_of_ok states samples htag hok]
        rfl
      | false =>
        rw [statesAfter_get_of_failed config _ htag hok, failuresInRow_of_failed states samples htag hok, ← ih]
        rfl
    · rw [statesAfter_get_of_ne config _ htag, ih]
      unfold failuresInRow
      rw [ofTag_append_of_ne samples htag]

/-- **Backoff.**  The last sample of a tag decides: a success frees it, and a failure holds it
back for the delay of its failures in a row. -/
theorem statesAfterAll_get (tag : String) : ∀ earlier last, ofTag tag samples = earlier ++ [last] →
    (statesAfterAll config states samples).get tag =
      some (if last.ok then ⟨0, 0⟩
        else ⟨failuresInRow states tag samples,
          last.timestamp + backoffMs config (failuresInRow states tag samples)⟩) := by
  induction samples using List.reverseRecOn with
  | nil =>
    intro earlier last h
    have hlength := congrArg List.length h
    simp [ofTag] at hlength
  | append_singleton samples sample ih =>
    intro earlier last h
    rw [statesAfterAll_append_singleton]
    by_cases htag : sample.tag = tag
    · rw [ofTag_append_of_eq samples htag] at h
      obtain rfl : sample = last := List.singleton_inj.mp (List.append_inj' h rfl).2
      have hfailures := statesAfterAll_failures config states samples tag
      cases hok : sample.ok with
      | true =>
        rw [statesAfter_get_of_ok config _ htag hok]
        rfl
      | false =>
        rw [statesAfter_get_of_failed config _ htag hok, failuresInRow_of_failed states samples htag hok, hfailures]
        rfl
    · rw [ofTag_append_of_ne samples htag] at h
      have hrow : failuresInRow states tag (samples ++ [sample]) = failuresInRow states tag samples := by
        unfold failuresInRow
        rw [ofTag_append_of_ne samples htag]
      rw [statesAfter_get_of_ne config _ htag, ih earlier last h, hrow]

end Backoff

/-! ## Runs -/

namespace Label

/-- The steps of the run itself. -/
def own : Label → Bool
  | .take _ | .settle _ _ _ _ | .count _ => true
  | .runOnce _ _ | .policy _ => false

/-- What the environment says that is recorded. -/
def heard : Label → Option ((Bool × Rat × Nat) ⊕ PolicyCall)
  | .settle _ outcome latencyMs now => some (.inl (outcome.ok, latencyMs, now))
  | .policy call => some (.inr call)
  | .take _ | .count _ | .runOnce _ _ => none

end Label

def heardOf : ProbeRecord ⊕ PolicyCall → (Bool × Rat × Nat) ⊕ PolicyCall
  | .inl entry => .inl (entry.ok, entry.latencyMs, entry.timestamp)
  | .inr call => .inr call

/-- What happened on the policies. -/
def callOfEntry : ProbeRecord ⊕ PolicyCall → PolicyCall
  | .inl entry => callOf entry.toHealthSample
  | .inr call => call

/-- A run of `start` that has the targets `runnable` to probe.  The workers' pool is exact, and
the rest follows from what the pool has done and what was recorded. -/
structure During (start : ActiveProber) (targets runnable : List String) (prober : ActiveProber) (run : ProbeRun) :
    Prop where
  config_eq : prober.config = start.config
  running : prober.running = some run
  targets_eq : run.targets = targets
  runnable_eq : run.runnable = runnable
  exact : WorkerPool.Exact runnable.length (min start.config.maxConcurrency runnable.length) run.pool
  probed : run.probed = runnable.take run.pool.next
  succeeded : run.succeeded = run.pool.counted.countP fun result => result.2.ok
  failed : run.failed = run.pool.counted.countP fun result => !result.2.ok
  records : run.records.map (fun entry => (entry.job, entry.ok)) = run.pool.results.map fun result => (result.1, result.2.ok)
  tags : ∀ entry ∈ run.records, runnable[entry.job]? = some entry.tag
  states : prober.states = statesAfterAll start.config start.states run.samples
  healthStore : prober.healthStore = run.samples.foldl HealthStore.record start.healthStore
  policyManager : prober.policyManager = (run.log.map callOfEntry).foldl RoutingPolicyManager.perform start.policyManager

/-- What a step does to a run that is under way. -/
theorem step_cases {prober prober' : ActiveProber} {run : ProbeRun} {label : Label} (hrunning : prober.running = some run)
    (h : prober.step label = some prober') :
    (∃ worker pool, label = .take worker ∧ run.pool.step run.runnable.length (.take worker) = some pool ∧
      prober' = { prober with
        running := some { run with pool := pool, probed := run.probed ++ run.runnable[run.pool.next]?.toList } }) ∨
    (∃ worker outcome latencyMs now job pool, label = .settle worker outcome latencyMs now ∧
      run.pool.slots[worker]? = some (.busy job) ∧
      run.pool.step run.runnable.length (.settle worker outcome) = some pool ∧
      prober' = { prober.record ⟨run.runnable.getD job "", outcome.ok, latencyMs, now⟩ with
        running := some { run with
          pool := pool
          log := run.log ++ [.inl ⟨⟨run.runnable.getD job "", outcome.ok, latencyMs, now⟩, job⟩] } }) ∨
    (∃ worker job outcome pool, label = .count worker ∧
      run.pool.slots[worker]? = some (.settled job outcome) ∧
      run.pool.step run.runnable.length (.count worker) = some pool ∧
      prober' = { prober with
        running := some { run with
          pool := pool
          succeeded := if outcome.ok then run.succeeded + 1 else run.succeeded
          failed := if outcome.ok then run.failed else run.failed + 1 } }) ∨
    (∃ targets clock, label = .runOnce targets clock ∧ prober' = prober) ∨
    (∃ call, label = .policy call ∧ prober' = prober.policy run call) := by
  unfold step at h
  rw [hrunning] at h
  cases label with
  | take worker =>
    obtain ⟨pool, hpool, rfl⟩ := Option.map_eq_some_iff.mp h
    exact Or.inl ⟨worker, pool, rfl, hpool, rfl⟩
  | settle worker outcome latencyMs now =>
    simp only [settle] at h
    split at h
    · next job hslot =>
      obtain ⟨pool, hpool, rfl⟩ := Option.map_eq_some_iff.mp h
      exact Or.inr (Or.inl ⟨worker, outcome, latencyMs, now, job, pool, rfl, hslot, hpool, rfl⟩)
    · cases h
  | count worker =>
    simp only [count] at h
    split at h
    · next job outcome hslot =>
      obtain ⟨pool, hpool, rfl⟩ := Option.map_eq_some_iff.mp h
      exact Or.inr (Or.inr (Or.inl ⟨worker, job, outcome, pool, rfl, hslot, hpool, rfl⟩))
    · cases h
  | runOnce targets clock =>
    simp only [runOnce, hrunning] at h
    cases h
    exact Or.inr (Or.inr (Or.inr (Or.inl ⟨targets, clock, rfl, rfl⟩)))
  | policy call =>
    cases h
    exact Or.inr (Or.inr (Or.inr (Or.inr ⟨call, rfl, rfl⟩)))

theorem records_append_call (run : ProbeRun) (call : PolicyCall) :
    ProbeRun.records { run with log := run.log ++ [.inr call] } = run.records := by
  show (run.log ++ [_]).filterMap Sum.getLeft? = run.log.filterMap Sum.getLeft?
  rw [List.filterMap_append]
  exact List.append_nil _

section During

variable {start prober prober' : ActiveProber} {targets runnable : List String} {run : ProbeRun}

theorem During.record (h : During start targets runnable prober run) {worker job : Nat} {outcome : ProbeOutcome}
    {pool : Pool ProbeOutcome} (latencyMs : Rat) (now : Nat) (hslot : run.pool.slots[worker]? = some (.busy job))
    (hpool : run.pool.step runnable.length (.settle worker outcome) = some pool) :
    let sample : HealthSample := ⟨runnable.getD job "", outcome.ok, latencyMs, now⟩
    let run' := { run with pool := pool, log := run.log ++ [.inl ⟨sample, job⟩] }
    During start targets runnable { prober.record sample with running := some run' } run' := by
  intro sample run'
  obtain ⟨hnext, hresults, hcounted⟩ := WorkerPool.step_settle hslot hpool
  have hjob : job < runnable.length := h.exact.busy_lt hslot
  have hrecords : run'.records = run.records ++ [⟨sample, job⟩] := List.filterMap_append
  have hsamples : run'.samples = run.samples ++ [sample] := by
    unfold ProbeRun.samples
    rw [hrecords, List.map_append]
    rfl
  rw [record_eq]
  exact {
    config_eq := h.config_eq
    running := rfl
    targets_eq := h.targets_eq
    runnable_eq := h.runnable_eq
    exact := h.exact.step hpool
    probed := by
      show run.probed = runnable.take pool.next
      rw [hnext, h.probed]
    succeeded := by
      show run.succeeded = pool.counted.countP _
      rw [hcounted, h.succeeded]
    failed := by
      show run.failed = pool.counted.countP _
      rw [hcounted, h.failed]
    records := by
      show _ = pool.results.map _
      rw [hrecords, hresults, List.map_append, List.map_append, h.records]
      rfl
    tags := by
      rw [hrecords]
      intro entry hentry
      rcases List.mem_append.mp hentry with hold | hnew
      · exact h.tags entry hold
      · rw [List.mem_singleton.mp hnew]
        show runnable[job]? = some (runnable.getD job "")
        rw [List.getD_eq_getElem?_getD, List.getElem?_eq_getElem hjob]
        rfl
    states := by
      rw [hsamples, statesAfterAll_append_singleton, ← h.states, ← h.config_eq]
    healthStore := by
      rw [hsamples, List.foldl_append, ← h.healthStore]
      rfl
    policyManager := by
      show _ = ((run.log ++ [_]).map callOfEntry).foldl _ _
      rw [List.map_append, List.foldl_append, ← h.policyManager]
      rfl }

theorem During.step {label : Label} (h : During start targets runnable prober run)
    (hstep : prober.step label = some prober') :
    ∃ run', During start targets runnable prober' run' ∧
      run'.pool.work runnable.length + (if label.own then 1 else 0) = run.pool.work runnable.length ∧
      run'.log.map heardOf = run.log.map heardOf ++ label.heard.toList := by
  obtain rfl := h.runnable_eq
  obtain ⟨worker, pool, rfl, hpool, rfl⟩ | ⟨worker, outcome, latencyMs, now, job, pool, rfl, hslot, hpool, rfl⟩ |
    ⟨worker, job, outcome, pool, rfl, hslot, hpool, rfl⟩ | ⟨others, clock, rfl, rfl⟩ |
    ⟨call, rfl, rfl⟩ := step_cases h.running hstep
  · obtain ⟨hindex, hresults, hcounted⟩ := WorkerPool.step_take hpool
    refine ⟨_, { h with
      running := rfl
      exact := h.exact.step hpool
      probed := ?_
      succeeded := ?_
      failed := ?_
      records := ?_ }, WorkerPool.step_work hpool, (List.append_nil _).symm⟩
    · show run.probed ++ run.runnable[run.pool.next]?.toList = run.runnable.take pool.next
      rw [h.probed]
      rcases hindex with ⟨hnext, hlt⟩ | ⟨hnext, hge⟩
      · rw [hnext, List.take_add_one]
      · rw [hnext, List.getElem?_eq_none hge]
        exact List.append_nil _
    · show run.succeeded = pool.counted.countP _
      rw [hcounted, h.succeeded]
    · show run.failed = pool.counted.countP _
      rw [hcounted, h.failed]
    · show _ = pool.results.map _
      rw [hresults]
      exact h.records
  · exact ⟨_, h.record latencyMs now hslot hpool, WorkerPool.step_work hpool, List.map_append⟩
  · obtain ⟨hnext, hresults, hcounted⟩ := WorkerPool.step_count hslot hpool
    refine ⟨_, { h with
      running := rfl
      exact := h.exact.step hpool
      probed := ?_
      succeeded := ?_
      failed := ?_
      records := ?_ }, WorkerPool.step_work hpool, (List.append_nil _).symm⟩
    · show run.probed = run.runnable.take pool.next
      rw [hnext, h.probed]
    · show (if outcome.ok then run.succeeded + 1 else run.succeeded) = pool.counted.countP _
      rw [hcounted, List.countP_append, h.succeeded, List.countP_singleton]
      split
      · rfl
      · rfl
    · show (if outcome.ok then run.failed else run.failed + 1) = pool.counted.countP _
      rw [hcounted, List.countP_append, h.failed, List.countP_singleton]
      cases outcome.ok with
      | true => rfl
      | false => rfl
    · show _ = pool.results.map _
      rw [hresults]
      exact h.records
  · exact ⟨run, h, rfl, (List.append_nil _).symm⟩
  · have hrecords := records_append_call run call
    have hsamples := congrArg (List.map ProbeRecord.toHealthSample) hrecords
    refine ⟨_, { h with
      running := rfl
      records := ?_
      tags := ?_
      states := ?_
      healthStore := ?_
      policyManager := ?_ }, rfl, List.map_append⟩
    · rw [hrecords]
      exact h.records
    · rw [hrecords]
      exact h.tags
    · exact h.states.trans (congrArg _ hsamples.symm)
    · exact h.healthStore.trans (congrArg _ hsamples.symm)
    · show prober.policyManager.perform call = ((run.log ++ [_]).map callOfEntry).foldl _ _
      rw [List.map_append, List.foldl_append, ← h.policyManager]
      rfl

theorem During.steps (labels : List Label) : ∀ {prober t : ActiveProber} {run : ProbeRun},
    During start targets runnable prober run → system.run prober labels = some t →
    ∃ run', During start targets runnable t run' ∧
      run'.pool.work runnable.length + labels.countP Label.own = run.pool.work runnable.length ∧
      run'.log.map heardOf = run.log.map heardOf ++ labels.filterMap Label.heard := by
  induction labels with
  | nil =>
    intro prober t run h hrun
    cases hrun
    exact ⟨run, h, rfl, (List.append_nil _).symm⟩
  | cons label labels ih =>
    intro prober t run h hrun
    obtain ⟨prober', hstep, hrest⟩ := (Runs.System.run_cons_eq_some _ _ _ _ _).mp hrun
    obtain ⟨run₁, h₁, hwork₁, hlog₁⟩ := h.step hstep
    obtain ⟨run₂, h₂, hwork₂, hlog₂⟩ := ih h₁ hrest
    refine ⟨run₂, h₂, ?_, ?_⟩
    · rw [List.countP_cons]
      omega
    · rw [hlog₂, hlog₁, List.append_assoc, List.filterMap_cons]
      cases label.heard with
      | none => rfl
      | some what => rfl

/-- `runOnce` starts a run. -/
theorem During.runOnce (hidle : start.running = none) (targets : List String) (clock : Nat → Nat) :
    ∃ run, During start targets (start.runnable targets clock) (start.runOnce targets clock).2 run ∧
      run.pool.work (start.runnable targets clock).length ≤ 4 * (start.runnable targets clock).length ∧ run.log = [] := by
  unfold ActiveProber.runOnce
  rw [hidle]
  refine ⟨_, {
    config_eq := rfl
    running := rfl
    targets_eq := rfl
    runnable_eq := rfl
    exact := WorkerPool.Exact.start _ _
    probed := rfl
    succeeded := rfl
    failed := rfl
    records := rfl
    tags := fun entry hentry => absurd hentry List.not_mem_nil
    states := rfl
    healthStore := rfl
    policyManager := rfl }, ?_, rfl⟩
  have hstart := WorkerPool.start_work (start.runnable targets clock).length
    (min start.config.maxConcurrency (start.runnable targets clock).length) (ρ := ProbeOutcome)
  simp only []
  omega

/-- A run that is not over makes a step. -/
theorem During.exists_step (h : During start targets runnable prober run) (hopen : prober.finish = none) :
    ∃ label, label.own = true ∧ (prober.step label).isSome := by
  have hunfinished : run.pool.finished = false := by
    unfold finish at hopen
    rw [h.running] at hopen
    simpa using hopen
  unfold ActiveProber.step
  rw [h.running]
  obtain ⟨label, pool, hpool⟩ := WorkerPool.exists_step run.runnable.length ProbeOutcome.resolved hunfinished
  cases label with
  | take worker => exact ⟨.take worker, rfl, by simp [take, hpool]⟩
  | settle worker outcome =>
    obtain ⟨job, hslot⟩ := WorkerPool.busy_of_settle hpool
    exact ⟨.settle worker outcome 0 0, rfl, by simp [settle, hslot, hpool]⟩
  | count worker =>
    obtain ⟨job, outcome, hslot⟩ := WorkerPool.settled_of_count hpool
    exact ⟨.count worker, rfl, by simp [count, hslot, hpool]⟩

end During

/-- What a run of `start` that has come to its end did, and what it left. -/
structure Finished (start : ActiveProber) (targets runnable : List String) (run : ProbeRun) (summary : ProbeRunSummary)
    (after : ActiveProber) : Prop where
  idle : after.running = none
  probed : run.probed = runnable
  attempted : summary.attempted = runnable.length
  attempted_eq : summary.attempted = summary.succeeded + summary.failed
  skipped : summary.attempted + summary.skipped = targets.length
  once : (run.records.map ProbeRecord.job).Perm (List.range runnable.length)
  tags : ∀ entry ∈ run.records, runnable[entry.job]? = some entry.tag
  succeeded : summary.succeeded = run.samples.countP fun sample => sample.ok
  failed : summary.failed = run.samples.countP fun sample => !sample.ok
  states : after.states = statesAfterAll start.config start.states run.samples
  healthStore : after.healthStore = run.samples.foldl HealthStore.record start.healthStore
  policyManager : after.policyManager = (run.log.map callOfEntry).foldl RoutingPolicyManager.perform start.policyManager

theorem length_runnable_le (prober : ActiveProber) (targets : List String) (clock : Nat → Nat) :
    (prober.runnable targets clock).length ≤ targets.length := by
  unfold runnable notBackedOff
  have htake := List.length_take_le' prober.config.budgetPerInterval
    ((targets.zipIdx.filter fun target => canProbe prober.states (clock target.2) target.1).map Prod.fst)
  have hfilter := List.length_filter_le (fun target => canProbe prober.states (clock target.2) target.1) targets.zipIdx
  rw [List.length_map] at htake
  rw [List.length_zipIdx] at hfilter
  omega

/-- The results that are ok, counted in any order. -/
theorem countP_samples {run : ProbeRun} {counted : List (Nat × ProbeOutcome)} (p : Bool → Bool)
    (hrecords : run.records.map (fun entry => (entry.job, entry.ok)) = run.pool.results.map fun result => (result.1, result.2.ok))
    (hperm : counted.Perm run.pool.results) :
    counted.countP (fun result => p result.2.ok) = run.samples.countP fun sample => p sample.ok := by
  have hcount := congrArg (List.countP fun pair => p pair.2) hrecords
  rw [List.countP_map, List.countP_map] at hcount
  unfold ProbeRun.samples
  rw [hperm.countP_eq, List.countP_map]
  exact hcount.symm

theorem During.finish {start prober after : ActiveProber} {targets runnable : List String} {run : ProbeRun}
    {summary : ProbeRunSummary} (h : During start targets runnable prober run) (hpos : 0 < start.config.maxConcurrency)
    (hle : runnable.length ≤ targets.length) (hfinish : prober.finish = some (summary, after)) :
    Finished start targets runnable run summary after := by
  unfold ActiveProber.finish at hfinish
  rw [h.running] at hfinish
  simp only [] at hfinish
  split at hfinish
  · next hfinished =>
    cases hfinish
    have hworkers : runnable.length = 0 ∨ 0 < min start.config.maxConcurrency runnable.length := by omega
    obtain ⟨hnext, hjobs, hcounted⟩ := h.exact.finished hworkers hfinished
    have hsucceeded := h.succeeded.trans (countP_samples id h.records hcounted)
    have hfailed := h.failed.trans (countP_samples Bool.not h.records hcounted)
    have hlength : run.samples.length = runnable.length := by
      have hrecords := congrArg List.length h.records
      have hresults := hjobs.length_eq
      unfold ProbeRun.samples
      simp only [List.length_map, List.length_range] at hrecords hresults ⊢
      omega
    have hsplit := List.length_eq_countP_add_countP (fun sample => sample.ok) (l := run.samples)
    exact {
      idle := rfl
      probed := by rw [h.probed, hnext, List.take_length]
      attempted := congrArg List.length h.runnable_eq
      attempted_eq := by
        show run.runnable.length = run.succeeded + run.failed
        rw [h.runnable_eq, hsucceeded, hfailed, ← hlength]
        simpa using hsplit
      skipped := by
        show run.runnable.length + (run.targets.length - run.runnable.length) = targets.length
        rw [h.runnable_eq, h.targets_eq]
        omega
      once := by
        have hpairs := congrArg (List.map Prod.fst) h.records
        rw [List.map_map, List.map_map] at hpairs
        exact (List.Perm.of_eq hpairs).trans hjobs
      tags := h.tags
      succeeded := hsucceeded
      failed := hfailed
      states := h.states
      healthStore := h.healthStore
      policyManager := h.policyManager }
  · cases hfinish

/-- **A probing run is exact**, in whatever order its probes settle.  It probes the first targets
that are not backed off, each once; no more probes than allowed are under way; another `runOnce`
does nothing meanwhile; and it comes to its end, with a summary that adds up, one record for each
probe, and the backoff states that follow from the records. -/
theorem runOnce_exact (prober : ActiveProber) (targets : List String) (clock : Nat → Nat)
    (hpos : 0 < prober.config.maxConcurrency) (hidle : prober.running = none) (labels : List Label) (t : ActiveProber)
    (hrun : system.run (prober.runOnce targets clock).2 labels = some t) :
    ∃ run, t.running = some run ∧
      run.probed = (prober.runnable targets clock).take run.pool.next ∧
      run.pool.busy.length ≤ prober.config.maxConcurrency ∧
      (∀ others now, t.runOnce others now = (some ⟨0, others.length, 0, 0⟩, t)) ∧
      run.log.map heardOf = labels.filterMap Label.heard ∧
      labels.countP Label.own ≤ 4 * (prober.runnable targets clock).length ∧
      (t.finish = none → ∃ label, label.own = true ∧ (t.step label).isSome) ∧
      (∀ summary after, t.finish = some (summary, after) →
        Finished prober targets (prober.runnable targets clock) run summary after ∧
        ∀ tag earlier last, ofTag tag run.samples = earlier ++ [last] →
          after.states.get tag =
            some (if last.ok then ⟨0, 0⟩
              else ⟨failuresInRow prober.states tag run.samples,
                last.timestamp + backoffMs prober.config (failuresInRow prober.states tag run.samples)⟩)) ∧
      (∀ j k, j ≤ k → backoffMs prober.config j ≤ backoffMs prober.config k) ∧
      ∀ k, backoffMs prober.config k ≤ prober.config.backoffMaxMs := by
  obtain ⟨run₀, h₀, hwork₀, hlog₀⟩ := During.runOnce hidle targets clock
  obtain ⟨run, h, hwork, hlog⟩ := h₀.steps labels hrun
  refine ⟨run, h.running, h.probed, ?_, ?_, ?_, ?_, h.exists_step, ?_, fun j k hle => backoffMs_mono _ hle,
    backoffMs_le _⟩
  · have hbusy := h.exact.busy_le
    omega
  · intro others now
    unfold runOnce
    rw [h.running]
  · rw [hlog, hlog₀]
    rfl
  · omega
  · intro summary after hfinish
    have hfinished := h.finish hpos (length_runnable_le prober targets clock) hfinish
    refine ⟨hfinished, fun tag earlier last hlast => ?_⟩
    rw [hfinished.states]
    exact statesAfterAll_get prober.config prober.states run.samples tag earlier last hlast

/-- `"a"` is backed off until 50. -/
def backedOff : ActiveProber where
  config := ⟨2, 2, 100, 1000⟩
  healthStore := ⟨64, ∅⟩
  policyManager := .create [] []
  states := JsMap.set ∅ "a" ⟨1, 50⟩
  running := none

/-- Two workers probe `"b"`, which times out, and `"c"`; there is no budget for `"d"`. -/
def twoProbes : List Label :=
  [.take 0, .take 1, .settle 1 .resolved 3 13, .runOnce ["e"] (fun _ => 14), .count 1, .take 1, .settle 0 .timedOut 9 19,
    .count 0, .take 0]

theorem runOnce_exact_two :
    ∃ (run : ProbeRun) (t after : ActiveProber),
      system.run (backedOff.runOnce ["a", "b", "c", "d"] fun _ => 10).2 twoProbes = some t ∧ t.running = some run ∧
      run.probed = ["b", "c"] ∧ t.finish = some (⟨2, 2, 1, 1⟩, after) ∧ after.states.get "b" = some ⟨1, 119⟩ := by
  obtain ⟨run, hrunning, -, -, -, -, -, -, hfinish, -⟩ :=
    runOnce_exact backedOff ["a", "b", "c", "d"] (fun _ => 10) (by decide) rfl twoProbes _ rfl
  obtain ⟨hfinished, -⟩ := hfinish _ _ rfl
  exact ⟨run, _, _, rfl, hrunning, hfinished.probed, rfl, rfl⟩

end ActiveProber

end Sepigs
