import Sepigs.Reload.Requests

/-!
# What the adapters' methods do

For each method of the data plane adapters, its result and the part of the host it
writes: one lemma a method, which later proofs use instead of its definition.
-/

namespace Sepigs

/-! ## Routing transactions -/

namespace RoutingGenerationRuntime

variable {runtime : RoutingGenerationRuntime} {transactionId : String}
  {transaction : RoutingTransaction}

theorem get_setTransaction (runtime : RoutingGenerationRuntime) (transactionId : String)
    (transaction : RoutingTransaction) (k : String) :
    (runtime.setTransaction transactionId transaction).transactions.get k =
      if k = transactionId then some transaction else runtime.transactions.get k :=
  KeyMap.get_set _ _ _ _

theorem requireTransaction_eq (h : runtime.transactions.get transactionId = some transaction) :
    runtime.requireTransaction transactionId = .ok transaction := by
  unfold requireTransaction
  rw [h]

/-- The transaction a first `begin` opens. -/
def opened (runtime : RoutingGenerationRuntime) (expected : List RoutingComponent) :
    RoutingTransaction where
  oldGeneration := runtime.activeGeneration
  expected := expected
  committed := []
  routerCandidate := none
  policyCandidate := none
  published := false

theorem begin_eq {expected : List RoutingComponent} (hexpected : expected ≠ []) :
    runtime.begin transactionId expected = .ok
      (match runtime.transactions.get transactionId with
      | some _ => runtime
      | none => runtime.setTransaction transactionId (runtime.opened expected)) := by
  unfold RoutingGenerationRuntime.begin
  cases runtime.transactions.get transactionId with
  | none => exact if_neg hexpected
  | some transaction => rfl

/-- `begin` and the staging of a candidate (`f` writes it). -/
theorem stage_eq (runtime : RoutingGenerationRuntime) (transactionId : String)
    {expected : List RoutingComponent} (hexpected : expected ≠ [])
    (f : RoutingTransaction → RoutingTransaction) :
    ∃ routing : RoutingGenerationRuntime,
      (do
        let opened ← runtime.begin transactionId expected
        let transaction ← opened.requireTransaction transactionId
        return opened.setTransaction transactionId (f transaction) : Except String _) =
          .ok routing ∧
      routing.activeGeneration = runtime.activeGeneration ∧
      ∀ k, routing.transactions.get k =
        if k = transactionId then
          some (f ((runtime.transactions.get transactionId).getD (runtime.opened expected)))
        else runtime.transactions.get k := by
  rw [begin_eq hexpected]
  cases hget : runtime.transactions.get transactionId with
  | none =>
    have hset := runtime.get_setTransaction transactionId (runtime.opened expected)
    refine ⟨(runtime.setTransaction transactionId (runtime.opened expected)).setTransaction
      transactionId (f (runtime.opened expected)), ?_, rfl, fun k => ?_⟩
    · have hreq : (runtime.setTransaction transactionId
          (runtime.opened expected)).requireTransaction transactionId =
            .ok (runtime.opened expected) :=
        requireTransaction_eq ((hset transactionId).trans (if_pos rfl))
      simp only [bind, Except.bind, hreq, pure, Except.pure]
    · rw [get_setTransaction, hset]
      split
      · rfl
      · rfl
  | some transaction =>
    refine ⟨runtime.setTransaction transactionId (f transaction), ?_, rfl, fun k => ?_⟩
    · simp only [bind, Except.bind, requireTransaction_eq hget, pure, Except.pure]
    · rw [get_setTransaction]
      rfl

/-- With its candidates staged, `commit` of an expected component succeeds. -/
theorem commit_eq {component : RoutingComponent}
    (hget : runtime.transactions.get transactionId = some transaction)
    (hexpected : component ∈ transaction.expected)
    (hrouter : component = .router → transaction.routerCandidate ≠ none)
    (hpolicy : component = .policy → transaction.policyCandidate ≠ none) :
    runtime.commit transactionId component = .ok
      (let committed := { transaction with committed := component :: transaction.committed }
      if complete committed then runtime.publish transactionId committed
      else runtime.setTransaction transactionId committed) := by
  unfold commit
  have h1 : ¬ (component = .router ∧ transaction.routerCandidate = none) :=
    fun h => hrouter h.1 h.2
  have h2 : ¬ (component = .policy ∧ transaction.policyCandidate = none) :=
    fun h => hpolicy h.1 h.2
  simp only [bind, Except.bind, requireTransaction_eq hget, hexpected, not_true_eq_false, if_false,
    h1, h2, pure, Except.pure]
  split
  · rfl
  · rfl

theorem complete_iff (transaction : RoutingTransaction) :
    complete transaction = true ↔
      ∀ component ∈ transaction.expected, component ∈ transaction.committed := by
  unfold complete
  simp only [List.all_eq_true, decide_eq_true_eq]

theorem get_publish (k : String) :
    (runtime.publish transactionId transaction).transactions.get k =
      if k = transactionId then some { transaction with published := true }
      else runtime.transactions.get k :=
  runtime.get_setTransaction transactionId { transaction with published := true } k

theorem rollback_of_unpublished
    (h : ∀ transaction, runtime.transactions.get transactionId = some transaction →
      transaction.published = false) : runtime.rollback transactionId = runtime := by
  unfold rollback
  cases hget : runtime.transactions.get transactionId with
  | none => rfl
  | some transaction =>
    dsimp only
    rw [h transaction hget]
    rfl

theorem rollback_of_published (hget : runtime.transactions.get transactionId = some transaction)
    (hpublished : transaction.published = true) :
    (runtime.rollback transactionId).activeGeneration = transaction.oldGeneration ∧
    ∀ k, (runtime.rollback transactionId).transactions.get k =
      if k = transactionId then some { transaction with published := false }
      else runtime.transactions.get k := by
  unfold rollback
  rw [hget]
  dsimp only
  rw [if_pos hpublished]
  exact ⟨rfl, runtime.get_setTransaction transactionId _⟩

theorem cleanup_spec (runtime : RoutingGenerationRuntime) (transactionId : String) :
    (runtime.cleanup transactionId).activeGeneration = runtime.activeGeneration ∧
    ∀ k, (runtime.cleanup transactionId).transactions.get k =
      if k = transactionId then none else runtime.transactions.get k := by
  unfold cleanup
  cases hget : runtime.transactions.get transactionId with
  | none =>
    refine ⟨rfl, fun k => ?_⟩
    by_cases hk : k = transactionId
    · rw [if_pos hk, hk, hget]
    · rw [if_neg hk]
  | some transaction => exact ⟨rfl, KeyMap.get_delete _ _⟩

end RoutingGenerationRuntime

/-- How the preparation of a router or policy candidate ends; `f` stages it. -/
def StagedBy (task : ReloadTask) (host : RuntimeHost) (f : RoutingTransaction → RoutingTransaction)
    (prepared : RuntimePrepared) (result : Except String RuntimePrepared × RuntimeHost) : Prop :=
  (∃ message, result = (.error message, host)) ∨
  ∃ routing : RoutingGenerationRuntime, result = (.ok prepared, { host with routing := routing }) ∧
    routing.activeGeneration = host.routing.activeGeneration ∧
    ∀ k, routing.transactions.get k =
      if k = task.transactionId then
        some (f ((host.routing.transactions.get task.transactionId).getD
          (host.routing.opened task.expectedRoutingComponents)))
      else host.routing.transactions.get k

theorem RouterRuntimeAdapter.prepare_spec (task : ReloadTask) (conditions : Conditions)
    (host : RuntimeHost) (hexpected : task.expectedRoutingComponents ≠ []) :
    StagedBy task host
      (fun transaction =>
        { transaction with routerCandidate := some (candidateGeneration task host) })
      (.router task.transactionId) (prepare task conditions host) := by
  obtain ⟨routing, hstage, hrouting⟩ := host.routing.stage_eq task.transactionId hexpected
    fun transaction => { transaction with routerCandidate := some (candidateGeneration task host) }
  cases hrejection : conditions.rejection with
  | some message =>
    unfold prepare checked
    rw [hrejection]
    exact .inl ⟨message, rfl⟩
  | none =>
    have hstaged : (do
        checked conditions
        let routing ← host.routing.begin task.transactionId task.expectedRoutingComponents
        routing.stageRouter task.transactionId (candidateGeneration task host)) = .ok routing := by
      unfold checked
      rw [hrejection]
      exact hstage
    refine .inr ⟨routing, ?_, hrouting⟩
    simp only [prepare, hstaged]

theorem PolicyRuntimeAdapter.prepare_spec (task : ReloadTask) (conditions : Conditions)
    (host : RuntimeHost) (hexpected : task.expectedRoutingComponents ≠ []) :
    StagedBy task host
      (fun transaction =>
        { transaction with policyCandidate := some (candidateGeneration task host) })
      (.policy task.transactionId) (prepare task conditions host) := by
  obtain ⟨routing, hstage, hrouting⟩ := host.routing.stage_eq task.transactionId hexpected
    fun transaction => { transaction with policyCandidate := some (candidateGeneration task host) }
  cases hrejection : conditions.rejection with
  | some message =>
    unfold prepare checked
    rw [hrejection]
    exact .inl ⟨message, rfl⟩
  | none =>
    have hstaged : (do
        checked conditions
        let routing ← host.routing.begin task.transactionId task.expectedRoutingComponents
        routing.stagePolicy task.transactionId (candidateGeneration task host)) = .ok routing := by
      unfold checked
      rw [hrejection]
      exact hstage
    refine .inr ⟨routing, ?_, hrouting⟩
    simp only [prepare, hstaged]

/-! ## The registry -/

namespace OutboundRuntimeRegistry

variable {registry registry' : OutboundRuntimeRegistry}

theorem switchGeneration_spec {candidate : OutboundGeneration} {outbounds : KeyMap String Outbound}
    (h : registry.switchGeneration candidate outbounds = .ok registry') :
    registry.liveEntry candidate.id = none ∧
    (∃ entry, registry.liveEntry registry.activeGenerationId = some entry) ∧
    registry'.activeGenerationId = candidate.id ∧
    (∀ k, registry'.liveEntry k =
      if k = candidate.id then some ⟨candidate, outbounds⟩ else registry.liveEntry k) ∧
    registry'.stopCalls = registry.stopCalls := by
  obtain ⟨hnone, old, hold, rfl⟩ := switchGeneration_ok h
  have hframe := registry.setState_frame ⟨old, hold, rfl, rfl, rfl⟩ .draining
  refine ⟨?_, ⟨_, registry.liveEntry_eq_some hold⟩, rfl, fun k => ?_, rfl⟩
  · rw [liveEntry, hnone]
    rfl
  · rw [← hframe.1]
    exact (registry.setState registry.activeGenerationId old .draining).liveEntry_set candidate.id
      ⟨candidate, old.sequence + 1, outbounds, ∅, .active⟩ k

theorem restoreGeneration_frame {oldId candidateId : String}
    (h : registry.restoreGeneration oldId candidateId = .ok registry') :
    registry'.activeGenerationId = oldId ∧ registry'.liveEntry = registry.liveEntry ∧
    registry'.stopCalls = registry.stopCalls ∧ ∃ entry, registry.liveEntry oldId = some entry := by
  obtain ⟨old, candidate, ho, hc, rfl⟩ := restoreGeneration_ok h
  refine ⟨rfl, ?_, rfl, _, registry.liveEntry_eq_some ho⟩
  have h1 := registry.setState_frame ⟨candidate, hc, rfl, rfl, rfl⟩ .draining
  have h2 : ∃ r, (registry.setState candidateId candidate .draining).records.get oldId = some r ∧
      old.generation = r.generation ∧ old.outbounds = r.outbounds ∧
      old.referencesByTag = r.referencesByTag := by
    show ∃ r, (registry.records.set candidateId _).get oldId = some r ∧ _
    rw [KeyMap.get_set]
    split
    · next heq =>
      rw [heq, hc] at ho
      cases ho
      exact ⟨_, rfl, rfl, rfl, rfl⟩
    · exact ⟨old, ho, rfl, rfl, rfl⟩
  exact ((registry.setState candidateId candidate .draining).setState_frame h2 .active).1.trans h1.1

/-- Between two registered generations, `restoreGeneration` succeeds. -/
theorem restoreGeneration_spec {oldId candidateId : String} {old candidate : RuntimeEntry}
    (hold : registry.liveEntry oldId = some old)
    (hcandidate : registry.liveEntry candidateId = some candidate) :
    ∃ registry', registry.restoreGeneration oldId candidateId = .ok registry' ∧
      registry'.activeGenerationId = oldId ∧ registry'.liveEntry = registry.liveEntry ∧
      registry'.stopCalls = registry.stopCalls := by
  obtain ⟨old, ho, -⟩ := exists_record_of_liveEntry hold
  obtain ⟨candidate, hc, -⟩ := exists_record_of_liveEntry hcandidate
  have hrestore : registry.restoreGeneration oldId candidateId =
      .ok { (registry.setState candidateId candidate .draining).setState oldId old .active with
        activeGenerationId := oldId } := by
    unfold restoreGeneration requireRecord
    rw [ho, hc]
    rfl
  obtain ⟨hactive, hlive, hstop, -⟩ := restoreGeneration_frame hrestore
  exact ⟨_, hrestore, hactive, hlive, hstop⟩

end OutboundRuntimeRegistry

theorem Lifecycle.switchGeneration {registry registry' : OutboundRuntimeRegistry}
    {registered : List RuntimeEntry} {candidate : OutboundGeneration}
    {outbounds : KeyMap String Outbound} (hl : Lifecycle registry registered)
    (h : registry.switchGeneration candidate outbounds = .ok registry')
    (href : ∀ e ∈ registered, e.generation.ref ≠ candidate.ref) (hnodup : outbounds.values.Nodup)
    (hnew : ∀ o ∈ outbounds.values, o ∉ registered.flatMap fun e => e.outbounds.values) :
    Lifecycle registry' (⟨candidate, outbounds⟩ :: registered) := by
  obtain ⟨hnone, old, hold, rfl⟩ := OutboundRuntimeRegistry.switchGeneration_ok h
  have hl' := hl.setState ⟨old, hold, rfl, rfl, rfl⟩ .draining
  refine hl'.register ⟨candidate, old.sequence + 1, outbounds, ∅, .active⟩ ?_ href hnodup hnew _
  show (registry.records.set registry.activeGenerationId _).get candidate.id = none
  rw [KeyMap.get_set]
  split
  · next heq =>
    rw [heq, hold] at hnone
    cases hnone
  · exact hnone

/-! ## The outbound adapter -/

namespace OutboundRuntimeAdapter

variable {task : ReloadTask} {conditions : Conditions} {value : OutboundRuntimePrepared}
  {host : RuntimeHost}

theorem prepare_cases (task : ReloadTask) (conditions : Conditions) (host : RuntimeHost) :
    (∃ message registry, prepare task conditions host =
      (.error message, { host with registry := registry }) ∧
        (registry = host.registry ∨ registry = host.registry.recordRejectedUnsupported)) ∨
    prepare task conditions host = (.ok (.outbound (preparedValue task host)),
      { host.setOutboundFlags (preparedValue task host) ⟨false, false, false⟩ with
        nextRef := host.nextRef + 1 + task.candidate.outbounds.length }) := by
  unfold prepare
  cases host.registry.requireRecord host.registry.activeGenerationId with
  | error message => exact .inl ⟨message, host.registry, rfl, .inl rfl⟩
  | ok record =>
    cases conditions.rejection with
    | none => exact .inr rfl
    | some message =>
      by_cases h : conditions.unsupported = true
      · refine .inl ⟨message, host.registry.recordRejectedUnsupported, ?_, .inr rfl⟩
        simp only [if_pos h]
      · refine .inl ⟨message, host.registry, ?_, .inl rfl⟩
        simp only [if_neg h]

theorem commit_of_switch_error {message : String}
    (h : host.registry.switchGeneration value.candidateGeneration value.candidateOutbounds =
      .error message) : commit value host = (.error message, host) := by
  unfold commit
  rw [h]

/-- `commit`, when the registry switches and the routing transaction, if the value
takes part in one, accepts. -/
theorem commit_of_switch {registry : OutboundRuntimeRegistry} {routing : RoutingGenerationRuntime}
    (h : host.registry.switchGeneration value.candidateGeneration value.candidateOutbounds =
      .ok registry)
    (hrouting : if value.participatesInRoutingTransaction then
      host.routing.commit value.transactionId .outbound = .ok routing else routing = host.routing) :
    commit value host = (.ok (), { host with
      registry := registry
      routing := routing
      outboundFlags := Function.update host.outboundFlags value.ref
        { host.outboundFlags value.ref with switched := true, committed := true } }) := by
  unfold commit
  rw [h]
  dsimp only [RuntimeHost.setOutboundFlags]
  rw [Function.update_idem, Function.update_self]
  split at hrouting
  · next hp =>
    rw [if_pos hp, hrouting]
  · next hp =>
    rw [if_neg hp, hrouting]

theorem rollback_of_not_switched (h : (host.outboundFlags value.ref).switched = false) :
    rollback value host = (.ok (), host.setOutboundFlags value
      { host.outboundFlags value.ref with switched := false, committed := false }) := by
  unfold rollback
  simp only [h, Bool.false_eq_true, if_false]

/-- `rollback` of a committed value, with both generations still registered. -/
theorem rollback_of_switched (h : (host.outboundFlags value.ref).switched = true)
    {old candidate : RuntimeEntry}
    (hold : host.registry.liveEntry value.oldGenerationId = some old)
    (hcandidate : host.registry.liveEntry value.candidateGeneration.id = some candidate) :
    ∃ registry, rollback value host = (.ok (), { host with
        registry := registry
        routing := if value.participatesInRoutingTransaction then
          host.routing.rollback value.transactionId else host.routing
        outboundFlags := Function.update host.outboundFlags value.ref
          { host.outboundFlags value.ref with switched := false, committed := false } }) ∧
      registry.activeGenerationId = value.oldGenerationId ∧
      registry.liveEntry = host.registry.liveEntry ∧
      registry.stopCalls = host.registry.stopCalls := by
  obtain ⟨registry, hrestore, hregistry⟩ :=
    OutboundRuntimeRegistry.restoreGeneration_spec hold hcandidate
  refine ⟨registry, ?_, hregistry⟩
  unfold rollback
  simp only [h, if_true, hrestore]
  split
  · rfl
  · rfl

/-- `cleanup` at most retires a generation and marks the value as disposed. -/
theorem cleanup_spec (value : OutboundRuntimePrepared) (host : RuntimeHost) :
    ∃ result registry flags, cleanup value host =
        (result, { host with registry := registry, outboundFlags := flags }) ∧
      (registry = host.registry ∨ ∃ id, registry = host.registry.retireIfUnused id) := by
  unfold cleanup
  dsimp only
  split
  · exact ⟨_, _, _, rfl, .inl rfl⟩
  · split
    · exact ⟨_, _, _, rfl, .inl rfl⟩
    · exact ⟨_, _, _, rfl, .inl rfl⟩
    · split
      · exact ⟨_, _, _, rfl, .inr ⟨_, rfl⟩⟩
      · exact ⟨_, _, _, rfl, .inr ⟨_, rfl⟩⟩

end OutboundRuntimeAdapter

/-! ## The DNS adapter -/

namespace DnsRuntimeAdapter

/-- The value `prepare` resolves to. -/
def preparedValue (task : ReloadTask) (conditions : Conditions) (host : RuntimeHost) :
    DnsRuntimePrepared :=
  ⟨host.dns.activeGeneration, candidateGeneration task host, conditions.carried, conditions.dropped⟩

theorem prepare_cases (task : ReloadTask) (conditions : Conditions) (host : RuntimeHost) :
    (∃ message dns, prepare task conditions host = (.error message, { host with dns := dns }) ∧
      (dns = host.dns ∨ dns = host.dns.recordRejectedFakeIpChange)) ∨
    prepare task conditions host = (.ok (.dns (preparedValue task conditions host)),
      { host.setDnsCommitted (preparedValue task conditions host) false with
        nextRef := host.nextRef + 1
        dns := host.dns.setState (candidateGeneration task host) fun _ => ⟨0, 0, false⟩ }) := by
  unfold prepare checked
  split
  · exact .inl ⟨_, _, rfl, .inr rfl⟩
  · cases conditions.rejection with
    | none => exact .inr rfl
    | some message => exact .inl ⟨message, host.dns, rfl, .inl rfl⟩

end DnsRuntimeAdapter

end Sepigs
