import Sepigs.Reload.ExecutorRule
import Sepigs.Reload.RuntimeIntegration
import Sepigs.Reload.RuntimeOperations

/-!
# A runtime reload as one transaction

What holds of the engine in each part of a reload's execution (`Preparing`,
`Committing`, `Recovering`, `Cleaning`), relative to the host it started on, and
that every operation of the adapters leads from one to the next.  The requests
beside it are any moves that leave its view of the host alone (`Undisturbed`).

The order of the components carries the argument: DNS is published last, so it is
never rolled back, and outbound last of those that share a routing transaction, so
its commit publishes the pair.
-/

namespace Sepigs

/-! ## The order of the components -/

/-- The place of a component in `createRuntimeComponents`. -/
def TransactionalReloadComponent.rank : TransactionalReloadComponent → Nat
  | metrics => 0
  | dashboard => 1
  | router => 2
  | policy => 3
  | outbound => 4
  | dns => 5

def RoutingComponent.component : RoutingComponent → TransactionalReloadComponent
  | router => .router
  | policy => .policy
  | outbound => .outbound

theorem RoutingComponent.rank_le (c : RoutingComponent) :
    c.component.rank ≤ TransactionalReloadComponent.outbound.rank := by
  cases c <;> decide

namespace RuntimeReloadIntegration

theorem createRuntimeComponents_ordered (changed : List TransactionalReloadComponent) :
    (createRuntimeComponents changed).Pairwise fun a b => a.rank < b.rank :=
  List.Pairwise.filter _ (by decide)

theorem mem_createRuntimeComponents {changed : List TransactionalReloadComponent}
    {c : TransactionalReloadComponent} : c ∈ createRuntimeComponents changed ↔ c ∈ changed := by
  unfold createRuntimeComponents
  rw [List.mem_filter, decide_eq_true_eq]
  constructor
  · exact fun h => h.2
  · exact fun h => ⟨by cases c <;> decide, h⟩

theorem mem_expectedRoutingComponents {changed : List TransactionalReloadComponent}
    {c : RoutingComponent} : c ∈ expectedRoutingComponents changed ↔
      c.component ∈ changed ∧ (c = .outbound → .router ∈ changed ∨ .policy ∈ changed) := by
  unfold expectedRoutingComponents
  by_cases hr : TransactionalReloadComponent.router ∈ changed
  · by_cases hp : TransactionalReloadComponent.policy ∈ changed
    · cases c <;> simp [RoutingComponent.component, hr, hp]
    · cases c <;> simp [RoutingComponent.component, hr, hp]
  · by_cases hp : TransactionalReloadComponent.policy ∈ changed
    · cases c <;> simp [RoutingComponent.component, hr, hp]
    · cases c <;> simp [RoutingComponent.component, hr, hp]

theorem expectedRoutingComponents_eq_nil {changed : List TransactionalReloadComponent} :
    expectedRoutingComponents changed = [] ↔
      TransactionalReloadComponent.router ∉ changed ∧ .policy ∉ changed := by
  rw [List.eq_nil_iff_forall_not_mem]
  constructor
  · intro h
    refine ⟨fun hr => h .router ?_, fun hp => h .policy ?_⟩
    · exact mem_expectedRoutingComponents.mpr ⟨hr, fun h => nomatch h⟩
    · exact mem_expectedRoutingComponents.mpr ⟨hp, fun h => nomatch h⟩
  · rintro ⟨hr, hp⟩ c hc
    obtain ⟨hcomp, hout⟩ := mem_expectedRoutingComponents.mp hc
    cases c with
    | router => exact hr hcomp
    | policy => exact hp hcomp
    | outbound => exact (hout rfl).elim hr hp

end RuntimeReloadIntegration

open RuntimeReloadIntegration

namespace RuntimeTransaction

/-- The components of the entries. -/
abbrev names (es : List RuntimeEntryPrepared) : List TransactionalReloadComponent :=
  es.map PreparedEntry.component

section Order

variable {es done rest : List RuntimeEntryPrepared} {entry : RuntimeEntryPrepared}

theorem rank_lt_of_split (h : (names (done ++ entry :: rest)).Pairwise fun a b => a.rank < b.rank)
    {c : TransactionalReloadComponent} (hc : c ∈ names done) : c.rank < entry.component.rank := by
  rw [names, List.map_append, List.map_cons, List.pairwise_append] at h
  exact h.2.2 c hc _ List.mem_cons_self

theorem not_mem_of_split (h : (names (done ++ entry :: rest)).Pairwise fun a b => a.rank < b.rank) :
    entry.component ∉ names done :=
  fun hc => Nat.lt_irrefl _ (rank_lt_of_split h hc)

/-- What comes no later than a part of the beginning is part of the beginning. -/
theorem mem_of_rank_le (h : (names (done ++ rest)).Pairwise fun a b => a.rank < b.rank)
    {c d : TransactionalReloadComponent} (hd : d ∈ names done) (hle : c.rank ≤ d.rank)
    (hc : c ∈ names (done ++ rest)) : c ∈ names done := by
  rw [names, List.map_append] at h hc
  rcases List.mem_append.mp hc with hc | hc
  · exact hc
  · have := (List.pairwise_append.mp h).2.2 d hd c hc
    omega

theorem mem_names_append (c : TransactionalReloadComponent) :
    c ∈ names (done ++ [entry]) ↔ c ∈ names done ∨ c = entry.component := by
  simp [names]

end Order

/-! ## Assertions -/

section Assertions

variable (task : ReloadTask) (host : RuntimeHost)

/-- A value that this reload's outbound adapter prepared. -/
structure OutboundOf (value : OutboundRuntimePrepared) : Prop where
  eq_prepared : ∃ s : RuntimeHost, value = OutboundRuntimeAdapter.preparedValue task s ∧
    s.registry.activeGenerationId = host.registry.activeGenerationId

/-- A value that this reload's DNS adapter prepared. -/
structure DnsOf (value : DnsRuntimePrepared) : Prop where
  oldGeneration : value.oldGeneration = host.dns.activeGeneration
  id : value.candidateGeneration.id = s!"{task.candidateGenerationId}-dns"
  sequence : value.candidateGeneration.sequence = host.dns.activeGeneration.sequence + 1
  config : value.candidateGeneration.config = task.candidate.dns

/-- An entry that this reload prepared. -/
inductive Genuine : RuntimeEntryPrepared → Prop
  | metrics : Genuine ⟨.metrics, .controlPlane⟩
  | dashboard : Genuine ⟨.dashboard, .controlPlane⟩
  | router : Genuine ⟨.router, .router task.transactionId⟩
  | policy : Genuine ⟨.policy, .policy task.transactionId⟩
  | outbound (value : OutboundRuntimePrepared) (h : OutboundOf task host value) :
    Genuine ⟨.outbound, .outbound value⟩
  | dns (value : DnsRuntimePrepared) (h : DnsOf task host value) : Genuine ⟨.dns, .dns value⟩

structure Entries (es : List RuntimeEntryPrepared) : Prop where
  genuine : ∀ entry ∈ es, Genuine task host entry
  initial : ∃ rest, names es ++ rest = createRuntimeComponents task.changedComponents

/-- What no operation of the reload touches. -/
structure Frame (v : ReloadView) : Prop where
  config : v.config = host.config
  generation : v.generation = host.generation
  transactions : ∀ id, id ≠ task.transactionId → v.transactions.get id = none

structure OutboundOff (v : ReloadView) : Prop where
  activeOutbound : v.activeOutbound = host.registry.activeGenerationId
  activeEntry : v.activeEntry = host.registry.liveEntry host.registry.activeGenerationId

structure OutboundOn (value : OutboundRuntimePrepared) (v : ReloadView) : Prop where
  activeOutbound : v.activeOutbound = value.candidateGeneration.id
  activeEntry : v.activeEntry = some ⟨value.candidateGeneration, value.candidateOutbounds⟩

/-- The generation a rollback restores is registered as it was. -/
def OldKept (v : ReloadView) : Prop :=
  v.oldEntry = host.registry.liveEntry host.registry.activeGenerationId

structure DnsOff (v : ReloadView) : Prop where
  activeDns : v.activeDns = host.dns.activeGeneration
  cacheCarriedOver : v.cacheCarriedOver = host.dns.cacheCarriedOver
  cacheDropped : v.cacheDropped = host.dns.cacheDropped

/-- The routing transaction with the candidates of the components listed. -/
structure Staged (staged : List TransactionalReloadComponent) (t : RoutingTransaction) : Prop where
  oldGeneration : t.oldGeneration = host.routing.activeGeneration
  expected : t.expected = task.expectedRoutingComponents
  routerCandidate : t.routerCandidate = if .router ∈ staged then
    some (RouterRuntimeAdapter.candidateGeneration task host) else none
  policyCandidate : t.policyCandidate = if .policy ∈ staged then
    some (PolicyRuntimeAdapter.candidateGeneration task host) else none

/-- None of the outbound and DNS values is committed. -/
structure Uncommitted (es : List RuntimeEntryPrepared) (v : ReloadView) : Prop where
  outbound : ∀ value, ⟨.outbound, .outbound value⟩ ∈ es →
    v.outboundFlags value.ref = ⟨false, false, false⟩
  dns : ∀ value, ⟨.dns, .dns value⟩ ∈ es → v.dnsCommitted value.candidateGeneration.ref = false

/-- A routing transaction is open only if one of its candidates is among the entries. -/
def OpenFor (es : List RuntimeEntryPrepared) (v : ReloadView) : Prop :=
  ∀ t, v.transactions.get task.transactionId = some t →
    .router ∈ names es ∨ .policy ∈ names es

structure Preparing (es : List RuntimeEntryPrepared) (v : ReloadView) : Prop where
  entries : Entries task host es
  frame : Frame task host v
  pair : v.activePair = host.routing.activeGeneration
  outbound : OutboundOff host v
  oldKept : OldKept host v
  dns : DnsOff host v
  uncommitted : Uncommitted es v
  openFor : OpenFor task es v
  opened : .router ∈ names es ∨ .policy ∈ names es →
    ∃ t, v.transactions.get task.transactionId = some t
  staged : ∀ t, v.transactions.get task.transactionId = some t →
    Staged task host (names es) t ∧ t.committed = [] ∧ t.published = false

/-- All components of the routing transaction are among the entries. -/
def Complete (done : List RuntimeEntryPrepared) : Prop :=
  ∀ c ∈ task.expectedRoutingComponents, c.component ∈ names done

/-- The routing transaction when the commits of `done` are through. -/
structure RoutingCommits (done : List RuntimeEntryPrepared) (v : ReloadView)
    (t : RoutingTransaction) : Prop where
  get : v.transactions.get task.transactionId = some t
  staged : Staged task host task.changedComponents t
  committed : ∀ c, c ∈ t.committed ↔ c ∈ task.expectedRoutingComponents ∧ c.component ∈ names done
  published : t.published = true → Complete task done ∧ ∃ manager, v.activePair = t.next manager
  unpublished : t.published = false → ¬ Complete task done ∧
    v.activePair = host.routing.activeGeneration

def RoutingCommitting (done : List RuntimeEntryPrepared) (v : ReloadView) : Prop :=
  task.expectedRoutingComponents = [] ∧ v.transactions.get task.transactionId = none ∧
    v.activePair = host.routing.activeGeneration ∨
  task.expectedRoutingComponents ≠ [] ∧ ∃ t, RoutingCommits task host done v t

structure Committing (es done : List RuntimeEntryPrepared) (v : ReloadView) : Prop where
  genuine : ∀ entry ∈ es, Genuine task host entry
  all : names es = createRuntimeComponents task.changedComponents
  initial : ∃ rest, es = done ++ rest
  frame : Frame task host v
  oldKept : OldKept host v
  routing : RoutingCommitting task host done v
  outbound_off : .outbound ∉ names done → OutboundOff host v ∧ ∀ value,
    ⟨.outbound, .outbound value⟩ ∈ es → v.outboundFlags value.ref = ⟨false, false, false⟩
  outbound_on : ∀ value, ⟨.outbound, .outbound value⟩ ∈ done → OutboundOn value v ∧
    v.outboundFlags value.ref = ⟨true, true, false⟩ ∧ ∃ entry, v.oldEntry = some entry
  dns_off : .dns ∉ names done → DnsOff host v ∧ ∀ value, ⟨.dns, .dns value⟩ ∈ es →
    v.dnsCommitted value.candidateGeneration.ref = false
  dns_on : ∀ value, ⟨.dns, .dns value⟩ ∈ done → v.activeDns = value.candidateGeneration

/-- The routing pair is the old one and will stay so. -/
structure Unpublished (v : ReloadView) : Prop where
  pair : v.activePair = host.routing.activeGeneration
  transaction : ∀ t, v.transactions.get task.transactionId = some t → t.published = false

/-- The routing pair is the candidate one, and all its components are to be rolled back. -/
structure Published (rest : List RuntimeEntryPrepared) (v : ReloadView) : Prop where
  transaction : ∃ t, v.transactions.get task.transactionId = some t ∧ t.published = true ∧
    Staged task host task.changedComponents t ∧ ∃ manager, v.activePair = t.next manager
  expected : task.expectedRoutingComponents ≠ []
  complete : Complete task rest

structure OutboundBack (es : List RuntimeEntryPrepared) (v : ReloadView) : Prop where
  off : OutboundOff host v
  flags : ∀ value, ⟨.outbound, .outbound value⟩ ∈ es →
    v.outboundFlags value.ref = ⟨false, false, false⟩

structure OutboundToRestore (rest : List RuntimeEntryPrepared) (v : ReloadView) : Prop where
  on : ∃ value, ⟨.outbound, .outbound value⟩ ∈ rest ∧ OutboundOn value v ∧
    v.outboundFlags value.ref = ⟨true, true, false⟩
  old : ∃ entry, v.oldEntry = some entry

/-- What is still to be undone: the pair, the outbound generation, both or nothing. -/
def Undone (es rest : List RuntimeEntryPrepared) (v : ReloadView) : Prop :=
  Unpublished task host v ∧ OutboundBack host es v ∨
  Unpublished task host v ∧ OutboundToRestore rest v ∧ task.expectedRoutingComponents = [] ∨
  Published task host rest v ∧ OutboundBack host es v ∧
    RoutingComponent.outbound ∉ task.expectedRoutingComponents ∨
  Published task host rest v ∧ OutboundToRestore rest v

structure Recovering (es rest : List RuntimeEntryPrepared) (v : ReloadView) : Prop where
  entries : Entries task host es
  initial : ∃ tail, es = rest ++ tail
  frame : Frame task host v
  oldKept : OldKept host v
  dns : DnsOff host v
  dnsFlags : ∀ value, ⟨.dns, .dns value⟩ ∈ rest → v.dnsCommitted value.candidateGeneration.ref = false
  openFor : OpenFor task es v
  undone : Undone task host es rest v

/-- The state of the data plane before the reload. -/
structure Before (v : ReloadView) : Prop where
  pair : v.activePair = host.routing.activeGeneration
  outbound : OutboundOff host v
  dns : DnsOff host v

/-- The candidate pair: the candidates of the changed components, the others kept. -/
structure CandidatePair (pair : RoutingGenerationPair) : Prop where
  router : pair.router = if .router ∈ task.changedComponents then
    RouterRuntimeAdapter.candidateGeneration task host else host.routing.activeGeneration.router
  policy : pair.policy = if .policy ∈ task.changedComponents then
    PolicyRuntimeAdapter.candidateGeneration task host else host.routing.activeGeneration.policy
  policyManager : .policy ∉ task.changedComponents →
    pair.policyManager = host.routing.activeGeneration.policyManager

/-- The state of the data plane after a successful reload. -/
structure After (v : ReloadView) : Prop where
  pair : CandidatePair task host v.activePair
  outbound_changed : .outbound ∈ task.changedComponents →
    ∃ value, OutboundOf task host value ∧ OutboundOn value v
  outbound_kept : .outbound ∉ task.changedComponents → OutboundOff host v
  dns_changed : .dns ∈ task.changedComponents → ∃ value, DnsOf task host value ∧
    v.activeDns = value.candidateGeneration
  dns_kept : .dns ∉ task.changedComponents → DnsOff host v

/-- A shared routing transaction shows the old pair with the old outbound generation,
or the candidate pair with the candidate one. -/
def Together (v : ReloadView) : Prop :=
  RoutingComponent.outbound ∈ task.expectedRoutingComponents →
    v.activePair = host.routing.activeGeneration ∧ OutboundOff host v ∨
    CandidatePair task host v.activePair ∧ ∃ value, OutboundOf task host value ∧ OutboundOn value v

structure Cleaning (ok : Bool) (rest : List RuntimeEntryPrepared) (v : ReloadView) : Prop where
  genuine : ∀ entry ∈ rest, Genuine task host entry
  frame : Frame task host v
  openFor : OpenFor task rest v
  state : if ok then After task host v else Before host v

end Assertions

/-! ## From one part to the next -/

section Parts

variable {task : ReloadTask} {host : RuntimeHost} {es done rest : List RuntimeEntryPrepared}
  {v : ReloadView}

theorem Entries.ordered (h : Entries task host es) :
    (names es).Pairwise fun a b => a.rank < b.rank := by
  obtain ⟨rest, hrest⟩ := h.initial
  have hall := createRuntimeComponents_ordered task.changedComponents
  rw [← hrest] at hall
  exact (List.pairwise_append.mp hall).1

theorem Committing.entries (h : Committing task host es done v) : Entries task host es :=
  ⟨h.genuine, [], by rw [List.append_nil, h.all]⟩

theorem Committing.mem_names (h : Committing task host es done v)
    (c : TransactionalReloadComponent) : c ∈ names es ↔ c ∈ task.changedComponents := by
  rw [h.all]
  exact mem_createRuntimeComponents

/-- The value of a component that is among the entries. -/
theorem exists_entry (hes : ∀ entry ∈ es, Genuine task host entry) {c : TransactionalReloadComponent}
    (hc : c ∈ names es) : ∃ prepared, ⟨c, prepared⟩ ∈ es ∧ Genuine task host ⟨c, prepared⟩ := by
  obtain ⟨entry, hentry, rfl⟩ := List.mem_map.mp hc
  exact ⟨entry.prepared, hentry, hes entry hentry⟩

theorem exists_outbound (hes : ∀ entry ∈ es, Genuine task host entry)
    (hc : .outbound ∈ names es) :
    ∃ value, ⟨.outbound, .outbound value⟩ ∈ es ∧ OutboundOf task host value := by
  obtain ⟨prepared, hmem, hgen⟩ := exists_entry hes hc
  cases hgen with
  | outbound value h => exact ⟨value, hmem, h⟩

theorem exists_dns (hes : ∀ entry ∈ es, Genuine task host entry) (hc : .dns ∈ names es) :
    ∃ value, ⟨.dns, .dns value⟩ ∈ es ∧ DnsOf task host value := by
  obtain ⟨prepared, hmem, hgen⟩ := exists_entry hes hc
  cases hgen with
  | dns value h => exact ⟨value, hmem, h⟩

theorem not_complete_nil (h : task.expectedRoutingComponents ≠ []) : ¬ Complete task [] := by
  obtain ⟨c, hc⟩ := List.exists_mem_of_ne_nil _ h
  exact fun hcomplete => nomatch hcomplete c hc

theorem Staged.candidatePair {t : RoutingTransaction}
    (h : Staged task host task.changedComponents t) (manager : Nat) :
    CandidatePair task host (t.next manager) := by
  unfold RoutingTransaction.next
  refine ⟨?_, ?_, fun hp => ?_⟩
  · dsimp only
    rw [h.routerCandidate, h.oldGeneration]
    split
    · rfl
    · rfl
  · dsimp only
    rw [h.policyCandidate, h.oldGeneration]
    split
    · rfl
    · rfl
  · dsimp only
    rw [h.policyCandidate, h.oldGeneration, if_neg hp, if_pos rfl]

section Expected

variable (htask : task.expectedRoutingComponents = expectedRoutingComponents task.changedComponents)

include htask

theorem expected_eq_nil_iff : task.expectedRoutingComponents = [] ↔
    TransactionalReloadComponent.router ∉ task.changedComponents ∧
      .policy ∉ task.changedComponents := by
  rw [htask]
  exact expectedRoutingComponents_eq_nil

theorem expected_ne_nil (h : task.expectedRoutingComponents ≠ []) :
    TransactionalReloadComponent.router ∈ task.changedComponents ∨
      .policy ∈ task.changedComponents := by
  by_contra hnot
  rw [not_or] at hnot
  exact h ((expected_eq_nil_iff htask).mpr hnot)

/-- An outbound change takes part in the routing transaction if there is one. -/
theorem outbound_expected (h : task.expectedRoutingComponents ≠ [])
    (hout : .outbound ∈ task.changedComponents) :
    RoutingComponent.outbound ∈ task.expectedRoutingComponents := by
  have hne := expected_ne_nil htask h
  rw [htask]
  exact mem_expectedRoutingComponents.mpr ⟨hout, fun _ => hne⟩

theorem changed_of_expected {c : RoutingComponent} (hc : c ∈ task.expectedRoutingComponents) :
    c.component ∈ task.changedComponents := by
  rw [htask] at hc
  exact (mem_expectedRoutingComponents.mp hc).1

/-- Outbound is the last component of a routing transaction. -/
theorem Committing.complete_of_outbound (h : Committing task host es done v)
    (hout : .outbound ∈ names done) : Complete task done := by
  intro c hc
  obtain ⟨rest, hrest⟩ := h.initial
  have hord := h.entries.ordered
  have hmem := (h.mem_names c.component).mpr (changed_of_expected htask hc)
  rw [hrest] at hord hmem
  exact mem_of_rank_le hord hout c.rank_le hmem

theorem Preparing.committing (h : Preparing task host es v)
    (hall : names es = createRuntimeComponents task.changedComponents) :
    Committing task host es [] v := by
  have hmem : ∀ c, c ∈ names es ↔ c ∈ task.changedComponents := by
    intro c
    rw [hall]
    exact mem_createRuntimeComponents
  refine ⟨h.entries.genuine, hall, ⟨es, rfl⟩, h.frame, h.oldKept, ?_,
    fun _ => ⟨h.outbound, h.uncommitted.outbound⟩, fun _ hv => (nomatch hv),
    fun _ => ⟨h.dns, h.uncommitted.dns⟩, fun _ hv => (nomatch hv)⟩
  by_cases hnil : task.expectedRoutingComponents = []
  · refine .inl ⟨hnil, ?_, h.pair⟩
    obtain ⟨hr, hp⟩ := (expected_eq_nil_iff htask).mp hnil
    cases hget : v.transactions.get task.transactionId with
    | none => rfl
    | some t =>
      rcases h.openFor t hget with hm | hm
      · exact absurd ((hmem _).mp hm) hr
      · exact absurd ((hmem _).mp hm) hp
  · obtain ⟨t, hget⟩ := h.opened ((expected_ne_nil htask hnil).imp (hmem _).mpr (hmem _).mpr)
    obtain ⟨hstaged, hcommitted, hpublished⟩ := h.staged t hget
    refine .inr ⟨hnil, t, hget, ⟨hstaged.oldGeneration, hstaged.expected, ?_, ?_⟩, ?_, ?_, ?_⟩
    · rw [hstaged.routerCandidate]
      simp only [hmem]
    · rw [hstaged.policyCandidate]
      simp only [hmem]
    · intro c
      rw [hcommitted]
      constructor
      · exact fun hc => nomatch hc
      · exact fun hc => nomatch hc.2
    · exact fun hp => absurd (hpublished.symm.trans hp) Bool.false_ne_true
    · exact fun _ => ⟨not_complete_nil hnil, h.pair⟩

theorem Committing.openFor (h : Committing task host es done v) : OpenFor task es v := by
  intro t hget
  rcases h.routing with ⟨-, hnone, -⟩ | ⟨hne, -⟩
  · rw [hnone] at hget
    cases hget
  · exact (expected_ne_nil htask hne).imp (h.mem_names _).mpr (h.mem_names _).mpr

/-- A commit failed: the commits before it are to be rolled back. -/
theorem Committing.recovering (h : Committing task host es done v) {entry : RuntimeEntryPrepared}
    (hsplit : es = done ++ entry :: rest) : Recovering task host es done v := by
  have hord := h.entries.ordered
  rw [hsplit] at hord
  have hdns : .dns ∉ names done := by
    intro hc
    have hlt := rank_lt_of_split hord hc
    have hle : entry.component.rank ≤ 5 := by cases entry.component <;> decide
    have : TransactionalReloadComponent.dns.rank = 5 := rfl
    omega
  have hsub : ∀ e ∈ done, e ∈ es := fun e he => hsplit ▸ List.mem_append_left _ he
  have hrestore : .outbound ∈ names done → OutboundToRestore done v := by
    intro hc
    obtain ⟨value, hv, -⟩ := exists_outbound (fun e he => h.genuine e (hsub e he)) hc
    obtain ⟨hon, hflags, hold⟩ := h.outbound_on value hv
    exact ⟨⟨value, hv, hon, hflags⟩, hold⟩
  have hback : .outbound ∉ names done → OutboundBack host es v := fun hc =>
    ⟨(h.outbound_off hc).1, (h.outbound_off hc).2⟩
  refine ⟨h.entries, ⟨entry :: rest, hsplit⟩, h.frame, h.oldKept, (h.dns_off hdns).1,
    fun value hv => (h.dns_off hdns).2 value (hsub _ hv), h.openFor htask, ?_⟩
  rcases h.routing with ⟨hnil, hnone, hpair⟩ | ⟨hne, t, ht⟩
  · have hun : Unpublished task host v := ⟨hpair, fun t ht => by rw [hnone] at ht; cases ht⟩
    by_cases hout : .outbound ∈ names done
    · exact .inr (.inl ⟨hun, hrestore hout, hnil⟩)
    · exact .inl ⟨hun, hback hout⟩
  · cases hp : t.published with
    | true =>
      obtain ⟨hcomplete, hnext⟩ := ht.published hp
      have hpub : Published task host done v := ⟨⟨t, ht.get, hp, ht.staged, hnext⟩, hne, hcomplete⟩
      by_cases hout : .outbound ∈ names done
      · exact .inr (.inr (.inr ⟨hpub, hrestore hout⟩))
      · exact .inr (.inr (.inl ⟨hpub, hback hout, fun hmem => hout (hcomplete _ hmem)⟩))
    | false =>
      obtain ⟨hnot, hpair⟩ := ht.unpublished hp
      have hout : .outbound ∉ names done := fun hc => hnot (h.complete_of_outbound htask hc)
      refine .inl ⟨⟨hpair, fun t' ht' => ?_⟩, hback hout⟩
      rw [ht.get] at ht'
      cases ht'
      exact hp

/-- Nothing visible has been committed yet. -/
theorem Committing.before (h : Committing task host es done v) (hout : .outbound ∉ names done)
    (hdns : .dns ∉ names done)
    (hpart : task.expectedRoutingComponents ≠ [] → ¬ Complete task done) :
    Cleaning task host false es v := by
  refine ⟨h.genuine, h.frame, h.openFor htask, ?_, (h.outbound_off hout).1, (h.dns_off hdns).1⟩
  rcases h.routing with ⟨-, -, hpair⟩ | ⟨hne, t, ht⟩
  · exact hpair
  · cases hp : t.published with
    | true => exact absurd (ht.published hp).1 (hpart hne)
    | false => exact (ht.unpublished hp).2

theorem Committing.candidatePair (h : Committing task host es es v) :
    CandidatePair task host v.activePair := by
  rcases h.routing with ⟨hnil, -, hpair⟩ | ⟨-, t, ht⟩
  · obtain ⟨hr, hp⟩ := (expected_eq_nil_iff htask).mp hnil
    rw [hpair]
    exact ⟨(if_neg hr).symm, (if_neg hp).symm, fun _ => rfl⟩
  · have hcomplete : Complete task es := fun c hc =>
      (h.mem_names _).mpr (changed_of_expected htask hc)
    cases hp : t.published with
    | true =>
      obtain ⟨-, manager, hnext⟩ := ht.published hp
      rw [hnext]
      exact ht.staged.candidatePair manager
    | false => exact absurd hcomplete (ht.unpublished hp).1

theorem Committing.after (h : Committing task host es es v) : Cleaning task host true es v := by
  refine ⟨h.genuine, h.frame, h.openFor htask, h.candidatePair htask, fun hc => ?_, fun hc => ?_,
    fun hc => ?_, fun hc => ?_⟩
  · obtain ⟨value, hv, hof⟩ := exists_outbound h.genuine ((h.mem_names _).mpr hc)
    exact ⟨value, hof, (h.outbound_on value hv).1⟩
  · exact (h.outbound_off fun hm => hc ((h.mem_names _).mp hm)).1
  · obtain ⟨value, hv, hof⟩ := exists_dns h.genuine ((h.mem_names _).mpr hc)
    exact ⟨value, hof, h.dns_on value hv⟩
  · exact (h.dns_off fun hm => hc ((h.mem_names _).mp hm)).1

end Expected

theorem Preparing.unpublished (h : Preparing task host es v) : Unpublished task host v :=
  ⟨h.pair, fun t ht => (h.staged t ht).2.2⟩

theorem Preparing.recovering (h : Preparing task host es v) : Recovering task host es es v :=
  ⟨h.entries, ⟨[], (List.append_nil es).symm⟩, h.frame, h.oldKept, h.dns, h.uncommitted.dns,
    h.openFor, .inl ⟨h.unpublished, h.outbound, h.uncommitted.outbound⟩⟩

theorem Preparing.before (h : Preparing task host es v) : Cleaning task host false es v :=
  ⟨h.entries.genuine, h.frame, h.openFor, h.pair, h.outbound, h.dns⟩

/-- With nothing left to roll back everything is as before. -/
theorem Recovering.before (h : Recovering task host es [] v) : Cleaning task host false es v := by
  refine ⟨h.entries.genuine, h.frame, h.openFor, ?_⟩
  rcases h.undone with ⟨hun, hback⟩ | ⟨-, ⟨⟨value, hv, -⟩, -⟩, -⟩ | ⟨hpub, -⟩ | ⟨hpub, -⟩
  · exact ⟨hun.pair, hback.off, h.dns⟩
  · cases hv
  · exact absurd hpub.complete (not_complete_nil hpub.expected)
  · exact absurd hpub.complete (not_complete_nil hpub.expected)

/-- With nothing left to clean up, no transaction is open. -/
theorem Cleaning.closed {ok : Bool} (h : Cleaning task host ok [] v) (id : String) :
    v.transactions.get id = none := by
  by_cases hid : id = task.transactionId
  · subst hid
    cases hget : v.transactions.get task.transactionId with
    | none => rfl
    | some t =>
      rcases h.openFor t hget with hm | hm
      · cases hm
      · cases hm
  · exact h.frame.transactions id hid

/-- Both show the same generations and carry-over counters. -/
structure SamePlane (v w : ReloadView) : Prop where
  activePair : w.activePair = v.activePair
  activeOutbound : w.activeOutbound = v.activeOutbound
  activeEntry : w.activeEntry = v.activeEntry
  activeDns : w.activeDns = v.activeDns
  cacheCarriedOver : w.cacheCarriedOver = v.cacheCarriedOver
  cacheDropped : w.cacheDropped = v.cacheDropped

theorem OutboundOff.congr {w : ReloadView} (h : OutboundOff host v) (hw : SamePlane v w) :
    OutboundOff host w :=
  ⟨hw.activeOutbound.trans h.activeOutbound, hw.activeEntry.trans h.activeEntry⟩

theorem DnsOff.congr {w : ReloadView} (h : DnsOff host v) (hw : SamePlane v w) : DnsOff host w :=
  ⟨hw.activeDns.trans h.activeDns, hw.cacheCarriedOver.trans h.cacheCarriedOver,
    hw.cacheDropped.trans h.cacheDropped⟩

theorem Before.congr {w : ReloadView} (h : Before host v) (hw : SamePlane v w) : Before host w :=
  ⟨hw.activePair.trans h.pair, h.outbound.congr hw, h.dns.congr hw⟩

theorem After.congr {w : ReloadView} (h : After task host v) (hw : SamePlane v w) :
    After task host w := by
  refine ⟨hw.activePair.symm ▸ h.pair, fun hc => ?_, fun hc => (h.outbound_kept hc).congr hw,
    fun hc => ?_, fun hc => (h.dns_kept hc).congr hw⟩
  · obtain ⟨value, hof, hon⟩ := h.outbound_changed hc
    exact ⟨value, hof, hw.activeOutbound.trans hon.activeOutbound,
      hw.activeEntry.trans hon.activeEntry⟩
  · obtain ⟨value, hof, hactive⟩ := h.dns_changed hc
    exact ⟨value, hof, hw.activeDns.trans hactive⟩

/-- Nothing here is about the old generation. -/
theorem Cleaning.of_oldEntry {ok : Bool} (h : Cleaning task host ok rest v)
    (oldEntry : Option RuntimeEntry) :
    Cleaning task host ok rest { v with oldEntry := oldEntry } := by
  have hplane : SamePlane v { v with oldEntry := oldEntry } := ⟨rfl, rfl, rfl, rfl, rfl, rfl⟩
  refine ⟨h.genuine, ⟨h.frame.config, h.frame.generation, h.frame.transactions⟩, h.openFor, ?_⟩
  have hstate := h.state
  cases ok with
  | true => exact After.congr hstate hplane
  | false => exact Before.congr hstate hplane

/-! ## Routing and outbound together -/

theorem Before.together (h : Before host v) : Together task host v :=
  fun _ => .inl ⟨h.pair, h.outbound⟩

theorem After.together
    (htask : task.expectedRoutingComponents = expectedRoutingComponents task.changedComponents)
    (h : After task host v) : Together task host v :=
  fun hexp => .inr ⟨h.pair, h.outbound_changed (changed_of_expected htask hexp)⟩

theorem Preparing.together (h : Preparing task host es v) : Together task host v :=
  fun _ => .inl ⟨h.pair, h.outbound⟩

theorem Committing.together
    (htask : task.expectedRoutingComponents = expectedRoutingComponents task.changedComponents)
    (h : Committing task host es done v) : Together task host v := by
  intro hexp
  obtain ⟨rest, hrest⟩ := h.initial
  rcases h.routing with ⟨hnil, -⟩ | ⟨-, t, ht⟩
  · rw [hnil] at hexp
    cases hexp
  · by_cases hout : .outbound ∈ names done
    · refine .inr ⟨?_, ?_⟩
      · cases hp : t.published with
        | true =>
          obtain ⟨-, manager, hnext⟩ := ht.published hp
          rw [hnext]
          exact ht.staged.candidatePair manager
        | false => exact absurd (h.complete_of_outbound htask hout) (ht.unpublished hp).1
      · have hsub : ∀ e ∈ done, e ∈ es := fun e he => hrest ▸ List.mem_append_left _ he
        obtain ⟨value, hv, hof⟩ := exists_outbound (fun e he => h.genuine e (hsub e he)) hout
        exact ⟨value, hof, (h.outbound_on value hv).1⟩
    · refine .inl ⟨?_, (h.outbound_off hout).1⟩
      cases hp : t.published with
      | true => exact absurd ((ht.published hp).1 _ hexp) hout
      | false => exact (ht.unpublished hp).2

theorem Recovering.together (h : Recovering task host es rest v) : Together task host v := by
  intro hexp
  obtain ⟨tail, htail⟩ := h.initial
  rcases h.undone with ⟨hun, hback⟩ | ⟨-, -, hnil⟩ | ⟨-, -, hnot⟩ | ⟨hpub, hrestore⟩
  · exact .inl ⟨hun.pair, hback.off⟩
  · rw [hnil] at hexp
    cases hexp
  · exact absurd hexp hnot
  · obtain ⟨t, -, -, hstaged, manager, hnext⟩ := hpub.transaction
    obtain ⟨value, hv, hon, -⟩ := hrestore.on
    refine .inr ⟨?_, value, ?_, hon⟩
    · rw [hnext]
      exact hstaged.candidatePair manager
    · have hgen := h.entries.genuine _ (htail ▸ List.mem_append_left _ hv)
      cases hgen with
      | outbound _ hof => exact hof

theorem Cleaning.together
    (htask : task.expectedRoutingComponents = expectedRoutingComponents task.changedComponents)
    {ok : Bool} (h : Cleaning task host ok rest v) : Together task host v := by
  have hstate := h.state
  cases ok with
  | true => exact After.together htask hstate
  | false => exact Before.together hstate

end Parts

end RuntimeTransaction

end Sepigs
