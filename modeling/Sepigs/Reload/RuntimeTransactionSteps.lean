import Sepigs.Reload.RuntimeTransaction

/-!
# The steps of a runtime reload

Every operation of the adapters leads from one part of a reload to the next.  Each
obligation of the executor's rule is one lemma, by cases on the component.
-/

namespace Sepigs

open RuntimeReloadIntegration

namespace RuntimeTransaction

/-- One awaited operation, for some choice of the conditions. -/
def Performs (task : ReloadTask) (op : RuntimeOperation) (s : RuntimeHost) (reply : op.Reply)
    (s' : RuntimeHost) : Prop :=
  ∃ conditions, s.perform task conditions op = (reply, s')

section Steps

variable {task : ReloadTask} {host s s' : RuntimeHost} {es done rest : List RuntimeEntryPrepared}

/-! ## Prepare -/

theorem Entries.push {entry : RuntimeEntryPrepared} (h : Entries task host es)
    (hgen : Genuine task host entry) {tail : List TransactionalReloadComponent}
    (hnext : names es ++ entry.component :: tail = createRuntimeComponents task.changedComponents) :
    Entries task host (es ++ [entry]) := by
  refine ⟨fun e he => ?_, tail, ?_⟩
  · rcases List.mem_append.mp he with he | he
    · exact h.genuine e he
    · rw [List.mem_singleton.mp he]
      exact hgen
  · rw [← hnext, names, List.map_append, List.append_assoc]
    rfl

/-- Preparing a component that stages nothing. -/
theorem Preparing.push {v : ReloadView} {entry : RuntimeEntryPrepared}
    (h : Preparing task host es v) (hgen : Genuine task host entry)
    {tail : List TransactionalReloadComponent}
    (hnext : names es ++ entry.component :: tail = createRuntimeComponents task.changedComponents)
    (hrouter : entry.component ≠ .router) (hpolicy : entry.component ≠ .policy)
    (flags : Nat → OutboundPreparedFlags) (committed : Nat → Bool) (nextRef : Nat)
    (huncommitted : Uncommitted (es ++ [entry])
      { v with outboundFlags := flags, dnsCommitted := committed, nextRef := nextRef }) :
    Preparing task host (es ++ [entry])
      { v with outboundFlags := flags, dnsCommitted := committed, nextRef := nextRef } := by
  have hr : .router ∈ names (es ++ [entry]) ↔ .router ∈ names es := by
    rw [mem_names_append]
    exact or_iff_left (Ne.symm hrouter)
  have hp : .policy ∈ names (es ++ [entry]) ↔ .policy ∈ names es := by
    rw [mem_names_append]
    exact or_iff_left (Ne.symm hpolicy)
  refine ⟨h.entries.push hgen hnext, ⟨h.frame.config, h.frame.generation, h.frame.transactions⟩,
    h.pair, ⟨h.outbound.activeOutbound, h.outbound.activeEntry⟩, h.oldKept,
    ⟨h.dns.activeDns, h.dns.cacheCarriedOver, h.dns.cacheDropped⟩, huncommitted,
    fun t ht => ?_, fun hm => ?_, fun t ht => ?_⟩
  · rw [hr, hp]
    exact h.openFor t ht
  · rw [hr, hp] at hm
    exact h.opened hm
  · obtain ⟨hstaged, hrest⟩ := h.staged t ht
    refine ⟨⟨hstaged.oldGeneration, hstaged.expected, ?_, ?_⟩, hrest⟩
    · simp only [hr]
      exact hstaged.routerCandidate
    · simp only [hp]
      exact hstaged.policyCandidate

/-- The transaction a candidate is staged in: the open one, or a new one. -/
theorem Preparing.base (h : Preparing task host es (s.view host.registry.activeGenerationId)) :
    let t := (s.routing.transactions.get task.transactionId).getD
      (s.routing.opened task.expectedRoutingComponents)
    Staged task host (names es) t ∧ t.committed = [] ∧ t.published = false := by
  cases hget : s.routing.transactions.get task.transactionId with
  | some t => exact h.staged t hget
  | none =>
    have hnone : ¬ (.router ∈ names es ∨ .policy ∈ names es) := by
      intro hm
      obtain ⟨t, ht⟩ := h.opened hm
      rw [show s.routing.transactions.get task.transactionId = some t from ht] at hget
      cases hget
    rw [not_or] at hnone
    exact ⟨⟨h.pair, rfl, (if_neg hnone.1).symm, (if_neg hnone.2).symm⟩, rfl, rfl⟩

/-- Staging a router or policy candidate. -/
theorem Preparing.stage {v : ReloadView} {entry : RuntimeEntryPrepared}
    (h : Preparing task host es v) (hgen : Genuine task host entry)
    {tail : List TransactionalReloadComponent}
    (hnext : names es ++ entry.component :: tail = createRuntimeComponents task.changedComponents)
    (hc : entry.component = .router ∨ entry.component = .policy)
    {transactions : KeyMap String RoutingTransaction} {t : RoutingTransaction}
    (hget : ∀ k, transactions.get k =
      if k = task.transactionId then some t else v.transactions.get k)
    (hstaged : Staged task host (names (es ++ [entry])) t) (hcommitted : t.committed = [])
    (hpublished : t.published = false) :
    Preparing task host (es ++ [entry]) { v with transactions := transactions } := by
  have hself : transactions.get task.transactionId = some t := (hget _).trans (if_pos rfl)
  have hmem : .router ∈ names (es ++ [entry]) ∨ .policy ∈ names (es ++ [entry]) := by
    rw [mem_names_append, mem_names_append]
    exact hc.imp (fun h => .inr h.symm) fun h => .inr h.symm
  have hkind : ∀ c prepared, c = .outbound ∨ c = .dns →
      (⟨c, prepared⟩ : RuntimeEntryPrepared) ∈ es ++ [entry] → ⟨c, prepared⟩ ∈ es := by
    intro c prepared hcd he
    rcases List.mem_append.mp he with he | he
    · exact he
    · rw [← List.mem_singleton.mp he] at hc
      rcases hcd with rfl | rfl <;> simp at hc
  refine ⟨h.entries.push hgen hnext, ⟨h.frame.config, h.frame.generation, fun id hid => ?_⟩,
    h.pair, ⟨h.outbound.activeOutbound, h.outbound.activeEntry⟩, h.oldKept,
    ⟨h.dns.activeDns, h.dns.cacheCarriedOver, h.dns.cacheDropped⟩,
    ⟨fun value hv => h.uncommitted.outbound value (hkind _ _ (.inl rfl) hv),
      fun value hv => h.uncommitted.dns value (hkind _ _ (.inr rfl) hv)⟩,
    fun _ _ => hmem, fun _ => ⟨t, hself⟩, fun t' ht' => ?_⟩
  · refine (hget id).trans ?_
    rw [if_neg hid]
    exact h.frame.transactions id hid
  · cases hself.symm.trans ht'
    exact ⟨hstaged, hcommitted, hpublished⟩

/-- The reply of a prepared component, past the deadline check. -/
theorem performs_prepare {c : TransactionalReloadComponent} {reply : Except String RuntimePrepared}
    (h : Performs task (.prepare c) s reply s') :
    (∃ message, reply = .error message ∧ s' = s) ∨
      ∃ conditions, s.prepare task conditions c = (reply, s') := by
  obtain ⟨conditions, h⟩ := h
  replace h : (if conditions.expired then
      (.error (deadlineExceeded s!"{c.label}.prepare"), s)
    else s.prepare task conditions c) = (reply, s') := h
  split at h
  · cases h
    exact .inl ⟨_, rfl, rfl⟩
  · exact .inr ⟨conditions, h⟩

section Expected

variable (htask : task.expectedRoutingComponents = expectedRoutingComponents task.changedComponents)

include htask

theorem expected_of_next {c : TransactionalReloadComponent}
    {tail : List TransactionalReloadComponent}
    (hnext : names es ++ c :: tail = createRuntimeComponents task.changedComponents)
    (hc : c = .router ∨ c = .policy) : task.expectedRoutingComponents ≠ [] := by
  have hmem : c ∈ task.changedComponents := by
    rw [← mem_createRuntimeComponents, ← hnext]
    exact List.mem_append_right _ List.mem_cons_self
  intro hnil
  obtain ⟨hr, hp⟩ := (expected_eq_nil_iff htask).mp hnil
  rcases hc with rfl | rfl
  · exact hr hmem
  · exact hp hmem

theorem Preparing.prepare_ok {c : TransactionalReloadComponent} {prepared : RuntimePrepared}
    {tail : List TransactionalReloadComponent}
    (hnext : names es ++ c :: tail = createRuntimeComponents task.changedComponents)
    (h : Preparing task host es (s.view host.registry.activeGenerationId))
    (hs : Performs task (.prepare c) s (.ok prepared) s') :
    Preparing task host (es ++ [⟨c, prepared⟩]) (s'.view host.registry.activeGenerationId) := by
  obtain ⟨message, hreply, -⟩ | ⟨conditions, hs⟩ := performs_prepare hs
  · cases hreply
  have hbase := h.base
  have hnodup : c ∉ names es := by
    have hord := createRuntimeComponents_ordered task.changedComponents
    rw [← hnext] at hord
    intro hc
    exact Nat.lt_irrefl _ ((List.pairwise_append.mp hord).2.2 c hc c List.mem_cons_self)
  -- The entries of a kind that is not there yet.
  have hnot : ∀ prepared', ⟨c, prepared'⟩ ∉ es := fun _ hm =>
    hnodup (List.mem_map_of_mem hm)
  have hlast : ∀ c' prepared', c' ≠ c → (⟨c', prepared'⟩ : RuntimeEntryPrepared) ∈
      es ++ [⟨c, prepared⟩] → ⟨c', prepared'⟩ ∈ es := by
    intro c' prepared' hne hm
    rcases List.mem_append.mp hm with hm | hm
    · exact hm
    · cases List.mem_singleton.mp hm
      exact absurd rfl hne
  have hkeep : ∀ v : ReloadView, c ≠ .outbound → c ≠ .dns → Uncommitted es v →
      Uncommitted (es ++ [⟨c, prepared⟩]) v := fun v ho hd hun =>
    ⟨fun value hv => hun.outbound value (hlast _ _ (Ne.symm ho) hv),
      fun value hv => hun.dns value (hlast _ _ (Ne.symm hd) hv)⟩
  cases c with
  | metrics =>
    simp only [RuntimeHost.prepare, checked] at hs
    split at hs
    · cases hs
    · cases hs
      exact h.push .metrics hnext (by decide) (by decide) _ _ _
        (hkeep _ (by decide) (by decide) h.uncommitted)
  | dashboard =>
    simp only [RuntimeHost.prepare, checked] at hs
    split at hs
    · cases hs
    · cases hs
      exact h.push .dashboard hnext (by decide) (by decide) _ _ _
        (hkeep _ (by decide) (by decide) h.uncommitted)
  | router =>
    rcases RouterRuntimeAdapter.prepare_spec task conditions s
      (expected_of_next htask hnext (.inl rfl)) with ⟨message, he⟩ | ⟨routing, he, hactive, hget⟩
    · cases hs.symm.trans he
    · cases hs.symm.trans he
      obtain ⟨hstaged, hcommitted, hpublished⟩ := hbase
      have hcand : RouterRuntimeAdapter.candidateGeneration task s =
          RouterRuntimeAdapter.candidateGeneration task host := by
        unfold RouterRuntimeAdapter.candidateGeneration
        rw [show s.routing.activeGeneration = host.routing.activeGeneration from h.pair]
      have hview : ({ s with routing := routing } : RuntimeHost).view
          host.registry.activeGenerationId =
            { s.view host.registry.activeGenerationId with transactions := routing.transactions } := by
        simp only [RuntimeHost.view, hactive]
      rw [hview]
      refine h.stage .router hnext (.inl rfl) hget ?_ hcommitted hpublished
      refine ⟨hstaged.oldGeneration, hstaged.expected, ?_, hstaged.policyCandidate.trans ?_⟩
      · rw [if_pos ((mem_names_append _).mpr (.inr rfl)), hcand]
      · simp
  | policy =>
    rcases PolicyRuntimeAdapter.prepare_spec task conditions s
      (expected_of_next htask hnext (.inr rfl)) with ⟨message, he⟩ | ⟨routing, he, hactive, hget⟩
    · cases hs.symm.trans he
    · cases hs.symm.trans he
      obtain ⟨hstaged, hcommitted, hpublished⟩ := hbase
      have hcand : PolicyRuntimeAdapter.candidateGeneration task s =
          PolicyRuntimeAdapter.candidateGeneration task host := by
        unfold PolicyRuntimeAdapter.candidateGeneration
        rw [show s.routing.activeGeneration = host.routing.activeGeneration from h.pair]
      have hview : ({ s with routing := routing } : RuntimeHost).view
          host.registry.activeGenerationId =
            { s.view host.registry.activeGenerationId with transactions := routing.transactions } := by
        simp only [RuntimeHost.view, hactive]
      rw [hview]
      refine h.stage .policy hnext (.inr rfl) hget ?_ hcommitted hpublished
      refine ⟨hstaged.oldGeneration, hstaged.expected, hstaged.routerCandidate.trans ?_, ?_⟩
      · simp
      · rw [if_pos ((mem_names_append _).mpr (.inr rfl)), hcand]
  | outbound =>
    rcases OutboundRuntimeAdapter.prepare_cases task conditions s with ⟨message, registry, he, -⟩ | he
    · cases hs.symm.trans he
    · cases hs.symm.trans he
      have hof : OutboundOf task host (OutboundRuntimeAdapter.preparedValue task s) :=
        ⟨s, rfl, h.outbound.activeOutbound⟩
      refine h.push (.outbound _ hof) hnext (fun h => by cases h) (fun h => by cases h) _ _ _ ⟨fun value hv => ?_,
        fun value hv => h.uncommitted.dns value (hlast _ _ (by decide) hv)⟩
      rcases List.mem_append.mp hv with hv | hv
      · exact absurd hv (hnot _)
      · cases List.mem_singleton.mp hv
        exact Function.update_self _ _ _
  | dns =>
    rcases DnsRuntimeAdapter.prepare_cases task conditions s with ⟨message, dns, he, -⟩ | he
    · cases hs.symm.trans he
    · cases hs.symm.trans he
      have hactive : s.dns.activeGeneration = host.dns.activeGeneration := h.dns.activeDns
      have hof : DnsOf task host (DnsRuntimeAdapter.preparedValue task conditions s) :=
        ⟨hactive, rfl, congrArg (fun g : DNSGeneration => g.sequence + 1) hactive, rfl⟩
      refine h.push (.dns _ hof) hnext (fun h => by cases h) (fun h => by cases h) _ _ _
        ⟨fun value hv => h.uncommitted.outbound value (hlast _ _ (by decide) hv),
          fun value hv => ?_⟩
      rcases List.mem_append.mp hv with hv | hv
      · exact absurd hv (hnot _)
      · cases List.mem_singleton.mp hv
        exact Function.update_self _ _ _

/-- A prepare that rejects leaves no trace the reload could see. -/
theorem Preparing.prepare_error {c : TransactionalReloadComponent} {message : String}
    {tail : List TransactionalReloadComponent}
    (hnext : names es ++ c :: tail = createRuntimeComponents task.changedComponents)
    (hs : Performs task (.prepare c) s (.error message) s') (oldGenerationId : String) :
    s'.view oldGenerationId = s.view oldGenerationId ∧
      ∀ registered, Lifecycle s.registry registered → Lifecycle s'.registry registered := by
  obtain ⟨message, -, rfl⟩ | ⟨conditions, hs⟩ := performs_prepare hs
  · exact ⟨rfl, fun _ hl => hl⟩
  cases c with
  | metrics =>
    obtain rfl : s = s' := congrArg Prod.snd hs
    exact ⟨rfl, fun _ hl => hl⟩
  | dashboard =>
    obtain rfl : s = s' := congrArg Prod.snd hs
    exact ⟨rfl, fun _ hl => hl⟩
  | router =>
    rcases RouterRuntimeAdapter.prepare_spec task conditions s
      (expected_of_next htask hnext (.inl rfl)) with ⟨message, he⟩ | ⟨routing, he, -⟩
    · cases hs.symm.trans he
      exact ⟨rfl, fun _ hl => hl⟩
    · cases hs.symm.trans he
  | policy =>
    rcases PolicyRuntimeAdapter.prepare_spec task conditions s
      (expected_of_next htask hnext (.inr rfl)) with ⟨message, he⟩ | ⟨routing, he, -⟩
    · cases hs.symm.trans he
      exact ⟨rfl, fun _ hl => hl⟩
    · cases hs.symm.trans he
  | outbound =>
    rcases OutboundRuntimeAdapter.prepare_cases task conditions s with
      ⟨message, registry, he, rfl | rfl⟩ | he
    · cases hs.symm.trans he
      exact ⟨rfl, fun _ hl => hl⟩
    · cases hs.symm.trans he
      exact ⟨rfl, fun _ hl => hl.congr rfl rfl⟩
    · cases hs.symm.trans he
  | dns =>
    rcases DnsRuntimeAdapter.prepare_cases task conditions s with
      ⟨message, dns, he, rfl | rfl⟩ | he
    · cases hs.symm.trans he
      exact ⟨rfl, fun _ hl => hl⟩
    · cases hs.symm.trans he
      exact ⟨rfl, fun _ hl => hl⟩
    · cases hs.symm.trans he

end Expected

/-! ## Commit -/

theorem deadlineExceeded_not_blank (label : String) :
    JsString.isBlank (deadlineExceeded label) = false := by
  rw [JsString.isBlank_eq_all]
  unfold deadlineExceeded
  simp only [String.toList_append]
  rfl

theorem performs_commit {entry : RuntimeEntryPrepared} {reply : Except String Unit}
    (h : Performs task (.commit entry) s reply s') :
    (∃ label, reply = .error (deadlineExceeded label) ∧ s' = s) ∨
      ∃ conditions, s.commit conditions entry.prepared = (reply, s') := by
  obtain ⟨conditions, h⟩ := h
  replace h : (if conditions.expired then
      (.error (deadlineExceeded s!"{entry.component.label}.commit"), s)
    else s.commit conditions entry.prepared) = (reply, s') := h
  split at h
  · cases h
    exact .inl ⟨_, rfl, rfl⟩
  · exact .inr ⟨conditions, h⟩

theorem RoutingComponent.component_inj {c d : RoutingComponent} (h : c.component = d.component) :
    c = d := by
  cases c <;> cases d <;> first | rfl | cases h

/-- A commit of a component outside the routing transaction. -/
theorem RoutingCommitting.push {v v' : ReloadView} {entry : RuntimeEntryPrepared}
    (h : RoutingCommitting task host done v)
    (hc : ∀ c ∈ task.expectedRoutingComponents, c.component ≠ entry.component)
    (htransactions : v'.transactions = v.transactions) (hpair : v'.activePair = v.activePair) :
    RoutingCommitting task host (done ++ [entry]) v' := by
  have hmem : ∀ c ∈ task.expectedRoutingComponents,
      (c.component ∈ names (done ++ [entry]) ↔ c.component ∈ names done) := by
    intro c hmem
    rw [mem_names_append]
    exact or_iff_left (hc c hmem)
  have hcomplete : Complete task (done ++ [entry]) ↔ Complete task done :=
    forall_congr' fun c => forall_congr' fun hc => hmem c hc
  rcases h with ⟨hnil, hnone, hold⟩ | ⟨hne, t, ht⟩
  · exact .inl ⟨hnil, htransactions ▸ hnone, hpair.trans hold⟩
  · refine .inr ⟨hne, t, htransactions ▸ ht.get, ht.staged, fun c => ?_, ?_, ?_⟩
    · rw [ht.committed]
      exact and_congr_right fun hc => (hmem c hc).symm
    · rw [hcomplete, hpair]
      exact ht.published
    · rw [hcomplete, hpair]
      exact ht.unpublished

/-- A commit of a component of the routing transaction: it succeeds, and publishes
the pair if it is the last one. -/
theorem RoutingCommits.commit {t : RoutingTransaction} {oldGenerationId : String}
    (h : RoutingCommits task host done (s.view oldGenerationId) t) {c : RoutingComponent}
    (entry : RuntimeEntryPrepared) (hexp : c ∈ task.expectedRoutingComponents)
    (hchanged : c.component ∈ task.changedComponents) (hc : c.component = entry.component) :
    ∃ routing, s.routing.commit task.transactionId c = .ok routing ∧
      (∀ k, k ≠ task.transactionId →
        routing.transactions.get k = s.routing.transactions.get k) ∧
      ∀ v : ReloadView, v.transactions = routing.transactions →
        v.activePair = routing.activeGeneration →
          ∃ t', RoutingCommits task host (done ++ [entry]) v t' := by
  have hget : s.routing.transactions.get task.transactionId = some t := h.get
  have hmem : ∀ d : RoutingComponent, d.component ∈ names (done ++ [entry]) ↔
      d.component ∈ names done ∨ d = c := by
    intro d
    rw [mem_names_append, ← hc]
    exact or_congr_right ⟨RoutingComponent.component_inj, fun h => h ▸ rfl⟩
  have hcommitted : ∀ d, d ∈ c :: t.committed ↔
      d ∈ task.expectedRoutingComponents ∧ d.component ∈ names (done ++ [entry]) := by
    intro d
    rw [List.mem_cons, h.committed, hmem]
    constructor
    · rintro (rfl | ⟨h1, h2⟩)
      · exact ⟨hexp, .inr rfl⟩
      · exact ⟨h1, .inl h2⟩
    · rintro ⟨h1, h2 | rfl⟩
      · exact .inr ⟨h1, h2⟩
      · exact .inl rfl
  have hcomplete : RoutingGenerationRuntime.complete { t with committed := c :: t.committed } = true ↔
      Complete task (done ++ [entry]) := by
    rw [RoutingGenerationRuntime.complete_iff]
    show (∀ d ∈ t.expected, d ∈ c :: t.committed) ↔ _
    rw [h.staged.expected]
    exact forall_congr' fun d => forall_congr' fun hd =>
      (hcommitted d).trans (and_iff_right hd)
  refine ⟨_, RoutingGenerationRuntime.commit_eq hget (h.staged.expected ▸ hexp) ?_ ?_, ?_, ?_⟩
  · rintro rfl
    have hstaged : TransactionalReloadComponent.router ∈ task.changedComponents := hchanged
    rw [h.staged.routerCandidate, if_pos hstaged]
    exact fun h => by cases h
  · rintro rfl
    have hstaged : TransactionalReloadComponent.policy ∈ task.changedComponents := hchanged
    rw [h.staged.policyCandidate, if_pos hstaged]
    exact fun h => by cases h
  · intro k hk
    dsimp only
    split
    · exact (RoutingGenerationRuntime.get_publish k).trans (if_neg hk)
    · exact (RoutingGenerationRuntime.get_setTransaction _ _ _ k).trans (if_neg hk)
  · intro v htransactions hpair
    by_cases hall : Complete task (done ++ [entry])
    · rw [if_pos (hcomplete.mpr hall)] at htransactions hpair
      refine ⟨{ t with committed := c :: t.committed, published := true }, ?_,
        ⟨h.staged.oldGeneration, h.staged.expected, h.staged.routerCandidate,
          h.staged.policyCandidate⟩, hcommitted, fun _ => ⟨hall, s.routing.nextManager, hpair⟩,
        fun hp => by cases hp⟩
      rw [htransactions, RoutingGenerationRuntime.get_publish, if_pos rfl]
    · rw [if_neg fun h => hall (hcomplete.mp h)] at htransactions hpair
      have hun : t.published = false := by
        cases hp : t.published with
        | false => rfl
        | true =>
          refine absurd (fun d hd => ?_) hall
          exact (hmem d).mpr (.inl ((h.published hp).1 d hd))
      refine ⟨{ t with committed := c :: t.committed }, ?_,
        ⟨h.staged.oldGeneration, h.staged.expected, h.staged.routerCandidate,
          h.staged.policyCandidate⟩, hcommitted,
        fun hp => absurd (hun.symm.trans hp) Bool.false_ne_true,
        fun _ => ⟨hall, hpair.trans (h.unpublished hun).2⟩⟩
      rw [htransactions, RoutingGenerationRuntime.get_setTransaction, if_pos rfl]

/-- After a commit that leaves outbound alone. -/
theorem Committing.outbound_push {v : ReloadView} {entry : RuntimeEntryPrepared}
    (h : Committing task host es done v) (v' : ReloadView) (hc : entry.component ≠ .outbound)
    (hactive : v'.activeOutbound = v.activeOutbound) (hentry : v'.activeEntry = v.activeEntry)
    (hold : v'.oldEntry = v.oldEntry) (hflags : v'.outboundFlags = v.outboundFlags) :
    (.outbound ∉ names (done ++ [entry]) → OutboundOff host v' ∧ ∀ value,
      ⟨.outbound, .outbound value⟩ ∈ es → v'.outboundFlags value.ref = ⟨false, false, false⟩) ∧
    ∀ value, ⟨.outbound, .outbound value⟩ ∈ done ++ [entry] → OutboundOn value v' ∧
      v'.outboundFlags value.ref = ⟨true, true, false⟩ ∧ ∃ entry, v'.oldEntry = some entry := by
  constructor
  · intro hout
    obtain ⟨hoff, hf⟩ := h.outbound_off fun hm => hout ((mem_names_append _).mpr (.inl hm))
    rw [hflags]
    exact ⟨⟨hactive.trans hoff.activeOutbound, hentry.trans hoff.activeEntry⟩, hf⟩
  · intro value hv
    rcases List.mem_append.mp hv with hv | hv
    · obtain ⟨hon, hf⟩ := h.outbound_on value hv
      rw [hflags, hold]
      exact ⟨⟨hactive.trans hon.activeOutbound, hentry.trans hon.activeEntry⟩, hf⟩
    · exact absurd (List.mem_singleton.mp hv ▸ rfl) hc

/-- After a commit that leaves DNS alone. -/
theorem Committing.dns_push {v : ReloadView} {entry : RuntimeEntryPrepared}
    (h : Committing task host es done v) (v' : ReloadView) (hc : entry.component ≠ .dns)
    (hactive : v'.activeDns = v.activeDns) (hcarried : v'.cacheCarriedOver = v.cacheCarriedOver)
    (hdropped : v'.cacheDropped = v.cacheDropped) (hflags : v'.dnsCommitted = v.dnsCommitted) :
    (.dns ∉ names (done ++ [entry]) → DnsOff host v' ∧ ∀ value, ⟨.dns, .dns value⟩ ∈ es →
      v'.dnsCommitted value.candidateGeneration.ref = false) ∧
    ∀ value, ⟨.dns, .dns value⟩ ∈ done ++ [entry] → v'.activeDns = value.candidateGeneration := by
  constructor
  · intro hdns
    obtain ⟨hoff, hf⟩ := h.dns_off fun hm => hdns ((mem_names_append _).mpr (.inl hm))
    rw [hflags]
    exact ⟨⟨hactive.trans hoff.activeDns, hcarried.trans hoff.cacheCarriedOver,
      hdropped.trans hoff.cacheDropped⟩, hf⟩
  · intro value hv
    rcases List.mem_append.mp hv with hv | hv
    · exact hactive.trans (h.dns_on value hv)
    · exact absurd (List.mem_singleton.mp hv ▸ rfl) hc

theorem split_push {entry : RuntimeEntryPrepared} (h : es = done ++ entry :: rest) :
    ∃ rest', es = done ++ [entry] ++ rest' :=
  ⟨rest, by rw [h, List.append_assoc]; rfl⟩

/-- The commit of the router or of the policy candidate. -/
theorem Committing.commit_routing
    (htask : task.expectedRoutingComponents = expectedRoutingComponents task.changedComponents)
    {entry : RuntimeEntryPrepared} (hsplit : es = done ++ entry :: rest)
    (h : Committing task host es done (s.view host.registry.activeGenerationId))
    (c : RoutingComponent) (hc : c.component = entry.component) (hne : c ≠ .outbound) :
    ∃ routing, s.commitRouting task.transactionId c = (.ok (), { s with routing := routing }) ∧
      Committing task host es (done ++ [entry])
        (({ s with routing := routing } : RuntimeHost).view host.registry.activeGenerationId) := by
  have hchanged : c.component ∈ task.changedComponents := by
    rw [← h.mem_names, hc, hsplit, names, List.map_append, List.map_cons]
    exact List.mem_append_right _ List.mem_cons_self
  have hexp : c ∈ task.expectedRoutingComponents := by
    rw [htask]
    exact mem_expectedRoutingComponents.mpr ⟨hchanged, fun heq => absurd heq hne⟩
  rcases h.routing with ⟨hnil, -⟩ | ⟨hne', t, ht⟩
  · rw [hnil] at hexp
    cases hexp
  · obtain ⟨routing, hcommit, hothers, hnext⟩ := ht.commit entry hexp hchanged hc
    refine ⟨routing, ?_, ?_⟩
    · unfold RuntimeHost.commitRouting
      rw [hcommit]
    · have hcomp : entry.component = .router ∨ entry.component = .policy := by
        rw [← hc]
        cases c with
        | router => exact .inl rfl
        | policy => exact .inr rfl
        | outbound => exact absurd rfl hne
      have ho : entry.component ≠ .outbound := by rcases hcomp with h | h <;> simp [h]
      have hd : entry.component ≠ .dns := by rcases hcomp with h | h <;> simp [h]
      obtain ⟨hoff, hon⟩ := h.outbound_push (({ s with routing := routing } : RuntimeHost).view
        host.registry.activeGenerationId) ho rfl rfl rfl rfl
      obtain ⟨hdoff, hdon⟩ := h.dns_push (({ s with routing := routing } : RuntimeHost).view
        host.registry.activeGenerationId) hd rfl rfl rfl rfl
      refine ⟨h.genuine, h.all, split_push hsplit, ⟨h.frame.config, h.frame.generation, ?_⟩,
        h.oldKept, .inr ⟨hne', hnext _ rfl rfl⟩, hoff, hon, hdoff, hdon⟩
      exact fun id hid => (hothers id hid).trans (h.frame.transactions id hid)

/-- The values of a `preparedValue`, as the claims of `OutboundOf`. -/
theorem OutboundOf.fields {value : OutboundRuntimePrepared} (h : OutboundOf task host value) :
    value.oldGenerationId = host.registry.activeGenerationId ∧
    value.transactionId = task.transactionId ∧
    value.participatesInRoutingTransaction =
      decide (RoutingComponent.outbound ∈ task.expectedRoutingComponents) := by
  obtain ⟨s, rfl, hactive⟩ := h.eq_prepared
  exact ⟨hactive, rfl, rfl⟩

/-- The commit of the outbound candidate: it is refused, or the registry switches. -/
theorem Committing.commit_outbound
    (htask : task.expectedRoutingComponents = expectedRoutingComponents task.changedComponents)
    {value : OutboundRuntimePrepared}
    (hsplit : es = done ++ ⟨.outbound, .outbound value⟩ :: rest)
    (h : Committing task host es done (s.view host.registry.activeGenerationId)) :
    (∃ message, OutboundRuntimeAdapter.commit value s = (.error message, s)) ∨
    ∃ registry routing flags,
      s.registry.switchGeneration value.candidateGeneration value.candidateOutbounds = .ok registry ∧
      OutboundRuntimeAdapter.commit value s = (.ok (), { s with
        registry := registry, routing := routing, outboundFlags := flags }) ∧
      Committing task host es (done ++ [⟨.outbound, .outbound value⟩])
        (({ s with registry := registry, routing := routing, outboundFlags := flags } :
          RuntimeHost).view host.registry.activeGenerationId) := by
  have hord := h.entries.ordered
  rw [hsplit] at hord
  have hentry : (⟨.outbound, .outbound value⟩ : RuntimeEntryPrepared) ∈ es :=
    hsplit ▸ List.mem_append_right _ List.mem_cons_self
  have hnot : .outbound ∉ names done := not_mem_of_split hord
  have hof : OutboundOf task host value := by
    cases h.genuine _ hentry with
    | outbound _ hof => exact hof
  obtain ⟨holdId, htid, hpart⟩ := hof.fields
  obtain ⟨hoff, hflags⟩ := h.outbound_off hnot
  have hchanged : .outbound ∈ task.changedComponents :=
    (h.mem_names _).mp (List.mem_map_of_mem hentry)
  cases hswitch : s.registry.switchGeneration value.candidateGeneration value.candidateOutbounds with
  | error message =>
    exact .inl ⟨message, OutboundRuntimeAdapter.commit_of_switch_error hswitch⟩
  | ok registry =>
    obtain ⟨hfresh, ⟨old, hold⟩, hactive, hlive, -⟩ :=
      OutboundRuntimeRegistry.switchGeneration_spec hswitch
    have hid : s.registry.activeGenerationId = host.registry.activeGenerationId :=
      hoff.activeOutbound
    -- The routing transaction, if there is one, takes the commit.
    have hrouting : ∃ routing,
        (if value.participatesInRoutingTransaction then
          s.routing.commit value.transactionId .outbound = .ok routing else routing = s.routing) ∧
        (∀ k, k ≠ task.transactionId →
          routing.transactions.get k = s.routing.transactions.get k) ∧
        ∀ v : ReloadView, v.transactions = routing.transactions →
          v.activePair = routing.activeGeneration →
            RoutingCommitting task host (done ++ [⟨.outbound, .outbound value⟩]) v := by
      rw [hpart, htid]
      rcases h.routing with ⟨hnil, hnone, hpair⟩ | ⟨hne, t, ht⟩
      · refine ⟨s.routing, ?_, fun _ _ => rfl, fun v htransactions hpair' => ?_⟩
        · rw [hnil]
          rfl
        · exact .inl ⟨hnil, htransactions ▸ hnone, hpair'.trans hpair⟩
      · have hexp := outbound_expected htask hne hchanged
        obtain ⟨routing, hcommit, hothers, hnext⟩ := ht.commit
          ⟨.outbound, .outbound value⟩ hexp hchanged rfl
        refine ⟨routing, ?_, hothers, fun v htransactions hpair' => ?_⟩
        · rw [if_pos (decide_eq_true hexp)]
          exact hcommit
        · exact .inr ⟨hne, hnext v htransactions hpair'⟩
    obtain ⟨routing, hcommit, hothers, hnext⟩ := hrouting
    have hneId : host.registry.activeGenerationId ≠ value.candidateGeneration.id := by
      intro heq
      rw [← heq, ← hid, hold] at hfresh
      cases hfresh
    have holdEntry : registry.liveEntry host.registry.activeGenerationId =
        s.registry.liveEntry host.registry.activeGenerationId :=
      (hlive _).trans (if_neg hneId)
    have hmem : .outbound ∈ names (done ++ [⟨.outbound, .outbound value⟩]) :=
      (mem_names_append _).mpr (.inr rfl)
    refine .inr ⟨registry, routing, _, rfl,
      OutboundRuntimeAdapter.commit_of_switch hswitch hcommit, h.genuine, h.all, split_push hsplit,
      ⟨h.frame.config, h.frame.generation, fun id hid => ?_⟩, holdEntry.trans h.oldKept,
      hnext _ rfl rfl, fun hout => absurd hmem hout, fun value' hv => ?_,
      (h.dns_push _ ?_ ?_ ?_ ?_ ?_).1, (h.dns_push _ ?_ ?_ ?_ ?_ ?_).2⟩
    · exact (hothers id hid).trans (h.frame.transactions id hid)
    · rcases List.mem_append.mp hv with hv | hv
      · exact absurd (List.mem_map_of_mem hv) hnot
      · cases List.mem_singleton.mp hv
        refine ⟨⟨hactive, ?_⟩, ?_, old, ?_⟩
        · show registry.liveEntry registry.activeGenerationId = _
          rw [hactive, hlive, if_pos rfl]
        · refine (Function.update_self _ _ _).trans ?_
          rw [show s.outboundFlags value.ref = ⟨false, false, false⟩ from hflags value hentry]
        · rw [← hid] at holdEntry
          show registry.liveEntry host.registry.activeGenerationId = _
          rw [← hid, holdEntry, hold]
    all_goals first | rfl | exact fun heq => by cases heq

theorem rank_ge_two (c : RoutingComponent) : 2 ≤ c.component.rank := by
  cases c <;> decide

/-- The commit of a server: nothing of the data plane moves. -/
theorem Committing.commit_controlPlane {v : ReloadView} {entry : RuntimeEntryPrepared}
    (hsplit : es = done ++ entry :: rest) (h : Committing task host es done v)
    (hrank : entry.component.rank < 2) : Committing task host es (done ++ [entry]) v := by
  have ho : entry.component ≠ .outbound := fun heq => absurd hrank (by rw [heq]; decide)
  have hd : entry.component ≠ .dns := fun heq => absurd hrank (by rw [heq]; decide)
  obtain ⟨hoff, hon⟩ := h.outbound_push v ho rfl rfl rfl rfl
  obtain ⟨hdoff, hdon⟩ := h.dns_push v hd rfl rfl rfl rfl
  refine ⟨h.genuine, h.all, split_push hsplit, h.frame, h.oldKept, ?_, hoff, hon, hdoff, hdon⟩
  refine h.routing.push (fun c _ heq => ?_) rfl rfl
  have := rank_ge_two c
  rw [heq] at this
  omega

theorem Committing.commit_dns {value : DnsRuntimePrepared}
    (hsplit : es = done ++ ⟨.dns, .dns value⟩ :: rest)
    (h : Committing task host es done (s.view host.registry.activeGenerationId)) :
    Committing task host es (done ++ [⟨.dns, .dns value⟩])
      ((DnsRuntimeAdapter.commit value s).2.view host.registry.activeGenerationId) := by
  have hord := h.entries.ordered
  rw [hsplit] at hord
  have hnot : .dns ∉ names done := not_mem_of_split hord
  have hmem : .dns ∈ names (done ++ [⟨.dns, .dns value⟩]) := (mem_names_append _).mpr (.inr rfl)
  refine ⟨h.genuine, h.all, split_push hsplit,
    ⟨h.frame.config, h.frame.generation, h.frame.transactions⟩, h.oldKept, ?_,
    (h.outbound_push _ ?_ ?_ ?_ ?_ ?_).1, (h.outbound_push _ ?_ ?_ ?_ ?_ ?_).2,
    fun hdns => absurd hmem hdns, fun value' hv => ?_⟩
  · refine h.routing.push (fun c _ heq => ?_) rfl rfl
    cases c <;> cases heq
  all_goals first | rfl | exact fun heq => by cases heq | skip
  rcases List.mem_append.mp hv with hv | hv
  · exact absurd (List.mem_map_of_mem hv) hnot
  · cases List.mem_singleton.mp hv
    rfl

/-- **A commit that resolves.** -/
theorem Committing.commit_ok
    (htask : task.expectedRoutingComponents = expectedRoutingComponents task.changedComponents)
    {entry : RuntimeEntryPrepared} (hsplit : es = done ++ entry :: rest)
    (h : Committing task host es done (s.view host.registry.activeGenerationId))
    (hs : Performs task (.commit entry) s (.ok ()) s') :
    Committing task host es (done ++ [entry]) (s'.view host.registry.activeGenerationId) := by
  obtain ⟨label, hreply, -⟩ | ⟨conditions, hs⟩ := performs_commit hs
  · cases hreply
  have hgen := h.genuine entry (hsplit ▸ List.mem_append_right _ List.mem_cons_self)
  cases hgen with
  | metrics =>
    obtain rfl : s = s' := congrArg Prod.snd hs
    exact h.commit_controlPlane hsplit (show (0 : Nat) < 2 by decide)
  | dashboard =>
    obtain rfl : s = s' := congrArg Prod.snd hs
    exact h.commit_controlPlane hsplit (show (1 : Nat) < 2 by decide)
  | router =>
    obtain ⟨routing, hcommit, hnext⟩ := h.commit_routing htask hsplit .router rfl
      fun heq => by cases heq
    cases hs.symm.trans hcommit
    exact hnext
  | policy =>
    obtain ⟨routing, hcommit, hnext⟩ := h.commit_routing htask hsplit .policy rfl
      fun heq => by cases heq
    cases hs.symm.trans hcommit
    exact hnext
  | outbound value hof =>
    rcases h.commit_outbound htask hsplit with
      ⟨message, hcommit⟩ | ⟨registry, routing, flags, -, hcommit, hnext⟩
    · cases hs.symm.trans hcommit
    · cases hs.symm.trans hcommit
      exact hnext
  | dns value hof =>
    obtain rfl := congrArg Prod.snd hs
    exact h.commit_dns hsplit

/-- **A commit that rejects** has changed nothing; with a blank message, nothing of
the data plane is committed yet. -/
theorem Committing.commit_error
    (htask : task.expectedRoutingComponents = expectedRoutingComponents task.changedComponents)
    {entry : RuntimeEntryPrepared} (hsplit : es = done ++ entry :: rest)
    (h : Committing task host es done (s.view host.registry.activeGenerationId)) {message : String}
    (hs : Performs task (.commit entry) s (.error message) s') :
    s' = s ∧ (JsString.isBlank message = true →
      Cleaning task host false es (s.view host.registry.activeGenerationId)) := by
  obtain ⟨label, hreply, rfl⟩ | ⟨conditions, hs⟩ := performs_commit hs
  · cases hreply
    refine ⟨rfl, fun hblank => ?_⟩
    rw [deadlineExceeded_not_blank] at hblank
    cases hblank
  have hord := h.entries.ordered
  rw [hsplit] at hord
  have hgen := h.genuine entry (hsplit ▸ List.mem_append_right _ List.mem_cons_self)
  have hlow : entry.component.rank < 2 →
      Cleaning task host false es (s.view host.registry.activeGenerationId) := by
    intro hrank
    have hout : ∀ c ∈ names done, c.rank < 2 := fun c hc =>
      Nat.lt_trans (rank_lt_of_split hord hc) hrank
    refine h.before htask (fun hc => ?_) (fun hc => ?_) fun hne hcomplete => ?_
    · exact absurd (hout _ hc) (by decide)
    · exact absurd (hout _ hc) (by decide)
    · obtain ⟨c, hc⟩ := List.exists_mem_of_ne_nil _ hne
      have h1 := hout _ (hcomplete c hc)
      have h2 := rank_ge_two c
      omega
  cases hgen with
  | metrics =>
    obtain rfl : s = s' := congrArg Prod.snd hs
    exact ⟨rfl, fun _ => hlow (show (0 : Nat) < 2 by decide)⟩
  | dashboard =>
    obtain rfl : s = s' := congrArg Prod.snd hs
    exact ⟨rfl, fun _ => hlow (show (1 : Nat) < 2 by decide)⟩
  | router =>
    obtain ⟨routing, hcommit, -⟩ := h.commit_routing htask hsplit .router rfl
      fun heq => by cases heq
    cases hs.symm.trans hcommit
  | policy =>
    obtain ⟨routing, hcommit, -⟩ := h.commit_routing htask hsplit .policy rfl
      fun heq => by cases heq
    cases hs.symm.trans hcommit
  | outbound value hof =>
    rcases h.commit_outbound htask hsplit with
      ⟨message, hcommit⟩ | ⟨registry, routing, flags, -, hcommit, -⟩
    · cases hs.symm.trans hcommit
      have hnot : .outbound ∉ names done := not_mem_of_split hord
      refine ⟨rfl, fun _ => h.before htask hnot (fun hc => ?_) fun hne hcomplete => ?_⟩
      · exact absurd (rank_lt_of_split hord hc) (show ¬ (5 : Nat) < 4 by decide)
      · have hchanged : .outbound ∈ task.changedComponents := by
          rw [← h.mem_names, hsplit]
          exact List.mem_map_of_mem (List.mem_append_right _ List.mem_cons_self)
        exact hnot (hcomplete _ (outbound_expected htask hne hchanged))
    · cases hs.symm.trans hcommit
  | dns value hof => cases hs

/-! ## Rollback -/

theorem split_initial {entry : RuntimeEntryPrepared}
    (h : ∃ tail, es = rest ++ [entry] ++ tail) : ∃ tail, es = rest ++ entry :: tail := by
  obtain ⟨tail, htail⟩ := h
  exact ⟨tail, by rw [htail, List.append_assoc]; rfl⟩

theorem OutboundToRestore.pop {v v' : ReloadView} {entry : RuntimeEntryPrepared}
    (h : OutboundToRestore (rest ++ [entry]) v) (hc : entry.component ≠ .outbound)
    (hactive : v'.activeOutbound = v.activeOutbound) (hentry : v'.activeEntry = v.activeEntry)
    (hold : v'.oldEntry = v.oldEntry) (hflags : v'.outboundFlags = v.outboundFlags) :
    OutboundToRestore rest v' := by
  obtain ⟨value, hv, hon, hf⟩ := h.on
  refine ⟨⟨value, ?_, ⟨hactive.trans hon.activeOutbound, hentry.trans hon.activeEntry⟩,
    hflags ▸ hf⟩, hold ▸ h.old⟩
  rcases List.mem_append.mp hv with hv | hv
  · exact hv
  · exact absurd (List.mem_singleton.mp hv ▸ rfl) hc

/-- Rolling back a component outside the routing transaction that is not outbound. -/
theorem Undone.pop {v v' : ReloadView} {entry : RuntimeEntryPrepared}
    (h : Undone task host es (rest ++ [entry]) v) (hout : entry.component ≠ .outbound)
    (hc : ∀ c ∈ task.expectedRoutingComponents, c.component ≠ entry.component)
    (htransactions : v'.transactions = v.transactions) (hpair : v'.activePair = v.activePair)
    (hactive : v'.activeOutbound = v.activeOutbound) (hentry : v'.activeEntry = v.activeEntry)
    (hold : v'.oldEntry = v.oldEntry) (hflags : v'.outboundFlags = v.outboundFlags) :
    Undone task host es rest v' := by
  have hun : Unpublished task host v → Unpublished task host v' := fun h =>
    ⟨hpair.trans h.pair, fun t ht => h.transaction t (htransactions ▸ ht)⟩
  have hback : OutboundBack host es v → OutboundBack host es v' := fun h =>
    ⟨⟨hactive.trans h.off.activeOutbound, hentry.trans h.off.activeEntry⟩, hflags ▸ h.flags⟩
  have hpub : Published task host (rest ++ [entry]) v → Published task host rest v' := by
    intro h
    refine ⟨htransactions ▸ hpair ▸ h.transaction, h.expected, fun c hmem => ?_⟩
    rcases (mem_names_append _).mp (h.complete c hmem) with h | h
    · exact h
    · exact absurd h (hc c hmem)
  have hrestore : OutboundToRestore (rest ++ [entry]) v → OutboundToRestore rest v' := fun h =>
    h.pop hout hactive hentry hold hflags
  rcases h with ⟨h1, h2⟩ | ⟨h1, h2, h3⟩ | ⟨h1, h2, h3⟩ | ⟨h1, h2⟩
  · exact .inl ⟨hun h1, hback h2⟩
  · exact .inr (.inl ⟨hun h1, hrestore h2, h3⟩)
  · exact .inr (.inr (.inl ⟨hpub h1, hback h2, h3⟩))
  · exact .inr (.inr (.inr ⟨hpub h1, hrestore h2⟩))

/-- The rollback of the router or of the policy candidate takes the pair back. -/
theorem Recovering.rollback_routing {entry : RuntimeEntryPrepared}
    (h : Recovering task host es (rest ++ [entry]) (s.view host.registry.activeGenerationId))
    (hrank : entry.component.rank < 4) (hout : entry.component ≠ .outbound) :
    Recovering task host es rest
      ((s.rollbackRouting task.transactionId).view host.registry.activeGenerationId) := by
  obtain ⟨tail, htail⟩ := split_initial h.initial
  have hord := h.entries.ordered
  rw [htail] at hord
  have hdns : ∀ value, ⟨.dns, .dns value⟩ ∈ rest →
      s.dnsCommitted value.candidateGeneration.ref = false := fun value hv =>
    h.dnsFlags value (List.mem_append_left _ hv)
  have hsame : Unpublished task host (s.view host.registry.activeGenerationId) →
      s.rollbackRouting task.transactionId = s := by
    intro hun
    unfold RuntimeHost.rollbackRouting
    rw [RoutingGenerationRuntime.rollback_of_unpublished hun.transaction]
  have hrestore : OutboundToRestore (rest ++ [entry])
      (s.view host.registry.activeGenerationId) →
      OutboundToRestore rest (s.view host.registry.activeGenerationId) := fun h =>
    h.pop hout rfl rfl rfl rfl
  rcases h.undone with ⟨hun, hback⟩ | ⟨hun, hon, hnil⟩ | ⟨hpub, hback, -⟩ | ⟨hpub, hon⟩
  · rw [hsame hun]
    exact ⟨h.entries, ⟨_, htail⟩, h.frame, h.oldKept, h.dns, hdns, h.openFor, .inl ⟨hun, hback⟩⟩
  · rw [hsame hun]
    exact ⟨h.entries, ⟨_, htail⟩, h.frame, h.oldKept, h.dns, hdns, h.openFor,
      .inr (.inl ⟨hun, hrestore hon, hnil⟩)⟩
  · obtain ⟨t, hget, hpublished, hstaged, -⟩ := hpub.transaction
    obtain ⟨hactive, htransactions⟩ := RoutingGenerationRuntime.rollback_of_published
      (show s.routing.transactions.get task.transactionId = some t from hget) hpublished
    refine ⟨h.entries, ⟨_, htail⟩, ⟨h.frame.config, h.frame.generation, fun id hid => ?_⟩,
      h.oldKept, ⟨h.dns.activeDns, h.dns.cacheCarriedOver, h.dns.cacheDropped⟩, hdns,
      fun t' _ => h.openFor t hget, .inl ⟨⟨?_, fun t' ht' => ?_⟩, ⟨hback.off.activeOutbound,
        hback.off.activeEntry⟩, hback.flags⟩⟩
    · exact (htransactions id).trans ((if_neg hid).trans (h.frame.transactions id hid))
    · exact hactive.trans hstaged.oldGeneration
    · cases ((htransactions _).trans (if_pos rfl)).symm.trans ht'
      rfl
  · obtain ⟨value, hv, -⟩ := (hrestore hon).on
    exact absurd (rank_lt_of_split hord (List.mem_map_of_mem hv))
      (Nat.not_lt.mpr (Nat.le_of_lt hrank))

theorem Entries.eq_of_component (h : Entries task host es) {e e' : RuntimeEntryPrepared}
    (he : e ∈ es) (he' : e' ∈ es) (hc : e.component = e'.component) : e = e' := by
  have hnodup : (names es).Nodup := h.ordered.imp fun hlt heq => by
    rw [heq] at hlt
    exact Nat.lt_irrefl _ hlt
  exact List.inj_on_of_nodup_map hnodup he he' hc

theorem Entries.changed (h : Entries task host es) {e : RuntimeEntryPrepared} (he : e ∈ es) :
    e.component ∈ task.changedComponents := by
  obtain ⟨rest, hrest⟩ := h.initial
  rw [← mem_createRuntimeComponents, ← hrest]
  exact List.mem_append_left _ (List.mem_map_of_mem he)

/-- **The rollback of the outbound candidate succeeds**, and leaves the old
generation and the old pair active. -/
theorem Recovering.rollback_outbound
    (htask : task.expectedRoutingComponents = expectedRoutingComponents task.changedComponents)
    {value : OutboundRuntimePrepared}
    (h : Recovering task host es (rest ++ [⟨.outbound, .outbound value⟩])
      (s.view host.registry.activeGenerationId)) :
    ∃ t : RuntimeHost, OutboundRuntimeAdapter.rollback value s = (.ok (), t) ∧
      Recovering task host es rest (t.view host.registry.activeGenerationId) ∧
      Unpublished task host (t.view host.registry.activeGenerationId) ∧
      OutboundBack host es (t.view host.registry.activeGenerationId) ∧
      t.registry.liveEntry = s.registry.liveEntry ∧ t.registry.stopCalls = s.registry.stopCalls ∧
      t.nextRef = s.nextRef := by
  obtain ⟨tail, htail⟩ := split_initial h.initial
  have hord := h.entries.ordered
  rw [htail] at hord
  have hnot : .outbound ∉ names rest := not_mem_of_split hord
  have hentry : (⟨.outbound, .outbound value⟩ : RuntimeEntryPrepared) ∈ es :=
    htail ▸ List.mem_append_right _ List.mem_cons_self
  have hof : OutboundOf task host value := by
    cases h.entries.genuine _ hentry with
    | outbound _ hof => exact hof
  obtain ⟨holdId, htid, hpart⟩ := hof.fields
  have honly : ∀ value', (⟨.outbound, .outbound value'⟩ : RuntimeEntryPrepared) ∈ es →
      value' = value := by
    intro value' hv
    cases h.entries.eq_of_component hv hentry rfl
    rfl
  have hdns : ∀ value, ⟨.dns, .dns value⟩ ∈ rest →
      s.dnsCommitted value.candidateGeneration.ref = false := fun value hv =>
    h.dnsFlags value (List.mem_append_left _ hv)
  have hchanged : .outbound ∈ task.changedComponents := h.entries.changed hentry
  have hdone : ∀ t : RuntimeHost, (∀ k, k ≠ task.transactionId →
        t.routing.transactions.get k = s.routing.transactions.get k) →
      t.config = s.config → t.generation = s.generation →
      t.registry.liveEntry = s.registry.liveEntry → t.dns = s.dns →
      t.dnsCommitted = s.dnsCommitted →
      OpenFor task es (t.view host.registry.activeGenerationId) →
      Unpublished task host (t.view host.registry.activeGenerationId) →
      OutboundBack host es (t.view host.registry.activeGenerationId) →
      Recovering task host es rest (t.view host.registry.activeGenerationId) := by
    intro t htrans hconfig hgeneration hlive hdnsEq hcommitted hopen hun hback
    refine ⟨h.entries, ⟨_, htail⟩, ⟨hconfig.trans h.frame.config,
      hgeneration.trans h.frame.generation, fun id hid =>
        (htrans id hid).trans (h.frame.transactions id hid)⟩, ?_, ?_, ?_, hopen, .inl ⟨hun, hback⟩⟩
    · exact (congrFun hlive _).trans h.oldKept
    · have hd := h.dns
      exact ⟨(congrArg DNSGenerationStore.activeGeneration hdnsEq).trans hd.activeDns,
        (congrArg DNSGenerationStore.cacheCarriedOver hdnsEq).trans hd.cacheCarriedOver,
        (congrArg DNSGenerationStore.cacheDropped hdnsEq).trans hd.cacheDropped⟩
    · exact fun value hv => (congrFun hcommitted _).trans (hdns value hv)
  have hflagsOff : (∀ value', ⟨.outbound, .outbound value'⟩ ∈ es →
      s.outboundFlags value'.ref = ⟨false, false, false⟩) →
      OutboundOff host (s.view host.registry.activeGenerationId) →
      ∃ t, OutboundRuntimeAdapter.rollback value s = (.ok (), t) ∧
        t = { s with outboundFlags := t.outboundFlags } ∧
        OutboundBack host es (t.view host.registry.activeGenerationId) := by
    intro hf hoff
    have hvalue := hf value hentry
    refine ⟨_, OutboundRuntimeAdapter.rollback_of_not_switched (by rw [hvalue]), rfl,
      ⟨hoff.activeOutbound, hoff.activeEntry⟩, fun value' hv => ?_⟩
    cases honly value' hv
    refine (Function.update_self _ _ _).trans ?_
    rw [hvalue]
  have hswitched : OutboundToRestore (rest ++ [⟨.outbound, .outbound value⟩])
      (s.view host.registry.activeGenerationId) →
      ∃ registry flags, OutboundRuntimeAdapter.rollback value s = (.ok (), { s with
          registry := registry
          routing := if RoutingComponent.outbound ∈ task.expectedRoutingComponents then
            s.routing.rollback task.transactionId else s.routing
          outboundFlags := flags }) ∧
        registry.activeGenerationId = host.registry.activeGenerationId ∧
        registry.liveEntry = s.registry.liveEntry ∧
        registry.stopCalls = s.registry.stopCalls ∧
        ∀ value', ⟨.outbound, .outbound value'⟩ ∈ es → flags value'.ref = ⟨false, false, false⟩ := by
    rintro ⟨⟨value', hv, hon, hf⟩, old, hold⟩
    cases honly value' (htail ▸ List.append_cons rest _ tail ▸ List.mem_append_left _ hv)
    have hcandidate : s.registry.liveEntry value.candidateGeneration.id =
        some ⟨value.candidateGeneration, value.candidateOutbounds⟩ := by
      rw [← show s.registry.activeGenerationId = value.candidateGeneration.id from
        hon.activeOutbound]
      exact hon.activeEntry
    have hf : s.outboundFlags value.ref = ⟨true, true, false⟩ := hf
    obtain ⟨registry, hrollback, hactive, hlive, hstop⟩ :=
      OutboundRuntimeAdapter.rollback_of_switched (by rw [hf])
        (show s.registry.liveEntry value.oldGenerationId = some old by rw [holdId]; exact hold)
        hcandidate
    rw [hpart, htid] at hrollback
    simp only [decide_eq_true_eq] at hrollback
    refine ⟨registry, _, hrollback, hactive.trans holdId, hlive, hstop, fun value' hv => ?_⟩
    cases honly value' hv
    rw [Function.update_self, hf]
  rcases h.undone with ⟨hun, hback⟩ | ⟨hun, hon, hnil⟩ | ⟨hpub, -, hout⟩ | ⟨hpub, hon⟩
  · obtain ⟨t, hrollback, ht, hback'⟩ := hflagsOff hback.flags hback.off
    have hun' : Unpublished task host (t.view host.registry.activeGenerationId) := by
      rw [ht]
      exact ⟨hun.pair, hun.transaction⟩
    refine ⟨t, hrollback, ?_, hun', hback', by rw [ht], by rw [ht], by rw [ht]⟩
    exact hdone t (by rw [ht]; exact fun _ _ => rfl) (by rw [ht]) (by rw [ht]) (by rw [ht])
      (by rw [ht]) (by rw [ht]) (by rw [ht]; exact h.openFor) hun' hback'
  · obtain ⟨registry, flags, hrollback, hactive, hlive, hstop, hflags⟩ := hswitched hon
    rw [if_neg (by rw [hnil]; exact List.not_mem_nil)] at hrollback
    have hback : OutboundBack host es (({ s with
        registry := registry
        routing := s.routing
        outboundFlags := flags } : RuntimeHost).view host.registry.activeGenerationId) := by
      refine ⟨⟨hactive, ?_⟩, hflags⟩
      show registry.liveEntry registry.activeGenerationId = _
      rw [hactive, hlive]
      exact h.oldKept
    exact ⟨_, hrollback, hdone _ (fun _ _ => rfl) rfl rfl hlive rfl rfl h.openFor
      ⟨hun.pair, hun.transaction⟩ hback, ⟨hun.pair, hun.transaction⟩, hback, hlive, hstop, rfl⟩
  · exact absurd (outbound_expected htask hpub.expected hchanged) hout
  · obtain ⟨registry, flags, hrollback, hactive, hlive, hstop, hflags⟩ := hswitched hon
    rw [if_pos (outbound_expected htask hpub.expected hchanged)] at hrollback
    obtain ⟨t, hget, hpublished, hstaged, -⟩ := hpub.transaction
    obtain ⟨hpair, htransactions⟩ := RoutingGenerationRuntime.rollback_of_published
      (show s.routing.transactions.get task.transactionId = some t from hget) hpublished
    have hback : OutboundBack host es (({ s with
        registry := registry
        routing := s.routing.rollback task.transactionId
        outboundFlags := flags } : RuntimeHost).view host.registry.activeGenerationId) := by
      refine ⟨⟨hactive, ?_⟩, hflags⟩
      show registry.liveEntry registry.activeGenerationId = _
      rw [hactive, hlive]
      exact h.oldKept
    have hun : Unpublished task host (({ s with
        registry := registry
        routing := s.routing.rollback task.transactionId
        outboundFlags := flags } : RuntimeHost).view host.registry.activeGenerationId) := by
      refine ⟨hpair.trans hstaged.oldGeneration, fun t' ht' => ?_⟩
      cases ((htransactions _).trans (if_pos rfl)).symm.trans ht'
      rfl
    refine ⟨_, hrollback, hdone _ (fun k hk => ?_) rfl rfl hlive rfl rfl
      (fun t' _ => h.openFor t hget) hun hback, hun, hback, hlive, hstop, rfl⟩
    exact (htransactions k).trans (if_neg hk)

theorem Recovering.rollback_dns {value : DnsRuntimePrepared}
    (h : Recovering task host es (rest ++ [⟨.dns, .dns value⟩])
      (s.view host.registry.activeGenerationId)) :
    Recovering task host es rest
      ((DnsRuntimeAdapter.rollback value s).2.view host.registry.activeGenerationId) := by
  have hvalue : s.dnsCommitted value.candidateGeneration.ref = false :=
    h.dnsFlags value (List.mem_append_right _ (List.mem_singleton.mpr rfl))
  have hrollback : DnsRuntimeAdapter.rollback value s = (.ok (), s.setDnsCommitted value false) := by
    unfold DnsRuntimeAdapter.rollback
    simp only [hvalue, Bool.false_eq_true, if_false]
  rw [hrollback]
  obtain ⟨tail, htail⟩ := split_initial h.initial
  refine ⟨h.entries, ⟨_, htail⟩,
    ⟨h.frame.config, h.frame.generation, h.frame.transactions⟩, h.oldKept,
    ⟨h.dns.activeDns, h.dns.cacheCarriedOver, h.dns.cacheDropped⟩, fun value' hv => ?_, h.openFor, ?_⟩
  · show Function.update s.dnsCommitted value.candidateGeneration.ref false
      value'.candidateGeneration.ref = false
    by_cases heq : value'.candidateGeneration.ref = value.candidateGeneration.ref
    · rw [heq, Function.update_self]
    · rw [Function.update_of_ne heq]
      exact h.dnsFlags value' (List.mem_append_left _ hv)
  · refine h.undone.pop (fun heq => by cases heq) (fun c _ heq => ?_) rfl rfl rfl rfl rfl rfl
    cases c <;> cases heq

/-- **A rollback**, resolved or rejected, undoes its own component. -/
theorem Recovering.rollback
    (htask : task.expectedRoutingComponents = expectedRoutingComponents task.changedComponents)
    {entry : RuntimeEntryPrepared} {reply : Except String Unit}
    (h : Recovering task host es (rest ++ [entry]) (s.view host.registry.activeGenerationId))
    (hs : Performs task (.rollback entry) s reply s') :
    Recovering task host es rest (s'.view host.registry.activeGenerationId) := by
  obtain ⟨conditions, hs⟩ := hs
  replace hs : s.rollback conditions entry.prepared = (reply, s') := hs
  obtain ⟨tail, htail⟩ := split_initial h.initial
  have hgen := h.entries.genuine entry (htail ▸ List.mem_append_right _ List.mem_cons_self)
  have hserver : entry.component.rank < 2 → Recovering task host es rest
      (s.view host.registry.activeGenerationId) := by
    intro hrank
    refine ⟨h.entries, ⟨_, htail⟩, h.frame, h.oldKept, h.dns,
      fun value hv => h.dnsFlags value (List.mem_append_left _ hv), h.openFor,
      h.undone.pop (fun heq => absurd hrank (by rw [heq]; decide)) (fun c _ heq => ?_)
        rfl rfl rfl rfl rfl rfl⟩
    have := rank_ge_two c
    rw [heq] at this
    omega
  cases hgen with
  | metrics =>
    obtain rfl : s = s' := congrArg Prod.snd hs
    exact hserver (show (0 : Nat) < 2 by decide)
  | dashboard =>
    obtain rfl : s = s' := congrArg Prod.snd hs
    exact hserver (show (1 : Nat) < 2 by decide)
  | router =>
    obtain rfl := congrArg Prod.snd hs
    exact h.rollback_routing (show (2 : Nat) < 4 by decide) fun heq => by cases heq
  | policy =>
    obtain rfl := congrArg Prod.snd hs
    exact h.rollback_routing (show (3 : Nat) < 4 by decide) fun heq => by cases heq
  | outbound value hof =>
    obtain ⟨t, hrollback, hnext, -⟩ := h.rollback_outbound htask
    cases hs.symm.trans hrollback
    exact hnext
  | dns value hof =>
    obtain rfl := congrArg Prod.snd hs
    exact h.rollback_dns

/-! ## Cleanup -/

/-- A cleanup that leaves the active generations and the open transaction alone. -/
theorem Cleaning.pop {ok : Bool} {v v' : ReloadView} {entry : RuntimeEntryPrepared}
    (h : Cleaning task host ok (rest ++ [entry]) v)
    (hopen : OpenFor task rest v')
    (hconfig : v'.config = v.config) (hgeneration : v'.generation = v.generation)
    (htransactions : ∀ id, id ≠ task.transactionId → v'.transactions.get id = v.transactions.get id)
    (hpair : v'.activePair = v.activePair) (hactive : v'.activeOutbound = v.activeOutbound)
    (hentry : v'.activeEntry = v.activeEntry) (hdns : v'.activeDns = v.activeDns)
    (hcarried : v'.cacheCarriedOver = v.cacheCarriedOver)
    (hdropped : v'.cacheDropped = v.cacheDropped) : Cleaning task host ok rest v' := by
  refine ⟨fun e he => h.genuine e (List.mem_append_left _ he), ⟨hconfig.trans h.frame.config,
    hgeneration.trans h.frame.generation, fun id hid =>
      (htransactions id hid).trans (h.frame.transactions id hid)⟩, hopen, ?_⟩
  have hoff : OutboundOff host v → OutboundOff host v' := fun h =>
    ⟨hactive.trans h.activeOutbound, hentry.trans h.activeEntry⟩
  have hdnsOff : DnsOff host v → DnsOff host v' := fun h =>
    ⟨hdns.trans h.activeDns, hcarried.trans h.cacheCarriedOver, hdropped.trans h.cacheDropped⟩
  have hstate := h.state
  cases ok with
  | true =>
    refine ⟨hpair ▸ hstate.pair, fun hc => ?_, fun hc => hoff (hstate.outbound_kept hc),
      fun hc => ?_, fun hc => hdnsOff (hstate.dns_kept hc)⟩
    · obtain ⟨value, hof, hon⟩ := hstate.outbound_changed hc
      exact ⟨value, hof, hactive.trans hon.activeOutbound, hentry.trans hon.activeEntry⟩
    · obtain ⟨value, hof, heq⟩ := hstate.dns_changed hc
      exact ⟨value, hof, hdns.trans heq⟩
  | false => exact ⟨hpair.trans hstate.pair, hoff hstate.outbound, hdnsOff hstate.dns⟩

theorem OpenFor.pop {v v' : ReloadView} {entry : RuntimeEntryPrepared}
    (h : OpenFor task (rest ++ [entry]) v) (hr : entry.component ≠ .router)
    (hp : entry.component ≠ .policy) (htransactions : v'.transactions = v.transactions) :
    OpenFor task rest v' := by
  intro t ht
  rw [htransactions] at ht
  have hmem := h t ht
  rw [mem_names_append, mem_names_append] at hmem
  exact hmem.imp (fun h => h.resolve_right (Ne.symm hr)) fun h => h.resolve_right (Ne.symm hp)

theorem Cleaning.cleanup_routing {ok : Bool} {entry : RuntimeEntryPrepared}
    (h : Cleaning task host ok (rest ++ [entry]) (s.view host.registry.activeGenerationId)) :
    Cleaning task host ok rest
      ((s.cleanupRouting task.transactionId).view host.registry.activeGenerationId) := by
  obtain ⟨hpair, htransactions⟩ := s.routing.cleanup_spec task.transactionId
  refine h.pop (fun t ht => ?_) rfl rfl (fun id hid => (htransactions id).trans (if_neg hid)) hpair
    rfl rfl rfl rfl rfl
  have hnone : (s.routing.cleanup task.transactionId).transactions.get task.transactionId = none :=
    (htransactions _).trans (if_pos rfl)
  cases hnone.symm.trans ht

/-- **A cleanup**, resolved or rejected. -/
theorem Cleaning.cleanup {ok : Bool} {entry : RuntimeEntryPrepared} {reply : Except String Unit}
    (h : Cleaning task host ok (rest ++ [entry]) (s.view host.registry.activeGenerationId))
    (hs : Performs task (.cleanup entry) s reply s') :
    Cleaning task host ok rest (s'.view host.registry.activeGenerationId) := by
  obtain ⟨conditions, hs⟩ := hs
  have hs' : (s.cleanup entry.prepared).2 = s' := congrArg Prod.snd hs
  have hgen := h.genuine entry (List.mem_append_right _ (List.mem_singleton.mpr rfl))
  cases hgen with
  | metrics =>
    subst hs'
    exact h.pop (h.openFor.pop (fun heq => by cases heq) (fun heq => by cases heq) rfl) rfl rfl
      (fun _ _ => rfl) rfl rfl rfl rfl rfl rfl
  | dashboard =>
    subst hs'
    exact h.pop (h.openFor.pop (fun heq => by cases heq) (fun heq => by cases heq) rfl) rfl rfl
      (fun _ _ => rfl) rfl rfl rfl rfl rfl rfl
  | router =>
    subst hs'
    exact h.cleanup_routing
  | policy =>
    subst hs'
    exact h.cleanup_routing
  | outbound value hof =>
    obtain ⟨result, registry, flags, hcleanup, hregistry⟩ :=
      OutboundRuntimeAdapter.cleanup_spec value s
    obtain rfl := hs'.symm.trans (congrArg Prod.snd hcleanup)
    have hactive : registry.activeGenerationId = s.registry.activeGenerationId ∧
        registry.liveEntry registry.activeGenerationId =
          s.registry.liveEntry s.registry.activeGenerationId := by
      rcases hregistry with rfl | ⟨id, rfl⟩
      · exact ⟨rfl, rfl⟩
      · obtain ⟨h1, h2⟩ := s.registry.retireIfUnused_active id
        exact ⟨h1, by rw [h1, h2]⟩
    exact h.pop (h.openFor.pop (fun heq => by cases heq) (fun heq => by cases heq) rfl) rfl rfl
      (fun _ _ => rfl) rfl hactive.1 hactive.2 rfl rfl rfl
  | dns value hof =>
    subst hs'
    exact h.pop (h.openFor.pop (fun heq => by cases heq) (fun heq => by cases heq) rfl) rfl rfl
      (fun _ _ => rfl) rfl rfl rfl rfl rfl rfl

end Steps

end RuntimeTransaction

end Sepigs
