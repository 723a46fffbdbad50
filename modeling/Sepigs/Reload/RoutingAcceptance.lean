import Sepigs.Lib.Checked
import Sepigs.Reload.ProgramRule

/-!
# What a reload's commits can rely on

Beside any requests, and whatever has become of the generations that it would have to
restore, a reload that runs alone finds its routing transaction as it has staged it:
the commits of the router, of the policy and, in a shared transaction, of the outbound
component are accepted (`program_accepted`).
-/

namespace Sepigs

open RuntimeReloadIntegration

/-! ## Transactions -/

namespace RoutingGenerationRuntime

/-- The transaction has kept its candidates, and there is no other new one. -/
structure KeepsTransaction (id : String) (runtime runtime' : RoutingGenerationRuntime) : Prop where
  others : ∀ k, k ≠ id → runtime'.transactions.get k = runtime.transactions.get k
  closed : runtime.transactions.get id = none → runtime'.transactions.get id = none
  opened : ∀ t, runtime.transactions.get id = some t → ∃ t',
    runtime'.transactions.get id = some t' ∧ t'.expected = t.expected ∧
      t'.routerCandidate = t.routerCandidate ∧ t'.policyCandidate = t.policyCandidate

namespace KeepsTransaction

variable {id : String} {runtime runtime' : RoutingGenerationRuntime}

theorem of_eq (h : runtime'.transactions = runtime.transactions) :
    KeepsTransaction id runtime runtime' where
  others := fun k _ => by rw [h]
  closed := fun hnone => by rw [h, hnone]
  opened := fun t ht => ⟨t, by rw [h, ht], rfl, rfl, rfl⟩

theorem setTransaction {t : RoutingTransaction} (t' : RoutingTransaction) (hget : runtime.transactions.get id = some t)
    (hexpected : t'.expected = t.expected) (hrouter : t'.routerCandidate = t.routerCandidate)
    (hpolicy : t'.policyCandidate = t.policyCandidate)
    (h : runtime'.transactions = (runtime.setTransaction id t').transactions) :
    KeepsTransaction id runtime runtime' where
  others := by
    intro k hk
    rw [h, runtime.get_setTransaction, if_neg hk]
  closed := by
    intro hnone
    rw [hget] at hnone
    cases hnone
  opened := by
    intro t₀ ht₀
    cases hget.symm.trans ht₀
    refine ⟨t', ?_, hexpected, hrouter, hpolicy⟩
    rw [h, runtime.get_setTransaction, if_pos rfl]

theorem commit {component : RoutingComponent} (h : runtime.commit id component = .ok runtime') :
    KeepsTransaction id runtime runtime' := by
  unfold RoutingGenerationRuntime.commit requireTransaction at h
  cases hget : runtime.transactions.get id with
  | none =>
    rw [hget] at h
    cases h
  | some t =>
    rw [hget] at h
    simp only [bind, Except.bind, pure, Except.pure, throw, throwThe, MonadExceptOf.throw] at h
    split at h
    · cases h
    split at h
    · cases h
    split at h
    · cases h
    split at h
    · cases h
      exact setTransaction { t with committed := component :: t.committed, published := true } hget
        rfl rfl rfl rfl
    · cases h
      exact setTransaction { t with committed := component :: t.committed } hget rfl rfl rfl rfl

theorem rollback (id : String) (runtime : RoutingGenerationRuntime) :
    KeepsTransaction id runtime (runtime.rollback id) := by
  unfold RoutingGenerationRuntime.rollback
  cases hget : runtime.transactions.get id with
  | none => exact of_eq rfl
  | some t =>
    dsimp only
    split
    · exact setTransaction { t with published := false } hget rfl rfl rfl rfl
    · exact of_eq rfl

end KeepsTransaction

end RoutingGenerationRuntime

open RoutingGenerationRuntime

/-! ## Outbound values -/

/-- What `createRuntimeOutbounds` makes of sections with distinct tags. -/
theorem OutboundRuntimeAdapter.get_createRuntimeOutbounds (configs : List OutboundConfig) :
    ∀ (ref : Nat) (outbounds : KeyMap String Outbound), (configs.map OutboundConfig.tag).Nodup →
    (∀ config ∈ configs, outbounds.get config.tag = none) →
    (createRuntimeOutbounds ref configs outbounds).values.length =
        outbounds.values.length + configs.length ∧
      (∀ k, k ∉ configs.map OutboundConfig.tag →
        (createRuntimeOutbounds ref configs outbounds).get k = outbounds.get k) ∧
      ∀ config ∈ configs, ∃ o, (createRuntimeOutbounds ref configs outbounds).get config.tag = some o ∧
        o.type = config.type := by
  induction configs with
  | nil =>
    intro ref outbounds _ _
    exact ⟨rfl, fun k _ => rfl, fun config hmem => by cases hmem⟩
  | cons config configs ih =>
    intro ref outbounds hnodup hnone
    rw [List.map_cons, List.nodup_cons] at hnodup
    have hfresh : outbounds.get config.tag = none := hnone config List.mem_cons_self
    have hrest : ∀ other ∈ configs,
        (outbounds.set config.tag ⟨ref, config.tag, config.type⟩).get other.tag = none := by
      intro other hother
      rw [KeyMap.get_set_of_ne]
      · exact hnone other (List.mem_cons_of_mem _ hother)
      · intro heq
        exact hnodup.1 (heq ▸ List.mem_map_of_mem hother)
    obtain ⟨hlength, hkept, hmade⟩ := ih (ref + 1) _ hnodup.2 hrest
    refine ⟨?_, fun k hk => ?_, fun other hother => ?_⟩
    · have hset : (outbounds.set config.tag ⟨ref, config.tag, config.type⟩).values.length =
          outbounds.values.length + 1 := by
        have herase : outbounds.delete config.tag = outbounds := by
          refine AList.ext ?_
          exact List.kerase_of_notMem_keys (AList.lookup_eq_none.mp hfresh)
        rw [KeyMap.values_set, List.length_cons, herase]
      show (createRuntimeOutbounds (ref + 1) configs _).values.length = _
      rw [hlength, hset, List.length_cons]
      omega
    · rw [List.map_cons, List.mem_cons, not_or] at hk
      exact (hkept k hk.2).trans (KeyMap.get_set_of_ne _ _ hk.1)
    · rcases List.mem_cons.mp hother with rfl | hother
      · refine ⟨_, (hkept other.tag hnodup.1).trans (KeyMap.get_set_self _ _ _), rfl⟩
      · exact hmade other hother

theorem entryType_of_mem {generation : OutboundGeneration} {config : OutboundConfig}
    (hnodup : (generation.outbounds.map OutboundConfig.tag).Nodup)
    (hmem : config ∈ generation.outbounds) :
    generation.entryType config.tag = some config.type := by
  unfold OutboundGeneration.entryType
  have hfind : generation.outbounds.find? (fun entry => entry.tag = config.tag) = some config := by
    obtain ⟨before, after, hsplit⟩ := List.append_of_mem hmem
    rw [hsplit]
    refine List.find?_append.trans ?_
    have hbefore : before.find? (fun entry => entry.tag = config.tag) = none := by
      refine List.find?_eq_none.mpr fun other hother => ?_
      rw [hsplit, List.map_append, List.map_cons, List.nodup_append] at hnodup
      have hne := hnodup.2.2 _ (List.mem_map_of_mem hother) _ List.mem_cons_self
      simpa using hne
    rw [hbefore, Option.none_or, List.find?_cons_of_pos (by simp)]
  rw [hfind]
  rfl

/-- The registry accepts every value of a candidate with distinct tags. -/
theorem OutboundRuntimeAdapter.preparedValue_valid (task : ReloadTask) (s : RuntimeHost)
    (hnodup : (task.candidate.outbounds.map OutboundConfig.tag).Nodup) :
    validateRuntimeEntries (preparedValue task s).candidateGeneration
      (preparedValue task s).candidateOutbounds = .ok () := by
  obtain ⟨hlength, -, hmade⟩ := get_createRuntimeOutbounds task.candidate.outbounds
    (s.nextRef + 1) ∅ hnodup fun _ _ => rfl
  have hentries : (preparedValue task s).candidateGeneration.outboundTags.forM
      (validateRuntimeEntry (preparedValue task s).candidateGeneration
        (preparedValue task s).candidateOutbounds) = .ok () := by
    refine Except.forM_ok _ fun tag htag => ?_
    obtain ⟨config, hmem, rfl⟩ := List.mem_map.mp htag
    obtain ⟨o, hget, htype⟩ := hmade config hmem
    have hentry : (preparedValue task s).candidateGeneration.entryType config.tag =
        some config.type := entryType_of_mem hnodup hmem
    unfold validateRuntimeEntry
    rw [show (preparedValue task s).candidateOutbounds.get config.tag = some o from hget]
    dsimp only
    rw [hentry, htype, if_pos rfl]
  unfold validateRuntimeEntries
  rw [hentries]
  have hsize : (preparedValue task s).candidateOutbounds.values.length =
      (preparedValue task s).candidateGeneration.outboundTags.length := by
    refine hlength.trans ?_
    show 0 + task.candidate.outbounds.length = (task.candidate.outbounds.map OutboundConfig.tag).length
    rw [List.length_map]
    omega
  simp only [bind, Except.bind, hsize, if_true]

/-! ## One reload -/

namespace RuntimeTransaction

/-- An entry that a reload prepares. -/
inductive EntryOf (task : ReloadTask) : RuntimeEntryPrepared → Prop
  | metrics : EntryOf task ⟨.metrics, .controlPlane⟩
  | dashboard : EntryOf task ⟨.dashboard, .controlPlane⟩
  | router : EntryOf task ⟨.router, .router task.transactionId⟩
  | policy : EntryOf task ⟨.policy, .policy task.transactionId⟩
  | outbound (s : RuntimeHost) :
    EntryOf task ⟨.outbound, .outbound (OutboundRuntimeAdapter.preparedValue task s)⟩
  | dns (value : DnsRuntimePrepared) : EntryOf task ⟨.dns, .dns value⟩

/-- The routing transaction with the candidates of the entries, and no other one. -/
structure RoutingOpen (task : ReloadTask) (es : List RuntimeEntryPrepared) (s : RuntimeHost) :
    Prop where
  genuine : ∀ entry ∈ es, EntryOf task entry
  others : ∀ id, id ≠ task.transactionId → s.routing.transactions.get id = none
  openFor : ∀ t, s.routing.transactions.get task.transactionId = some t →
    .router ∈ names es ∨ .policy ∈ names es
  opened : .router ∈ names es ∨ .policy ∈ names es →
    ∃ t, s.routing.transactions.get task.transactionId = some t
  staged : ∀ t, s.routing.transactions.get task.transactionId = some t →
    t.expected = task.expectedRoutingComponents ∧
      (.router ∈ names es → t.routerCandidate ≠ none) ∧
      (.policy ∈ names es → t.policyCandidate ≠ none)

/-- What is left of it when `rest` is to be cleaned up. -/
structure RoutingClosing (task : ReloadTask) (rest : List RuntimeEntryPrepared) (s : RuntimeHost) :
    Prop where
  genuine : ∀ entry ∈ rest, EntryOf task entry
  others : ∀ id, id ≠ task.transactionId → s.routing.transactions.get id = none
  openFor : ∀ t, s.routing.transactions.get task.transactionId = some t →
    .router ∈ names rest ∨ .policy ∈ names rest

/-- A commit that has nothing to fear from the routing transaction or from the objects. -/
def Accepted (op : RuntimeOperation) (s : RuntimeHost) : Prop :=
  match op with
  | .commit ⟨_, .router id⟩ => ∃ routing, s.routing.commit id .router = .ok routing
  | .commit ⟨_, .policy id⟩ => ∃ routing, s.routing.commit id .policy = .ok routing
  | .commit ⟨_, .outbound value⟩ =>
    validateRuntimeEntries value.candidateGeneration value.candidateOutbounds = .ok () ∧
      (value.participatesInRoutingTransaction = true →
        ∃ routing, s.routing.commit value.transactionId .outbound = .ok routing)
  | _ => True

section Steps

variable {task : ReloadTask} {s t : RuntimeHost} {es rest : List RuntimeEntryPrepared}
  {entry : RuntimeEntryPrepared}

theorem RoutingOpen.kept (h : RoutingOpen task es s)
    (hkeeps : KeepsTransaction task.transactionId s.routing t.routing) : RoutingOpen task es t where
  genuine := h.genuine
  others := by
    intro id hid
    rw [hkeeps.others id hid]
    exact h.others id hid
  openFor := by
    intro transaction ht
    cases hget : s.routing.transactions.get task.transactionId with
    | none =>
      rw [hkeeps.closed hget] at ht
      cases ht
    | some transaction' => exact h.openFor transaction' hget
  opened := by
    intro hmem
    obtain ⟨transaction, hget⟩ := h.opened hmem
    obtain ⟨transaction', hget', -⟩ := hkeeps.opened transaction hget
    exact ⟨transaction', hget'⟩
  staged := by
    intro transaction ht
    cases hget : s.routing.transactions.get task.transactionId with
    | none =>
      rw [hkeeps.closed hget] at ht
      cases ht
    | some transaction' =>
      obtain ⟨transaction₂, hget', hexpected, hrouter, hpolicy⟩ := hkeeps.opened transaction' hget
      cases ht.symm.trans hget'
      rw [hexpected, hrouter, hpolicy]
      exact h.staged transaction' hget

theorem RoutingOpen.closing (h : RoutingOpen task es s) : RoutingClosing task es s :=
  ⟨h.genuine, h.others, h.openFor⟩

theorem RoutingClosing.same (h : RoutingClosing task rest s)
    (hsame : t.routing.transactions = s.routing.transactions) : RoutingClosing task rest t :=
  ⟨h.genuine, by rw [hsame]; exact h.others, by rw [hsame]; exact h.openFor⟩

/-- The commits of the entries are accepted. -/
theorem RoutingOpen.accepted
    (htask : task.expectedRoutingComponents = expectedRoutingComponents task.changedComponents)
    (hnodup : (task.candidate.outbounds.map OutboundConfig.tag).Nodup)
    (hnames : names es = createRuntimeComponents task.changedComponents)
    (h : RoutingOpen task es s) (hmem : entry ∈ es) : Accepted (.commit entry) s := by
  have hchanged : ∀ c, c ∈ names es ↔ c ∈ task.changedComponents := by
    intro c
    rw [hnames]
    exact mem_createRuntimeComponents
  have hcomponent : entry.component ∈ names es := List.mem_map_of_mem hmem
  cases h.genuine entry hmem with
  | metrics => exact trivial
  | dashboard => exact trivial
  | dns value => exact trivial
  | router =>
    obtain ⟨transaction, hget⟩ := h.opened (Or.inl hcomponent)
    obtain ⟨hexpected, hrouter, -⟩ := h.staged transaction hget
    refine ⟨_, commit_eq hget ?_ (fun _ => hrouter hcomponent) fun heq => by cases heq⟩
    rw [hexpected, htask, mem_expectedRoutingComponents]
    have hrouted := (hchanged .router).mp hcomponent
    simp [RoutingComponent.component, hrouted]
  | policy =>
    obtain ⟨transaction, hget⟩ := h.opened (Or.inr hcomponent)
    obtain ⟨hexpected, -, hpolicy⟩ := h.staged transaction hget
    refine ⟨_, commit_eq hget ?_ (fun heq => by cases heq) fun _ => hpolicy hcomponent⟩
    rw [hexpected, htask, mem_expectedRoutingComponents]
    have hrouted := (hchanged .policy).mp hcomponent
    simp [RoutingComponent.component, hrouted]
  | outbound s₀ =>
    refine ⟨OutboundRuntimeAdapter.preparedValue_valid task s₀ hnodup, fun hparticipates => ?_⟩
    have houtbound : RoutingComponent.outbound ∈ task.expectedRoutingComponents :=
      of_decide_eq_true hparticipates
    have hrouting : .router ∈ names es ∨ .policy ∈ names es := by
      rw [hchanged, hchanged]
      have hne : task.expectedRoutingComponents ≠ [] := List.ne_nil_of_mem houtbound
      exact (expected_ne_nil htask hne)
    obtain ⟨transaction, hget⟩ := h.opened hrouting
    obtain ⟨hexpected, -, -⟩ := h.staged transaction hget
    refine ⟨_, commit_eq hget ?_ (fun heq => by cases heq) fun heq => by cases heq⟩
    rw [hexpected]
    exact houtbound

/-- Preparing a component that is not routed. -/
theorem RoutingOpen.push (h : RoutingOpen task es s) (hgenuine : EntryOf task entry)
    (hrouter : entry.component ≠ .router) (hpolicy : entry.component ≠ .policy) :
    RoutingOpen task (es ++ [entry]) s := by
  have hr : .router ∈ names (es ++ [entry]) ↔ .router ∈ names es := by
    rw [mem_names_append]
    exact or_iff_left (Ne.symm hrouter)
  have hp : .policy ∈ names (es ++ [entry]) ↔ .policy ∈ names es := by
    rw [mem_names_append]
    exact or_iff_left (Ne.symm hpolicy)
  refine ⟨fun e he => ?_, h.others, ?_, ?_, ?_⟩
  · rcases List.mem_append.mp he with he | he
    · exact h.genuine e he
    · rw [List.mem_singleton.mp he]
      exact hgenuine
  · rw [hr, hp]
    exact h.openFor
  · rw [hr, hp]
    exact h.opened
  · rw [hr, hp]
    exact h.staged

/-- Staging a candidate; `stage` writes it into the transaction. -/
theorem RoutingOpen.stage (h : RoutingOpen task es s) (hgenuine : EntryOf task entry)
    (hc : entry.component = .router ∨ entry.component = .policy)
    (stage : RoutingTransaction → RoutingTransaction) {transactions : KeyMap String RoutingTransaction}
    (hget : ∀ k, transactions.get k = if k = task.transactionId then
      some (stage ((s.routing.transactions.get task.transactionId).getD
        (s.routing.opened task.expectedRoutingComponents)))
      else s.routing.transactions.get k)
    (hexpected : ∀ t, (stage t).expected = t.expected)
    (hrouter : ∀ t, (.router ∈ names es → t.routerCandidate ≠ none) →
      .router ∈ names (es ++ [entry]) → (stage t).routerCandidate ≠ none)
    (hpolicy : ∀ t, (.policy ∈ names es → t.policyCandidate ≠ none) →
      .policy ∈ names (es ++ [entry]) → (stage t).policyCandidate ≠ none)
    (ht : t.routing.transactions = transactions) : RoutingOpen task (es ++ [entry]) t := by
  have hmem : .router ∈ names (es ++ [entry]) ∨ .policy ∈ names (es ++ [entry]) := by
    rw [mem_names_append, mem_names_append]
    exact hc.imp (fun heq => Or.inr heq.symm) fun heq => Or.inr heq.symm
  -- The transaction the candidate is staged in has the candidates of the entries.
  have hbase : ((s.routing.transactions.get task.transactionId).getD
      (s.routing.opened task.expectedRoutingComponents)).expected = task.expectedRoutingComponents ∧
      (.router ∈ names es → ((s.routing.transactions.get task.transactionId).getD
        (s.routing.opened task.expectedRoutingComponents)).routerCandidate ≠ none) ∧
      (.policy ∈ names es → ((s.routing.transactions.get task.transactionId).getD
        (s.routing.opened task.expectedRoutingComponents)).policyCandidate ≠ none) := by
    cases hold : s.routing.transactions.get task.transactionId with
    | some t => exact h.staged t hold
    | none =>
      have hnone : ¬ (.router ∈ names es ∨ .policy ∈ names es) := by
        intro hm
        obtain ⟨t, ht⟩ := h.opened hm
        rw [hold] at ht
        cases ht
      rw [not_or] at hnone
      exact ⟨rfl, fun hr => absurd hr hnone.1, fun hp => absurd hp hnone.2⟩
  have hself := (hget task.transactionId).trans (if_pos rfl)
  refine ⟨fun e he => ?_, fun id hid => ?_, fun _ _ => hmem, fun _ => ?_, fun t' ht' => ?_⟩
  · rcases List.mem_append.mp he with he | he
    · exact h.genuine e he
    · rw [List.mem_singleton.mp he]
      exact hgenuine
  · rw [ht, hget, if_neg hid]
    exact h.others id hid
  · rw [ht]
    exact ⟨_, hself⟩
  · rw [ht] at ht'
    cases hself.symm.trans ht'
    exact ⟨(hexpected _).trans hbase.1, hrouter _ hbase.2.1, hpolicy _ hbase.2.2⟩

theorem RoutingOpen.prepare
    (htask : task.expectedRoutingComponents = expectedRoutingComponents task.changedComponents)
    {c : TransactionalReloadComponent} {tail : List TransactionalReloadComponent}
    (hnext : names es ++ c :: tail = createRuntimeComponents task.changedComponents)
    (h : RoutingOpen task es s) {reply : Except String RuntimePrepared}
    (hs : Performs task (.prepare c) s reply t) :
    (∀ message, reply = .error message → RoutingOpen task es t) ∧
      ∀ prepared, reply = .ok prepared → RoutingOpen task (es ++ [⟨c, prepared⟩]) t := by
  obtain ⟨message, rfl, rfl⟩ | ⟨conditions, hs⟩ := performs_prepare hs
  · exact ⟨fun _ _ => h, fun prepared heq => by cases heq⟩
  have hquiet : ∀ t' : RuntimeHost, t'.routing = s.routing → RoutingOpen task es t' := fun t' ht' =>
    h.kept (KeepsTransaction.of_eq (by rw [ht']))
  cases c with
  | metrics =>
    simp only [RuntimeHost.prepare, checked] at hs
    split at hs
    · cases hs
      exact ⟨fun _ _ => h, fun prepared heq => by cases heq⟩
    · cases hs
      refine ⟨fun _ _ => h, fun prepared heq => ?_⟩
      cases heq
      exact h.push .metrics (fun heq => by cases heq) fun heq => by cases heq
  | dashboard =>
    simp only [RuntimeHost.prepare, checked] at hs
    split at hs
    · cases hs
      exact ⟨fun _ _ => h, fun prepared heq => by cases heq⟩
    · cases hs
      refine ⟨fun _ _ => h, fun prepared heq => ?_⟩
      cases heq
      exact h.push .dashboard (fun heq => by cases heq) fun heq => by cases heq
  | router =>
    rcases RouterRuntimeAdapter.prepare_spec task conditions s
      (expected_of_next htask hnext (Or.inl rfl)) with ⟨message, he⟩ | ⟨routing, he, -, hget⟩
    · cases hs.symm.trans he
      exact ⟨fun _ _ => h, fun prepared heq => by cases heq⟩
    · cases hs.symm.trans he
      refine ⟨fun message heq => (by cases heq), fun prepared heq => ?_⟩
      cases heq
      refine h.stage .router (Or.inl rfl) (fun transaction => { transaction with
        routerCandidate := some (RouterRuntimeAdapter.candidateGeneration task s) }) hget
        (fun _ => rfl) (fun _ _ _ heq => by cases heq) (fun t ht hmem => ht ?_) rfl
      exact ((mem_names_append _).mp hmem).resolve_right fun heq => by cases heq
  | policy =>
    rcases PolicyRuntimeAdapter.prepare_spec task conditions s
      (expected_of_next htask hnext (Or.inr rfl)) with ⟨message, he⟩ | ⟨routing, he, -, hget⟩
    · cases hs.symm.trans he
      exact ⟨fun _ _ => h, fun prepared heq => by cases heq⟩
    · cases hs.symm.trans he
      refine ⟨fun message heq => (by cases heq), fun prepared heq => ?_⟩
      cases heq
      refine h.stage .policy (Or.inr rfl) (fun transaction => { transaction with
        policyCandidate := some (PolicyRuntimeAdapter.candidateGeneration task s) }) hget
        (fun _ => rfl) (fun t ht hmem => ht ?_) (fun _ _ _ heq => by cases heq) rfl
      exact ((mem_names_append _).mp hmem).resolve_right fun heq => by cases heq
  | outbound =>
    rcases OutboundRuntimeAdapter.prepare_cases task conditions s with ⟨message, registry, he, -⟩ | he
    · cases hs.symm.trans he
      exact ⟨fun _ _ => hquiet _ rfl, fun prepared heq => by cases heq⟩
    · cases hs.symm.trans he
      refine ⟨fun message heq => (by cases heq), fun prepared heq => ?_⟩
      cases heq
      refine RoutingOpen.push ?_ (.outbound s) (fun heq => by cases heq) fun heq => by cases heq
      exact hquiet _ rfl
  | dns =>
    rcases DnsRuntimeAdapter.prepare_cases task conditions s with ⟨message, dns, he, -⟩ | he
    · cases hs.symm.trans he
      exact ⟨fun _ _ => hquiet _ rfl, fun prepared heq => by cases heq⟩
    · cases hs.symm.trans he
      refine ⟨fun message heq => (by cases heq), fun prepared heq => ?_⟩
      cases heq
      refine RoutingOpen.push ?_ (.dns _) (fun heq => by cases heq) fun heq => by cases heq
      exact hquiet _ rfl

theorem keepsTransaction_commitRouting (s : RuntimeHost) (id : String) (component : RoutingComponent) :
    KeepsTransaction id s.routing (s.commitRouting id component).2.routing := by
  unfold RuntimeHost.commitRouting
  split
  · next hcommit => exact KeepsTransaction.commit hcommit
  · exact KeepsTransaction.of_eq rfl

theorem RoutingOpen.commit (h : RoutingOpen task es s) (hmem : entry ∈ es)
    {reply : Except String Unit} (hs : Performs task (.commit entry) s reply t) :
    RoutingOpen task es t := by
  obtain ⟨label, rfl, rfl⟩ | ⟨conditions, hs⟩ := performs_commit hs
  · exact h
  have hhost : (s.commit conditions entry.prepared).2 = t := congrArg Prod.snd hs
  rw [← hhost]
  refine h.kept ?_
  cases h.genuine entry hmem with
  | metrics => exact KeepsTransaction.of_eq rfl
  | dashboard => exact KeepsTransaction.of_eq rfl
  | router => exact keepsTransaction_commitRouting s _ _
  | policy => exact keepsTransaction_commitRouting s _ _
  | dns value => exact KeepsTransaction.of_eq rfl
  | outbound s₀ =>
    show KeepsTransaction task.transactionId s.routing
      (OutboundRuntimeAdapter.commit (OutboundRuntimeAdapter.preparedValue task s₀) s).2.routing
    unfold OutboundRuntimeAdapter.commit
    split
    · exact KeepsTransaction.of_eq rfl
    · dsimp only
      split
      · split
        · next hcommit => exact KeepsTransaction.commit hcommit
        · unfold OutboundRuntimeAdapter.commitFailed
          split
          · exact KeepsTransaction.of_eq rfl
          · exact KeepsTransaction.of_eq rfl
      · exact KeepsTransaction.of_eq rfl

theorem RoutingOpen.rollback (h : RoutingOpen task es s) (hmem : entry ∈ es)
    {reply : Except String Unit} (hs : Performs task (.rollback entry) s reply t) :
    RoutingOpen task es t := by
  obtain ⟨conditions, hs⟩ := hs
  have hhost : (s.rollback conditions entry.prepared).2 = t := congrArg Prod.snd hs
  rw [← hhost]
  refine h.kept ?_
  cases h.genuine entry hmem with
  | metrics => exact KeepsTransaction.of_eq rfl
  | dashboard => exact KeepsTransaction.of_eq rfl
  | router => exact KeepsTransaction.rollback task.transactionId s.routing
  | policy => exact KeepsTransaction.rollback task.transactionId s.routing
  | dns value =>
    show KeepsTransaction task.transactionId s.routing (DnsRuntimeAdapter.rollback value s).2.routing
    unfold DnsRuntimeAdapter.rollback
    dsimp only
    split
    · exact KeepsTransaction.of_eq rfl
    · exact KeepsTransaction.of_eq rfl
  | outbound s₀ =>
    show KeepsTransaction task.transactionId s.routing
      (OutboundRuntimeAdapter.rollback (OutboundRuntimeAdapter.preparedValue task s₀) s).2.routing
    unfold OutboundRuntimeAdapter.rollback
    dsimp only
    split
    · split
      · exact KeepsTransaction.of_eq rfl
      · split
        · exact KeepsTransaction.rollback task.transactionId s.routing
        · exact KeepsTransaction.of_eq rfl
    · exact KeepsTransaction.of_eq rfl

theorem RoutingClosing.pop (h : RoutingClosing task (rest ++ [entry]) s)
    {reply : Except String Unit} (hs : Performs task (.cleanup entry) s reply t) :
    RoutingClosing task rest t := by
  obtain ⟨conditions, hs⟩ := hs
  have hhost : (s.cleanup entry.prepared).2 = t := congrArg Prod.snd hs
  have hgenuine : ∀ e ∈ rest, EntryOf task e := fun e he =>
    h.genuine e (List.mem_append_left _ he)
  have hother : entry.component ≠ .router → entry.component ≠ .policy →
      t.routing.transactions = s.routing.transactions → RoutingClosing task rest t := by
    intro hrouter hpolicy hsame
    refine ⟨hgenuine, by rw [hsame]; exact h.others, fun transaction ht => ?_⟩
    rw [hsame] at ht
    have hopen := h.openFor transaction ht
    rw [mem_names_append, mem_names_append] at hopen
    rcases hopen with (hr | heq) | (hp | heq)
    · exact Or.inl hr
    · exact absurd heq.symm hrouter
    · exact Or.inr hp
    · exact absurd heq.symm hpolicy
  have hrouted : t.routing = s.routing.cleanup task.transactionId → RoutingClosing task rest t := by
    intro hsame
    obtain ⟨-, hget⟩ := s.routing.cleanup_spec task.transactionId
    refine ⟨hgenuine, fun id hid => ?_, fun transaction ht => ?_⟩
    · rw [hsame, hget, if_neg hid]
      exact h.others id hid
    · rw [hsame, hget, if_pos rfl] at ht
      cases ht
  rw [← hhost] at hother hrouted ⊢
  cases h.genuine entry (List.mem_append_right _ (List.mem_singleton_self _)) with
  | metrics => exact hother (fun heq => by cases heq) (fun heq => by cases heq) rfl
  | dashboard => exact hother (fun heq => by cases heq) (fun heq => by cases heq) rfl
  | router => exact hrouted rfl
  | policy => exact hrouted rfl
  | dns value => exact hother (fun heq => by cases heq) (fun heq => by cases heq) rfl
  | outbound s₀ =>
    refine hother (fun heq => by cases heq) (fun heq => by cases heq) ?_
    obtain ⟨result, registry, flags, hcleanup, -⟩ :=
      OutboundRuntimeAdapter.cleanup_spec (OutboundRuntimeAdapter.preparedValue task s₀) s
    show (OutboundRuntimeAdapter.cleanup (OutboundRuntimeAdapter.preparedValue task s₀)
      s).2.routing.transactions = _
    rw [hcleanup]

/-- The others leave the routing transactions alone. -/
def SameTransactions (s t : RuntimeHost) : Prop :=
  t.routing.transactions = s.routing.transactions

/-- **The commits of a lone reload are accepted.** -/
def acceptanceProof
    (htask : task.expectedRoutingComponents = expectedRoutingComponents task.changedComponents)
    (hnodup : (task.candidate.outbounds.map OutboundConfig.tag).Nodup) :
    ExecutorProof (fun _ => SameTransactions) (Performs task) Accepted
      (createRuntimeComponents task.changedComponents) where
  preparing := RoutingOpen task
  committing es _ s := names es = createRuntimeComponents task.changedComponents ∧
    RoutingOpen task es s
  recovering es rest s := RoutingOpen task es s ∧ ∀ entry ∈ rest, entry ∈ es
  cleaning _ _ rest s := RoutingClosing task rest s
  preparing_wait es op s t hearly hr h := by
    refine ⟨?_, h.kept (KeepsTransaction.of_eq hr)⟩
    cases op with
    | simple phase => exact trivial
    | prepare component => exact trivial
    | healthCheck entry => exact trivial
    | commit entry => cases hearly
    | rollback entry => cases hearly
    | cleanup entry => cases hearly
  committing_wait es done entry rest s t hsplit hr h := by
    have ht := h.2.kept (KeepsTransaction.of_eq hr)
    have hmem : entry ∈ es := hsplit ▸ List.mem_append_right _ List.mem_cons_self
    exact ⟨ht.accepted htask hnodup h.1 hmem, h.1, ht⟩
  recovering_wait es rest entry s t hr h :=
    ⟨trivial, h.1.kept (KeepsTransaction.of_eq hr), h.2⟩
  cleaning_wait ok es rest entry s t hr h := ⟨trivial, h.same hr⟩
  simple phase s reply t h hs := by
    obtain ⟨conditions, hs⟩ := hs
    obtain rfl : s = t := congrArg Prod.snd hs
    exact h
  prepare_ok es component rest s prepared t hnext h hs := (h.prepare htask hnext hs).2 prepared rfl
  prepare_error es component rest s message t hnext h hs := (h.prepare htask hnext hs).1 message rfl
  healthCheck es entry s reply t _ h hs := by
    obtain ⟨conditions, hs⟩ := hs
    obtain rfl : s = t := congrArg Prod.snd hs
    exact h
  prepared es s hnames h := ⟨hnames, h⟩
  commit_ok es done entry rest s t hsplit h hs :=
    ⟨h.1, h.2.commit (hsplit ▸ List.mem_append_right _ List.mem_cons_self) hs⟩
  commit_error es done entry rest s message t hsplit h hs := by
    have ht := h.2.commit (hsplit ▸ List.mem_append_right _ List.mem_cons_self) hs
    refine ⟨⟨ht, fun other hother => ?_⟩, fun _ => ht.closing⟩
    rw [hsplit]
    exact List.mem_append_left _ hother
  committed es s h := h.2.closing
  abandoned es s h := ⟨⟨h, fun _ hmem => hmem⟩, h.closing⟩
  rollback es rest entry s reply t h hs := by
    have hmem : entry ∈ es := h.2 entry (List.mem_append_right _ (List.mem_singleton_self _))
    exact ⟨h.1.rollback hmem hs, fun other hother => h.2 other (List.mem_append_left _ hother)⟩
  recovered es s h := h.1.closing
  cleanup ok es rest entry s reply t h hs := h.pop hs

theorem RoutingClosing.idle (h : RoutingClosing task [] s) : Idle s := by
  intro id
  by_cases hid : id = task.transactionId
  · cases hget : s.routing.transactions.get id with
    | none => rfl
    | some transaction =>
      subst hid
      rcases h.openFor transaction hget with hr | hp
      · cases hr
      · cases hp
  · exact h.others id hid

/-- What a commit of a lone reload finds. -/
def CallAccepted (call : Call) (s : RuntimeHost) : Prop :=
  ∀ op, call = .operation op → Accepted op s

/-- The reload stays alone, and closes its routing transaction. -/
def KeepsToItself (task : ReloadTask) (p : ReloadProgram) (s : RuntimeHost) : Prop :=
  Resumption.wp (fun _ => SameTransactions) (Calls task) CallAccepted p (fun _ t => Idle t) s

theorem program_accepted
    (htask : task.expectedRoutingComponents = expectedRoutingComponents task.changedComponents)
    (hnodup : (task.candidate.outbounds.map OutboundConfig.tag).Nodup) (hidle : Idle s) :
    KeepsToItself task (program task) s := by
  have hstart : ∀ t, Idle t → RoutingOpen task [] t := by
    intro t ht
    refine ⟨fun entry hmem => (by cases hmem), fun id _ => ht id, fun transaction hget => ?_,
      fun hmem => ?_, fun transaction hget => ?_⟩
    · rw [ht] at hget
      cases hget
    · rcases hmem with hmem | hmem
      · cases hmem
      · cases hmem
    · rw [ht] at hget
      cases hget
  have hsame : ∀ t t' : RuntimeHost, SameTransactions t t' → Idle t → Idle t' := by
    intro t t' hr ht id
    rw [show t'.routing.transactions = t.routing.transactions from hr]
    exact ht id
  unfold KeepsToItself
  refine program_rule (P := Idle) (C := fun _ t => Idle t) ?_ ?_ ?_ ?_ ?_ ?_ hidle
  · exact fun t t' hr ht => ⟨fun op heq => (by cases heq), hsame t t' hr ht⟩
  · rintro t reply t' ⟨conditions, hs⟩ ht
    obtain rfl : t = t' := congrArg Prod.snd hs
    cases reply with
    | error error => exact fun _ => ht
    | ok u => exact ht
  · intro t ht
    refine Resumption.wp_mono ?_ (Resumption.wp_watch ?_
      ((acceptanceProof htask hnodup).execute_wp (hstart t ht)))
    · rintro ⟨error | fields, fields'⟩ t hclean
      · obtain ⟨_, hclean⟩ := hclean
        exact RoutingClosing.idle hclean
      · exact RoutingClosing.idle hclean
    · intro op t hwatched op' heq
      cases heq
      exact hwatched
  · exact fun t t' hr ht => ⟨fun op heq => (by cases heq), hsame t t' hr ht⟩
  · rintro t reply t' ⟨conditions, hs⟩ ht
    obtain rfl := congrArg Prod.snd hs
    exact ht
  · exact fun t error ht => ht

end Steps

end RuntimeTransaction

end Sepigs
