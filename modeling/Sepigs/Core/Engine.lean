import Mathlib.Data.List.Flatten
import Sepigs.Lib.Runs
import Sepigs.Reload.Ownership

/-!
# Reloads and requests of one engine (`core/engine.ts`)

Any number of `Engine.reloadConfig` calls beside requests, in any order of their
steps.  `resume` goes on with a reload whose awaited call has been answered, under
conditions of its own.  The calls are those in transactional mode: `applyReloadConfig`,
to which `reloadConfig` hands a candidate of the other mode, is not modelled.

Nothing in the engine keeps two reloads apart, and nothing keeps a generation that
a reload may have to restore.  `Serial` and `KeepsTargets` say of a run that
neither is missed; then the invariant is `Coherent`.
-/

namespace Sepigs

open RuntimeReloadIntegration RuntimeTransaction

/-- A call of `Engine.reloadConfig`.  Two ghosts: `startedOn` is the host at the call,
`pending` are the outbound values it has prepared and not committed. -/
structure InFlightReload where
  task : ReloadTask
  startedOn : RuntimeHost
  rest : ReloadProgram
  pending : List OutboundRuntimePrepared

structure EngineState where
  host : RuntimeHost
  inFlight : List InFlightReload

inductive EngineStep
  | request (op : RequestOperation)
  | reloadConfig (candidate : SepigsConfig) (now : Nat)
  | resume (index : Nat) (conditions : Conditions)

namespace Engine

/-- A reload that has settled is no longer in flight. -/
def unsettled (reload : InFlightReload) : List InFlightReload :=
  match reload.rest with
  | .done _ => []
  | .call _ _ => [reload]

def resume (reload : InFlightReload) (conditions : Conditions) (host : RuntimeHost) :
    Option (InFlightReload × RuntimeHost) :=
  match reload.rest with
  | .done _ => none
  | .call call k =>
    let performed := perform reload.task conditions host call
    some ({ reload with
      rest := k performed.1
      pending := callClaims call performed.1 reload.pending }, performed.2)

/-- A candidate that is not transactional is refused here, as `reload` itself does. -/
def step (s : EngineState) : EngineStep → Option EngineState
  | .request op => some { s with host := s.host.request op }
  | .reloadConfig candidate now =>
    let launched := launch s.host candidate now
    some ⟨launched.2, s.inFlight ++ unsettled
      ⟨newTask s.host candidate now, s.host, launched.1, []⟩⟩
  | .resume index conditions => do
    let reload ← s.inFlight[index]?
    let resumed ← resume reload conditions s.host
    return ⟨resumed.2, s.inFlight.take index ++ unsettled resumed.1 ++ s.inFlight.drop (index + 1)⟩

def system : Runs.System EngineState EngineStep where
  step := step

/-- No reload is started beside another, unless its checks reject it at once. -/
def Serial (s : EngineState) : EngineStep → Prop
  | .reloadConfig candidate now =>
    s.inFlight = [] ∨ ∃ error, (start s.host candidate now).1 = .error error
  | .request _ | .resume _ _ => True

/-- No request drops the last reference to a generation that a reload in flight may
still have to restore. -/
def KeepsTargets (s : EngineState) : EngineStep → Prop
  | .request op => ∀ reload ∈ s.inFlight, decided reload.rest.awaited = false →
    s.host.KeepsReference reload.startedOn.registry.activeGenerationId op
  | .reloadConfig _ _ | .resume _ _ => True

/-! ## What the active generations are built from -/

/-- The active generations are all built from the sections of one config. -/
structure BuiltFrom (config : SepigsConfig) (host : RuntimeHost) : Prop where
  router : (host.routing.activeGeneration.router.defaultOutbound,
    host.routing.activeGeneration.router.rules, host.routing.activeGeneration.router.ruleSetFiles) =
      (config.route.defaultOutbound, config.route.rules, config.route.ruleSetFiles)
  policy : host.routing.activeGeneration.policy.policies = config.route.policies
  outbound : ∃ ref first, host.registry.liveEntry host.registry.activeGenerationId =
    some ⟨⟨ref, host.registry.activeGenerationId, config.outbounds⟩,
      OutboundRuntimeAdapter.createRuntimeOutbounds first config.outbounds ∅⟩
  dns : host.dns.activeGeneration.config = config.dns

/-- No reload is under way, and the committed config is the one that is active. -/
structure Settled (host : RuntimeHost) : Prop where
  idle : Idle host
  builtFrom : BuiltFrom host.config host

section Settled

variable {host t : RuntimeHost} {candidate : SepigsConfig} {now : Nat}

theorem not_changed {previous candidate : SepigsConfig} {c : TransactionalReloadComponent}
    (h : c ∉ changedRuntimeComponents previous candidate) : changed previous candidate c = false := by
  unfold changedRuntimeComponents at h
  rw [List.mem_filter, not_and] at h
  refine Bool.eq_false_iff.mpr (h ?_)
  cases c <;> simp

theorem builtFrom_of_unchanged (h : Unchanged host t) (hbuilt : BuiltFrom host.config host) :
    BuiltFrom t.config t := by
  rw [h.config]
  refine ⟨h.activePair ▸ hbuilt.router, h.activePair ▸ hbuilt.policy, ?_, h.activeDns ▸ hbuilt.dns⟩
  obtain ⟨ref, first, hentry⟩ := hbuilt.outbound
  refine ⟨ref, first, ?_⟩
  rw [h.activeEntry, h.activeOutbound]
  exact hentry

/-- What a reload keeps it need not change. -/
theorem builtFrom_of_replaced (h : Replaced (newTask host candidate now) host t)
    (hfakeIp : host.config.dns.fakeIp = candidate.dns.fakeIp)
    (hbuilt : BuiltFrom host.config host) : BuiltFrom t.config t := by
  rw [show t.config = candidate from h.config]
  refine ⟨?_, ?_, ?_, ?_⟩
  · rw [h.activePair.router]
    split
    · rfl
    · next hc =>
      have hsame := of_decide_eq_false (not_changed hc)
      exact hbuilt.router.trans (Decidable.not_not.mp hsame)
  · rw [h.activePair.policy]
    split
    · rfl
    · next hc =>
      have hsame := of_decide_eq_false (not_changed hc)
      exact hbuilt.policy.trans (Decidable.not_not.mp hsame)
  · by_cases hc : .outbound ∈ (newTask host candidate now).changedComponents
    · obtain ⟨hid, ref, hentry⟩ := h.outbound_changed hc
      exact ⟨ref, ref + 1, hentry⟩
    · obtain ⟨hid, hentry⟩ := h.outbound_kept hc
      obtain ⟨ref, first, hold⟩ := hbuilt.outbound
      have hsame := of_decide_eq_false (not_changed hc)
      refine ⟨ref, first, ?_⟩
      rw [hentry, hid, hold, Decidable.not_not.mp hsame]
  · by_cases hc : .dns ∈ (newTask host candidate now).changedComponents
    · exact (h.dns_changed hc).2.2
    · have hsame := of_decide_eq_false (not_changed hc)
      have hview : host.config.dns.view = candidate.dns.view := Decidable.not_not.mp hsame
      rw [(h.dns_kept hc).1, hbuilt.dns]
      calc host.config.dns = ⟨host.config.dns.view, host.config.dns.fakeIp⟩ := rfl
        _ = ⟨candidate.dns.view, candidate.dns.fakeIp⟩ := by rw [hview, hfakeIp]
        _ = candidate.dns := rfl

/-- **A reload leaves a settled host settled**, whether it succeeds or not. -/
theorem Settled.of_ended {result : Except String Unit} (hsettled : Settled host)
    (hfakeIp : result = .ok () → host.config.dns.fakeIp = candidate.dns.fakeIp)
    (h : Ended (newTask host candidate now) host result t) : Settled t := by
  refine ⟨h.idle, ?_⟩
  cases result with
  | error error => exact builtFrom_of_unchanged h.unchanged hsettled.builtFrom
  | ok _ => exact builtFrom_of_replaced h.replaced (hfakeIp rfl) hsettled.builtFrom

end Settled

/-! ## The invariant -/

/-- A reload that was started on a settled host keeps to its rule. -/
structure Proceeding (reload : InFlightReload) (host : RuntimeHost) : Prop where
  settled : Settled reload.startedOn
  started : ∃ candidate now, reload.task = newTask reload.startedOn candidate now ∧
    ((∃ error, reload.rest = .done (.error error)) ∨
      reload.startedOn.config.dns.fakeIp = candidate.dns.fakeIp)
  rule : Resumption.wp
    (fun call => Others reload.startedOn.registry.activeGenerationId (decided (some call)))
    (Calls reload.task) (Awaits reload.task reload.startedOn) reload.rest
    (Ended reload.task reload.startedOn) host

/-- The engine is settled, or one reload is under way. -/
inductive Coherent : EngineState → Prop
  | settled {host : RuntimeHost} (h : Settled host) : Coherent ⟨host, []⟩
  | reloading {reload : InFlightReload} {host : RuntimeHost} (h : Proceeding reload host) :
    Coherent ⟨host, [reload]⟩

theorem Proceeding.others {reload : InFlightReload} {host t : RuntimeHost}
    (h : Proceeding reload host)
    (hr : Others reload.startedOn.registry.activeGenerationId (decided reload.rest.awaited) host t) :
    Proceeding reload t := by
  refine ⟨h.settled, h.started, ?_⟩
  exact Resumption.wp_other
    (R := fun call => Others reload.startedOn.registry.activeGenerationId (decided call))
    (fun call => Others.trans (decided call)) (fun _ _ _ hr hended => hended.others hr) h.rule hr

/-- A request is a move of the others, whatever the reload awaits. -/
theorem Proceeding.request {reload : InFlightReload} {host : RuntimeHost} {op : RequestOperation}
    (h : Proceeding reload host)
    (hkeep : decided reload.rest.awaited = false →
      host.KeepsReference reload.startedOn.registry.activeGenerationId op) :
    Proceeding reload (host.request op) :=
  h.others (Others.request host op hkeep)

/-- So is a call that its checks reject. -/
theorem Proceeding.rejected {reload : InFlightReload} {host : RuntimeHost}
    {candidate : SepigsConfig} {now : Nat} (h : Proceeding reload host)
    (hrejected : ∃ error, (start host candidate now).1 = .error error) :
    Coherent ⟨(launch host candidate now).2,
      [reload] ++ unsettled ⟨newTask host candidate now, host, (launch host candidate now).1, []⟩⟩ := by
  rcases start_cases host candidate now with ⟨error, host', hstart, hr⟩ | ⟨hstart, -⟩
  · unfold RuntimeReloadIntegration.launch
    rw [hstart]
    exact .reloading (h.others (hr _ _))
  · obtain ⟨error, herror⟩ := hrejected
    rw [hstart] at herror
    cases herror

/-- The answer to the awaited call leads to the rule of the rest. -/
theorem Proceeding.resume {reload reload' : InFlightReload} {host host' : RuntimeHost}
    {conditions : Conditions} (h : Proceeding reload host)
    (hresume : resume reload conditions host = some (reload', host')) :
    Proceeding reload' host' := by
  obtain ⟨task, startedOn, rest, pending⟩ := reload
  cases rest with
  | done result => cases hresume
  | call call k =>
    cases hresume
    obtain ⟨candidate, now, htask, hfakeIp⟩ := h.started
    refine ⟨h.settled, ⟨candidate, now, htask, .inr ?_⟩, ?_⟩
    · rcases hfakeIp with ⟨error, hdone⟩ | hfakeIp
      · cases hdone
      · exact hfakeIp
    · exact Resumption.wp_call (fun call => Others.refl (decided (some call))) h.rule
        ⟨conditions, rfl⟩

theorem Proceeding.launch {host : RuntimeHost} (hsettled : Settled host) (candidate : SepigsConfig)
    (now : Nat) : Proceeding ⟨newTask host candidate now, host, (launch host candidate now).1, []⟩
      (RuntimeReloadIntegration.launch host candidate now).2 := by
  refine ⟨hsettled, ⟨candidate, now, rfl, ?_⟩, launch_wp host candidate now hsettled.idle⟩
  unfold RuntimeReloadIntegration.launch
  rcases start_cases host candidate now with ⟨error, host', hstart, -⟩ | ⟨hstart, hfakeIp⟩
  · rw [hstart]
    exact .inl ⟨error, rfl⟩
  · exact .inr hfakeIp

/-- A reload that proceeds is in flight, or it has settled and so has the host. -/
theorem Proceeding.coherent {reload : InFlightReload} {host : RuntimeHost}
    (h : Proceeding reload host) : Coherent ⟨host, unsettled reload⟩ := by
  obtain ⟨task, startedOn, rest, pending⟩ := reload
  cases rest with
  | call call k => exact .reloading h
  | done result =>
    obtain ⟨candidate, now, htask, hfakeIp⟩ := h.started
    obtain rfl : task = newTask startedOn candidate now := htask
    refine .settled (h.settled.of_ended (fun hok => ?_) h.rule)
    rcases hfakeIp with ⟨error, hdone⟩ | hfakeIp
    · subst hok
      cases hdone
    · exact hfakeIp

theorem Settled.request {host : RuntimeHost} (h : Settled host) (op : RequestOperation) :
    Settled (host.request op) := by
  have hr : Others host.registry.activeGenerationId true host (host.request op) :=
    Others.request host op fun hnot => nomatch hnot
  have hview : (host.request op).view host.registry.activeGenerationId =
      host.view host.registry.activeGenerationId := Undisturbed.view_eq hr
  refine ⟨fun id => ?_, ?_⟩
  · have htrans : (host.request op).routing.transactions = host.routing.transactions :=
      congrArg ReloadView.transactions hview
    rw [htrans]
    exact h.idle id
  · have hconfig : (host.request op).config = host.config := congrArg ReloadView.config hview
    have hpair : (host.request op).routing.activeGeneration = host.routing.activeGeneration :=
      congrArg ReloadView.activePair hview
    have hactive : (host.request op).registry.activeGenerationId =
        host.registry.activeGenerationId := congrArg ReloadView.activeOutbound hview
    have hentry : (host.request op).registry.liveEntry
        (host.request op).registry.activeGenerationId =
          host.registry.liveEntry host.registry.activeGenerationId :=
      congrArg ReloadView.activeEntry hview
    have hdns : (host.request op).dns.activeGeneration = host.dns.activeGeneration :=
      congrArg ReloadView.activeDns hview
    obtain ⟨ref, first, hold⟩ := h.builtFrom.outbound
    rw [hconfig]
    refine ⟨hpair ▸ h.builtFrom.router, hpair ▸ h.builtFrom.policy, ⟨ref, first, ?_⟩,
      hdns ▸ h.builtFrom.dns⟩
    rw [hentry, hactive]
    exact hold

/-- **Every step keeps the engine coherent.** -/
theorem Coherent.step {s s' : EngineState} {a : EngineStep} (h : Coherent s) (hserial : Serial s a)
    (hkeeps : KeepsTargets s a) (hstep : system.step s a = some s') : Coherent s' := by
  cases a with
  | request op =>
    cases hstep
    cases h with
    | settled h => exact .settled (h.request op)
    | reloading h => exact .reloading (h.request (hkeeps _ List.mem_cons_self))
  | reloadConfig candidate now =>
    cases hstep
    cases h with
    | settled h => exact (Proceeding.launch h candidate now).coherent
    | reloading h =>
      rcases hserial with hnone | hrejected
      · cases hnone
      · exact h.rejected hrejected
  | resume index conditions =>
    obtain ⟨reload, hreload, hstep⟩ := Option.bind_eq_some_iff.mp hstep
    obtain ⟨⟨reload', host'⟩, hresume, hstep⟩ := Option.bind_eq_some_iff.mp hstep
    cases hstep
    cases h with
    | settled h => cases hreload
    | reloading h =>
      cases index with
      | zero =>
        cases hreload
        have hcoherent := (h.resume hresume).coherent
        simpa using hcoherent
      | succ index => cases hreload

/-! ## Runs -/

theorem createOutboundRuntimeRegistry_ok {config : SepigsConfig} {registry : OutboundRuntimeRegistry}
    (h : createOutboundRuntimeRegistry config = .ok registry) :
    Lifecycle registry [⟨⟨1, "runtime-outbound-0", config.outbounds⟩, buildOutbounds config⟩] ∧
    registry.activeGenerationId = "runtime-outbound-0" ∧
    registry.liveEntry "runtime-outbound-0" =
      some ⟨⟨1, "runtime-outbound-0", config.outbounds⟩, buildOutbounds config⟩ := by
  have hnodup : (buildOutbounds config).values.Nodup :=
    (OutboundRuntimeAdapter.createRuntimeOutbounds_values 2 config.outbounds 2 ∅ List.nodup_nil
      (fun _ ho => nomatch ho) (Nat.le_refl 2)).1
  have hstart : RegistryHistory.start ⟨1, "runtime-outbound-0", config.outbounds⟩
      (buildOutbounds config) =
        .ok ⟨registry, [], [⟨⟨1, "runtime-outbound-0", config.outbounds⟩, buildOutbounds config⟩]⟩ := by
    unfold RegistryHistory.start
    rw [show OutboundRuntimeRegistry.new _ _ = _ from h]
    rfl
  refine ⟨(RegistryHistory.start_consistent hnodup hstart).lifecycle, ?_⟩
  unfold createOutboundRuntimeRegistry OutboundRuntimeRegistry.new at h
  cases hvalid : validateRuntimeEntries ⟨1, "runtime-outbound-0", config.outbounds⟩
      (buildOutbounds config) with
  | error e =>
    rw [hvalid] at h
    cases h
  | ok _ =>
    rw [hvalid] at h
    cases h
    exact ⟨rfl, rfl⟩

/-- A built engine is settled, and every object it has belongs to the registry. -/
theorem settled_of_build {config : SepigsConfig} {host : RuntimeHost}
    (h : build config = .ok host) : Settled host ∧ Owned [] host
      [⟨⟨1, "runtime-outbound-0", config.outbounds⟩, buildOutbounds config⟩] := by
  unfold build at h
  cases hregistry : createOutboundRuntimeRegistry config with
  | error e =>
    rw [hregistry] at h
    cases h
  | ok registry =>
    rw [hregistry] at h
    cases h
    obtain ⟨hlifecycle, hactive, hentry⟩ := createOutboundRuntimeRegistry_ok hregistry
    have hobjects := (OutboundRuntimeAdapter.createRuntimeOutbounds_values 2 config.outbounds 2 ∅
      List.nodup_nil (fun _ ho => nomatch ho) (Nat.le_refl 2)).2
    have hlive : registry.liveEntry registry.activeGenerationId =
        some ⟨⟨1, "runtime-outbound-0", config.outbounds⟩, buildOutbounds config⟩ := by
      rw [hactive]
      exact hentry
    refine ⟨⟨fun _ => rfl, rfl, rfl, ⟨1, 2, ?_⟩, rfl⟩, hlifecycle, ⟨_, hlive⟩, ?_,
      fun _ hv => (nomatch hv), fun _ hv => (nomatch hv), List.Pairwise.nil⟩
    · show registry.liveEntry registry.activeGenerationId = _
      rw [hlive, hactive]
      rfl
    · intro e he
      obtain rfl := List.mem_singleton.mp he
      refine ⟨?_, fun o ho => (hobjects o ho).2⟩
      show 1 < 2 + config.outbounds.length
      omega

/-! ## Owners along a run -/

/-- Whatever the engine runs, every reload owns what it commits. -/
structure OwnedBy (s : EngineState) (registered : List RuntimeEntry) : Prop where
  owned : Owned (s.inFlight.flatMap InFlightReload.pending) s.host registered
  ownsOnly : ∀ reload ∈ s.inFlight, OwnsOnly reload.pending reload.rest

theorem unsettled_sublist (reload : InFlightReload) : (unsettled reload).Sublist [reload] := by
  unfold unsettled
  split
  · exact List.nil_sublist _
  · exact List.Sublist.refl _

theorem split_at {index : Nat} {inFlight : List InFlightReload} {reload : InFlightReload}
    (h : inFlight[index]? = some reload) :
    inFlight = inFlight.take index ++ [reload] ++ inFlight.drop (index + 1) := by
  obtain ⟨hlt, rfl⟩ := List.getElem?_eq_some_iff.mp h
  rw [List.append_assoc, List.singleton_append, List.getElem_cons_drop, List.take_append_drop]

/-- A reload that goes on takes nothing from the others. -/
theorem OwnedBy.resume {s : EngineState} {registered : List RuntimeEntry} {index : Nat}
    {reload reload' : InFlightReload} {conditions : Conditions} {host' : RuntimeHost}
    (h : OwnedBy s registered) (hreload : s.inFlight[index]? = some reload)
    (hresume : resume reload conditions s.host = some (reload', host')) :
    ∃ registered', (∀ e ∈ registered, e ∈ registered') ∧ OwnedBy
      ⟨host', s.inFlight.take index ++ [reload'] ++ s.inFlight.drop (index + 1)⟩ registered' := by
  obtain ⟨howned, howns⟩ := h
  rw [split_at hreload] at howned howns
  obtain ⟨task, startedOn, rest, pending⟩ := reload
  cases rest with
  | done result => cases hresume
  | call call k =>
    cases hresume
    rw [List.flatMap_append, List.flatMap_append, List.flatMap_singleton] at howned
    have hself := howns _ (List.mem_append_left _ (List.mem_append_right _ List.mem_cons_self))
    obtain ⟨hcommits, hrest⟩ := hself _ rfl
    obtain ⟨registered', hsub, howned'⟩ := howned.calls hcommits ⟨conditions, rfl⟩
    refine ⟨registered', hsub, ?_, fun other hother => ?_⟩
    · rw [List.flatMap_append, List.flatMap_append, List.flatMap_singleton]
      exact howned'
    · rcases List.mem_append.mp hother with hother | hother
      · rcases List.mem_append.mp hother with hother | hother
        · exact howns other (List.mem_append_left _ (List.mem_append_left _ hother))
        · obtain rfl := List.mem_singleton.mp hother
          exact hrest _ _ ⟨⟨task, s.host, _, conditions, rfl⟩, rfl⟩
      · exact howns other (List.mem_append_right _ hother)

/-- **Every step keeps the owners**, whatever else is in flight. -/
theorem OwnedBy.step {s s' : EngineState} {a : EngineStep} {registered : List RuntimeEntry}
    (h : OwnedBy s registered) (hstep : system.step s a = some s') :
    ∃ registered', (∀ e ∈ registered, e ∈ registered') ∧ OwnedBy s' registered' := by
  cases a with
  | request op =>
    cases hstep
    exact ⟨registered, fun _ he => he, h.owned.request op, h.ownsOnly⟩
  | reloadConfig candidate now =>
    cases hstep
    have hlaunched := unsettled_sublist
      ⟨newTask s.host candidate now, s.host, (launch s.host candidate now).1, []⟩
    refine ⟨registered, fun _ he => he, ?_, ?_⟩
    · have howned : Owned (s.inFlight.flatMap InFlightReload.pending)
          (launch s.host candidate now).2 registered := by
        unfold RuntimeReloadIntegration.launch
        rcases start_cases s.host candidate now with ⟨error, host', hstart, hr⟩ | ⟨hstart, -⟩
        · rw [hstart]
          have hview : host'.view s.host.registry.activeGenerationId =
              s.host.view s.host.registry.activeGenerationId := (hr _ false).view_eq_undecided
          obtain ⟨e, he⟩ := h.owned.active
          refine h.owned.move ((hr "" false).lifecycle registered h.owned.lifecycle) ⟨e, ?_⟩
            (Nat.le_of_eq (congrArg ReloadView.nextRef hview).symm)
          exact (congrArg ReloadView.activeEntry hview).trans he
        · rw [hstart]
          exact h.owned
      refine howned.sublist ?_
      have hnone := List.eq_nil_of_sublist_nil (hlaunched.flatMap InFlightReload.pending)
      dsimp only
      rw [List.flatMap_append, hnone, List.append_nil]
    · intro reload hreload
      rcases List.mem_append.mp hreload with hreload | hreload
      · exact h.ownsOnly reload hreload
      · obtain rfl := List.mem_singleton.mp (hlaunched.subset hreload)
        exact launch_ownsOnly s.host candidate now
  | resume index conditions =>
    obtain ⟨reload, hreload, hstep⟩ := Option.bind_eq_some_iff.mp hstep
    obtain ⟨⟨reload', host'⟩, hresume, hstep⟩ := Option.bind_eq_some_iff.mp hstep
    cases hstep
    obtain ⟨registered', hsub, howned, howns⟩ := h.resume hreload hresume
    have hsettled : (s.inFlight.take index ++ unsettled reload' ++
        s.inFlight.drop (index + 1)).Sublist
          (s.inFlight.take index ++ [reload'] ++ s.inFlight.drop (index + 1)) :=
      ((List.Sublist.refl _).append (unsettled_sublist reload')).append (List.Sublist.refl _)
    exact ⟨registered', hsub, howned.sublist (hsettled.flatMap InFlightReload.pending),
      fun other hother => howns other (hsettled.subset hother)⟩

/-- In every state of an engine, whatever it has run. -/
theorem ownedBy_of_run {config : SepigsConfig} {host : RuntimeHost} {s : EngineState}
    {steps : List EngineStep} (hbuild : build config = .ok host)
    (hrun : system.run ⟨host, []⟩ steps = some s) : ∃ registered, OwnedBy s registered := by
  refine system.run_invariant (fun _ _ => True) (fun s => ∃ registered, OwnedBy s registered)
    ?_ steps _ _ ?_ (system.along_true _ _) hrun
  · rintro s a s' ⟨registered, h⟩ _ hstep
    obtain ⟨registered', -, h'⟩ := h.step hstep
    exact ⟨registered', h'⟩
  · exact ⟨_, (settled_of_build hbuild).2, fun _ hreload => (nomatch hreload)⟩

/-- The states of an engine in which reloads are started one at a time and no request
drops a generation that may have to be restored. -/
theorem coherent_of_run {config : SepigsConfig} {host : RuntimeHost} {s : EngineState}
    {steps : List EngineStep} (hbuild : build config = .ok host)
    (hserial : system.Along Serial ⟨host, []⟩ steps)
    (hkeeps : system.Along KeepsTargets ⟨host, []⟩ steps)
    (hrun : system.run ⟨host, []⟩ steps = some s) : Coherent s :=
  system.run_invariant (fun s a => Serial s a ∧ KeepsTargets s a) Coherent
    (fun _ _ _ h hg hstep => h.step hg.1 hg.2 hstep) steps _ _ (.settled (settled_of_build hbuild).1)
    (hserial.and hkeeps) hrun

/-- Runs the engine of a config and looks at the state it ends in. -/
def checkRun (config : SepigsConfig) (steps : List EngineStep) (P : EngineState → Bool) : Bool :=
  match build config with
  | .ok host => (system.run ⟨host, []⟩ steps).any P
  | .error _ => false

theorem exists_run_of_check (config : SepigsConfig) (steps : List EngineStep)
    (P : EngineState → Bool) (h : checkRun config steps P = true) :
    ∃ host s, build config = .ok host ∧ system.run ⟨host, []⟩ steps = some s ∧ P s = true := by
  unfold checkRun at h
  cases hbuild : build config with
  | error e =>
    rw [hbuild] at h
    cases h
  | ok host =>
    rw [hbuild] at h
    obtain ⟨s, hrun, hP⟩ := Option.any_eq_true _ _ |>.mp h
    exact ⟨host, s, rfl, hrun, hP⟩

/-- **Reloads started one at a time are serializable**: whenever none is in flight,
all active generations are built from the committed config. -/
theorem reloads_serializable {config : SepigsConfig} {host : RuntimeHost} {s : EngineState}
    {steps : List EngineStep} (hbuild : build config = .ok host)
    (hserial : system.Along Serial ⟨host, []⟩ steps)
    (hkeeps : system.Along KeepsTargets ⟨host, []⟩ steps)
    (hrun : system.run ⟨host, []⟩ steps = some s) (hquiet : s.inFlight = []) :
    ∃ C, s.host.config = C ∧ BuiltFrom C s.host := by
  cases coherent_of_run hbuild hserial hkeeps hrun with
  | settled h => exact ⟨_, rfl, h.builtFrom⟩
  | reloading h => cases hquiet

/-- One reload of routing and outbounds from beginning to end. -/
def oneReload : List EngineStep :=
  .reloadConfig (directConfig "b") 0 :: List.replicate 12 (.resume 0 ⟨false, none, false, 0, 0⟩)

theorem oneReload_serial (host : RuntimeHost) : system.Along Serial ⟨host, []⟩ oneReload :=
  ⟨.inl rfl, fun s' _ => system.along_replicate (fun _ => trivial) 12 s'⟩

theorem oneReload_keepsTargets (host : RuntimeHost) :
    system.Along KeepsTargets ⟨host, []⟩ oneReload :=
  ⟨trivial, fun s' _ => system.along_replicate (fun _ => trivial) 12 s'⟩

theorem reloads_serializable_oneReload : ∃ (s : EngineState) (C : SepigsConfig), s.host.config = directConfig "b" ∧
    s.host.config = C ∧ BuiltFrom C s.host := by
  obtain ⟨host, s, hbuild, hrun, hend⟩ := exists_run_of_check (directConfig "a") oneReload
    (fun s => s.inFlight.length = 0 ∧ s.host.config = directConfig "b") (by decide +kernel)
  obtain ⟨hquiet, hconfig⟩ := of_decide_eq_true hend
  obtain ⟨C, hC, hbuilt⟩ := reloads_serializable hbuild (oneReload_serial host)
    (oneReload_keepsTargets host) hrun (List.eq_nil_of_length_eq_zero hquiet)
  exact ⟨s, C, hconfig, hC, hbuilt⟩

/-- Two reloads that were started together: the first changes DNS, the second, which
has read the same config, the default outbound's rules. -/
def overlapping : List EngineStep :=
  [.reloadConfig { directConfig "a" with dns := ⟨"changed", "{}"⟩ } 0,
    .reloadConfig { directConfig "a" with
      route := ⟨"a", [⟨"a", none, some ["example.com"], none, none, none, none, none⟩], [], []⟩ } 0] ++
  List.replicate 16 (.resume 0 ⟨false, none, false, 0, 0⟩)

/-- **Overlapping reloads are not serializable**: the second one commits a config
whose DNS section is not the one the active DNS generation is built from. -/
theorem overlapping_not_serializable : ∃ host s, build (directConfig "a") = .ok host ∧
    system.run ⟨host, []⟩ overlapping = some s ∧ s.inFlight = [] ∧
    ¬ ∃ C, s.host.config = C ∧ BuiltFrom C s.host := by
  obtain ⟨host, s, hbuild, hrun, hend⟩ := exists_run_of_check (directConfig "a") overlapping
    (fun s => s.inFlight.length = 0 ∧ s.host.dns.activeGeneration.config ≠ s.host.config.dns)
    (by decide +kernel)
  obtain ⟨hquiet, hdns⟩ := of_decide_eq_true hend
  refine ⟨host, s, hbuild, hrun, List.eq_nil_of_length_eq_zero hquiet, ?_⟩
  rintro ⟨_, rfl, hbuilt⟩
  exact hdns hbuilt.dns

/-! ## The rollback target -/

/-- The generation the reload would restore is registered and none of its objects has
been stopped; a rollback it waits for succeeds. -/
structure RollbackReady (reload : InFlightReload) (host : RuntimeHost) : Prop where
  alive : ∃ entry,
    host.registry.liveEntry reload.startedOn.registry.activeGenerationId = some entry ∧
    reload.startedOn.registry.liveEntry reload.startedOn.registry.activeGenerationId = some entry ∧
    ∀ o ∈ entry.outbounds.values, o ∉ host.registry.stopCalls
  rollback : ∀ component value,
    reload.rest.awaited = some (.operation (.rollback ⟨component, .outbound value⟩)) →
      RollbackSucceeds reload.startedOn value host

/-- Every reload that can still be rolled back is ready for it. -/
def TargetsAlive (s : EngineState) : Prop :=
  ∀ reload ∈ s.inFlight, decided reload.rest.awaited = false → RollbackReady reload s.host

theorem Proceeding.rollbackReady {reload : InFlightReload} {s : EngineState}
    {registered : List RuntimeEntry} (h : Proceeding reload s.host) (howned : OwnedBy s registered)
    (hundecided : decided reload.rest.awaited = false) : RollbackReady reload s.host := by
  obtain ⟨ref, first, hold⟩ := h.settled.builtFrom.outbound
  have halive : ∀ hkept : OldKept reload.startedOn
      (s.host.view reload.startedOn.registry.activeGenerationId), ∃ entry,
      s.host.registry.liveEntry reload.startedOn.registry.activeGenerationId = some entry ∧
      reload.startedOn.registry.liveEntry reload.startedOn.registry.activeGenerationId =
        some entry ∧ ∀ o ∈ entry.outbounds.values, o ∉ s.host.registry.stopCalls := by
    intro hkept
    have hentry := Eq.trans hkept hold
    exact ⟨_, hentry, hold, howned.owned.unstopped hentry⟩
  cases hcall : reload.rest.awaited with
  | none =>
    rw [hcall] at hundecided
    cases hundecided
  | some call =>
    have hwaits := Resumption.wp_invariant (fun call => Others.refl (decided (some call))) h.rule hcall
    rw [hcall] at hundecided
    cases call with
    | commitRuntimeConfig => cases hundecided
    | shadow =>
      refine ⟨halive hwaits.2, fun component value heq => ?_⟩
      rw [hcall] at heq
      cases heq
    | operation op =>
      refine ⟨halive (hwaits.2.1 hundecided), fun component value heq => ?_⟩
      rw [hcall] at heq
      cases heq
      exact hwaits.2.2 component value rfl

/-- **When the rollback target stays alive**: in every state of a run exactly if no
request of the run drops the last reference to it. -/
theorem targetsAlive_iff {config : SepigsConfig} {host : RuntimeHost} {steps : List EngineStep}
    (hbuild : build config = .ok host) (hserial : system.Along Serial ⟨host, []⟩ steps) :
    (∀ before after s, steps = before ++ after → system.run ⟨host, []⟩ before = some s →
      TargetsAlive s) ↔ system.Along KeepsTargets ⟨host, []⟩ steps := by
  constructor
  · intro halive
    refine (system.along_iff KeepsTargets ⟨host, []⟩ steps).mpr ?_
    intro before a after s heq hrun
    cases a with
    | reloadConfig candidate now => exact trivial
    | resume index conditions => exact trivial
    | request op =>
      intro reload hreload hundecided
      by_contra hdrops
      have hnext : system.run ⟨host, []⟩ (before ++ [.request op]) =
          some ⟨s.host.request op, s.inFlight⟩ := by
        rw [system.run_append, hrun]
        rfl
      have hready := halive (before ++ [.request op]) after ⟨s.host.request op, s.inFlight⟩
        (by rw [heq]; simp) hnext reload hreload hundecided
      obtain ⟨entry, hentry, -⟩ := hready.alive
      rw [s.host.request_retires op hdrops] at hentry
      cases hentry
  · rintro hkeeps before after s rfl hrun reload hreload hundecided
    have hserial := ((system.along_append Serial _ _ _).mp hserial).1
    have hkeeps := ((system.along_append KeepsTargets _ _ _).mp hkeeps).1
    cases coherent_of_run hbuild hserial hkeeps hrun with
    | settled h => cases hreload
    | reloading h =>
      obtain rfl := List.mem_singleton.mp hreload
      obtain ⟨registered, howned⟩ := ownedBy_of_run hbuild hrun
      exact h.rollbackReady howned hundecided

theorem targetsAlive_iff_oneReload : ∃ host, build (directConfig "a") = .ok host ∧
    ∀ before after s, oneReload = before ++ after → system.run ⟨host, []⟩ before = some s →
      TargetsAlive s := by
  obtain ⟨host, _, hbuild, -⟩ := exists_run_of_check (directConfig "a") oneReload (fun _ => true)
    (by decide +kernel)
  exact ⟨host, hbuild,
    (targetsAlive_iff hbuild (oneReload_serial host)).mpr (oneReload_keepsTargets host)⟩

/-- A reload of routing, outbounds and DNS.  After the outbound commit the one request
that has a reference to the old generation releases it; then the DNS commit comes too
late. -/
def releasedTooEarly : List EngineStep :=
  [.request (.acquireOutboundRef "a" none),
    .reloadConfig { directConfig "b" with dns := ⟨"changed", "{}"⟩ } 0] ++
  List.replicate 11 (.resume 0 ⟨false, none, false, 0, 0⟩) ++
  [.request (.releaseOutboundRef 1), .resume 0 ⟨true, none, false, 0, 0⟩]

/-- A reload waits for the rollback of its outbound component, which rejects. -/
def rollbackRejects (s : EngineState) : Bool :=
  s.inFlight.any fun reload =>
    match reload.rest.awaited with
    | some (.operation (.rollback ⟨_, .outbound value⟩)) =>
      !(OutboundRuntimeAdapter.rollback value s.host).1.isOk
    | _ => false

theorem not_ready_of_rollbackRejects {s : EngineState} (h : rollbackRejects s = true) :
    ∃ reload ∈ s.inFlight, decided reload.rest.awaited = false ∧ ¬ RollbackReady reload s.host := by
  obtain ⟨reload, hreload, hawaited⟩ := List.any_eq_true.mp h
  split at hawaited
  · next component value hcall =>
    refine ⟨reload, hreload, by rw [hcall]; rfl, fun hready => ?_⟩
    obtain ⟨t, hrollback, -⟩ := hready.rollback component value hcall
    rw [hrollback] at hawaited
    cases hawaited
  · cases hawaited

/-- **The rollback target can be lost.** -/
theorem rollback_target_lost : ∃ host s, build (directConfig "a") = .ok host ∧
    system.Along Serial ⟨host, []⟩ releasedTooEarly ∧
    system.run ⟨host, []⟩ releasedTooEarly = some s ∧ rollbackRejects s = true ∧
    ¬ TargetsAlive s := by
  obtain ⟨host, s, hbuild, hrun, hrejects⟩ := exists_run_of_check (directConfig "a")
    releasedTooEarly rollbackRejects (by decide +kernel)
  obtain ⟨reload, hreload, hundecided, hnot⟩ := not_ready_of_rollbackRejects hrejects
  refine ⟨host, s, hbuild, ?_, hrun, hrejects, fun halive => hnot (halive reload hreload hundecided)⟩
  refine ⟨trivial, fun s' hs' => ?_⟩
  cases hs'
  refine ⟨.inl rfl, fun s' _ => ?_⟩
  refine (system.along_iff Serial s' _).mpr fun before a after t heq _ => ?_
  cases a with
  | request op => exact trivial
  | resume index conditions => exact trivial
  | reloadConfig candidate now =>
    have hmem : EngineStep.reloadConfig candidate now ∈ before ++ .reloadConfig candidate now :: after :=
      List.mem_append_right _ List.mem_cons_self
    rw [← heq] at hmem
    simp at hmem

end Engine

end Sepigs
