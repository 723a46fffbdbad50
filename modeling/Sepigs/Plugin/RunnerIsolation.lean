import Sepigs.Plugin.FactoryOwnership
import Sepigs.Plugin.Runner

/-!
# Instances of a plugin runner against each other

`Isolated` is what a step may do: an event of an instance that was discarded touches no call,
no handle and no factory of a newer one, and a `stop` that ends does so with the outcome of
its call and leaves nothing running.  The runners do not check which instance an event is of,
so this holds of a step exactly when `Clean` does (`isolated_iff`), and of a run exactly when
all its steps are clean (`isolation_exact`).

The invariant: the handle is of the newest instance, and no other runs.
-/

namespace Sepigs

namespace FactoryRegistry

theorem unregister_owners (registry : FactoryRegistry) (type owner type' : String) :
    (registry.unregisterOutboundFactory type owner).owners.get type' =
      if type' = type ∧ registry.owners.get type' = some owner then none
      else registry.owners.get type' := by
  unfold unregisterOutboundFactory
  by_cases howner : registry.owners.get type = some owner
  · rw [if_neg (not_not.mpr howner), JsMap.get_delete]
    by_cases htype : type' = type
    · subst htype
      rw [if_pos rfl, if_pos ⟨rfl, howner⟩]
    · rw [if_neg htype, if_neg fun h => htype h.1]
  · rw [if_pos howner, if_neg]
    rintro ⟨rfl, hsome⟩
    exact howner hsome

theorem unregisterAll_owners (types : List String) (owner type' : String) :
    ∀ registry : FactoryRegistry, (registry.unregisterAll types owner).owners.get type' =
      if type' ∈ types ∧ registry.owners.get type' = some owner then none
      else registry.owners.get type' := by
  induction types with
  | nil =>
    intro registry
    rw [if_neg]
    · rfl
    · rintro ⟨hmem, -⟩
      cases hmem
  | cons type types ih =>
    intro registry
    refine (ih (registry.unregisterOutboundFactory type owner)).trans ?_
    rw [unregister_owners]
    by_cases howner : registry.owners.get type' = some owner
    · by_cases htype : type' = type
      · subst htype
        simp [howner]
      · simp [howner, htype]
    · simp [howner]

end FactoryRegistry

namespace PluginManager

theorem unregister_owner {manager : PluginManager} {tag type : String}
    (hlisted : type ∈ (manager.remoteOutboundTypes.get tag).getD [])
    (howner : manager.registry.owners.get type = some tag) :
    (manager.unregisterRemoteOutboundFactories tag).registry.owners.get type = none := by
  unfold unregisterRemoteOutboundFactories
  cases hremote : manager.remoteOutboundTypes.get tag with
  | none =>
    rw [hremote] at hlisted
    cases hlisted
  | some types =>
    rw [hremote] at hlisted
    show (manager.registry.unregisterAll types tag).owners.get type = none
    rw [FactoryRegistry.unregisterAll_owners, if_pos ⟨hlisted, howner⟩]

theorem registerRemote_some {manager manager' : PluginManager} {tag type : String}
    (h : manager.registerRemote tag type = some manager') :
    (∀ type', manager'.registry.owners.get type' =
      if type' = type then some tag else manager.registry.owners.get type') ∧
    ∀ type', type' ∈ (manager'.remoteOutboundTypes.get tag).getD [] ↔
      type' = type ∨ type' ∈ (manager.remoteOutboundTypes.get tag).getD [] := by
  unfold registerRemote at h
  split at h
  · cases h
  · cases hregister : manager.registry.registerOutboundFactory type (.plugin tag) tag with
    | error error =>
      rw [hregister] at h
      cases h
    | ok registry =>
      rw [hregister] at h
      obtain ⟨-, rfl⟩ := FactoryRegistry.register_ok hregister
      obtain rfl := Option.some.inj h
      constructor
      · intro type'
        exact JsMap.get_set _ _ _ _
      · intro type'
        show type' ∈ ((JsMap.set _ _ _).get tag).getD [] ↔ _
        rw [JsMap.get_set, if_pos rfl, Option.getD_some, mem_addType]

end PluginManager

namespace PluginRunner

/-! ## What the claim says of a step -/

def Running (instances : List PluginInstance) (i : Nat) : Prop :=
  ∃ process, instances[i]? = some process ∧ process.killed = false ∧ process.exited = false

/-- The instance that an event belongs to. -/
def eventOf (s : PluginRunner) : Action → Option Nat
  | .reply id _ => s.calls[id]?.map PluginCall.sentTo
  | .error i _ => some i
  | .exit i _ _ => some i
  | .timeout id => s.calls[id]?.map PluginCall.sentTo
  | _ => none

variable (config : PluginRunnerConfig)

/-- An event of a discarded instance rejects no call sent to a newer one, does not clear the
handle of a newer one, and unregisters no factory that a newer one registered; a `stop` that
ends has the outcome of its call, and no instance runs after it. -/
structure Isolated (s : PluginRunner) (a : Action) (s' : PluginRunner) : Prop where
  calls : ∀ (i id : Nat) (call : PluginCall) (error : PluginError), s.eventOf a = some i →
    s.current ≠ some i → s.calls[id]? = some call → i < call.sentTo → call.outcome = none →
    s'.calls[id]? ≠ some { call with outcome := some (.error error) }
  handle : ∀ i j, s.eventOf a = some i → s.current ≠ some i → s.current = some j →
    s'.current = some j
  factories : ∀ (i j : Nat) (type : String), s.eventOf a = some i → s.current ≠ some i → i < j →
    (type, j) ∈ s.registrations → s'.manager.registry.owners.get type = some config.tag
  stops : ∀ (k : Nat) (stop : StopCall) (result : Except PluginError Unit),
    s'.stops[k]? = some stop → stop.result = some result →
    s.stops[k]?.bind StopCall.result = none →
    (∀ i id, stop.request = some (i, id) →
      (s.calls[id]?.bind PluginCall.outcome).map stopResult = some result) ∧
    ∀ j, ¬ Running s'.instances j

/-! ## The condition -/

/-- Every call sent to a newer instance has an outcome. -/
def NonePending (s : PluginRunner) (i : Nat) : Prop :=
  ∀ call ∈ s.calls, i < call.sentTo → call.outcome ≠ none

/-- An instance that was discarded ends, errs or has a timer fire only while there is nothing
newer that it would hit, and `stop` goes on only while the handle is what it expects. -/
def Clean (s : PluginRunner) : Action → Prop
  | .exit i code _ => s.current = some i ∨
      (∀ registration ∈ s.registrations, registration.2 ≤ i) ∧
      (config.kind = .childProcess ∧ s.current = none ∨ code = some 0 ∨ s.NonePending i)
  | .error i _ => s.current = some i ∨ s.NonePending i
  | .timeout id => ∀ call ∈ s.calls[id]?, s.current = none ∨ s.current = some call.sentTo
  | .finishStop k => ∀ stop ∈ s.stops[k]?, ∀ request ∈ stop.request,
      match config.kind with
      | .childProcess => s.current = none ∨ s.current = some request.1
      | .workerThread => s.current ≠ none
  | .endStop _ => ∀ j, s.current = some j → ¬ Running s.instances j
  | _ => True

/-! ## The invariant -/

structure Inv (s : PluginRunner) : Prop where
  newest : ∀ i, s.current = some i → i + 1 = s.instances.length ∧
    ∃ process, s.instances[i]? = some process ∧ process.exited = false ∧
      (config.kind = .childProcess → process.killed = false)
  running : ∀ i, Running s.instances i → s.current = some i
  sent : ∀ call ∈ s.calls, call.sentTo < s.instances.length ∧
    ∀ message, call.outcome ≠ some (.error (.typeError message))
  registered : ∀ registration ∈ s.registrations,
    s.manager.registry.owners.get registration.1 = some config.tag ∧
      registration.1 ∈ (s.manager.remoteOutboundTypes.get config.tag).getD []

theorem inv_create (manager : PluginManager) : Inv config (create manager) where
  newest := by
    intro i h
    cases h
  running := by
    rintro i ⟨process, h, -⟩
    cases h
  sent := by
    intro call h
    cases h
  registered := by
    intro registration h
    cases h

theorem running_modify {instances : List PluginInstance} {i j : Nat}
    {f : PluginInstance → PluginInstance}
    (hf : ∀ process, (f process).killed = true ∨ (f process).exited = true) :
    Running (instances.modify i f) j → Running instances j ∧ j ≠ i := by
  rintro ⟨process, hget, hkilled, hexited⟩
  rw [List.getElem?_modify] at hget
  obtain ⟨process', hget', heq⟩ := Option.map_eq_some_iff.mp hget
  by_cases hij : i = j
  · rw [if_pos hij] at heq
    subst heq
    rcases hf process' with h | h
    · rw [h] at hkilled
      cases hkilled
    · rw [h] at hexited
      cases hexited
  · rw [if_neg hij] at heq
    subst heq
    exact ⟨⟨process', hget', hkilled, hexited⟩, fun hji => hij hji.symm⟩

theorem running_modify_of_ne {instances : List PluginInstance} {i j : Nat}
    {f : PluginInstance → PluginInstance} (hne : j ≠ i) (h : Running instances j) :
    Running (instances.modify i f) j := by
  obtain ⟨process, hget, hends⟩ := h
  refine ⟨process, ?_, hends⟩
  rw [List.getElem?_modify, hget]
  show some (if i = j then f process else process) = some process
  rw [if_neg fun hij => hne hij.symm]

variable {config} {s : PluginRunner}

theorem running_of_childProcess (h : Inv config s) (hkind : config.kind = .childProcess) {i : Nat}
    (hcurrent : s.current = some i) : Running s.instances i := by
  obtain ⟨-, process, hget, hexited, hkilled⟩ := h.newest i hcurrent
  exact ⟨process, hget, hkilled hkind, hexited⟩

/-- The runner ends the current instance, or one when there is no current one. -/
theorem Inv.kill (h : Inv config s) {i : Nat} (hcurrent : s.current = none ∨ s.current = some i) :
    Inv config { s.kill i with current := none } where
  newest := by
    intro j hj
    cases hj
  running := by
    intro j hj
    obtain ⟨hrunning, hne⟩ := running_modify (fun _ => Or.inl rfl) hj
    have hj' := h.running j hrunning
    rcases hcurrent with hnone | hsome
    · rw [hnone] at hj'
      cases hj'
    · rw [hsome] at hj'
      exact absurd (Option.some.inj hj').symm hne
  sent := by
    intro call hcall
    obtain ⟨hlt, hnoType⟩ := h.sent call hcall
    refine ⟨?_, hnoType⟩
    show call.sentTo < (s.instances.modify i _).length
    rw [List.length_modify]
    exact hlt
  registered := h.registered

theorem Inv.closed (h : Inv config s) : Inv config (s.closed config) where
  newest := h.newest
  running := h.running
  sent := h.sent
  registered := by
    intro registration hmem
    cases hmem

/-- Only outcomes and the table of `stop` calls change. -/
theorem Inv.congr (h : Inv config s) {s' : PluginRunner} (hcurrent : s'.current = s.current)
    (hinstances : s'.instances = s.instances)
    (hsent : ∀ call ∈ s'.calls, call.sentTo < s.instances.length ∧
      ∀ message, call.outcome ≠ some (.error (.typeError message)))
    (hmanager : s'.manager = s.manager) (hregistrations : s'.registrations = s.registrations) :
    Inv config s' where
  newest := by
    rw [hcurrent, hinstances]
    exact h.newest
  running := by
    rw [hcurrent, hinstances]
    exact h.running
  sent := by
    rw [hinstances]
    exact hsent
  registered := by
    rw [hmanager, hregistrations]
    exact h.registered

theorem no_typeError {before : Option (Except PluginError String)} {outcome : Except PluginError String}
    (hbefore : ∀ message, before ≠ some (.error (.typeError message)))
    (houtcome : ∀ message, outcome ≠ .error (.typeError message)) (message : String) :
    (before <|> some outcome) ≠ some (.error (.typeError message)) := by
  cases before with
  | none => exact fun heq => houtcome message (Option.some.inj heq)
  | some earlier => exact hbefore message

theorem Inv.settleCall (h : Inv config s) (id : Nat) {outcome : Except PluginError String}
    (houtcome : ∀ message, outcome ≠ .error (.typeError message)) :
    Inv config (s.settleCall id outcome) := by
  refine h.congr rfl rfl ?_ rfl rfl
  intro call hmem
  obtain ⟨j, hj⟩ := List.getElem?_of_mem hmem
  change (s.calls.modify id _)[j]? = some call at hj
  rw [List.getElem?_modify] at hj
  obtain ⟨call', hcall', rfl⟩ := Option.map_eq_some_iff.mp hj
  have hsent := h.sent call' (List.mem_of_getElem? hcall')
  split
  · exact ⟨hsent.1, no_typeError hsent.2 houtcome⟩
  · exact hsent

theorem Inv.rejectAll (h : Inv config s) {error : PluginError}
    (herror : ∀ message, error ≠ .typeError message) : Inv config (s.rejectAll error) := by
  refine h.congr rfl rfl ?_ rfl rfl
  intro call hmem
  obtain ⟨call', hcall', rfl⟩ := List.mem_map.mp hmem
  have hsent := h.sent call' hcall'
  exact ⟨hsent.1, no_typeError hsent.2 fun message heq => herror message (Except.error.inj heq)⟩

theorem Inv.exited (h : Inv config s) (i : Nat) : Inv config (s.exited i) where
  newest := by
    intro j hj
    change (if s.current = some i then none else s.current) = some j at hj
    split at hj
    · cases hj
    · next hne =>
      obtain ⟨hlast, process, hget, hexited, hkilled⟩ := h.newest j hj
      have hij : i ≠ j := fun heq => hne (heq ▸ hj)
      refine ⟨?_, process, ?_, hexited, hkilled⟩
      · show j + 1 = (s.instances.modify i _).length
        rw [List.length_modify]
        exact hlast
      · show (s.instances.modify i _)[j]? = some process
        rw [List.getElem?_modify, hget]
        show some (if i = j then _ else process) = some process
        rw [if_neg hij]
  running := by
    intro j hj
    obtain ⟨hrunning, hne⟩ := running_modify (fun _ => Or.inr rfl) hj
    have hj' := h.running j hrunning
    show (if s.current = some i then none else s.current) = some j
    rw [if_neg]
    · exact hj'
    · intro hi
      rw [hi] at hj'
      exact hne (Option.some.inj hj').symm
  sent := by
    intro call hcall
    obtain ⟨hlt, hnoType⟩ := h.sent call hcall
    refine ⟨?_, hnoType⟩
    show call.sentTo < (s.instances.modify i _).length
    rw [List.length_modify]
    exact hlt
  registered := h.registered

theorem Inv.ensure (h : Inv config s) : Inv config s.ensure.2 ∧ s.ensure.1 < s.ensure.2.instances.length ∧
    s.ensure.2.calls = s.calls ∧ s.ensure.2.stops = s.stops := by
  unfold PluginRunner.ensure
  cases hcurrent : s.current with
  | some i =>
    obtain ⟨hlast, -⟩ := h.newest i hcurrent
    refine ⟨h, ?_, rfl, rfl⟩
    show i < s.instances.length
    omega
  | none =>
    refine ⟨⟨?_, ?_, ?_, h.registered⟩, ?_, rfl, rfl⟩
    · intro i hi
      obtain rfl := Option.some.inj hi
      refine ⟨?_, ⟨false, false⟩, ?_, rfl, fun _ => rfl⟩
      · show s.instances.length + 1 = (s.instances ++ [_]).length
        rw [List.length_append, List.length_singleton]
      · exact List.getElem?_concat_length
    · rintro i ⟨process, hget, hends⟩
      change (s.instances ++ [_])[i]? = some process at hget
      show some s.instances.length = some i
      rcases Nat.lt_trichotomy i s.instances.length with hlt | heq | hgt
      · rw [List.getElem?_append_left hlt] at hget
        have hi := h.running i ⟨process, hget, hends⟩
        rw [hcurrent] at hi
        cases hi
      · rw [heq]
      · rw [List.getElem?_eq_none] at hget
        · cases hget
        · rw [List.length_append, List.length_singleton]
          omega
    · intro call hcall
      obtain ⟨hlt, hnoType⟩ := h.sent call hcall
      refine ⟨?_, hnoType⟩
      show call.sentTo < (s.instances ++ [_]).length
      rw [List.length_append, List.length_singleton]
      omega
    · show s.instances.length < (s.instances ++ [_]).length
      rw [List.length_append, List.length_singleton]
      omega

theorem Inv.call (h : Inv config s) (method : PluginMethod) : Inv config (s.call method).2 := by
  obtain ⟨hinv, hlt, hcalls, -⟩ := h.ensure
  refine hinv.congr rfl rfl ?_ rfl rfl
  intro call hmem
  rcases List.mem_append.mp hmem with hold | hnew
  · exact hinv.sent call hold
  · obtain rfl := List.mem_singleton.mp hnew
    exact ⟨hlt, fun message heq => by cases heq⟩

/-! ## Steps -/

/-- No `stop` ends in a step that leaves their table alone. -/
theorem none_ends {s' : PluginRunner} (hstops : s'.stops = s.stops) {k : Nat} {stop : StopCall}
    {result : Except PluginError Unit} (hstop : s'.stops[k]? = some stop)
    (hresult : stop.result = some result) (hbefore : s.stops[k]?.bind StopCall.result = none) : False := by
  rw [hstops] at hstop
  rw [hstop] at hbefore
  change stop.result = none at hbefore
  rw [hresult] at hbefore
  cases hbefore

/-- A step in which no event of a discarded instance comes, and no `stop` ends. -/
theorem Isolated.of_quiet {a : Action} {s' : PluginRunner}
    (hevent : ∀ i, s.eventOf a = some i → s.current = some i) (hstops : s'.stops = s.stops) :
    Isolated config s a s' where
  calls := fun i _ _ _ hi hne => absurd (hevent i hi) hne
  handle := fun i _ hi hne => absurd (hevent i hi) hne
  factories := fun i _ _ hi hne => absurd (hevent i hi) hne
  stops := fun _ _ _ hstop hresult hbefore => (none_ends hstops hstop hresult hbefore).elim

/-- A `stop` that has ended did so in this step, or was there before. -/
theorem stop_set {stops : List StopCall} {k k' : Nat} {stop stop' : StopCall}
    {result : Except PluginError Unit} (hget : (stops.set k' stop')[k]? = some stop)
    (hresult : stop.result = some result) (hbefore : stops[k]?.bind StopCall.result = none) :
    k = k' ∧ stop = stop' := by
  rw [List.getElem?_set] at hget
  split at hget
  · next heq =>
    split at hget
    · exact ⟨heq.symm, (Option.some.inj hget).symm⟩
    · cases hget
  · rw [hget] at hbefore
    change stop.result = none at hbefore
    rw [hresult] at hbefore
    cases hbefore

theorem getElem?_settleCall {id : Nat} {outcome : Except PluginError String} {id' : Nat} (hne : id' ≠ id) :
    (s.settleCall id outcome).calls[id']? = s.calls[id']? := by
  show (s.calls.modify id _)[id']? = s.calls[id']?
  rw [List.getElem?_modify]
  cases s.calls[id']? with
  | none => rfl
  | some call =>
    show some (if id = id' then _ else call) = some call
    rw [if_neg fun heq => hne heq.symm]

/-- A call is not changed by the end of a call to another instance. -/
theorem settleCall_other {id id' i : Nat} {outcome : Except PluginError String} {call : PluginCall}
    {error : PluginError} (hi : s.calls[id]?.map PluginCall.sentTo = some i)
    (hcall : s.calls[id']? = some call) (hlt : i < call.sentTo) (hpending : call.outcome = none) :
    (s.settleCall id outcome).calls[id']? ≠ some { call with outcome := some (.error error) } := by
  have hne : id' ≠ id := by
    rintro rfl
    rw [hcall] at hi
    have hsame : call.sentTo = i := Option.some.inj hi
    omega
  rw [getElem?_settleCall hne, hcall]
  intro heq
  have houtcome : call.outcome = some (.error error) := congrArg PluginCall.outcome (Option.some.inj heq)
  rw [hpending] at houtcome
  cases houtcome

theorem step_reply (h : Inv config s) (id : Nat) (answer : Except (Option String) String) :
    Isolated config s (.reply id answer) (s.onReply config id answer) ∧
      Inv config (s.onReply config id answer) := by
  refine ⟨⟨?_, ?_, ?_, ?_⟩, h.settleCall id ?_⟩
  · intro i id' call error hi _ hcall hlt hpending
    exact settleCall_other hi hcall hlt hpending
  · intro i j _ _ hj
    exact hj
  · intro i j type _ _ _ hmem
    exact (h.registered _ hmem).1
  · intro k stop result hstop hresult hbefore
    exact (none_ends rfl hstop hresult hbefore).elim
  · intro message
    cases answer with
    | ok payload => exact fun heq => by cases heq
    | error reason => exact fun heq => by cases heq

theorem step_register (h : Inv config s) (i : Nat) (type : String) :
    Isolated config s (.register i type) (s.onRegister config i type) ∧
      Inv config (s.onRegister config i type) := by
  unfold onRegister
  cases hregister : s.manager.registerRemote config.tag type with
  | none => exact ⟨.of_quiet (by intro i hi; cases hi) rfl, h⟩
  | some manager =>
    refine ⟨.of_quiet (by intro i hi; cases hi) rfl, ⟨h.newest, h.running, h.sent, ?_⟩⟩
    obtain ⟨howner, hlisted⟩ := PluginManager.registerRemote_some hregister
    intro registration hmem
    rw [howner, hlisted]
    rcases List.mem_append.mp hmem with hold | hnew
    · obtain ⟨howner', hlisted'⟩ := h.registered registration hold
      refine ⟨?_, Or.inr hlisted'⟩
      split
      · rfl
      · exact howner'
    · obtain rfl := List.mem_singleton.mp hnew
      exact ⟨if_pos rfl, Or.inl rfl⟩

theorem step_output (h : Inv config s) (i bytes : Nat) :
    Isolated config s (.output i bytes) (s.onOutput config bytes) ∧
      Inv config (s.onOutput config bytes) := by
  have hcounted : Inv config { s with outputBytes := s.outputBytes + bytes } :=
    ⟨h.newest, h.running, h.sent, h.registered⟩
  unfold onOutput
  dsimp only
  split
  · next j hcurrent =>
    split
    · refine ⟨.of_quiet (by intro i hi; cases hi) rfl, Inv.rejectAll ?_ fun message heq => by cases heq⟩
      exact hcounted.kill (Or.inr hcurrent)
    · exact ⟨.of_quiet (by intro i hi; cases hi) rfl, hcounted⟩
  · exact ⟨.of_quiet (by intro i hi; cases hi) rfl, hcounted⟩

/-- Rejecting all calls hits one of a newer instance unless none of them is pending. -/
theorem rejectAll_newer (error : PluginError) (i : Nat) :
    (∀ (id : Nat) (call : PluginCall) (error' : PluginError), s.calls[id]? = some call →
      i < call.sentTo → call.outcome = none →
      (s.rejectAll error).calls[id]? ≠ some { call with outcome := some (.error error') }) ↔
      s.NonePending i := by
  constructor
  · intro h call hmem hlt hpending
    obtain ⟨id, hid⟩ := List.getElem?_of_mem hmem
    refine h id call error hid hlt hpending ?_
    show (s.calls.map _)[id]? = _
    rw [List.getElem?_map, hid]
    have hset : (call.outcome <|> some (.error error)) = some (.error error) := by
      rw [hpending]
      rfl
    exact congrArg (fun outcome => some { call with outcome := outcome }) hset
  · intro h id call error' hid hlt hpending
    exact absurd hpending (h call (List.mem_of_getElem? hid) hlt)

theorem step_error (h : Inv config s) (i : Nat) (message : String) :
    (Isolated config s (.error i message) (s.rejectAll (.raised message)) ↔
      s.Clean config (.error i message)) ∧ Inv config (s.rejectAll (.raised message)) := by
  refine ⟨?_, h.rejectAll fun _ heq => by cases heq⟩
  constructor
  · intro hisolated
    by_cases hcurrent : s.current = some i
    · exact Or.inl hcurrent
    · refine Or.inr ((rejectAll_newer (.raised message) i).mp ?_)
      intro id call error hid hlt hpending
      exact hisolated.calls i id call error rfl hcurrent hid hlt hpending
  · rintro (hcurrent | hnone)
    · refine .of_quiet ?_ rfl
      intro j hj
      obtain rfl := Option.some.inj hj
      exact hcurrent
    · refine ⟨?_, fun _ _ _ _ hj => hj, fun _ _ _ _ _ _ hmem => (h.registered _ hmem).1, ?_⟩
      · intro j id call error hj _ hid hlt hpending
        obtain rfl := Option.some.inj hj
        exact (rejectAll_newer (.raised message) i).mpr hnone id call error hid hlt hpending
      · intro k stop result hstop hresult hbefore
        exact (none_ends rfl hstop hresult hbefore).elim

theorem step_timeout (h : Inv config s) {id i : Nat} {method : PluginMethod}
    (hcall : s.calls[id]? = some ⟨i, method, none⟩) :
    (Isolated config s (.timeout id) (s.onTimeout config id i method) ↔ s.Clean config (.timeout id)) ∧
      (s.Clean config (.timeout id) → Inv config (s.onTimeout config id i method)) := by
  have hevent : s.eventOf (.timeout id) = some i := by
    show s.calls[id]?.map PluginCall.sentTo = some i
    rw [hcall]
    rfl
  have hclean : s.Clean config (.timeout id) ↔ s.current = none ∨ s.current = some i := by
    constructor
    · intro hclean
      exact hclean ⟨i, method, none⟩ hcall
    · intro hcurrent call hmem
      change s.calls[id]? = some call at hmem
      rw [hcall] at hmem
      obtain rfl := Option.some.inj hmem
      exact hcurrent
  rw [hclean]
  refine ⟨⟨?_, ?_⟩, fun hcurrent =>
    (h.kill hcurrent).settleCall id fun message heq => by cases heq⟩
  · intro hisolated
    cases hcurrent : s.current with
    | none => exact Or.inl rfl
    | some j =>
      by_cases heq : j = i
      · exact Or.inr (congrArg some heq)
      · have hne : s.current ≠ some i := by
          rw [hcurrent]
          intro hji
          exact heq (Option.some.inj hji)
        cases hisolated.handle i j hevent hne hcurrent
  · intro hcurrent
    refine ⟨?_, ?_, fun _ _ _ _ _ _ hmem => (h.registered _ hmem).1, ?_⟩
    · intro j id' call error hj _ hid hlt hpending
      exact settleCall_other hj hid hlt hpending
    · intro j j' hj hne hj'
      rw [hevent] at hj
      obtain rfl := Option.some.inj hj
      rcases hcurrent with hnone | hsome
      · rw [hnone] at hj'
        cases hj'
      · exact absurd hsome hne
    · intro k stop result hstop hresult hbefore
      exact (none_ends rfl hstop hresult hbefore).elim

/-- What the `exit` handlers have in common: the handle is cleared, the factories are
unregistered, and the pending calls are rejected unless `quiet`. -/
theorem step_exit_of (h : Inv config s) {i : Nat} {code : Option Int} {signal : Option String}
    {s' : PluginRunner} {reason : String} (quiet : Prop) [Decidable quiet]
    (heq : s' = if quiet then (s.exited i).closed config else
      ((s.exited i).closed config).rejectAll (.configError reason)) :
    (Isolated config s (.exit i code signal) s' ↔ s.current = some i ∨
      (∀ registration ∈ s.registrations, registration.2 ≤ i) ∧ (quiet ∨ s.NonePending i)) ∧
    Inv config s' := by
  have hclosed : Inv config ((s.exited i).closed config) := (h.exited i).closed
  have hinv : Inv config s' := by
    rw [heq]
    split
    · exact hclosed
    · exact hclosed.rejectAll fun message heq => by cases heq
  have hmanager : s'.manager = s.manager.unregisterRemoteOutboundFactories config.tag := by
    rw [heq]
    split
    · rfl
    · rfl
  have hstops : s'.stops = s.stops := by
    rw [heq]
    split
    · rfl
    · rfl
  have hhandle : s'.current = if s.current = some i then none else s.current := by
    rw [heq]
    split
    · rfl
    · rfl
  refine ⟨?_, hinv⟩
  constructor
  · intro hisolated
    by_cases hcurrent : s.current = some i
    · exact Or.inl hcurrent
    · refine Or.inr ⟨?_, ?_⟩
      · intro registration hmem
        by_contra hnewer
        obtain ⟨howner, hlisted⟩ := h.registered registration hmem
        have hkept := hisolated.factories i registration.2 registration.1 rfl hcurrent
          (Nat.lt_of_not_le hnewer) hmem
        rw [hmanager, PluginManager.unregister_owner hlisted howner] at hkept
        cases hkept
      · by_cases hquiet : quiet
        · exact Or.inl hquiet
        · refine Or.inr ((rejectAll_newer (.configError reason) i).mp ?_)
          intro id call error' hid hlt hpending
          have hkept := hisolated.calls i id call error' rfl hcurrent hid hlt hpending
          rw [heq, if_neg hquiet] at hkept
          exact hkept
  · rintro (hcurrent | ⟨hregistrations, hquiet⟩)
    · refine .of_quiet ?_ hstops
      intro j hj
      obtain rfl := Option.some.inj hj
      exact hcurrent
    · refine ⟨?_, ?_, ?_, ?_⟩
      · intro j id call error' hj _ hid hlt hpending
        obtain rfl := Option.some.inj hj
        rcases hquiet with hquiet | hnone
        · rw [heq, if_pos hquiet]
          show s.calls[id]? ≠ _
          rw [hid]
          intro hsame
          have houtcome : call.outcome = some (.error error') :=
            congrArg PluginCall.outcome (Option.some.inj hsame)
          rw [hpending] at houtcome
          cases houtcome
        · exact absurd hpending (hnone call (List.mem_of_getElem? hid) hlt)
      · intro j j' hj hne hj'
        obtain rfl := Option.some.inj hj
        rw [hhandle, if_neg hne]
        exact hj'
      · intro j j' type hj _ hlt hmem
        obtain rfl := Option.some.inj hj
        have hle : j' ≤ i := hregistrations (type, j') hmem
        omega
      · intro k stop result hstop hresult hbefore
        exact (none_ends hstops hstop hresult hbefore).elim

theorem step_exit (h : Inv config s) (i : Nat) (code : Option Int) (signal : Option String) :
    (Isolated config s (.exit i code signal) (s.onExit config i code signal) ↔
      s.Clean config (.exit i code signal)) ∧ Inv config (s.onExit config i code signal) := by
  unfold onExit Clean
  cases hkind : config.kind with
  | childProcess =>
    have heq : s.onChildExit config i code signal =
        if s.current = none ∨ code = some 0 then (s.exited i).closed config
        else ((s.exited i).closed config).rejectAll (.configError
          (s!"child-process plugin \"{config.tag}\" exited with code " ++
            s!"{exitCode code} signal {exitSignal signal}")) := by
      unfold onChildExit
      dsimp only
      by_cases hcurrent : s.current = none
      · rw [if_pos (Or.inl hcurrent), hcurrent]
        rfl
      · by_cases hcode : code = some 0
        · rw [if_pos (Or.inr hcode), if_neg]
          simp [hcode]
        · have hsome : s.current.isNone = false := by
            rw [Option.isNone_eq_false_iff, Option.isSome_iff_ne_none]
            exact hcurrent
          rw [if_neg (not_or.mpr ⟨hcurrent, hcode⟩), if_pos]
          rw [hsome, Bool.not_false, Bool.true_and, decide_eq_true_eq]
          exact hcode
    obtain ⟨hiff, hinv⟩ := step_exit_of h (s.current = none ∨ code = some 0) heq
    refine ⟨hiff.trans ?_, hinv⟩
    simp only [true_and, or_assoc]
  | workerThread =>
    have heq : s.onWorkerExit config i code =
        if code = some 0 then (s.exited i).closed config
        else ((s.exited i).closed config).rejectAll (.configError
          s!"worker-thread plugin \"{config.tag}\" exited with code {exitCode code}") := by
      unfold onWorkerExit
      dsimp only
      by_cases hcode : code = some 0
      · rw [if_pos hcode, if_neg (not_not.mpr hcode)]
      · rw [if_neg hcode, if_pos hcode]
    obtain ⟨hiff, hinv⟩ := step_exit_of h (code = some 0) heq
    refine ⟨hiff.trans ?_, hinv⟩
    simp only [reduceCtorEq, false_and, false_or]

/-! ### The end of `stop` -/

theorem Inv.setStop (h : Inv config s) (k : Nat) (stop : StopCall) : Inv config (s.setStop k stop) :=
  h.congr rfl rfl h.sent rfl rfl

theorem step_finishChildStop (h : Inv config s) (hkind : config.kind = .childProcess) {k i id : Nat}
    {outcome : Except PluginError String} (hstop : s.stops[k]? = some ⟨some (i, id), none, none⟩)
    (houtcome : s.calls[id]?.bind PluginCall.outcome = some outcome) :
    (Isolated config s (.finishStop k) (s.finishChildStop config k i id outcome) ↔
      s.current = none ∨ s.current = some i) ∧
    (s.current = none ∨ s.current = some i → Inv config (s.finishChildStop config k i id outcome)) := by
  refine ⟨⟨?_, ?_⟩, fun hcurrent => (h.kill hcurrent).closed.setStop k _⟩
  · intro hisolated
    cases hcurrent : s.current with
    | none => exact Or.inl rfl
    | some j =>
      by_cases heq : j = i
      · exact Or.inr (congrArg some heq)
      · have hlt : k < s.stops.length := (List.getElem?_eq_some_iff.mp hstop).1
        have hended := hisolated.stops k ⟨some (i, id), none, some (stopResult outcome)⟩
          (stopResult outcome) (List.getElem?_set_self hlt) rfl (by rw [hstop]; rfl)
        exact absurd (running_modify_of_ne heq (running_of_childProcess h hkind hcurrent)) (hended.2 j)
  · intro hcurrent
    refine ⟨?_, ?_, ?_, ?_⟩
    · intro _ _ _ _ hi
      cases hi
    · intro _ _ hi
      cases hi
    · intro _ _ _ hi
      cases hi
    intro k' stop result hset hresult hbefore
    obtain ⟨rfl, rfl⟩ := stop_set hset hresult hbefore
    refine ⟨?_, ?_⟩
    · intro i' id' hrequest
      obtain ⟨rfl, rfl⟩ := Prod.mk.inj (Option.some.inj hrequest)
      rw [houtcome]
      exact hresult
    · intro j hj
      have hnone := (h.kill hcurrent).running j hj
      cases hnone

/-- A thread that was told to end is still the current one. -/
theorem Inv.terminate (h : Inv config s) (hkind : config.kind = .workerThread) (i : Nat) :
    Inv config (s.kill i) where
  newest := by
    intro j hj
    obtain ⟨hlast, process, hget, hexited, -⟩ := h.newest j hj
    refine ⟨?_, ?_⟩
    · show j + 1 = (s.instances.modify i _).length
      rw [List.length_modify]
      exact hlast
    · show ∃ process, (s.instances.modify i _)[j]? = some process ∧ _
      rw [List.getElem?_modify, hget]
      refine ⟨_, rfl, ?_, ?_⟩
      · split
        · exact hexited
        · exact hexited
      · rw [hkind]
        intro hchild
        cases hchild
  running := by
    intro j hj
    obtain ⟨hrunning, -⟩ := running_modify (fun _ => Or.inl rfl) hj
    exact h.running j hrunning
  sent := by
    intro call hcall
    obtain ⟨hlt, hnoType⟩ := h.sent call hcall
    refine ⟨?_, hnoType⟩
    show call.sentTo < (s.instances.modify i _).length
    rw [List.length_modify]
    exact hlt
  registered := h.registered

theorem step_finishWorkerStop (h : Inv config s) (hkind : config.kind = .workerThread) {k i id : Nat}
    {outcome : Except PluginError String} (hstop : s.stops[k]? = some ⟨some (i, id), none, none⟩)
    (houtcome : s.calls[id]?.bind PluginCall.outcome = some outcome) :
    (Isolated config s (.finishStop k) (s.finishWorkerStop k i id) ↔ s.current ≠ none) ∧
    Inv config (s.finishWorkerStop k i id) := by
  have hlt : k < s.stops.length := (List.getElem?_eq_some_iff.mp hstop).1
  unfold finishWorkerStop
  split
  · next hcurrent =>
    refine ⟨⟨?_, fun hne => absurd hcurrent hne⟩, h.setStop k _⟩
    intro hisolated
    have hended := hisolated.stops k _ _ (List.getElem?_set_self hlt) rfl (by rw [hstop]; rfl)
    have hsame := hended.1 i id rfl
    rw [houtcome] at hsame
    obtain ⟨call, hcall, hcallOutcome⟩ := Option.bind_eq_some_iff.mp houtcome
    obtain ⟨-, hnoType⟩ := h.sent call (List.mem_of_getElem? hcall)
    cases outcome with
    | ok payload => cases hsame
    | error error =>
      have herror : error = .typeError "Cannot read properties of undefined (reading 'terminate')" :=
        Except.error.inj (Option.some.inj hsame)
      exact absurd (herror ▸ hcallOutcome) (hnoType _)
  · next j hcurrent =>
    refine ⟨⟨?_, ?_⟩, (h.terminate hkind j).setStop k _⟩
    · intro _ hnone
      rw [hnone] at hcurrent
      cases hcurrent
    · intro _
      refine ⟨?_, ?_, ?_, ?_⟩
      · intro _ _ _ _ hi
        cases hi
      · intro _ _ hi
        cases hi
      · intro _ _ _ hi
        cases hi
      · intro k' stop result hset hresult hbefore
        obtain ⟨-, rfl⟩ := stop_set hset hresult hbefore
        cases hresult

theorem step_endWorkerStop (h : Inv config s) {k i id j : Nat} {outcome : Except PluginError String}
    (hstop : s.stops[k]? = some ⟨some (i, id), some j, none⟩)
    (houtcome : s.calls[id]?.bind PluginCall.outcome = some outcome) :
    (Isolated config s (.endStop k) (s.endWorkerStop config k i id j outcome) ↔
      s.Clean config (.endStop k)) ∧
    (s.Clean config (.endStop k) → Inv config (s.endWorkerStop config k i id j outcome)) := by
  have hlt : k < s.stops.length := (List.getElem?_eq_some_iff.mp hstop).1
  have hnone (hclean : s.Clean config (.endStop k)) (j' : Nat) : ¬ Running s.instances j' :=
    fun hrunning => hclean j' (h.running j' hrunning) hrunning
  refine ⟨⟨?_, ?_⟩, ?_⟩
  · intro hisolated j' _
    have hended := hisolated.stops k _ _ (List.getElem?_set_self hlt) rfl (by rw [hstop]; rfl)
    exact hended.2 j'
  · intro hclean
    refine ⟨?_, ?_, ?_, ?_⟩
    · intro _ _ _ _ hi
      cases hi
    · intro _ _ hi
      cases hi
    · intro _ _ _ hi
      cases hi
    · intro k' stop result hset hresult hbefore
      obtain ⟨rfl, rfl⟩ := stop_set hset hresult hbefore
      refine ⟨?_, hnone hclean⟩
      intro i' id' hrequest
      obtain ⟨rfl, rfl⟩ := Prod.mk.inj (Option.some.inj hrequest)
      rw [houtcome]
      exact hresult
  · intro hclean
    have hcleared : Inv config { s with current := none } :=
      ⟨fun j' hj' => (by cases hj'), fun j' hj' => absurd hj' (hnone hclean j'), h.sent, h.registered⟩
    exact hcleared.closed.setStop k _

theorem stops_call (method : PluginMethod) : (s.call method).2.stops = s.stops := by
  unfold PluginRunner.call ensure
  cases s.current with
  | none => rfl
  | some i => rfl

theorem step_stop (h : Inv config s) : Isolated config s .stop s.stop ∧ Inv config s.stop := by
  have happend {stops : List StopCall} {k : Nat} {last stop : StopCall}
      {result : Except PluginError Unit} (hget : (stops ++ [last])[k]? = some stop)
      (hresult : stop.result = some result) (hbefore : stops[k]?.bind StopCall.result = none) :
      stop = last := by
    by_cases hlt : k < stops.length
    · rw [List.getElem?_append_left hlt] at hget
      rw [hget] at hbefore
      change stop.result = none at hbefore
      rw [hresult] at hbefore
      cases hbefore
    · rcases List.mem_append.mp (List.mem_of_getElem? hget) with hold | hnew
      · rw [List.getElem?_append_right (Nat.le_of_not_lt hlt)] at hget
        exact List.mem_singleton.mp (List.mem_of_getElem? hget)
      · exact List.mem_singleton.mp hnew
  unfold PluginRunner.stop
  split
  · next hcurrent =>
    refine ⟨⟨fun _ _ _ _ hi => (by cases hi), fun _ _ hi => (by cases hi), fun _ _ _ hi => (by cases hi), ?_⟩,
      ⟨h.newest, h.running, h.sent, h.registered⟩⟩
    intro k stop result hget hresult hbefore
    obtain rfl := happend hget hresult hbefore
    refine ⟨?_, ?_⟩
    · intro i id hrequest
      cases hrequest
    · intro j hj
      have hnone := h.running j hj
      rw [hcurrent] at hnone
      cases hnone
  · have hcall := h.call .stop
    refine ⟨⟨fun _ _ _ _ hi => (by cases hi), fun _ _ hi => (by cases hi), fun _ _ _ hi => (by cases hi), ?_⟩,
      ⟨hcall.newest, hcall.running, hcall.sent, hcall.registered⟩⟩
    intro k stop result hget hresult hbefore
    rw [← stops_call .stop] at hbefore
    obtain rfl := happend hget hresult hbefore
    cases hresult

/-- A step is isolated exactly when it is clean, and a clean one keeps the invariant. -/
theorem isolated_iff (h : Inv config s) {a : Action} {s' : PluginRunner}
    (hstep : s.step config a = some s') :
    (Isolated config s a s' ↔ s.Clean config a) ∧ (s.Clean config a → Inv config s') := by
  have of_always {a : Action} {s' : PluginRunner} (hclean : s.Clean config a)
      (hboth : Isolated config s a s' ∧ Inv config s') :
      (Isolated config s a s' ↔ s.Clean config a) ∧ (s.Clean config a → Inv config s') :=
    ⟨⟨fun _ => hclean, fun _ => hboth.1⟩, fun _ => hboth.2⟩
  cases a with
  | call method =>
    obtain rfl := Option.some.inj hstep
    exact of_always trivial ⟨.of_quiet (by intro i hi; cases hi) (stops_call method), h.call method⟩
  | stop =>
    obtain rfl := Option.some.inj hstep
    exact of_always trivial (step_stop h)
  | reply id answer =>
    dsimp only [step] at hstep
    split at hstep
    · obtain rfl := Option.some.inj hstep
      exact of_always trivial (step_reply h id answer)
    · cases hstep
  | register i type =>
    dsimp only [step] at hstep
    split at hstep
    · obtain rfl := Option.some.inj hstep
      exact of_always trivial (step_register h i type)
    · cases hstep
  | output i bytes =>
    dsimp only [step] at hstep
    split at hstep
    · obtain rfl := Option.some.inj hstep
      exact of_always trivial (step_output h i bytes)
    · cases hstep
  | error i message =>
    dsimp only [step] at hstep
    split at hstep
    · obtain rfl := Option.some.inj hstep
      exact ⟨(step_error h i message).1, fun _ => (step_error h i message).2⟩
    · cases hstep
  | exit i code signal =>
    dsimp only [step] at hstep
    split at hstep
    · split at hstep
      · cases hstep
      · obtain rfl := Option.some.inj hstep
        exact ⟨(step_exit h i code signal).1, fun _ => (step_exit h i code signal).2⟩
    · cases hstep
  | timeout id =>
    dsimp only [step] at hstep
    split at hstep
    · next hcall =>
      obtain rfl := Option.some.inj hstep
      exact step_timeout h hcall
    · cases hstep
  | finishStop k =>
    dsimp only [step] at hstep
    split at hstep
    · next i id hstop =>
      have hclean : s.Clean config (.finishStop k) ↔
          match config.kind with
          | .childProcess => s.current = none ∨ s.current = some i
          | .workerThread => s.current ≠ none := by
        dsimp only [Clean]
        rw [hstop]
        simp
      rw [hclean]
      split at hstep
      · next outcome houtcome =>
        cases hkind : config.kind with
        | childProcess =>
          rw [hkind] at hstep
          obtain rfl := Option.some.inj hstep
          exact step_finishChildStop h hkind hstop houtcome
        | workerThread =>
          rw [hkind] at hstep
          obtain rfl := Option.some.inj hstep
          obtain ⟨hiff, hinv⟩ := step_finishWorkerStop h hkind hstop houtcome
          exact ⟨hiff, fun _ => hinv⟩
      · cases hstep
    · cases hstep
  | endStop k =>
    dsimp only [step] at hstep
    split at hstep
    · next i id j hstop =>
      split at hstep
      · next outcome houtcome =>
        split at hstep
        · obtain rfl := Option.some.inj hstep
          exact step_endWorkerStop h hstop houtcome
        · cases hstep
      · cases hstep
    · cases hstep

/-! ## Runs -/

/-- Every step of the run is isolated. -/
def IsolatedRun (config : PluginRunnerConfig) (s : PluginRunner) (actions : List Action) : Prop :=
  (system config).Along (fun s a => ∀ s', s.step config a = some s' → Isolated config s a s') s actions

/-- **Isolation of a runner's instances.**  A run is isolated if and only if each of its steps
is clean. -/
theorem isolation_exact (config : PluginRunnerConfig) (manager : PluginManager)
    (actions : List Action) (s : PluginRunner)
    (hrun : (system config).run (create manager) actions = some s) :
    IsolatedRun config (create manager) actions ↔
      (system config).Along (fun s a => s.Clean config a) (create manager) actions := by
  refine (system config).along_iff_along (Inv config) ?_ ?_ actions _ s (inv_create config manager) hrun
  · intro s a s' hinv hstep
    obtain ⟨hiff, -⟩ := isolated_iff hinv hstep
    constructor
    · intro h
      exact hiff.mp (h s' hstep)
    · intro h s'' hstep''
      obtain rfl := Option.some.inj (hstep.symm.trans hstep'')
      exact hiff.mpr h
  · intro s a s' hinv hclean hstep
    exact (isolated_iff hinv hstep).2 hclean

def echoConfig (kind : PluginRunnerKind) : PluginRunnerConfig := ⟨kind, "echo", 300, 4096⟩

/-- A plugin that registers a type, is killed by a timer, is set up again after its process has
ended, and is stopped. -/
def restart : List Action :=
  [.call .setup, .register 0 "plugin.echo", .reply 0 (.ok "null"), .call .invoke, .timeout 1,
    .exit 0 none (some "SIGTERM"), .call .setup, .register 1 "plugin.echo", .reply 2 (.ok "null"),
    .stop, .reply 3 (.ok "null"), .finishStop 0, .exit 1 none (some "SIGTERM")]

theorem isolation_exact_restart :
    ∃ s, (system (echoConfig .childProcess)).run (create .initial) restart = some s ∧
      (IsolatedRun (echoConfig .childProcess) (create .initial) restart ↔
        (system (echoConfig .childProcess)).Along
          (fun s a => s.Clean (echoConfig .childProcess) a) (create .initial) restart) := by
  have henabled : ((system (echoConfig .childProcess)).run (create .initial) restart).isSome = true := by
    decide +kernel
  obtain ⟨s, hs⟩ := Option.isSome_iff_exists.mp henabled
  exact ⟨s, hs, isolation_exact (echoConfig .childProcess) .initial restart s hs⟩

/-- A call times out, the next one starts a new instance, and then the exit of the killed
instance is told: the new instance's call is rejected with it, by either runner. -/
theorem stale_exit_rejects :
    ¬ IsolatedRun (echoConfig .childProcess) (create .initial)
        [.call .invoke, .timeout 0, .call .invoke, .exit 0 none (some "SIGTERM")] ∧
      ¬ IsolatedRun (echoConfig .workerThread) (create .initial)
        [.call .invoke, .timeout 0, .call .invoke, .exit 0 (some 1) none] := by
  constructor
  · intro h
    have hexit := (Runs.System.along_iff _ _ _ _).mp h [.call .invoke, .timeout 0, .call .invoke]
      (.exit 0 none (some "SIGTERM")) [] _ rfl rfl _ rfl
    exact hexit.calls 0 1 ⟨1, .invoke, none⟩
      (.configError "child-process plugin \"echo\" exited with code n/a signal SIGTERM")
      rfl (by decide) rfl (by decide) rfl rfl
  · intro h
    have hexit := (Runs.System.along_iff _ _ _ _).mp h [.call .invoke, .timeout 0, .call .invoke]
      (.exit 0 (some 1) none) [] _ rfl rfl _ rfl
    exact hexit.calls 0 1 ⟨1, .invoke, none⟩
      (.configError "worker-thread plugin \"echo\" exited with code 1")
      rfl (by decide) rfl (by decide) rfl rfl

end PluginRunner

end Sepigs
