import Sepigs.Core.Construction
import Sepigs.Reload.RuntimeTransactionProof

/-!
# Atomicity of a runtime reload

A reload beside requests that release no outbound reference either replaces every
changed generation and the config, or leaves the data plane as it was; and at no
time does a request see a routing pair with the outbound generation of the other
side (`reload_atomic`).
-/

namespace Sepigs

open RuntimeTransaction

namespace RuntimeReloadIntegration

abbrev ReloadProgram : Type := Resumption Call Call.Reply (Except String Unit)

/-- One call of a reload, for some choice of the conditions. -/
def Calls (task : ReloadTask) (call : Call) (s : RuntimeHost) (reply : call.Reply)
    (t : RuntimeHost) : Prop :=
  ∃ conditions, perform task conditions s call = (reply, t)

/-- The calls of a reload, all answered under the same conditions. -/
def answer (task : ReloadTask) (conditions : Conditions) (call : Call) (s : RuntimeHost) :
    call.Reply × RuntimeHost :=
  perform task conditions s call

/-- `Engine.reloadConfig` up to its first `await`: what is left of it, and the host. -/
def launch (host : RuntimeHost) (candidate : SepigsConfig) (now : Nat) :
    ReloadProgram × RuntimeHost :=
  match start host candidate now with
  | (.ok task, host) => (program task, host)
  | (.error error, host) => (.done (.error error), host)

/-- No reload is under way: no routing transaction is open. -/
def Idle (host : RuntimeHost) : Prop :=
  ∀ id, host.routing.transactions.get id = none

/-- The data plane and the config are as they were. -/
structure Unchanged (host t : RuntimeHost) : Prop where
  config : t.config = host.config
  generation : t.generation = host.generation
  activePair : t.routing.activeGeneration = host.routing.activeGeneration
  activeOutbound : t.registry.activeGenerationId = host.registry.activeGenerationId
  activeEntry : t.registry.liveEntry t.registry.activeGenerationId =
    host.registry.liveEntry host.registry.activeGenerationId
  activeDns : t.dns.activeGeneration = host.dns.activeGeneration
  cacheCarriedOver : t.dns.cacheCarriedOver = host.dns.cacheCarriedOver
  cacheDropped : t.dns.cacheDropped = host.dns.cacheDropped
  idle : Idle t

/-- The registry's active generation is the reload's candidate, with objects created
from the candidate's sections. -/
def CandidateOutbound (task : ReloadTask) (registry : OutboundRuntimeRegistry) : Prop :=
  registry.activeGenerationId = s!"{task.candidateGenerationId}-outbound" ∧
  ∃ ref, registry.liveEntry registry.activeGenerationId =
    some ⟨⟨ref, registry.activeGenerationId, task.candidate.outbounds⟩,
      OutboundRuntimeAdapter.createRuntimeOutbounds (ref + 1) task.candidate.outbounds ∅⟩

/-- Every changed component runs its candidate, every other one what it ran before. -/
structure Replaced (task : ReloadTask) (host t : RuntimeHost) : Prop where
  config : t.config = task.candidate
  generation : t.generation = task.nextGeneration
  activePair : CandidatePair task host t.routing.activeGeneration
  outbound_changed : .outbound ∈ task.changedComponents → CandidateOutbound task t.registry
  outbound_kept : .outbound ∉ task.changedComponents →
    t.registry.activeGenerationId = host.registry.activeGenerationId ∧
    t.registry.liveEntry t.registry.activeGenerationId =
      host.registry.liveEntry host.registry.activeGenerationId
  dns_changed : .dns ∈ task.changedComponents →
    t.dns.activeGeneration.id = s!"{task.candidateGenerationId}-dns" ∧
    t.dns.activeGeneration.sequence = host.dns.activeGeneration.sequence + 1 ∧
    t.dns.activeGeneration.config = task.candidate.dns
  dns_kept : .dns ∉ task.changedComponents → t.dns.activeGeneration = host.dns.activeGeneration ∧
    t.dns.cacheCarriedOver = host.dns.cacheCarriedOver ∧ t.dns.cacheDropped = host.dns.cacheDropped
  idle : Idle t

/-- When routing and outbound change together, both are the old ones or both the
candidates. -/
def ShownTogether (task : ReloadTask) (host t : RuntimeHost) : Prop :=
  RoutingComponent.outbound ∈ task.expectedRoutingComponents →
    t.routing.activeGeneration = host.routing.activeGeneration ∧
      t.registry.activeGenerationId = host.registry.activeGenerationId ∧
      t.registry.liveEntry t.registry.activeGenerationId =
        host.registry.liveEntry host.registry.activeGenerationId ∨
    CandidatePair task host t.routing.activeGeneration ∧ CandidateOutbound task t.registry

/-! ## The program -/

section Program

variable {task : ReloadTask} {host s t : RuntimeHost}

/-- How a program ends: with everything replaced, or with nothing changed. -/
structure Ended (task : ReloadTask) (host : RuntimeHost) (result : Except String Unit)
    (s : RuntimeHost) : Prop where
  idle : Idle s
  shown : match result with
    | .ok () => s.config = task.candidate ∧ s.generation = task.nextGeneration ∧
      After task host (s.view host.registry.activeGenerationId)
    | .error _ => s.config = host.config ∧ s.generation = host.generation ∧
      Before host (s.view host.registry.activeGenerationId)

/-- The reload can no longer be rolled back, or is over. -/
def decided : Option Call → Bool
  | some .shadow => false
  | some (.operation op) => op.isCleanup
  | some .commitRuntimeConfig | none => true

/-- What holds whenever the program waits. -/
def Awaits (task : ReloadTask) (host : RuntimeHost) (call : Call) (s : RuntimeHost) : Prop :=
  match call with
  | .shadow => Together task host (s.view host.registry.activeGenerationId) ∧
    OldKept host (s.view host.registry.activeGenerationId)
  | .operation op => Watched task host op s
  | .commitRuntimeConfig => Together task host (s.view host.registry.activeGenerationId)

theorem Awaits.together {call : Call} (h : Awaits task host call s) :
    Together task host (s.view host.registry.activeGenerationId) := by
  cases call with
  | shadow => exact h.1
  | operation op => exact h.1
  | commitRuntimeConfig => exact h

theorem Ended.together
    (htask : task.expectedRoutingComponents = expectedRoutingComponents task.changedComponents)
    {result : Except String Unit} (h : Ended task host result s) :
    Together task host (s.view host.registry.activeGenerationId) := by
  have hshown := h.shown
  cases result with
  | ok _ => exact After.together htask hshown.2.2
  | error _ => exact Before.together hshown.2.2

/-- The others change no result. -/
theorem Ended.others {result : Except String Unit} (h : Ended task host result s)
    (hr : Others host.registry.activeGenerationId true s t) : Ended task host result t := by
  have hview := hr.view_eq
  have hplane : SamePlane (s.view host.registry.activeGenerationId)
      (t.view host.registry.activeGenerationId) := by
    rw [hview]
    exact ⟨rfl, rfl, rfl, rfl, rfl, rfl⟩
  have hidle : Idle t := by
    intro id
    have htrans : t.routing.transactions = s.routing.transactions :=
      congrArg ReloadView.transactions hview
    rw [htrans]
    exact h.idle id
  have hconfig : t.config = s.config := congrArg ReloadView.config hview
  have hgeneration : t.generation = s.generation := congrArg ReloadView.generation hview
  refine ⟨hidle, ?_⟩
  have hshown := h.shown
  cases result with
  | ok _ =>
    exact ⟨hconfig.trans hshown.1, hgeneration.trans hshown.2.1, After.congr hshown.2.2 hplane⟩
  | error _ =>
    exact ⟨hconfig.trans hshown.1, hgeneration.trans hshown.2.1, Before.congr hshown.2.2 hplane⟩

/-- Nothing was done yet, or everything was undone. -/
theorem Cleaning.ended_error {error : String}
    (h : Cleaning task host false [] (s.view host.registry.activeGenerationId)) :
    Ended task host (.error error) s :=
  ⟨h.closed, h.frame.config, h.frame.generation, h.state⟩

theorem execute_wp
    (htask : task.expectedRoutingComponents = expectedRoutingComponents task.changedComponents)
    (h : Preparing task host [] (s.view host.registry.activeGenerationId)) :
    Resumption.wp (fun call => Others host.registry.activeGenerationId (decided (some call)))
      (Calls task) (Awaits task host) (execute task) (Ended task host) s := by
  have hexecute := (executorProof host htask).execute_wp h
  refine Resumption.wp_bind (Resumption.wp_mono ?_
    (Resumption.wp_translate (fun _ _ _ hr => hr) (fun _ _ _ _ hs => hs) (fun _ _ hi => hi) hexecute))
  rintro ⟨error | fields, fields'⟩ s hclean
  · obtain ⟨_, hclean⟩ := hclean
    exact Cleaning.ended_error hclean
  have hclean : Cleaning task host (fields.model.state = .committed) []
      (s.view host.registry.activeGenerationId) := hclean
  unfold afterExecute
  dsimp only
  by_cases hc : fields.model.state = .committed
  · rw [decide_eq_true hc] at hclean
    rw [if_pos hc]
    intro s' hr
    have hclean' := hclean.of_oldEntry (s'.registry.liveEntry host.registry.activeGenerationId)
    rw [← hr.view_eq] at hclean'
    refine ⟨hclean'.together htask, ?_⟩
    rintro reply t ⟨conditions, ht⟩
    obtain rfl := congrArg Prod.snd ht
    have hplane : SamePlane (s'.view host.registry.activeGenerationId)
        ((perform task conditions s' .commitRuntimeConfig).2.view
          host.registry.activeGenerationId) := ⟨rfl, rfl, rfl, rfl, rfl, rfl⟩
    exact ⟨hclean'.closed, rfl, rfl, After.congr hclean'.state hplane⟩
  · rw [decide_eq_false hc] at hclean
    rw [if_neg hc]
    exact Cleaning.ended_error hclean

theorem Preparing.start (hidle : Idle host) :
    Preparing task host [] (host.view host.registry.activeGenerationId) where
  entries := ⟨fun _ he => (nomatch he), createRuntimeComponents task.changedComponents, rfl⟩
  frame := ⟨rfl, rfl, fun id _ => hidle id⟩
  pair := rfl
  outbound := ⟨rfl, rfl⟩
  oldKept := rfl
  dns := ⟨rfl, rfl, rfl⟩
  uncommitted := ⟨fun _ hv => (nomatch hv), fun _ hv => (nomatch hv)⟩
  openFor := fun t ht => by
    rw [show (host.view host.registry.activeGenerationId).transactions.get task.transactionId = none
      from hidle _] at ht
    cases ht
  opened := fun hm => by rcases hm with hm | hm <;> cases hm
  staged := fun t ht => by
    rw [show (host.view host.registry.activeGenerationId).transactions.get task.transactionId = none
      from hidle _] at ht
    cases ht

/-- **The program of a reload**, beside requests that keep a reference to its old
generation until it is decided. -/
theorem program_wp
    (htask : task.expectedRoutingComponents = expectedRoutingComponents task.changedComponents)
    (hidle : Idle host) :
    Resumption.wp (fun call => Others host.registry.activeGenerationId (decided (some call)))
      (Calls task) (Awaits task host) (program task) (Ended task host) host := by
  have hstart : Preparing task host [] (host.view host.registry.activeGenerationId) :=
    Preparing.start hidle
  unfold program
  split
  · intro s hr
    have hs := hstart
    rw [← Others.view_eq_undecided hr] at hs
    refine ⟨⟨hs.together, hs.oldKept⟩, ?_⟩
    rintro (error | _) t ⟨conditions, ht⟩
    · obtain rfl : s = t := congrArg Prod.snd ht
      exact Cleaning.ended_error hs.before
    · obtain rfl : s = t := congrArg Prod.snd ht
      exact execute_wp htask hs
  · exact execute_wp htask hstart

/-- The checks before the first `await` reject, or there is a task. -/
theorem start_cases (host : RuntimeHost) (candidate : SepigsConfig) (now : Nat) :
    (∃ error host', start host candidate now = (.error error, host') ∧
      ∀ oldGenerationId decided, Others oldGenerationId decided host host') ∨
    start host candidate now = (.ok (newTask host candidate now), host) ∧
      host.config.dns.fakeIp = candidate.dns.fakeIp := by
  unfold start
  split
  · exact .inl ⟨_, _, rfl, fun _ decided => Others.refl decided _⟩
  · split
    · exact .inl ⟨_, _, rfl, fun _ _ => ⟨rfl, fun _ hl => hl⟩⟩
    · next hfakeIp =>
      cases assertSupported host.config candidate with
      | error error => exact .inl ⟨_, _, rfl, fun _ decided => Others.refl decided _⟩
      | ok _ => exact .inr ⟨rfl, Decidable.not_not.mp hfakeIp⟩

/-- **A reload**, from the call on. -/
theorem launch_wp (host : RuntimeHost) (candidate : SepigsConfig) (now : Nat) (hidle : Idle host) :
    Resumption.wp (fun call => Others host.registry.activeGenerationId (decided (some call)))
      (Calls (newTask host candidate now)) (Awaits (newTask host candidate now) host)
      (launch host candidate now).1 (Ended (newTask host candidate now) host)
      (launch host candidate now).2 := by
  unfold launch
  rcases start_cases host candidate now with ⟨error, host', hstart, hr⟩ | ⟨hstart, -⟩
  · rw [hstart]
    have hs : Preparing (newTask host candidate now) host []
        (host.view host.registry.activeGenerationId) := Preparing.start hidle
    rw [← (hr _ false).view_eq_undecided] at hs
    exact Cleaning.ended_error hs.before
  · rw [hstart]
    exact program_wp rfl hidle

end Program

/-! ## Atomicity -/

section Atomicity

variable {task : ReloadTask} {host t : RuntimeHost}

theorem candidateOutbound_of_on {value : OutboundRuntimePrepared}
    (hof : OutboundOf task host value)
    (hon : OutboundOn value (t.view host.registry.activeGenerationId)) :
    CandidateOutbound task t.registry := by
  obtain ⟨s, rfl, -⟩ := hof.eq_prepared
  have hid : t.registry.activeGenerationId = s!"{task.candidateGenerationId}-outbound" :=
    hon.activeOutbound
  have hentry : t.registry.liveEntry t.registry.activeGenerationId =
      some ⟨(OutboundRuntimeAdapter.preparedValue task s).candidateGeneration,
        (OutboundRuntimeAdapter.preparedValue task s).candidateOutbounds⟩ := hon.activeEntry
  refine ⟨hid, s.nextRef, ?_⟩
  rw [hentry, hid]
  rfl

theorem shownTogether_of_together
    (h : Together task host (t.view host.registry.activeGenerationId)) :
    ShownTogether task host t := by
  intro hexp
  rcases h hexp with ⟨hpair, hoff⟩ | ⟨hpair, value, hof, hon⟩
  · exact .inl ⟨hpair, hoff.activeOutbound, hoff.activeEntry⟩
  · exact .inr ⟨hpair, candidateOutbound_of_on hof hon⟩

theorem Ended.unchanged {error : String} (h : Ended task host (.error error) t) :
    Unchanged host t := by
  obtain ⟨hconfig, hgeneration, hbefore⟩ := h.shown
  exact ⟨hconfig, hgeneration, hbefore.pair, hbefore.outbound.activeOutbound,
    hbefore.outbound.activeEntry, hbefore.dns.activeDns, hbefore.dns.cacheCarriedOver,
    hbefore.dns.cacheDropped, h.idle⟩

theorem Ended.replaced (h : Ended task host (.ok ()) t) : Replaced task host t := by
  obtain ⟨hconfig, hgeneration, hafter⟩ := h.shown
  refine ⟨hconfig, hgeneration, hafter.pair, fun hc => ?_, fun hc => ?_, fun hc => ?_, fun hc => ?_,
    h.idle⟩
  · obtain ⟨value, hof, hon⟩ := hafter.outbound_changed hc
    exact candidateOutbound_of_on hof hon
  · have hoff := hafter.outbound_kept hc
    exact ⟨hoff.activeOutbound, hoff.activeEntry⟩
  · obtain ⟨value, hof, hactive⟩ := hafter.dns_changed hc
    have hactive : t.dns.activeGeneration = value.candidateGeneration := hactive
    rw [hactive]
    exact ⟨hof.id, hof.sequence, hof.config⟩
  · have hoff := hafter.dns_kept hc
    exact ⟨hoff.activeDns, hoff.cacheCarriedOver, hoff.cacheDropped⟩

/-- A request that releases no outbound reference. -/
def RequestWithoutRelease (s t : RuntimeHost) : Prop :=
  ∃ op, (∀ referenceId, op ≠ .releaseOutboundRef referenceId) ∧ t = s.request op

theorem RequestWithoutRelease.others {oldGenerationId : String} {decided : Bool} {s t : RuntimeHost}
    (h : RequestWithoutRelease s t) : Others oldGenerationId decided s t := by
  obtain ⟨op, hop, rfl⟩ := h
  refine Others.request s op fun _ => ?_
  cases op with
  | releaseOutboundRef referenceId => exact absurd rfl (hop referenceId)
  | _ => exact trivial

/-- The rule for a reload and its interleavings. -/
theorem launch_steps (host : RuntimeHost) (candidate : SepigsConfig) (now : Nat)
    (hidle : Idle host) {rest : ReloadProgram}
    (hsteps : Resumption.Steps
      (fun call => Others host.registry.activeGenerationId (decided call))
      (Calls (newTask host candidate now))
      (launch host candidate now).1 (launch host candidate now).2 rest t) :
    Resumption.wp (fun call => Others host.registry.activeGenerationId (decided (some call)))
      (Calls (newTask host candidate now)) (Awaits (newTask host candidate now) host)
      rest (Ended (newTask host candidate now) host) t :=
  Resumption.wp_steps (R := fun call => Others host.registry.activeGenerationId (decided call))
    (fun call => Others.refl (decided call)) (fun call => Others.trans (decided call))
    (fun _ _ _ hr h => h.others hr) (launch_wp host candidate now hidle) hsteps

/-- **A reload is atomic.**  `rest` is what is left of the reload in the state `t`. -/
theorem reload_atomic (host : RuntimeHost) (candidate : SepigsConfig) (now : Nat)
    (hidle : Idle host) (rest : ReloadProgram) (t : RuntimeHost)
    (hsteps : Resumption.Steps (fun _ => RequestWithoutRelease)
      (Calls (newTask host candidate now))
      (launch host candidate now).1 (launch host candidate now).2 rest t) :
    ShownTogether (newTask host candidate now) host t ∧
    (∀ error, rest = .done (.error error) → Unchanged host t) ∧
    (rest = .done (.ok ()) → Replaced (newTask host candidate now) host t) := by
  have hwp := launch_steps host candidate now hidle (hsteps.mono fun _ _ _ hr => hr.others)
  refine ⟨?_, ?_, ?_⟩
  · cases rest with
    | done result => exact shownTogether_of_together (Ended.together rfl hwp)
    | call i k =>
      have hwaits := Resumption.wp_invariant (fun _ => Others.refl _) hwp rfl
      exact shownTogether_of_together hwaits.together
  · rintro error rfl
    exact Ended.unchanged hwp
  · rintro rfl
    exact Ended.replaced hwp

theorem reload_atomic_direct : ∃ host, Engine.build (Engine.directConfig "a") = .ok host ∧
    Replaced (newTask host (Engine.directConfig "b") 0) host
      ((launch host (Engine.directConfig "b") 0).1.run
        (answer (newTask host (Engine.directConfig "b") 0) ⟨false, none, false, 0, 0⟩)
        (launch host (Engine.directConfig "b") 0).2).2 := by
  refine ⟨_, rfl, ?_⟩
  refine (reload_atomic _ (Engine.directConfig "b") 0 (fun _ => rfl) _ _
    (Resumption.steps_run _ _ (fun _ _ => ⟨_, rfl⟩) _ _)).2.2 ?_
  rfl

end Atomicity

end RuntimeReloadIntegration

end Sepigs
