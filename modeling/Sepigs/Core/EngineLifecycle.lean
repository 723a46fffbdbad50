import Sepigs.Lib.JsMap
import Sepigs.Lib.Runs

/-!
# Start and stop of an engine (`core/engine.ts`, `core/lifecycle.ts`)

Calls of `start` and `stop`, each awaited before the next.  What the environment
decides (which server can listen, what rejects) is part of the call.

The components are built once, and `LifecycleManager.stopAll` forgets the services it
has stopped: an inbound that is started afterwards is not stopped any more.  Nothing
else is left open (`stops_quiet_iff`).

Outbounds and UDP sessions have no listener and are left out; that one of them does not
stop is one of the ways in which `stop` rejects.
-/

namespace Sepigs

/-- `this.server` of an inbound: a server that could not listen stays there. -/
inductive InboundServer
  | undefined
  | notListening
  | listening
deriving DecidableEq, Repr

/-- What becomes of `start()` of an inbound: its server listens, or it rejects, before or
after it has set `this.server`. -/
inductive InboundStart
  | listens
  | failsBefore
  | failsListening
deriving DecidableEq, Repr

/-- The metrics and the dashboard server; a server that could not listen is dropped. -/
structure MonitorServer where
  enabled : Bool
  listening : Bool
deriving DecidableEq, Repr

namespace MonitorServer

def start (server : MonitorServer) (ok : Bool) : Bool × MonitorServer :=
  if !server.enabled || server.listening then (true, server)
  else if ok then (true, { server with listening := true })
  else (false, server)

def stop (server : MonitorServer) : MonitorServer := { server with listening := false }

end MonitorServer

/-- `services` are the inbounds registered, by their place among the `objects` of the engine. -/
structure LifecycleManager where
  services : List Nat
  started : Bool
deriving DecidableEq, Repr

def LifecycleManager.register (lifecycle : LifecycleManager) (service : Nat) : LifecycleManager :=
  if service ∈ lifecycle.services then lifecycle
  else { lifecycle with services := lifecycle.services ++ [service] }

/-- `tags` are the tags of `config.inbounds`. -/
structure EngineServers where
  tags : List String
  started : Bool
  componentsBuilt : Bool
  lifecycle : LifecycleManager
  objects : List InboundServer
  inbounds : JsMap String Nat
  metrics : MonitorServer
  dashboard : MonitorServer

/-- Where `stop` rejects, if it does. -/
inductive StopOutcome
  | resolves
  | metricsRejects
  | registryRejects
  | shutdownTimeout
  | laterRejects
deriving DecidableEq, Repr

/-- `runtime`: the plugins and workers start.  `build`: `buildComponents` throws after that
many inbounds. -/
structure StartOutcome where
  runtime : Bool
  build : Option Nat
  inbounds : Nat → InboundStart
  metrics : Bool
  dashboard : Bool
  stop : StopOutcome

inductive EngineCall
  | start (outcome : StartOutcome)
  | stop (outcome : StopOutcome)

namespace EngineServers

def create (tags : List String) (metricsEnabled dashboardEnabled : Bool) : EngineServers where
  tags := tags
  started := false
  componentsBuilt := false
  lifecycle := ⟨[], false⟩
  objects := []
  inbounds := ∅
  metrics := ⟨metricsEnabled, false⟩
  dashboard := ⟨dashboardEnabled, false⟩

/-- The inbound of one config. -/
def createInbound (s : EngineServers) (tag : String) : EngineServers :=
  { s with
    objects := s.objects ++ [.undefined]
    inbounds := s.inbounds.set tag s.objects.length
    lifecycle := s.lifecycle.register s.objects.length }

def buildComponents (s : EngineServers) (fails : Option Nat) : Bool × EngineServers :=
  if s.componentsBuilt then (true, s)
  else match fails with
    | some n => (false, (s.tags.take n).foldl createInbound s)
    | none => (true, { s.tags.foldl createInbound s with componentsBuilt := true })

def startInbound (s : EngineServers) (object : Nat) (outcome : InboundStart) :
    Bool × EngineServers :=
  if s.objects[object]? ≠ some .undefined then (true, s)
  else match outcome with
    | .listens => (true, { s with objects := s.objects.set object .listening })
    | .failsBefore => (false, s)
    | .failsListening => (false, { s with objects := s.objects.set object .notListening })

/-- The loop over the inbounds; it ends with the first that rejects. -/
def startInbounds (outcome : Nat → InboundStart) :
    EngineServers → List Nat → Bool × EngineServers
  | s, [] => (true, s)
  | s, object :: rest =>
    match s.startInbound object (outcome object) with
    | (true, s') => startInbounds outcome s' rest
    | (false, s') => (false, s')

/-- `LifecycleManager.stopAll`.  Every service is told to stop before any is awaited. -/
def stopAll (s : EngineServers) (timeout : Bool) : Bool × EngineServers :=
  if !s.lifecycle.started then (true, s)
  else
    let stopped := { s with
      objects := s.objects.mapIdx fun object server =>
        if object ∈ s.lifecycle.services then .undefined else server }
    if timeout then (false, stopped) else (true, { stopped with lifecycle := ⟨[], false⟩ })

def stop (s : EngineServers) (outcome : StopOutcome) : Bool × EngineServers :=
  let monitors := { s with dashboard := s.dashboard.stop, metrics := s.metrics.stop }
  if outcome = .metricsRejects ∨ outcome = .registryRejects then (false, monitors)
  else match monitors.stopAll (outcome = .shutdownTimeout) with
    | (false, s') => (false, s')
    | (true, s') =>
      if outcome = .laterRejects then (false, s') else (true, { s' with started := false })

/-- The `try` of `start`. -/
def startUp (s : EngineServers) (outcome : StartOutcome) : Bool × EngineServers :=
  if !outcome.runtime then (false, s)
  else match s.buildComponents outcome.build with
    | (false, built) => (false, built)
    | (true, built) =>
      let marked := { built with lifecycle := { built.lifecycle with started := true } }
      match startInbounds outcome.inbounds marked marked.inbounds.values with
      | (false, s') => (false, s')
      | (true, s') =>
        let metrics := s'.metrics.start outcome.metrics
        if !metrics.1 then (false, { s' with metrics := metrics.2 })
        else
          let dashboard := s'.dashboard.start outcome.dashboard
          (dashboard.1, { s' with metrics := metrics.2, dashboard := dashboard.2 })

def start (s : EngineServers) (outcome : StartOutcome) : Bool × EngineServers :=
  if s.started then (true, s)
  else match s.startUp outcome with
    | (true, s') => (true, { s' with started := true })
    | (false, s') => (false, (s'.stop outcome.stop).2)

def system : Runs.System EngineServers EngineCall where
  step s
    | .start outcome => some (s.start outcome).2
    | .stop outcome => some (s.stop outcome).2

/-- The inbound has a listener. -/
def Listens (s : EngineServers) (object : Nat) : Prop := s.objects[object]? = some .listening

/-- No listener is open. -/
structure Quiet (s : EngineServers) : Prop where
  inbounds : ∀ object, ¬s.Listens object
  metrics : s.metrics.listening = false
  dashboard : s.dashboard.listening = false

/-- The inbounds that start to listen. -/
def opens (outcome : Nat → InboundStart) : List InboundServer → List Nat → List Nat
  | _, [] => []
  | objects, object :: rest =>
    if objects[object]? ≠ some .undefined then opens outcome objects rest
    else match outcome object with
      | .listens => object :: opens outcome (objects.set object .listening) rest
      | .failsBefore | .failsListening => []

/-- A start of components that are built already opens no inbound that is not registered. -/
def OpensRegistered (s : EngineServers) : EngineCall → Prop
  | .start outcome => s.started = false → outcome.runtime = true → s.componentsBuilt = true →
      ∀ object ∈ opens outcome.inbounds s.objects s.inbounds.values,
        object ∈ s.lifecycle.services
  | .stop _ => True

/-! ## What starts to listen -/

section Start

variable {s : EngineServers}

theorem startInbound_frame (s : EngineServers) (object : Nat) (outcome : InboundStart) :
    (s.startInbound object outcome).2 =
      { s with objects := (s.startInbound object outcome).2.objects } := by
  unfold startInbound
  split
  · rfl
  · cases outcome <;> rfl

/-- Only servers change. -/
theorem startInbounds_frame (outcome : Nat → InboundStart) (l : List Nat) (s : EngineServers) :
    (startInbounds outcome s l).2 =
      { s with objects := (startInbounds outcome s l).2.objects } := by
  induction l generalizing s with
  | nil => rfl
  | cons object rest ih =>
    have hframe := startInbound_frame s object (outcome object)
    unfold startInbounds
    cases hstart : s.startInbound object (outcome object) with
    | mk ok s' =>
      rw [hstart] at hframe
      cases ok with
      | true =>
        dsimp only at hframe ⊢
        rw [ih s', hframe]
      | false => exact hframe

theorem listens_startInbounds (outcome : Nat → InboundStart) (l : List Nat) (s : EngineServers)
    (object : Nat) :
    (startInbounds outcome s l).2.Listens object ↔
      s.Listens object ∨ object ∈ opens outcome s.objects l := by
  induction l generalizing s with
  | nil => simp [startInbounds, opens]
  | cons first rest ih =>
    unfold startInbounds startInbound opens
    by_cases hserver : s.objects[first]? ≠ some .undefined
    · rw [if_pos hserver, if_pos hserver]
      exact ih s
    · rw [if_neg hserver, if_neg hserver]
      have hundefined : s.objects[first]? = some .undefined := Decidable.not_not.mp hserver
      have hlt : first < s.objects.length := (List.getElem?_eq_some_iff.mp hundefined).1
      -- only this server changes, and it was not there before
      have hset (server : InboundServer) : (s.objects.set first server)[object]? = some .listening ↔
          s.Listens object ∨ object = first ∧ server = .listening := by
        rw [List.getElem?_set]
        unfold Listens
        by_cases heq : first = object
        · subst heq
          rw [if_pos rfl, if_pos hlt, hundefined]
          simp
        · simp [heq, Ne.symm heq]
      cases houtcome : outcome first with
      | listens =>
        dsimp only
        rw [ih, List.mem_cons]
        show (s.objects.set first .listening)[object]? = some .listening ∨ _ ↔ _
        rw [hset]
        simp [or_assoc]
      | failsBefore => simp
      | failsListening =>
        show (s.objects.set first .notListening)[object]? = some .listening ↔ _
        rw [hset]
        simp

end Start

/-! ## What a stop leaves -/

section Stop

variable {s t : EngineServers}

/-- The servers that lifecycle manager does not stop. -/
theorem listens_stopAll (s : EngineServers) (timeout : Bool) (object : Nat) :
    (s.stopAll timeout).2.Listens object ↔
      s.Listens object ∧ ¬(s.lifecycle.started = true ∧ object ∈ s.lifecycle.services) := by
  unfold stopAll
  cases hstarted : s.lifecycle.started with
  | false => simp
  | true =>
    simp only [Bool.not_true, Bool.false_eq_true, if_false, true_and]
    have hmap : (s.objects.mapIdx fun object server =>
        if object ∈ s.lifecycle.services then .undefined else server)[object]? = some .listening ↔
          s.Listens object ∧ object ∉ s.lifecycle.services := by
      rw [List.getElem?_mapIdx]
      unfold Listens
      cases s.objects[object]? with
      | none => simp
      | some server =>
        by_cases hmem : object ∈ s.lifecycle.services <;> simp [hmem]
    cases timeout <;> exact hmap

theorem services_stopAll (s : EngineServers) (timeout : Bool) :
    ∀ object ∈ (s.stopAll timeout).2.lifecycle.services, object ∈ s.lifecycle.services := by
  intro object hmem
  unfold stopAll at hmem
  split at hmem
  · exact hmem
  · cases timeout with
    | true => exact hmem
    | false => cases hmem

theorem monitors_stopAll (s : EngineServers) (timeout : Bool) :
    (s.stopAll timeout).2.metrics = s.metrics ∧ (s.stopAll timeout).2.dashboard = s.dashboard := by
  unfold stopAll
  split
  · exact ⟨rfl, rfl⟩
  · cases timeout <;> exact ⟨rfl, rfl⟩

/-- An inbound that is not registered listens on. -/
theorem stop_keeps_unregistered (outcome : StopOutcome) {object : Nat} (h : s.Listens object)
    (hservices : object ∉ s.lifecycle.services) :
    (s.stop outcome).2.Listens object ∧ object ∉ (s.stop outcome).2.lifecycle.services := by
  unfold stop
  dsimp only
  split
  · exact ⟨h, hservices⟩
  have hlistens := (listens_stopAll
    { s with dashboard := s.dashboard.stop, metrics := s.metrics.stop }
    (outcome = .shutdownTimeout) object).mpr ⟨h, fun hmem => hservices hmem.2⟩
  have hkept := services_stopAll { s with dashboard := s.dashboard.stop, metrics := s.metrics.stop }
    (outcome = .shutdownTimeout) object
  split
  · next heq =>
    rw [heq] at hlistens hkept
    exact ⟨hlistens, fun hmem => hservices (hkept hmem)⟩
  · next heq =>
    rw [heq] at hlistens hkept
    split <;> exact ⟨hlistens, fun hmem => hservices (hkept hmem)⟩

end Stop

/-! ## Runs -/

section Runs

variable {s t : EngineServers}

/-- What listens is registered with a lifecycle manager that will stop it.  Before the
components are built nothing listens, and all inbounds are registered. -/
structure Registered (s : EngineServers) : Prop where
  listens : ∀ object, s.Listens object →
    s.lifecycle.started = true ∧ object ∈ s.lifecycle.services
  unbuilt : s.componentsBuilt = false → s.lifecycle.started = false ∧
    ∀ object ∈ s.inbounds.values, object ∈ s.lifecycle.services

theorem registered_create (tags : List String) (metricsEnabled dashboardEnabled : Bool) :
    Registered (create tags metricsEnabled dashboardEnabled) where
  listens object h := by cases h
  unbuilt _ := ⟨rfl, fun object h => nomatch h⟩

/-- **A stop that resolves leaves no listener open.** -/
theorem quiet_of_registered (h : Registered s) {outcome : StopOutcome}
    (hstop : s.stop outcome = (true, t)) : t.Quiet := by
  unfold stop at hstop
  dsimp only at hstop
  split at hstop
  · cases hstop
  have hlistens := listens_stopAll
    { s with dashboard := s.dashboard.stop, metrics := s.metrics.stop }
    (outcome = .shutdownTimeout)
  have hmonitors := monitors_stopAll
    { s with dashboard := s.dashboard.stop, metrics := s.metrics.stop }
    (outcome = .shutdownTimeout)
  split at hstop
  · cases hstop
  · next heq =>
    split at hstop
    · cases hstop
    · cases hstop
      rw [heq] at hlistens hmonitors
      refine ⟨fun object hl => ?_, ?_, ?_⟩
      · obtain ⟨hl, hnot⟩ := (hlistens object).mp hl
        exact hnot (h.listens object hl)
      · exact congrArg MonitorServer.listening hmonitors.1
      · exact congrArg MonitorServer.listening hmonitors.2

theorem Registered.stopAll (h : Registered s) (timeout : Bool) :
    Registered (s.stopAll timeout).2 where
  listens object hl := by
    obtain ⟨hl, hnot⟩ := (listens_stopAll s timeout object).mp hl
    exact absurd (h.listens object hl) hnot
  unbuilt hunbuilt := by
    unfold EngineServers.stopAll at hunbuilt ⊢
    have hbuilt : s.componentsBuilt = false := by
      split at hunbuilt
      · exact hunbuilt
      · cases timeout <;> exact hunbuilt
    rw [(h.unbuilt hbuilt).1]
    exact ⟨(h.unbuilt hbuilt).1, (h.unbuilt hbuilt).2⟩

/-- Whether the engine or its monitors run does not matter. -/
theorem Registered.monitors (h : Registered s) (metrics dashboard : MonitorServer)
    (started : Bool) :
    Registered { s with metrics := metrics, dashboard := dashboard, started := started } :=
  ⟨h.listens, h.unbuilt⟩

theorem Registered.stop (h : Registered s) (outcome : StopOutcome) :
    Registered (s.stop outcome).2 := by
  have hstopAll := (h.monitors s.metrics.stop s.dashboard.stop s.started).stopAll
    (outcome = .shutdownTimeout)
  unfold EngineServers.stop
  dsimp only
  split
  · exact h.monitors _ _ s.started
  split
  · next heq =>
    rw [heq] at hstopAll
    exact hstopAll
  · next heq =>
    rw [heq] at hstopAll
    split
    · exact hstopAll
    · exact hstopAll.monitors _ _ false

/-- New inbounds are registered, and do not listen. -/
theorem Registered.createInbounds (h : Registered s) (hunbuilt : s.componentsBuilt = false)
    (tags : List String) : Registered (tags.foldl createInbound s) ∧
      (tags.foldl createInbound s).componentsBuilt = false := by
  induction tags generalizing s with
  | nil => exact ⟨h, hunbuilt⟩
  | cons tag tags ih =>
    refine ih (s := s.createInbound tag) ⟨fun object hl => ?_, fun _ => ⟨?_, fun object hmem => ?_⟩⟩
      hunbuilt
    · change (s.objects ++ [.undefined])[object]? = some .listening at hl
      rw [List.getElem?_append] at hl
      split at hl
      · have hlistens := (h.listens object hl).1
        rw [(h.unbuilt hunbuilt).1] at hlistens
        cases hlistens
      · rw [List.getElem?_singleton] at hl
        split at hl
        · cases hl
        · cases hl
    · show (s.lifecycle.register _).started = false
      unfold LifecycleManager.register
      split <;> exact (h.unbuilt hunbuilt).1
    · have hold : ∀ service ∈ s.lifecycle.services,
          service ∈ (s.lifecycle.register s.objects.length).services := by
        intro service hservice
        unfold LifecycleManager.register
        split
        · exact hservice
        · exact List.mem_append_left _ hservice
      have hnew : s.objects.length ∈ (s.lifecycle.register s.objects.length).services := by
        unfold LifecycleManager.register
        split
        · assumption
        · exact List.mem_append_right _ (List.mem_singleton.mpr rfl)
      obtain ⟨⟨tag', object'⟩, hentry, rfl⟩ := List.mem_map.mp hmem
      rcases (s.inbounds.mem_entries_set _ _ _ _).mp hentry with ⟨-, rfl⟩ | ⟨-, hentry⟩
      · exact hnew
      · exact hold _ ((h.unbuilt hunbuilt).2 _ (List.mem_map.mpr ⟨_, hentry, rfl⟩))

theorem mem_of_mem_opens {outcome : Nat → InboundStart} {objects : List InboundServer}
    {l : List Nat} {object : Nat} (h : object ∈ opens outcome objects l) : object ∈ l := by
  induction l generalizing objects with
  | nil => exact h
  | cons first rest ih =>
    unfold opens at h
    split at h
    · exact List.mem_cons_of_mem _ (ih h)
    · cases houtcome : outcome first with
      | listens =>
        rw [houtcome] at h
        rcases List.mem_cons.mp h with rfl | h
        · exact List.mem_cons_self
        · exact List.mem_cons_of_mem _ (ih h)
      | failsBefore =>
        rw [houtcome] at h
        cases h
      | failsListening =>
        rw [houtcome] at h
        cases h

/-- The loop over the inbounds of components that are built. -/
theorem Registered.startInbounds (h : Registered s) (hbuilt : s.componentsBuilt = true)
    {outcome : Nat → InboundStart} (hopens : ∀ object ∈ opens outcome s.objects s.inbounds.values,
      object ∈ s.lifecycle.services) :
    Registered (EngineServers.startInbounds outcome
      { s with lifecycle := { s.lifecycle with started := true } } s.inbounds.values).2 := by
  have hlistens := listens_startInbounds outcome s.inbounds.values
    { s with lifecycle := { s.lifecycle with started := true } }
  have hframe := startInbounds_frame outcome s.inbounds.values
    { s with lifecycle := { s.lifecycle with started := true } }
  refine ⟨fun object hl => ?_, fun hunbuilt => ?_⟩
  · rw [hframe]
    refine ⟨rfl, ?_⟩
    rcases (hlistens object).mp hl with hl | hl
    · exact (h.listens object hl).2
    · exact hopens object hl
  · rw [hframe] at hunbuilt
    exact absurd hbuilt (by rw [show s.componentsBuilt = false from hunbuilt]; decide)

/-- The rest of a start does not touch the inbounds. -/
theorem startUp_cases (s : EngineServers) (outcome : StartOutcome) :
    outcome.runtime = false ∧ (s.startUp outcome).2 = s ∨
      (s.buildComponents outcome.build).1 = false ∧
        (s.startUp outcome).2 = (s.buildComponents outcome.build).2 ∨
      (s.buildComponents outcome.build).1 = true ∧ outcome.runtime = true ∧
        ∃ built metrics dashboard, built = (s.buildComponents outcome.build).2 ∧
          (s.startUp outcome).2 = { (EngineServers.startInbounds outcome.inbounds
            { built with lifecycle := { built.lifecycle with started := true } }
            built.inbounds.values).2 with metrics := metrics, dashboard := dashboard } := by
  unfold startUp
  cases hruntime : outcome.runtime with
  | false => exact Or.inl ⟨rfl, rfl⟩
  | true =>
    right
    dsimp only [Bool.not_true, Bool.false_eq_true, if_false]
    cases hbuild : s.buildComponents outcome.build with
    | mk ok built =>
      cases ok with
      | false => exact Or.inl ⟨rfl, rfl⟩
      | true =>
        refine Or.inr ⟨rfl, rfl, built, ?_⟩
        cases hloop : EngineServers.startInbounds outcome.inbounds
            { built with lifecycle := { built.lifecycle with started := true } }
            built.inbounds.values with
        | mk ok' s' =>
          cases ok' with
          | false => exact ⟨s'.metrics, s'.dashboard, rfl, by simp [hloop]⟩
          | true =>
            dsimp only
            rw [hloop]
            dsimp only
            cases (s'.metrics.start outcome.metrics).1 with
            | false => exact ⟨_, s'.dashboard, rfl, rfl⟩
            | true => exact ⟨_, _, rfl, rfl⟩

theorem buildComponents_cases (s : EngineServers) (fails : Option Nat) :
    s.componentsBuilt = true ∧ s.buildComponents fails = (true, s) ∨
      s.componentsBuilt = false ∧
        ((∃ n, s.buildComponents fails = (false, (s.tags.take n).foldl createInbound s)) ∨
          s.buildComponents fails =
            (true, { s.tags.foldl createInbound s with componentsBuilt := true })) := by
  unfold buildComponents
  cases s.componentsBuilt with
  | true => exact Or.inl ⟨rfl, rfl⟩
  | false =>
    refine Or.inr ⟨rfl, ?_⟩
    cases fails with
    | some n => exact Or.inl ⟨n, rfl⟩
    | none => exact Or.inr rfl

theorem Registered.startUp (h : Registered s) (outcome : StartOutcome)
    (hstarted : s.started = false) (hopens : s.OpensRegistered (.start outcome)) :
    Registered (s.startUp outcome).2 := by
  rcases startUp_cases s outcome with
    ⟨-, hsame⟩ | ⟨hbuild, hsame⟩ | ⟨hbuild, hruntime, built, metrics, dashboard, rfl, hloop⟩
  · rw [hsame]
    exact h
  · rw [hsame]
    rcases buildComponents_cases s outcome.build with
      ⟨-, heq⟩ | ⟨hunbuilt, ⟨n, heq⟩ | heq⟩
    · rw [heq]
      exact h
    · rw [heq]
      exact (h.createInbounds hunbuilt _).1
    · rw [heq] at hbuild
      cases hbuild
  · rw [hloop]
    refine Registered.monitors ?_ metrics dashboard _
    rcases buildComponents_cases s outcome.build with
      ⟨hbuilt, heq⟩ | ⟨hunbuilt, ⟨n, heq⟩ | heq⟩
    · rw [heq]
      exact h.startInbounds hbuilt (hopens hstarted hruntime hbuilt)
    · rw [heq] at hbuild
      cases hbuild
    · rw [heq]
      obtain ⟨hcreated, hunbuilt'⟩ := h.createInbounds hunbuilt s.tags
      have hbuilt : Registered { s.tags.foldl createInbound s with componentsBuilt := true } :=
        ⟨hcreated.listens, fun hc => by cases hc⟩
      exact hbuilt.startInbounds rfl fun object hmem =>
        (hcreated.unbuilt hunbuilt').2 object (mem_of_mem_opens hmem)

/-- **Step lemma.** -/
theorem Registered.step (h : Registered s) (call : EngineCall) (hopens : s.OpensRegistered call)
    (hstep : system.step s call = some t) : Registered t := by
  cases call with
  | stop outcome =>
    cases hstep
    exact h.stop outcome
  | start outcome =>
    cases hstep
    unfold EngineServers.start
    cases hstarted : s.started with
    | true => exact h
    | false =>
      have hup := h.startUp outcome hstarted hopens
      simp only [Bool.false_eq_true, if_false]
      cases hstartUp : s.startUp outcome with
      | mk ok s' =>
        rw [hstartUp] at hup
        cases ok with
        | true => exact hup.monitors s'.metrics s'.dashboard true
        | false => exact hup.stop outcome.stop

theorem stop_resolves (s : EngineServers) : (s.stop .resolves).1 = true := by
  unfold EngineServers.stop EngineServers.stopAll
  cases hstarted : s.lifecycle.started <;> simp [hstarted]

/-- An inbound that listens and is not registered outlives a stop that resolves. -/
theorem not_quiet_of_unregistered {object : Nat} (h : s.Listens object)
    (hservices : object ∉ s.lifecycle.services) :
    ∃ t, s.stop .resolves = (true, t) ∧ ¬t.Quiet := by
  have hkeep := stop_keeps_unregistered .resolves h hservices
  refine ⟨(s.stop .resolves).2, ?_, fun hquiet => hquiet.inbounds object hkeep.1⟩
  exact Prod.ext (stop_resolves s) rfl

/-- A start that opens an inbound which is not registered leaves it listening so. -/
theorem unregistered_after_start {outcome : StartOutcome}
    (h : ¬s.OpensRegistered (.start outcome)) : ∃ object,
    (s.start outcome).2.Listens object ∧ object ∉ (s.start outcome).2.lifecycle.services := by
  simp only [OpensRegistered, Classical.not_imp, not_forall] at h
  obtain ⟨hstarted, hruntime, hbuilt, object, hopens, hservices⟩ := h
  refine ⟨object, ?_⟩
  have hup : (s.startUp outcome).2.Listens object ∧
      object ∉ (s.startUp outcome).2.lifecycle.services := by
    have hsame : s.buildComponents outcome.build = (true, s) := if_pos hbuilt
    rcases startUp_cases s outcome with
      ⟨hfalse, -⟩ | ⟨hfalse, -⟩ | ⟨-, -, built, metrics, dashboard, rfl, hloop⟩
    · rw [hruntime] at hfalse
      cases hfalse
    · rw [hsame] at hfalse
      cases hfalse
    · rw [hloop, hsame]
      refine ⟨(listens_startInbounds _ _ _ object).mpr (Or.inr hopens), ?_⟩
      rw [startInbounds_frame]
      exact hservices
  unfold EngineServers.start
  rw [hstarted]
  simp only [Bool.false_eq_true, if_false]
  cases hstartUp : s.startUp outcome with
  | mk ok s' =>
    rw [hstartUp] at hup
    cases ok with
    | true => exact hup
    | false => exact stop_keeps_unregistered outcome.stop hup.1 hup.2

/-- **Starts and stops are balanced.**  Wherever a run stands, a stop that resolves leaves no
listener open, exactly if no start of the run opens an inbound that is not registered. -/
theorem stops_quiet_iff (tags : List String) (metricsEnabled dashboardEnabled : Bool)
    (calls : List EngineCall) :
    (∀ pre post s outcome t, calls = pre ++ post →
      system.run (create tags metricsEnabled dashboardEnabled) pre = some s →
        s.stop outcome = (true, t) → t.Quiet) ↔
      system.Along OpensRegistered (create tags metricsEnabled dashboardEnabled) calls := by
  constructor
  · intro h
    refine (system.along_iff _ _ _).mpr fun pre call post s heq hrun => ?_
    cases call with
    | stop outcome => trivial
    | start outcome =>
      by_contra hviolates
      obtain ⟨object, hlistens, hservices⟩ := unregistered_after_start hviolates
      obtain ⟨t, hstop, hnot⟩ := not_quiet_of_unregistered hlistens hservices
      refine hnot (h (pre ++ [.start outcome]) post _ .resolves t ?_ ?_ hstop)
      · rw [heq, List.append_assoc]
        rfl
      · rw [system.run_append, hrun]
        rfl
  · intro halong pre post s outcome t heq hrun hstop
    rw [heq, system.along_append] at halong
    have hreg := system.run_invariant OpensRegistered Registered
      (fun s call t h hopens hstep => h.step call hopens hstep) pre _ s
      (registered_create tags metricsEnabled dashboardEnabled) halong.1 hrun
    exact quiet_of_registered hreg hstop

/-- Every server can listen, and nothing rejects. -/
def undisturbed : StartOutcome := ⟨true, none, fun _ => .listens, true, true, .resolves⟩

/-- One inbound: the engine is started, stopped and started again.  A stop that resolves then
leaves the inbound open. -/
theorem restart_not_quiet : ∃ s t,
    system.run (create ["http"] false false) [.start undisturbed, .stop .resolves, .start undisturbed]
      = some s ∧ s.stop .resolves = (true, t) ∧ t.Listens 0 ∧ ¬t.Quiet :=
  ⟨_, _, rfl, rfl, rfl, fun h => h.inbounds 0 rfl⟩

end Runs

end EngineServers

end Sepigs
