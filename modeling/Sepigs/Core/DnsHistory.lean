import Sepigs.Core.Engine
import Sepigs.Reload.DnsNumbering

/-!
# The DNS generations of an engine in use

Reloads of one engine beside the users of its DNS generations: handles are acquired
and released, each any number of times, and lookups start under a held handle and
settle.  A lookup for a key that is in flight joins it.

`dns_generations_kept`: as long as reloads do not overlap, no generation that is in
use is lost.
-/

namespace Sepigs

open RuntimeReloadIntegration RuntimeTransaction DNSGenerationStore Engine

structure DnsHistory where
  engine : EngineState
  handles : List DNSGenerationHandle
  flights : List DnsFlight

inductive DnsHistoryStep
  | engine (step : EngineStep)
  | acquire
  | release (handle : Nat)
  | lookup (handle : Nat) (key : String)
  | settle (flight : Nat)
  | shutdown

namespace DnsHistory

/-- The requests that `acquire`, `release`, `lookup` and `settle` stand for. -/
def usesDns : EngineStep → Bool
  | .request .acquireDns => true
  | .request (.releaseDns _) => true
  | .request (.setDnsInFlight _ _) => true
  | .request _ | .reloadConfig _ _ | .resume _ _ => false

def host (s : DnsHistory) : RuntimeHost := s.engine.host

def setHost (s : DnsHistory) (host : RuntimeHost) : DnsHistory :=
  { s with engine := { s.engine with host := host } }

/-- The flights are replaced, those of one generation only. -/
def setFlights (s : DnsHistory) (generation : DNSGeneration) (flights : List DnsFlight) :
    DnsHistory :=
  { s.setHost (s.host.request
      (.setDnsInFlight generation (inFlightOf flights generation.ref))) with flights := flights }

def acquire (s : DnsHistory) : DnsHistory :=
  { s.setHost (s.host.request .acquireDns) with
    handles := s.handles ++ [⟨s.host.dns.acquire.1, false⟩] }

/-- `release()` of a handle. -/
def release (s : DnsHistory) (i : Nat) (handle : DNSGenerationHandle) : DnsHistory :=
  if handle.released then s
  else { s.setHost (s.host.request (.releaseDns handle.generation)) with
    handles := s.handles.set i { handle with released := true } }

/-- `runSingleFlight` of the handle's generation. -/
def lookup (s : DnsHistory) (handle : DNSGenerationHandle) (key : String) : DnsHistory :=
  if ∃ flight ∈ s.flights, flight.generation.ref = handle.generation.ref ∧ flight.key = key then s
  else s.setFlights handle.generation (s.flights ++ [⟨handle.generation, key⟩])

def step (s : DnsHistory) : DnsHistoryStep → Option DnsHistory
  | .engine step =>
    if usesDns step then none
    else (Engine.step s.engine step).map fun engine => { s with engine := engine }
  | .acquire => some s.acquire
  | .release i => (s.handles[i]?).map (s.release i)
  | .lookup i key => do
    let handle ← s.handles[i]?
    if handle.released then none else some (s.lookup handle key)
  | .settle i => do
    let flight ← s.flights[i]?
    some (s.setFlights flight.generation (s.flights.eraseIdx i))
  | .shutdown => some (s.setHost { s.host with dns := s.host.dns.shutdown.2 })

def system : Runs.System DnsHistory DnsHistoryStep where
  step := step

/-- Reloads do not overlap. -/
def Serial (s : DnsHistory) : DnsHistoryStep → Prop
  | .engine step => Engine.Serial s.engine step
  | .acquire | .release _ | .lookup _ _ | .settle _ | .shutdown => True

/-- No generation in use is lost. -/
structure KeepsUsed (s : DnsHistory) : Prop where
  queryRefs : ∀ ref, (s.host.dns.state ref).queryRefs = outstanding s.handles ref
  inFlight : ∀ ref, (s.host.dns.state ref).inFlight = inFlightOf s.flights ref
  active_not_draining : (s.host.dns.state s.host.dns.activeGeneration.ref).draining = false
  active_present :
    s.host.dns.generations.get s.host.dns.activeGeneration.id = some s.host.dns.activeGeneration
  held_present : ∀ handle ∈ s.handles, handle.released = false →
    s.host.dns.generations.get handle.generation.id = some handle.generation
  flying_present : ∀ flight ∈ s.flights,
    s.host.dns.generations.get flight.generation.id = some flight.generation
  flying_aborted : ∀ flight ∈ s.flights, flight.generation ∈ s.host.dns.shutdown.1
  unused_released : ∀ generation ∈ s.host.dns.generations.values,
    (s.host.dns.state generation.ref).draining = true → outstanding s.handles generation.ref = 0 →
    inFlightOf s.flights generation.ref = 0 →
    generation ∉ s.host.dns.releaseDrained.generations.values

/-! ## The invariant -/

/-- The numbers above that of the last committed reload are free, or the reload in
flight keeps to its own. -/
def Numbered (s : EngineState) : Prop :=
  s.inFlight = [] ∧ NumbersFree s.host.generation s.host ∨
    ∃ reload, s.inFlight = [reload] ∧ NumbersItsDns reload.task reload.rest s.host

structure Inv (s : DnsHistory) : Prop where
  usage : s.host.dns.Usage s.handles s.flights s.host.nextRef
  numbered : Numbered s.engine

theorem Inv.keepsUsed {s : DnsHistory} (h : Inv s) : KeepsUsed s where
  queryRefs := h.usage.queryRefs
  inFlight := h.usage.inFlight
  active_not_draining := h.usage.notDraining
  active_present := h.usage.active
  held_present := h.usage.held
  flying_present := h.usage.flying
  flying_aborted := by
    intro flight hmem
    exact (KeyMap.mem_values _ _).mpr ⟨_, h.usage.flying flight hmem⟩
  unused_released := by
    intro generation hmem hdraining hhandles hflights hkept
    obtain ⟨k, hget⟩ := (KeyMap.mem_values _ _).mp hkept
    obtain ⟨hget, hnot⟩ := (get_releaseDrained h.usage.keyed k generation).mp hget
    have hne : generation ≠ s.host.dns.activeGeneration := by
      rintro rfl
      rw [h.usage.notDraining] at hdraining
      cases hdraining
    have hdrained := (isDrained_eq_true s.host.dns generation).mpr
      ⟨hne, hdraining, by rw [h.usage.queryRefs, hhandles], by rw [h.usage.inFlight, hflights]⟩
    rw [hdrained] at hnot
    cases hnot

/-- A move of the others. -/
theorem Numbered.others {s : EngineState} {t : RuntimeHost} (h : Numbered s)
    (hfewer : DnsFewer s.host t) : Numbered ⟨t, s.inFlight⟩ := by
  rcases h with ⟨hquiet, hfree⟩ | ⟨reload, hreload, hrule⟩
  · refine Or.inl ⟨hquiet, ?_⟩
    show NumbersFree t.generation t
    rw [hfewer.generation]
    exact hfree.fewer hfewer
  · refine Or.inr ⟨reload, hreload, ?_⟩
    refine Resumption.wp_other (R := fun _ => DnsFewer) (fun _ s t u => DnsFewer.trans)
      (fun _ s t hst hfree => ?_) hrule hfewer
    rw [hst.generation]
    exact hfree.fewer hst

/-- A reload that has settled has left only free numbers. -/
theorem NumbersItsDns.numbered {reload : InFlightReload} {host : RuntimeHost}
    (h : NumbersItsDns reload.task reload.rest host) :
    Numbered ⟨host, Engine.unsettled reload⟩ := by
  obtain ⟨task, startedOn, rest, pending⟩ := reload
  cases rest with
  | done result => exact Or.inl ⟨rfl, h⟩
  | call call k => exact Or.inr ⟨_, rfl, h⟩

/-! ## Steps -/

/-- The other requests do not touch DNS. -/
theorem request_dns (host : RuntimeHost) {op : RequestOperation} (h : usesDns (.request op) = false) :
    DnsSame host (host.request op) := by
  cases op with
  | acquireRouting => exact ⟨rfl, rfl, Nat.le_refl _, rfl, rfl, rfl⟩
  | releaseRouting generation => exact ⟨rfl, rfl, Nat.le_refl _, rfl, rfl, rfl⟩
  | acquireOutboundRef tag generationId => exact ⟨rfl, rfl, Nat.le_refl _, rfl, rfl, rfl⟩
  | releaseOutboundRef referenceId => exact ⟨rfl, rfl, Nat.le_refl _, rfl, rfl, rfl⟩
  | acquireDns => cases h
  | releaseDns generation => cases h
  | setDnsInFlight generation inFlight => cases h

/-- The checks before a reload count a rejected fake-IP change at most. -/
theorem start_dns (host : RuntimeHost) (candidate : SepigsConfig) (now : Nat) :
    (∃ error host', start host candidate now = (.error error, host') ∧ DnsSame host host') ∨
      start host candidate now = (.ok (newTask host candidate now), host) := by
  unfold start
  split
  · exact Or.inl ⟨_, _, rfl, DnsSame.refl host⟩
  · split
    · exact Or.inl ⟨_, _, rfl, rfl, rfl, Nat.le_refl _, rfl, rfl, rfl⟩
    · split
      · exact Or.inl ⟨_, _, rfl, DnsSame.refl host⟩
      · exact Or.inr rfl

theorem Inv.same {s : DnsHistory} (h : Inv s) {t : RuntimeHost} (hsame : DnsSame s.host t) :
    Inv (s.setHost t) where
  usage := h.usage.congr hsame.activeGeneration hsame.generations hsame.state hsame.nextRef
  numbered := h.numbered.others hsame.fewer

theorem Inv.reloadConfig {s : DnsHistory} (h : Inv s) {candidate : SepigsConfig} {now : Nat}
    (hserial : Engine.Serial s.engine (.reloadConfig candidate now)) {engine : EngineState}
    (hstep : Engine.step s.engine (.reloadConfig candidate now) = some engine) :
    Inv { s with engine := engine } := by
  cases hstep
  unfold launch
  rcases start_dns s.engine.host candidate now with ⟨error, host', hstart, hsame⟩ | hstart
  · -- The call has failed before it was in flight.
    rw [hstart]
    have hmoved := h.same hsame
    refine ⟨hmoved.usage, ?_⟩
    show Numbered ⟨host', s.engine.inFlight ++ []⟩
    rw [List.append_nil]
    exact hmoved.numbered
  · rw [hstart]
    have hquiet : s.engine.inFlight = [] := by
      rcases hserial with hquiet | ⟨error, herror⟩
      · exact hquiet
      · rw [hstart] at herror
        cases herror
    have hfree : NumbersFree s.host.generation s.host := by
      rcases h.numbered with ⟨-, hfree⟩ | ⟨reload, hreload, -⟩
      · exact hfree
      · rw [hquiet] at hreload
        cases hreload
    rw [hquiet, List.nil_append]
    have hrule : NumbersItsDns (newTask s.host candidate now)
        (program (newTask s.host candidate now)) s.host := program_numbersItsDns rfl rfl hfree
    exact ⟨h.usage, @NumbersItsDns.numbered ⟨newTask s.host candidate now, s.host,
      program (newTask s.host candidate now), []⟩ _ hrule⟩

theorem Inv.resume {s : DnsHistory} (h : Inv s) {index : Nat} {conditions : Conditions}
    {engine : EngineState}
    (hstep : Engine.step s.engine (.resume index conditions) = some engine) :
    Inv { s with engine := engine } := by
  obtain ⟨reload, hreload, hstep⟩ := Option.bind_eq_some_iff.mp hstep
  obtain ⟨⟨reload', host'⟩, hresume, hstep⟩ := Option.bind_eq_some_iff.mp hstep
  cases hstep
  rcases h.numbered with ⟨hquiet, -⟩ | ⟨reload₀, hinFlight, hrule⟩
  · rw [hquiet] at hreload
    cases hreload
  rw [hinFlight] at hreload
  cases index with
  | succ index => cases hreload
  | zero =>
    cases hreload
    obtain ⟨task, startedOn, rest, pending⟩ := reload
    cases rest with
    | done result => cases hresume
    | call call k =>
      cases hresume
      have hawaits := Resumption.wp_invariant (fun _ => DnsFewer.refl) hrule rfl
      have hcalls : Calls task call s.host (perform task conditions s.host call).1
          (perform task conditions s.host call).2 := ⟨conditions, rfl⟩
      refine ⟨usage_calls h.usage hawaits hcalls, ?_⟩
      have hnext := Resumption.wp_call (fun _ => DnsFewer.refl) hrule hcalls
      rw [hinFlight]
      have hnumbered := @NumbersItsDns.numbered ⟨task, startedOn,
        k (perform task conditions s.host call).1,
        callClaims call (perform task conditions s.host call).1 pending⟩ _ hnext
      simpa [DnsHistory.host] using hnumbered

/-- A move of one generation's flights. -/
theorem Inv.setFlights {s : DnsHistory} (h : Inv s) (generation : DNSGeneration)
    {flights : List DnsFlight}
    (hothers : ∀ ref, ref ≠ generation.ref → inFlightOf flights ref = inFlightOf s.flights ref)
    (hflights : ∀ flight ∈ flights, flight ∈ s.flights ∨
      ∃ handle ∈ s.handles, handle.released = false ∧ flight.generation = handle.generation) :
    Inv (s.setFlights generation flights) where
  usage := h.usage.setInFlight generation hothers hflights
  numbered := h.numbered.others ⟨rfl, rfl, Nat.le_refl _, fun _ hnone => hnone⟩

theorem Inv.release {s : DnsHistory} (h : Inv s) {i : Nat} {handle : DNSGenerationHandle}
    (hi : s.handles[i]? = some handle) : Inv (s.release i handle) := by
  unfold DnsHistory.release
  split
  · exact h
  · next hheld =>
    refine ⟨h.usage.release hi (Bool.eq_false_iff.mpr hheld), ?_⟩
    refine h.numbered.others ⟨rfl, rfl, Nat.le_refl _, fun id hnone => ?_⟩
    exact get_releaseDrained_none hnone

theorem Inv.lookup {s : DnsHistory} (h : Inv s) {handle : DNSGenerationHandle}
    (hmem : handle ∈ s.handles) (hheld : handle.released = false) (key : String) :
    Inv (s.lookup handle key) := by
  unfold DnsHistory.lookup
  split
  · exact h
  · refine h.setFlights handle.generation (fun ref hne => ?_) fun flight hflight => ?_
    · unfold inFlightOf
      rw [List.countP_append, List.countP_singleton]
      simp [Ne.symm hne]
    · rcases List.mem_append.mp hflight with hflight | hflight
      · exact Or.inl hflight
      · obtain rfl := List.mem_singleton.mp hflight
        exact Or.inr ⟨handle, hmem, hheld, rfl⟩

theorem Inv.settle {s : DnsHistory} (h : Inv s) {i : Nat} {flight : DnsFlight}
    (hi : s.flights[i]? = some flight) :
    Inv (s.setFlights flight.generation (s.flights.eraseIdx i)) := by
  refine h.setFlights flight.generation (fun ref hne => ?_) fun other hother => ?_
  · obtain ⟨hlt, hget⟩ := List.getElem?_eq_some_iff.mp hi
    have hperm := (List.getElem_cons_eraseIdx_perm hlt).countP_eq
      fun flight : DnsFlight => flight.generation.ref = ref
    rw [List.countP_cons, hget] at hperm
    simpa [inFlightOf, Ne.symm hne] using hperm
  · exact Or.inl (List.mem_of_mem_eraseIdx hother)

/-- **Every step keeps what is in use.** -/
theorem Inv.step {s s' : DnsHistory} {a : DnsHistoryStep} (h : Inv s) (hserial : Serial s a)
    (hstep : system.step s a = some s') : Inv s' := by
  cases a with
  | engine step =>
    have hstep : (if usesDns step then none
      else (Engine.step s.engine step).map fun engine => { s with engine := engine }) = some s' := hstep
    split at hstep
    · cases hstep
    · next hother =>
      obtain ⟨engine, hengine, rfl⟩ := Option.map_eq_some_iff.mp hstep
      cases step with
      | request op =>
        cases hengine
        exact h.same (request_dns s.host (Bool.eq_false_iff.mpr hother))
      | reloadConfig candidate now => exact h.reloadConfig hserial hengine
      | resume index conditions => exact h.resume hengine
  | acquire =>
    cases hstep
    exact ⟨h.usage.acquire, h.numbered.others ⟨rfl, rfl, Nat.le_refl _, fun _ hnone => hnone⟩⟩
  | release i =>
    obtain ⟨handle, hi, rfl⟩ := Option.map_eq_some_iff.mp hstep
    exact h.release hi
  | lookup i key =>
    obtain ⟨handle, hi, hstep⟩ := Option.bind_eq_some_iff.mp hstep
    split at hstep
    · cases hstep
    · next hheld =>
      cases hstep
      exact h.lookup (List.mem_of_getElem? hi) (Bool.eq_false_iff.mpr hheld) key
  | settle i =>
    obtain ⟨flight, hi, hstep⟩ := Option.bind_eq_some_iff.mp hstep
    cases hstep
    exact h.settle hi
  | shutdown =>
    cases hstep
    refine ⟨h.usage.releaseDrained, h.numbered.others ⟨rfl, rfl, Nat.le_refl _, fun id hnone => ?_⟩⟩
    exact get_releaseDrained_none hnone

/-! ## Runs -/

theorem inv_of_build {config : SepigsConfig} {host : RuntimeHost}
    (h : Engine.build config = .ok host) : Inv ⟨⟨host, []⟩, [], []⟩ := by
  unfold Engine.build at h
  cases hregistry : Engine.createOutboundRuntimeRegistry config with
  | error error =>
    rw [hregistry] at h
    cases h
  | ok registry =>
    rw [hregistry] at h
    cases h
    refine ⟨⟨?_, ?_, rfl, fun _ => rfl, fun _ => rfl, fun _ hmem => (nomatch hmem),
      fun _ hmem => (nomatch hmem), ?_, fun _ hmem => (nomatch hmem),
      fun _ hmem => (nomatch hmem)⟩, Or.inl ⟨rfl, fun k hk => ?_⟩⟩
    · intro k generation hget
      have hget : ((∅ : KeyMap String DNSGeneration).set "dns-generation-0"
        ⟨0, "dns-generation-0", 0, config.dns⟩).get k = some generation := hget
      rw [KeyMap.get_set] at hget
      split at hget
      · next heq =>
        cases hget
        exact heq.symm
      · cases hget
    · exact KeyMap.get_set_self _ _ _
    · show 0 < 2 + config.outbounds.length
      omega
    · show ((∅ : KeyMap String DNSGeneration).set "dns-generation-0"
        ⟨0, "dns-generation-0", 0, config.dns⟩).get (dnsId k) = none
      rw [KeyMap.get_set_of_ne _ _ (dnsId_ne_initial k)]
      rfl

/-- **The store never loses a generation that is in use**, in any run of reloads that
do not overlap and of users of the generations. -/
theorem dns_generations_kept {config : SepigsConfig} {host : RuntimeHost} {s : DnsHistory}
    {steps : List DnsHistoryStep} (hbuild : Engine.build config = .ok host)
    (hserial : system.Along Serial ⟨⟨host, []⟩, [], []⟩ steps)
    (hrun : system.run ⟨⟨host, []⟩, [], []⟩ steps = some s) : KeepsUsed s :=
  (system.run_invariant Serial Inv (fun _ _ _ h hg hstep => h.step hg hstep) steps _ _
    (inv_of_build hbuild) hserial hrun).keepsUsed

/-- A lookup is in flight when DNS is replaced; its handle is released twice before it
settles, and then the resolver shuts down. -/
def replacedInFlight : List DnsHistoryStep :=
  [.acquire, .lookup 0 "a", .engine (.reloadConfig { directConfig "a" with dns := ⟨"b", "{}"⟩ } 0)] ++
  List.replicate 8 (.engine (.resume 0 ⟨false, none, false, 0, 0⟩)) ++
  [.release 0, .release 0, .settle 0, .shutdown]

theorem replacedInFlight_serial (host : RuntimeHost) :
    system.Along Serial ⟨⟨host, []⟩, [], []⟩ replacedInFlight := by
  refine ⟨trivial, fun s hs => ⟨trivial, fun s' hs' => ⟨Or.inl ?_, fun t _ => ?_⟩⟩⟩
  · cases hs
    cases hs'
    rfl
  · refine (system.along_append Serial t _ _).mpr
      ⟨system.along_replicate (fun _ => trivial) 8 t, fun u _ => ?_⟩
    exact ⟨trivial, fun _ _ => ⟨trivial, fun _ _ => ⟨trivial, fun _ _ => ⟨trivial, fun _ _ => trivial⟩⟩⟩⟩

theorem dns_generations_kept_replacedInFlight : ∃ s : DnsHistory, s.host.generation = 1 ∧
    s.host.dns.generations.values.length = 1 ∧ KeepsUsed s := by
  have hrun : ((build (directConfig "a")).toOption.bind fun host =>
      system.run ⟨⟨host, []⟩, [], []⟩ replacedInFlight).any (fun s =>
        s.host.generation = 1 ∧ s.host.dns.generations.values.length = 1) = true := by
    decide +kernel
  cases hbuild : build (directConfig "a") with
  | error error =>
    rw [hbuild] at hrun
    cases hrun
  | ok host =>
    rw [hbuild] at hrun
    obtain ⟨s, hs, hend⟩ := (Option.any_eq_true _ _).mp hrun
    obtain ⟨hgeneration, hvalues⟩ := of_decide_eq_true hend
    exact ⟨s, hgeneration, hvalues, dns_generations_kept hbuild (replacedInFlight_serial host) hs⟩

end DnsHistory

end Sepigs
