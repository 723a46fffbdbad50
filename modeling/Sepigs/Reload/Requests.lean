import Sepigs.Outbound.ReferenceCounting
import Sepigs.Reload.RuntimeAdapters

/-!
# Requests beside a reload

What the requests of the engine do to the state it shares with a reload: they
acquire and release the routing pair, outbound references and DNS generations.

`RuntimeHost.view` is the part of that state a reload depends on.  A request
changes nothing of it unless it drops the last reference to the generation the
reload may have to restore (`request_undisturbed`).
-/

namespace Sepigs

/-! ## Retirement -/

theorem OutboundRuntimeRegistry.liveEntry_retireIfUnused (registry : OutboundRuntimeRegistry)
    (id k : String) :
    (registry.retireIfUnused id).liveEntry k = registry.liveEntry k ∨
      k = id ∧ id ≠ registry.activeGenerationId ∧ ∃ entry, registry.liveEntry id = some entry ∧
        registry.usage entry.generation.ref = 0 := by
  unfold retireIfUnused
  cases hrec : registry.records.get id with
  | none => exact .inl rfl
  | some record =>
    dsimp only
    split
    · exact .inl rfl
    · next hcond =>
      rw [not_or] at hcond
      by_cases hk : k = id
      · refine .inr ⟨hk, hcond.1, _, registry.liveEntry_eq_some hrec, ?_⟩
        exact Nat.eq_zero_of_not_pos hcond.2
      · refine .inl ((registry.liveEntry_delete id k).trans ?_)
        rw [if_neg hk]

theorem OutboundRuntimeRegistry.retireIfUnused_active (registry : OutboundRuntimeRegistry)
    (id : String) :
    (registry.retireIfUnused id).activeGenerationId = registry.activeGenerationId ∧
    (registry.retireIfUnused id).liveEntry registry.activeGenerationId =
      registry.liveEntry registry.activeGenerationId := by
  constructor
  · unfold retireIfUnused
    cases registry.records.get id with
    | none => rfl
    | some record =>
      dsimp only
      split
      · rfl
      · rfl
  · rcases registry.liveEntry_retireIfUnused id registry.activeGenerationId with h | ⟨h, hne, -⟩
    · exact h
    · exact absurd h.symm hne

theorem Lifecycle.retireIfUnused {registry : OutboundRuntimeRegistry}
    {registered : List RuntimeEntry} (h : Lifecycle registry registered) (id : String) :
    Lifecycle (registry.retireIfUnused id) registered := by
  unfold OutboundRuntimeRegistry.retireIfUnused
  cases hrec : registry.records.get id with
  | none => exact h
  | some record =>
    dsimp only
    split
    · exact h
    · exact h.retire hrec

/-! ## Requests -/

/-- `generationId` is the optional argument of `acquireOutboundRef`. -/
inductive RequestOperation
  | acquireRouting
  | releaseRouting (generation : RoutingGenerationPair)
  | acquireOutboundRef (tag : String) (generationId : Option String)
  | releaseOutboundRef (referenceId : Nat)
  | acquireDns
  | releaseDns (generation : DNSGeneration)
  | setDnsInFlight (generation : DNSGeneration) (inFlight : Nat)
deriving DecidableEq, Repr

namespace RuntimeHost

def request (host : RuntimeHost) : RequestOperation → RuntimeHost
  | .acquireRouting => { host with routing := host.routing.acquire.2 }
  | .releaseRouting generation => { host with routing := host.routing.release generation }
  | .acquireOutboundRef tag generationId =>
    { host with registry := (host.registry.acquireOutboundRef tag
        (generationId.getD host.registry.activeGenerationId)).2 }
  | .releaseOutboundRef referenceId =>
    { host with registry := host.registry.releaseOutboundRef referenceId }
  | .acquireDns => { host with dns := host.dns.acquire.2 }
  | .releaseDns generation => { host with dns := host.dns.release generation }
  | .setDnsInFlight generation inFlight =>
    { host with dns := host.dns.setState generation fun state => { state with inFlight := inFlight } }

/-- If the request releases a reference to the generation, another one is left or
the generation is the active one. -/
def KeepsReference (generationId : String) (host : RuntimeHost) : RequestOperation → Prop
  | .releaseOutboundRef referenceId => ∀ release entry,
    host.registry.referenceReleases.get referenceId = some release →
    release.generationId = generationId → host.registry.liveEntry generationId = some entry →
    generationId = host.registry.activeGenerationId ∨
      (if release.generationRef = entry.generation.ref then 1 else 0) <
        host.registry.usage entry.generation.ref
  | _ => True

end RuntimeHost

/-- What a reload depends on; `oldEntry` is what it may have to restore. -/
structure ReloadView where
  config : SepigsConfig
  generation : Nat
  activePair : RoutingGenerationPair
  transactions : KeyMap String RoutingTransaction
  activeOutbound : String
  activeEntry : Option RuntimeEntry
  oldEntry : Option RuntimeEntry
  activeDns : DNSGeneration
  cacheCarriedOver : Nat
  cacheDropped : Nat
  outboundFlags : Nat → OutboundPreparedFlags
  dnsCommitted : Nat → Bool
  nextRef : Nat

def RuntimeHost.view (oldGenerationId : String) (host : RuntimeHost) : ReloadView where
  config := host.config
  generation := host.generation
  activePair := host.routing.activeGeneration
  transactions := host.routing.transactions
  activeOutbound := host.registry.activeGenerationId
  activeEntry := host.registry.liveEntry host.registry.activeGenerationId
  oldEntry := host.registry.liveEntry oldGenerationId
  activeDns := host.dns.activeGeneration
  cacheCarriedOver := host.dns.cacheCarriedOver
  cacheDropped := host.dns.cacheDropped
  outboundFlags := host.outboundFlags
  dnsCommitted := host.dnsCommitted
  nextRef := host.nextRef

/-- The others have moved, and a reload does not notice. -/
structure Undisturbed (oldGenerationId : String) (s t : RuntimeHost) : Prop where
  view_eq : t.view oldGenerationId = s.view oldGenerationId
  lifecycle : ∀ registered, Lifecycle s.registry registered → Lifecycle t.registry registered

namespace Undisturbed

variable {oldGenerationId : String}

theorem refl (s : RuntimeHost) : Undisturbed oldGenerationId s s :=
  ⟨rfl, fun _ h => h⟩

theorem trans (s t u : RuntimeHost) (h : Undisturbed oldGenerationId s t)
    (h' : Undisturbed oldGenerationId t u) : Undisturbed oldGenerationId s u :=
  ⟨h'.view_eq.trans h.view_eq, fun registered hl => h'.lifecycle registered (h.lifecycle registered hl)⟩

/-- A move that leaves the registry's entries and its stopped objects alone. -/
theorem of_registry {s t : RuntimeHost} (hview : t = { s with registry := t.registry })
    (hactive : t.registry.activeGenerationId = s.registry.activeGenerationId)
    (hlive : t.registry.liveEntry = s.registry.liveEntry)
    (hstop : t.registry.stopCalls = s.registry.stopCalls) : Undisturbed oldGenerationId s t := by
  refine ⟨?_, fun registered h => h.congr hlive hstop⟩
  rw [hview]
  simp only [RuntimeHost.view, hactive, hlive]

end Undisturbed

/-- What a release of a reference does to the entries. -/
theorem OutboundRuntimeRegistry.liveEntry_releaseOutboundRef (registry : OutboundRuntimeRegistry)
    (referenceId : Nat) (k : String) :
    (registry.releaseOutboundRef referenceId).liveEntry k = registry.liveEntry k ∨
      k ≠ registry.activeGenerationId ∧ ∃ release entry,
        registry.referenceReleases.get referenceId = some release ∧ release.generationId = k ∧
        registry.liveEntry k = some entry ∧
        registry.usage entry.generation.ref ≤
          if release.generationRef = entry.generation.ref then 1 else 0 := by
  unfold releaseOutboundRef
  cases hrel : registry.referenceReleases.get referenceId with
  | none => exact .inl rfl
  | some release =>
    dsimp only
    obtain ⟨hlive, -⟩ := registry.forgetReference_frame referenceId release
    rcases (registry.forgetReference referenceId release).liveEntry_retireIfUnused
      release.generationId k with h | ⟨hk, hne, entry, hentry, husage⟩
    · exact .inl (h.trans (congrFun hlive k))
    · rw [hlive, ← hk] at hentry
      refine .inr ⟨hk ▸ hne, release, entry, rfl, hk.symm, hentry, ?_⟩
      have husage' : Function.update registry.usage release.generationRef
          (registry.usage release.generationRef - 1) entry.generation.ref = 0 := husage
      split
      · next heq =>
        rw [heq, Function.update_self] at husage'
        omega
      · next hne' =>
        rw [Function.update_of_ne (Ne.symm hne')] at husage'
        omega

theorem OutboundRuntimeRegistry.releaseOutboundRef_active (registry : OutboundRuntimeRegistry)
    (referenceId : Nat) :
    (registry.releaseOutboundRef referenceId).activeGenerationId = registry.activeGenerationId := by
  unfold releaseOutboundRef
  cases registry.referenceReleases.get referenceId with
  | none => rfl
  | some release => exact ((registry.forgetReference referenceId release).retireIfUnused_active _).1

theorem Lifecycle.releaseOutboundRef {registry : OutboundRuntimeRegistry}
    {registered : List RuntimeEntry} (h : Lifecycle registry registered) (referenceId : Nat) :
    Lifecycle (registry.releaseOutboundRef referenceId) registered := by
  unfold OutboundRuntimeRegistry.releaseOutboundRef
  cases registry.referenceReleases.get referenceId with
  | none => exact h
  | some release =>
    obtain ⟨hlive, -⟩ := registry.forgetReference_frame referenceId release
    exact (h.congr hlive rfl).retireIfUnused _

theorem RoutingGenerationRuntime.release_frame (runtime : RoutingGenerationRuntime)
    (generation : RoutingGenerationPair) :
    (runtime.release generation).activeGeneration = runtime.activeGeneration ∧
    (runtime.release generation).transactions = runtime.transactions := by
  unfold release
  dsimp only
  split
  · exact ⟨rfl, rfl⟩
  · exact ⟨rfl, rfl⟩

/-- **No reload notices a request** that leaves a reference to its old generation. -/
theorem RuntimeHost.request_undisturbed {oldGenerationId : String} (host : RuntimeHost)
    (op : RequestOperation) (h : host.KeepsReference oldGenerationId op) :
    Undisturbed oldGenerationId host (host.request op) := by
  cases op with
  | acquireRouting => exact ⟨rfl, fun _ hl => hl⟩
  | releaseRouting generation =>
    obtain ⟨hactive, htransactions⟩ := host.routing.release_frame generation
    refine ⟨?_, fun _ hl => hl⟩
    simp only [RuntimeHost.view, RuntimeHost.request, hactive, htransactions]
  | acquireOutboundRef tag generationId =>
    obtain ⟨hlive, -, hactive, hstop⟩ := host.registry.acquireOutboundRef_frame tag
      (generationId.getD host.registry.activeGenerationId)
    exact Undisturbed.of_registry rfl hactive hlive hstop
  | releaseOutboundRef referenceId =>
    have hactive := host.registry.releaseOutboundRef_active referenceId
    refine ⟨?_, fun _ hl => hl.releaseOutboundRef referenceId⟩
    have hkept : (host.registry.releaseOutboundRef referenceId).liveEntry
        host.registry.activeGenerationId =
          host.registry.liveEntry host.registry.activeGenerationId := by
      rcases host.registry.liveEntry_releaseOutboundRef referenceId
        host.registry.activeGenerationId with he | ⟨hne, -⟩
      · exact he
      · exact absurd rfl hne
    have hold : (host.registry.releaseOutboundRef referenceId).liveEntry oldGenerationId =
        host.registry.liveEntry oldGenerationId := by
      rcases host.registry.liveEntry_releaseOutboundRef referenceId oldGenerationId with
        he | ⟨hne, release, entry, hrel, hid, hentry, husage⟩
      · exact he
      · rcases h release entry hrel hid hentry with hact | hlt
        · exact absurd hact hne
        · omega
    simp only [RuntimeHost.view, RuntimeHost.request, hactive, hkept, hold]
  | acquireDns => exact ⟨rfl, fun _ hl => hl⟩
  | releaseDns generation => exact ⟨rfl, fun _ hl => hl⟩
  | setDnsInFlight generation inFlight => exact ⟨rfl, fun _ hl => hl⟩

/-- The condition is exact: without another reference the generation is retired. -/
theorem RuntimeHost.request_retires {generationId : String} (host : RuntimeHost)
    (op : RequestOperation) (h : ¬ host.KeepsReference generationId op) :
    (host.request op).registry.liveEntry generationId = none := by
  cases op with
  | releaseOutboundRef referenceId =>
    simp only [KeepsReference, Classical.not_forall, not_or, Nat.not_lt] at h
    obtain ⟨release, entry, hrel, hid, hentry, hne, husage⟩ := h
    obtain ⟨hlive, -⟩ := host.registry.forgetReference_frame referenceId release
    have hactive : ¬ release.generationId =
        (host.registry.forgetReference referenceId release).activeGenerationId := hid ▸ hne
    have hforget := congrFun hlive generationId
    rw [hentry] at hforget
    obtain ⟨record, hrec, rfl⟩ := OutboundRuntimeRegistry.exists_record_of_liveEntry hforget
    dsimp only at husage
    have hzero : (host.registry.forgetReference referenceId release).referenceCount record = 0 := by
      show Function.update host.registry.usage release.generationRef
        (host.registry.usage release.generationRef - 1) record.generation.ref = 0
      by_cases heq : release.generationRef = record.generation.ref
      · rw [if_pos heq] at husage
        rw [heq, Function.update_self]
        omega
      · rw [if_neg heq] at husage
        rw [Function.update_of_ne (Ne.symm heq)]
        omega
    show (host.registry.releaseOutboundRef referenceId).liveEntry generationId = none
    unfold OutboundRuntimeRegistry.releaseOutboundRef
    rw [hrel]
    dsimp only
    unfold OutboundRuntimeRegistry.retireIfUnused
    rw [hid, hrec]
    dsimp only
    rw [if_neg (not_or.mpr ⟨hid ▸ hactive, Nat.not_lt.mpr (Nat.le_of_eq hzero)⟩)]
    exact (OutboundRuntimeRegistry.liveEntry_delete _ generationId generationId).trans (if_pos rfl)
  | acquireRouting => exact absurd trivial h
  | releaseRouting generation => exact absurd trivial h
  | acquireOutboundRef tag generationId => exact absurd trivial h
  | acquireDns => exact absurd trivial h
  | releaseDns generation => exact absurd trivial h
  | setDnsInFlight generation inFlight => exact absurd trivial h

/-! ## What others may do -/

/-- The others' moves during a reload.  Once it is decided they may retire the old
generation too. -/
def Others (oldGenerationId : String) (decided : Bool) (s t : RuntimeHost) : Prop :=
  Undisturbed (if decided then s.registry.activeGenerationId else oldGenerationId) s t

namespace Others

variable {oldGenerationId : String}

theorem refl (decided : Bool) (s : RuntimeHost) : Others oldGenerationId decided s s :=
  Undisturbed.refl s

theorem trans (decided : Bool) (s t u : RuntimeHost) (h : Others oldGenerationId decided s t)
    (h' : Others oldGenerationId decided t u) : Others oldGenerationId decided s u := by
  cases decided with
  | false => exact Undisturbed.trans s t u h h'
  | true =>
    have hactive : t.registry.activeGenerationId = s.registry.activeGenerationId :=
      congrArg ReloadView.activeOutbound h.view_eq
    have h' : Undisturbed t.registry.activeGenerationId t u := h'
    rw [hactive] at h'
    exact Undisturbed.trans s t u h h'

/-- At most the old generation looks different. -/
theorem view_eq {decided : Bool} {s t : RuntimeHost} (h : Others oldGenerationId decided s t) :
    t.view oldGenerationId =
      { s.view oldGenerationId with oldEntry := t.registry.liveEntry oldGenerationId } := by
  have hs : ∀ id, s.view oldGenerationId =
      { s.view id with oldEntry := s.registry.liveEntry oldGenerationId } := fun _ => rfl
  have ht : ∀ id, t.view oldGenerationId =
      { t.view id with oldEntry := t.registry.liveEntry oldGenerationId } := fun _ => rfl
  rw [hs, ht, Undisturbed.view_eq h]

/-- Before it is decided a reload notices nothing. -/
theorem view_eq_undecided {s t : RuntimeHost} (h : Others oldGenerationId false s t) :
    t.view oldGenerationId = s.view oldGenerationId :=
  Undisturbed.view_eq h

theorem request {decided : Bool} (host : RuntimeHost) (op : RequestOperation)
    (h : decided = false → host.KeepsReference oldGenerationId op) :
    Others oldGenerationId decided host (host.request op) := by
  refine host.request_undisturbed op ?_
  cases decided with
  | false => exact h rfl
  | true =>
    cases op with
    | releaseOutboundRef referenceId => exact fun _ _ _ _ _ => .inl rfl
    | acquireRouting => exact trivial
    | releaseRouting generation => exact trivial
    | acquireOutboundRef tag generationId => exact trivial
    | acquireDns => exact trivial
    | releaseDns generation => exact trivial
    | setDnsInFlight generation inFlight => exact trivial

end Others

end Sepigs
