import Sepigs.Core.Engine

/-!
# What requests dispatch to (`core/engine.ts`)

`openTcp` and `sendUdp` beside the reloads of an engine, in any order of their steps.  A request
goes through its candidates: an attempt of `openTcp` takes a reference in the generation that is
active by then, or the engine's own `outbounds` has the tag; `sendUdp` has only these.  No
reload writes the engine's own map.

The environment says which candidates the policy yields and how each attempt ends.
-/

namespace Sepigs

/-- Whether `outbound.sendUdp` is there; `extensions` says it of the plugins' types. -/
def OutboundType.hasSendUdp (extensions : String → Bool) : OutboundType → Bool
  | .direct | .block | .shadowsocks | .wireguard => true
  | .tcpRelay | .trojan => false
  | .extension name => extensions name

inductive RequestKind where
  | openTcp
  | sendUdp
deriving DecidableEq, Repr

/-- A request with the candidates it has left; `startedOn` is a ghost, the outbound generation
that was active when it acquired its routing generation. -/
structure DispatchRequest where
  kind : RequestKind
  routing : RoutingGenerationPair
  startedOn : Option RuntimeEntry
  candidates : List String

/-- `connect` with the reference it was made for, the release after one that failed, or `sendUdp`. -/
inductive AwaitedAttempt where
  | connect (reference : Option Nat)
  | release
  | sendUdp

structure WaitingRequest where
  request : DispatchRequest
  awaited : AwaitedAttempt

/-- A ghost: what an attempt came to, and whether `stop()` had been called on it by then. -/
structure DispatchAttempt where
  kind : RequestKind
  tag : String
  outbound : Option Outbound
  startedOn : Option RuntimeEntry
  stopped : Bool

/-- `outbounds` is the engine's own map. -/
structure DispatchState where
  engine : EngineState
  outbounds : KeyMap String Outbound
  requests : List WaitingRequest
  attempts : List DispatchAttempt

inductive DispatchStep where
  | engine (step : EngineStep)
  | openTcp (candidates : List String)
  | sendUdp (candidates : List String)
  | answer (index : Nat) (succeeded : Bool)

namespace DispatchState

def registry (s : DispatchState) : OutboundRuntimeRegistry := s.engine.host.registry

def perform (s : DispatchState) (op : RequestOperation) : DispatchState :=
  { s with engine := { s.engine with host := s.engine.host.request op } }

def setRegistry (s : DispatchState) (registry : OutboundRuntimeRegistry) : DispatchState :=
  { s with engine := { s.engine with host := { s.engine.host with registry := registry } } }

end DispatchState

namespace Dispatch

/-- What a loop over candidates did up to its next `await`, if it came to one. -/
structure Tried where
  attempts : List DispatchAttempt
  registry : OutboundRuntimeRegistry
  awaited : Option (AwaitedAttempt × List String)

/-- The loop of `openTcp`. -/
def tryConnect (outbounds : KeyMap String Outbound) (startedOn : Option RuntimeEntry) :
    OutboundRuntimeRegistry → List String → Tried
  | registry, [] => ⟨[], registry, none⟩
  | registry, tag :: candidates =>
    let acquired := registry.acquireOutboundRef tag registry.activeGenerationId
    let outbound := (acquired.1.map OutboundRuntimeReference.outbound).or (outbounds.get tag)
    let attempt : DispatchAttempt :=
      ⟨.openTcp, tag, outbound, startedOn, outbound.any fun o => o ∈ registry.stopCalls⟩
    match outbound with
    | none =>
      let tried := tryConnect outbounds startedOn acquired.2 candidates
      { tried with attempts := attempt :: tried.attempts }
    | some _ => ⟨[attempt], acquired.2, some (.connect (acquired.1.map OutboundRuntimeReference.id), candidates)⟩

/-- The loop of `sendUdp`; an outbound without the method is passed over. -/
def trySend (extensions : String → Bool) (outbounds : KeyMap String Outbound) (startedOn : Option RuntimeEntry)
    (registry : OutboundRuntimeRegistry) : List String → Tried
  | [] => ⟨[], registry, none⟩
  | tag :: candidates =>
    match outbounds.get tag with
    | none => trySend extensions outbounds startedOn registry candidates
    | some outbound =>
      if outbound.type.hasSendUdp extensions then
        ⟨[⟨.sendUdp, tag, some outbound, startedOn, outbound ∈ registry.stopCalls⟩], registry,
          some (.sendUdp, candidates)⟩
      else trySend extensions outbounds startedOn registry candidates

def newRequest (s : DispatchState) (kind : RequestKind) (candidates : List String) : DispatchRequest where
  kind := kind
  routing := s.engine.host.routing.activeGeneration
  startedOn := s.registry.liveEntry s.registry.activeGenerationId
  candidates := candidates

/-- A step up to the loop that it goes on with, if any. -/
def enter (s : DispatchState) : DispatchStep → Option (DispatchState × Option DispatchRequest)
  | .engine step => (Engine.step s.engine step).map fun engine => ({ s with engine := engine }, none)
  | .openTcp candidates => some (s.perform .acquireRouting, some (newRequest s .openTcp candidates))
  | .sendUdp candidates => some (s.perform .acquireRouting, some (newRequest s .sendUdp candidates))
  | .answer index succeeded =>
    s.requests[index]?.map fun waiting =>
      let others := s.requests.eraseIdx index
      match waiting.awaited, succeeded with
      | .connect _, true | .sendUdp, true | .release, false =>
        ({ s.perform (.releaseRouting waiting.request.routing) with requests := others }, none)
      | .connect (some reference), false =>
        ({ s.perform (.releaseOutboundRef reference) with
          requests := others ++ [⟨waiting.request, .release⟩] }, none)
      | .connect none, false | .sendUdp, false | .release, true =>
        ({ s with requests := others }, some waiting.request)

/-- The loop, up to its next `await` or its end. -/
def proceed (extensions : String → Bool) (s : DispatchState) (request : DispatchRequest) : DispatchState :=
  let tried :=
    match request.kind with
    | .openTcp => tryConnect s.outbounds request.startedOn s.registry request.candidates
    | .sendUdp => trySend extensions s.outbounds request.startedOn s.registry request.candidates
  let tried' := { s.setRegistry tried.registry with attempts := s.attempts ++ tried.attempts }
  match tried.awaited with
  | none => tried'.perform (.releaseRouting request.routing)
  | some (awaited, candidates) =>
    { tried' with requests := tried'.requests ++ [⟨{ request with candidates := candidates }, awaited⟩] }

def step (extensions : String → Bool) (s : DispatchState) (a : DispatchStep) : Option DispatchState :=
  (enter s a).map fun entered =>
    match entered.2 with
    | none => entered.1
    | some request => proceed extensions entered.1 request

def system (extensions : String → Bool) : Runs.System DispatchState DispatchStep := ⟨step extensions⟩

/-- An engine that was built, before its first request. -/
def start (config : SepigsConfig) (host : RuntimeHost) : DispatchState where
  engine := ⟨host, []⟩
  outbounds := Engine.buildOutbounds config
  requests := []
  attempts := []

/-! ## The loops -/

section Loops

variable (registry : OutboundRuntimeRegistry) (outbounds : KeyMap String Outbound) (startedOn : Option RuntimeEntry)

/-- What the active generation has under a tag. -/
def activeOutbound (tag : String) : Option Outbound := registry.getOutbound tag registry.activeGenerationId

/-- What `openTcp` finds under a tag. -/
def resolve (tag : String) : Option Outbound := (activeOutbound registry tag).or (outbounds.get tag)

/-- The candidates a loop of `openTcp` comes to: those that are missing, and the next one. -/
def reached : List String → List String
  | [] => []
  | tag :: candidates => if (resolve registry outbounds tag).isSome then [tag] else tag :: reached candidates

/-- What a loop of `sendUdp` comes to. -/
def sender (extensions : String → Bool) (outbounds : KeyMap String Outbound) (candidates : List String) :
    Option (String × Outbound) :=
  candidates.findSome? fun tag =>
    ((outbounds.get tag).filter fun o => o.type.hasSendUdp extensions).map fun o => (tag, o)

theorem acquire_outbound (tag : String) :
    (registry.acquireOutboundRef tag registry.activeGenerationId).1.map OutboundRuntimeReference.outbound =
      activeOutbound registry tag := by
  unfold activeOutbound OutboundRuntimeRegistry.acquireOutboundRef OutboundRuntimeRegistry.getOutbound
  cases hrecord : registry.records.get registry.activeGenerationId with
  | none => rfl
  | some record =>
    cases houtbound : record.outbounds.get tag with
    | none => simp [houtbound]
    | some outbound => simp [houtbound]

theorem acquire_of_missing {tag : String} (h : activeOutbound registry tag = none) :
    (registry.acquireOutboundRef tag registry.activeGenerationId).2 = registry := by
  unfold activeOutbound OutboundRuntimeRegistry.getOutbound at h
  unfold OutboundRuntimeRegistry.acquireOutboundRef
  cases hrecord : registry.records.get registry.activeGenerationId with
  | none => rfl
  | some record =>
    rw [hrecord, Option.bind_some] at h
    simp [h]

/-- An attempt of `openTcp`. -/
def attemptOn (tag : String) : DispatchAttempt :=
  ⟨.openTcp, tag, resolve registry outbounds tag, startedOn,
    (resolve registry outbounds tag).any fun o => o ∈ registry.stopCalls⟩

theorem tryConnect_attempts (candidates : List String) :
    (tryConnect outbounds startedOn registry candidates).attempts =
      (reached registry outbounds candidates).map (attemptOn registry outbounds startedOn) := by
  induction candidates with
  | nil => rfl
  | cons tag candidates ih =>
    unfold tryConnect reached
    simp only [acquire_outbound]
    cases hresolve : resolve registry outbounds tag with
    | none =>
      have hmissing : activeOutbound registry tag = none := (Option.or_eq_none_iff.mp hresolve).1
      have hor : (activeOutbound registry tag).or (outbounds.get tag) = none := hresolve
      simp only [hor, acquire_of_missing registry hmissing, ih]
      simp [attemptOn, hresolve]
    | some outbound =>
      have hor : (activeOutbound registry tag).or (outbounds.get tag) = some outbound := hresolve
      simp only [hor]
      simp [attemptOn, hresolve]

/-- At most one reference is taken. -/
theorem tryConnect_registry (candidates : List String) :
    (tryConnect outbounds startedOn registry candidates).registry = registry ∨
      ∃ tag, (tryConnect outbounds startedOn registry candidates).registry =
        (registry.acquireOutboundRef tag registry.activeGenerationId).2 := by
  induction candidates with
  | nil => exact Or.inl rfl
  | cons tag candidates ih =>
    unfold tryConnect
    simp only [acquire_outbound]
    split
    · next hnone =>
      rw [acquire_of_missing registry (Option.or_eq_none_iff.mp hnone).1]
      exact ih
    · exact Or.inr ⟨tag, rfl⟩

theorem trySend_spec (extensions : String → Bool) (candidates : List String) :
    (trySend extensions outbounds startedOn registry candidates).registry = registry ∧
      (trySend extensions outbounds startedOn registry candidates).attempts =
        (sender extensions outbounds candidates).toList.map fun found =>
          ⟨.sendUdp, found.1, some found.2, startedOn, found.2 ∈ registry.stopCalls⟩ := by
  induction candidates with
  | nil => exact ⟨rfl, rfl⟩
  | cons tag candidates ih =>
    unfold trySend sender
    rw [List.findSome?_cons]
    cases hget : outbounds.get tag with
    | none => exact ih
    | some outbound =>
      by_cases hsend : outbound.type.hasSendUdp extensions = true
      · simp only [Option.filter_some, if_pos hsend]
        exact ⟨trivial, rfl⟩
      · simp only [Option.filter_some, if_neg hsend]
        exact ih

end Loops

/-! ## The invariant -/

/-- The generation an engine starts with. -/
def firstEntry (config : SepigsConfig) : RuntimeEntry :=
  ⟨⟨1, "runtime-outbound-0", config.outbounds⟩, Engine.buildOutbounds config⟩

/-- The objects have their owners, the requests know registered generations, and the engine's
map is that of the first generation. -/
structure Kept (config : SepigsConfig) (registered : List RuntimeEntry) (s : DispatchState) : Prop where
  owned : Engine.OwnedBy s.engine registered
  first : firstEntry config ∈ registered
  startedOn : ∀ waiting ∈ s.requests, ∀ entry, waiting.request.startedOn = some entry → entry ∈ registered
  outbounds : s.outbounds = Engine.buildOutbounds config

section Kept

variable {config : SepigsConfig} {registered : List RuntimeEntry} {s s' : DispatchState}

theorem Kept.perform (h : Kept config registered s) (op : RequestOperation) : Kept config registered (s.perform op) where
  owned := ⟨h.owned.owned.request op, h.owned.ownsOnly⟩
  first := h.first
  startedOn := h.startedOn
  outbounds := h.outbounds

theorem Kept.withRequests (h : Kept config registered s) {requests : List WaitingRequest}
    (hrequests : ∀ waiting ∈ requests, waiting ∈ s.requests ∨
      ∀ entry, waiting.request.startedOn = some entry → entry ∈ registered) :
    Kept config registered { s with requests := requests } where
  owned := h.owned
  first := h.first
  startedOn waiting hwaiting := (hrequests waiting hwaiting).elim (h.startedOn waiting) id
  outbounds := h.outbounds

/-- The registry after a loop is one a request leaves. -/
theorem Kept.setRegistry (h : Kept config registered s) {registry : OutboundRuntimeRegistry}
    (hregistry : registry = s.registry ∨
      ∃ tag, registry = (s.registry.acquireOutboundRef tag s.registry.activeGenerationId).2) :
    Kept config registered (s.setRegistry registry) := by
  rcases hregistry with rfl | ⟨tag, rfl⟩
  · exact h
  · exact h.perform (.acquireOutboundRef tag none)

/-- What the active generation has is an object of a registered one. -/
theorem Kept.active (h : Kept config registered s) {tag : String} {outbound : Outbound}
    (hactive : activeOutbound s.registry tag = some outbound) :
    ∃ entry ∈ registered, s.registry.liveEntry s.registry.activeGenerationId = some entry ∧
      entry.outbounds.get tag = some outbound ∧ outbound ∈ entry.outbounds.values := by
  unfold activeOutbound OutboundRuntimeRegistry.getOutbound at hactive
  obtain ⟨record, hrecord, houtbound⟩ := Option.bind_eq_some_iff.mp hactive
  have hlive := s.registry.liveEntry_eq_some hrecord
  exact ⟨_, h.owned.owned.lifecycle.mem_registered _ _ hlive, hlive, houtbound,
    (record.outbounds.mem_values outbound).mpr ⟨tag, houtbound⟩⟩

theorem Kept.newRequest (h : Kept config registered s) (kind : RequestKind) (candidates : List String) :
    ∀ entry, (newRequest s kind candidates).startedOn = some entry → entry ∈ registered :=
  fun _ hentry => h.owned.owned.lifecycle.mem_registered _ _ hentry

theorem Kept.proceed (h : Kept config registered s) (extensions : String → Bool) {request : DispatchRequest}
    (hrequest : ∀ entry, request.startedOn = some entry → entry ∈ registered) :
    Kept config registered (proceed extensions s request) := by
  have htried : ∀ tried : Tried, (tried.registry = s.registry ∨
      ∃ tag, tried.registry = (s.registry.acquireOutboundRef tag s.registry.activeGenerationId).2) →
      Kept config registered { s.setRegistry tried.registry with attempts := s.attempts ++ tried.attempts } := by
    intro tried htried
    have hset := h.setRegistry htried
    exact ⟨hset.owned, hset.first, hset.startedOn, hset.outbounds⟩
  unfold Dispatch.proceed
  have hkept := htried
    (match request.kind with
      | .openTcp => tryConnect s.outbounds request.startedOn s.registry request.candidates
      | .sendUdp => trySend extensions s.outbounds request.startedOn s.registry request.candidates) (by
    cases request.kind with
    | openTcp => exact tryConnect_registry _ _ _ _
    | sendUdp => exact Or.inl (trySend_spec _ _ _ _ _).1)
  simp only []
  split
  · exact hkept.perform _
  · refine hkept.withRequests fun waiting hwaiting => ?_
    rcases List.mem_append.mp hwaiting with hold | hnew
    · exact Or.inl hold
    · rw [List.mem_singleton.mp hnew]
      exact Or.inr hrequest

/-- An answer ends its request, has it wait for a release, or lets it go on. -/
theorem enter_answer {index : Nat} {succeeded : Bool} {next : Option DispatchRequest}
    (h : enter s (.answer index succeeded) = some (s', next)) : ∃ waiting ∈ s.requests,
      (∃ op, s' = { s.perform op with requests := s.requests.eraseIdx index } ∧ next = none) ∨
      (∃ reference, s' = { s.perform (.releaseOutboundRef reference) with
        requests := s.requests.eraseIdx index ++ [⟨waiting.request, .release⟩] } ∧ next = none) ∨
      s' = { s with requests := s.requests.eraseIdx index } ∧ next = some waiting.request := by
  obtain ⟨⟨request, awaited⟩, hwaiting, heq⟩ := Option.map_eq_some_iff.mp h
  refine ⟨⟨request, awaited⟩, List.mem_of_getElem? hwaiting, ?_⟩
  cases awaited with
  | release =>
    cases succeeded with
    | true =>
      cases heq
      exact Or.inr (Or.inr ⟨rfl, rfl⟩)
    | false =>
      cases heq
      exact Or.inl ⟨_, rfl, rfl⟩
  | sendUdp =>
    cases succeeded with
    | true =>
      cases heq
      exact Or.inl ⟨_, rfl, rfl⟩
    | false =>
      cases heq
      exact Or.inr (Or.inr ⟨rfl, rfl⟩)
  | connect reference =>
    cases succeeded with
    | true =>
      cases heq
      exact Or.inl ⟨_, rfl, rfl⟩
    | false =>
      cases reference with
      | none =>
        cases heq
        exact Or.inr (Or.inr ⟨rfl, rfl⟩)
      | some reference =>
        cases heq
        exact Or.inr (Or.inl ⟨reference, rfl, rfl⟩)

/-- What a step does before its loop. -/
theorem Kept.enter (h : Kept config registered s) {a : DispatchStep} {next : Option DispatchRequest}
    (henter : enter s a = some (s', next)) :
    ∃ registered', Kept config registered' s' ∧ s'.attempts = s.attempts ∧
      ∀ request, next = some request → ∀ entry, request.startedOn = some entry → entry ∈ registered' := by
  have hends : ∀ registered : List RuntimeEntry, ∀ request, none = some request →
      ∀ entry, DispatchRequest.startedOn request = some entry → entry ∈ registered :=
    fun _ request heq => (Option.some_ne_none request heq.symm).elim
  cases a with
  | engine step =>
    obtain ⟨engine, hengine, heq⟩ := Option.map_eq_some_iff.mp henter
    cases heq
    obtain ⟨registered', hsub, howned⟩ := h.owned.step hengine
    refine ⟨registered', ⟨howned, hsub _ h.first, ?_, h.outbounds⟩, rfl, hends registered'⟩
    exact fun waiting hwaiting entry hentry => hsub _ (h.startedOn waiting hwaiting entry hentry)
  | openTcp candidates =>
    cases henter
    refine ⟨registered, h.perform _, rfl, fun request heq => ?_⟩
    cases heq
    exact h.newRequest _ _
  | sendUdp candidates =>
    cases henter
    refine ⟨registered, h.perform _, rfl, fun request heq => ?_⟩
    cases heq
    exact h.newRequest _ _
  | answer index succeeded =>
    obtain ⟨waiting, hwaiting, hcases⟩ := enter_answer henter
    have hothers : ∀ other ∈ s.requests.eraseIdx index, other ∈ s.requests :=
      fun other hother => List.mem_of_mem_eraseIdx hother
    rcases hcases with ⟨op, rfl, rfl⟩ | ⟨reference, rfl, rfl⟩ | ⟨rfl, rfl⟩
    · exact ⟨registered, (h.perform op).withRequests fun other hother => Or.inl (hothers other hother), rfl,
        hends registered⟩
    · refine ⟨registered, (h.perform _).withRequests fun other hother => ?_, rfl, hends registered⟩
      rcases List.mem_append.mp hother with hold | hnew
      · exact Or.inl (hothers other hold)
      · rw [List.mem_singleton.mp hnew]
        exact Or.inr (h.startedOn waiting hwaiting)
    · refine ⟨registered, h.withRequests fun other hother => Or.inl (hothers other hother), rfl, fun request heq => ?_⟩
      cases heq
      exact h.startedOn waiting hwaiting

end Kept

/-! ## What an attempt comes to -/

/-- The object of a generation. -/
def descriptor (entry : Option RuntimeEntry) : Option Nat := entry.map fun entry => entry.generation.ref

/-- If the active generation has the tag, it is the one that was active at the beginning;
otherwise the engine's own map has for the tag what that one has. -/
def SameGeneration (s : DispatchState) (request : DispatchRequest) (tag : String) : Prop :=
  if (activeOutbound s.registry tag).isSome then
    descriptor request.startedOn = descriptor (s.registry.liveEntry s.registry.activeGenerationId)
  else s.outbounds.get tag = request.startedOn.bind fun entry => entry.outbounds.get tag

/-- The attempt resolves its tag in the generation that was active at the beginning. -/
def DispatchAttempt.Consistent (attempt : DispatchAttempt) : Prop :=
  attempt.outbound = attempt.startedOn.bind fun entry => entry.outbounds.get attempt.tag

/-- The first generation is registered. -/
def InitialLive (s : DispatchState) : Prop := descriptor (s.registry.liveEntry "runtime-outbound-0") = some 1

/-- The loop comes to an object that only the engine's own map has. -/
def UsesOwn (extensions : String → Bool) (s : DispatchState) (request : DispatchRequest) : Prop :=
  match request.kind with
  | .openTcp => ∃ tag ∈ reached s.registry s.outbounds request.candidates,
    activeOutbound s.registry tag = none ∧ (s.outbounds.get tag).isSome
  | .sendUdp => (sender extensions s.outbounds request.candidates).isSome

section Kept

variable {config : SepigsConfig} {registered : List RuntimeEntry} {s : DispatchState}

/-- A registered generation is known by its object. -/
theorem Kept.entry_eq (h : Kept config registered s) {entry other : RuntimeEntry} (hentry : entry ∈ registered)
    (hother : other ∈ registered) (href : entry.generation.ref = other.generation.ref) : entry = other :=
  List.inj_on_of_nodup_map h.owned.owned.lifecycle.refs_nodup hentry hother href

theorem Kept.initialLive_iff (h : Kept config registered s) :
    InitialLive s ↔ s.registry.liveEntry "runtime-outbound-0" = some (firstEntry config) := by
  unfold InitialLive descriptor
  constructor
  · intro hlive
    obtain ⟨entry, hentry, href⟩ := Option.map_eq_some_iff.mp hlive
    have hregistered := h.owned.owned.lifecycle.mem_registered _ _ hentry
    rw [hentry, h.entry_eq hregistered h.first href]
  · intro hlive
    rw [hlive]
    rfl

theorem Kept.consistent_iff (h : Kept config registered s) {request : DispatchRequest}
    (hrequest : ∀ entry, request.startedOn = some entry → entry ∈ registered) (tag : String) :
    DispatchAttempt.Consistent (attemptOn s.registry s.outbounds request.startedOn tag) ↔ SameGeneration s request tag := by
  show resolve s.registry s.outbounds tag = request.startedOn.bind (fun entry => entry.outbounds.get tag) ↔ _
  unfold SameGeneration resolve
  cases hactive : activeOutbound s.registry tag with
  | none => exact Iff.rfl
  | some outbound =>
    obtain ⟨entry, hentry, hlive, hget, hvalue⟩ := h.active hactive
    simp only [Option.some_or, Option.isSome_some, if_true]
    rw [hlive]
    constructor
    · intro hsame
      obtain ⟨old, hold, hgetOld⟩ := Option.bind_eq_some_iff.mp hsame.symm
      have hvalueOld := (old.outbounds.mem_values outbound).mpr ⟨tag, hgetOld⟩
      rw [hold, eq_of_mem_values h.owned.owned.lifecycle.instances_nodup (hrequest old hold) hentry hvalueOld hvalue]
    · intro hsame
      obtain ⟨old, hold, href⟩ := Option.map_eq_some_iff.mp hsame
      rw [hold, h.entry_eq (hrequest old hold) hentry href, Option.bind_some, hget]

/-- An object of the active generation has not been stopped. -/
theorem Kept.active_running (h : Kept config registered s) {tag : String} {outbound : Outbound}
    (hactive : activeOutbound s.registry tag = some outbound) : outbound ∉ s.registry.stopCalls := by
  obtain ⟨entry, -, hlive, -, hvalue⟩ := h.active hactive
  exact h.owned.owned.unstopped hlive outbound hvalue

/-- An object of the engine's own map has been stopped exactly if the first generation is gone. -/
theorem Kept.own_stopped_iff (h : Kept config registered s) {tag : String} {outbound : Outbound}
    (hown : s.outbounds.get tag = some outbound) : outbound ∈ s.registry.stopCalls ↔ ¬ InitialLive s := by
  rw [h.initialLive_iff]
  rw [h.outbounds] at hown
  have hvalue : outbound ∈ (firstEntry config).outbounds.values :=
    ((Engine.buildOutbounds config).mem_values outbound).mpr ⟨tag, hown⟩
  constructor
  · intro hstopped hlive
    exact h.owned.owned.unstopped hlive outbound hvalue hstopped
  · intro hgone
    have hcount : s.registry.stopCalls.count outbound = 1 :=
      h.owned.owned.lifecycle.retired_count (firstEntry config) h.first hgone outbound hvalue
    have hpos : 0 < s.registry.stopCalls.count outbound := by omega
    exact List.count_pos_iff.mp hpos

end Kept

/-! ## Every run -/

section Runs

variable (extensions : String → Bool)

/-- Each attempt of `openTcp` in the step finds its tag in the generation the request began with. -/
def KeepsGeneration (s : DispatchState) (a : DispatchStep) : Prop :=
  ∀ entered ∈ enter s a, ∀ request ∈ entered.2, request.kind = .openTcp →
    ∀ tag ∈ reached entered.1.registry entered.1.outbounds request.candidates, SameGeneration entered.1 request tag

/-- If the step comes to an object that only the engine's own map has, the first generation is
registered. -/
def KeepsOwn (s : DispatchState) (a : DispatchStep) : Prop :=
  ∀ entered ∈ enter s a, ∀ request ∈ entered.2, UsesOwn extensions entered.1 request → InitialLive entered.1

instance (s : DispatchState) (request : DispatchRequest) (tag : String) : Decidable (SameGeneration s request tag) :=
  inferInstanceAs (Decidable (if (activeOutbound s.registry tag).isSome then
    descriptor request.startedOn = descriptor (s.registry.liveEntry s.registry.activeGenerationId)
  else s.outbounds.get tag = request.startedOn.bind fun entry => entry.outbounds.get tag))

instance (s : DispatchState) (request : DispatchRequest) : Decidable (UsesOwn extensions s request) :=
  match h : request.kind with
  | .openTcp => decidable_of_iff (∃ tag ∈ reached s.registry s.outbounds request.candidates,
      activeOutbound s.registry tag = none ∧ (s.outbounds.get tag).isSome) (by unfold UsesOwn; rw [h])
  | .sendUdp => decidable_of_iff ((sender extensions s.outbounds request.candidates).isSome) (by unfold UsesOwn; rw [h])

instance (s : DispatchState) (a : DispatchStep) : Decidable (KeepsGeneration s a) :=
  inferInstanceAs (Decidable (∀ entered ∈ enter s a, ∀ request ∈ entered.2, request.kind = .openTcp →
    ∀ tag ∈ reached entered.1.registry entered.1.outbounds request.candidates, SameGeneration entered.1 request tag))

instance (s : DispatchState) : Decidable (InitialLive s) :=
  inferInstanceAs (Decidable (descriptor (s.registry.liveEntry "runtime-outbound-0") = some 1))

instance (s : DispatchState) (a : DispatchStep) : Decidable (KeepsOwn extensions s a) :=
  inferInstanceAs (Decidable (∀ entered ∈ enter s a, ∀ request ∈ entered.2,
    UsesOwn extensions entered.1 request → InitialLive entered.1))

def AllConsistent (s : DispatchState) : Prop :=
  ∀ attempt ∈ s.attempts, attempt.kind = .openTcp → DispatchAttempt.Consistent attempt

def NoneStopped (s : DispatchState) : Prop := ∀ attempt ∈ s.attempts, attempt.stopped = false

variable {config : SepigsConfig} {extensions} {registered : List RuntimeEntry} {s : DispatchState}
  {request : DispatchRequest}

/-- The attempts a loop adds. -/
theorem proceed_attempts (extensions : String → Bool) (s : DispatchState) (request : DispatchRequest) :
    (proceed extensions s request).attempts = s.attempts ++
      match request.kind with
      | .openTcp => (reached s.registry s.outbounds request.candidates).map
          (attemptOn s.registry s.outbounds request.startedOn)
      | .sendUdp => (sender extensions s.outbounds request.candidates).toList.map fun found =>
          ⟨.sendUdp, found.1, some found.2, request.startedOn, found.2 ∈ s.registry.stopCalls⟩ := by
  unfold proceed
  rw [← tryConnect_attempts, ← (trySend_spec s.registry s.outbounds request.startedOn extensions _).2]
  simp only []
  split
  · cases request.kind with
    | openTcp => rfl
    | sendUdp => rfl
  · cases request.kind with
    | openTcp => rfl
    | sendUdp => rfl

theorem Kept.proceed_consistent_iff (h : Kept config registered s)
    (hrequest : ∀ entry, request.startedOn = some entry → entry ∈ registered) :
    AllConsistent (Dispatch.proceed extensions s request) ↔ AllConsistent s ∧ (request.kind = .openTcp →
      ∀ tag ∈ reached s.registry s.outbounds request.candidates, SameGeneration s request tag) := by
  unfold AllConsistent
  rw [proceed_attempts]
  cases hkind : request.kind with
  | openTcp =>
    simp only [List.forall_mem_append, List.forall_mem_map]
    refine and_congr_right fun _ => ⟨fun hall _ tag htag => ?_, fun hall tag htag _ => ?_⟩
    · exact (h.consistent_iff hrequest tag).mp (hall tag htag rfl)
    · exact (h.consistent_iff hrequest tag).mpr (hall trivial tag htag)
  | sendUdp =>
    simp only [List.forall_mem_append, List.forall_mem_map]
    refine and_congr_right fun _ => ⟨fun _ hkind' => ?_, fun _ found _ hkind' => ?_⟩
    · cases hkind'
    · cases hkind'

theorem Kept.proceed_noneStopped_iff (h : Kept config registered s) :
    NoneStopped (Dispatch.proceed extensions s request) ↔
      NoneStopped s ∧ (UsesOwn extensions s request → InitialLive s) := by
  unfold NoneStopped UsesOwn
  rw [proceed_attempts]
  cases hkind : request.kind with
  | openTcp =>
    simp only [List.forall_mem_append, List.forall_mem_map]
    refine and_congr_right fun _ => ⟨?_, fun hlive tag htag => ?_⟩
    · rintro hall ⟨tag, htag, hmissing, hown⟩
      obtain ⟨outbound, hget⟩ := Option.isSome_iff_exists.mp hown
      have hrunning : (resolve s.registry s.outbounds tag).any (fun o => decide (o ∈ s.registry.stopCalls)) = false :=
        hall tag htag
      unfold resolve at hrunning
      rw [hmissing, Option.none_or, hget, Option.any_some] at hrunning
      by_contra hgone
      exact of_decide_eq_false hrunning ((h.own_stopped_iff hget).mpr hgone)
    · show (resolve s.registry s.outbounds tag).any (fun o => decide (o ∈ s.registry.stopCalls)) = false
      unfold resolve
      cases hactive : activeOutbound s.registry tag with
      | some outbound =>
        rw [Option.some_or, Option.any_some]
        exact decide_eq_false (h.active_running hactive)
      | none =>
        rw [Option.none_or]
        cases hget : s.outbounds.get tag with
        | none => rfl
        | some outbound =>
          have hinitial := hlive ⟨tag, htag, hactive, by rw [hget]; rfl⟩
          rw [Option.any_some]
          exact decide_eq_false fun hstopped => (h.own_stopped_iff hget).mp hstopped hinitial
  | sendUdp =>
    simp only [List.forall_mem_append, List.forall_mem_map]
    refine and_congr_right fun _ => ?_
    cases hsender : sender extensions s.outbounds request.candidates with
    | none => simp
    | some found =>
      obtain ⟨tag, -, hfound⟩ := List.exists_of_findSome?_eq_some hsender
      obtain ⟨outbound, hfilter, rfl⟩ := Option.map_eq_some_iff.mp hfound
      have hget := (Option.filter_eq_some_iff.mp hfilter).1
      simp only [Option.toList_some, List.forall_mem_singleton, decide_eq_false_iff_not, Option.isSome_some,
        forall_const, h.own_stopped_iff hget, not_not]

variable {s' : DispatchState} {a : DispatchStep}

/-- **Every step** keeps the invariant, and what its attempts come to depends on the state
before them. -/
theorem Kept.step (h : Kept config registered s) (hstep : step extensions s a = some s') :
    ∃ registered', Kept config registered' s' ∧ (AllConsistent s' ↔ AllConsistent s ∧ KeepsGeneration s a) ∧
      (NoneStopped s' ↔ NoneStopped s ∧ KeepsOwn extensions s a) := by
  obtain ⟨⟨entered, request⟩, henter, heq⟩ := Option.map_eq_some_iff.mp hstep
  obtain ⟨registered', hkept, hattempts, hrequest⟩ := h.enter henter
  have hconsistent : AllConsistent entered ↔ AllConsistent s := by
    unfold AllConsistent
    rw [hattempts]
  have hstopped : NoneStopped entered ↔ NoneStopped s := by
    unfold NoneStopped
    rw [hattempts]
  unfold KeepsGeneration KeepsOwn
  simp only [henter, Option.mem_def, Option.some.injEq, forall_eq']
  cases request with
  | none =>
    cases heq
    refine ⟨registered', hkept, ?_, ?_⟩
    · simpa using hconsistent
    · simpa using hstopped
  | some request =>
    cases heq
    refine ⟨registered', hkept.proceed extensions (hrequest request rfl), ?_, ?_⟩
    · simp only [Option.some.injEq, forall_eq']
      rw [hkept.proceed_consistent_iff (hrequest request rfl), hconsistent]
    · simp only [Option.some.injEq, forall_eq']
      rw [hkept.proceed_noneStopped_iff, hstopped]

theorem kept_start {host : RuntimeHost} (hbuild : Engine.build config = .ok host) :
    Kept config [firstEntry config] (start config host) where
  owned := ⟨(Engine.settled_of_build hbuild).2, fun _ hreload => absurd hreload List.not_mem_nil⟩
  first := List.mem_singleton_self _
  startedOn _ hwaiting := absurd hwaiting List.not_mem_nil
  outbounds := rfl

/-- **One generation for a request.**  Along a run, all attempts of `openTcp` are made in the
generation that was active when their request began, exactly if each step keeps to it. -/
theorem one_generation_iff {config : SepigsConfig} {host : RuntimeHost} {extensions : String → Bool}
    {steps : List DispatchStep} {t : DispatchState} (hbuild : Engine.build config = .ok host)
    (hrun : (system extensions).run (start config host) steps = some t) :
    (system extensions).Throughout AllConsistent (start config host) steps ↔
      (system extensions).Along KeepsGeneration (start config host) steps := by
  refine (system extensions).throughout_iff_along (I := fun s => ∃ registered, Kept config registered s)
    (G := fun _ _ => True) ?_ ?_ steps (start config host) t ⟨_, kept_start hbuild⟩
    (fun _ hattempt => absurd hattempt List.not_mem_nil) ((system extensions).along_true _ _) hrun
  · rintro s a s' ⟨registered, hkept⟩ - hstep
    obtain ⟨registered', hkept', -⟩ := hkept.step hstep
    exact ⟨registered', hkept'⟩
  · rintro s a s' ⟨registered, hkept⟩ hP - hstep
    obtain ⟨-, -, hiff, -⟩ := hkept.step hstep
    exact hiff.trans (and_iff_right hP)

/-- **No stopped outbound.**  Along a run, nothing is dispatched to an outbound that was stopped,
exactly if what only the engine's own map has is used no longer than the first generation is
registered. -/
theorem none_stopped_iff {config : SepigsConfig} {host : RuntimeHost} {extensions : String → Bool}
    {steps : List DispatchStep} {t : DispatchState} (hbuild : Engine.build config = .ok host)
    (hrun : (system extensions).run (start config host) steps = some t) :
    (system extensions).Throughout NoneStopped (start config host) steps ↔
      (system extensions).Along (KeepsOwn extensions) (start config host) steps := by
  refine (system extensions).throughout_iff_along (I := fun s => ∃ registered, Kept config registered s)
    (G := fun _ _ => True) ?_ ?_ steps (start config host) t ⟨_, kept_start hbuild⟩
    (fun _ hattempt => absurd hattempt List.not_mem_nil) ((system extensions).along_true _ _) hrun
  · rintro s a s' ⟨registered, hkept⟩ - hstep
    obtain ⟨registered', hkept', -⟩ := hkept.step hstep
    exact ⟨registered', hkept'⟩
  · rintro s a s' ⟨registered, hkept⟩ hP - hstep
    obtain ⟨-, -, -, hiff⟩ := hkept.step hstep
    exact hiff.trans (and_iff_right hP)

end Runs

/-! ## A reload that adds an outbound -/

/-- Runs the engine of a config, whose plugins have no outbounds, and looks at the run. -/
def checkRun (config : SepigsConfig) (steps : List DispatchStep) (P : DispatchState → DispatchState → Bool) : Bool :=
  match Engine.build config with
  | .ok host => ((system fun _ => false).run (start config host) steps).any (P (start config host))
  | .error _ => false

theorem exists_run_of_check (config : SepigsConfig) (steps : List DispatchStep)
    (P : DispatchState → DispatchState → Bool) (h : checkRun config steps P = true) :
    ∃ host t, Engine.build config = .ok host ∧
      (system fun _ => false).run (start config host) steps = some t ∧ P (start config host) t = true := by
  unfold checkRun at h
  cases hbuild : Engine.build config with
  | error e =>
    rw [hbuild] at h
    cases h
  | ok host =>
    rw [hbuild] at h
    obtain ⟨t, hrun, hP⟩ := Option.any_eq_true _ _ |>.mp h
    exact ⟨host, t, rfl, hrun, hP⟩

/-- `"b"` beside the outbound that is there. -/
def withB (settings : StableJson) : SepigsConfig :=
  { Engine.directConfig "a" with outbounds := [⟨"a", .direct, "{}"⟩, ⟨"b", .direct, settings⟩] }

/-- One reload from beginning to end. -/
def reloadTo (config : SepigsConfig) : List DispatchStep :=
  .engine (.reloadConfig config 0) :: List.replicate 8 (.engine (.resume 0 ⟨false, none, false, 0, 0⟩))

/-- After a reload, a datagram goes to the outbound that the registry has retired. -/
theorem retired_outbound_used : ∃ host t, Engine.build (Engine.directConfig "a") = .ok host ∧
    (system fun _ => false).run (start (Engine.directConfig "a") host) (reloadTo (withB "{}") ++ [.sendUdp ["a"]]) =
      some t ∧ ¬ NoneStopped t := by
  obtain ⟨host, t, hbuild, hrun, hstopped⟩ := exists_run_of_check (Engine.directConfig "a")
    (reloadTo (withB "{}") ++ [.sendUdp ["a"]]) (fun _ t => t.attempts.any fun attempt => attempt.stopped)
    (by decide +kernel)
  refine ⟨host, t, hbuild, hrun, fun hnone => ?_⟩
  obtain ⟨attempt, hattempt, htrue⟩ := List.any_eq_true.mp hstopped
  rw [hnone attempt hattempt] at htrue
  cases htrue

/-- A request that began before a reload makes its second attempt after it. -/
def failover : List DispatchStep :=
  [.openTcp ["a", "b"]] ++ reloadTo (withB "{changed}") ++ [.answer 0 false, .answer 0 true]

theorem second_generation_used : ∃ host t, Engine.build (withB "{}") = .ok host ∧
    (system fun _ => false).run (start (withB "{}") host) failover = some t ∧ ¬ AllConsistent t := by
  obtain ⟨host, t, hbuild, hrun, hother⟩ := exists_run_of_check (withB "{}") failover
    (fun _ t => t.attempts.any fun attempt => attempt.kind = .openTcp ∧
      attempt.outbound ≠ attempt.startedOn.bind fun entry => entry.outbounds.get attempt.tag) (by decide +kernel)
  refine ⟨host, t, hbuild, hrun, fun hall => ?_⟩
  obtain ⟨attempt, hattempt, hdiffers⟩ := List.any_eq_true.mp hother
  obtain ⟨hkind, hne⟩ := of_decide_eq_true hdiffers
  exact hne (hall attempt hattempt hkind)

/-- Requests before and after a reload. -/
def inTurn : List DispatchStep :=
  [.openTcp ["a"], .sendUdp ["a"], .answer 0 true] ++ reloadTo (withB "{}") ++ [.openTcp ["b"]]

theorem one_generation_inTurn : ∃ host t, Engine.build (Engine.directConfig "a") = .ok host ∧
    (system fun _ => false).run (start (Engine.directConfig "a") host) inTurn = some t ∧
    (system fun _ => false).Throughout AllConsistent (start (Engine.directConfig "a") host) inTurn := by
  obtain ⟨host, t, hbuild, hrun, halong⟩ := exists_run_of_check (Engine.directConfig "a") inTurn
    (fun s _ => (system fun _ => false).Along KeepsGeneration s inTurn) (by decide +kernel)
  exact ⟨host, t, hbuild, hrun, (one_generation_iff hbuild hrun).mpr (of_decide_eq_true halong)⟩

theorem none_stopped_inTurn : ∃ host t, Engine.build (Engine.directConfig "a") = .ok host ∧
    (system fun _ => false).run (start (Engine.directConfig "a") host) inTurn = some t ∧
    (system fun _ => false).Throughout NoneStopped (start (Engine.directConfig "a") host) inTurn := by
  obtain ⟨host, t, hbuild, hrun, halong⟩ := exists_run_of_check (Engine.directConfig "a") inTurn
    (fun s _ => (system fun _ => false).Along (KeepsOwn fun _ => false) s inTurn)
    (by decide +kernel)
  exact ⟨host, t, hbuild, hrun, (none_stopped_iff hbuild hrun).mpr (of_decide_eq_true halong)⟩

end Dispatch

end Sepigs
