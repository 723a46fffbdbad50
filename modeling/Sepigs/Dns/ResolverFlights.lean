import Sepigs.Dns.Resolver

/-!
# Flights belong to a generation (`dns/singleFlight.ts`, `dns/resolver.ts`)

`Sound` says of every generation that its table is sound and that its lookups captured it, and
of every call that it ends with the outcome of the flight it joined.  Each step keeps it and
leaves the flights there, each at most one step further (`step_sound`).

`single_flight_scoped`: in every run a generation has at most one unsettled flight for a
normalised host, its callers all see the one outcome, a flight leaves the table when it
settles, and a lookup writes only into the caches of the generation that started it.
-/

namespace Sepigs

/-! ## The store -/

namespace DNSGenerationStore

theorem inFlight_setState (store : DNSGenerationStore) (generation : DNSGeneration)
    {f : DnsGenerationRuntimeState → DnsGenerationRuntimeState}
    (hf : ∀ state, (f state).inFlight = state.inFlight) (g : Nat) :
    ((store.setState generation f).state g).inFlight = (store.state g).inFlight := by
  show (Function.update store.state _ _ g).inFlight = _
  by_cases heq : g = generation.ref
  · rw [heq, Function.update_self, hf]
  · rw [Function.update_of_ne heq]

theorem inFlight_acquire (store : DNSGenerationStore) (g : Nat) :
    (store.acquire.2.state g).inFlight = (store.state g).inFlight :=
  inFlight_setState store store.activeGeneration
    (f := fun state => { state with queryRefs := state.queryRefs + 1 }) (fun _ => rfl) g

theorem inFlight_release (store : DNSGenerationStore) (generation : DNSGeneration) (g : Nat) :
    ((store.release generation).state g).inFlight = (store.state g).inFlight :=
  inFlight_setState store generation
    (f := fun state => { state with queryRefs := state.queryRefs - 1 }) (fun _ => rfl) g

theorem inFlight_markDraining (store : DNSGenerationStore) (generation : DNSGeneration) (g : Nat) :
    ((store.markDraining generation).state g).inFlight = (store.state g).inFlight := by
  refine inFlight_setState store _ ?_ g
  intro state
  rfl

theorem inFlight_markActive (store : DNSGenerationStore) (generation : DNSGeneration) (g : Nat) :
    ((store.markActive generation).state g).inFlight = (store.state g).inFlight := by
  refine inFlight_setState store _ ?_ g
  intro state
  rfl

theorem inFlight_switchTo (store : DNSGenerationStore) (candidate : DNSGeneration) (g : Nat) :
    ((store.switchTo candidate).state g).inFlight = (store.state g).inFlight :=
  (inFlight_markActive _ candidate g).trans (inFlight_markDraining store _ g)

theorem inFlight_restore (store : DNSGenerationStore) (old candidate : DNSGeneration) (g : Nat) :
    ((store.restore old candidate).state g).inFlight = (store.state g).inFlight :=
  (inFlight_markActive _ old g).trans (inFlight_markDraining store candidate g)

end DNSGenerationStore

/-! ## What a generation object keeps -/

namespace ResolverGeneration

variable (toLowerCase : String → String)

theorem known_eq (self : ResolverGeneration) (normalizedHost : String) (now : Nat) :
    ∃ caches, (self.known toLowerCase normalizedHost now).2 = { self with caches := caches } := by
  unfold known
  cases self.config.hosts.get normalizedHost with
  | some staticHost => exact ⟨self.caches, rfl⟩
  | none =>
    cases self.caches.getPositive toLowerCase normalizedHost now with
    | mk positive caches =>
      cases positive with
      | some positive => exact ⟨caches, rfl⟩
      | none =>
        dsimp only
        cases caches.getNegative toLowerCase normalizedHost now with
        | mk negative caches =>
          cases negative with
          | some negative => exact ⟨caches, rfl⟩
          | none => exact ⟨caches, rfl⟩

theorem lookupFailed_eq (self : ResolverGeneration) (normalizedHost : String) (aborted : Bool)
    (error : DnsError) (now : Nat) :
    ∃ caches, (self.lookupFailed toLowerCase normalizedHost aborted error now).2 =
      { self with caches := caches } := by
  unfold lookupFailed
  split
  · exact ⟨self.caches, rfl⟩
  · cases self.config.fallbackHosts.get normalizedHost with
    | some fallback => exact ⟨self.caches, rfl⟩
    | none =>
      dsimp only
      split
      · exact ⟨_, rfl⟩
      · exact ⟨self.caches, rfl⟩

theorem lookupAnswered_eq (self : ResolverGeneration) (host normalizedHost : String) (aborted : Bool)
    (answer : Except DnsError DnsAResult) (now : Nat) :
    ∃ caches, (self.lookupAnswered toLowerCase host normalizedHost aborted answer now).2 =
      { self with caches := caches } := by
  unfold lookupAnswered
  cases answer with
  | error error => exact self.lookupFailed_eq toLowerCase normalizedHost aborted error now
  | ok result =>
    cases self.upstream normalizedHost with
    | doh => exact ⟨_, rfl⟩
    | udp server => exact ⟨_, rfl⟩
    | system =>
      dsimp only
      split
      · exact self.lookupFailed_eq toLowerCase normalizedHost aborted _ now
      · exact ⟨_, rfl⟩

theorem carryOver_eq (self : ResolverGeneration) (positiveEntries negativeEntries : List DnsCacheEntry) :
    ∃ caches, self.carryOver toLowerCase positiveEntries negativeEntries =
      { self with caches := caches } := by
  have hfold (set : ResolverGeneration → DnsCacheEntry → ResolverGeneration)
      (hset : ∀ self entry, ∃ caches, set self entry = { self with caches := caches })
      (entries : List DnsCacheEntry) :
      ∀ self : ResolverGeneration, ∃ caches, entries.foldl set self = { self with caches := caches } := by
    induction entries with
    | nil =>
      intro self
      exact ⟨self.caches, rfl⟩
    | cons entry rest ih =>
      intro self
      obtain ⟨caches, hcaches⟩ := hset self entry
      obtain ⟨caches', hcaches'⟩ := ih (set self entry)
      refine ⟨caches', ?_⟩
      rw [List.foldl_cons, hcaches', hcaches]
  obtain ⟨caches, hcaches⟩ := hfold (setPositive toLowerCase) (fun _ _ => ⟨_, rfl⟩) positiveEntries self
  obtain ⟨caches', hcaches'⟩ := hfold (setNegative toLowerCase) (fun _ _ => ⟨_, rfl⟩) negativeEntries
    (positiveEntries.foldl (setPositive toLowerCase) self)
  refine ⟨caches', ?_⟩
  unfold carryOver
  rw [hcaches', hcaches]

/-- The object with the identity `g`: its table is sound, and its lookups captured it, each
under the key of its host. -/
structure Owned (g : Nat) (object : ResolverGeneration) : Prop where
  ref : object.generation.ref = g
  table : object.singleFlight.Sound
  lookups : ∀ (i : Nat) (flight : Flight Lookup String),
    object.singleFlight.flights[i]? = some flight → flight.operation.generation = g ∧
      flight.scopedKey = object.singleFlight.scopedKey s!"A:{flight.operation.normalizedHost}"

theorem Owned.withCaches {g : Nat} {self : ResolverGeneration} (h : Owned g self) (caches : DnsCaches) :
    Owned g { self with caches := caches } := ⟨h.ref, h.table, h.lookups⟩

/-- A change of one flight that leaves its lookup to its generation and host. -/
theorem Owned.update {g : Nat} {self : ResolverGeneration} (h : Owned g self) (i : Nat)
    {f : Flight Lookup String → Flight Lookup String}
    (hf : ∀ flight, flight.Later (f flight) ∧ (f flight).settled = flight.settled)
    (hlookup : ∀ flight, (f flight).operation.generation = flight.operation.generation ∧
      (f flight).operation.normalizedHost = flight.operation.normalizedHost) :
    Owned g { self with singleFlight := self.singleFlight.update i f } where
  ref := h.ref
  table := h.table.update hf
  lookups := by
    intro j flight' hflight'
    have hkey : ∀ key, (self.singleFlight.update i f).scopedKey key = self.singleFlight.scopedKey key := by
      intro key
      unfold GenerationSingleFlight.scopedKey
      rw [GenerationSingleFlight.generationId_update]
    rw [hkey]
    change (self.singleFlight.update i f).flights[j]? = some flight' at hflight'
    rw [GenerationSingleFlight.flights_update] at hflight'
    split at hflight'
    · obtain ⟨flight, hflight, rfl⟩ := Option.map_eq_some_iff.mp hflight'
      rw [(hlookup flight).1, (hlookup flight).2, (hf flight).1.scopedKey]
      exact h.lookups j flight hflight
    · exact h.lookups j flight' hflight'

theorem Owned.settle {g : Nat} {self : ResolverGeneration} (h : Owned g self) {i : Nat}
    {flight : Flight Lookup String} (hflight : self.singleFlight.flights[i]? = some flight)
    (hunsettled : flight.settled = false) (houtcome : flight.outcome.isSome = true) :
    Owned g { self with singleFlight := self.singleFlight.settle i } where
  ref := h.ref
  table := h.table.settle hflight hunsettled houtcome
  lookups := by
    intro j flight' hflight'
    have hkey : ∀ key, (self.singleFlight.settle i).scopedKey key = self.singleFlight.scopedKey key := by
      intro key
      unfold GenerationSingleFlight.scopedKey
      rw [GenerationSingleFlight.generationId_settle]
    rw [hkey]
    change (self.singleFlight.settle i).flights[j]? = some flight' at hflight'
    rw [GenerationSingleFlight.flights_settle] at hflight'
    split at hflight'
    · obtain ⟨earlier, hearlier, rfl⟩ := Option.map_eq_some_iff.mp hflight'
      exact h.lookups j earlier hearlier
    · exact h.lookups j flight' hflight'

theorem Owned.abortAll {g : Nat} {self : ResolverGeneration} (h : Owned g self) :
    Owned g { self with singleFlight := self.singleFlight.abortAll } :=
  GenerationSingleFlight.abortAll_spec (fun table => Owned g { self with singleFlight := table })
    self.singleFlight
    (fun table i howned => howned.update i
      (fun flight => ⟨flight.later_abort table.generationId, rfl⟩) fun _ => ⟨rfl, rfl⟩) h

theorem Owned.run {g : Nat} {self : ResolverGeneration} (h : Owned g self) (host normalizedHost : String)
    (timeoutMs : Option Nat) :
    Owned g { self with singleFlight := (self.singleFlight.run s!"A:{normalizedHost}"
      ⟨g, host, normalizedHost, none⟩ timeoutMs).2 } where
  ref := h.ref
  table := h.table.run _ _ _
  lookups := by
    intro i flight hflight
    rcases self.singleFlight.run_cases s!"A:{normalizedHost}" ⟨g, host, normalizedHost, none⟩ timeoutMs
      with ⟨j, -, hrun⟩ | ⟨-, hrun⟩
    · rw [hrun] at hflight ⊢
      exact h.lookups i flight hflight
    · rw [hrun] at hflight ⊢
      rcases List.mem_append.mp (List.mem_of_getElem? hflight) with hold | hnew
      · obtain ⟨k, hk⟩ := List.getElem?_of_mem hold
        exact h.lookups k flight hk
      · obtain rfl := List.mem_singleton.mp hnew
        exact ⟨rfl, rfl⟩

theorem owned_create (generation : DNSGeneration) (config : DnsResolverConfig) :
    Owned generation.ref (create generation config) where
  ref := rfl
  table := GenerationSingleFlight.sound_create _
  lookups := by
    intro i flight hflight
    cases hflight

end ResolverGeneration

/-! ## The invariant -/

namespace SystemDnsResolver

open ResolverGeneration

structure Sound (s : SystemDnsResolver) : Prop where
  owned : ∀ g, ResolverGeneration.Owned g (s.generations g)
  inFlight : ∀ g, (s.store.state g).inFlight = (s.generations g).singleFlight.size
  fresh : ∀ g, s.created ≤ g → (s.generations g).singleFlight.flights = []
  active : s.store.activeGeneration.ref < s.created
  calls : ∀ (c : Nat) (call : ResolveCall) (g i : Nat), s.calls[c]? = some call →
    call.flight = some (g, i) → ∃ flight, s.flight g i = some flight ∧
      ∀ result, call.result = some result → flight.outcome = some result

/-- What a label may do: to which flights, and to which generations. -/
structure Effects where
  settling : Nat → Nat → Prop
  starting : Nat → Prop
  writing : Nat → Prop

/-- Every flight is still there, in a later state; flights settle and start, and caches
change, only where the effects say so. -/
structure Later (effects : Effects) (s s' : SystemDnsResolver) : Prop where
  tables : ∀ g, GenerationSingleFlight.Since (effects.settling g) (effects.starting g)
    (s.generations g).singleFlight (s'.generations g).singleFlight
  caches : ∀ g, (s'.generations g).caches = (s.generations g).caches ∨ effects.writing g

theorem Later.refl {effects : Effects} (s : SystemDnsResolver) : Later effects s s :=
  ⟨fun g => .refl (s.generations g).singleFlight, fun _ => Or.inl rfl⟩

theorem Later.trans {effects : Effects} {a b c : SystemDnsResolver}
    (h : Later effects a b) (h' : Later effects b c) : Later effects a c where
  tables := fun g => (h.tables g).trans (h'.tables g)
  caches := by
    intro g
    rcases h.caches g with heq | hwriting
    · rw [← heq]
      exact h'.caches g
    · exact Or.inr hwriting

theorem Later.flight {effects : Effects} {s s' : SystemDnsResolver}
    (h : Later effects s s') {g i : Nat} {flight : Flight Lookup String}
    (hflight : s.flight g i = some flight) :
    ∃ flight', s'.flight g i = some flight' ∧ flight.Later flight' ∧
      (flight'.settled = flight.settled ∨ effects.settling g i) :=
  (h.tables g).flights i flight hflight

theorem sound_create (dns : DnsConfig) (config : DnsResolverConfig) : (create dns config).Sound where
  owned := fun g => owned_create ⟨g, "dns-generation-0", 0, dns⟩ config
  inFlight := fun _ => rfl
  fresh := fun _ _ => rfl
  active := Nat.zero_lt_one
  calls := by
    intro c call g i hcall
    cases hcall

variable {s : SystemDnsResolver}

/-- Only the counters of handles, the marks and the map of the store change. -/
theorem Sound.withStore (h : s.Sound) {store : DNSGenerationStore}
    (hinFlight : ∀ g, (store.state g).inFlight = (s.store.state g).inFlight)
    (hactive : store.activeGeneration.ref < s.created) :
    ({ s with store := store } : SystemDnsResolver).Sound where
  owned := h.owned
  inFlight := fun g => (hinFlight g).trans (h.inFlight g)
  fresh := h.fresh
  active := hactive
  calls := h.calls

theorem Sound.newCall (h : s.Sound) {call : ResolveCall}
    (hcall : ∀ g i, call.flight = some (g, i) → call.result = none ∧ ∃ flight, s.flight g i = some flight) :
    (s.newCall call).Sound where
  owned := h.owned
  inFlight := h.inFlight
  fresh := h.fresh
  active := h.active
  calls := by
    intro c call' g i hc hflight
    rcases List.mem_append.mp (List.mem_of_getElem? hc) with hold | hnew
    · obtain ⟨d, hd⟩ := List.getElem?_of_mem hold
      exact h.calls d call' g i hd hflight
    · obtain rfl := List.mem_singleton.mp hnew
      obtain ⟨hnone, flight, hsome⟩ := hcall g i hflight
      refine ⟨flight, hsome, ?_⟩
      intro result hresult
      rw [hnone] at hresult
      cases hresult

section SetGeneration

variable {g : Nat} {generation : ResolverGeneration} {effects : Effects}

theorem generations_setGeneration_self (howned : ResolverGeneration.Owned g generation) :
    (s.setGeneration generation).generations g = generation := by
  show Function.update s.generations generation.generation.ref generation g = generation
  rw [howned.ref, Function.update_self]

theorem generations_setGeneration_of_ne (howned : ResolverGeneration.Owned g generation) {g' : Nat}
    (hne : g' ≠ g) :
    (s.setGeneration generation).generations g' = s.generations g' := by
  show Function.update s.generations generation.generation.ref generation g' = s.generations g'
  rw [howned.ref, Function.update_of_ne hne]

theorem later_setGeneration (howned : ResolverGeneration.Owned g generation)
    (hsince : GenerationSingleFlight.Since (effects.settling g) (effects.starting g)
      (s.generations g).singleFlight generation.singleFlight)
    (hcaches : generation.caches = (s.generations g).caches ∨ effects.writing g) :
    Later effects s (s.setGeneration generation) where
  tables := by
    intro g'
    by_cases heq : g' = g
    · subst heq
      rw [generations_setGeneration_self howned]
      exact hsince
    · rw [generations_setGeneration_of_ne howned heq]
      exact .refl _
  caches := by
    intro g'
    by_cases heq : g' = g
    · subst heq
      rw [generations_setGeneration_self howned]
      exact hcaches
    · rw [generations_setGeneration_of_ne howned heq]
      exact Or.inl rfl

/-- One generation object changes. -/
theorem Sound.setGeneration (h : s.Sound) (howned : ResolverGeneration.Owned g generation)
    (hsince : GenerationSingleFlight.Since (effects.settling g) (effects.starting g)
      (s.generations g).singleFlight generation.singleFlight)
    (hstarting : effects.starting g → g < s.created) : (s.setGeneration generation).Sound where
  owned := by
    intro g'
    by_cases heq : g' = g
    · subst heq
      rw [generations_setGeneration_self howned]
      exact howned
    · rw [generations_setGeneration_of_ne howned heq]
      exact h.owned g'
  inFlight := by
    intro g'
    show (Function.update s.store.state generation.generation.ref _ g').inFlight = _
    by_cases heq : g' = g
    · subst heq
      rw [generations_setGeneration_self howned, howned.ref, Function.update_self]
    · rw [generations_setGeneration_of_ne howned heq, howned.ref, Function.update_of_ne heq]
      exact h.inFlight g'
  fresh := by
    intro g' hle
    by_cases heq : g' = g
    · subst heq
      rw [generations_setGeneration_self howned]
      rcases hsince.started with hlength | hnew
      · rw [h.fresh g' hle] at hlength
        exact List.length_eq_zero_iff.mp hlength
      · exact absurd (hstarting hnew) (Nat.not_lt.mpr hle)
    · rw [generations_setGeneration_of_ne howned heq]
      exact h.fresh g' hle
  active := h.active
  calls := by
    intro c call g' i hc hcall
    obtain ⟨flight, hflight, hresult⟩ := h.calls c call g' i hc hcall
    by_cases heq : g' = g
    · subst heq
      obtain ⟨flight', hflight', hlater, -⟩ := hsince.flights i flight hflight
      refine ⟨flight', ?_, fun result heq => hlater.outcome result (hresult result heq)⟩
      show ((s.setGeneration generation).generations g').singleFlight.flights[i]? = some flight'
      rw [generations_setGeneration_self howned]
      exact hflight'
    · refine ⟨flight, ?_, hresult⟩
      show ((s.setGeneration generation).generations g').singleFlight.flights[i]? = some flight
      rw [generations_setGeneration_of_ne howned heq]
      exact hflight

end SetGeneration

/-! ## Steps -/

/-- A step keeps the invariant and has no other effects. -/
structure Steps (effects : Effects) (s s' : SystemDnsResolver) : Prop where
  sound : s'.Sound
  later : Later effects s s'

theorem Steps.trans {effects : Effects} {a b c : SystemDnsResolver} (h : Steps effects a b)
    (h' : Steps effects b c) : Steps effects a c := ⟨h'.sound, h.later.trans h'.later⟩

theorem Sound.step_setGeneration (h : s.Sound) {effects : Effects} {g : Nat}
    {generation : ResolverGeneration} (howned : ResolverGeneration.Owned g generation)
    (hsince : GenerationSingleFlight.Since (effects.settling g) (effects.starting g)
      (s.generations g).singleFlight generation.singleFlight)
    (hcaches : generation.caches = (s.generations g).caches ∨ effects.writing g)
    (hstarting : effects.starting g → g < s.created) : Steps effects s (s.setGeneration generation) :=
  ⟨h.setGeneration howned hsince hstarting, later_setGeneration howned hsince hcaches⟩

/-- A change of the table of a generation. -/
theorem Sound.updateFlights (h : s.Sound) {effects : Effects} {g : Nat}
    {f : GenerationSingleFlight Lookup String → GenerationSingleFlight Lookup String}
    (howned : ResolverGeneration.Owned g
      { s.generations g with singleFlight := f (s.generations g).singleFlight })
    (hsince : GenerationSingleFlight.Since (effects.settling g) (effects.starting g)
      (s.generations g).singleFlight (f (s.generations g).singleFlight))
    (hstarting : effects.starting g → g < s.created) : Steps effects s (s.updateFlights g f) :=
  h.step_setGeneration howned hsince (Or.inl rfl) hstarting

/-- A change of one flight that leaves its lookup to its generation and host. -/
theorem Sound.updateFlight (h : s.Sound) {effects : Effects} {g : Nat} (i : Nat)
    {f : Flight Lookup String → Flight Lookup String}
    (hf : ∀ flight, flight.Later (f flight) ∧ (f flight).settled = flight.settled)
    (hlookup : ∀ flight, (f flight).operation.generation = flight.operation.generation ∧
      (f flight).operation.normalizedHost = flight.operation.normalizedHost)
    (hstarting : effects.starting g → g < s.created) :
    Steps effects s (s.updateFlights g fun table => table.update i f) :=
  h.updateFlights ((h.owned g).update i hf hlookup) (GenerationSingleFlight.since_update hf) hstarting

theorem Sound.abortAll (h : s.Sound) {effects : Effects} {g : Nat}
    (hstarting : effects.starting g → g < s.created) :
    Steps effects s (s.updateFlights g GenerationSingleFlight.abortAll) :=
  h.updateFlights (h.owned g).abortAll (GenerationSingleFlight.since_abortAll _) hstarting

theorem Sound.step_withStore (h : s.Sound) {effects : Effects} {store : DNSGenerationStore}
    (hinFlight : ∀ g, (store.state g).inFlight = (s.store.state g).inFlight)
    (hactive : store.activeGeneration.ref < s.created) :
    Steps effects s { s with store := store } :=
  ⟨h.withStore hinFlight hactive, ⟨fun g => .refl (s.generations g).singleFlight, fun _ => Or.inl rfl⟩⟩

theorem Sound.step_newCall (h : s.Sound) {effects : Effects} {call : ResolveCall}
    (hcall : ∀ g i, call.flight = some (g, i) → call.result = none ∧ ∃ flight, s.flight g i = some flight) :
    Steps effects s (s.newCall call) :=
  ⟨h.newCall hcall, ⟨fun g => .refl (s.generations g).singleFlight, fun _ => Or.inl rfl⟩⟩

theorem Sound.releaseHandle (h : s.Sound) {effects : Effects} (generation : DNSGeneration) :
    Steps effects s (s.releaseHandle generation) :=
  h.step_withStore (DNSGenerationStore.inFlight_release s.store generation) h.active

namespace Action

/-- The effects of a label: a call may start a flight of the active generation, and touches its
caches; an answer is written into the caches of the generation whose flight it is for. -/
def effects (s : SystemDnsResolver) : Action → Effects
  | .resolve _ _ => ⟨fun _ _ => False, fun g => g = s.store.activeGeneration.ref,
      fun g => g = s.store.activeGeneration.ref⟩
  | .complete g _ _ _ => ⟨fun _ _ => False, fun _ => False, fun g' => g' = g⟩
  | .settle g i => ⟨fun g' i' => g' = g ∧ i' = i, fun _ => False, fun _ => False⟩
  | .newGeneration _ _ _ _ _ _ => ⟨fun _ _ => False, fun _ => False, fun g => g = s.created⟩
  | _ => ⟨fun _ _ => False, fun _ => False, fun _ => False⟩

end Action

variable (node : Node) (timeoutMs : Option Nat)

/-- A call that waits for a flight of the generation `g`. -/
theorem Sound.join (h : s.Sound) {effects : Effects} {g : Nat} {generation : ResolverGeneration}
    (hself : s.generations g = generation) (hcreated : g < s.created) (hstarting : effects.starting g)
    (host normalizedHost : String) :
    let joined := generation.singleFlight.run s!"A:{normalizedHost}" ⟨g, host, normalizedHost, none⟩
      timeoutMs
    Steps effects s ((s.setGeneration { generation with singleFlight := joined.2 }).newCall
      ⟨some (g, joined.1), none⟩) := by
  intro joined
  subst hself
  have howned := (h.owned g).run host normalizedHost timeoutMs
  have hstarted : Steps effects s (s.setGeneration { s.generations g with singleFlight := joined.2 }) :=
    h.step_setGeneration howned (GenerationSingleFlight.since_run _ _ _ hstarting) (Or.inl rfl)
      fun _ => hcreated
  refine hstarted.trans (hstarted.sound.step_newCall ?_)
  rintro g' i heq
  cases heq
  obtain ⟨flight, hflight, -⟩ := (h.owned g).table.joined s!"A:{normalizedHost}"
    ⟨g, host, normalizedHost, none⟩ timeoutMs
  refine ⟨rfl, flight, ?_⟩
  unfold SystemDnsResolver.flight
  rw [generations_setGeneration_self howned]
  exact hflight

theorem Sound.resolve (h : s.Sound) (host : String) (now : Nat) :
    Steps ((Action.resolve host now).effects s) s (s.resolve node timeoutMs host now) := by
  unfold SystemDnsResolver.resolve
  split
  · refine h.step_newCall ?_
    intro g i hflight
    cases hflight
  · dsimp only [DNSGenerationStore.acquire]
    have hacquired : Steps ((Action.resolve host now).effects s) s { s with store := s.store.acquire.2 } :=
      h.step_withStore (DNSGenerationStore.inFlight_acquire s.store) h.active
    obtain ⟨caches, hcaches⟩ := (s.generations s.store.activeGeneration.ref).known_eq node.toLowerCase
      (node.toLowerCase host) now
    cases hknown : (s.generations s.store.activeGeneration.ref).known node.toLowerCase
        (node.toLowerCase host) now with
    | mk found generation =>
      rw [hknown] at hcaches
      change generation = _ at hcaches
      have hsame : generation.singleFlight = (s.generations s.store.activeGeneration.ref).singleFlight := by
        rw [hcaches]
      have howned : ResolverGeneration.Owned s.store.activeGeneration.ref generation := by
        rw [hcaches]
        exact (h.owned s.store.activeGeneration.ref).withCaches caches
      have htouched := hacquired.trans (hacquired.sound.step_setGeneration howned
        (by rw [hsame]; exact .refl _) (Or.inr rfl) fun _ => h.active)
      cases found with
      | some result =>
        have hreleased := htouched.trans (htouched.sound.releaseHandle s.store.activeGeneration)
        refine hreleased.trans (hreleased.sound.step_newCall ?_)
        intro g i hflight
        cases hflight
      | none =>
        exact htouched.trans (htouched.sound.join timeoutMs (generations_setGeneration_self howned)
          h.active rfl host (node.toLowerCase host))

theorem Sound.complete (h : s.Sound) {g i : Nat} {flight : Flight Lookup String}
    (hflight : s.flight g i = some flight) (answer : Except DnsError DnsAResult) (now : Nat) :
    Steps ((Action.complete g i answer now).effects s) s (s.complete node g i flight answer now) := by
  obtain ⟨hcaptured, -⟩ := (h.owned g).lookups i flight hflight
  unfold SystemDnsResolver.complete
  dsimp only
  rw [hcaptured]
  obtain ⟨caches, hcaches⟩ := (s.generations g).lookupAnswered_eq node.toLowerCase
    flight.operation.host flight.operation.normalizedHost flight.aborted answer now
  have hwritten : Steps ((Action.complete g i answer now).effects s) s
      (s.setGeneration { s.generations g with caches := caches }) :=
    h.step_setGeneration ((h.owned g).withCaches caches) (.refl _) (Or.inr rfl) False.elim
  rw [hcaches]
  exact hwritten.trans (hwritten.sound.updateFlight i
    (fun flight => ⟨⟨rfl, fun _ h => h, fun h => h⟩, rfl⟩) (fun _ => ⟨rfl, rfl⟩) False.elim)

theorem Sound.settle (h : s.Sound) {g i : Nat} {flight : Flight Lookup String}
    (hflight : s.flight g i = some flight) (hunsettled : flight.settled = false)
    (houtcome : flight.outcome.isSome = true) :
    Steps ((Action.settle g i).effects s) s (s.updateFlights g fun table => table.settle i) :=
  h.updateFlights ((h.owned g).settle hflight hunsettled houtcome)
    (GenerationSingleFlight.since_settle ⟨rfl, rfl⟩) False.elim

theorem Sound.resume (h : s.Sound) {effects : Effects} (c : Nat) {g i : Nat}
    {flight : Flight Lookup String} {outcome : Except DnsError String}
    (hflight : s.flight g i = some flight) (houtcome : flight.outcome = some outcome) :
    Steps effects s (s.resume c g i outcome) := by
  have hreleased : Steps effects s (s.releaseHandle (s.generations g).generation) :=
    h.releaseHandle (s.generations g).generation
  refine ⟨⟨hreleased.sound.owned, hreleased.sound.inFlight, hreleased.sound.fresh,
    hreleased.sound.active, ?_⟩, ⟨hreleased.later.tables, hreleased.later.caches⟩⟩
  intro d call g' i' hd hcall
  have hset : (s.calls.set c ⟨some (g, i), some outcome⟩)[d]? = some call := hd
  rw [List.getElem?_set] at hset
  split at hset
  · split at hset
    · obtain rfl := Option.some.inj hset
      obtain ⟨rfl, rfl⟩ := Prod.mk.inj (Option.some.inj hcall)
      refine ⟨flight, hflight, ?_⟩
      intro result hresult
      exact houtcome.trans hresult
    · cases hset
  · exact h.calls d call g' i' hset hcall

theorem Sound.newGeneration (h : s.Sound) (id : String) (sequence : Nat) (dns : DnsConfig)
    (config : DnsResolverConfig) (positiveEntries negativeEntries : List DnsCacheEntry) :
    let candidate := ResolverGeneration.create ⟨s.created, id, sequence, dns⟩ config
    let next := s.setGeneration (candidate.carryOver node.toLowerCase positiveEntries negativeEntries)
    Steps ((Action.newGeneration id sequence dns config positiveEntries negativeEntries).effects s) s
      { next with created := s.created + 1 } := by
  intro candidate next
  obtain ⟨caches, hcaches⟩ := candidate.carryOver_eq node.toLowerCase positiveEntries negativeEntries
  have howned : ResolverGeneration.Owned s.created
      (candidate.carryOver node.toLowerCase positiveEntries negativeEntries) := by
    rw [hcaches]
    exact (owned_create ⟨s.created, id, sequence, dns⟩ config).withCaches caches
  have hempty : (s.generations s.created).singleFlight.flights = [] := h.fresh s.created (Nat.le_refl _)
  have hnew : (candidate.carryOver node.toLowerCase positiveEntries
      negativeEntries).singleFlight.flights = [] := by
    rw [hcaches]
    rfl
  have hnext : Steps
      ((Action.newGeneration id sequence dns config positiveEntries negativeEntries).effects s) s next := by
    refine h.step_setGeneration howned ⟨?_, Or.inl ?_⟩ (Or.inr rfl) False.elim
    · intro i flight hflight
      rw [hempty] at hflight
      cases hflight
    · rw [hempty, hnew]
  exact ⟨⟨hnext.sound.owned, hnext.sound.inFlight, fun g hle => hnext.sound.fresh g (Nat.le_of_succ_le hle),
    Nat.lt_succ_of_lt hnext.sound.active, hnext.sound.calls⟩, ⟨hnext.later.tables, hnext.later.caches⟩⟩

theorem Sound.shutdown (h : s.Sound) : Steps (Action.shutdown.effects s) s s.shutdown := by
  have hfold (generations : List DNSGeneration) :
      ∀ t : SystemDnsResolver, Steps (Action.shutdown.effects s) s t →
        Steps (Action.shutdown.effects s) s (generations.foldl (fun self generation =>
          self.updateFlights generation.ref GenerationSingleFlight.abortAll) t) := by
    induction generations with
    | nil => exact fun t ht => ht
    | cons generation rest ih => exact fun t ht => ih _ (ht.trans (ht.sound.abortAll False.elim))
  have haborted := hfold s.store.generations.values s ⟨h, .refl s⟩
  exact haborted.trans (haborted.sound.step_withStore (fun _ => rfl) haborted.sound.active)

/-- Every step keeps the invariant, and does what its label may do. -/
theorem step_steps (h : s.Sound) {a : Action} {s' : SystemDnsResolver}
    (hstep : s.step node timeoutMs a = some s') : Steps (a.effects s) s s' := by
  cases a with
  | resolve host now =>
    obtain rfl := Option.some.inj hstep
    exact h.resolve node timeoutMs host now
  | complete g i answer now =>
    dsimp only [step] at hstep
    split at hstep
    · next flight hflight =>
      split at hstep
      · cases hstep
      · obtain rfl := Option.some.inj hstep
        exact h.complete node hflight answer now
    · cases hstep
  | deliver g i =>
    dsimp only [step] at hstep
    split at hstep
    · next returned _ =>
      obtain rfl := Option.some.inj hstep
      exact h.updateFlight i (fun flight => ⟨flight.later_conclude returned, rfl⟩)
        (fun _ => ⟨rfl, rfl⟩) False.elim
    · cases hstep
  | timeout g i =>
    dsimp only [step] at hstep
    split at hstep
    · split at hstep
      · next ms _ =>
        split at hstep
        · cases hstep
        · obtain rfl := Option.some.inj hstep
          refine h.updateFlight i (f := Flight.timeout (s.generations g).singleFlight.generationId ms)
            (fun flight => ⟨flight.later_timeout _ ms, rfl⟩) (fun _ => ⟨rfl, rfl⟩) False.elim
      · cases hstep
    · cases hstep
  | settle g i =>
    dsimp only [step] at hstep
    split at hstep
    · next flight hflight =>
      split at hstep
      · next hends =>
        obtain rfl := Option.some.inj hstep
        exact h.settle hflight hends.2 hends.1
      · cases hstep
    · cases hstep
  | resume c =>
    dsimp only [step] at hstep
    split at hstep
    · split at hstep
      · next flight hflight =>
        split at hstep
        · next outcome houtcome =>
          split at hstep
          · obtain rfl := Option.some.inj hstep
            exact h.resume c hflight houtcome
          · cases hstep
        · cases hstep
      · cases hstep
    · cases hstep
  | newGeneration id sequence dns config positiveEntries negativeEntries =>
    obtain rfl := Option.some.inj hstep
    exact h.newGeneration node id sequence dns config positiveEntries negativeEntries
  | switchTo candidate =>
    dsimp only [step] at hstep
    split at hstep
    · next hcreated =>
      obtain rfl := Option.some.inj hstep
      refine h.step_withStore (DNSGenerationStore.inFlight_switchTo s.store _) ?_
      rw [show (s.store.switchTo (s.generations candidate).generation).activeGeneration =
        (s.generations candidate).generation from rfl, (h.owned candidate).ref]
      exact hcreated
    · cases hstep
  | restore old candidate =>
    dsimp only [step] at hstep
    split at hstep
    · next hcreated =>
      obtain rfl := Option.some.inj hstep
      refine h.step_withStore (DNSGenerationStore.inFlight_restore s.store _ _) ?_
      rw [show (s.store.restore (s.generations old).generation
        (s.generations candidate).generation).activeGeneration = (s.generations old).generation from rfl,
        (h.owned old).ref]
      exact hcreated.1
    · cases hstep
  | releaseDrained =>
    obtain rfl := Option.some.inj hstep
    exact h.step_withStore (fun _ => rfl) h.active
  | abortAll g =>
    dsimp only [step] at hstep
    split at hstep
    · obtain rfl := Option.some.inj hstep
      exact h.abortAll False.elim
    · cases hstep
  | shutdown =>
    obtain rfl := Option.some.inj hstep
    exact h.shutdown

/-! ## Runs -/

/-- The effects of a run. -/
def anyEffects : Effects := ⟨fun _ _ => True, fun _ => True, fun _ => True⟩

theorem Later.any {effects : Effects} {s s' : SystemDnsResolver} (h : Later effects s s') :
    Later anyEffects s s' :=
  ⟨fun g => (h.tables g).mono (fun _ _ => trivial) fun _ => trivial, fun _ => Or.inr trivial⟩

theorem run_steps (h : s.Sound) {actions : List Action} {t : SystemDnsResolver}
    (hrun : (system node timeoutMs).run s actions = some t) : Steps anyEffects s t := by
  obtain ⟨hsound, hlater⟩ := (system node timeoutMs).run_relation (fun _ _ => True) Sound
    (Later anyEffects) Later.refl (fun _ _ _ => Later.trans)
    (fun s a s' hs _ hstep => by
      obtain ⟨hsound, hlater⟩ := step_steps node timeoutMs hs hstep
      exact ⟨hsound, hlater.any⟩)
    actions s t h (Runs.System.along_true _ s actions) hrun
  exact ⟨hsound, hlater⟩

/-- In a state: one unsettled flight a host, the table holds the unsettled flights, and whoever
joined a flight has seen its outcome or can go on with it. -/
structure FlightsScoped (s : SystemDnsResolver) : Prop where
  one : ∀ (g i j : Nat) (flight flight' : Flight Lookup String), s.flight g i = some flight →
    s.flight g j = some flight' → flight.settled = false → flight'.settled = false →
    flight.operation.normalizedHost = flight'.operation.normalizedHost → i = j
  held : ∀ (g : Nat) (key : String) (i : Nat), (s.generations g).singleFlight.entries.get key = some i ↔
    ∃ flight, s.flight g i = some flight ∧ flight.scopedKey = key ∧ flight.settled = false
  size : ∀ g, (s.generations g).singleFlight.size = (s.generations g).singleFlight.unsettled
  inFlight : ∀ g, (s.store.state g).inFlight = (s.generations g).singleFlight.unsettled
  captured : ∀ (g i : Nat) (flight : Flight Lookup String), s.flight g i = some flight →
    flight.operation.generation = g
  observed : ∀ (c g i : Nat) (result : Except DnsError String),
    s.calls[c]? = some ⟨some (g, i), some result⟩ →
    ∃ flight, s.flight g i = some flight ∧ flight.outcome = some result
  waiting : ∀ c g i : Nat, s.calls[c]? = some ⟨some (g, i), none⟩ →
    ∃ flight, s.flight g i = some flight ∧ (flight.settled = true →
      ∃ outcome, flight.outcome = some outcome ∧
        s.step node timeoutMs (.resume c) = some (s.resume c g i outcome))

theorem Sound.flightsScoped (h : s.Sound) : s.FlightsScoped node timeoutMs where
  one := by
    intro g i j flight flight' hi hj hunsettled hunsettled' hhost
    refine (h.owned g).table.one_unsettled hi hj hunsettled hunsettled' ?_
    rw [((h.owned g).lookups i flight hi).2, ((h.owned g).lookups j flight' hj).2, hhost]
  held := fun g => (h.owned g).table.tracks
  size := fun g => (h.owned g).table.counts
  inFlight := fun g => (h.inFlight g).trans (h.owned g).table.counts
  captured := fun g i flight hflight => ((h.owned g).lookups i flight hflight).1
  observed := by
    intro c g i result hcall
    obtain ⟨flight, hflight, hresult⟩ := h.calls c _ g i hcall rfl
    exact ⟨flight, hflight, hresult result rfl⟩
  waiting := by
    intro c g i hcall
    obtain ⟨flight, hflight, -⟩ := h.calls c _ g i hcall rfl
    refine ⟨flight, hflight, ?_⟩
    intro hsettled
    obtain ⟨outcome, houtcome⟩ := Option.isSome_iff_exists.mp
      ((h.owned g).table.decided i flight hflight hsettled)
    refine ⟨outcome, houtcome, ?_⟩
    dsimp only [step]
    rw [hcall]
    dsimp only
    rw [hflight]
    dsimp only
    rw [houtcome]
    dsimp only
    rw [if_pos hsettled]

/-- In a step: a flight leaves the table when it settles and no other does, a flight starts in
the active generation, and an answer is written into no other generation than the one the
flight is of. -/
structure StepScoped (s : SystemDnsResolver) (a : Action) (s' : SystemDnsResolver) : Prop where
  leaves : ∀ (g : Nat) (key : String) (i : Nat),
    (s.generations g).singleFlight.entries.get key = some i →
    (s'.generations g).singleFlight.entries.get key ≠ some i → a = .settle g i
  settles : ∀ g i : Nat, a = .settle g i →
    (∃ key, (s.generations g).singleFlight.entries.get key = some i) ∧
      ∀ key, (s'.generations g).singleFlight.entries.get key ≠ some i
  starts : ∀ (g i : Nat) (flight : Flight Lookup String), s'.flight g i = some flight →
    s.flight g i = none → g = s.store.activeGeneration.ref
  writes : ∀ (g i : Nat) (answer : Except DnsError DnsAResult) (now : Nat),
    a = .complete g i answer now → ∀ g', g' ≠ g → (s'.generations g').caches = (s.generations g').caches

theorem settling_iff (a : Action) (s : SystemDnsResolver) (g i : Nat) :
    (a.effects s).settling g i ↔ a = .settle g i := by
  cases a with
  | settle g' i' =>
    show g = g' ∧ i = i' ↔ _
    constructor
    · rintro ⟨rfl, rfl⟩
      rfl
    · intro heq
      cases heq
      exact ⟨rfl, rfl⟩
  | _ => exact ⟨False.elim, fun heq => by cases heq⟩

theorem starting_active {a : Action} {s : SystemDnsResolver} {g : Nat}
    (h : (a.effects s).starting g) : g = s.store.activeGeneration.ref := by
  cases a with
  | resolve host now => exact h
  | _ => exact h.elim

theorem step_scoped (h : s.Sound) {a : Action} {s' : SystemDnsResolver}
    (hstep : s.step node timeoutMs a = some s') : StepScoped s a s' := by
  obtain ⟨hsound, hlater⟩ := step_steps node timeoutMs h hstep
  refine ⟨?_, ?_, ?_, ?_⟩
  · intro g key i hin hout
    obtain ⟨flight, hflight, hkey, hunsettled⟩ := ((h.owned g).table.tracks key i).mp hin
    obtain ⟨flight', hflight', hlater', hsettled⟩ := hlater.flight hflight
    rcases hsettled with heq | hsettling
    · have hin' := ((hsound.owned g).table.tracks key i).mpr
        ⟨flight', hflight', hlater'.scopedKey.trans hkey, heq.trans hunsettled⟩
      exact absurd hin' hout
    · exact (settling_iff a s g i).mp hsettling
  · rintro g i rfl
    dsimp only [step] at hstep
    split at hstep
    · next flight hflight =>
      split at hstep
      · next hends =>
        obtain rfl := Option.some.inj hstep
        refine ⟨⟨flight.scopedKey, ((h.owned g).table.tracks _ i).mpr
          ⟨flight, hflight, rfl, hends.2⟩⟩, ?_⟩
        intro key hin
        change ((s.setGeneration _).generations g).singleFlight.entries.get key = some i at hin
        rw [generations_setGeneration_self ((h.owned g).settle hflight hends.2 hends.1)] at hin
        exact (((h.owned g).table.entries_settle hflight hends.2 key i).mp hin).2 rfl
      · cases hstep
    · cases hstep
  · intro g i flight hnew hold
    rcases (hlater.tables g).started with hlength | hstarting
    · have hlt := (List.getElem?_eq_some_iff.mp hnew).1
      have hge := List.getElem?_eq_none_iff.mp hold
      omega
    · exact starting_active hstarting
  · rintro g i answer now rfl g' hne
    rcases hlater.caches g' with heq | hwriting
    · exact heq
    · exact absurd hwriting hne

/-- **Generation-scoped single flight.**  In every state of every run the flights are scoped;
every step is; and a flight that was there is there ever after, with the outcome it had, and
settled once it had settled. -/
theorem single_flight_scoped (dns : DnsConfig) (config : DnsResolverConfig) (actions : List Action)
    (s : SystemDnsResolver)
    (hrun : (system node timeoutMs).run (create dns config) actions = some s) :
    s.FlightsScoped node timeoutMs ∧
      (∀ a s', s.step node timeoutMs a = some s' → StepScoped s a s') ∧
      ∀ more t, (system node timeoutMs).run s more = some t → ∀ g i flight,
        s.flight g i = some flight → ∃ flight', t.flight g i = some flight' ∧ flight.Later flight' := by
  have hsound := (run_steps node timeoutMs (sound_create dns config) hrun).sound
  refine ⟨hsound.flightsScoped node timeoutMs, fun a s' => step_scoped node timeoutMs hsound, ?_⟩
  intro more t hmore g i flight hflight
  obtain ⟨flight', hflight', hlater, -⟩ :=
    (run_steps node timeoutMs hsound hmore).later.flight hflight
  exact ⟨flight', hflight', hlater⟩

/-- A configuration that asks the system. -/
def systemConfig : DnsResolverConfig :=
  { strategy := .system, cacheTtlMs := 60000, cacheMaxEntries := none, negativeTtlMs := none, hosts := ∅,
    udpServers := [], rules := [], fallbackHosts := ∅, doh := ⟨false, [], 5000⟩ }

/-- Two callers of a host wait for one flight while its generation is replaced; a third one
starts another in the new generation. -/
theorem single_flight_scoped_switch :
    ∃ s, (system asciiNode none).run (create ⟨"", ""⟩ systemConfig)
        [.resolve "Example.test" 0, .resolve "example.test" 1,
          .newGeneration "runtime-control-1-dns" 1 ⟨"", ""⟩ systemConfig [] [], .switchTo 1,
          .resolve "example.test" 2, .complete 0 0 (.ok ⟨"192.0.2.1", 1000⟩) 3, .deliver 0 0,
          .settle 0 0, .resume 0, .resume 1] = some s ∧
      s.FlightsScoped asciiNode none ∧
      (∀ a s', s.step asciiNode none a = some s' → StepScoped s a s') ∧
      ∀ more t, (system asciiNode none).run s more = some t → ∀ g i flight,
        s.flight g i = some flight → ∃ flight', t.flight g i = some flight' ∧ flight.Later flight' := by
  obtain ⟨s, hs⟩ := Option.isSome_iff_exists.mp
    (show ((system asciiNode none).run (create ⟨"", ""⟩ systemConfig)
      [.resolve "Example.test" 0, .resolve "example.test" 1,
        .newGeneration "runtime-control-1-dns" 1 ⟨"", ""⟩ systemConfig [] [], .switchTo 1,
        .resolve "example.test" 2, .complete 0 0 (.ok ⟨"192.0.2.1", 1000⟩) 3, .deliver 0 0,
        .settle 0 0, .resume 0, .resume 1]).isSome = true by decide +kernel)
  exact ⟨s, hs, single_flight_scoped asciiNode none ⟨"", ""⟩ systemConfig _ s hs⟩

end SystemDnsResolver

end Sepigs
