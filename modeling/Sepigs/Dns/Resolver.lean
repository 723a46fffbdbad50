import Sepigs.Dns.Generation
import Sepigs.Lib.Runs
import Sepigs.Protocol.Address

/-!
# The resolver (`dns/resolver.ts`)

`resolve` takes a handle of the active generation, answers from its static hosts and caches,
and else waits for a flight of it.  What happens after an await is a label of its own: the
answer of an upstream, the operation's promise reaching the race, the timer, the `finally` of
the race, and the caller going on.  Any order of labels is a run.
-/

namespace Sepigs

structure DnsAResult where
  address : String
  ttlMs : Nat
deriving DecidableEq, Repr

/-- One call of `resolveUncached`: the generation it captured, and how it ended. -/
structure Lookup where
  generation : Nat
  host : String
  normalizedHost : String
  returned : Option (Except DnsError String)
deriving Repr

/-- A generation object as the resolver sees it. -/
structure ResolverGeneration where
  generation : DNSGeneration
  config : DnsResolverConfig
  caches : DnsCaches
  singleFlight : GenerationSingleFlight Lookup String

/-- Where `resolveUncached` asks. -/
inductive Upstream
  | doh
  | udp (server : DnsUdpServerConfig)
  | system
deriving DecidableEq, Repr

def selectUdpServer (config : DnsResolverConfig) (host : String) : Option DnsUdpServerConfig :=
  match config.rules.find? fun rule => rule.domainSuffix.any fun suffix =>
      decide (host = suffix) || JsString.endsWith host ("." ++ suffix) with
  | some matchedRule => config.udpServers.find? fun server => server.tag = matchedRule.serverTag
  | none => config.udpServers.head?

namespace ResolverGeneration

/-- The constructor. -/
def create (generation : DNSGeneration) (config : DnsResolverConfig) : ResolverGeneration where
  generation := generation
  config := config
  caches := ⟨∅, ∅⟩
  singleFlight := .create generation.id

def mode (self : ResolverGeneration) : DnsResolverMode := dnsResolverMode self.config

def maxEntries (self : ResolverGeneration) : Nat := self.config.cacheMaxEntries.getD 4096

def upstream (self : ResolverGeneration) (normalizedHost : String) : Upstream :=
  match self.mode, selectUdpServer self.config normalizedHost with
  | .doh, _ => .doh
  | .udp, some server => .udp server
  | _, _ => .system

variable (toLowerCase : String → String)

def setPositive (self : ResolverGeneration) (entry : DnsCacheEntry) : ResolverGeneration :=
  { self with caches := self.caches.setPositive toLowerCase self.maxEntries entry }

def setNegative (self : ResolverGeneration) (entry : DnsCacheEntry) : ResolverGeneration :=
  { self with caches := self.caches.setNegative toLowerCase self.maxEntries entry }

/-- `applyDnsCacheCarryover` -/
def carryOver (self : ResolverGeneration) (positiveEntries negativeEntries : List DnsCacheEntry) :
    ResolverGeneration :=
  negativeEntries.foldl (setNegative toLowerCase) (positiveEntries.foldl (setPositive toLowerCase) self)

/-- What `resolve` finds without a lookup: a static host, an address or a failure that is
still fresh. -/
def known (self : ResolverGeneration) (normalizedHost : String) (now : Nat) :
    Option (Except DnsError String) × ResolverGeneration :=
  match self.config.hosts.get normalizedHost with
  | some staticHost => (some (.ok staticHost), self)
  | none =>
    match self.caches.getPositive toLowerCase normalizedHost now with
    | (some positive, caches) => (some (.ok positive.value), { self with caches := caches })
    | (none, caches) =>
      match caches.getNegative toLowerCase normalizedHost now with
      | (some negative, caches) =>
        (some (.error ⟨"NetworkError", negative.value⟩), { self with caches := caches })
      | (none, caches) => (none, { self with caches := caches })

/-- The entry for the outcome of a lookup. -/
def entry (self : ResolverGeneration) (normalizedHost value : String) (ttlMs now : Nat) :
    DnsCacheEntry where
  host := normalizedHost
  value := value
  expiresAt := now + ttlMs
  touchedAt := now
  source := self.mode
  sensitive := false
  synthetic := false

/-- The `catch` of `resolveUncached`. -/
def lookupFailed (self : ResolverGeneration) (normalizedHost : String) (aborted : Bool)
    (error : DnsError) (now : Nat) : Except DnsError String × ResolverGeneration :=
  if aborted then (.error error, self)
  else
    match self.config.fallbackHosts.get normalizedHost with
    | some fallback => (.ok fallback, self)
    | none =>
      let negativeTtlMs := self.config.negativeTtlMs.getD 5000
      if 0 < negativeTtlMs then
        (.error error,
          self.setNegative toLowerCase (self.entry normalizedHost error.message negativeTtlMs now))
      else (.error error, self)

/-- `resolveUncached` after the await of its upstream. -/
def lookupAnswered (self : ResolverGeneration) (host normalizedHost : String) (aborted : Bool)
    (answer : Except DnsError DnsAResult) (now : Nat) : Except DnsError String × ResolverGeneration :=
  match answer with
  | .error error => self.lookupFailed toLowerCase normalizedHost aborted error now
  | .ok result =>
    match self.upstream normalizedHost with
    | .system =>
      if aborted then
        self.lookupFailed toLowerCase normalizedHost aborted
          ⟨"NetworkError", s!"DNS query aborted for {host}"⟩ now
      else
        (.ok result.address, self.setPositive toLowerCase
          (self.entry normalizedHost result.address self.config.cacheTtlMs now))
    | _ =>
      (.ok result.address, self.setPositive toLowerCase
        (self.entry normalizedHost result.address (min result.ttlMs self.config.cacheTtlMs) now))

end ResolverGeneration

/-- A call of `resolve`: the flight it joined, by generation and number, and how it ended. -/
structure ResolveCall where
  flight : Option (Nat × Nat)
  result : Option (Except DnsError String)
deriving Repr

/-- The generation objects are a heap keyed by identity; `created` is the next new one. -/
structure SystemDnsResolver where
  store : DNSGenerationStore
  generations : Nat → ResolverGeneration
  created : Nat
  calls : List ResolveCall

namespace SystemDnsResolver

/-- The constructor. -/
def create (dns : DnsConfig) (config : DnsResolverConfig) : SystemDnsResolver where
  store := {
    activeGeneration := ⟨0, "dns-generation-0", 0, dns⟩
    generations := KeyMap.set ∅ "dns-generation-0" ⟨0, "dns-generation-0", 0, dns⟩
    state := fun _ => ⟨0, 0, false⟩
    cacheCarriedOver := 0
    cacheDropped := 0
    rejectedFakeIpChanges := 0 }
  generations := fun ref => .create ⟨ref, "dns-generation-0", 0, dns⟩ config
  created := 1
  calls := []

/-- A generation object after a change; `inFlight` is the size of its table. -/
def setGeneration (self : SystemDnsResolver) (generation : ResolverGeneration) : SystemDnsResolver :=
  { self with
    generations := Function.update self.generations generation.generation.ref generation
    store := self.store.setState generation.generation fun state =>
      { state with inFlight := generation.singleFlight.size } }

def flight (self : SystemDnsResolver) (g i : Nat) : Option (Flight Lookup String) :=
  (self.generations g).singleFlight.flights[i]?

/-- A change of the table of a generation. -/
def updateFlights (self : SystemDnsResolver) (g : Nat)
    (f : GenerationSingleFlight Lookup String → GenerationSingleFlight Lookup String) :
    SystemDnsResolver :=
  self.setGeneration { self.generations g with singleFlight := f (self.generations g).singleFlight }

/-- The handle of a call is released when the call ends. -/
def releaseHandle (self : SystemDnsResolver) (generation : DNSGeneration) : SystemDnsResolver :=
  { self with store := self.store.release generation }

def newCall (self : SystemDnsResolver) (call : ResolveCall) : SystemDnsResolver :=
  { self with calls := self.calls ++ [call] }

variable (node : Node) (timeoutMs : Option Nat)

/-- `resolve`, up to the await of a flight.  The resolver passes no `timeoutMs`. -/
def resolve (self : SystemDnsResolver) (host : String) (now : Nat) : SystemDnsResolver :=
  if node.isIP host ≠ 0 then self.newCall ⟨none, some (.ok host)⟩
  else
    let (active, store) := self.store.acquire
    let normalizedHost := node.toLowerCase host
    let (found, generation) := (self.generations active.ref).known node.toLowerCase normalizedHost now
    let acquired := { self with store := store }.setGeneration generation
    match found with
    | some result => (acquired.releaseHandle active).newCall ⟨none, some result⟩
    | none =>
      let (number, table) := generation.singleFlight.run s!"A:{normalizedHost}"
        ⟨active.ref, host, normalizedHost, none⟩ timeoutMs
      (acquired.setGeneration { generation with singleFlight := table }).newCall
        ⟨some (active.ref, number), none⟩

/-- The upstream of a lookup has answered: `resolveUncached` runs to its end. -/
def complete (self : SystemDnsResolver) (g i : Nat) (flight : Flight Lookup String)
    (answer : Except DnsError DnsAResult) (now : Nat) : SystemDnsResolver :=
  let lookup := flight.operation
  let (returned, generation) := (self.generations lookup.generation).lookupAnswered node.toLowerCase
    lookup.host lookup.normalizedHost flight.aborted answer now
  (self.setGeneration generation).updateFlights g fun table => table.update i fun flight =>
    { flight with operation := { flight.operation with returned := some returned } }

/-- A caller goes on after the await of its flight. -/
def resume (self : SystemDnsResolver) (c g i : Nat) (outcome : Except DnsError String) :
    SystemDnsResolver :=
  { self.releaseHandle (self.generations g).generation with
    calls := self.calls.set c ⟨some (g, i), some outcome⟩ }

/-- `shutdown` of the store. -/
def shutdown (self : SystemDnsResolver) : SystemDnsResolver :=
  let aborted := self.store.generations.values.foldl (fun self generation =>
    self.updateFlights generation.ref GenerationSingleFlight.abortAll) self
  { aborted with store := aborted.store.releaseDrained }

/-- What can happen next: a call, the end of an await, and what the reload does with
generations. -/
inductive Action
  | resolve (host : String) (now : Nat)
  | complete (g i : Nat) (answer : Except DnsError DnsAResult) (now : Nat)
  | deliver (g i : Nat)
  | timeout (g i : Nat)
  | settle (g i : Nat)
  | resume (c : Nat)
  | newGeneration (id : String) (sequence : Nat) (dns : DnsConfig) (config : DnsResolverConfig)
      (positiveEntries negativeEntries : List DnsCacheEntry)
  | switchTo (candidate : Nat)
  | restore (old candidate : Nat)
  | releaseDrained
  | abortAll (g : Nat)
  | shutdown

def step (self : SystemDnsResolver) : Action → Option SystemDnsResolver
  | .resolve host now => some (self.resolve node timeoutMs host now)
  | .complete g i answer now =>
    match self.flight g i with
    | some flight =>
      if flight.operation.returned.isSome then none else some (self.complete node g i flight answer now)
    | none => none
  | .deliver g i =>
    match (self.flight g i).bind fun flight => flight.operation.returned with
    | some returned =>
      some (self.updateFlights g fun table => table.update i fun flight => flight.conclude returned)
    | none => none
  | .timeout g i =>
    match self.flight g i with
    | some flight =>
      match flight.timeoutMs with
      | some ms =>
        if flight.settled then none
        else some (self.updateFlights g fun table => table.update i (Flight.timeout table.generationId ms))
      | none => none
    | none => none
  | .settle g i =>
    match self.flight g i with
    | some flight =>
      if flight.outcome.isSome ∧ flight.settled = false then
        some (self.updateFlights g fun table => table.settle i)
      else none
    | none => none
  | .resume c =>
    match self.calls[c]? with
    | some ⟨some (g, i), none⟩ =>
      match self.flight g i with
      | some flight =>
        match flight.outcome with
        | some outcome => if flight.settled then some (self.resume c g i outcome) else none
        | none => none
      | none => none
    | _ => none
  | .newGeneration id sequence dns config positiveEntries negativeEntries =>
    let candidate := ResolverGeneration.create ⟨self.created, id, sequence, dns⟩ config
    let next := self.setGeneration (candidate.carryOver node.toLowerCase positiveEntries negativeEntries)
    some { next with created := self.created + 1 }
  | .switchTo candidate =>
    if candidate < self.created then
      some { self with store := self.store.switchTo (self.generations candidate).generation }
    else none
  | .restore old candidate =>
    if old < self.created ∧ candidate < self.created then
      let store := self.store.restore (self.generations old).generation
        (self.generations candidate).generation
      some { self with store := store }
    else none
  | .releaseDrained => some { self with store := self.store.releaseDrained }
  | .abortAll g =>
    if g < self.created then some (self.updateFlights g GenerationSingleFlight.abortAll) else none
  | .shutdown => some self.shutdown

/-- Any order of calls, answers, timers, continuations and switches. -/
def system : Runs.System SystemDnsResolver Action where
  step := step node timeoutMs

end SystemDnsResolver

end Sepigs
