import Sepigs.Dns.GenerationStore
import Sepigs.Dns.SingleFlight
import Sepigs.Lib.JsString

/-!
# The caches of a DNS generation (`dns/generation.ts`)

What the resolver reads and writes of a generation: its configuration, the positive and the
negative cache, oldest entry first, and its table of flights.

`fits_trimCache`: the loop of `trimCache` ends within as many passes as there are entries, and
leaves no more entries than allowed.
-/

namespace Sepigs

/-! ## Configuration -/

inductive DnsStrategy
  | system
  | preferIpv4
  | preferIpv6
deriving DecidableEq, Repr

structure DnsUdpServerConfig where
  tag : String
  address : String
  port : Nat
  timeoutMs : Nat
deriving DecidableEq, Repr

structure DnsRouteRuleConfig where
  domainSuffix : List String
  serverTag : String
deriving DecidableEq, Repr

structure DohConfig where
  enabled : Bool
  endpoints : List String
  timeoutMs : Nat
deriving DecidableEq, Repr

/-- The sections of `DnsConfig` that a lookup reads. -/
structure DnsResolverConfig where
  strategy : DnsStrategy
  cacheTtlMs : Nat
  cacheMaxEntries : Option Nat
  negativeTtlMs : Option Nat
  hosts : KeyMap String String
  udpServers : List DnsUdpServerConfig
  rules : List DnsRouteRuleConfig
  fallbackHosts : KeyMap String String
  doh : DohConfig

inductive DnsResolverMode
  | system
  | udp
  | doh
deriving DecidableEq, Repr

def dnsResolverMode (config : DnsResolverConfig) : DnsResolverMode :=
  if config.strategy ≠ .preferIpv6 ∧ config.doh.enabled = true ∧ config.doh.endpoints ≠ [] then .doh
  else if config.strategy ≠ .preferIpv6 ∧ config.udpServers ≠ [] then .udp
  else .system

/-! ## Caches -/

/-- An entry of a cache: an address, or the message of a failure. -/
structure DnsCacheEntry where
  host : String
  value : String
  expiresAt : Nat
  touchedAt : Nat
  source : DnsResolverMode
  sensitive : Bool
  synthetic : Bool
deriving DecidableEq, Repr

abbrev DnsCache := JsMap String DnsCacheEntry

namespace DnsCache

/-- `getPositive` and `getNegative`: an entry is dropped when it has expired, and else comes
last. -/
def get (cache : DnsCache) (host : String) (now : Nat) : Option DnsCacheEntry × DnsCache :=
  match JsMap.get cache host with
  | none => (none, cache)
  | some entry =>
    if entry.expiresAt ≤ now then (none, cache.delete host)
    else
      let touched := { entry with touchedAt := now }
      (some touched, (cache.delete host).set host touched)

/-- A new entry comes last. -/
def set (cache : DnsCache) (host : String) (entry : DnsCacheEntry) : DnsCache :=
  JsMap.set (cache.delete host) host { entry with host := host }

/-- `values().next().value` -/
def oldest (cache : DnsCache) : Option DnsCacheEntry := cache.values.head?

end DnsCache

structure DnsCaches where
  positiveCache : DnsCache
  negativeCache : DnsCache

namespace DnsCaches

def size (caches : DnsCaches) : Nat := caches.positiveCache.size + caches.negativeCache.size

/-- One pass of the loop of `trimCache`: the older of the two oldest entries goes. -/
def dropOldest (caches : DnsCaches) : DnsCaches :=
  match caches.positiveCache.oldest, caches.negativeCache.oldest with
  | none, none => caches
  | some positive, none =>
    { caches with positiveCache := caches.positiveCache.delete positive.host }
  | none, some negative =>
    { caches with negativeCache := caches.negativeCache.delete negative.host }
  | some positive, some negative =>
    if positive.touchedAt ≤ negative.touchedAt then
      { caches with positiveCache := caches.positiveCache.delete positive.host }
    else { caches with negativeCache := caches.negativeCache.delete negative.host }

def trimLoop (maxEntries : Nat) : Nat → DnsCaches → DnsCaches
  | 0, caches => caches
  | passes + 1, caches =>
    if maxEntries < caches.size then trimLoop maxEntries passes caches.dropOldest else caches

def trimCache (maxEntries : Nat) (caches : DnsCaches) : DnsCaches :=
  trimLoop maxEntries caches.size caches

variable (toLowerCase : String → String) (maxEntries : Nat)

def getPositive (caches : DnsCaches) (host : String) (now : Nat) : Option DnsCacheEntry × DnsCaches :=
  let (entry, cache) := caches.positiveCache.get (toLowerCase host) now
  (entry, { caches with positiveCache := cache })

def getNegative (caches : DnsCaches) (host : String) (now : Nat) : Option DnsCacheEntry × DnsCaches :=
  let (entry, cache) := caches.negativeCache.get (toLowerCase host) now
  (entry, { caches with negativeCache := cache })

def setPositive (caches : DnsCaches) (entry : DnsCacheEntry) : DnsCaches :=
  let normalized := toLowerCase entry.host
  trimCache maxEntries {
    positiveCache := caches.positiveCache.set normalized entry
    negativeCache := caches.negativeCache.delete normalized }

def setNegative (caches : DnsCaches) (entry : DnsCacheEntry) : DnsCaches :=
  let normalized := toLowerCase entry.host
  trimCache maxEntries {
    positiveCache := caches.positiveCache.delete normalized
    negativeCache := caches.negativeCache.set normalized entry }

/-! ### The loop ends -/

/-- Every entry is under its host. -/
def Keyed (cache : DnsCache) : Prop := ∀ entry ∈ cache.entries, entry.2.host = entry.1

theorem Keyed.delete {cache : DnsCache} (h : Keyed cache) (host : String) :
    Keyed (cache.delete host) :=
  fun entry hmem => h entry ((JsMap.mem_entries_delete cache host entry.1 entry.2).mp hmem).2

theorem Keyed.set {cache : DnsCache} (h : Keyed cache) (host : String) (entry : DnsCacheEntry) :
    Keyed (cache.set host entry) := by
  rintro ⟨key, value⟩ hmem
  rcases (JsMap.mem_entries_set _ _ _ _ _).mp hmem with ⟨rfl, rfl⟩ | ⟨-, hold⟩
  · rfl
  · exact h.delete host _ hold

theorem size_delete_oldest {cache : DnsCache} (h : Keyed cache) {entry : DnsCacheEntry}
    (holdest : cache.oldest = some entry) : (cache.delete entry.host).size + 1 = cache.size := by
  refine JsMap.size_delete_of_mem cache ?_
  have hmem : entry ∈ cache.values := List.mem_of_head? holdest
  obtain ⟨⟨key, value⟩, hentry, rfl⟩ := List.mem_map.mp hmem
  rw [h _ hentry]
  exact List.mem_map_of_mem hentry

theorem size_eq_zero_of_oldest {cache : DnsCache} (h : cache.oldest = none) : cache.size = 0 := by
  have hnil : cache.entries = [] := List.map_eq_nil_iff.mp (List.head?_eq_none_iff.mp h)
  show cache.entries.length = 0
  rw [hnil]
  rfl

/-- Both caches keep their entries under their hosts. -/
structure Ordered (caches : DnsCaches) : Prop where
  positive : Keyed caches.positiveCache
  negative : Keyed caches.negativeCache

theorem Ordered.dropOldest {caches : DnsCaches} (h : caches.Ordered) :
    caches.dropOldest.Ordered ∧ caches.dropOldest.size = caches.size - 1 := by
  unfold DnsCaches.dropOldest size
  cases hpositive : caches.positiveCache.oldest with
  | none =>
    have hempty := size_eq_zero_of_oldest hpositive
    cases hnegative : caches.negativeCache.oldest with
    | none =>
      have hempty' := size_eq_zero_of_oldest hnegative
      refine ⟨h, ?_⟩
      show caches.positiveCache.size + caches.negativeCache.size = _
      omega
    | some negative =>
      have hsize := size_delete_oldest h.negative hnegative
      refine ⟨⟨h.positive, h.negative.delete _⟩, ?_⟩
      show caches.positiveCache.size + (caches.negativeCache.delete negative.host).size = _
      omega
  | some positive =>
    have hsize := size_delete_oldest h.positive hpositive
    cases hnegative : caches.negativeCache.oldest with
    | none =>
      refine ⟨⟨h.positive.delete _, h.negative⟩, ?_⟩
      show (caches.positiveCache.delete positive.host).size + caches.negativeCache.size = _
      omega
    | some negative =>
      have hsize' := size_delete_oldest h.negative hnegative
      by_cases htouched : positive.touchedAt ≤ negative.touchedAt
      · simp only [if_pos htouched]
        refine ⟨⟨h.positive.delete _, h.negative⟩, ?_⟩
        omega
      · simp only [if_neg htouched]
        refine ⟨⟨h.positive, h.negative.delete _⟩, ?_⟩
        omega

theorem fits_trimLoop (passes : Nat) :
    ∀ caches : DnsCaches, caches.Ordered → caches.size ≤ maxEntries + passes →
      (trimLoop maxEntries passes caches).Ordered ∧
        (trimLoop maxEntries passes caches).size ≤ maxEntries := by
  induction passes with
  | zero =>
    intro caches h hsize
    exact ⟨h, hsize⟩
  | succ passes ih =>
    intro caches h hsize
    unfold trimLoop
    by_cases hlarge : maxEntries < caches.size
    · rw [if_pos hlarge]
      obtain ⟨hordered, hdropped⟩ := h.dropOldest
      exact ih caches.dropOldest hordered (by omega)
    · rw [if_neg hlarge]
      exact ⟨h, by omega⟩

theorem fits_trimCache {caches : DnsCaches} (h : caches.Ordered) :
    (trimCache maxEntries caches).Ordered ∧ (trimCache maxEntries caches).size ≤ maxEntries :=
  fits_trimLoop maxEntries caches.size caches h (by omega)

/-- A cache that is written holds no more than `cachePolicy.maxEntries` entries. -/
theorem fits_setPositive {caches : DnsCaches} (h : caches.Ordered) (entry : DnsCacheEntry) :
    (caches.setPositive toLowerCase maxEntries entry).Ordered ∧
      (caches.setPositive toLowerCase maxEntries entry).size ≤ maxEntries :=
  fits_trimCache maxEntries ⟨h.positive.set _ _, h.negative.delete _⟩

theorem fits_setNegative {caches : DnsCaches} (h : caches.Ordered) (entry : DnsCacheEntry) :
    (caches.setNegative toLowerCase maxEntries entry).Ordered ∧
      (caches.setNegative toLowerCase maxEntries entry).size ≤ maxEntries :=
  fits_trimCache maxEntries ⟨h.positive.delete _, h.negative.set _ _⟩

end DnsCaches

end Sepigs
