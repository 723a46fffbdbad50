import Sepigs.Dns.CacheRecency
import Sepigs.Dns.FakeIp
import Sepigs.Dns.Resolver

/-!
# Carrying caches over (`dns/cacheCarryover.ts`)

A new generation starts with entries of the old one.  The positive entries are the last of the
eligible ones; the negative ones are the first that still fit.
-/

namespace Sepigs

/-- `fakeIp` of a DNS configuration. -/
structure DnsFakeIpConfig where
  enabled : Bool
  service : FakeIpConfig
  persistPath : Option String
deriving DecidableEq, Repr

/-- The sections of a `DnsConfig` that the carry-over reads. -/
structure DnsGenerationConfig where
  resolver : DnsResolverConfig
  fakeIp : DnsFakeIpConfig

/-- What `dnsResolverCompatibilityHash` hashes. -/
structure DnsCompatibility where
  mode : DnsResolverMode
  strategy : DnsStrategy
  hosts : KeyMap String String
  udpServers : List DnsUdpServerConfig
  rules : List DnsRouteRuleConfig
  fallbackHosts : KeyMap String String
  doh : DohConfig

structure DnsCacheCarryoverPlan where
  allowed : Bool
  reason : String
  positiveEntries : List DnsCacheEntry
  negativeEntries : List DnsCacheEntry
  carried : Nat
  dropped : Int
deriving DecidableEq, Repr

/-- The `stableJson` texts of two sections are equal when their fields are. -/
def fakeIpConfigEqual (left right : DnsFakeIpConfig) : Bool := left = right

section Plan

variable (keyedHash : DnsCompatibility → String)

def dnsResolverCompatibilityHash (config : DnsResolverConfig) : String :=
  keyedHash {
    mode := dnsResolverMode config
    strategy := config.strategy
    hosts := config.hosts
    udpServers := config.udpServers
    rules := config.rules
    fallbackHosts := config.fallbackHosts
    doh := config.doh }

/-- `entry.expiresAt > now && !entry.sensitive && !entry.synthetic` -/
def carries (now : Nat) (entry : DnsCacheEntry) : Bool :=
  decide (now < entry.expiresAt) && !entry.sensitive && !entry.synthetic

/-- A copy that expires within the TTL of the candidate. -/
def carriedCopy (now ttlMs : Nat) (entry : DnsCacheEntry) : DnsCacheEntry :=
  { entry with expiresAt := min entry.expiresAt (now + ttlMs), touchedAt := now }

def eligibleEntries (now ttlMs : Nat) (cache : DnsCache) : List DnsCacheEntry :=
  (cache.values.filter (carries now)).map (carriedCopy now ttlMs)

/-- `current` are the caches of the current generation, with its configuration. -/
def planDnsCacheCarryover (currentConfig : DnsGenerationConfig) (current : DnsCaches)
    (candidateConfig : DnsGenerationConfig) (now : Nat) (carryNegative : Bool) :
    Except ConfigError DnsCacheCarryoverPlan :=
  if !fakeIpConfigEqual currentConfig.fakeIp candidateConfig.fakeIp then
    .error ⟨"DNS-only transactional reload rejected high-risk fake-IP configuration change"⟩
  else
    let candidateLimit := candidateConfig.resolver.cacheMaxEntries.getD 4096
    let sameResolver := dnsResolverCompatibilityHash keyedHash currentConfig.resolver =
      dnsResolverCompatibilityHash keyedHash candidateConfig.resolver
    let fakeIpDisabled := !currentConfig.fakeIp.enabled && !candidateConfig.fakeIp.enabled
    if !sameResolver || !fakeIpDisabled then
      .ok {
        allowed := false
        reason := if !sameResolver then "resolver-identity-changed" else "fake-ip-enabled"
        positiveEntries := []
        negativeEntries := []
        carried := 0
        dropped := current.size }
    else
      let eligiblePositive :=
        eligibleEntries now candidateConfig.resolver.cacheTtlMs current.positiveCache
      let positiveEntries := eligiblePositive.drop (eligiblePositive.length - candidateLimit)
      let negativeEntries :=
        if carryNegative then
          (eligibleEntries now (candidateConfig.resolver.negativeTtlMs.getD 5000)
            current.negativeCache).take (candidateLimit - positiveEntries.length)
        else []
      let carried := positiveEntries.length + negativeEntries.length
      .ok {
        allowed := true
        reason := "compatible-resolver"
        positiveEntries := positiveEntries
        negativeEntries := negativeEntries
        carried := carried
        dropped := (current.size : Int) - carried }

end Plan

/-- A fresh generation of the candidate configuration with the plan applied to it. -/
def applyDnsCacheCarryover (toLowerCase : String → String) (generation : DNSGeneration)
    (candidateConfig : DnsGenerationConfig) (plan : DnsCacheCarryoverPlan) : ResolverGeneration :=
  (ResolverGeneration.create generation candidateConfig.resolver).carryOver toLowerCase
    plan.positiveEntries plan.negativeEntries

/-! ## Applying a plan -/

namespace DnsCaches

variable {toLowerCase : String → String} {maxEntries : Nat}

theorem trimLoop_of_fits (passes : Nat) {caches : DnsCaches} (h : caches.size ≤ maxEntries) :
    trimLoop maxEntries passes caches = caches := by
  cases passes with
  | zero => rfl
  | succ passes =>
    unfold trimLoop
    rw [if_neg (by omega)]

theorem entries_set_of_new {cache : DnsCache} {entry : DnsCacheEntry}
    (h : entry.host ∉ cache.keys) :
    (cache.set entry.host entry).entries = cache.entries ++ [(entry.host, entry)] := by
  show (JsMap.touch cache entry.host { entry with host := entry.host }).entries = _
  rw [JsMap.entries_touch, JsMap.delete_of_notMem cache h]

/-- One of the caches, and the other one. -/
structure Sides (target other : DnsCaches → DnsCache) : Prop where
  holds : ∀ caches key, caches.Holds key ↔ key ∈ (target caches).keys ∨ key ∈ (other caches).keys
  size : ∀ caches, caches.size = (target caches).size + (other caches).size

theorem sides_positive : Sides DnsCaches.positiveCache DnsCaches.negativeCache where
  holds _ _ := Iff.rfl
  size _ := rfl

theorem sides_negative : Sides DnsCaches.negativeCache DnsCaches.positiveCache where
  holds _ _ := or_comm
  size _ := Nat.add_comm _ _

section Fold

variable {target other : DnsCaches → DnsCache} {set : DnsCaches → DnsCacheEntry → DnsCaches}

/-- A set of a new host where there is room: the entry comes last. -/
theorem Sides.trim_set (hsides : Sides target other) {caches inserted : DnsCaches}
    {entry : DnsCacheEntry} (htarget : target inserted = (target caches).set entry.host entry)
    (hother : other inserted = (other caches).delete entry.host)
    (hnew : ¬ caches.Holds entry.host) (hfits : caches.size < maxEntries) :
    (target (trimCache maxEntries inserted)).entries =
        (target caches).entries ++ [(entry.host, entry)] ∧
      other (trimCache maxEntries inserted) = other caches := by
  rw [hsides.holds, not_or] at hnew
  have hentries : (target inserted).entries = (target caches).entries ++ [(entry.host, entry)] := by
    rw [htarget]
    exact entries_set_of_new hnew.1
  have hsame : other inserted = other caches := by
    rw [hother]
    exact JsMap.delete_of_notMem _ hnew.2
  have hsize : inserted.size = caches.size + 1 := by
    rw [hsides.size, hsides.size, hsame]
    unfold JsMap.size
    rw [hentries, List.length_append, List.length_singleton]
    omega
  have htrim : trimCache maxEntries inserted = inserted := trimLoop_of_fits _ (hsize.trans_le hfits)
  rw [htrim]
  exact ⟨hentries, hsame⟩

theorem setPositive_of_fits {caches : DnsCaches} {entry : DnsCacheEntry}
    (hhost : toLowerCase entry.host = entry.host) (hnew : ¬ caches.Holds entry.host)
    (hfits : caches.size < maxEntries) :
    (caches.setPositive toLowerCase maxEntries entry).positiveCache.entries =
        caches.positiveCache.entries ++ [(entry.host, entry)] ∧
      (caches.setPositive toLowerCase maxEntries entry).negativeCache = caches.negativeCache := by
  unfold setPositive
  rw [hhost]
  exact sides_positive.trim_set rfl rfl hnew hfits

theorem setNegative_of_fits {caches : DnsCaches} {entry : DnsCacheEntry}
    (hhost : toLowerCase entry.host = entry.host) (hnew : ¬ caches.Holds entry.host)
    (hfits : caches.size < maxEntries) :
    (caches.setNegative toLowerCase maxEntries entry).negativeCache.entries =
        caches.negativeCache.entries ++ [(entry.host, entry)] ∧
      (caches.setNegative toLowerCase maxEntries entry).positiveCache = caches.positiveCache := by
  unfold setNegative
  rw [hhost]
  exact sides_negative.trim_set rfl rfl hnew hfits

/-- A list of new hosts goes to the end of the cache that is written. -/
theorem foldl_set (hsides : Sides target other)
    (hset : ∀ caches entry, toLowerCase entry.host = entry.host → ¬ caches.Holds entry.host →
      caches.size < maxEntries →
      (target (set caches entry)).entries = (target caches).entries ++ [(entry.host, entry)] ∧
        other (set caches entry) = other caches)
    (entries : List DnsCacheEntry) :
    ∀ caches : DnsCaches, (∀ entry ∈ entries, toLowerCase entry.host = entry.host) →
      (∀ entry ∈ entries, ¬ caches.Holds entry.host) →
      (entries.map DnsCacheEntry.host).Nodup → caches.size + entries.length ≤ maxEntries →
      (target (entries.foldl set caches)).entries =
          (target caches).entries ++ entries.map (fun entry => (entry.host, entry)) ∧
        other (entries.foldl set caches) = other caches := by
  induction entries with
  | nil => exact fun caches _ _ _ _ => ⟨by simp, rfl⟩
  | cons entry entries ih =>
    intro caches hlower hnew hnodup hfits
    rw [List.map_cons, List.nodup_cons] at hnodup
    rw [List.length_cons] at hfits
    obtain ⟨htarget, hother⟩ := hset caches entry (hlower entry List.mem_cons_self)
      (hnew entry List.mem_cons_self) (by omega)
    have hsize : (set caches entry).size = caches.size + 1 := by
      rw [hsides.size, hsides.size, hother]
      unfold JsMap.size
      rw [htarget, List.length_append, List.length_singleton]
      omega
    have hnew' : ∀ next ∈ entries, ¬ (set caches entry).Holds next.host := by
      intro next hnext
      have hfree := hnew next (List.mem_cons_of_mem _ hnext)
      rw [hsides.holds] at hfree ⊢
      rintro (hheld | hheld)
      · unfold JsMap.keys at hheld
        rw [htarget, List.map_append, List.mem_append] at hheld
        rcases hheld with hheld | hheld
        · exact hfree (.inl hheld)
        · have hhost : next.host = entry.host := List.mem_singleton.mp hheld
          apply hnodup.1
          rw [← hhost]
          exact List.mem_map_of_mem hnext
      · rw [hother] at hheld
        exact hfree (.inr hheld)
    obtain ⟨htarget', hother'⟩ := ih (set caches entry)
      (fun next hnext => hlower next (List.mem_cons_of_mem _ hnext)) hnew' hnodup.2 (by omega)
    rw [List.foldl_cons, htarget', hother', htarget, hother, List.append_assoc]
    exact ⟨rfl, rfl⟩

end Fold

theorem values_of_entries {cache : DnsCache} {entries : List DnsCacheEntry}
    (h : cache.entries = entries.map fun entry => (entry.host, entry)) : cache.values = entries := by
  unfold JsMap.values
  rw [h, List.map_map]
  exact List.map_id _

/-- A plan that fits fills empty caches with its entries. -/
theorem foldl_plan {positives negatives : List DnsCacheEntry}
    (hlower : ∀ entry ∈ positives ++ negatives, toLowerCase entry.host = entry.host)
    (hnodup : ((positives ++ negatives).map DnsCacheEntry.host).Nodup)
    (hfits : positives.length + negatives.length ≤ maxEntries) :
    (negatives.foldl (setNegative toLowerCase maxEntries)
          (positives.foldl (setPositive toLowerCase maxEntries) ⟨∅, ∅⟩)).positiveCache.values =
        positives ∧
      (negatives.foldl (setNegative toLowerCase maxEntries)
          (positives.foldl (setPositive toLowerCase maxEntries) ⟨∅, ∅⟩)).negativeCache.values =
        negatives := by
  rw [List.map_append, List.nodup_append] at hnodup
  obtain ⟨hpos, hneg, hapart⟩ := hnodup
  have hempty : ∀ key, ¬ (⟨∅, ∅⟩ : DnsCaches).Holds key := by
    rintro key (h | h)
    · exact absurd h List.not_mem_nil
    · exact absurd h List.not_mem_nil
  obtain ⟨hpositive, hnegative⟩ := foldl_set sides_positive (fun _ _ => setPositive_of_fits) positives
    ⟨∅, ∅⟩ (fun entry hentry => hlower entry (List.mem_append_left _ hentry))
    (fun entry _ => hempty entry.host) hpos
    (by
      show 0 + positives.length ≤ maxEntries
      omega)
  generalize positives.foldl (setPositive toLowerCase maxEntries) ⟨∅, ∅⟩ = filled
    at hpositive hnegative
  have hentries : filled.positiveCache.entries = positives.map fun entry => (entry.host, entry) :=
    hpositive
  have hnew : ∀ entry ∈ negatives, ¬ filled.Holds entry.host := by
    rintro entry hentry (h | h)
    · unfold JsMap.keys at h
      rw [hentries, List.map_map] at h
      exact hapart entry.host h entry.host (List.mem_map_of_mem hentry) rfl
    · rw [hnegative] at h
      exact absurd h List.not_mem_nil
  have hsize : filled.size + negatives.length ≤ maxEntries := by
    unfold DnsCaches.size JsMap.size
    rw [hentries, hnegative, List.length_map]
    show positives.length + 0 + negatives.length ≤ maxEntries
    omega
  obtain ⟨hnegative', hpositive'⟩ := foldl_set sides_negative (fun _ _ => setNegative_of_fits) negatives
    filled (fun entry hentry => hlower entry (List.mem_append_right _ hentry)) hnew hneg hsize
  rw [hnegative] at hnegative'
  rw [hpositive']
  exact ⟨values_of_entries hentries, values_of_entries hnegative'⟩

end DnsCaches

/-! ## What is carried -/

/-- The entry may be carried: it is neither expired nor sensitive nor synthetic. -/
structure Eligible (now : Nat) (entry : DnsCacheEntry) : Prop where
  fresh : now < entry.expiresAt
  sensitive : entry.sensitive = false
  synthetic : entry.synthetic = false

theorem carries_iff (now : Nat) (entry : DnsCacheEntry) :
    carries now entry = true ↔ Eligible now entry := by
  unfold carries
  simp only [Bool.and_eq_true, decide_eq_true_eq, Bool.not_eq_true']
  constructor
  · rintro ⟨⟨hfresh, hsensitive⟩, hsynthetic⟩
    exact ⟨hfresh, hsensitive, hsynthetic⟩
  · intro h
    exact ⟨⟨h.fresh, h.sensitive⟩, h.synthetic⟩

/-- A carried entry and the entry it is a copy of. -/
structure CarriedFrom (now ttlMs : Nat) (original carried : DnsCacheEntry) : Prop where
  host : carried.host = original.host
  value : carried.value = original.value
  eligible : Eligible now carried
  original : carried.expiresAt ≤ original.expiresAt
  ttl : carried.expiresAt ≤ now + ttlMs

/-- The carried entries are copies of the most recently used of the eligible ones, in the order
of their use. -/
def CarriesRecent (usedIn : String → Nat) (now ttlMs : Nat) (cache : DnsCache)
    (carried : List DnsCacheEntry) : Prop :=
  ∃ kept, List.Forall₂ (CarriedFrom now ttlMs) kept carried ∧ (∀ entry ∈ kept, entry ∈ cache.values) ∧
    (kept.Pairwise fun a b => usedIn a.host < usedIn b.host) ∧
    ∀ entry ∈ cache.values, Eligible now entry → entry ∉ kept →
      ∀ other ∈ kept, usedIn entry.host < usedIn other.host

theorem carriedFrom_copy {now ttlMs : Nat} {entry : DnsCacheEntry} (h : Eligible now entry)
    (hpos : 0 < ttlMs) : CarriedFrom now ttlMs entry (carriedCopy now ttlMs entry) where
  host := rfl
  value := rfl
  eligible := by
    refine ⟨?_, h.sensitive, h.synthetic⟩
    have hfresh := h.fresh
    show now < min entry.expiresAt (now + ttlMs)
    omega
  original := Nat.min_le_left _ _
  ttl := Nat.min_le_right _ _

section Recent

variable {toLowerCase : String → String} {times : CacheTimes} {cache : DnsCache}
  (now ttlMs : Nat)

theorem values_host (h : cache.Sound False toLowerCase times) :
    cache.values.map DnsCacheEntry.host = cache.keys := by
  unfold JsMap.values JsMap.keys
  rw [List.map_map]
  apply List.map_congr_left
  rintro ⟨key, entry⟩ hmem
  exact (h.entries key entry hmem).1

/-- The eligible entries, in the order of their use. -/
def eligible (cache : DnsCache) : List DnsCacheEntry := cache.values.filter (carries now)

theorem mem_eligible (entry : DnsCacheEntry) :
    entry ∈ eligible now cache ↔ entry ∈ cache.values ∧ Eligible now entry := by
  unfold eligible
  rw [List.mem_filter, carries_iff]

theorem eligible_sorted (h : cache.Sound False toLowerCase times) :
    (eligible now cache).Pairwise fun a b => times.usedIn a.host < times.usedIn b.host := by
  have hkeys : cache.keys.Pairwise (times.Before False) := h.sorted
  rw [← values_host h, List.pairwise_map] at hkeys
  exact (hkeys.imp fun hab => hab.2).filter _

/-- Copies of the last entries are the most recent ones. -/
theorem carriesRecent_drop (h : cache.Sound False toLowerCase times) (n : Nat)
    (hpos : ttlMs = 0 → (eligible now cache).drop n = []) :
    CarriesRecent times.usedIn now ttlMs cache
      (((eligible now cache).map (carriedCopy now ttlMs)).drop n) := by
  have hsorted := eligible_sorted now h
  refine ⟨(eligible now cache).drop n, ?_, ?_, ?_, ?_⟩
  · rw [← List.map_drop, List.forall₂_map_right_iff, List.forall₂_same]
    intro entry hentry
    have hmem := (mem_eligible now entry).mp (List.mem_of_mem_drop hentry)
    apply carriedFrom_copy hmem.2
    by_contra hzero
    rw [hpos (by omega)] at hentry
    exact absurd hentry List.not_mem_nil
  · intro entry hentry
    exact ((mem_eligible now entry).mp (List.mem_of_mem_drop hentry)).1
  · exact hsorted.sublist (List.drop_sublist n _)
  · intro entry hentry heligible hnot other hother
    have hmem := (mem_eligible now entry).mpr ⟨hentry, heligible⟩
    rw [← List.take_append_drop n (eligible now cache)] at hmem hsorted
    have htake := (List.mem_append.mp hmem).resolve_right hnot
    exact (List.pairwise_append.mp hsorted).2.2 entry htake other hother

/-- Copies with no time to live are not fresh. -/
theorem nil_of_carriesRecent {usedIn : String → Nat} {carried : List DnsCacheEntry}
    (h : CarriesRecent usedIn now 0 cache carried) : carried = [] := by
  obtain ⟨kept, hcopies, -⟩ := h
  cases hcopies with
  | nil => rfl
  | cons hcopy _ =>
    have hfresh := hcopy.eligible.fresh
    have httl := hcopy.ttl
    omega

theorem carriesRecent_drop_iff (h : cache.Sound False toLowerCase times) (n : Nat) :
    CarriesRecent times.usedIn now ttlMs cache
        (((eligible now cache).map (carriedCopy now ttlMs)).drop n) ↔
      (ttlMs = 0 → (eligible now cache).length ≤ n) := by
  constructor
  · rintro hrecent rfl
    have hnil := nil_of_carriesRecent now hrecent
    rw [← List.map_drop, List.map_eq_nil_iff, List.drop_eq_nil_iff] at hnil
    exact hnil
  · intro hpos
    apply carriesRecent_drop now ttlMs h
    intro hzero
    exact List.drop_eq_nil_iff.mpr (hpos hzero)

/-- Two entries of a cache under one host are one entry. -/
theorem eq_of_host (h : cache.Sound False toLowerCase times) {a b : DnsCacheEntry}
    (ha : a ∈ cache.values) (hb : b ∈ cache.values) (hhost : a.host = b.host) : a = b := by
  have hnodup : (cache.values.map DnsCacheEntry.host).Nodup := by
    rw [values_host h]
    exact cache.nodup
  exact List.inj_on_of_nodup_map hnodup ha hb hhost

/-- The entries that the copies were made of are known by their hosts. -/
theorem kept_eq (h : cache.Sound False toLowerCase times) {kept originals : List DnsCacheEntry}
    (hcopies : List.Forall₂ (CarriedFrom now ttlMs) kept (originals.map (carriedCopy now ttlMs)))
    (hkept : ∀ entry ∈ kept, entry ∈ cache.values)
    (horiginals : ∀ entry ∈ originals, entry ∈ cache.values) : kept = originals := by
  rw [List.forall₂_map_right_iff] at hcopies
  induction hcopies with
  | nil => rfl
  | cons hcopy _ ih =>
    have hhead := eq_of_host h (hkept _ List.mem_cons_self) (horiginals _ List.mem_cons_self)
      hcopy.host.symm
    have htail := ih (fun entry hentry => hkept entry (List.mem_cons_of_mem _ hentry))
      fun entry hentry => horiginals entry (List.mem_cons_of_mem _ hentry)
    rw [hhead, htail]

/-- Copies of the first entries are the most recent ones only where they are all or none. -/
theorem carriesRecent_take_iff (h : cache.Sound False toLowerCase times) (n : Nat) :
    CarriesRecent times.usedIn now ttlMs cache
        (((eligible now cache).map (carriedCopy now ttlMs)).take n) ↔
      ((eligible now cache).length ≤ n ∨ n = 0) ∧
        (ttlMs = 0 → (eligible now cache).length = 0 ∨ n = 0) := by
  have hmem : ∀ entry ∈ eligible now cache, entry ∈ cache.values :=
    fun entry hentry => ((mem_eligible now entry).mp hentry).1
  constructor
  · intro hrecent
    constructor
    · by_contra hcut
      rw [not_or, Nat.not_le] at hcut
      obtain ⟨kept, hcopies, hkept, -, hnewest⟩ := hrecent
      rw [← List.map_take] at hcopies
      obtain rfl := kept_eq now ttlMs h hcopies hkept
        fun entry hentry => hmem entry (List.mem_of_mem_take hentry)
      -- The first entry is taken, the last one is left although it was used after it.
      have hsorted := eligible_sorted now h
      have hnodup : (eligible now cache).Nodup :=
        hsorted.imp fun {a b} hab heq => by
          rw [heq] at hab
          exact Nat.lt_irrefl _ hab
      obtain ⟨first, hfirst⟩ := List.exists_mem_of_ne_nil
        ((eligible now cache).take n) (by
          intro hnil
          have hlength := congrArg List.length hnil
          rw [List.length_take] at hlength
          simp only [List.length_nil] at hlength
          omega)
      obtain ⟨last, hlast⟩ := List.exists_mem_of_ne_nil ((eligible now cache).drop n) (by
          rw [Ne, List.drop_eq_nil_iff]
          omega)
      have hsplit := hsorted
      rw [← List.take_append_drop n (eligible now cache), List.pairwise_append] at hsplit
      rw [← List.take_append_drop n (eligible now cache), List.nodup_append] at hnodup
      have hbefore := hsplit.2.2 first hfirst last hlast
      have hafter := hnewest last (hmem last (List.mem_of_mem_drop hlast))
        ((mem_eligible now last).mp (List.mem_of_mem_drop hlast)).2
        (fun htaken => hnodup.2.2 last htaken last hlast rfl) first hfirst
      omega
    · rintro rfl
      have hnil := nil_of_carriesRecent now hrecent
      rw [← List.map_take, List.map_eq_nil_iff, List.take_eq_nil_iff] at hnil
      rcases hnil with hnil | hnil
      · exact .inr hnil
      · exact .inl (by rw [hnil]; rfl)
  · rintro ⟨hfits, hpos⟩
    rcases hfits with hfits | rfl
    · have hall : ((eligible now cache).map (carriedCopy now ttlMs)).take n =
          ((eligible now cache).map (carriedCopy now ttlMs)).drop 0 := by
        rw [List.take_of_length_le (by rwa [List.length_map]), List.drop_zero]
      rw [hall]
      apply carriesRecent_drop now ttlMs h
      intro hzero
      rw [List.drop_zero, ← List.length_eq_zero_iff]
      rcases hpos hzero with hnone | rfl
      · exact hnone
      · omega
    · refine ⟨[], ?_, ?_, List.Pairwise.nil, ?_⟩
      · rw [List.take_zero]
        exact .nil
      · exact fun entry hentry => absurd hentry List.not_mem_nil
      · exact fun _ _ _ _ other hother => absurd hother List.not_mem_nil

end Recent

/-! ## The plan -/

def DnsGenerationConfig.maxEntries (config : DnsGenerationConfig) : Nat :=
  config.resolver.cacheMaxEntries.getD 4096

/-- A plan that was applied to a fresh generation: the generation holds the planned entries, they
are the most recent ones that may be carried, and the counts are right. -/
structure CarriesOver (toLowerCase : String → String) (current : CacheHistory)
    (candidateConfig : DnsGenerationConfig) (generation : DNSGeneration) (now : Nat)
    (plan : DnsCacheCarryoverPlan) : Prop where
  positiveEntries : (applyDnsCacheCarryover toLowerCase generation candidateConfig
    plan).caches.positiveCache.values = plan.positiveEntries
  negativeEntries : (applyDnsCacheCarryover toLowerCase generation candidateConfig
    plan).caches.negativeCache.values = plan.negativeEntries
  positive : CarriesRecent current.times.usedIn now candidateConfig.resolver.cacheTtlMs
    current.caches.positiveCache plan.positiveEntries
  negative : CarriesRecent current.times.usedIn now
    (candidateConfig.resolver.negativeTtlMs.getD 5000) current.caches.negativeCache
    plan.negativeEntries
  carried : plan.carried = plan.positiveEntries.length + plan.negativeEntries.length
  limit : plan.carried ≤ candidateConfig.maxEntries
  total : plan.carried + plan.dropped = current.caches.size

/-- The eligible negative entries all fit beside the positive ones, or none does; and where
entries are carried they have a time to live. -/
structure Roomy (current : DnsCaches) (candidateConfig : DnsGenerationConfig) (now : Nat)
    (carryNegative : Bool) : Prop where
  positive : candidateConfig.resolver.cacheTtlMs = 0 →
    (eligible now current.positiveCache).length = 0 ∨ candidateConfig.maxEntries = 0
  negative : carryNegative = true →
    let room := candidateConfig.maxEntries - (eligible now current.positiveCache).length
    ((eligible now current.negativeCache).length ≤ room ∨ room = 0) ∧
      (candidateConfig.resolver.negativeTtlMs.getD 5000 = 0 →
        (eligible now current.negativeCache).length = 0 ∨ room = 0)

section CarryOver

variable {toLowerCase : String → String}

/-- A list of entries is set in the caches, under the limit of the generation. -/
theorem caches_foldl {set : ResolverGeneration → DnsCacheEntry → ResolverGeneration}
    {setCaches : Nat → DnsCaches → DnsCacheEntry → DnsCaches}
    (hset : ∀ self entry, set self entry =
      { self with caches := setCaches self.maxEntries self.caches entry })
    (entries : List DnsCacheEntry) :
    ∀ self : ResolverGeneration,
      entries.foldl set self =
        { self with caches := entries.foldl (setCaches self.maxEntries) self.caches } := by
  induction entries with
  | nil => exact fun self => rfl
  | cons entry entries ih =>
    intro self
    rw [List.foldl_cons, hset, ih]
    rfl

theorem carryOver_caches (self : ResolverGeneration)
    (positiveEntries negativeEntries : List DnsCacheEntry) :
    (self.carryOver toLowerCase positiveEntries negativeEntries).caches =
      negativeEntries.foldl (DnsCaches.setNegative toLowerCase self.maxEntries)
        (positiveEntries.foldl (DnsCaches.setPositive toLowerCase self.maxEntries) self.caches) := by
  unfold ResolverGeneration.carryOver
  rw [@caches_foldl (ResolverGeneration.setPositive toLowerCase)
      (DnsCaches.setPositive toLowerCase) (fun _ _ => rfl),
    @caches_foldl (ResolverGeneration.setNegative toLowerCase)
      (DnsCaches.setNegative toLowerCase) (fun _ _ => rfl)]
  rfl

end CarryOver

section Plans

variable {keyedHash : DnsCompatibility → String} {toLowerCase : String → String}
  {currentConfig candidateConfig : DnsGenerationConfig} {now : Nat} {carryNegative : Bool}
  {plan : DnsCacheCarryoverPlan}

/-- The plan for a compatible resolver. -/
structure Planned (current : DnsCaches) (candidateConfig : DnsGenerationConfig) (now : Nat)
    (carryNegative : Bool) (plan : DnsCacheCarryoverPlan) : Prop where
  positiveEntries : plan.positiveEntries =
    ((eligible now current.positiveCache).map
      (carriedCopy now candidateConfig.resolver.cacheTtlMs)).drop
      ((eligible now current.positiveCache).length - candidateConfig.maxEntries)
  negativeEntries : plan.negativeEntries =
    if carryNegative then
      ((eligible now current.negativeCache).map
        (carriedCopy now (candidateConfig.resolver.negativeTtlMs.getD 5000))).take
        (candidateConfig.maxEntries - (eligible now current.positiveCache).length)
    else []
  carried : plan.carried = plan.positiveEntries.length + plan.negativeEntries.length
  total : plan.carried + plan.dropped = current.size

theorem planned_of_ok {current : DnsCaches}
    (hsame : dnsResolverCompatibilityHash keyedHash currentConfig.resolver =
      dnsResolverCompatibilityHash keyedHash candidateConfig.resolver)
    (hcurrent : currentConfig.fakeIp.enabled = false)
    (hcandidate : candidateConfig.fakeIp.enabled = false)
    (hplan : planDnsCacheCarryover keyedHash currentConfig current candidateConfig now
      carryNegative = .ok plan) :
    Planned current candidateConfig now carryNegative plan := by
  unfold planDnsCacheCarryover at hplan
  by_cases hfake : fakeIpConfigEqual currentConfig.fakeIp candidateConfig.fakeIp = true
  · simp only [hfake, hsame, hcurrent, hcandidate] at hplan
    have hroom : candidateConfig.maxEntries -
        ((eligibleEntries now candidateConfig.resolver.cacheTtlMs current.positiveCache).drop
          ((eligibleEntries now candidateConfig.resolver.cacheTtlMs current.positiveCache).length -
            candidateConfig.maxEntries)).length =
        candidateConfig.maxEntries - (eligible now current.positiveCache).length := by
      unfold eligibleEntries eligible
      rw [List.length_drop, List.length_map]
      omega
    cases hplan
    refine ⟨?_, ?_, rfl, ?_⟩
    · show (eligibleEntries now candidateConfig.resolver.cacheTtlMs current.positiveCache).drop _ = _
      unfold eligibleEntries eligible
      rw [List.length_map]
      rfl
    · rw [← hroom]
      rfl
    · exact add_sub_cancel _ _
  · rw [Bool.not_eq_true] at hfake
    simp only [hfake] at hplan
    cases hplan

variable {history : CacheHistory}

theorem Planned.lengths (h : Planned history.caches candidateConfig now carryNegative plan) :
    plan.positiveEntries.length + plan.negativeEntries.length ≤ candidateConfig.maxEntries := by
  rw [h.positiveEntries, h.negativeEntries, List.length_drop, List.length_map]
  cases carryNegative with
  | false =>
    show _ + 0 ≤ _
    omega
  | true =>
    show _ + (List.take _ _).length ≤ _
    rw [List.length_take]
    omega

theorem hosts_copies (ttlMs : Nat) (entries : List DnsCacheEntry) :
    (entries.map (carriedCopy now ttlMs)).map DnsCacheEntry.host =
      entries.map DnsCacheEntry.host := by
  rw [List.map_map]
  rfl

theorem eligible_hosts {times : CacheTimes} {cache : DnsCache}
    (h : cache.Sound False toLowerCase times) :
    ((eligible now cache).map DnsCacheEntry.host).Sublist cache.keys := by
  rw [← values_host h]
  exact List.filter_sublist.map _

/-- The hosts of a plan are hosts of the current caches, in their order. -/
theorem Planned.hosts (h : Planned history.caches candidateConfig now carryNegative plan)
    (hsound : history.caches.Sound False toLowerCase history.times) :
    (plan.positiveEntries.map DnsCacheEntry.host).Sublist history.caches.positiveCache.keys ∧
      (plan.negativeEntries.map DnsCacheEntry.host).Sublist history.caches.negativeCache.keys := by
  constructor
  · rw [h.positiveEntries, List.map_drop, hosts_copies]
    exact (List.drop_sublist _ _).trans (eligible_hosts hsound.positive)
  · rw [h.negativeEntries]
    cases carryNegative with
    | false => exact List.nil_sublist _
    | true =>
      show (List.map _ (List.take _ _)).Sublist _
      rw [List.map_take, hosts_copies]
      exact (List.take_sublist _ _).trans (eligible_hosts hsound.negative)

theorem Planned.applied (h : Planned history.caches candidateConfig now carryNegative plan)
    (hsound : history.caches.Sound False toLowerCase history.times) (generation : DNSGeneration) :
    (applyDnsCacheCarryover toLowerCase generation candidateConfig
          plan).caches.positiveCache.values = plan.positiveEntries ∧
      (applyDnsCacheCarryover toLowerCase generation candidateConfig
          plan).caches.negativeCache.values = plan.negativeEntries := by
  obtain ⟨hpositive, hnegative⟩ := h.hosts hsound
  have hlower : ∀ entry ∈ plan.positiveEntries ++ plan.negativeEntries,
      toLowerCase entry.host = entry.host := by
    intro entry hentry
    have hkey : history.caches.Holds entry.host := by
      rcases List.mem_append.mp hentry with hentry | hentry
      · exact .inl (hpositive.subset (List.mem_map_of_mem hentry))
      · exact .inr (hnegative.subset (List.mem_map_of_mem hentry))
    rcases hkey with hkey | hkey
    · obtain ⟨⟨key, original⟩, hmem, hhost⟩ := List.mem_map.mp hkey
      rw [← hhost]
      exact (hsound.positive.entries key original hmem).2.1
    · obtain ⟨⟨key, original⟩, hmem, hhost⟩ := List.mem_map.mp hkey
      rw [← hhost]
      exact (hsound.negative.entries key original hmem).2.1
  have hnodup : ((plan.positiveEntries ++ plan.negativeEntries).map DnsCacheEntry.host).Nodup := by
    rw [List.map_append, List.nodup_append]
    refine ⟨hpositive.nodup history.caches.positiveCache.nodup,
      hnegative.nodup history.caches.negativeCache.nodup, ?_⟩
    rintro key hkey _ hkey' rfl
    exact hsound.disjoint key (hpositive.subset hkey) (hnegative.subset hkey')
  have hplan := DnsCaches.foldl_plan hlower hnodup h.lengths
  have hcaches : (applyDnsCacheCarryover toLowerCase generation candidateConfig plan).caches =
      plan.negativeEntries.foldl (DnsCaches.setNegative toLowerCase candidateConfig.maxEntries)
        (plan.positiveEntries.foldl (DnsCaches.setPositive toLowerCase candidateConfig.maxEntries)
          ⟨∅, ∅⟩) :=
    carryOver_caches (.create generation candidateConfig.resolver) _ _
  rw [hcaches]
  exact hplan

theorem Planned.carriesOver_iff (h : Planned history.caches candidateConfig now carryNegative plan)
    (hsound : history.caches.Sound False toLowerCase history.times) (generation : DNSGeneration) :
    CarriesOver toLowerCase history candidateConfig generation now plan ↔
      Roomy history.caches candidateConfig now carryNegative := by
  have hpositive := carriesRecent_drop_iff now candidateConfig.resolver.cacheTtlMs hsound.positive
    ((eligible now history.caches.positiveCache).length - candidateConfig.maxEntries)
  have hnegative := carriesRecent_take_iff now (candidateConfig.resolver.negativeTtlMs.getD 5000)
    hsound.negative
    (candidateConfig.maxEntries - (eligible now history.caches.positiveCache).length)
  rw [← h.positiveEntries] at hpositive
  constructor
  · intro hcarries
    refine ⟨?_, ?_⟩
    · intro hzero
      have hle := hpositive.mp hcarries.positive hzero
      omega
    · rintro rfl
      have hentries := hcarries.negative
      rw [h.negativeEntries] at hentries
      exact hnegative.mp hentries
  · intro hroomy
    obtain ⟨happlied, happlied'⟩ := h.applied hsound generation
    refine ⟨happlied, happlied', ?_, ?_, h.carried, ?_, h.total⟩
    · refine hpositive.mpr fun hzero => ?_
      rcases hroomy.positive hzero with hnone | hnone <;> omega
    · rw [h.negativeEntries]
      cases hcarry : carryNegative with
      | false =>
        refine ⟨[], .nil, ?_, List.Pairwise.nil, ?_⟩
        · exact fun entry hentry => absurd hentry List.not_mem_nil
        · exact fun _ _ _ _ other hother => absurd hother List.not_mem_nil
      | true => exact hnegative.mpr (hroomy.negative hcarry)
    · rw [h.carried]
      exact h.lengths

end Plans

open CacheHistory in
/-- A plan for a compatible resolver carries the most recent entries exactly where there is room
for all negative ones that may be carried, or for none. -/
theorem carryover_recent_iff (keyedHash : DnsCompatibility → String)
    (toLowerCase : String → String)
    (hlower : ∀ text, toLowerCase (toLowerCase text) = toLowerCase text)
    (currentConfig : DnsGenerationConfig) (callList : List (Nat × CacheCall))
    (history : CacheHistory)
    (hrun : (system toLowerCase currentConfig.maxEntries).run start callList = some history)
    (candidateConfig : DnsGenerationConfig)
    (hsame : dnsResolverCompatibilityHash keyedHash currentConfig.resolver =
      dnsResolverCompatibilityHash keyedHash candidateConfig.resolver)
    (hcurrent : currentConfig.fakeIp.enabled = false)
    (hcandidate : candidateConfig.fakeIp.enabled = false)
    (now : Nat) (carryNegative : Bool) (plan : DnsCacheCarryoverPlan)
    (hplan : planDnsCacheCarryover keyedHash currentConfig history.caches candidateConfig now
      carryNegative = .ok plan)
    (generation : DNSGeneration) :
    CarriesOver toLowerCase history candidateConfig generation now plan ↔
      Roomy history.caches candidateConfig now carryNegative := by
  have htime := (system toLowerCase currentConfig.maxEntries).along_true start callList
  have hsound := sound_of_run False hlower hrun (htime.mono fun _ _ _ h => absurd h not_false)
  exact (planned_of_ok hsame hcurrent hcandidate hplan).carriesOver_iff hsound generation

def carryoverConfig (cacheMaxEntries : Nat) : DnsGenerationConfig where
  resolver := {
    strategy := .system
    cacheTtlMs := 60000
    cacheMaxEntries := some cacheMaxEntries
    negativeTtlMs := some 5000
    hosts := ∅
    udpServers := []
    rules := []
    fallbackHosts := ∅
    doh := { enabled := false, endpoints := [], timeoutMs := 5000 } }
  fakeIp := {
    enabled := false
    service := { range := none, cidr := none, size := none, ttlSeconds := none }
    persistPath := none }

def failureEntry (host : String) (now : Nat) : DnsCacheEntry where
  host := host
  value := "not found"
  expiresAt := now + 5000
  touchedAt := now
  source := .system
  sensitive := false
  synthetic := false

open CacheHistory in
/-- Two failures, the second one the more recent. -/
def twoFailures : CacheHistory :=
  (start.after String.toLower 2 1 (.setNegative (failureEntry "a.test" 1))).after String.toLower 2 2
    (.setNegative (failureEntry "b.test" 2))

theorem twoFailures_run :
    (CacheHistory.system String.toLower 2).run CacheHistory.start
      [(1, .setNegative (failureEntry "a.test" 1)), (2, .setNegative (failureEntry "b.test" 2))] =
        some twoFailures := rfl

def freshGeneration : DNSGeneration where
  ref := 1
  id := "candidate-dns"
  sequence := 1
  config := { view := "{}", fakeIp := "{}" }

/-- The candidate has room for one of the failures: the plan carries the older one. -/
theorem older_failure_carried : ∃ plan,
    planDnsCacheCarryover (fun _ => "") (carryoverConfig 2) twoFailures.caches (carryoverConfig 1) 3
        true = .ok plan ∧
      ¬ CarriesOver String.toLower twoFailures (carryoverConfig 1) freshGeneration 3 plan := by
  refine ⟨_, rfl, ?_⟩
  intro hcarries
  have hsound := CacheHistory.sound_of_run False toLower_idempotent twoFailures_run
    (((CacheHistory.system String.toLower 2).along_true _ _).mono fun _ _ _ h => absurd h not_false)
  have hplanned := @planned_of_ok (fun _ => "") (carryoverConfig 2) (carryoverConfig 1) 3 true _
    twoFailures.caches rfl rfl rfl rfl
  have hroomy := (hplanned.carriesOver_iff hsound freshGeneration).mp hcarries
  exact absurd (hroomy.negative rfl).1 (by decide +kernel)

/-- With room for both failures, both are carried in the order of their use. -/
theorem carryover_recent_iff_two : ∃ plan,
    planDnsCacheCarryover (fun _ => "") (carryoverConfig 2) twoFailures.caches (carryoverConfig 2) 3
        true = .ok plan ∧
      CarriesOver String.toLower twoFailures (carryoverConfig 2) freshGeneration 3 plan := by
  refine ⟨_, rfl, ?_⟩
  refine (carryover_recent_iff (fun _ => "") String.toLower toLower_idempotent (carryoverConfig 2) _
    twoFailures twoFailures_run (carryoverConfig 2) rfl rfl rfl 3 true _ rfl freshGeneration).mpr ?_
  refine ⟨fun hzero => absurd hzero (by decide), fun _ => ⟨.inl ?_, fun hzero => ?_⟩⟩
  · decide +kernel
  · exact absurd hzero (by decide)

end Sepigs
