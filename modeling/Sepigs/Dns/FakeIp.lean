import Mathlib.Data.List.Perm.Subperm
import Sepigs.Lib.JsMap
import Sepigs.Lib.Runs
import Sepigs.Dns.FakeIpPool

/-!
# Fake addresses for domains (`dns/fakeIp.ts`, `dns/fakeIpStore.ts`)

Records of a domain, its address and when it expires, found by either; without a
persistence file.  `clock n` is what the `n`-th call of `Date.now()` returns, so the
time can advance inside a call.
-/

namespace Sepigs

structure FakeIpRecord where
  domain : String
  address : String
  expiresAt : Nat
deriving DecidableEq, Repr

/-- Besides the maps: how often the clock was read, and the records taken out to make
room, oldest first. -/
structure FakeIpStore where
  maxSize : Nat
  byDomain : JsMap String FakeIpRecord
  byAddress : JsMap String FakeIpRecord
  reads : Nat
  evicted : List FakeIpRecord

namespace FakeIpStore

def create (maxSize : Nat) : FakeIpStore :=
  { maxSize := maxSize, byDomain := ∅, byAddress := ∅, reads := 0, evicted := [] }

def delete (store : FakeIpStore) (record : FakeIpRecord) : FakeIpStore :=
  { store with
    byDomain := store.byDomain.delete record.domain
    byAddress := store.byAddress.delete record.address }

/-- The record that has been used last comes last. -/
def touch (store : FakeIpStore) (record : FakeIpRecord) : FakeIpStore :=
  { store with byDomain := (store.byDomain.delete record.domain).set record.domain record }

/-- Deleting the oldest record, noted in `evicted`. -/
def evict (store : FakeIpStore) (record : FakeIpRecord) : FakeIpStore :=
  { store.delete record with evicted := store.evicted ++ [record] }

def oldest (store : FakeIpStore) : Option FakeIpRecord := store.byDomain.values.head?

def evictOldest (store : FakeIpStore) : Option FakeIpRecord × FakeIpStore :=
  match store.oldest with
  | none => (none, store)
  | some oldest => (some oldest, store.evict oldest)

/-- The loop of `set`; every round takes out a record. -/
def trim : Nat → FakeIpStore → FakeIpStore
  | 0, store => store
  | rounds + 1, store =>
    if store.maxSize < store.byDomain.size then
      match store.oldest with
      | none => store
      | some oldest => trim rounds (store.evict oldest)
    else store

/-- The two writes of `set`. -/
def write (store : FakeIpStore) (record : FakeIpRecord) : FakeIpStore :=
  { store with
    byDomain := store.byDomain.set record.domain record
    byAddress := store.byAddress.set record.address record }

def set (store : FakeIpStore) (record : FakeIpRecord) : FakeIpStore :=
  let store :=
    match store.byDomain.get record.domain with
    | some previous => { store with byAddress := store.byAddress.delete previous.address }
    | none => store
  let store := store.write record
  trim store.byDomain.size store

variable (clock : Nat → Nat)

def read (store : FakeIpStore) : Option FakeIpRecord → Option FakeIpRecord × FakeIpStore
  | none => (none, store)
  | some record =>
    let now := clock store.reads
    let store := { store with reads := store.reads + 1 }
    if record.expiresAt ≤ now then (none, store.delete record) else (some record, store)

/-- Reading a record that was found, and touching it when it is still there. -/
def refresh (store : FakeIpStore) (found : Option FakeIpRecord) : Option FakeIpRecord × FakeIpStore :=
  match store.read clock found with
  | (some record, store) => (some record, store.touch record)
  | (none, store) => (none, store)

def getByDomain (store : FakeIpStore) (domain : String) : Option FakeIpRecord × FakeIpStore :=
  store.refresh clock (store.byDomain.get domain)

def getByAddress (store : FakeIpStore) (address : String) : Option FakeIpRecord × FakeIpStore :=
  store.refresh clock (store.byAddress.get address)

def hasAddress (store : FakeIpStore) (address : String) : Bool × FakeIpStore :=
  match store.getByAddress clock address with
  | (record, store) => (record.isSome, store)

end FakeIpStore

structure FakeIpConfig where
  range : Option String
  cidr : Option String
  size : Option Nat
  ttlSeconds : Option Nat
deriving DecidableEq, Repr

structure FakeIpService where
  ttlSeconds : Nat
  pool : FakeIpPool
  store : FakeIpStore

namespace FakeIpService

/-- The constructor. -/
def create (number : String → Option Int) (config : FakeIpConfig) : Except ConfigError FakeIpService :=
  let size := config.size.getD 65536
  (FakeIpPool.create number ((config.range.or config.cidr).getD "198.18.0.0/15") size).map fun pool =>
    { ttlSeconds := config.ttlSeconds.getD 600, pool := pool, store := FakeIpStore.create size }

variable (toLowerCase : String → String) (clock : Nat → Nat)

/-- The record of a domain that was given an address. -/
def enter (service : FakeIpService) (domain address : String) : FakeIpService :=
  let store := service.store
  let record : FakeIpRecord :=
    { domain := domain, address := address, expiresAt := clock store.reads + service.ttlSeconds * 1000 }
  { service with store := FakeIpStore.set { store with reads := store.reads + 1 } record }

/-- A domain without a record is given a free address, or else the oldest record's. -/
def allocate (service : FakeIpService) (domain : String) : Except ConfigError String × FakeIpService :=
  match service.pool.next (fun candidate store => store.hasAddress clock candidate) service.store with
  | (.ok address, pool, store) =>
    (.ok address, enter clock { service with pool := pool, store := store } domain address)
  | (.error error, pool, store) =>
    match store.evictOldest with
    | (none, store) => (.error error, { service with pool := pool, store := store })
    | (some evicted, store) =>
      (.ok evicted.address,
        enter clock { service with pool := pool, store := store } domain evicted.address)

def assign (service : FakeIpService) (domain : String) : Except ConfigError String × FakeIpService :=
  let normalized := toLowerCase domain
  match service.store.getByDomain clock normalized with
  | (some existing, store) => (.ok existing.address, { service with store := store })
  | (none, store) => allocate clock { service with store := store } normalized

def reverse (service : FakeIpService) (address : String) : Option String × FakeIpService :=
  match service.store.getByAddress clock address with
  | (record, store) => (record.map FakeIpRecord.domain, { service with store := store })

def contains (number : String → Option Int) (service : FakeIpService) (address : String) :
    Except ConfigError Bool :=
  service.pool.contains number address

inductive Call where
  | assign (domain : String)
  | reverse (address : String)
deriving DecidableEq, Repr

/-- Calls of a service, one after the other. -/
def system : Runs.System FakeIpService Call where
  step service
    | .assign domain => some (service.assign toLowerCase clock domain).2
    | .reverse address => some (service.reverse clock address).2

end FakeIpService

namespace FakeIpStore

/-! ## The two maps -/

/-- Every record is found by its domain and by its address. -/
structure Inverse (store : FakeIpStore) : Prop where
  domain : ∀ d r, store.byDomain.get d = some r → r.domain = d ∧ store.byAddress.get r.address = some r
  address : ∀ a r, store.byAddress.get a = some r → r.address = a ∧ store.byDomain.get r.domain = some r

def Mapped (store : FakeIpStore) (r : FakeIpRecord) : Prop := store.byDomain.get r.domain = some r

instance (store : FakeIpStore) (r : FakeIpRecord) : Decidable (store.Mapped r) :=
  inferInstanceAs (Decidable (_ = _))

section Inverse

variable {store : FakeIpStore}

theorem inverse_create (maxSize : Nat) : (create maxSize).Inverse where
  domain := by
    intro d r h
    cases h
  address := by
    intro a r h
    cases h

theorem Inverse.byDomain_iff (h : store.Inverse) (d : String) (r : FakeIpRecord) :
    store.byDomain.get d = some r ↔ r.domain = d ∧ store.Mapped r := by
  constructor
  · intro hget
    obtain ⟨rfl, -⟩ := h.domain d r hget
    exact ⟨rfl, hget⟩
  · rintro ⟨rfl, hmapped⟩
    exact hmapped

theorem Inverse.byAddress_iff (h : store.Inverse) (a : String) (r : FakeIpRecord) :
    store.byAddress.get a = some r ↔ r.address = a ∧ store.Mapped r := by
  constructor
  · intro hget
    exact h.address a r hget
  · rintro ⟨rfl, hmapped⟩
    exact (h.domain r.domain r hmapped).2

/-- Two mapped records with one address are one record. -/
theorem Inverse.eq_of_address (h : store.Inverse) {r r' : FakeIpRecord} (hr : store.Mapped r)
    (hr' : store.Mapped r') (heq : r.address = r'.address) : r = r' := by
  have h1 := (h.byAddress_iff r'.address r).mpr ⟨heq, hr⟩
  have h2 := (h.byAddress_iff r'.address r').mpr ⟨rfl, hr'⟩
  exact Option.some.inj (h1.symm.trans h2)

theorem Mapped.eq_of_domain {r r' : FakeIpRecord} (hr : store.Mapped r) (hr' : store.Mapped r')
    (heq : r.domain = r'.domain) : r = r' := by
  unfold Mapped at hr hr'
  rw [heq] at hr
  exact Option.some.inj (hr.symm.trans hr')

theorem Inverse.mem_values (h : store.Inverse) (r : FakeIpRecord) :
    r ∈ store.byDomain.values ↔ store.Mapped r := by
  constructor
  · intro hmem
    obtain ⟨⟨d, r'⟩, hentry, rfl⟩ := List.mem_map.mp hmem
    exact ((h.byDomain_iff d r').mp ((JsMap.get_eq_some_iff _ _ _).mpr hentry)).2
  · intro hmapped
    exact List.mem_map.mpr ⟨_, (JsMap.get_eq_some_iff _ _ _).mp hmapped, rfl⟩

theorem Inverse.nodup_values (h : store.Inverse) : store.byDomain.values.Nodup := by
  refine List.Nodup.map_on ?_ (List.Nodup.of_map _ store.byDomain.nodup)
  rintro ⟨d, r⟩ hr ⟨d', r'⟩ hr' heq
  have hd := (h.domain d r ((JsMap.get_eq_some_iff _ _ _).mpr hr)).1
  have hd' := (h.domain d' r' ((JsMap.get_eq_some_iff _ _ _).mpr hr')).1
  have hrr : r = r' := heq
  subst hrr
  exact Prod.ext (hd.symm.trans hd') rfl

/-- The maps are no larger than a list of addresses that holds every mapped one. -/
theorem Inverse.size_le (h : store.Inverse) {addresses : List String}
    (hmem : ∀ r, store.Mapped r → r.address ∈ addresses) :
    store.byDomain.size ≤ addresses.length ∧ store.byAddress.size ≤ addresses.length := by
  constructor
  · have hmapped : ∀ r ∈ store.byDomain.values, store.Mapped r := fun r => (h.mem_values r).mp
    have hnodup : (store.byDomain.values.map FakeIpRecord.address).Nodup :=
      h.nodup_values.map_on fun r hr r' hr' heq => h.eq_of_address (hmapped r hr) (hmapped r' hr') heq
    have hsubset : store.byDomain.values.map FakeIpRecord.address ⊆ addresses := by
      intro a ha
      obtain ⟨r, hr, rfl⟩ := List.mem_map.mp ha
      exact hmem r (hmapped r hr)
    have hle := (List.subperm_of_subset hnodup hsubset).length_le
    rw [List.length_map] at hle
    unfold JsMap.values at hle
    rwa [List.length_map] at hle
  · have hsubset : store.byAddress.keys ⊆ addresses := by
      intro a ha
      obtain ⟨⟨a', r⟩, hentry, rfl⟩ := List.mem_map.mp ha
      obtain ⟨rfl, hr⟩ := (h.byAddress_iff a' r).mp ((store.byAddress.get_eq_some_iff _ _).mpr hentry)
      exact hmem r hr
    have hle := (List.subperm_of_subset store.byAddress.nodup hsubset).length_le
    rwa [← store.byAddress.length_keys]

end Inverse

end FakeIpStore

end Sepigs
