import Mathlib.Algebra.Order.Ring.Rat
import Sepigs.Dns.FakeIpMapping
import Sepigs.Lib.IndexBy
import Sepigs.Lib.Json

/-!
# The fake-IP table in a file (`load` and `persist` in `dns/fakeIpStore.ts`)

`persist` drops what has expired and writes the records in their order; `load` takes what
looks like a record and has not expired, and writes it to both maps.  `load` does not check
what `set` keeps: that a record is alone at its address, that there is room, and that the
address is one of the pool's.
-/

namespace Sepigs

/-- A record as a file holds it: any number may be its expiry. -/
structure FileRecord where
  domain : String
  address : String
  expiresAt : Rat
deriving DecidableEq, Repr

namespace FileRecord

/-- The tests of `load`: `isRecord`, and the types of the fields. -/
def parse : Json → Option FileRecord
  | .object fields =>
    match Json.field fields "domain", Json.field fields "address", Json.field fields "expiresAt" with
    | some (.string domain), some (.string address), some (.number expiresAt) =>
      some { domain := domain, address := address, expiresAt := expiresAt }
    | _, _, _ => none
  | _ => none

end FileRecord

/-- A store as `load` leaves it. -/
structure LoadedStore where
  byDomain : JsMap String FileRecord
  byAddress : JsMap String FileRecord
  reads : Nat

namespace LoadedStore

variable (clock : Nat → Nat)

/-- One value of the file. -/
def loadValue (store : LoadedStore) (value : Json) : LoadedStore :=
  match FileRecord.parse value with
  | none => store
  | some record =>
    let now := clock store.reads
    let store := { store with reads := store.reads + 1 }
    if (now : Rat) < record.expiresAt then
      { store with
        byDomain := store.byDomain.set record.domain record
        byAddress := store.byAddress.set record.address record }
    else store

/-- The content is `none` where there is no file or its text is not JSON. -/
def load : Option Json → LoadedStore
  | some (.array values) => values.foldl (loadValue clock) ⟨∅, ∅, 0⟩
  | _ => ⟨∅, ∅, 0⟩

end LoadedStore

namespace FakeIpService

/-- The constructor with a persistence file: the pool, and the store that was loaded. -/
def createFrom (number : String → Option Int) (clock : Nat → Nat) (config : FakeIpConfig)
    (content : Option Json) : Except ConfigError (FakeIpPool × LoadedStore) :=
  (create number config).map fun service => (service.pool, LoadedStore.load clock content)

end FakeIpService

namespace FakeIpStore

variable (clock : Nat → Nat)

/-- Reading every record, so that the expired ones are deleted. -/
def prune (store : FakeIpStore) : FakeIpStore :=
  store.byDomain.values.foldl (fun store record => (store.read clock (some record)).2) store

def recordJson (record : FakeIpRecord) : Json :=
  .object [("domain", .string record.domain), ("address", .string record.address),
    ("expiresAt", .number record.expiresAt)]

/-- What is written to the file, and the store after it. -/
def persist (store : FakeIpStore) : Json × FakeIpStore :=
  let store := store.prune clock
  (.array (store.byDomain.values.map recordJson), store)

end FakeIpStore

/-- A service that writes its table to a file. -/
structure PersistentService where
  service : FakeIpService
  file : Option Json

namespace PersistentService

variable (toLowerCase : String → String) (clock : Nat → Nat)

/-- `set` persists after it has written a record. -/
def assign (p : PersistentService) (domain : String) : Except ConfigError String × PersistentService :=
  let normalized := toLowerCase domain
  match p.service.store.getByDomain clock normalized with
  | (some existing, store) => (.ok existing.address, { p with service := { p.service with store := store } })
  | (none, store) =>
    match FakeIpService.allocate clock { p.service with store := store } normalized with
    | (.error error, service) => (.error error, { p with service := service })
    | (.ok address, service) =>
      let (content, store) := service.store.persist clock
      (.ok address, { service := { service with store := store }, file := some content })

def reverse (p : PersistentService) (address : String) : Option String × PersistentService :=
  let (domain, service) := p.service.reverse clock address
  (domain, { p with service := service })

def system : Runs.System PersistentService FakeIpService.Call where
  step p
    | .assign domain => some (p.assign toLowerCase clock domain).2
    | .reverse address => some (p.reverse clock address).2

end PersistentService

/-! ## Loading -/

namespace LoadedStore

variable (clock : Nat → Nat)

/-- The records of a file that have not expired when they are read, after some readings of
the clock. -/
def unexpired : Nat → List Json → List FileRecord
  | _, [] => []
  | reads, value :: values =>
    match FileRecord.parse value with
    | none => unexpired reads values
    | some record =>
      if (clock reads : Rat) < record.expiresAt then record :: unexpired (reads + 1) values
      else unexpired (reads + 1) values

/-- The unexpired records of a content. -/
def records : Option Json → List FileRecord
  | some (.array values) => unexpired clock 0 values
  | _ => []

/-- How often the clock is read. -/
theorem foldl_loadValue (values : List Json) (store : LoadedStore) :
    values.foldl (loadValue clock) store =
      { byDomain := (unexpired clock store.reads values).foldl (fun m r => m.set r.domain r) store.byDomain
        byAddress := (unexpired clock store.reads values).foldl (fun m r => m.set r.address r) store.byAddress
        reads := store.reads + (values.filterMap FileRecord.parse).length } := by
  induction values generalizing store with
  | nil => rfl
  | cons value values ih =>
    rw [List.foldl_cons, ih]
    cases hparse : FileRecord.parse value with
    | none =>
      rw [loadValue, unexpired, List.filterMap_cons_none hparse]
      simp only [hparse]
    | some record =>
      rw [loadValue, unexpired, List.filterMap_cons_some hparse]
      have hreads : store.reads + 1 + (values.filterMap FileRecord.parse).length =
          store.reads + ((values.filterMap FileRecord.parse).length + 1) := by omega
      by_cases hlive : (clock store.reads : Rat) < record.expiresAt
      · simp only [hparse, if_pos hlive, hreads]
        rfl
      · simp only [hparse, if_neg hlive, hreads]
        rfl

theorem byDomain_load (content : Option Json) :
    (load clock content).byDomain = JsMap.indexBy FileRecord.domain (records clock content) := by
  unfold load records
  split
  · rw [foldl_loadValue]
    rfl
  · rfl

theorem byAddress_load (content : Option Json) :
    (load clock content).byAddress = JsMap.indexBy FileRecord.address (records clock content) := by
  unfold load records
  split
  · rw [foldl_loadValue]
    rfl
  · rfl

theorem live_of_mem_unexpired {values : List Json} {reads : Nat} {r : FileRecord}
    (h : r ∈ unexpired clock reads values) :
    ∃ i, i < reads + (values.filterMap FileRecord.parse).length ∧ (clock i : Rat) < r.expiresAt := by
  induction values generalizing reads with
  | nil => cases h
  | cons value values ih =>
    rw [unexpired] at h
    cases hparse : FileRecord.parse value with
    | none =>
      simp only [hparse] at h
      rw [List.filterMap_cons_none hparse]
      exact ih h
    | some record =>
      rw [List.filterMap_cons_some hparse, List.length_cons]
      simp only [hparse] at h
      have hrest (hmem : r ∈ unexpired clock (reads + 1) values) : ∃ i,
          i < reads + ((values.filterMap FileRecord.parse).length + 1) ∧ (clock i : Rat) < r.expiresAt := by
        obtain ⟨i, hi, hlive⟩ := ih hmem
        exact ⟨i, by omega, hlive⟩
      split at h
      · next hlive =>
        rcases List.mem_cons.mp h with rfl | h
        · exact ⟨reads, by omega, hlive⟩
        · exact hrest h
      · exact hrest h

/-- What was loaded had not expired when it was read. -/
theorem live_of_mem_records {content : Option Json} {r : FileRecord} (h : r ∈ records clock content) :
    ∃ i, i < (load clock content).reads ∧ (clock i : Rat) < r.expiresAt := by
  unfold records at h
  unfold load
  split at h
  · rw [foldl_loadValue]
    exact live_of_mem_unexpired clock h
  · cases h

/-- The record is in one of the maps. -/
def Holds (store : LoadedStore) (r : FileRecord) : Prop :=
  (∃ d, store.byDomain.get d = some r) ∨ ∃ a, store.byAddress.get a = some r

/-- What a table in memory keeps, for a pool and a size. -/
structure Established (number : String → Option Int) (pool : FakeIpPool) (size : Nat)
    (store : LoadedStore) : Prop where
  inverse : ∀ d a, (∃ r, store.byDomain.get d = some r ∧ r.address = a) ↔
    ∃ r, store.byAddress.get a = some r ∧ r.domain = d
  size : store.byDomain.size ≤ size ∧ store.byAddress.size ≤ size
  live : ∀ r, store.Holds r → ∃ i, i < store.reads ∧ (clock i : Rat) < r.expiresAt
  usable : ∀ r, store.Holds r → pool.contains number r.address = .ok true

/-- The unexpired records of a file do not clash: one that is overwritten under its domain is
overwritten at its address too, and the other way round; there are at most `size` domains;
and the last address of each domain is one of the pool's. -/
structure Fits (number : String → Option Int) (pool : FakeIpPool) (size : Nat)
    (records : List FileRecord) : Prop where
  sameLast : ∀ before r later, records = before ++ r :: later →
    (JsMap.LastOf FileRecord.domain r later ↔ JsMap.LastOf FileRecord.address r later)
  size : (records.map FileRecord.domain).dedup.length ≤ size
  usable : ∀ before r later, records = before ++ r :: later → JsMap.LastOf FileRecord.domain r later →
    pool.contains number r.address = .ok true

variable {clock} {number : String → Option Int} {pool : FakeIpPool} {size : Nat}

theorem holds_load_iff (content : Option Json) (r : FileRecord) : (load clock content).Holds r ↔
    ∃ before later, records clock content = before ++ r :: later ∧
      (JsMap.LastOf FileRecord.domain r later ∨ JsMap.LastOf FileRecord.address r later) := by
  unfold Holds
  rw [byDomain_load, byAddress_load]
  simp only [JsMap.get_indexBy_eq_some_iff]
  constructor
  · rintro (⟨d, -, before, later, hrecords, hlast⟩ | ⟨a, -, before, later, hrecords, hlast⟩)
    · exact ⟨before, later, hrecords, .inl hlast⟩
    · exact ⟨before, later, hrecords, .inr hlast⟩
  · rintro ⟨before, later, hrecords, hlast | hlast⟩
    · exact .inl ⟨_, rfl, before, later, hrecords, hlast⟩
    · exact .inr ⟨_, rfl, before, later, hrecords, hlast⟩

/-- **A load restores what a table keeps exactly when the file does not clash.** -/
theorem established_iff (content : Option Json) :
    (load clock content).Established clock number pool size ↔ Fits number pool size (records clock content) := by
  constructor
  · intro h
    refine ⟨?_, ?_, ?_⟩
    · have hinverse := h.inverse
      rw [byDomain_load, byAddress_load] at hinverse
      exact JsMap.inverse_indexBy_iff.mp hinverse
    · have hsize := h.size.1
      rwa [byDomain_load, JsMap.size_indexBy] at hsize
    · intro before r later hrecords hlast
      exact h.usable r ((holds_load_iff content r).mpr ⟨before, later, hrecords, .inl hlast⟩)
  · intro h
    have hinverse : ∀ d a, (∃ r, (load clock content).byDomain.get d = some r ∧ r.address = a) ↔
        ∃ r, (load clock content).byAddress.get a = some r ∧ r.domain = d := by
      rw [byDomain_load, byAddress_load]
      exact JsMap.inverse_indexBy_iff.mpr h.sameLast
    have hsize : (load clock content).byDomain.size ≤ size := by
      rw [byDomain_load, JsMap.size_indexBy]
      exact h.size
    have hback := JsMap.size_le_of_inverse (fun d a => (hinverse d a).mpr)
    refine ⟨hinverse, ⟨hsize, hback.trans hsize⟩, ?_, ?_⟩
    · intro r hr
      obtain ⟨before, later, hrecords, -⟩ := (holds_load_iff content r).mp hr
      refine live_of_mem_records clock ?_
      rw [hrecords]
      exact List.mem_append_right _ List.mem_cons_self
    · intro r hr
      obtain ⟨before, later, hrecords, hlast⟩ := (holds_load_iff content r).mp hr
      have hdomain : JsMap.LastOf FileRecord.domain r later :=
        hlast.elim id (h.sameLast before r later hrecords).mpr
      exact h.usable before r later hrecords hdomain

end LoadedStore

end Sepigs
