import Sepigs.Dns.FakeIp
import Mathlib.Order.Monotone.Defs

/-!
# What the calls of a fake-IP service do to the mappings

A record leaves the store when a reading of the clock finds it expired or when it is
taken out to make room; everything else keeps it.
-/

namespace Sepigs

namespace FakeIpStore

/-! ## One operation -/

section Delete

variable {store : FakeIpStore} {r r' : FakeIpRecord}

theorem mapped_delete_iff (hr : store.Mapped r) :
    (store.delete r).Mapped r' ↔ r' ≠ r ∧ store.Mapped r' := by
  unfold Mapped delete
  simp only [JsMap.get_delete]
  constructor
  · intro h
    split at h
    · cases h
    · next hne =>
      refine ⟨?_, h⟩
      rintro rfl
      exact hne rfl
  · rintro ⟨hne, h⟩
    rw [if_neg]
    · exact h
    · intro hdomain
      exact hne (Mapped.eq_of_domain h hr hdomain)

theorem Inverse.delete (h : store.Inverse) (hr : store.Mapped r) : (store.delete r).Inverse where
  domain := by
    intro d r' hget
    rw [FakeIpStore.delete, JsMap.get_delete] at hget
    split at hget
    · cases hget
    · next hd =>
      obtain ⟨rfl, hr'⟩ := (h.byDomain_iff d r').mp hget
      refine ⟨rfl, ?_⟩
      show (store.byAddress.delete r.address).get r'.address = some r'
      rw [JsMap.get_delete, if_neg]
      · exact (h.byAddress_iff _ r').mpr ⟨rfl, hr'⟩
      · intro haddress
        exact hd (congrArg FakeIpRecord.domain (h.eq_of_address hr' hr haddress))
  address := by
    intro a r' hget
    rw [FakeIpStore.delete, JsMap.get_delete] at hget
    split at hget
    · cases hget
    · next ha =>
      obtain ⟨rfl, hr'⟩ := (h.byAddress_iff a r').mp hget
      refine ⟨rfl, (mapped_delete_iff hr).mpr ⟨?_, hr'⟩⟩
      rintro rfl
      exact ha rfl

theorem get_byDomain_touch (hr : store.Mapped r) (d : String) :
    (store.touch r).byDomain.get d = store.byDomain.get d := by
  show ((store.byDomain.delete r.domain).set r.domain r).get d = store.byDomain.get d
  rw [JsMap.get_set, JsMap.get_delete]
  split
  · next hd =>
    rw [hd]
    exact hr.symm
  · rfl

theorem mapped_touch_iff (hr : store.Mapped r) : (store.touch r).Mapped r' ↔ store.Mapped r' := by
  unfold Mapped
  rw [get_byDomain_touch hr]

theorem Inverse.touch (h : store.Inverse) (hr : store.Mapped r) : (store.touch r).Inverse where
  domain := by
    intro d r' hget
    rw [get_byDomain_touch hr] at hget
    exact h.domain d r' hget
  address := by
    intro a r' hget
    rw [get_byDomain_touch hr]
    exact h.address a r' hget

theorem Inverse.write (h : store.Inverse) (hdomain : r.domain ∉ store.byDomain.keys)
    (haddress : r.address ∉ store.byAddress.keys) : (store.write r).Inverse where
  domain := by
    intro d r' hget
    have hwrite : (store.byDomain.set r.domain r).get d = some r' := hget
    rw [JsMap.get_set] at hwrite
    show r'.domain = d ∧ (store.byAddress.set r.address r).get r'.address = some r'
    rw [JsMap.get_set]
    split at hwrite
    · next hd =>
      cases hwrite
      exact ⟨hd.symm, if_pos rfl⟩
    · obtain ⟨hd, hget'⟩ := h.domain d r' hwrite
      refine ⟨hd, ?_⟩
      rw [if_neg]
      · exact hget'
      · intro heq
        rw [heq] at hget'
        rw [(store.byAddress.get_eq_none_iff r.address).mpr haddress] at hget'
        cases hget'
  address := by
    intro a r' hget
    have hwrite : (store.byAddress.set r.address r).get a = some r' := hget
    rw [JsMap.get_set] at hwrite
    show r'.address = a ∧ (store.byDomain.set r.domain r).get r'.domain = some r'
    rw [JsMap.get_set]
    split at hwrite
    · next ha =>
      cases hwrite
      exact ⟨ha.symm, if_pos rfl⟩
    · obtain ⟨ha, hget'⟩ := h.address a r' hwrite
      refine ⟨ha, ?_⟩
      rw [if_neg]
      · exact hget'
      · intro heq
        rw [heq] at hget'
        rw [(store.byDomain.get_eq_none_iff r.domain).mpr hdomain] at hget'
        cases hget'

theorem mapped_write_iff (hdomain : r.domain ∉ store.byDomain.keys) :
    (store.write r).Mapped r' ↔ r' = r ∨ store.Mapped r' := by
  unfold Mapped
  show (store.byDomain.set r.domain r).get r'.domain = some r' ↔ _
  rw [JsMap.get_set]
  constructor
  · intro h
    split at h
    · cases h
      exact Or.inl rfl
    · exact Or.inr h
  · rintro (rfl | h)
    · exact if_pos rfl
    · rw [if_neg]
      · exact h
      · intro heq
        rw [heq, (store.byDomain.get_eq_none_iff r.domain).mpr hdomain] at h
        cases h

theorem mapped_of_oldest (h : store.Inverse) (hr : store.oldest = some r) : store.Mapped r :=
  (h.mem_values r).mp (List.mem_of_head? hr)

theorem oldest_isSome (h : store.Mapped r) : store.oldest.isSome := by
  have hentry := (store.byDomain.get_eq_some_iff r.domain r).mp h
  have hmem : r ∈ store.byDomain.values := List.mem_map.mpr ⟨_, hentry, rfl⟩
  unfold oldest
  rw [List.isSome_head?]
  exact List.ne_nil_of_mem hmem

theorem trim_of_size_le (rounds : Nat) (h : store.byDomain.size ≤ store.maxSize) :
    trim rounds store = store := by
  cases rounds with
  | zero => rfl
  | succ rounds =>
    unfold trim
    rw [if_neg]
    omega

end Delete

/-! ## What is kept between two states -/

/-- What happened to the records between two states of a store. -/
structure Since (clock : Nat → Nat) (s t : FakeIpStore) : Prop where
  maxSize : t.maxSize = s.maxSize
  reads : s.reads ≤ t.reads
  records : ∃ gone, t.evicted = s.evicted ++ gone ∧ ∀ r, s.Mapped r →
    t.Mapped r ∨ r ∈ gone ∨ ∃ i, s.reads ≤ i ∧ i < t.reads ∧ r.expiresAt ≤ clock i

variable {clock : Nat → Nat}

theorem Since.refl (s : FakeIpStore) : Since clock s s where
  maxSize := rfl
  reads := Nat.le_refl _
  records := ⟨[], (List.append_nil _).symm, fun _ h => Or.inl h⟩

theorem Since.trans {s t u : FakeIpStore} (h : Since clock s t) (h' : Since clock t u) :
    Since clock s u where
  maxSize := h'.maxSize.trans h.maxSize
  reads := Nat.le_trans h.reads h'.reads
  records := by
    obtain ⟨gone, hgone, hrecords⟩ := h.records
    obtain ⟨gone', hgone', hrecords'⟩ := h'.records
    have hreads := h.reads
    have hreads' := h'.reads
    refine ⟨gone ++ gone', ?_, fun r hr => ?_⟩
    · rw [hgone', hgone, List.append_assoc]
    · rcases hrecords r hr with ht | hevicted | ⟨i, hi, hlt, hexpired⟩
      · rcases hrecords' r ht with hu | hevicted | ⟨i, hi, hlt, hexpired⟩
        · exact Or.inl hu
        · exact Or.inr (Or.inl (List.mem_append_right _ hevicted))
        · exact Or.inr (Or.inr ⟨i, by omega, hlt, hexpired⟩)
      · exact Or.inr (Or.inl (List.mem_append_left _ hevicted))
      · exact Or.inr (Or.inr ⟨i, hi, by omega, hexpired⟩)

/-- The records taken out to make room since an earlier state. -/
def evictedSince (s t : FakeIpStore) : List FakeIpRecord := t.evicted.drop s.evicted.length

/-- A record that was not taken out and has not expired is still there. -/
theorem Since.mapped {s t : FakeIpStore} (h : Since clock s t) (hclock : Monotone clock)
    {r : FakeIpRecord} (hr : s.Mapped r) (hevicted : r ∉ evictedSince s t)
    (hexpires : clock t.reads < r.expiresAt) : t.Mapped r := by
  obtain ⟨gone, hgone, hrecords⟩ := h.records
  rcases hrecords r hr with ht | hmem | ⟨i, -, hlt, hexpired⟩
  · exact ht
  · refine absurd ?_ hevicted
    unfold evictedSince
    rw [hgone, List.drop_left]
    exact hmem
  · have hle := hclock (Nat.le_of_lt hlt)
    omega

/-! ## Reading -/

theorem since_evict {store : FakeIpStore} {r : FakeIpRecord} (hr : store.Mapped r) :
    Since clock store (store.evict r) where
  maxSize := rfl
  reads := Nat.le_refl _
  records := by
    refine ⟨[r], rfl, fun r' hr' => ?_⟩
    by_cases heq : r' = r
    · exact Or.inr (Or.inl (List.mem_singleton.mpr heq))
    · exact Or.inl ((mapped_delete_iff hr).mpr ⟨heq, hr'⟩)

variable (clock)

/-- What reading a found record does. -/
structure Refreshed (store : FakeIpStore) (found : Option FakeIpRecord)
    (outcome : Option FakeIpRecord × FakeIpStore) : Prop where
  inverse : outcome.2.Inverse
  since : Since clock store outcome.2
  old : ∀ r, outcome.2.Mapped r → store.Mapped r
  still : ∀ r r', outcome.1 = some r → (outcome.2.Mapped r' ↔ store.Mapped r')
  returned : ∀ r, outcome.1 = some r → found = some r
  gone : outcome.1 = none → ∀ r, found = some r → ¬ outcome.2.Mapped r
  live : ∀ r, found = some r → clock store.reads < r.expiresAt → outcome.1 = some r

theorem refreshed {store : FakeIpStore} (h : store.Inverse) {found : Option FakeIpRecord}
    (hfound : ∀ r, found = some r → store.Mapped r) :
    Refreshed clock store found (store.refresh clock found) := by
  unfold refresh read
  cases found with
  | none =>
    refine ⟨h, Since.refl store, fun _ hr => hr, ?_, ?_, ?_, ?_⟩
    · intro r r' hr
      cases hr
    · intro r hr
      cases hr
    · intro _ r hr
      cases hr
    · intro r hr
      cases hr
  | some record =>
    have hrecord : store.Mapped record := hfound record rfl
    -- the store after the reading of the clock
    let s : FakeIpStore := { store with reads := store.reads + 1 }
    have hs : s.Inverse := ⟨h.domain, h.address⟩
    have hmapped : s.Mapped record := hrecord
    by_cases hexpired : record.expiresAt ≤ clock store.reads
    · simp only [if_pos hexpired]
      refine ⟨hs.delete hmapped, ⟨rfl, Nat.le_succ _, [], (List.append_nil _).symm, ?_⟩, ?_, ?_, ?_, ?_, ?_⟩
      · intro r hr
        by_cases heq : r = record
        · subst heq
          exact Or.inr (Or.inr ⟨store.reads, Nat.le_refl _, Nat.lt_succ_self _, hexpired⟩)
        · exact Or.inl ((mapped_delete_iff hmapped).mpr ⟨heq, hr⟩)
      · intro r hr
        exact ((mapped_delete_iff hmapped).mp hr).2
      · intro r r' hr
        cases hr
      · intro r hr
        cases hr
      · intro _ r hr hmap
        cases hr
        exact ((mapped_delete_iff hmapped).mp hmap).1 rfl
      · intro r hr hlive
        cases hr
        omega
    · simp only [if_neg hexpired]
      have htouch (r : FakeIpRecord) : (s.touch record).Mapped r ↔ store.Mapped r :=
        mapped_touch_iff hmapped
      refine ⟨hs.touch hmapped, ⟨rfl, Nat.le_succ _, [], (List.append_nil _).symm, ?_⟩, ?_, ?_, ?_, ?_, ?_⟩
      · intro r hr
        exact Or.inl ((htouch r).mpr hr)
      · intro r hr
        exact (htouch r).mp hr
      · intro r r' _
        exact htouch r'
      · intro r hr
        cases hr
        rfl
      · intro hr
        cases hr
      · intro r hr _
        cases hr
        rfl

theorem getByDomain_spec {store : FakeIpStore} (h : store.Inverse) (domain : String) :
    Refreshed clock store (store.byDomain.get domain) (store.getByDomain clock domain) :=
  refreshed clock h fun r hr => ((h.byDomain_iff domain r).mp hr).2

theorem getByAddress_spec {store : FakeIpStore} (h : store.Inverse) (address : String) :
    Refreshed clock store (store.byAddress.get address) (store.getByAddress clock address) :=
  refreshed clock h fun r hr => ((h.byAddress_iff address r).mp hr).2

theorem Inverse.mem_keys_byAddress {store : FakeIpStore} (h : store.Inverse) (a : String) :
    a ∈ store.byAddress.keys ↔ ∃ r, r.address = a ∧ store.Mapped r := by
  rw [← JsMap.has_eq_true_iff, JsMap.has, Option.isSome_iff_exists]
  exact exists_congr fun r => h.byAddress_iff a r

theorem Inverse.mem_keys_byDomain {store : FakeIpStore} (h : store.Inverse) (d : String) :
    d ∈ store.byDomain.keys ↔ ∃ r, r.domain = d ∧ store.Mapped r := by
  rw [← JsMap.has_eq_true_iff, JsMap.has, Option.isSome_iff_exists]
  exact exists_congr fun r => h.byDomain_iff d r

/-- What probing keeps: no record is added. -/
def Reads (store s : FakeIpStore) : Prop :=
  s.Inverse ∧ Since clock store s ∧ ∀ r, s.Mapped r → store.Mapped r

/-- Testing an address reads its record. -/
theorem hasAddress_tests (store : FakeIpStore) :
    FakeIpPool.Tests (fun candidate s => s.hasAddress clock candidate) (Reads clock store)
      (fun a s => a ∈ s.byAddress.keys) where
  keeps := by
    rintro a s ⟨hinverse, hsince, hold⟩
    have hget := getByAddress_spec clock hinverse a
    exact ⟨hget.inverse, hsince.trans hget.since, fun r hr => hold r (hget.old r hr)⟩
  used := by
    rintro a s ⟨hinverse, -, -⟩ htest
    have hget := getByAddress_spec clock hinverse a
    obtain ⟨r, hr⟩ := Option.isSome_iff_exists.mp htest
    obtain ⟨haddress, hmapped⟩ := (hinverse.byAddress_iff a r).mp (hget.returned r hr)
    exact (hget.inverse.mem_keys_byAddress a).mpr ⟨r, haddress, (hget.still r r hr).mpr hmapped⟩
  unused := by
    rintro a s ⟨hinverse, -, -⟩ htest hmem
    have hget := getByAddress_spec clock hinverse a
    obtain ⟨r, haddress, hmapped⟩ := (hget.inverse.mem_keys_byAddress a).mp hmem
    have hfound := (hinverse.byAddress_iff a r).mpr ⟨haddress, hget.old r hmapped⟩
    exact hget.gone (Option.isSome_eq_false_iff.mp htest |> Option.isNone_iff_eq_none.mp) r hfound hmapped
  others := by
    rintro a b s ⟨hinverse, -, -⟩ htest hmem
    have hget := getByAddress_spec clock hinverse a
    obtain ⟨r, hr⟩ := Option.isSome_iff_exists.mp htest
    obtain ⟨r', haddress, hmapped⟩ := (hinverse.mem_keys_byAddress b).mp hmem
    exact (hget.inverse.mem_keys_byAddress b).mpr ⟨r', haddress, (hget.still r r' hr).mpr hmapped⟩

end FakeIpStore

namespace FakeIpService

open FakeIpStore (Since)

/-- Every mapped address is one of the pool's. -/
structure Sound (service : FakeIpService) (base bits size : Nat) : Prop where
  pool : service.pool.Covers base bits size
  inverse : service.store.Inverse
  maxSize : service.store.maxSize = size
  addresses : ∀ r, service.store.Mapped r →
    ∃ i, i < service.pool.capacity ∧ r.address = service.pool.candidate i

variable (clock : Nat → Nat) {service : FakeIpService} {base bits size : Nat}

theorem size_le_capacity {pool : FakeIpPool} {store : FakeIpStore} (h : store.Inverse)
    (haddresses : ∀ r, store.Mapped r → ∃ i, i < pool.capacity ∧ r.address = pool.candidate i) :
    store.byDomain.size ≤ pool.capacity ∧ store.byAddress.size ≤ pool.capacity := by
  have hmem : ∀ r, store.Mapped r → r.address ∈ (List.range pool.capacity).map pool.candidate := by
    intro r hr
    obtain ⟨i, hi, haddress⟩ := haddresses r hr
    exact List.mem_map.mpr ⟨i, List.mem_range.mpr hi, haddress.symm⟩
  have hsize := h.size_le hmem
  rwa [List.length_map, List.length_range] at hsize

/-- The record that `enter` writes. -/
def recordOf (service : FakeIpService) (domain address : String) : FakeIpRecord :=
  { domain := domain, address := address
    expiresAt := clock service.store.reads + service.ttlSeconds * 1000 }

theorem enter_eq (h : service.Sound base bits size) {domain address : String}
    (hdomain : domain ∉ service.store.byDomain.keys) (haddress : address ∉ service.store.byAddress.keys)
    (hpool : ∃ i, i < service.pool.capacity ∧ address = service.pool.candidate i) :
    enter clock service domain address =
        { service with
          store := FakeIpStore.write { service.store with reads := service.store.reads + 1 }
            (recordOf clock service domain address) } ∧
      (enter clock service domain address).Sound base bits size := by
  let s : FakeIpStore := { service.store with reads := service.store.reads + 1 }
  let r := recordOf clock service domain address
  have hs : s.Inverse := ⟨h.inverse.domain, h.inverse.address⟩
  have hwrite : (s.write r).Inverse := hs.write hdomain haddress
  have haddresses : ∀ r', (s.write r).Mapped r' →
      ∃ i, i < service.pool.capacity ∧ r'.address = service.pool.candidate i := by
    intro r' hr'
    rcases (FakeIpStore.mapped_write_iff hdomain).mp hr' with rfl | hold
    · exact hpool
    · exact h.addresses r' hold
  have hsize : (s.write r).byDomain.size ≤ (s.write r).maxSize := by
    have hle := (size_le_capacity hwrite haddresses).1
    have hcapacity := h.pool.capacity
    have hmax : (s.write r).maxSize = size := h.maxSize
    omega
  have hset : s.set r = s.write r := by
    unfold FakeIpStore.set
    have hnone : s.byDomain.get r.domain = none := (s.byDomain.get_eq_none_iff _).mpr hdomain
    rw [hnone]
    exact FakeIpStore.trim_of_size_le _ hsize
  have heq : enter clock service domain address = { service with store := s.write r } :=
    congrArg (fun store => { service with store := store }) hset
  refine ⟨heq, ?_⟩
  rw [heq]
  exact ⟨h.pool, hwrite, h.maxSize, haddresses⟩

/-- What giving a free address to a domain without one does. -/
theorem enter_spec (h : service.Sound base bits size) {domain address : String}
    (hdomain : domain ∉ service.store.byDomain.keys) (haddress : address ∉ service.store.byAddress.keys)
    (hpool : ∃ i, i < service.pool.capacity ∧ address = service.pool.candidate i) :
    (enter clock service domain address).Sound base bits size ∧
      Since clock service.store (enter clock service domain address).store ∧
      (enter clock service domain address).store.Mapped (recordOf clock service domain address) ∧
      (enter clock service domain address).store.reads = service.store.reads + 1 ∧
      (enter clock service domain address).ttlSeconds = service.ttlSeconds := by
  obtain ⟨heq, hsound⟩ := enter_eq clock h hdomain haddress hpool
  let s : FakeIpStore := { service.store with reads := service.store.reads + 1 }
  have hmapped (r : FakeIpRecord) : (s.write (recordOf clock service domain address)).Mapped r ↔
      r = recordOf clock service domain address ∨ s.Mapped r :=
    FakeIpStore.mapped_write_iff hdomain
  refine ⟨hsound, ?_⟩
  rw [heq]
  refine ⟨⟨rfl, Nat.le_succ _, [], (List.append_nil _).symm, fun r hr => Or.inl ?_⟩, ?_, rfl, rfl⟩
  · exact (hmapped r).mpr (Or.inr hr)
  · exact (hmapped _).mpr (Or.inl rfl)

/-- What `assign` returns and leaves: a mapped record of the domain. -/
structure Assigned (service : FakeIpService) (domain : String)
    (base bits size : Nat) (outcome : Except ConfigError String × FakeIpService)
    (r : FakeIpRecord) : Prop where
  sound : outcome.2.Sound base bits size
  since : Since clock service.store outcome.2.store
  returned : outcome.1 = .ok r.address
  domain : r.domain = domain
  mapped : outcome.2.store.Mapped r
  expires : service.store.Mapped r ∨ ∃ i, service.store.reads ≤ i ∧ i < outcome.2.store.reads ∧
    r.expiresAt = clock i + service.ttlSeconds * 1000

theorem Sound.withStore {clock} (h : service.Sound base bits size) {store : FakeIpStore}
    {pool : FakeIpPool} (hinverse : store.Inverse) (hsince : Since clock service.store store)
    (hold : ∀ r, store.Mapped r → service.store.Mapped r) (hfirst : pool.first = service.pool.first)
    (hcapacity : pool.capacity = service.pool.capacity) (hcursor : pool.cursor < service.pool.capacity) :
    Sound { service with pool := pool, store := store } base bits size where
  pool := by
    refine ⟨hfirst.trans h.pool.first, hcapacity.trans h.pool.capacity, ?_, ?_, h.pool.base⟩
    · rw [hcapacity]
      exact h.pool.pos
    · rw [hcapacity]
      exact hcursor
  inverse := hinverse
  maxSize := hsince.maxSize.trans h.maxSize
  addresses := by
    intro r hr
    obtain ⟨i, hi, haddress⟩ := h.addresses r (hold r hr)
    refine ⟨i, hcapacity.symm ▸ hi, haddress.trans ?_⟩
    unfold FakeIpPool.candidate
    rw [hfirst]

/-- A domain that is entered with a free address of the pool is assigned that address. -/
theorem assigned_enter {service' : FakeIpService} (h : service'.Sound base bits size)
    (hsince : Since clock service.store service'.store) (httl : service'.ttlSeconds = service.ttlSeconds)
    {domain address : String} (hdomain : ∀ r, service'.store.Mapped r → r.domain ≠ domain)
    (hfree : address ∉ service'.store.byAddress.keys)
    (hpool : ∃ i, i < service'.pool.capacity ∧ address = service'.pool.candidate i) :
    Assigned clock service domain base bits size (.ok address, enter clock service' domain address)
      (recordOf clock service' domain address) := by
  have hkey : domain ∉ service'.store.byDomain.keys := by
    intro hmem
    obtain ⟨r, hr, hmapped⟩ := (h.inverse.mem_keys_byDomain _).mp hmem
    exact hdomain r hmapped hr
  obtain ⟨hsound, henter, hmapped, hreads, -⟩ := enter_spec clock h hkey hfree hpool
  refine ⟨hsound, hsince.trans henter, rfl, rfl, hmapped, Or.inr ⟨service'.store.reads, hsince.reads, ?_, ?_⟩⟩
  · show service'.store.reads < (enter clock service' domain address).store.reads
    rw [hreads]
    exact Nat.lt_succ_self _
  · show clock service'.store.reads + service'.ttlSeconds * 1000 = _
    rw [httl]

/-- Taking out a record frees its address. -/
theorem Sound.evict (h : service.Sound base bits size) {oldest : FakeIpRecord}
    (hmapped : service.store.Mapped oldest) :
    Sound { service with store := service.store.evict oldest } base bits size ∧
      oldest.address ∉ (service.store.evict oldest).byAddress.keys ∧
      ∀ r, (service.store.evict oldest).Mapped r ↔ r ≠ oldest ∧ service.store.Mapped r := by
  have hleft (r : FakeIpRecord) : (service.store.evict oldest).Mapped r ↔ r ≠ oldest ∧ service.store.Mapped r :=
    FakeIpStore.mapped_delete_iff hmapped
  have hevicted : (service.store.evict oldest).Inverse :=
    have hdelete := h.inverse.delete hmapped
    ⟨hdelete.domain, hdelete.address⟩
  refine ⟨?_, ?_, hleft⟩
  · have hsince : Since (fun _ => 0) service.store (service.store.evict oldest) :=
      FakeIpStore.since_evict hmapped
    exact h.withStore hevicted hsince (fun r hr => ((hleft r).mp hr).2) rfl rfl h.pool.cursor
  · intro hmem
    obtain ⟨r, hr, hmapped'⟩ := (hevicted.mem_keys_byAddress _).mp hmem
    obtain ⟨hne, hstill⟩ := (hleft r).mp hmapped'
    exact hne (h.inverse.eq_of_address hstill hmapped hr)

/-- A free address is found by probing, or every address is taken and the oldest record
gives up its own. -/
theorem allocate_spec (h : service.Sound base bits size) {domain : String}
    (hdomain : ∀ r, service.store.Mapped r → r.domain ≠ domain) :
    ∃ r, Assigned clock service domain base bits size (service.allocate clock domain) r := by
  obtain ⟨hreads, -, hpool⟩ := FakeIpPool.probe_spec
    (FakeIpStore.hasAddress_tests clock service.store) service.pool.capacity
    service.pool service.store ⟨h.inverse, Since.refl _, fun _ hr => hr⟩ h.pool.cursor
  unfold allocate FakeIpPool.next
  rcases hnext : FakeIpPool.probe (fun candidate store => store.hasAddress clock candidate)
    service.pool.capacity service.pool service.store with ⟨result, pool, store⟩
  rw [hnext] at hreads hpool
  rw [hnext]
  obtain ⟨hinverse, hsince, hold⟩ := hreads
  have hsound : Sound { service with pool := pool, store := store } base bits size :=
    h.withStore hinverse hsince hold hpool.first hpool.capacity hpool.cursor
  cases result with
  | ok address =>
    obtain ⟨⟨i, hi, haddress⟩, hfree⟩ := hpool.free address rfl
    have hcandidate : pool.candidate i = service.pool.candidate i := by
      unfold FakeIpPool.candidate
      rw [hpool.first]
    have hlt : i < pool.capacity := by
      rw [hpool.capacity]
      exact hi
    exact ⟨_, assigned_enter clock hsound hsince rfl (fun r hr => hdomain r (hold r hr)) hfree
      ⟨i, hlt, haddress.trans hcandidate.symm⟩⟩
  | error error =>
    have hused := hpool.all_used rfl h.pool.cursor h.pool.pos
    obtain ⟨r, -, hr⟩ := (hinverse.mem_keys_byAddress _).mp hused
    obtain ⟨oldest, holdest⟩ := Option.isSome_iff_exists.mp (FakeIpStore.oldest_isSome hr)
    have hmapped := FakeIpStore.mapped_of_oldest hinverse holdest
    obtain ⟨hsound', hfree, hleft⟩ := hsound.evict hmapped
    have hsince' := hsince.trans (FakeIpStore.since_evict hmapped)
    have hdomain' : ∀ r', (store.evict oldest).Mapped r' → r'.domain ≠ domain :=
      fun r' hr' => hdomain r' (hold r' ((hleft r').mp hr').2)
    simp only [FakeIpStore.evictOldest, holdest]
    exact ⟨_, assigned_enter clock hsound' hsince' rfl hdomain' hfree (hsound.addresses oldest hmapped)⟩

/-- `assign` gives an address, whatever the state it finds. -/
theorem assign_spec (h : service.Sound base bits size) (toLowerCase : String → String)
    (domain : String) :
    ∃ r, Assigned clock service (toLowerCase domain) base bits size
      (service.assign toLowerCase clock domain) r := by
  have hget := FakeIpStore.getByDomain_spec clock h.inverse (toLowerCase domain)
  unfold assign
  simp only []
  rcases hfound : service.store.getByDomain clock (toLowerCase domain) with ⟨answer, store⟩
  rw [hfound] at hget
  have hsound : Sound { service with store := store } base bits size :=
    h.withStore hget.inverse hget.since hget.old rfl rfl h.pool.cursor
  cases answer with
  | some existing =>
    obtain ⟨hdomain, hmapped⟩ := (h.inverse.byDomain_iff _ existing).mp (hget.returned existing rfl)
    exact ⟨existing, hsound, hget.since, rfl, hdomain, (hget.still existing existing rfl).mpr hmapped,
      Or.inl hmapped⟩
  | none =>
    have hdomain : ∀ r, store.Mapped r → r.domain ≠ toLowerCase domain := by
      intro r hr heq
      exact hget.gone rfl r ((h.inverse.byDomain_iff _ r).mpr ⟨heq, hget.old r hr⟩) hr
    obtain ⟨r, hr⟩ := allocate_spec clock hsound hdomain
    have hreads := hget.since.reads
    refine ⟨r, hr.sound, hget.since.trans hr.since, hr.returned, hr.domain, hr.mapped, ?_⟩
    rcases hr.expires with hmapped | ⟨i, hi, hlt, hexpires⟩
    · exact Or.inl (hget.old r hmapped)
    · exact Or.inr ⟨i, Nat.le_trans hreads hi, hlt, hexpires⟩

theorem reverse_spec (h : service.Sound base bits size) (address : String) :
    (service.reverse clock address).2.Sound base bits size ∧
      Since clock service.store (service.reverse clock address).2.store := by
  have hget := FakeIpStore.getByAddress_spec clock h.inverse address
  exact ⟨h.withStore hget.inverse hget.since hget.old rfl rfl h.pool.cursor, hget.since⟩

/-- While a record is mapped and has not expired, both directions find it. -/
theorem answers_of_mapped (h : service.Sound base bits size) {r : FakeIpRecord}
    (hr : service.store.Mapped r) (hlive : clock service.store.reads < r.expiresAt) :
    (service.reverse clock r.address).1 = some r.domain ∧
      ∀ (toLowerCase : String → String) (domain : String), toLowerCase domain = r.domain →
        (service.assign toLowerCase clock domain).1 = .ok r.address := by
  constructor
  · have hget := FakeIpStore.getByAddress_spec clock h.inverse r.address
    have hfound := hget.live r ((h.inverse.byAddress_iff _ r).mpr ⟨rfl, hr⟩) hlive
    unfold reverse
    simp only [hfound, Option.map_some]
  · intro toLowerCase domain hdomain
    have hget := FakeIpStore.getByDomain_spec clock h.inverse r.domain
    have hfound := hget.live r ((h.inverse.byDomain_iff _ r).mpr ⟨rfl, hr⟩) hlive
    unfold assign
    simp only [hdomain]
    rcases hanswer : service.store.getByDomain clock r.domain with ⟨answer, store⟩
    rw [hanswer] at hfound
    cases hfound
    rfl

/-! ## Runs of calls -/

theorem create_sound {number : String → Option Int} {config : FakeIpConfig}
    (hcreate : create number config = .ok service) :
    ∃ base bits,
      FakeIpPool.parseRange number ((config.range.or config.cidr).getD "198.18.0.0/15") = .ok (base, bits) ∧
        service.Sound base bits (config.size.getD 65536) := by
  unfold create at hcreate
  simp only [] at hcreate
  cases hpool : FakeIpPool.create number ((config.range.or config.cidr).getD "198.18.0.0/15")
    (config.size.getD 65536) with
  | error error =>
    rw [hpool] at hcreate
    cases hcreate
  | ok pool =>
    rw [hpool] at hcreate
    cases hcreate
    obtain ⟨base, bits, hrange, hcovers⟩ := FakeIpPool.create_spec number hpool
    refine ⟨base, bits, hrange, hcovers, FakeIpStore.inverse_create _, rfl, ?_⟩
    intro r hr
    cases hr

/-- Every run keeps the mappings, but for those that expire or are taken out. -/
theorem run_spec (toLowerCase : String → String) {calls : List Call} {service' : FakeIpService}
    (h : service.Sound base bits size) (hrun : (system toLowerCase clock).run service calls = some service') :
    service'.Sound base bits size ∧ Since clock service.store service'.store := by
  refine (system toLowerCase clock).run_relation (fun _ _ => True) (fun s => s.Sound base bits size)
    (fun s t => Since clock s.store t.store) (fun s => Since.refl s.store)
    (fun s t u hst htu => hst.trans htu) ?_ calls service service' h
    (Runs.System.along_true _ service calls) hrun
  intro s call s' hs _ hstep
  cases call with
  | assign domain =>
    cases hstep
    obtain ⟨r, hr⟩ := assign_spec clock hs toLowerCase domain
    exact ⟨hr.sound, hr.since⟩
  | reverse address =>
    cases hstep
    exact reverse_spec clock hs address

/-- **The mappings are a bijection.**  In every state of a service, whatever was assigned
and asked for: the two maps are inverse to each other and no larger than the range and
the size allow; the next `assign` returns a usable address of the range; and the domain
and that address are found by each other until the record expires or is taken out. -/
theorem mappings_bijective (number : String → Option Int) (toLowerCase : String → String)
    (hclock : Monotone clock)
    (hnumber : ∀ n : Nat, n ≤ 255 → number (toString n) = some (n : Int)) (config : FakeIpConfig)
    (hcreate : create number config = .ok service) (calls : List Call) (s : FakeIpService)
    (hrun : (system toLowerCase clock).run service calls = some s) :
    ∃ base bits,
      FakeIpPool.parseRange number ((config.range.or config.cidr).getD "198.18.0.0/15") = .ok (base, bits) ∧
      (∀ d a, (∃ r, s.store.byDomain.get d = some r ∧ r.address = a) ↔
        ∃ r, s.store.byAddress.get a = some r ∧ r.domain = d) ∧
      (∀ d d' r r', s.store.byDomain.get d = some r → s.store.byDomain.get d' = some r' →
        r.address = r'.address → d = d') ∧
      s.store.byDomain.size ≤ min (config.size.getD 65536) (usableAddresses bits) ∧
      s.store.byAddress.size ≤ min (config.size.getD 65536) (usableAddresses bits) ∧
      ∀ domain, ∃ address s', s.assign toLowerCase clock domain = (.ok address, s') ∧
        s'.contains number address = .ok true ∧
        (∃ value, ipv4ToNumber number address = .ok value ∧ networkAddress base bits < value ∧
          value < broadcastAddress base bits) ∧
        ∃ r, s'.store.Mapped r ∧ r.domain = toLowerCase domain ∧ r.address = address ∧
          (s.store.Mapped r ∨ ∃ i, s.store.reads ≤ i ∧ i < s'.store.reads ∧
            r.expiresAt = clock i + s.ttlSeconds * 1000) ∧
          ∀ calls' t, (system toLowerCase clock).run s' calls' = some t →
            r ∉ FakeIpStore.evictedSince s'.store t.store → clock t.store.reads < r.expiresAt →
              (t.reverse clock address).1 = some (toLowerCase domain) ∧
                ∀ domain', toLowerCase domain' = toLowerCase domain →
                  (t.assign toLowerCase clock domain').1 = .ok address := by
  obtain ⟨base, bits, hrange, hsound⟩ := create_sound hcreate
  obtain ⟨hs, -⟩ := run_spec clock toLowerCase hsound hrun
  have hsize := size_le_capacity hs.inverse hs.addresses
  rw [hs.pool.capacity] at hsize
  refine ⟨base, bits, hrange, ?_, ?_, hsize.1, hsize.2, ?_⟩
  · intro d a
    constructor
    · rintro ⟨r, hr, rfl⟩
      obtain ⟨hd, haddress⟩ := hs.inverse.domain d r hr
      exact ⟨r, haddress, hd⟩
    · rintro ⟨r, hr, rfl⟩
      obtain ⟨ha, hdomain⟩ := hs.inverse.address a r hr
      exact ⟨r, hdomain, ha⟩
  · intro d d' r r' hr hr' haddress
    obtain ⟨hd, hmapped⟩ := (hs.inverse.byDomain_iff d r).mp hr
    obtain ⟨hd', hmapped'⟩ := (hs.inverse.byDomain_iff d' r').mp hr'
    have hrr : r = r' := hs.inverse.eq_of_address hmapped hmapped' haddress
    rw [← hd, ← hd', hrr]
  · intro domain
    obtain ⟨r, hr⟩ := assign_spec clock hs toLowerCase domain
    obtain ⟨i, hi, haddress⟩ := hr.sound.addresses r hr.mapped
    have hpool := hr.sound.pool
    refine ⟨r.address, _, Prod.ext hr.returned rfl, ?_, ?_, r, hr.mapped, hr.domain, rfl, hr.expires, ?_⟩
    · rw [haddress]
      exact hpool.contains_candidate number hnumber hi
    · rw [haddress]
      obtain ⟨hnetwork, hbroadcast, -⟩ := hpool.address_lt hi
      exact ⟨_, hpool.ipv4ToNumber_candidate number hnumber hi, hnetwork, hbroadcast⟩
    · intro calls' t hrun' hevicted hexpires
      obtain ⟨ht, hsince⟩ := run_spec clock toLowerCase hr.sound hrun'
      have hmapped := hsince.mapped hclock hr.mapped hevicted hexpires
      obtain ⟨hreverse, hassign⟩ := answers_of_mapped clock ht hmapped hexpires
      rw [hr.domain] at hreverse hassign
      exact ⟨hreverse, hassign toLowerCase⟩

/-- Two addresses, `198.18.0.1` and `198.18.0.2`. -/
def twoAddresses : FakeIpConfig where
  range := some "198.18.0.0/24"
  cidr := none
  size := some 2
  ttlSeconds := some 60

def twoAddressService : FakeIpService where
  ttlSeconds := 60
  pool := ⟨3323068417, 2, 0⟩
  store := FakeIpStore.create 2

theorem create_twoAddresses :
    create JsString.decimalNumber twoAddresses = .ok twoAddressService := rfl

/-- Three domains and two addresses: the first one gives up its address. -/
theorem mappings_bijective_two :
    ∃ service s, create JsString.decimalNumber
          { range := some "198.18.0.0/24", cidr := none, size := some 2, ttlSeconds := some 60 } =
        .ok service ∧
      (system String.toLower id).run service
          [.assign "Example.COM", .assign "two.test", .reverse "198.18.0.2", .assign "three.test"] =
        some s ∧
      s.store.byDomain.size ≤ 2 := by
  have hcreate : create JsString.decimalNumber
      { range := some "198.18.0.0/24", cidr := none, size := some 2, ttlSeconds := some 60 } =
        .ok { ttlSeconds := 60, pool := ⟨3323068417, 2, 0⟩, store := FakeIpStore.create 2 } := rfl
  obtain ⟨base, bits, -, -, -, hsize, -⟩ := mappings_bijective id JsString.decimalNumber String.toLower
    monotone_id (fun n _ => JsString.decimalNumber_toString n) _ hcreate
    [.assign "Example.COM", .assign "two.test", .reverse "198.18.0.2", .assign "three.test"] _ rfl
  exact ⟨_, _, hcreate, rfl, Nat.le_trans hsize (Nat.min_le_left _ _)⟩

end FakeIpService

end Sepigs
