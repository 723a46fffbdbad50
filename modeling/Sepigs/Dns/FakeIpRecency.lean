import Sepigs.Dns.FakeIpMapping
import Sepigs.Lib.Recency

/-!
# Which mapping a full pool gives up

The search for a free address reads every mapping on its way, and each reading puts the
mapping last.  After a round over a full pool the store is in the order of the pool, so the
oldest record is the one at the cursor, whichever was used least recently.
-/

namespace Sepigs

namespace FakeIpStore

variable (clock : Nat → Nat)

/-- No mapping will be found expired. -/
def Lasting (store : FakeIpStore) : Prop :=
  ∀ r, store.Mapped r → ∀ i, store.reads ≤ i → clock i < r.expiresAt

variable {clock} {store : FakeIpStore} {r : FakeIpRecord}

theorem refresh_some (hlive : clock store.reads < r.expiresAt) :
    store.refresh clock (some r) = (some r, touch { store with reads := store.reads + 1 } r) := by
  unfold refresh read
  simp only []
  rw [if_neg (by omega)]

/-- A reading leaves the mappings as they are. -/
theorem mapped_refresh_iff (h : store.Inverse) (hlasting : store.Lasting clock)
    {found : Option FakeIpRecord} (hfound : ∀ r, found = some r → store.Mapped r) (r : FakeIpRecord) :
    (store.refresh clock found).2.Mapped r ↔ store.Mapped r := by
  cases found with
  | none => exact Iff.rfl
  | some record =>
    have hlive := hlasting record (hfound record rfl) store.reads (Nat.le_refl _)
    have hread := refreshed clock h hfound
    exact hread.still record r (hread.live record rfl hlive)

/-- The entry of a record in `byDomain`. -/
def entryOf (r : FakeIpRecord) : String × FakeIpRecord := (r.domain, r)

/-- The store after some records were read and found alive. -/
def readAll (store : FakeIpStore) (records : List FakeIpRecord) : FakeIpStore :=
  { store with
    byDomain := store.byDomain.touchAll (records.map entryOf)
    reads := store.reads + records.length }

/-- A search among taken addresses reads all their records, one after the other. -/
theorem probe_taken (records : List FakeIpRecord) (pool : FakeIpPool) (store : FakeIpStore)
    (hcursor : pool.cursor < pool.capacity)
    (htaken : ∀ j r, records[j]? = some r →
      store.byAddress.get (pool.candidate ((pool.cursor + j) % pool.capacity)) = some r)
    (hlive : ∀ r ∈ records, ∀ i, store.reads ≤ i → clock i < r.expiresAt) :
    FakeIpPool.probe (fun candidate store => store.hasAddress clock candidate) records.length pool store =
      (.error ⟨"fake-ip pool is exhausted"⟩,
        { pool with cursor := (pool.cursor + records.length) % pool.capacity },
        store.readAll records) := by
  induction records generalizing pool store with
  | nil =>
    show (_, pool, store) = _
    simp [readAll, JsMap.touchAll, Nat.mod_eq_of_lt hcursor]
  | cons r records ih =>
    have hfirst := htaken 0 r rfl
    rw [Nat.add_zero, Nat.mod_eq_of_lt hcursor] at hfirst
    have hread : store.hasAddress clock (pool.candidate pool.cursor) =
        (true, touch { store with reads := store.reads + 1 } r) := by
      unfold hasAddress getByAddress
      rw [hfirst, refresh_some (hlive r List.mem_cons_self _ (Nat.le_refl _))]
      rfl
    have hpos : 0 < pool.capacity := by omega
    show FakeIpPool.probe _ (records.length + 1) pool store = _
    unfold FakeIpPool.probe
    simp only [hread]
    rw [ih]
    · simp only [readAll, touch, List.length_cons, Prod.mk.injEq, FakeIpPool.mk.injEq, true_and]
      refine ⟨?_, ?_⟩
      · rw [Nat.mod_add_mod, Nat.add_assoc, Nat.add_comm 1]
      · congr 1
        omega
    · exact Nat.mod_lt _ hpos
    · intro j r' hr'
      have hnext := htaken (j + 1) r' hr'
      have hindex : ((pool.cursor + 1) % pool.capacity + j) % pool.capacity =
          (pool.cursor + (j + 1)) % pool.capacity := by
        rw [Nat.mod_add_mod, Nat.add_assoc, Nat.add_comm 1]
      show store.byAddress.get (pool.candidate (((pool.cursor + 1) % pool.capacity + j) % pool.capacity)) = _
      rw [hindex]
      exact hnext
    · intro r' hr' i hi
      exact hlive r' (List.mem_cons_of_mem _ hr') i (Nat.le_of_succ_le hi)

end FakeIpStore

/-! ## A service over a clock at which nothing expires -/

namespace FakeIpService

open FakeIpStore (entryOf readAll)

variable (clock : Nat → Nat)

/-- The addresses are taken one after the other, and nothing expires. -/
structure Steady (service : FakeIpService) (base bits size ttl : Nat) : Prop where
  sound : service.Sound base bits size
  ttlSeconds : service.ttlSeconds = ttl
  lasting : service.store.Lasting clock
  filled : ∃ m, m ≤ service.pool.capacity ∧ service.pool.cursor = m % service.pool.capacity ∧
    ∀ i, i < service.pool.capacity → (service.pool.candidate i ∈ service.store.byAddress.keys ↔ i < m)

variable {clock} {service : FakeIpService} {base bits size ttl : Nat}

/-- Every address of the pool is taken. -/
def Full (service : FakeIpService) : Prop :=
  ∀ i, i < service.pool.capacity → service.pool.candidate i ∈ service.store.byAddress.keys

instance (service : FakeIpService) : Decidable service.Full :=
  inferInstanceAs (Decidable (∀ i, i < service.pool.capacity → _))

theorem candidate_injective {pool : FakeIpPool} (h : pool.Covers base bits size) {i j : Nat}
    (hi : i < pool.capacity) (hj : j < pool.capacity) (heq : pool.candidate i = pool.candidate j) : i = j := by
  rw [h.candidate_eq hi, h.candidate_eq hj] at heq
  have hvalue := numberToIpv4_injective JsString.decimalNumber (fun n _ => JsString.decimalNumber_toString n)
    (h.address_lt hi).2.2 (h.address_lt hj).2.2 heq
  omega

/-- A call that leaves the mappings as they are. -/
theorem Steady.withStore (h : service.Steady clock base bits size ttl) {store : FakeIpStore}
    (hinverse : store.Inverse) (hsince : FakeIpStore.Since clock service.store store)
    (hsame : ∀ r, store.Mapped r ↔ service.store.Mapped r) :
    Steady clock { service with store := store } base bits size ttl where
  sound := h.sound.withStore hinverse hsince (fun r hr => (hsame r).mp hr) rfl rfl h.sound.pool.cursor
  ttlSeconds := h.ttlSeconds
  lasting := fun r hr i hi => h.lasting r ((hsame r).mp hr) i (hsince.reads.trans hi)
  filled := by
    obtain ⟨m, hm, hcursor, hkeys⟩ := h.filled
    refine ⟨m, hm, hcursor, fun i hi => ?_⟩
    rw [← hkeys i hi, hinverse.mem_keys_byAddress, h.sound.inverse.mem_keys_byAddress]
    exact exists_congr fun r => and_congr_right fun _ => hsame r

theorem reverse_steady (h : service.Steady clock base bits size ttl) (address : String) :
    (service.reverse clock address).2.Steady clock base bits size ttl := by
  have hget := FakeIpStore.getByAddress_spec clock h.sound.inverse address
  refine h.withStore hget.inverse hget.since fun r => ?_
  apply FakeIpStore.mapped_refresh_iff h.sound.inverse h.lasting
  intro r hr
  exact ((h.sound.inverse.byAddress_iff address r).mp hr).2

/-! ## A new domain -/

/-- The mappings after a record was written, when there was room. -/
theorem Steady.enter {m : Nat} (h : service.Sound base bits size) (httl : service.ttlSeconds = ttl)
    (hclock : ∀ i j, i ≤ j → clock j < clock i + ttl * 1000) (hlasting : service.store.Lasting clock)
    (hm : m + 1 ≤ service.pool.capacity) (hcursor : service.pool.cursor = (m + 1) % service.pool.capacity)
    {domain : String} {k : Nat} (hk : k ≤ m)
    (hkeys : ∀ i, i < service.pool.capacity →
      (service.pool.candidate i ∈ service.store.byAddress.keys ↔ i < m + 1 ∧ i ≠ k))
    (hdomain : domain ∉ service.store.byDomain.keys) :
    (enter clock service domain (service.pool.candidate k)).Steady clock base bits size ttl := by
  have hk' : k < service.pool.capacity := by omega
  have hfree : service.pool.candidate k ∉ service.store.byAddress.keys := by
    intro hmem
    exact ((hkeys k hk').mp hmem).2 rfl
  obtain ⟨heq, hsound⟩ := enter_eq clock h hdomain hfree ⟨k, hk', rfl⟩
  rw [heq] at hsound ⊢
  refine ⟨hsound, httl, ?_, m + 1, hm, hcursor, ?_⟩
  · intro r hr i hi
    rcases (FakeIpStore.mapped_write_iff hdomain).mp hr with rfl | hold
    · show clock i < clock service.store.reads + service.ttlSeconds * 1000
      rw [httl]
      exact hclock _ _ (Nat.le_of_succ_le hi)
    · exact hlasting r hold i (Nat.le_of_succ_le hi)
  · intro i hi
    show service.pool.candidate i ∈ (service.store.byAddress.set (service.pool.candidate k) _).keys ↔ _
    rw [JsMap.mem_keys_set, hkeys i hi]
    constructor
    · rintro (heq | hlt)
      · rw [candidate_injective h.pool hi hk' heq]
        omega
      · exact hlt.1
    · intro hlt
      by_cases hik : i = k
      · exact .inl (hik ▸ rfl)
      · exact .inr ⟨hlt, hik⟩

/-- The first free address is the one at the cursor. -/
theorem allocate_free (h : service.Steady clock base bits size ttl) (hfree : ¬ service.Full)
    (hclock : ∀ i j, i ≤ j → clock j < clock i + ttl * 1000) {domain : String}
    (hdomain : domain ∉ service.store.byDomain.keys) :
    (service.allocate clock domain).2.Steady clock base bits size ttl := by
  obtain ⟨m, hm, hcursor, hkeys⟩ := h.filled
  have hlt : m < service.pool.capacity := by
    refine Nat.lt_of_le_of_ne hm fun heq => hfree fun i hi => ?_
    rw [hkeys i hi, heq]
    exact hi
  rw [Nat.mod_eq_of_lt hlt] at hcursor
  have hnone : service.store.byAddress.get (service.pool.candidate m) = none := by
    rw [JsMap.get_eq_none_iff, hkeys m hlt]
    exact Nat.lt_irrefl m
  have htest : service.store.hasAddress clock (service.pool.candidate m) = (false, service.store) := by
    unfold FakeIpStore.hasAddress FakeIpStore.getByAddress
    rw [hnone]
    rfl
  obtain ⟨attempts, hattempts⟩ : ∃ attempts, service.pool.capacity = attempts + 1 :=
    Nat.exists_eq_succ_of_ne_zero (by omega)
  have hnext : service.pool.next (fun candidate store => store.hasAddress clock candidate) service.store =
      (.ok (service.pool.candidate m), { service.pool with cursor := (m + 1) % service.pool.capacity },
        service.store) := by
    unfold FakeIpPool.next
    rw [hattempts]
    unfold FakeIpPool.probe
    simp only [hcursor, htest, hattempts]
  unfold allocate
  rw [hnext]
  have hnextCursor := Nat.mod_lt (m + 1) h.sound.pool.pos
  have hsince : FakeIpStore.Since clock service.store service.store := .refl _
  have hsound : Sound { service with
      pool := { service.pool with cursor := (m + 1) % service.pool.capacity } } base bits size :=
    h.sound.withStore h.sound.inverse hsince (fun _ hr => hr) rfl rfl hnextCursor
  refine Steady.enter hsound h.ttlSeconds hclock h.lasting hlt rfl (Nat.le_refl m) ?_ hdomain
  intro i hi
  show service.pool.candidate i ∈ service.store.byAddress.keys ↔ _
  rw [hkeys i hi]
  omega

/-! ## A full pool -/

/-- The records in the order of their addresses. -/
def inPoolOrder (service : FakeIpService) : List FakeIpRecord :=
  (List.range service.pool.capacity).filterMap fun i =>
    service.store.byAddress.get (service.pool.candidate i)

theorem map_some_filterMap {α β : Type} {f : α → Option β} {l : List α} (h : ∀ a ∈ l, f a ≠ none) :
    (l.filterMap f).map some = l.map f := by
  induction l with
  | nil => rfl
  | cons a l ih =>
    have hrest := ih fun b hb => h b (List.mem_cons_of_mem a hb)
    cases hfa : f a with
    | none => exact absurd hfa (h a List.mem_cons_self)
    | some b =>
      rw [List.filterMap_cons_some hfa, List.map_cons, List.map_cons, hrest, hfa]

theorem map_some_inPoolOrder (hfull : service.Full) :
    service.inPoolOrder.map some = (List.range service.pool.capacity).map fun i =>
      service.store.byAddress.get (service.pool.candidate i) := by
  apply map_some_filterMap
  intro i hi hnone
  exact (JsMap.get_eq_none_iff _ _).mp hnone (hfull i (List.mem_range.mp hi))

theorem length_inPoolOrder (hfull : service.Full) :
    service.inPoolOrder.length = service.pool.capacity := by
  have hlength := congrArg List.length (map_some_inPoolOrder hfull)
  simpa using hlength

theorem getElem?_inPoolOrder (hfull : service.Full) {i : Nat} {r : FakeIpRecord}
    (h : service.inPoolOrder[i]? = some r) :
    i < service.pool.capacity ∧ service.store.byAddress.get (service.pool.candidate i) = some r := by
  have hi : i < service.pool.capacity := by
    rw [← length_inPoolOrder hfull]
    exact (List.getElem?_eq_some_iff.mp h).1
  have hget := congrArg (fun l => l[i]?) (map_some_inPoolOrder hfull)
  simp only [List.getElem?_map, h, List.getElem?_range hi, Option.map_some] at hget
  exact ⟨hi, (Option.some.inj hget).symm⟩

/-- Every mapping is at one address of the pool. -/
theorem mem_inPoolOrder (h : service.Sound base bits size) (hfull : service.Full) (r : FakeIpRecord) :
    r ∈ service.inPoolOrder ↔ service.store.Mapped r := by
  constructor
  · intro hr
    obtain ⟨i, hi⟩ := List.mem_iff_getElem?.mp hr
    exact ((h.inverse.byAddress_iff _ r).mp (getElem?_inPoolOrder hfull hi).2).2
  · intro hr
    obtain ⟨i, hi, haddress⟩ := h.addresses r hr
    have hget := (h.inverse.byAddress_iff _ r).mpr ⟨haddress, hr⟩
    exact List.mem_filterMap.mpr ⟨i, List.mem_range.mpr hi, hget⟩

theorem nodup_domains (h : service.Sound base bits size) (hfull : service.Full) :
    (service.inPoolOrder.map FakeIpRecord.domain).Nodup := by
  rw [List.nodup_map_iff_inj_on]
  · intro r hr r' hr' heq
    exact FakeIpStore.Mapped.eq_of_domain ((mem_inPoolOrder h hfull r).mp hr)
      ((mem_inPoolOrder h hfull r').mp hr') heq
  · rw [List.nodup_iff_getElem?_ne_getElem?]
    intro i j hij hj heq
    obtain ⟨r, hr⟩ : ∃ r, service.inPoolOrder[j]? = some r := ⟨_, List.getElem?_eq_getElem hj⟩
    obtain ⟨hi', hgeti⟩ := getElem?_inPoolOrder hfull (heq.trans hr)
    obtain ⟨hj', hgetj⟩ := getElem?_inPoolOrder hfull hr
    have hai := ((h.inverse.byAddress_iff _ r).mp hgeti).1
    have haj := ((h.inverse.byAddress_iff _ r).mp hgetj).1
    have hindex := candidate_injective h.pool hi' hj' (hai.symm.trans haj)
    omega

/-- The store after a round over a full pool is in the order of the pool. -/
theorem entries_readAll (h : service.Sound base bits size) (hfull : service.Full) :
    (service.store.readAll service.inPoolOrder).byDomain.entries = service.inPoolOrder.map entryOf := by
  have hkeys : (service.inPoolOrder.map entryOf).map Prod.fst =
      service.inPoolOrder.map FakeIpRecord.domain := by
    rw [List.map_map]
    rfl
  show (service.store.byDomain.touchAll _).entries = _
  rw [JsMap.entries_touchAll _ _ (hkeys ▸ nodup_domains h hfull), hkeys]
  have hnone : (service.store.byDomain.entries.filter fun entry =>
      entry.1 ∉ service.inPoolOrder.map FakeIpRecord.domain) = [] := by
    rw [List.filter_eq_nil_iff]
    rintro ⟨d, r⟩ hmem hout
    obtain ⟨rfl, hmapped⟩ := (h.inverse.byDomain_iff d r).mp ((JsMap.get_eq_some_iff _ _ _).mpr hmem)
    exact of_decide_eq_true hout (List.mem_map_of_mem ((mem_inPoolOrder h hfull r).mpr hmapped))
  rw [hnone, List.nil_append]

/-- The search through a full pool ends where it began. -/
theorem next_full (h : service.Steady clock base bits size ttl) (hfull : service.Full) :
    service.pool.cursor = 0 ∧
      service.pool.next (fun candidate store => store.hasAddress clock candidate) service.store =
        (.error ⟨"fake-ip pool is exhausted"⟩, service.pool, service.store.readAll service.inPoolOrder) := by
  obtain ⟨m, hm, hcursor, hkeys⟩ := h.filled
  have hpos := h.sound.pool.pos
  obtain rfl : m = service.pool.capacity := by
    have hlast := (hkeys (service.pool.capacity - 1) (by omega)).mp (hfull _ (by omega))
    omega
  rw [Nat.mod_self] at hcursor
  refine ⟨hcursor, ?_⟩
  have htaken : ∀ j r, service.inPoolOrder[j]? = some r → service.store.byAddress.get
      (service.pool.candidate ((service.pool.cursor + j) % service.pool.capacity)) = some r := by
    intro j r hr
    obtain ⟨hj, hget⟩ := getElem?_inPoolOrder hfull hr
    rw [hcursor, Nat.zero_add, Nat.mod_eq_of_lt hj]
    exact hget
  have hlive : ∀ r ∈ service.inPoolOrder, ∀ i, service.store.reads ≤ i → clock i < r.expiresAt :=
    fun r hr => h.lasting r ((mem_inPoolOrder h.sound hfull r).mp hr)
  have hprobe := FakeIpStore.probe_taken service.inPoolOrder service.pool service.store
    h.sound.pool.cursor htaken hlive
  have hpool : (⟨service.pool.first, service.pool.capacity, 0⟩ : FakeIpPool) = service.pool := by
    rw [← hcursor]
  rw [length_inPoolOrder hfull, hcursor, Nat.zero_add, Nat.mod_self, hpool] at hprobe
  exact hprobe

theorem readAll_steady (h : service.Steady clock base bits size ttl) (hfull : service.Full) :
    Steady clock { service with store := service.store.readAll service.inPoolOrder } base bits size ttl := by
  obtain ⟨⟨hinverse, hsince, hold⟩, -, -⟩ := FakeIpPool.probe_spec
    (FakeIpStore.hasAddress_tests clock service.store) service.pool.capacity
    service.pool service.store ⟨h.sound.inverse, .refl _, fun _ hr => hr⟩ h.sound.pool.cursor
  have hnext : FakeIpPool.probe (fun candidate store => store.hasAddress clock candidate)
      service.pool.capacity service.pool service.store = _ := (next_full h hfull).2
  rw [hnext] at hinverse hsince hold
  refine h.withStore hinverse hsince fun r => ⟨hold r, fun hr => ?_⟩
  rw [FakeIpStore.Mapped, JsMap.get_eq_some_iff, entries_readAll h.sound hfull]
  exact List.mem_map.mpr ⟨r, (mem_inPoolOrder h.sound hfull r).mpr hr, rfl⟩

/-- What a new domain does to a full pool: the record of the first address is taken out, and
the others come to stand in the order of their addresses. -/
structure Replaced (service : FakeIpService) (domain : String)
    (outcome : Except ConfigError String × FakeIpService) (first : FakeIpRecord)
    (rest : List FakeIpRecord) (new : FakeIpRecord) : Prop where
  order : service.inPoolOrder = first :: rest
  returned : outcome.1 = .ok first.address
  address : first.address = service.pool.candidate 0
  domain : new.domain = domain
  values : outcome.2.store.byDomain.values = rest ++ [new]

/-- Once the store is in the order of the pool, its first record gives up the address. -/
theorem enter_first (h : service.Steady clock base bits size ttl) (hfull : service.Full)
    (hcursor : service.pool.cursor = 0) (hclock : ∀ i j, i ≤ j → clock j < clock i + ttl * 1000)
    {domain : String} (hdomain : domain ∉ service.store.byDomain.keys) {first : FakeIpRecord}
    {rest : List FakeIpRecord} (hentries : service.store.byDomain.entries = entryOf first :: rest.map entryOf)
    (haddress : first.address = service.pool.candidate 0) :
    (enter clock { service with store := service.store.evict first } domain
        first.address).Steady clock base bits size ttl ∧
      (enter clock { service with store := service.store.evict first } domain
          first.address).store.byDomain.values =
        rest ++ [recordOf clock { service with store := service.store.evict first } domain first.address] := by
  have hpos := h.sound.pool.pos
  have hmapped : service.store.Mapped first := by
    rw [FakeIpStore.Mapped, JsMap.get_eq_some_iff, hentries]
    exact List.mem_cons_self
  obtain ⟨hsound, hfree, hleft⟩ := h.sound.evict hmapped
  have hnew : domain ∉ (service.store.byDomain.delete first.domain).keys := by
    rw [JsMap.mem_keys_delete]
    exact fun hmem => hdomain hmem.1
  have hkeys : ∀ i, i < service.pool.capacity →
      (service.pool.candidate i ∈ (service.store.byAddress.delete first.address).keys ↔
        i < service.pool.capacity - 1 + 1 ∧ i ≠ 0) := by
    intro i hi
    rw [JsMap.mem_keys_delete, haddress]
    constructor
    · rintro ⟨-, hne⟩
      refine ⟨by omega, ?_⟩
      rintro rfl
      exact hne rfl
    · rintro ⟨-, hne⟩
      exact ⟨hfull i hi, fun heq => hne (candidate_injective h.sound.pool hi hpos heq)⟩
  constructor
  · have hroom : service.pool.capacity - 1 + 1 ≤ service.pool.capacity := by omega
    have hlast : service.pool.cursor = (service.pool.capacity - 1 + 1) % service.pool.capacity := by
      rw [Nat.sub_add_cancel hpos, Nat.mod_self, hcursor]
    rw [haddress]
    refine Steady.enter hsound h.ttlSeconds hclock ?_ hroom hlast (Nat.zero_le _) hkeys hnew
    intro r hr
    exact h.lasting r ((hleft r).mp hr).2
  · obtain ⟨heq, -⟩ := enter_eq clock hsound hnew hfree ⟨0, hpos, haddress⟩
    rw [heq]
    show ((service.store.byDomain.delete first.domain).set domain _).values = _
    unfold JsMap.values
    rw [JsMap.entries_set_of_notMem _ _ hnew, JsMap.entries_delete_of_cons _ hentries, List.map_append,
      List.map_map]
    congr 1
    exact List.map_id rest

theorem allocate_full (h : service.Steady clock base bits size ttl) (hfull : service.Full)
    (hclock : ∀ i j, i ≤ j → clock j < clock i + ttl * 1000) {domain : String}
    (hdomain : domain ∉ service.store.byDomain.keys) :
    (service.allocate clock domain).2.Steady clock base bits size ttl ∧
      ∃ first rest new, Replaced service domain (service.allocate clock domain) first rest new := by
  obtain ⟨hcursor, hnext⟩ := next_full h hfull
  have hlength := length_inPoolOrder hfull
  have hpos := h.sound.pool.pos
  obtain ⟨first, rest, horder⟩ : ∃ first rest, service.inPoolOrder = first :: rest :=
    List.exists_cons_of_length_pos (by omega)
  have haddress : first.address = service.pool.candidate 0 := by
    have hfirst : service.inPoolOrder[0]? = some first := by
      rw [horder]
      rfl
    exact ((h.sound.inverse.byAddress_iff _ first).mp (getElem?_inPoolOrder hfull hfirst).2).1
  have hread := readAll_steady h hfull
  have hentries := entries_readAll h.sound hfull
  have hfull' : Full { service with store := service.store.readAll service.inPoolOrder } := hfull
  have hdomain' : domain ∉ (service.store.readAll service.inPoolOrder).byDomain.keys := by
    unfold JsMap.keys
    rw [hentries]
    intro hmem
    obtain ⟨entry, hentry, rfl⟩ := List.mem_map.mp hmem
    obtain ⟨r, hr, rfl⟩ := List.mem_map.mp hentry
    exact hdomain ((h.sound.inverse.mem_keys_byDomain _).mpr ⟨r, rfl, (mem_inPoolOrder h.sound hfull r).mp hr⟩)
  generalize service.store.readAll service.inPoolOrder = store at hnext hread hentries hfull' hdomain'
  rw [horder, List.map_cons] at hentries
  have holdest : store.oldest = some first := by
    unfold FakeIpStore.oldest JsMap.values
    rw [hentries]
    rfl
  have hallocate : service.allocate clock domain =
      (.ok first.address, enter clock { service with store := store.evict first } domain first.address) := by
    unfold allocate
    rw [hnext]
    simp only [FakeIpStore.evictOldest, holdest]
  obtain ⟨hsteady, hvalues⟩ := enter_first hread hfull' hcursor hclock hdomain' hentries haddress
  rw [hallocate]
  exact ⟨hsteady, first, rest, _, horder, rfl, haddress, rfl, hvalues⟩

/-- A domain without a mapping is given an address. -/
theorem assign_new {toLowerCase : String → String} {domain : String}
    (hdomain : toLowerCase domain ∉ service.store.byDomain.keys) :
    service.assign toLowerCase clock domain = service.allocate clock (toLowerCase domain) := by
  have hnone := (JsMap.get_eq_none_iff _ _).mpr hdomain
  unfold assign FakeIpStore.getByDomain
  simp only [hnone]
  rfl

theorem assign_steady (h : service.Steady clock base bits size ttl)
    (hclock : ∀ i j, i ≤ j → clock j < clock i + ttl * 1000) (toLowerCase : String → String)
    (domain : String) : (service.assign toLowerCase clock domain).2.Steady clock base bits size ttl := by
  have hget := FakeIpStore.getByDomain_spec clock h.sound.inverse (toLowerCase domain)
  have hfound : ∀ r, service.store.byDomain.get (toLowerCase domain) = some r → service.store.Mapped r :=
    fun r hr => ((h.sound.inverse.byDomain_iff _ r).mp hr).2
  have hsteady := h.withStore hget.inverse hget.since
    (FakeIpStore.mapped_refresh_iff h.sound.inverse h.lasting hfound)
  cases hdomain : service.store.byDomain.get (toLowerCase domain) with
  | some r =>
    unfold assign
    simp only []
    have hlive := hget.live r hdomain (h.lasting r (hfound r hdomain) _ (Nat.le_refl _))
    rcases hread : service.store.getByDomain clock (toLowerCase domain) with ⟨answer, store⟩
    rw [hread] at hlive hsteady
    cases hlive
    exact hsteady
  | none =>
    have hkey := (JsMap.get_eq_none_iff _ _).mp hdomain
    rw [assign_new hkey]
    by_cases hfull : service.Full
    · exact (allocate_full h hfull hclock hkey).1
    · exact allocate_free h hfull hclock hkey

/-- A service begins with an empty store and the cursor at the first address. -/
theorem create_empty {number : String → Option Int} {config : FakeIpConfig}
    (hcreate : create number config = .ok service) :
    service.store = FakeIpStore.create (config.size.getD 65536) ∧ service.pool.cursor = 0 := by
  unfold create at hcreate
  simp only [] at hcreate
  cases hpool : FakeIpPool.create number ((config.range.or config.cidr).getD "198.18.0.0/15")
    (config.size.getD 65536) with
  | error error =>
    rw [hpool] at hcreate
    cases hcreate
  | ok pool =>
    rw [hpool] at hcreate
    cases hcreate
    refine ⟨rfl, ?_⟩
    unfold FakeIpPool.create at hpool
    split at hpool
    · cases hpool
    · dsimp only at hpool
      split at hpool
      · cases hpool
      · cases hpool
        rfl

theorem create_steady {number : String → Option Int} {config : FakeIpConfig}
    (hcreate : create number config = .ok service) :
    ∃ base bits, service.Steady clock base bits (config.size.getD 65536) service.ttlSeconds := by
  obtain ⟨base, bits, -, hsound⟩ := create_sound hcreate
  obtain ⟨hstore, hcursor⟩ := create_empty hcreate
  refine ⟨base, bits, hsound, rfl, ?_, 0, Nat.zero_le _, ?_, ?_⟩
  · rw [hstore]
    intro r hr
    cases hr
  · rw [hcursor, Nat.zero_mod]
  · rw [hstore]
    intro i _
    exact iff_of_false List.not_mem_nil (Nat.not_lt_zero i)

/-- Over a clock at which nothing expires, every state is steady. -/
theorem run_steady (h : service.Steady clock base bits size ttl)
    (hclock : ∀ i j, i ≤ j → clock j < clock i + ttl * 1000) (toLowerCase : String → String)
    {calls : List Call} {service' : FakeIpService}
    (hrun : (system toLowerCase clock).run service calls = some service') :
    service'.Steady clock base bits size ttl := by
  refine (system toLowerCase clock).run_invariant (fun _ _ => True)
    (fun s => s.Steady clock base bits size ttl) ?_ calls service service' h
    (Runs.System.along_true _ service calls) hrun
  intro s call s' hs _ hstep
  cases call with
  | assign domain =>
    cases hstep
    exact assign_steady hs hclock toLowerCase domain
  | reverse address =>
    cases hstep
    exact reverse_steady hs address

end FakeIpService

end Sepigs
