import Mathlib.Data.Nat.Cast.Order.Ring
import Sepigs.Dns.FakeIpPersistence

/-!
# A fake-IP table written and read back

Pruning takes out expired records only, so the file holds every record that is still alive
when it is loaded, in the order of the store.
-/

namespace Sepigs

namespace FakeIpRecord

/-- The record as it is read from the file. -/
def stored (r : FakeIpRecord) : FileRecord :=
  { domain := r.domain, address := r.address, expiresAt := r.expiresAt }

end FakeIpRecord

namespace FakeIpStore

variable {clock : Nat → Nat} {store : FakeIpStore} {r : FakeIpRecord}

/-- The records that have not expired, in their order. -/
def unexpiredAt (now : Nat) (store : FakeIpStore) : List FakeIpRecord :=
  store.byDomain.values.filter fun r => now < r.expiresAt

/-- Deleting an expired record leaves the unexpired ones. -/
theorem unexpiredAt_delete (h : store.Inverse) (hr : store.Mapped r) {now : Nat} (hexpired : r.expiresAt ≤ now) :
    unexpiredAt now (store.delete r) = unexpiredAt now store := by
  unfold unexpiredAt JsMap.values
  show ((store.byDomain.delete r.domain).entries.map Prod.snd).filter _ = _
  rw [JsMap.entries_delete, List.filter_map, List.filter_map, List.filter_filter]
  congr 1
  refine List.filter_congr fun entry hentry => ?_
  obtain ⟨hdomain, hmapped⟩ := (h.byDomain_iff entry.1 entry.2).mp ((JsMap.get_eq_some_iff _ _ _).mpr hentry)
  by_cases hkey : entry.1 = r.domain
  · have hsame : entry.2 = r := Mapped.eq_of_domain hmapped hr (hdomain.trans hkey)
    have hout : ¬ now < entry.2.expiresAt := by
      rw [hsame]
      omega
    simp [hout]
  · simp [hkey]

/-- What reading a mapped record leaves. -/
structure ReadOnce (clock : Nat → Nat) (store : FakeIpStore) (r : FakeIpRecord) (s : FakeIpStore) : Prop where
  inverse : s.Inverse
  since : Since clock store s
  old : ∀ r', s.Mapped r' → store.Mapped r'
  others : ∀ r', r' ≠ r → store.Mapped r' → s.Mapped r'
  reads : s.reads = store.reads + 1
  unexpired : ∀ now, clock store.reads ≤ now → unexpiredAt now s = unexpiredAt now store

theorem read_once (h : store.Inverse) (hr : store.Mapped r) :
    ReadOnce clock store r (store.read clock (some r)).2 := by
  -- the store after the reading of the clock
  let s : FakeIpStore := { store with reads := store.reads + 1 }
  have hs : s.Inverse := ⟨h.domain, h.address⟩
  unfold read
  by_cases hexpired : r.expiresAt ≤ clock store.reads
  · simp only [if_pos hexpired]
    have hleft (r' : FakeIpRecord) : (s.delete r).Mapped r' ↔ r' ≠ r ∧ store.Mapped r' := mapped_delete_iff hr
    refine ⟨hs.delete hr, ⟨rfl, Nat.le_succ _, [], (List.append_nil _).symm, ?_⟩, ?_, ?_, rfl, ?_⟩
    · intro r' hr'
      by_cases heq : r' = r
      · exact .inr (.inr ⟨store.reads, Nat.le_refl _, Nat.lt_succ_self _, heq ▸ hexpired⟩)
      · exact .inl ((hleft r').mpr ⟨heq, hr'⟩)
    · intro r' hr'
      exact ((hleft r').mp hr').2
    · intro r' hne hr'
      exact (hleft r').mpr ⟨hne, hr'⟩
    · intro now hnow
      exact unexpiredAt_delete hs hr (hexpired.trans hnow)
  · simp only [if_neg hexpired]
    exact ⟨hs, ⟨rfl, Nat.le_succ _, [], (List.append_nil _).symm, fun _ hr' => .inl hr'⟩,
      fun _ hr' => hr', fun _ _ hr' => hr', rfl, fun _ _ => rfl⟩

/-- What reading records one after the other leaves. -/
structure ReadOver (clock : Nat → Nat) (store : FakeIpStore) (count : Nat) (s : FakeIpStore) : Prop where
  inverse : s.Inverse
  since : Since clock store s
  old : ∀ r, s.Mapped r → store.Mapped r
  reads : s.reads = store.reads + count
  unexpired : ∀ now, (∀ i, store.reads ≤ i → i < store.reads + count → clock i ≤ now) →
    unexpiredAt now s = unexpiredAt now store

theorem read_over (records : List FakeIpRecord) (store : FakeIpStore) (h : store.Inverse)
    (hnodup : records.Nodup) (hmapped : ∀ r ∈ records, store.Mapped r) :
    ReadOver clock store records.length
      (records.foldl (fun store record => (store.read clock (some record)).2) store) := by
  induction records generalizing store with
  | nil => exact ⟨h, .refl store, fun _ hr => hr, rfl, fun _ _ => rfl⟩
  | cons r records ih =>
    rw [List.nodup_cons] at hnodup
    have hone : ReadOnce clock store r _ := read_once h (hmapped r List.mem_cons_self)
    have hlater : ∀ r' ∈ records, (store.read clock (some r)).2.Mapped r' := by
      intro r' hr'
      refine hone.others r' ?_ (hmapped r' (List.mem_cons_of_mem r hr'))
      rintro rfl
      exact hnodup.1 hr'
    have hrest := ih _ hone.inverse hnodup.2 hlater
    have hreads := hone.reads
    rw [List.foldl_cons, List.length_cons]
    refine ⟨hrest.inverse, hone.since.trans hrest.since, fun r' hr' => hone.old r' (hrest.old r' hr'), ?_, ?_⟩
    · rw [hrest.reads, hreads]
      omega
    · intro now hpast
      rw [hrest.unexpired now, hone.unexpired now (hpast _ (Nat.le_refl _) (by omega))]
      intro i hi hlt
      exact hpast i (by omega) (by omega)

theorem prune_over (h : store.Inverse) :
    ReadOver clock store store.byDomain.values.length (store.prune clock) :=
  read_over _ store h h.nodup_values fun r => (h.mem_values r).mp

end FakeIpStore

namespace LoadedStore

theorem parse_recordJson (r : FakeIpRecord) : FileRecord.parse (FakeIpStore.recordJson r) = some r.stored := rfl

/-- At one moment, the unexpired records of a file are those of the table that was written. -/
theorem unexpired_recordJson (now reads : Nat) (rs : List FakeIpRecord) :
    unexpired (fun _ => now) reads (rs.map FakeIpStore.recordJson) =
      (rs.filter fun r => now < r.expiresAt).map FakeIpRecord.stored := by
  induction rs generalizing reads with
  | nil => rfl
  | cons r rs ih =>
    rw [List.map_cons, unexpired, parse_recordJson]
    have hcast : ((now : Rat) < r.stored.expiresAt) ↔ now < r.expiresAt := Nat.cast_lt
    by_cases hlive : now < r.expiresAt
    · simp only [if_pos (hcast.mpr hlive), ih]
      rw [List.filter_cons_of_pos (by simpa using hlive), List.map_cons]
    · simp only [if_neg (mt hcast.mp hlive), ih]
      rw [List.filter_cons_of_neg (by simpa using hlive)]

end LoadedStore

/-! ## Runs of a persistent service -/

namespace PersistentService

variable {toLowerCase : String → String} {clock : Nat → Nat} {p : PersistentService} {base bits size : Nat}

theorem sound_persist {service : FakeIpService} (h : service.Sound base bits size) :
    FakeIpService.Sound { service with store := (service.store.persist clock).2 } base bits size := by
  have hover : FakeIpStore.ReadOver clock service.store _ _ := FakeIpStore.prune_over h.inverse
  exact h.withStore hover.inverse hover.since hover.old rfl rfl h.pool.cursor

/-- The service after `assign` is that of the service without a file, pruned where it wrote. -/
theorem assign_service (domain : String) :
    (p.assign toLowerCase clock domain).2.service = (p.service.assign toLowerCase clock domain).2 ∨
      (p.assign toLowerCase clock domain).2.service =
        { (p.service.assign toLowerCase clock domain).2 with
          store := ((p.service.assign toLowerCase clock domain).2.store.persist clock).2 } := by
  unfold assign FakeIpService.assign
  simp only []
  rcases p.service.store.getByDomain clock (toLowerCase domain) with ⟨answer, store⟩
  cases answer with
  | some existing => exact .inl rfl
  | none =>
    dsimp only
    rcases FakeIpService.allocate clock { p.service with store := store } (toLowerCase domain) with
      ⟨result, service⟩
    cases result with
    | error error => exact .inl rfl
    | ok address => exact .inr rfl

theorem run_sound {calls : List FakeIpService.Call} {p' : PersistentService}
    (h : p.service.Sound base bits size) (hrun : (system toLowerCase clock).run p calls = some p') :
    p'.service.Sound base bits size := by
  refine (system toLowerCase clock).run_invariant (fun _ _ => True)
    (fun p => p.service.Sound base bits size) ?_ calls p p' h
    (Runs.System.along_true _ p calls) hrun
  intro p call p' hp _ hstep
  cases call with
  | assign domain =>
    cases hstep
    obtain ⟨r, hr⟩ := FakeIpService.assign_spec clock hp toLowerCase domain
    rcases assign_service domain with hsame | hpruned
    · rw [hsame]
      exact hr.sound
    · rw [hpruned]
      exact sound_persist hr.sound
  | reverse address =>
    cases hstep
    exact (FakeIpService.reverse_spec clock hp address).1

/-- The unexpired records of a table come back, in both maps and in their order. -/
theorem load_persist {store : FakeIpStore} (h : store.Inverse) (now : Nat)
    (hpast : ∀ i, store.reads ≤ i → i < (store.persist clock).2.reads → clock i ≤ now) :
    (LoadedStore.load (fun _ => now) (some (store.persist clock).1)).byDomain.entries =
        (store.unexpiredAt now).map (fun r => (r.domain, r.stored)) ∧
      (LoadedStore.load (fun _ => now) (some (store.persist clock).1)).byAddress.entries =
        (store.unexpiredAt now).map (fun r => (r.address, r.stored)) := by
  have hover : FakeIpStore.ReadOver clock store _ (store.prune clock) := FakeIpStore.prune_over h
  have hunexpired : (store.prune clock).unexpiredAt now = store.unexpiredAt now := by
    refine hover.unexpired now fun i hi hlt => hpast i hi ?_
    show i < (store.prune clock).reads
    rw [hover.reads]
    exact hlt
  have hrecords : LoadedStore.records (fun _ => now) (some (store.persist clock).1) =
      (store.unexpiredAt now).map FakeIpRecord.stored := by
    show LoadedStore.unexpired (fun _ => now) 0 ((store.prune clock).byDomain.values.map _) = _
    rw [LoadedStore.unexpired_recordJson, ← hunexpired]
    rfl
  have hmapped : ∀ r ∈ store.unexpiredAt now, store.Mapped r :=
    fun r hr => (h.mem_values r).mp (List.mem_filter.mp hr).1
  have hnodup : (store.unexpiredAt now).Nodup := h.nodup_values.filter _
  rw [LoadedStore.byDomain_load, LoadedStore.byAddress_load, hrecords]
  constructor
  · rw [JsMap.entries_indexBy, List.map_map]
    · rfl
    · rw [List.map_map]
      refine hnodup.map_on fun r hr r' hr' heq => ?_
      exact FakeIpStore.Mapped.eq_of_domain (hmapped r hr) (hmapped r' hr') heq
  · rw [JsMap.entries_indexBy, List.map_map]
    · rfl
    · rw [List.map_map]
      refine hnodup.map_on fun r hr r' hr' heq => ?_
      exact h.eq_of_address (hmapped r hr) (hmapped r' hr') heq

end PersistentService

/-- **What a restart restores.**  For every file and every clock, the constructor leaves what a
table keeps exactly when the unexpired records of the file do not clash, are for at most
`size` domains and have usable addresses.  And from every state that a service reaches, the
table that `persist` writes is loaded again: the unexpired mappings, in both maps, in the
order of the store. -/
theorem restart_restores_iff (number : String → Option Int) (toLowerCase : String → String)
    (config : FakeIpConfig) (service : FakeIpService)
    (hcreate : FakeIpService.create number config = .ok service) :
    (∀ (clock : Nat → Nat) (content : Option Json), ∃ store,
        FakeIpService.createFrom number clock config content = .ok (service.pool, store) ∧
        (store.Established clock number service.pool (config.size.getD 65536) ↔
          LoadedStore.Fits number service.pool (config.size.getD 65536)
            (LoadedStore.records clock content))) ∧
      ∀ (clock : Nat → Nat) (calls : List FakeIpService.Call) (p : PersistentService),
        (PersistentService.system toLowerCase clock).run ⟨service, none⟩ calls = some p →
        ∀ now, (∀ i, p.service.store.reads ≤ i → i < (p.service.store.persist clock).2.reads →
            clock i ≤ now) →
          ∃ store, FakeIpService.createFrom number (fun _ => now) config
              (some (p.service.store.persist clock).1) = .ok (service.pool, store) ∧
            store.byDomain.entries = (p.service.store.unexpiredAt now).map (fun r => (r.domain, r.stored)) ∧
            store.byAddress.entries = (p.service.store.unexpiredAt now).map (fun r => (r.address, r.stored)) := by
  have hfrom (clock : Nat → Nat) (content : Option Json) :
      FakeIpService.createFrom number clock config content =
        .ok (service.pool, LoadedStore.load clock content) := by
    unfold FakeIpService.createFrom
    rw [hcreate]
    rfl
  obtain ⟨base, bits, -, hsound⟩ := FakeIpService.create_sound hcreate
  constructor
  · intro clock content
    exact ⟨_, hfrom clock content, LoadedStore.established_iff content⟩
  · intro clock calls p hrun now hpast
    have hstart : (PersistentService.mk service none).service.Sound base bits (config.size.getD 65536) :=
      hsound
    have hp := PersistentService.run_sound hstart hrun
    exact ⟨_, hfrom _ _, PersistentService.load_persist hp.inverse now hpast⟩

/-- The second domain is assigned 50 seconds after the first. -/
def lateClock (reading : Nat) : Nat := if reading < 2 then 0 else 50000

theorem lateClock_le (reading : Nat) : lateClock reading ≤ 70000 := by
  unfold lateClock
  split <;> decide

/-- Two domains, of which the first has expired when the file is read. -/
theorem restart_restores_iff_two : ∃ p store,
    (PersistentService.system String.toLower lateClock).run ⟨FakeIpService.twoAddressService, none⟩
        [.assign "One.test", .assign "two.test"] = some p ∧
      p.service.store.byDomain.keys = ["one.test", "two.test"] ∧
      FakeIpService.createFrom JsString.decimalNumber (fun _ => 70000) FakeIpService.twoAddresses
          (some (p.service.store.persist lateClock).1) =
        .ok (FakeIpService.twoAddressService.pool, store) ∧
      store.byDomain.keys = ["two.test"] ∧ store.byAddress.keys = ["198.18.0.2"] := by
  obtain ⟨store, hcreate, hdomains, haddresses⟩ := (restart_restores_iff JsString.decimalNumber
    String.toLower FakeIpService.twoAddresses FakeIpService.twoAddressService
    FakeIpService.create_twoAddresses).2 lateClock [.assign "One.test", .assign "two.test"] _ rfl 70000
    (fun reading _ _ => lateClock_le reading)
  refine ⟨_, store, rfl, by decide +kernel, hcreate, ?_, ?_⟩
  · unfold JsMap.keys
    rw [hdomains, List.map_map]
    decide +kernel
  · unfold JsMap.keys
    rw [haddresses, List.map_map]
    decide +kernel

/-- Two domains at one address. -/
def sharedAddress : Json :=
  .array [.object [("domain", .string "one.test"), ("address", .string "198.18.0.1"), ("expiresAt", .number 60000)],
    .object [("domain", .string "two.test"), ("address", .string "198.18.0.1"), ("expiresAt", .number 60000)]]

/-- The address leads to the second domain, and the first domain leads to the address. -/
theorem shared_address_loaded :
    FakeIpService.createFrom JsString.decimalNumber (fun _ => 0) FakeIpService.twoAddresses (some sharedAddress) =
        .ok (FakeIpService.twoAddressService.pool, LoadedStore.load (fun _ => 0) (some sharedAddress)) ∧
      ((LoadedStore.load (fun _ => 0) (some sharedAddress)).byDomain.get "one.test").map FileRecord.address =
        some "198.18.0.1" ∧
      ((LoadedStore.load (fun _ => 0) (some sharedAddress)).byAddress.get "198.18.0.1").map FileRecord.domain =
        some "two.test" ∧
      ¬ (LoadedStore.load (fun _ => 0) (some sharedAddress)).Established (fun _ => 0) JsString.decimalNumber
        FakeIpService.twoAddressService.pool 2 := by
  have hdomain : ((LoadedStore.load (fun _ => 0) (some sharedAddress)).byDomain.get "one.test").map
      FileRecord.address = some "198.18.0.1" := by decide +kernel
  have haddress : ((LoadedStore.load (fun _ => 0) (some sharedAddress)).byAddress.get "198.18.0.1").map
      FileRecord.domain = some "two.test" := by decide +kernel
  refine ⟨rfl, hdomain, haddress, fun h => ?_⟩
  obtain ⟨r, hr, hkey⟩ := (h.inverse "one.test" "198.18.0.1").mp (Option.map_eq_some_iff.mp hdomain)
  rw [hr, Option.map_some, hkey] at haddress
  exact absurd haddress (by decide)

end Sepigs
