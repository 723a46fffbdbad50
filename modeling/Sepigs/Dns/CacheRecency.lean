import Mathlib.Logic.Function.Basic
import Mathlib.Logic.Relation
import Sepigs.Dns.Generation
import Sepigs.Lib.Recency
import Sepigs.Lib.Runs

/-!
# The two caches under one limit

A history keeps, beside the caches of a generation, the clock, and for every host when it was
last set or hit.  Both caches stay sorted by last use, so the older of the two oldest entries
is the least recently used of all.
-/

namespace Sepigs

/-- When the hosts were last set or hit: by the clock, and by the number of the operation. -/
structure CacheTimes where
  clock : Nat
  operations : Nat
  usedAt : String → Nat
  usedIn : String → Nat

namespace CacheTimes

/-- One more operation, at `now`. -/
def tick (times : CacheTimes) (now : Nat) : CacheTimes :=
  { times with clock := now, operations := times.operations + 1 }

/-- One more operation, which sets or hits `key`. -/
def use (times : CacheTimes) (key : String) (now : Nat) : CacheTimes where
  clock := now
  operations := times.operations + 1
  usedAt := Function.update times.usedAt key now
  usedIn := Function.update times.usedIn key times.operations

/-- `a` was last used before `b`; where the calls are in time, the clock says so too. -/
def Before (timed : Prop) (times : CacheTimes) (a b : String) : Prop :=
  (timed → times.usedAt a ≤ times.usedAt b) ∧ times.usedIn a < times.usedIn b

end CacheTimes

/-- The calls on the caches of a generation. -/
inductive CacheCall
  | getPositive (host : String)
  | getNegative (host : String)
  | setPositive (entry : DnsCacheEntry)
  | setNegative (entry : DnsCacheEntry)
deriving DecidableEq, Repr

structure CacheHistory where
  caches : DnsCaches
  times : CacheTimes

namespace CacheHistory

/-- A fresh generation. -/
def start : CacheHistory where
  caches := ⟨∅, ∅⟩
  times := { clock := 0, operations := 0, usedAt := fun _ => 0, usedIn := fun _ => 0 }

variable (toLowerCase : String → String) (maxEntries : Nat)

/-- What a call returns, and the caches after it. -/
def perform (caches : DnsCaches) (now : Nat) : CacheCall → Option DnsCacheEntry × DnsCaches
  | .getPositive host => caches.getPositive toLowerCase host now
  | .getNegative host => caches.getNegative toLowerCase host now
  | .setPositive entry => (none, caches.setPositive toLowerCase maxEntries entry)
  | .setNegative entry => (none, caches.setNegative toLowerCase maxEntries entry)

/-- The host that a call sets or hits. -/
def used (caches : DnsCaches) (now : Nat) (call : CacheCall) : Option String :=
  match call with
  | .getPositive host | .getNegative host =>
    if (perform toLowerCase maxEntries caches now call).1.isSome then some (toLowerCase host) else none
  | .setPositive entry | .setNegative entry => some (toLowerCase entry.host)

def after (history : CacheHistory) (now : Nat) (call : CacheCall) : CacheHistory where
  caches := (perform toLowerCase maxEntries history.caches now call).2
  times :=
    match used toLowerCase maxEntries history.caches now call with
    | none => history.times.tick now
    | some key => history.times.use key now

theorem clock_after (history : CacheHistory) (now : Nat) (call : CacheCall) :
    (history.after toLowerCase maxEntries now call).times.clock = now := by
  unfold after
  cases used toLowerCase maxEntries history.caches now call <;> rfl

/-- The calls of a generation, each with its clock reading. -/
def system : Runs.System CacheHistory (Nat × CacheCall) where
  step history call := some (history.after toLowerCase maxEntries call.1 call.2)

/-- The clock does not go back, and an entry is set with `touchedAt` the current clock. -/
def InTime (history : CacheHistory) (call : Nat × CacheCall) : Prop :=
  history.times.clock ≤ call.1 ∧
    ∀ entry, call.2 = .setPositive entry ∨ call.2 = .setNegative entry → entry.touchedAt = call.1

end CacheHistory

/-! ## One cache -/

namespace DnsCache

/-- A cache that is sorted by last use, with every entry under its own host in lower case;
where the calls are `timed`, the entries know when they were used. -/
structure Sound (timed : Prop) (toLowerCase : String → String) (times : CacheTimes)
    (cache : DnsCache) : Prop where
  sorted : JsMap.SortedBy (times.Before timed) cache
  entries : ∀ key entry, (key, entry) ∈ cache.entries →
    entry.host = key ∧ toLowerCase key = key ∧ (timed → entry.touchedAt = times.usedAt key)
  past : ∀ key ∈ cache.keys,
    (timed → times.usedAt key ≤ times.clock) ∧ times.usedIn key < times.operations

variable {timed : Prop} {toLowerCase : String → String} {times : CacheTimes} {cache : DnsCache}

theorem sound_empty (timed : Prop) (toLowerCase : String → String) (times : CacheTimes) :
    Sound timed toLowerCase times ∅ where
  sorted := JsMap.sortedBy_empty
  entries := fun _ _ h => absurd h List.not_mem_nil
  past := fun _ h => absurd h List.not_mem_nil

theorem Sound.delete (h : Sound timed toLowerCase times cache) (key : String) :
    Sound timed toLowerCase times (JsMap.delete cache key) where
  sorted := h.sorted.delete key
  entries := fun k entry hmem => h.entries k entry ((JsMap.mem_entries_delete _ _ _ _).mp hmem).2
  past := fun k hmem => h.past k ((JsMap.mem_keys_delete _ _ _).mp hmem).1

theorem Sound.tick (h : Sound timed toLowerCase times cache) {now : Nat} (hnow : timed → times.clock ≤ now) :
    Sound timed toLowerCase (times.tick now) cache where
  sorted := h.sorted
  entries := h.entries
  past := by
    intro key hmem
    obtain ⟨hat, hin⟩ := h.past key hmem
    exact ⟨fun ht => (hat ht).trans (hnow ht), Nat.lt_succ_of_lt hin⟩

/-- A use of a host that the cache does not hold. -/
theorem Sound.use_other (h : Sound timed toLowerCase times cache) {key : String} {now : Nat}
    (hnow : timed → times.clock ≤ now) (hkey : key ∉ cache.keys) :
    Sound timed toLowerCase (times.use key now) cache := by
  have hne : ∀ a ∈ cache.keys, a ≠ key := by
    rintro a ha rfl
    exact hkey ha
  refine ⟨?_, ?_, ?_⟩
  · apply h.sorted.congr
    intro a ha b hb hab
    unfold CacheTimes.Before CacheTimes.use
    simp only [Function.update_of_ne (hne a ha), Function.update_of_ne (hne b hb)]
    exact hab
  · intro k entry hmem
    have hk := hne k (List.mem_map_of_mem hmem)
    show entry.host = k ∧ toLowerCase k = k ∧
      (timed → entry.touchedAt = Function.update times.usedAt key now k)
    rw [Function.update_of_ne hk]
    exact h.entries k entry hmem
  · intro k hmem
    obtain ⟨hat, hin⟩ := h.past k hmem
    show (timed → Function.update times.usedAt key now k ≤ now) ∧
      Function.update times.usedIn key times.operations k < times.operations + 1
    rw [Function.update_of_ne (hne k hmem), Function.update_of_ne (hne k hmem)]
    exact ⟨fun ht => (hat ht).trans (hnow ht), Nat.lt_succ_of_lt hin⟩

/-- A use of the entry of a host: it comes last. -/
theorem Sound.touch (h : Sound timed toLowerCase times cache) {key : String} {now : Nat}
    {entry : DnsCacheEntry} (hnow : timed → times.clock ≤ now) (hhost : entry.host = key)
    (hlower : toLowerCase key = key) (htouched : timed → entry.touchedAt = now) :
    Sound timed toLowerCase (times.use key now) (JsMap.touch cache key entry) := by
  refine ⟨?_, ?_, ?_⟩
  · apply h.sorted.touch
    · intro a b ha hb hab
      unfold CacheTimes.Before CacheTimes.use
      simp only [Function.update_of_ne ha, Function.update_of_ne hb]
      exact hab
    · intro a ha hne
      obtain ⟨hat, hin⟩ := h.past a ha
      unfold CacheTimes.Before CacheTimes.use
      simp only [Function.update_of_ne hne, Function.update_self]
      exact ⟨fun ht => (hat ht).trans (hnow ht), hin⟩
  · intro k value hmem
    show value.host = k ∧ toLowerCase k = k ∧
      (timed → value.touchedAt = Function.update times.usedAt key now k)
    rcases (JsMap.mem_entries_touch _ _ _ _ _).mp hmem with ⟨rfl, rfl⟩ | ⟨hne, hold⟩
    · rw [Function.update_self]
      exact ⟨hhost, hlower, htouched⟩
    · rw [Function.update_of_ne hne]
      exact h.entries k value hold
  · intro k hmem
    show (timed → Function.update times.usedAt key now k ≤ now) ∧
      Function.update times.usedIn key times.operations k < times.operations + 1
    by_cases hk : k = key
    · subst hk
      simp
    · have hold := (JsMap.mem_keys_touch _ _ _ _).mp hmem
      obtain ⟨hat, hin⟩ := h.past k (hold.resolve_right hk)
      rw [Function.update_of_ne hk, Function.update_of_ne hk]
      exact ⟨fun ht => (hat ht).trans (hnow ht), Nat.lt_succ_of_lt hin⟩

theorem Sound.oldest (h : Sound timed toLowerCase times cache) {entry : DnsCacheEntry}
    (holdest : cache.oldest = some entry) :
    entry.host ∈ cache.keys ∧ (timed → entry.touchedAt = times.usedAt entry.host) ∧
      ∀ key ∈ cache.keys, timed → times.usedAt entry.host ≤ times.usedAt key := by
  have hmem : entry ∈ cache.values := List.mem_of_head? holdest
  unfold DnsCache.oldest JsMap.values at holdest
  rw [List.head?_map] at holdest
  obtain ⟨⟨key, value⟩, hhead, rfl⟩ := Option.map_eq_some_iff.mp holdest
  have hentry : (key, value) ∈ cache.entries := List.mem_of_head? hhead
  obtain ⟨hhost, -, htouched⟩ := h.entries key value hentry
  have hkeys : cache.keys.head? = some key := by
    unfold JsMap.keys
    rw [List.head?_map, hhead]
    rfl
  rw [hhost]
  refine ⟨List.mem_map_of_mem hentry, htouched, ?_⟩
  intro other hother ht
  rcases h.sorted.head hkeys other hother with rfl | hbefore
  · exact Nat.le_refl _
  · exact hbefore.1 ht

/-- What a get does: it drops an expired entry, or a fresh one comes last. -/
theorem Sound.get (h : Sound timed toLowerCase times cache) {now : Nat} (hnow : timed → times.clock ≤ now)
    (key : String) :
    (∀ k ∈ (cache.get key now).2.keys, k ∈ cache.keys) ∧
      (((cache.get key now).1 = none ∧ Sound timed toLowerCase (times.tick now) (cache.get key now).2) ∨
        ∃ entry, (cache.get key now).1 = some entry ∧ now < entry.expiresAt ∧ key ∈ cache.keys ∧
          Sound timed toLowerCase (times.use key now) (cache.get key now).2) := by
  unfold DnsCache.get
  cases hget : JsMap.get cache key with
  | none => exact ⟨fun _ hk => hk, .inl ⟨rfl, h.tick hnow⟩⟩
  | some entry =>
    have hmem := (JsMap.get_eq_some_iff cache key entry).mp hget
    have hkey : key ∈ cache.keys := List.mem_map_of_mem hmem
    obtain ⟨hhost, hlower, -⟩ := h.entries key entry hmem
    by_cases hexpired : entry.expiresAt ≤ now
    · simp only [if_pos hexpired]
      refine ⟨?_, .inl ⟨trivial, (h.delete key).tick hnow⟩⟩
      intro k hk
      exact ((JsMap.mem_keys_delete _ _ _).mp hk).1
    · simp only [if_neg hexpired]
      refine ⟨?_, .inr ⟨_, rfl, Nat.lt_of_not_le hexpired, hkey, ?_⟩⟩
      · intro k hk
        rcases (JsMap.mem_keys_touch _ _ _ _).mp hk with hk | rfl
        · exact hk
        · exact hkey
      · apply h.touch hnow
        · exact hhost
        · exact hlower
        · exact fun _ => rfl

theorem keys_of_oldest_none (h : cache.oldest = none) : cache.keys = [] := by
  have hnil : cache.entries = [] := List.map_eq_nil_iff.mp (List.head?_eq_none_iff.mp h)
  unfold JsMap.keys
  rw [hnil]
  rfl

end DnsCache

/-! ## Both caches -/

namespace DnsCaches

structure Sound (timed : Prop) (toLowerCase : String → String) (times : CacheTimes)
    (caches : DnsCaches) : Prop where
  positive : caches.positiveCache.Sound timed toLowerCase times
  negative : caches.negativeCache.Sound timed toLowerCase times
  disjoint : ∀ key ∈ caches.positiveCache.keys, key ∉ caches.negativeCache.keys

/-- The host is in one of the caches. -/
def Holds (caches : DnsCaches) (key : String) : Prop :=
  key ∈ caches.positiveCache.keys ∨ key ∈ caches.negativeCache.keys

def remove (caches : DnsCaches) (key : String) : DnsCaches where
  positiveCache := JsMap.delete caches.positiveCache key
  negativeCache := JsMap.delete caches.negativeCache key

/-- One entry goes whose last use is minimal over both caches. -/
def Evicts (usedAt : String → Nat) (caches caches' : DnsCaches) : Prop :=
  ∃ key, caches.Holds key ∧ (∀ other, caches.Holds other → usedAt key ≤ usedAt other) ∧
    caches' = caches.remove key

variable {timed : Prop} {toLowerCase : String → String} {times : CacheTimes} {caches : DnsCaches}

theorem holds_remove (caches : DnsCaches) (key other : String) :
    (caches.remove key).Holds other ↔ caches.Holds other ∧ other ≠ key := by
  unfold Holds remove
  rw [JsMap.mem_keys_delete, JsMap.mem_keys_delete]
  tauto

theorem Sound.remove (h : caches.Sound timed toLowerCase times) (key : String) :
    (caches.remove key).Sound timed toLowerCase times where
  positive := h.positive.delete key
  negative := h.negative.delete key
  disjoint := by
    intro k hk hk'
    exact h.disjoint k ((JsMap.mem_keys_delete _ _ _).mp hk).1 ((JsMap.mem_keys_delete _ _ _).mp hk').1

theorem Sound.ordered (h : caches.Sound timed toLowerCase times) : caches.Ordered where
  positive := fun entry hmem => (h.positive.entries entry.1 entry.2 hmem).1
  negative := fun entry hmem => (h.negative.entries entry.1 entry.2 hmem).1

theorem remove_positive (h : caches.Sound timed toLowerCase times) {key : String}
    (hkey : key ∈ caches.positiveCache.keys) :
    caches.remove key = { caches with positiveCache := JsMap.delete caches.positiveCache key } := by
  unfold remove
  rw [JsMap.delete_of_notMem caches.negativeCache (h.disjoint key hkey)]

theorem remove_negative (h : caches.Sound timed toLowerCase times) {key : String}
    (hkey : key ∈ caches.negativeCache.keys) :
    caches.remove key = { caches with negativeCache := JsMap.delete caches.negativeCache key } := by
  unfold remove
  rw [JsMap.delete_of_notMem caches.positiveCache fun hmem => h.disjoint key hmem hkey]

/-- One pass of the loop removes one entry, in time the one that was used least recently. -/
theorem Sound.dropOldest (h : caches.Sound timed toLowerCase times) (hsize : 0 < caches.size) :
    ∃ key, caches.Holds key ∧
      (timed → ∀ other, caches.Holds other → times.usedAt key ≤ times.usedAt other) ∧
      caches.dropOldest = caches.remove key := by
  unfold DnsCaches.dropOldest
  cases hpositive : caches.positiveCache.oldest with
  | none =>
    have hnil := DnsCache.keys_of_oldest_none hpositive
    cases hnegative : caches.negativeCache.oldest with
    | none =>
      have hzero := size_eq_zero_of_oldest hpositive
      have hzero' := size_eq_zero_of_oldest hnegative
      unfold DnsCaches.size at hsize
      omega
    | some negative =>
      obtain ⟨hmem, -, hmin⟩ := h.negative.oldest hnegative
      refine ⟨negative.host, .inr hmem, ?_, (remove_negative h hmem).symm⟩
      rintro ht other (hother | hother)
      · rw [hnil] at hother
        exact absurd hother List.not_mem_nil
      · exact hmin other hother ht
  | some positive =>
    obtain ⟨hmem, htouched, hmin⟩ := h.positive.oldest hpositive
    cases hnegative : caches.negativeCache.oldest with
    | none =>
      have hnil := DnsCache.keys_of_oldest_none hnegative
      refine ⟨positive.host, .inl hmem, ?_, (remove_positive h hmem).symm⟩
      rintro ht other (hother | hother)
      · exact hmin other hother ht
      · rw [hnil] at hother
        exact absurd hother List.not_mem_nil
    | some negative =>
      obtain ⟨hmem', htouched', hmin'⟩ := h.negative.oldest hnegative
      by_cases holder : positive.touchedAt ≤ negative.touchedAt
      · simp only [if_pos holder]
        refine ⟨positive.host, .inl hmem, ?_, (remove_positive h hmem).symm⟩
        intro ht other hother
        rw [htouched ht, htouched' ht] at holder
        rcases hother with hother | hother
        · exact hmin other hother ht
        · exact holder.trans (hmin' other hother ht)
      · simp only [if_neg holder]
        refine ⟨negative.host, .inr hmem', ?_, (remove_negative h hmem').symm⟩
        intro ht other hother
        rw [htouched ht, htouched' ht] at holder
        rcases hother with hother | hother
        · have hle := hmin other hother ht
          omega
        · exact hmin' other hother ht

/-- The loop of `trimCache` is a chain of evictions. -/
theorem Sound.trimLoop (maxEntries passes : Nat) :
    ∀ caches : DnsCaches, caches.Sound timed toLowerCase times →
      (timed → Relation.ReflTransGen (Evicts times.usedAt) caches
          (DnsCaches.trimLoop maxEntries passes caches)) ∧
        (DnsCaches.trimLoop maxEntries passes caches).Sound timed toLowerCase times := by
  induction passes with
  | zero => exact fun caches h => ⟨fun _ => .refl, h⟩
  | succ passes ih =>
    intro caches h
    unfold DnsCaches.trimLoop
    by_cases hlarge : maxEntries < caches.size
    · rw [if_pos hlarge]
      obtain ⟨key, hkey, hmin, heq⟩ := h.dropOldest (by omega)
      have hsound : caches.dropOldest.Sound timed toLowerCase times := by
        rw [heq]
        exact h.remove key
      obtain ⟨hchain, hrest⟩ := ih caches.dropOldest hsound
      exact ⟨fun ht => (hchain ht).head ⟨key, hkey, hmin ht, heq⟩, hrest⟩
    · rw [if_neg hlarge]
      exact ⟨fun _ => .refl, h⟩

/-- What a chain of evictions takes away was last used no later than what it leaves. -/
theorem chain_evicts {usedAt : String → Nat} {first last : DnsCaches}
    (h : Relation.ReflTransGen (Evicts usedAt) first last) :
    (∀ key, last.Holds key → first.Holds key) ∧
      ∀ gone kept, first.Holds gone → ¬ last.Holds gone → last.Holds kept →
        usedAt gone ≤ usedAt kept := by
  induction h with
  | refl => exact ⟨fun _ h => h, fun _ _ h h' => absurd h h'⟩
  | tail _ hevicts ih =>
    obtain ⟨hsub, hold⟩ := ih
    obtain ⟨key, hkey, hmin, rfl⟩ := hevicts
    constructor
    · intro k hk
      exact hsub k ((holds_remove _ key k).mp hk).1
    · intro gone kept hgone hnot hkept
      have hkept' := ((holds_remove _ key kept).mp hkept).1
      rw [holds_remove] at hnot
      by_cases hmid : gone = key
      · rw [hmid]
        exact hmin kept hkept'
      · exact hold gone kept hgone (fun hheld => hnot ⟨hheld, hmid⟩) hkept'

/-- The caches after an address is set, before they are trimmed. -/
def insertPositive (toLowerCase : String → String) (caches : DnsCaches) (entry : DnsCacheEntry) :
    DnsCaches where
  positiveCache := caches.positiveCache.set (toLowerCase entry.host) entry
  negativeCache := caches.negativeCache.delete (toLowerCase entry.host)

/-- The caches after a failure is set, before they are trimmed. -/
def insertNegative (toLowerCase : String → String) (caches : DnsCaches) (entry : DnsCacheEntry) :
    DnsCaches where
  positiveCache := caches.positiveCache.delete (toLowerCase entry.host)
  negativeCache := caches.negativeCache.set (toLowerCase entry.host) entry

section Insert

variable {now : Nat} {entry : DnsCacheEntry}

theorem Sound.insertPositive (h : caches.Sound timed toLowerCase times) (hnow : timed → times.clock ≤ now)
    (hlower : toLowerCase (toLowerCase entry.host) = toLowerCase entry.host)
    (htouched : timed → entry.touchedAt = now) :
    (caches.insertPositive toLowerCase entry).Sound timed toLowerCase
      (times.use (toLowerCase entry.host) now) where
  positive := by
    apply h.positive.touch hnow
    · rfl
    · exact hlower
    · exact htouched
  negative := (h.negative.delete _).use_other hnow (JsMap.notMem_keys_delete _ _)
  disjoint := by
    intro k hk hk'
    obtain ⟨hold, hne⟩ := (JsMap.mem_keys_delete _ _ _).mp hk'
    rcases (JsMap.mem_keys_touch _ _ _ _).mp hk with hk | hk
    · exact h.disjoint k hk hold
    · exact hne hk

theorem Sound.insertNegative (h : caches.Sound timed toLowerCase times) (hnow : timed → times.clock ≤ now)
    (hlower : toLowerCase (toLowerCase entry.host) = toLowerCase entry.host)
    (htouched : timed → entry.touchedAt = now) :
    (caches.insertNegative toLowerCase entry).Sound timed toLowerCase
      (times.use (toLowerCase entry.host) now) where
  positive := (h.positive.delete _).use_other hnow (JsMap.notMem_keys_delete _ _)
  negative := by
    apply h.negative.touch hnow
    · rfl
    · exact hlower
    · exact htouched
  disjoint := by
    intro k hk hk'
    obtain ⟨hold, hne⟩ := (JsMap.mem_keys_delete _ _ _).mp hk
    rcases (JsMap.mem_keys_touch _ _ _ _).mp hk' with hk' | hk'
    · exact h.disjoint k hold hk'
    · exact hne hk'

theorem Sound.getPositive (h : caches.Sound timed toLowerCase times) (hnow : timed → times.clock ≤ now)
    (host : String) :
    ((caches.getPositive toLowerCase host now).1 = none ∧
        (caches.getPositive toLowerCase host now).2.Sound timed toLowerCase (times.tick now)) ∨
      ∃ entry, (caches.getPositive toLowerCase host now).1 = some entry ∧ now < entry.expiresAt ∧
        (caches.getPositive toLowerCase host now).2.Sound timed toLowerCase
          (times.use (toLowerCase host) now) := by
  obtain ⟨hsub, hget⟩ := h.positive.get hnow (toLowerCase host)
  have hdisjoint : ∀ k ∈ (caches.positiveCache.get (toLowerCase host) now).2.keys,
      k ∉ caches.negativeCache.keys := fun k hk => h.disjoint k (hsub k hk)
  rcases hget with ⟨hnone, hsound⟩ | ⟨entry, hsome, hfresh, hkey, hsound⟩
  · exact .inl ⟨hnone, hsound, h.negative.tick hnow, hdisjoint⟩
  · refine .inr ⟨entry, hsome, hfresh, hsound, ?_, hdisjoint⟩
    exact h.negative.use_other hnow (h.disjoint _ hkey)

theorem Sound.getNegative (h : caches.Sound timed toLowerCase times) (hnow : timed → times.clock ≤ now)
    (host : String) :
    ((caches.getNegative toLowerCase host now).1 = none ∧
        (caches.getNegative toLowerCase host now).2.Sound timed toLowerCase (times.tick now)) ∨
      ∃ entry, (caches.getNegative toLowerCase host now).1 = some entry ∧ now < entry.expiresAt ∧
        (caches.getNegative toLowerCase host now).2.Sound timed toLowerCase
          (times.use (toLowerCase host) now) := by
  obtain ⟨hsub, hget⟩ := h.negative.get hnow (toLowerCase host)
  have hdisjoint : ∀ k ∈ caches.positiveCache.keys,
      k ∉ (caches.negativeCache.get (toLowerCase host) now).2.keys :=
    fun k hk hk' => h.disjoint k hk (hsub k hk')
  rcases hget with ⟨hnone, hsound⟩ | ⟨entry, hsome, hfresh, hkey, hsound⟩
  · exact .inl ⟨hnone, h.positive.tick hnow, hsound, hdisjoint⟩
  · refine .inr ⟨entry, hsome, hfresh, ?_, hsound, hdisjoint⟩
    exact h.positive.use_other hnow fun hmem => h.disjoint _ hmem hkey

end Insert

end DnsCaches

namespace CacheHistory

variable {toLowerCase : String → String} {maxEntries : Nat}

/-- No host is in both caches, and every entry is under its own host, in lower case. -/
structure Safe (toLowerCase : String → String) (history : CacheHistory) : Prop where
  disjoint : ∀ key ∈ history.caches.positiveCache.keys, key ∉ history.caches.negativeCache.keys
  positive : ∀ key entry, (key, entry) ∈ history.caches.positiveCache.entries →
    toLowerCase key = key ∧ entry.host = key
  negative : ∀ key entry, (key, entry) ∈ history.caches.negativeCache.entries →
    toLowerCase key = key ∧ entry.host = key

/-- The caches that a set leads to before they are trimmed. -/
def inserted (toLowerCase : String → String) (caches : DnsCaches) : CacheCall → Option DnsCaches
  | .setPositive entry => some (caches.insertPositive toLowerCase entry)
  | .setNegative entry => some (caches.insertNegative toLowerCase entry)
  | _ => none

/-- What a call keeps: no entry is returned that has expired; a set leaves no more entries than
allowed, by evictions of entries that were used least recently, and the new one is evicted only
after all that were used strictly earlier. -/
structure Careful (toLowerCase : String → String) (maxEntries : Nat) (history : CacheHistory)
    (now : Nat) (call : CacheCall) : Prop where
  fresh : ∀ entry, (perform toLowerCase maxEntries history.caches now call).1 = some entry →
    now < entry.expiresAt
  fits : ∀ full, inserted toLowerCase history.caches call = some full →
    (history.after toLowerCase maxEntries now call).caches.size ≤ maxEntries
  evicts : ∀ full, inserted toLowerCase history.caches call = some full →
    Relation.ReflTransGen
      (DnsCaches.Evicts (history.after toLowerCase maxEntries now call).times.usedAt) full
      (history.after toLowerCase maxEntries now call).caches
  newest : ∀ entry, call = .setPositive entry ∨ call = .setNegative entry →
    ¬ (history.after toLowerCase maxEntries now call).caches.Holds (toLowerCase entry.host) →
    ∀ kept, (history.after toLowerCase maxEntries now call).caches.Holds kept →
      now ≤ (history.after toLowerCase maxEntries now call).times.usedAt kept

section Steps

variable {timed : Prop} {history : CacheHistory} {now : Nat} {call : CacheCall}

/-- What a get does to a sound history. -/
theorem after_of_get {answer : Option DnsCacheEntry} {caches : DnsCaches} {host : String}
    (hperform : perform toLowerCase maxEntries history.caches now call = (answer, caches))
    (hused : used toLowerCase maxEntries history.caches now call =
      if answer.isSome then some (toLowerCase host) else none)
    (hget : (answer = none ∧ caches.Sound timed toLowerCase (history.times.tick now)) ∨
      ∃ entry, answer = some entry ∧ now < entry.expiresAt ∧
        caches.Sound timed toLowerCase (history.times.use (toLowerCase host) now)) :
    (history.after toLowerCase maxEntries now call).caches.Sound timed toLowerCase
        (history.after toLowerCase maxEntries now call).times ∧
      ∀ entry, (perform toLowerCase maxEntries history.caches now call).1 = some entry →
        now < entry.expiresAt := by
  unfold after
  rw [hused, hperform]
  rcases hget with ⟨rfl, hsound⟩ | ⟨entry, rfl, hfresh, hsound⟩
  · refine ⟨hsound, ?_⟩
    intro entry h
    cases h
  · refine ⟨hsound, ?_⟩
    intro entry' h
    cases h
    exact hfresh

/-- Every call keeps a history sound, and a get returns no expired entry. -/
theorem after_sound (hlower : ∀ text, toLowerCase (toLowerCase text) = toLowerCase text)
    (h : history.caches.Sound timed toLowerCase history.times)
    (htime : timed → InTime history (now, call)) :
    (history.after toLowerCase maxEntries now call).caches.Sound timed toLowerCase
        (history.after toLowerCase maxEntries now call).times ∧
      ∀ entry, (perform toLowerCase maxEntries history.caches now call).1 = some entry →
        now < entry.expiresAt := by
  have hnow : timed → history.times.clock ≤ now := fun ht => (htime ht).1
  cases call with
  | getPositive host => exact after_of_get rfl rfl (h.getPositive hnow host)
  | getNegative host => exact after_of_get rfl rfl (h.getNegative hnow host)
  | setPositive entry =>
    have hfull := h.insertPositive hnow (hlower _) fun ht => (htime ht).2 entry (.inl rfl)
    refine ⟨(hfull.trimLoop maxEntries _ _).2, ?_⟩
    intro entry' hnone
    cases hnone
  | setNegative entry =>
    have hfull := h.insertNegative hnow (hlower _) fun ht => (htime ht).2 entry (.inr rfl)
    refine ⟨(hfull.trimLoop maxEntries _ _).2, ?_⟩
    intro entry' hnone
    cases hnone

/-- A set that leads to `full` before the caches are trimmed. -/
structure Sets (history : CacheHistory) (now : Nat) (call : CacheCall) (host : String)
    (full : DnsCaches) : Prop where
  holds : full.Holds (toLowerCase host)
  caches : (history.after toLowerCase maxEntries now call).caches =
    DnsCaches.trimCache maxEntries full
  times : (history.after toLowerCase maxEntries now call).times =
    history.times.use (toLowerCase host) now
  sound : full.Sound True toLowerCase (history.times.use (toLowerCase host) now)

theorem exists_sets (hlower : ∀ text, toLowerCase (toLowerCase text) = toLowerCase text)
    (h : history.caches.Sound True toLowerCase history.times) (htime : InTime history (now, call))
    {full : DnsCaches} (hfull : inserted toLowerCase history.caches call = some full) :
    ∃ entry, (call = .setPositive entry ∨ call = .setNegative entry) ∧
      @Sets toLowerCase maxEntries history now call entry.host full := by
  cases call with
  | getPositive host => cases hfull
  | getNegative host => cases hfull
  | setPositive entry =>
    cases hfull
    refine ⟨entry, .inl rfl, ?_, rfl, rfl, ?_⟩
    · exact .inl ((JsMap.mem_keys_touch _ _ _ _).mpr (.inr rfl))
    · exact h.insertPositive (fun _ => htime.1) (hlower _) fun _ => htime.2 entry (.inl rfl)
  | setNegative entry =>
    cases hfull
    refine ⟨entry, .inr rfl, ?_, rfl, rfl, ?_⟩
    · exact .inr ((JsMap.mem_keys_touch _ _ _ _).mpr (.inr rfl))
    · exact h.insertNegative (fun _ => htime.1) (hlower _) fun _ => htime.2 entry (.inr rfl)

theorem careful_of_sound (hlower : ∀ text, toLowerCase (toLowerCase text) = toLowerCase text)
    (h : history.caches.Sound True toLowerCase history.times)
    (htime : InTime history (now, call)) :
    Careful toLowerCase maxEntries history now call := by
  refine ⟨(after_sound hlower h fun _ => htime).2, ?_, ?_, ?_⟩
  · intro full hfull
    obtain ⟨entry, -, hsets⟩ := exists_sets hlower h htime hfull
    rw [hsets.caches]
    exact (DnsCaches.fits_trimCache maxEntries hsets.sound.ordered).2
  · intro full hfull
    obtain ⟨entry, -, hsets⟩ := exists_sets hlower h htime hfull
    rw [hsets.caches, hsets.times]
    exact (hsets.sound.trimLoop maxEntries full.size full).1 trivial
  · intro entry hcall hgone kept hkept
    obtain ⟨full, hfull⟩ : ∃ full, inserted toLowerCase history.caches call = some full := by
      rcases hcall with rfl | rfl
      · exact ⟨_, rfl⟩
      · exact ⟨_, rfl⟩
    obtain ⟨entry', hcall', hsets⟩ := exists_sets hlower h htime hfull
    have hentry : entry' = entry := by
      rcases hcall with hp | hn
      · rcases hcall' with hp' | hn'
        · exact CacheCall.setPositive.inj (hp'.symm.trans hp)
        · cases hn'.symm.trans hp
      · rcases hcall' with hp' | hn'
        · cases hp'.symm.trans hn
        · exact CacheCall.setNegative.inj (hn'.symm.trans hn)
    subst hentry
    have hchain := (hsets.sound.trimLoop maxEntries full.size full).1 trivial
    rw [hsets.caches] at hgone hkept
    have hle := (DnsCaches.chain_evicts hchain).2 _ kept hsets.holds hgone hkept
    rw [hsets.times]
    refine Nat.le_trans (Nat.le_of_eq ?_) hle
    show now = Function.update history.times.usedAt _ now _
    rw [Function.update_self]

end Steps

theorem sound_of_run (timed : Prop)
    (hlower : ∀ text, toLowerCase (toLowerCase text) = toLowerCase text)
    {callList : List (Nat × CacheCall)} {history : CacheHistory}
    (hrun : (system toLowerCase maxEntries).run start callList = some history)
    (htime : (system toLowerCase maxEntries).Along (fun history call => timed → InTime history call)
      start callList) :
    history.caches.Sound timed toLowerCase history.times := by
  refine (system toLowerCase maxEntries).run_invariant
    (fun history call => timed → InTime history call)
    (fun history => history.caches.Sound timed toLowerCase history.times) ?_ callList start history
    ?_ htime hrun
  · intro before call after h hcall hstep
    cases hstep
    exact (after_sound hlower h hcall).1
  · refine ⟨DnsCache.sound_empty _ _ _, DnsCache.sound_empty _ _ _, ?_⟩
    intro key hkey
    exact absurd hkey List.not_mem_nil

end CacheHistory

open CacheHistory in
/-- The two caches of a generation, over every sequence of calls on a clock that does not go
back. -/
theorem caches_under_one_limit (toLowerCase : String → String)
    (hlower : ∀ text, toLowerCase (toLowerCase text) = toLowerCase text) (maxEntries : Nat)
    (callList : List (Nat × CacheCall)) (history : CacheHistory)
    (hrun : (system toLowerCase maxEntries).run start callList = some history)
    (htime : (system toLowerCase maxEntries).Along InTime start callList) :
    history.Safe toLowerCase ∧
      ∀ now call, InTime history (now, call) →
        Careful toLowerCase maxEntries history now call := by
  have hsound := sound_of_run True hlower hrun (htime.mono fun _ _ h _ => h)
  refine ⟨⟨hsound.disjoint, ?_, ?_⟩, ?_⟩
  · intro key entry hmem
    obtain ⟨hhost, hkey, -⟩ := hsound.positive.entries key entry hmem
    exact ⟨hkey, hhost⟩
  · intro key entry hmem
    obtain ⟨hhost, hkey, -⟩ := hsound.negative.entries key entry hmem
    exact ⟨hkey, hhost⟩
  · intro now call hcall
    exact careful_of_sound hlower hsound hcall

theorem char_toLower_idempotent (c : Char) : c.toLower.toLower = c.toLower := by
  by_cases h : c.val ≥ 'A'.val ∧ c.val ≤ 'Z'.val
  · have hval : c.toLower.val = c.val + 32 := by
      unfold Char.toLower
      rw [dif_pos h]
      rfl
    refine dif_neg ?_
    rintro ⟨-, hle⟩
    have hlow : 65 ≤ c.val.toNat := UInt32.le_iff_toNat_le.mp h.1
    have hhigh : c.val.toNat ≤ 90 := UInt32.le_iff_toNat_le.mp h.2
    have hle : (c.val + 32).toNat ≤ 90 := UInt32.le_iff_toNat_le.mp (hval ▸ hle)
    rw [UInt32.toNat_add] at hle
    have h32 : (32 : UInt32).toNat = 32 := rfl
    omega
  · have hlow : c.toLower = c := dif_neg h
    rw [hlow, hlow]

theorem toLower_idempotent (text : String) : text.toLower.toLower = text.toLower := by
  apply String.toList_injective
  unfold String.toLower
  rw [String.toList_map, String.toList_map, List.map_map]
  apply List.map_congr_left
  intro c _
  exact char_toLower_idempotent c

def addressEntry (host : String) (now : Nat) : DnsCacheEntry where
  host := host
  value := "192.0.2.10"
  expiresAt := now + 60000
  touchedAt := now
  source := .udp
  sensitive := false
  synthetic := false

open CacheHistory in
/-- Three hosts under a limit of two; the first one is hit before the third is set. -/
theorem caches_under_one_limit_hit : ∃ history,
    (system String.toLower 2).run start
        [(1, .setPositive (addressEntry "a.test" 1)), (2, .setNegative (addressEntry "b.test" 2)),
          (3, .getPositive "A.test")] = some history ∧
      history.Safe String.toLower ∧
      (history.after String.toLower 2 4 (.setNegative (addressEntry "c.test" 4))).caches.size ≤ 2 := by
  refine ⟨_, rfl, ?_⟩
  have hcaches := caches_under_one_limit String.toLower toLower_idempotent 2
    [(1, .setPositive (addressEntry "a.test" 1)), (2, .setNegative (addressEntry "b.test" 2)),
      (3, .getPositive "A.test")] _ rfl
    (by
      refine ⟨⟨by decide, ?_⟩, ?_⟩
      · rintro entry (h | h) <;> cases h
        rfl
      rintro _ ⟨⟩
      refine ⟨⟨by decide, ?_⟩, ?_⟩
      · rintro entry (h | h) <;> cases h
        rfl
      rintro _ ⟨⟩
      refine ⟨⟨by decide, ?_⟩, ?_⟩
      · rintro entry (h | h) <;> cases h
      rintro _ ⟨⟩
      trivial)
  refine ⟨hcaches.1, (hcaches.2 4 (.setNegative (addressEntry "c.test" 4)) ?_).fits _ rfl⟩
  refine ⟨?_, ?_⟩
  · rw [clock_after]
    decide
  · rintro entry (h | h) <;> cases h
    rfl

end Sepigs
