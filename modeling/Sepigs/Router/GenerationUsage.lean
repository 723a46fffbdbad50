import Sepigs.Router.GenerationRuns

/-!
# Usage and draining of one routing runtime

Usage is counted under the combined key of a pair.  Pairs that were active have keys
of their own (`Kept.apart`), so a key stands for a pair.
-/

namespace Sepigs

namespace UsageState

open RoutingGenerationRuntime

/-! ## Handles and keys -/

section Handles

variable {s : UsageState}

/-- The outstanding handles under a key. -/
def heldUnder (handles : List RoutingGenerationHandle) (key : String) : Nat :=
  handles.countP fun handle => !handle.released && pairKey handle.generation = key

abbrev held (s : UsageState) (key : String) : Nat := heldUnder s.handles key

/-- What the code counts and lists, by key. -/
structure Kept (s : UsageState) : Prop where
  usage : ∀ key, (s.runtime.usage.get key).getD 0 = s.held key
  found : ∀ key, 0 < s.held key → key = pairKey s.active ∨ s.runtime.draining.has key = true
  listed : ∀ key g, s.runtime.draining.get key = some g → pairKey g = key ∧ g ∈ s.made
  active : s.active ∈ s.made
  handles : ∀ handle ∈ s.handles, handle.generation ∈ s.made
  old : ∀ transactionId transaction,
    s.runtime.transactions.get transactionId = some transaction →
      transaction.oldGeneration ∈ s.made
  apart : ∀ g ∈ s.made, s.Apart g

theorem kept_start (initial : RoutingGenerationPair) : Kept (start initial) where
  usage _ := rfl
  found _ h := absurd h (Nat.lt_irrefl 0)
  listed _ _ h := nomatch h
  active := List.mem_singleton.mpr rfl
  handles _ h := nomatch h
  old _ _ h := nomatch h
  apart := by
    intro g hg g' hg' _
    rw [List.mem_singleton.mp hg, List.mem_singleton.mp hg']

/-- Among pairs that were active, a key is a pair. -/
theorem Kept.held_eq (h : Kept s) {generation : RoutingGenerationPair}
    (hmade : generation ∈ s.made) : s.held (pairKey generation) = s.outstanding generation := by
  unfold held heldUnder outstanding
  refine List.countP_congr fun handle hmem => ?_
  have hiff : pairKey handle.generation = pairKey generation ↔
      handle.generation.ids = generation.ids :=
    ⟨h.apart _ hmade _ (h.handles handle hmem), pairKey_congr⟩
  simp only [hiff]

theorem Kept.accounted (h : Kept s) : Accounted s where
  usage generation hmade := by rw [h.usage, h.held_eq hmade]
  found generation hmade hpos := by
    rw [← h.held_eq hmade] at hpos
    rcases h.found _ hpos with hkey | hlisted
    · exact Or.inl (h.apart _ h.active _ hmade hkey)
    · obtain ⟨g, hg⟩ := (KeyMap.has_eq_true _ _).mp hlisted
      obtain ⟨hkey, hgmade⟩ := h.listed _ g hg
      exact Or.inr ⟨g, hg, h.apart _ hmade _ hgmade hkey⟩

variable {runtime : RoutingGenerationRuntime} {clock : Nat} {begun : KeyMap String Nat}
  {routers policies : KeyMap String IdOrigin}
  {publications : List (String × RoutingGenerationPair)}

/-- Writing a transaction changes nothing that is counted. -/
theorem Kept.transactions (h : Kept s) (husage : runtime.usage = s.runtime.usage)
    (hdraining : runtime.draining = s.runtime.draining)
    (hactive : runtime.activeGeneration = s.active)
    (hold : ∀ transactionId transaction,
      runtime.transactions.get transactionId = some transaction →
        transaction.oldGeneration ∈ s.made) :
    Kept ⟨runtime, s.handles, clock, begun, routers, policies, s.made, publications⟩ where
  usage key := husage ▸ h.usage key
  found key hpos := by
    show key = pairKey runtime.activeGeneration ∨ runtime.draining.has key = true
    rw [hactive, hdraining]
    exact h.found key hpos
  listed key g hg := h.listed key g (hdraining ▸ hg)
  active := by
    show runtime.activeGeneration ∈ s.made
    rw [hactive]
    exact h.active
  handles := h.handles
  old := hold
  apart := h.apart

theorem Kept.setTransaction (h : Kept s) {transactionId : String}
    {transaction : RoutingTransaction} (hold : transaction.oldGeneration ∈ s.made) :
    Kept ⟨s.runtime.setTransaction transactionId transaction, s.handles, clock, begun, routers,
      policies, s.made, publications⟩ := by
  refine h.transactions rfl rfl rfl fun id t ht => ?_
  change (s.runtime.transactions.set transactionId transaction).get id = some t at ht
  rw [KeyMap.get_set] at ht
  split at ht
  · cases ht
    exact hold
  · exact h.old id t ht

/-- Another pair becomes active, and the one before is listed unless it has no handle. -/
theorem Kept.switch (h : Kept s) {next : RoutingGenerationPair} (hapart : s.Apart next)
    (husage : runtime.usage = s.runtime.usage) (hactive : runtime.activeGeneration = next)
    (hdraining : runtime.draining = s.runtime.draining.set (pairKey s.active) s.active ∨
      s.held (pairKey s.active) = 0 ∧ runtime.draining = s.runtime.draining)
    (hold : ∀ transactionId transaction,
      runtime.transactions.get transactionId = some transaction →
        transaction.oldGeneration ∈ s.made) :
    Kept ⟨runtime, s.handles, clock, begun, routers, policies, next :: s.made,
      publications⟩ where
  usage key := husage ▸ h.usage key
  found key hpos := by
    right
    show runtime.draining.has key = true
    have hbefore := h.found key hpos
    rcases hdraining with hset | ⟨hzero, hsame⟩
    · rw [hset, KeyMap.has, KeyMap.get_set]
      split
      · rfl
      · next hne => exact hbefore.resolve_left hne
    · rw [hsame]
      refine hbefore.resolve_left fun hkey => ?_
      rw [hkey] at hpos
      exact Nat.lt_irrefl 0 (hzero ▸ hpos)
  listed key g hg := by
    change runtime.draining.get key = some g at hg
    rcases hdraining with hset | ⟨-, hsame⟩
    · rw [hset, KeyMap.get_set] at hg
      split at hg
      · next hkey =>
        cases hg
        exact ⟨hkey.symm, List.mem_cons_of_mem _ h.active⟩
      · exact ⟨(h.listed key g hg).1, List.mem_cons_of_mem _ (h.listed key g hg).2⟩
    · rw [hsame] at hg
      exact ⟨(h.listed key g hg).1, List.mem_cons_of_mem _ (h.listed key g hg).2⟩
  active := by
    show runtime.activeGeneration ∈ next :: s.made
    rw [hactive]
    exact List.mem_cons_self
  handles handle hmem := List.mem_cons_of_mem _ (h.handles handle hmem)
  old transactionId transaction ht := List.mem_cons_of_mem _ (hold transactionId transaction ht)
  apart := by
    intro g hg g' hg' hkey
    rcases List.mem_cons.mp hg with heq | hmem <;> rcases List.mem_cons.mp hg' with heq' | hmem'
    · rw [heq, heq']
    · rw [heq] at hkey ⊢
      exact hapart g' hmem' hkey
    · rw [heq'] at hkey ⊢
      exact (hapart g hmem hkey.symm).symm
    · exact h.apart g hmem g' hmem' hkey

theorem Kept.acquire (h : Kept s) : Kept (s.after .acquire) where
  usage key := by
    show ((s.runtime.usage.set (pairKey s.active)
      ((s.runtime.usage.get (pairKey s.active)).getD 0 + 1)).get key).getD 0 =
        heldUnder (s.handles ++ [⟨s.active, false⟩]) key
    rw [KeyMap.get_set, h.usage]
    by_cases hkey : key = pairKey s.active
    · subst hkey
      simp [heldUnder]
    · rw [if_neg hkey, h.usage]
      simp [heldUnder, Ne.symm hkey]
  found key hpos := by
    by_cases hkey : key = pairKey s.active
    · exact Or.inl hkey
    · refine h.found key ?_
      change 0 < heldUnder (s.handles ++ [⟨s.active, false⟩]) key at hpos
      simpa [heldUnder, Ne.symm hkey] using hpos
  listed := h.listed
  active := h.active
  handles handle hmem := by
    rcases List.mem_append.mp hmem with hmem | hmem
    · exact h.handles handle hmem
    · rw [List.mem_singleton.mp hmem]
      exact h.active
  old := h.old
  apart := h.apart

/-- A handle released for the first time is one less under its key. -/
theorem held_release {index : Nat} {handle : RoutingGenerationHandle}
    (hindex : s.handles[index]? = some handle) (hout : handle.released = false) (key : String) :
    s.held key = heldUnder (s.handles.set index { handle with released := true }) key +
      if pairKey handle.generation = key then 1 else 0 := by
  obtain ⟨hlt, hget⟩ := List.getElem?_eq_some_iff.mp hindex
  have hle := List.boole_getElem_le_countP
    (p := fun handle => !handle.released && pairKey handle.generation = key) hlt
  unfold held heldUnder
  rw [List.countP_set hlt]
  rw [hget] at hle ⊢
  simp only [hout, Bool.not_false, Bool.true_and, decide_eq_true_eq] at hle ⊢
  simp only [Bool.not_true, Bool.false_and, Bool.false_eq_true, if_false]
  omega

theorem Kept.release (h : Kept s) {index : Nat} {handle : RoutingGenerationHandle}
    (hindex : s.handles[index]? = some handle) (hout : handle.released = false) :
    Kept ⟨s.runtime.release handle.generation, s.handles.set index { handle with released := true },
      clock, begun, routers, policies, s.made, publications⟩ := by
  have hheld := held_release hindex hout
  have hkey := hheld (pairKey handle.generation)
  rw [if_pos rfl] at hkey
  have husage := h.usage (pairKey handle.generation)
  -- the counter of an outstanding handle is set, and it is not zero
  have hcount : (s.runtime.usage.get (pairKey handle.generation)).getD 1 =
      s.held (pairKey handle.generation) := by
    cases hget : s.runtime.usage.get (pairKey handle.generation) with
    | none =>
      rw [hget] at husage
      simp only [Option.getD_none] at husage
      omega
    | some n => rw [← husage, hget, Option.getD_some, Option.getD_some]
  have hhandles : ∀ other ∈ s.handles.set index { handle with released := true },
      other.generation ∈ s.made := by
    intro other hmem
    rcases List.mem_or_eq_of_mem_set hmem with hmem | rfl
    · exact h.handles other hmem
    · exact h.handles handle (List.mem_of_getElem? hindex)
  have hother : ∀ key, key ≠ pairKey handle.generation →
      heldUnder (s.handles.set index { handle with released := true }) key = s.held key := by
    intro key hne
    rw [hheld key, if_neg (Ne.symm hne), Nat.add_zero]
  simp only [RoutingGenerationRuntime.release, hcount]
  split
  · next hzero =>
    refine ⟨fun key => ?_, fun key hpos => ?_, fun key g hg => ?_, h.active, hhandles, h.old,
      h.apart⟩
    · show ((s.runtime.usage.delete (pairKey handle.generation)).get key).getD 0 = _
      rw [KeyMap.get_delete]
      split
      · next heq =>
        subst heq
        show 0 = heldUnder (s.handles.set index { handle with released := true }) _
        omega
      · next hne => exact (h.usage key).trans (hother key hne).symm
    · by_cases heq : key = pairKey handle.generation
      · subst heq
        change 0 < heldUnder (s.handles.set index { handle with released := true }) _ at hpos
        omega
      · have hpos' : 0 < s.held key := hother key heq ▸ hpos
        refine (h.found key hpos').imp_right fun hlisted => ?_
        show KeyMap.has (s.runtime.draining.delete _) key = true
        rw [KeyMap.has, KeyMap.get_delete_of_ne _ heq]
        exact hlisted
    · change (s.runtime.draining.delete _).get key = some g at hg
      rw [KeyMap.get_delete] at hg
      split at hg
      · cases hg
      · exact h.listed key g hg
  · refine ⟨fun key => ?_, fun key hpos => ?_, h.listed, h.active, hhandles, h.old, h.apart⟩
    · show ((s.runtime.usage.set (pairKey handle.generation) _).get key).getD 0 = _
      rw [KeyMap.get_set]
      split
      · next heq =>
        subst heq
        show s.held _ - 1 = heldUnder (s.handles.set index { handle with released := true }) _
        omega
      · next hne => exact (h.usage key).trans (hother key hne).symm
    · refine h.found key ?_
      rw [hheld key]
      exact Nat.lt_of_lt_of_le hpos (Nat.le_add_right _ _)

theorem Kept.rollback (h : Kept s) {transactionId : String}
    (hsound : s.Sound (.rollback transactionId)) : Kept (s.after (.rollback transactionId)) := by
  rcases s.after_rollback transactionId with hsame | ⟨transaction, hget, hpublished, hafter⟩
  · rw [hsame]
    exact h.transactions rfl rfl rfl h.old
  rw [hafter]
  have hold := h.old _ _ hget
  have hset : Kept ⟨s.runtime.setTransaction transactionId { transaction with published := false },
      s.handles, s.clock, s.begun, s.routers, s.policies, s.made, s.publications⟩ :=
    h.setTransaction hold
  -- the pair taken out has no handle, unless it is the pair that comes back
  have hout : ∀ key, 0 < s.held key → key ≠ pairKey transaction.oldGeneration →
      key ≠ pairKey s.active := by
    intro key hpos hne heq
    by_cases hids : s.active.ids = transaction.oldGeneration.ids
    · exact hne (heq.trans (pairKey_congr hids))
    · have hzero := (hsound transaction hget hpublished hids).1
      rw [← h.held_eq h.active, ← heq] at hzero
      omega
  refine ⟨h.usage, fun key hpos => ?_, fun key g hg => ?_, hold, h.handles, hset.old, h.apart⟩
  · by_cases hne : key = pairKey transaction.oldGeneration
    · exact Or.inl hne
    · right
      have hactive := hout key hpos hne
      show KeyMap.has ((s.runtime.draining.delete _).delete _) key = true
      rw [KeyMap.has, KeyMap.get_delete_of_ne _ hactive, KeyMap.get_delete_of_ne _ hne]
      exact (h.found key hpos).resolve_left hactive
  · change ((s.runtime.draining.delete _).delete _).get key = some g at hg
    rw [KeyMap.get_delete, KeyMap.get_delete] at hg
    split at hg
    · cases hg
    split at hg
    · cases hg
    exact h.listed key g hg

theorem Kept.cleanup (h : Kept s) (transactionId : String) :
    Kept (s.after (.cleanup transactionId)) := by
  show Kept ⟨s.runtime.cleanup transactionId, _, _, _, _, _, _, _⟩
  unfold RoutingGenerationRuntime.cleanup
  cases hget : s.runtime.transactions.get transactionId with
  | none => exact h.transactions rfl rfl rfl h.old
  | some transaction =>
    have hold : ∀ id t, (s.runtime.transactions.delete transactionId).get id = some t →
        t.oldGeneration ∈ s.made := by
      intro id t ht
      rw [KeyMap.get_delete] at ht
      split at ht
      · cases ht
      · exact h.old id t ht
    dsimp only
    split
    · next hzero =>
      rw [h.usage] at hzero
      refine ⟨h.usage, fun key hpos => ?_, fun key g hg => ?_, h.active, h.handles, hold, h.apart⟩
      · refine (h.found key hpos).imp_right fun hlisted => ?_
        show KeyMap.has (s.runtime.draining.delete _) key = true
        rw [KeyMap.has, KeyMap.get_delete]
        split
        · next heq =>
          subst heq
          exact absurd hpos (hzero.2 ▸ Nat.lt_irrefl 0)
        · exact hlisted
      · change (s.runtime.draining.delete _).get key = some g at hg
        rw [KeyMap.get_delete] at hg
        split at hg
        · cases hg
        · exact h.listed key g hg
    · exact h.transactions rfl rfl rfl hold

theorem Kept.tick (h : Kept s) : Kept s.tick := h.transactions rfl rfl rfl h.old

theorem Kept.commit (h : Kept s) {transactionId : String} {component : RoutingComponent}
    (hsound : s.Sound (.commit transactionId component)) :
    Kept (s.after (.commit transactionId component)) := by
  rcases s.after_commit transactionId component with
    hsame | ⟨old, transaction, hget, htransaction, ⟨hcompletes, hafter⟩ | hafter⟩
  · exact hsame ▸ h.tick
  · have hold : transaction.oldGeneration ∈ s.made := htransaction ▸ h.old _ old hget
    have hset : Kept ⟨s.runtime.setTransaction transactionId { transaction with published := true },
        s.handles, s.clock, s.begun, s.routers, s.policies, s.made, s.publications⟩ :=
      h.setTransaction hold
    rw [hafter]
    exact h.switch (hsound _ hcompletes).1 rfl rfl (Or.inl rfl) hset.old
  · have hold : transaction.oldGeneration ∈ s.made := htransaction ▸ h.old _ old hget
    rw [hafter]
    exact h.setTransaction hold

theorem Kept.replaceLegacy (h : Kept s) {next : RoutingGenerationPair} (hapart : s.Apart next) :
    Kept (s.after (.replaceLegacy next)) := by
  refine h.switch hapart rfl rfl ?_ h.old
  show (if 0 < _ then _ else _) = _ ∨ _ ∧ (if 0 < _ then _ else _) = _
  rw [h.usage]
  by_cases hpos : 0 < s.held (pairKey s.active)
  · exact Or.inl (if_pos hpos)
  · exact Or.inr ⟨Nat.eq_zero_of_not_pos hpos, if_neg hpos⟩

theorem Kept.after (h : Kept s) (op : RoutingOperation) (hsound : s.Sound op) :
    Kept (s.after op) := by
  cases op with
  | acquire => exact h.acquire
  | release index =>
    rcases s.after_release index with hsame | ⟨handle, hindex, hout, hafter⟩
    · exact hsame ▸ h.tick
    · exact hafter ▸ h.release hindex hout
  | replaceLegacy next => exact h.replaceLegacy hsound
  | begin transactionId expected =>
    rcases s.after_begin transactionId expected with hsame | ⟨-, hafter⟩
    · exact hsame ▸ h.tick
    · exact hafter ▸ h.setTransaction h.active
  | stageRouter transactionId candidate =>
    rcases s.after_stageRouter transactionId candidate with hsame | ⟨transaction, hget, hafter⟩
    · exact hsame ▸ h.tick
    · exact hafter ▸ h.setTransaction (h.old _ transaction hget)
  | stagePolicy transactionId candidate =>
    rcases s.after_stagePolicy transactionId candidate with hsame | ⟨transaction, hget, hafter⟩
    · exact hsame ▸ h.tick
    · exact hafter ▸ h.setTransaction (h.old _ transaction hget)
  | commit transactionId component => exact h.commit hsound
  | rollback transactionId => exact h.rollback hsound
  | cleanup transactionId => exact h.cleanup transactionId

end Handles

end UsageState

end Sepigs
