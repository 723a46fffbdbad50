import Sepigs.Dns.GenerationStore

/-!
# Who uses a DNS generation

The handles that the store has given out and the flights of single-flight lookups,
beside the store.  A generation is used by the handles that were not released and by
the flights that have not settled; `Usage` says that the store's counters count them,
that it has lost none that is used, and that the active generation is one of its own.

Each operation of the store has one lemma, with what it needs of its arguments.
-/

namespace Sepigs

/-- What `acquire` returned; `released` is the variable of its closure. -/
structure DNSGenerationHandle where
  generation : DNSGeneration
  released : Bool
deriving DecidableEq, Repr

/-- An entry of the single flight of a generation. -/
structure DnsFlight where
  generation : DNSGeneration
  key : String
deriving DecidableEq, Repr

namespace DNSGenerationStore

/-- The handles of an object that were not released. -/
def outstanding (handles : List DNSGenerationHandle) (ref : Nat) : Nat :=
  handles.countP fun handle => handle.generation.ref = ref ∧ handle.released = false

/-- The size of an object's single flight. -/
def inFlightOf (flights : List DnsFlight) (ref : Nat) : Nat :=
  flights.countP fun flight => flight.generation.ref = ref

/-! ## The counters -/

theorem state_setState (store : DNSGenerationStore) (generation : DNSGeneration)
    (f : DnsGenerationRuntimeState → DnsGenerationRuntimeState) (ref : Nat) :
    (store.setState generation f).state ref =
      if ref = generation.ref then f (store.state ref) else store.state ref := by
  show Function.update store.state generation.ref (f (store.state generation.ref)) ref = _
  rw [Function.update_apply]
  split
  · next heq => rw [heq]
  · rfl

theorem state_acquire (store : DNSGenerationStore) (ref : Nat) :
    store.acquire.2.state ref = if ref = store.activeGeneration.ref then
      { store.state ref with queryRefs := (store.state ref).queryRefs + 1 } else store.state ref :=
  store.state_setState store.activeGeneration
    (fun state => { state with queryRefs := state.queryRefs + 1 }) ref

theorem state_switchTo (store : DNSGenerationStore) (candidate : DNSGeneration) (ref : Nat) :
    (store.switchTo candidate).state ref = { store.state ref with
      draining := ref ≠ candidate.ref ∧
        (ref = store.activeGeneration.ref ∨ (store.state ref).draining = true) } := by
  have hactive : (store.switchTo candidate).state ref = if ref = candidate.ref then
      { (store.markDraining store.activeGeneration).state ref with draining := false }
      else (store.markDraining store.activeGeneration).state ref :=
    (store.markDraining store.activeGeneration).state_setState candidate
      (fun state => { state with draining := false }) ref
  have hold : (store.markDraining store.activeGeneration).state ref =
      if ref = store.activeGeneration.ref then { store.state ref with draining := true }
      else store.state ref :=
    store.state_setState store.activeGeneration (fun state => { state with draining := true }) ref
  rw [hactive, hold]
  by_cases hcandidate : ref = candidate.ref
  · rw [if_pos hcandidate]
    split
    · simp [hcandidate]
    · simp [hcandidate]
  · rw [if_neg hcandidate]
    split
    · next heq => simp [hcandidate, ← heq]
    · next hne => simp [hcandidate, hne]

/-! ## `releaseDrained` -/

/-- What `releaseDrained` deletes. -/
def isDrained (store : DNSGenerationStore) (generation : DNSGeneration) : Bool :=
  generation ≠ store.activeGeneration ∧ store.isReleasable generation

theorem isDrained_eq_true (store : DNSGenerationStore) (generation : DNSGeneration) :
    store.isDrained generation = true ↔ generation ≠ store.activeGeneration ∧
      (store.state generation.ref).draining = true ∧
      (store.state generation.ref).queryRefs = 0 ∧ (store.state generation.ref).inFlight = 0 := by
  simp [isDrained, isReleasable, and_assoc]

theorem get_foldl_delete (store : DNSGenerationStore) (k : String) (values : List DNSGeneration) :
    ∀ generations : KeyMap String DNSGeneration,
    (values.foldl (fun generations generation =>
      if generation = store.activeGeneration ∨ store.isReleasable generation = false then generations
      else generations.delete generation.id) generations).get k =
    if ∃ generation ∈ values, generation.id = k ∧ store.isDrained generation = true then none
    else generations.get k := by
  induction values with
  | nil =>
    intro generations
    simp
  | cons value values ih =>
    intro generations
    rw [List.foldl_cons, ih]
    by_cases hdrained : store.isDrained value = true
    · have hdelete : ¬ (value = store.activeGeneration ∨ store.isReleasable value = false) := by
        simpa [isDrained] using hdrained
      rw [if_neg hdelete, KeyMap.get_delete]
      by_cases hid : value.id = k
      · simp [hid, hdrained]
      · simp [hid, Ne.symm hid]
    · have hkeep : value = store.activeGeneration ∨ store.isReleasable value = false := by
        by_contra hnot
        exact hdrained (by simpa [isDrained] using hnot)
      rw [if_pos hkeep]
      simp [hdrained]

/-- Every entry of the map stands under its own id. -/
def Keyed (store : DNSGenerationStore) : Prop :=
  ∀ k generation, store.generations.get k = some generation → generation.id = k

theorem get_releaseDrained {store : DNSGenerationStore} (hkeyed : store.Keyed) (k : String)
    (generation : DNSGeneration) : store.releaseDrained.generations.get k = some generation ↔
      store.generations.get k = some generation ∧ store.isDrained generation = false := by
  unfold releaseDrained
  rw [get_foldl_delete]
  by_cases hdeleted : ∃ generation ∈ store.generations.values,
      generation.id = k ∧ store.isDrained generation = true
  · rw [if_pos hdeleted]
    obtain ⟨other, hmem, hid, hdrained⟩ := hdeleted
    obtain ⟨k', hget⟩ := (KeyMap.mem_values _ _).mp hmem
    obtain rfl : other.id = k' := hkeyed k' other hget
    subst hid
    constructor
    · intro h
      cases h
    · rintro ⟨hget', hkept⟩
      cases hget.symm.trans hget'
      rw [hdrained] at hkept
      cases hkept
  · rw [if_neg hdeleted]
    constructor
    · intro hget
      refine ⟨hget, Bool.eq_false_iff.mpr fun hdrained => hdeleted ?_⟩
      exact ⟨generation, (KeyMap.mem_values _ _).mpr ⟨k, hget⟩, hkeyed k generation hget, hdrained⟩
    · exact fun h => h.1

theorem get_releaseDrained_none {store : DNSGenerationStore} {k : String}
    (h : store.generations.get k = none) : store.releaseDrained.generations.get k = none := by
  unfold releaseDrained
  rw [get_foldl_delete]
  split
  · rfl
  · exact h

/-! ## The invariant -/

/-- `nextRef` is above the number of every generation that was ever active. -/
structure Usage (store : DNSGenerationStore) (handles : List DNSGenerationHandle)
    (flights : List DnsFlight) (nextRef : Nat) : Prop where
  keyed : store.Keyed
  active : store.generations.get store.activeGeneration.id = some store.activeGeneration
  notDraining : (store.state store.activeGeneration.ref).draining = false
  queryRefs : ∀ ref, (store.state ref).queryRefs = outstanding handles ref
  inFlight : ∀ ref, (store.state ref).inFlight = inFlightOf flights ref
  held : ∀ handle ∈ handles, handle.released = false →
    store.generations.get handle.generation.id = some handle.generation
  flying : ∀ flight ∈ flights,
    store.generations.get flight.generation.id = some flight.generation
  activeBelow : store.activeGeneration.ref < nextRef
  handleBelow : ∀ handle ∈ handles, handle.generation.ref < nextRef
  flightBelow : ∀ flight ∈ flights, flight.generation.ref < nextRef

namespace Usage

variable {store : DNSGenerationStore} {handles : List DNSGenerationHandle}
  {flights : List DnsFlight} {nextRef : Nat}

theorem outstanding_pos {handle : DNSGenerationHandle} (hmem : handle ∈ handles)
    (hheld : handle.released = false) : 0 < outstanding handles handle.generation.ref := by
  refine List.countP_pos_iff.mpr ⟨handle, hmem, ?_⟩
  simp [hheld]

theorem inFlightOf_pos {flight : DnsFlight} (hmem : flight ∈ flights) :
    0 < inFlightOf flights flight.generation.ref := by
  refine List.countP_pos_iff.mpr ⟨flight, hmem, ?_⟩
  simp

/-- A move that changes neither the map nor what the counters and marks say. -/
theorem congr {store' : DNSGenerationStore} {nextRef' : Nat} (h : store.Usage handles flights nextRef)
    (hactive : store'.activeGeneration = store.activeGeneration)
    (hgenerations : store'.generations = store.generations)
    (hstate : store'.state = store.state) (hnext : nextRef ≤ nextRef') :
    store'.Usage handles flights nextRef' where
  keyed := by
    intro k generation hget
    rw [hgenerations] at hget
    exact h.keyed k generation hget
  active := by
    rw [hgenerations, hactive]
    exact h.active
  notDraining := by
    rw [hstate, hactive]
    exact h.notDraining
  queryRefs := by
    rw [hstate]
    exact h.queryRefs
  inFlight := by
    rw [hstate]
    exact h.inFlight
  held := by
    rw [hgenerations]
    exact h.held
  flying := by
    rw [hgenerations]
    exact h.flying
  activeBelow := by
    rw [hactive]
    exact Nat.lt_of_lt_of_le h.activeBelow hnext
  handleBelow := fun handle hmem => Nat.lt_of_lt_of_le (h.handleBelow handle hmem) hnext
  flightBelow := fun flight hmem => Nat.lt_of_lt_of_le (h.flightBelow flight hmem) hnext

/-- Nothing in use is drained. -/
theorem releaseDrained (h : store.Usage handles flights nextRef) :
    store.releaseDrained.Usage handles flights nextRef where
  keyed := by
    intro k generation hget
    exact h.keyed k generation ((get_releaseDrained h.keyed k generation).mp hget).1
  active := by
    refine (get_releaseDrained h.keyed _ _).mpr ⟨h.active, ?_⟩
    show store.isDrained store.activeGeneration = false
    simp [isDrained]
  notDraining := h.notDraining
  queryRefs := h.queryRefs
  inFlight := h.inFlight
  held := by
    intro handle hmem hheld
    refine (get_releaseDrained h.keyed _ _).mpr ⟨h.held handle hmem hheld, ?_⟩
    refine Bool.eq_false_iff.mpr fun hdrained => ?_
    obtain ⟨-, -, hzero, -⟩ := (isDrained_eq_true _ _).mp hdrained
    have hpos := outstanding_pos hmem hheld
    rw [h.queryRefs] at hzero
    omega
  flying := by
    intro flight hmem
    refine (get_releaseDrained h.keyed _ _).mpr ⟨h.flying flight hmem, ?_⟩
    refine Bool.eq_false_iff.mpr fun hdrained => ?_
    obtain ⟨-, -, -, hzero⟩ := (isDrained_eq_true _ _).mp hdrained
    have hpos := inFlightOf_pos hmem
    rw [h.inFlight] at hzero
    omega
  activeBelow := h.activeBelow
  handleBelow := h.handleBelow
  flightBelow := h.flightBelow

theorem acquire (h : store.Usage handles flights nextRef) :
    store.acquire.2.Usage (handles ++ [⟨store.activeGeneration, false⟩]) flights nextRef where
  keyed := h.keyed
  active := h.active
  notDraining := by
    show (store.acquire.2.state store.activeGeneration.ref).draining = false
    rw [state_acquire, if_pos rfl]
    exact h.notDraining
  queryRefs := by
    intro ref
    have hrefs := h.queryRefs ref
    unfold outstanding at hrefs ⊢
    rw [state_acquire, List.countP_append, List.countP_singleton]
    by_cases heq : ref = store.activeGeneration.ref
    · subst heq
      simp [hrefs]
    · simp [heq, Ne.symm heq, hrefs]
  inFlight := by
    intro ref
    rw [state_acquire, ← h.inFlight ref]
    split
    · rfl
    · rfl
  held := by
    intro handle hmem hheld
    rcases List.mem_append.mp hmem with hmem | hmem
    · exact h.held handle hmem hheld
    · obtain rfl := List.mem_singleton.mp hmem
      exact h.active
  flying := h.flying
  activeBelow := h.activeBelow
  handleBelow := by
    intro handle hmem
    rcases List.mem_append.mp hmem with hmem | hmem
    · exact h.handleBelow handle hmem
    · obtain rfl := List.mem_singleton.mp hmem
      exact h.activeBelow
  flightBelow := h.flightBelow

/-- The first `release()` of a handle; another one does nothing. -/
theorem release (h : store.Usage handles flights nextRef) {i : Nat} {handle : DNSGenerationHandle}
    (hi : handles[i]? = some handle) (hheld : handle.released = false) :
    (store.release handle.generation).Usage (handles.set i { handle with released := true }) flights
      nextRef := by
  obtain ⟨hlt, hget⟩ := List.getElem?_eq_some_iff.mp hi
  have hmem : handle ∈ handles := List.mem_of_getElem? hi
  refine releaseDrained ⟨h.keyed, h.active, ?_, ?_, ?_, ?_, h.flying, h.activeBelow, ?_, h.flightBelow⟩
  · show ((store.setState handle.generation _).state store.activeGeneration.ref).draining = false
    rw [state_setState]
    split
    · exact h.notDraining
    · exact h.notDraining
  · intro ref
    have hrefs := h.queryRefs ref
    unfold outstanding at hrefs ⊢
    rw [state_setState, List.countP_set hlt, hget]
    by_cases heq : ref = handle.generation.ref
    · subst heq
      simp [hheld, hrefs]
    · simp [heq, Ne.symm heq, hrefs]
  · intro ref
    rw [state_setState, ← h.inFlight ref]
    split
    · rfl
    · rfl
  · intro other hother hnot
    rcases List.mem_or_eq_of_mem_set hother with hother | rfl
    · exact h.held other hother hnot
    · cases hnot
  · intro other hother
    rcases List.mem_or_eq_of_mem_set hother with hother | rfl
    · exact h.handleBelow other hother
    · exact h.handleBelow handle hmem

/-- The counter of one generation's flights, after the flights have changed. -/
theorem setInFlight (h : store.Usage handles flights nextRef) (generation : DNSGeneration)
    {flights' : List DnsFlight}
    (hothers : ∀ ref, ref ≠ generation.ref → inFlightOf flights' ref = inFlightOf flights ref)
    (hflights : ∀ flight ∈ flights', flight ∈ flights ∨
      ∃ handle ∈ handles, handle.released = false ∧ flight.generation = handle.generation) :
    (store.setState generation fun state =>
      { state with inFlight := inFlightOf flights' generation.ref }).Usage handles flights'
        nextRef where
  keyed := h.keyed
  active := h.active
  notDraining := by
    show ((store.setState generation _).state store.activeGeneration.ref).draining = false
    rw [state_setState]
    split
    · exact h.notDraining
    · exact h.notDraining
  queryRefs := by
    intro ref
    rw [state_setState, ← h.queryRefs ref]
    split
    · rfl
    · rfl
  inFlight := by
    intro ref
    rw [state_setState]
    by_cases heq : ref = generation.ref
    · rw [if_pos heq, heq]
    · rw [if_neg heq, hothers ref heq, h.inFlight]
  held := h.held
  flying := by
    intro flight hmem
    rcases hflights flight hmem with hmem | ⟨handle, hhandle, hheld, heq⟩
    · exact h.flying flight hmem
    · rw [heq]
      exact h.held handle hhandle hheld
  activeBelow := h.activeBelow
  handleBelow := h.handleBelow
  flightBelow := by
    intro flight hmem
    rcases hflights flight hmem with hmem | ⟨handle, hhandle, -, heq⟩
    · exact h.flightBelow flight hmem
    · rw [heq]
      exact h.handleBelow handle hhandle

/-- A candidate is a new object. -/
theorem prepare (h : store.Usage handles flights nextRef) {candidate : DNSGeneration}
    (hnew : candidate.ref = nextRef) :
    (store.setState candidate fun _ => ⟨0, 0, false⟩).Usage handles flights (nextRef + 1) where
  keyed := h.keyed
  active := h.active
  notDraining := by
    show ((store.setState candidate _).state store.activeGeneration.ref).draining = false
    rw [state_setState]
    split
    · rfl
    · exact h.notDraining
  queryRefs := by
    intro ref
    rw [state_setState]
    split
    · next heq =>
      refine (List.countP_eq_zero.mpr fun handle hmem => ?_).symm
      have hbelow := h.handleBelow handle hmem
      have hne : handle.generation.ref ≠ ref := by omega
      simp [hne]
    · exact h.queryRefs ref
  inFlight := by
    intro ref
    rw [state_setState]
    split
    · next heq =>
      refine (List.countP_eq_zero.mpr fun flight hmem => ?_).symm
      have hbelow := h.flightBelow flight hmem
      have hne : flight.generation.ref ≠ ref := by omega
      simp [hne]
    · exact h.inFlight ref
  held := h.held
  flying := h.flying
  activeBelow := Nat.lt_succ_of_lt h.activeBelow
  handleBelow := fun handle hmem => Nat.lt_succ_of_lt (h.handleBelow handle hmem)
  flightBelow := fun flight hmem => Nat.lt_succ_of_lt (h.flightBelow flight hmem)

/-- **The switch to a candidate loses nothing**, if its id is not in the map. -/
theorem switchTo (h : store.Usage handles flights nextRef) {candidate : DNSGeneration}
    (hfree : store.generations.get candidate.id = none) (hbelow : candidate.ref < nextRef) :
    (store.switchTo candidate).Usage handles flights nextRef := by
  -- An entry of the map stands under another id than the candidate.
  have hkept : ∀ generation : DNSGeneration, store.generations.get generation.id = some generation →
      (store.switchTo candidate).generations.get generation.id = some generation := by
    intro generation hget
    refine (KeyMap.get_set_of_ne _ _ fun heq => ?_).trans hget
    rw [heq, hfree] at hget
    cases hget
  refine ⟨?_, ?_, ?_, fun ref => ?_, fun ref => ?_, fun handle hmem hheld => ?_,
    fun flight hmem => ?_, hbelow, h.handleBelow, h.flightBelow⟩
  · intro k generation hget
    have hget : (store.generations.set candidate.id candidate).get k = some generation := hget
    rw [KeyMap.get_set] at hget
    split at hget
    · next heq =>
      cases hget
      exact heq.symm
    · exact h.keyed k generation hget
  · exact KeyMap.get_set_self _ _ _
  · show ((store.switchTo candidate).state candidate.ref).draining = false
    rw [state_switchTo]
    simp
  · rw [state_switchTo, ← h.queryRefs]
  · rw [state_switchTo, ← h.inFlight]
  · exact hkept _ (h.held handle hmem hheld)
  · exact hkept _ (h.flying flight hmem)

end Usage

end DNSGenerationStore

end Sepigs
