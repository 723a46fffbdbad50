import Mathlib.Logic.Function.Basic
import Sepigs.Dns.FakeIpRecency

/-!
# The least recently used mapping and the one that is given up

A history keeps, beside the service, the number of the call in which a domain was last
assigned or found by `reverse`.  A full pool gives up the mapping of its first address.
-/

namespace Sepigs

structure FakeIpHistory where
  service : FakeIpService
  calls : Nat
  lastUse : String → Nat

namespace FakeIpHistory

def start (service : FakeIpService) : FakeIpHistory := ⟨service, 0, fun _ => 0⟩

variable (toLowerCase : String → String) (clock : Nat → Nat)

/-- The service after a call. -/
def perform (service : FakeIpService) : FakeIpService.Call → FakeIpService
  | .assign domain => (service.assign toLowerCase clock domain).2
  | .reverse address => (service.reverse clock address).2

/-- The domain that a call assigns or finds. -/
def used (service : FakeIpService) : FakeIpService.Call → Option String
  | .assign domain => (service.assign toLowerCase clock domain).1.toOption.map fun _ => toLowerCase domain
  | .reverse address => (service.reverse clock address).1

def after (history : FakeIpHistory) (call : FakeIpService.Call) : FakeIpHistory where
  service := perform toLowerCase clock history.service call
  calls := history.calls + 1
  lastUse :=
    match used toLowerCase clock history.service call with
    | none => history.lastUse
    | some domain => Function.update history.lastUse domain history.calls

def system : Runs.System FakeIpHistory FakeIpService.Call where
  step history call := some (history.after toLowerCase clock call)

/-- A history is a run of the service. -/
theorem run_service {calls : List FakeIpService.Call} {history history' : FakeIpHistory}
    (hrun : (system toLowerCase clock).run history calls = some history') :
    (FakeIpService.system toLowerCase clock).run history.service calls = some history'.service := by
  induction calls generalizing history with
  | nil =>
    cases hrun
    rfl
  | cons call calls ih =>
    have hnext := ih hrun
    cases call <;> exact hnext

/-- The mapping was used before all others. -/
def LeastRecent (history : FakeIpHistory) (r : FakeIpRecord) : Prop :=
  history.service.store.Mapped r ∧
    ∀ r', history.service.store.Mapped r' → r' ≠ r → history.lastUse r.domain < history.lastUse r'.domain

theorem leastRecent_iff {history : FakeIpHistory} (h : history.service.store.Inverse) (r : FakeIpRecord) :
    history.LeastRecent r ↔ r ∈ history.service.store.byDomain.values ∧
      ∀ r' ∈ history.service.store.byDomain.values, r' ≠ r →
        history.lastUse r.domain < history.lastUse r'.domain := by
  unfold LeastRecent
  simp only [h.mem_values]

/-- Assigning the domain takes out one mapping, the least recently used, and returns its address. -/
def EvictsLeastRecent (history : FakeIpHistory) (domain : String) : Prop :=
  ∃ r, history.LeastRecent r ∧
    (history.service.assign toLowerCase clock domain).1 = .ok r.address ∧
    ∀ r', history.service.store.Mapped r' →
      ((history.service.assign toLowerCase clock domain).2.store.Mapped r' ↔ r' ≠ r)

/-- The mappings that are left when the domain is assigned stand in the store as they stood
before, so the search has used none of them. -/
def SearchUsesNone (service : FakeIpService) (domain : String) : Prop :=
  (service.assign toLowerCase clock domain).2.store.byDomain.values.filter
      (fun r => service.store.Mapped r) =
    service.store.byDomain.values.filter
      (fun r => (service.assign toLowerCase clock domain).2.store.Mapped r)

/-! ## One assignment -/

section Assign

variable {toLowerCase clock} {service : FakeIpService} {base bits size ttl : Nat} {domain : String}
  (hsteady : service.Steady clock base bits size ttl) (hfull : service.Full)
  (hclock : ∀ i j, i ≤ j → clock j < clock i + ttl * 1000)
  (hdomain : toLowerCase domain ∉ service.store.byDomain.keys)

include hsteady hfull hclock hdomain

/-- The address returned is the first, and all mappings but its own stay, in the order of their
addresses. -/
theorem assign_full : ∃ first, service.store.Mapped first ∧ first.address = service.pool.candidate 0 ∧
    (service.assign toLowerCase clock domain).1 = .ok first.address ∧
    (∀ r, service.store.Mapped r →
      ((service.assign toLowerCase clock domain).2.store.Mapped r ↔ r ≠ first)) ∧
    (service.assign toLowerCase clock domain).2.store.byDomain.values.filter
        (fun r => service.store.Mapped r) = service.inPoolOrder.tail := by
  obtain ⟨hafter, first, rest, new, hreplaced⟩ :=
    FakeIpService.allocate_full hsteady hfull hclock hdomain
  have horder := hreplaced.order
  have hmapped (r : FakeIpRecord) : service.store.Mapped r ↔ r = first ∨ r ∈ rest := by
    rw [← FakeIpService.mem_inPoolOrder hsteady.sound hfull r, horder, List.mem_cons]
  have hnew : ¬ service.store.Mapped new := by
    intro hold
    refine hdomain ((hsteady.sound.inverse.mem_keys_byDomain _).mpr ⟨new, hreplaced.domain, hold⟩)
  have hnodup := FakeIpService.nodup_domains hsteady.sound hfull
  rw [horder] at hnodup
  have hfirst : first ∉ rest := (List.nodup_cons.mp (List.Nodup.of_map _ hnodup)).1
  rw [FakeIpService.assign_new hdomain]
  refine ⟨first, (hmapped first).mpr (.inl rfl), hreplaced.address, hreplaced.returned, ?_, ?_⟩
  · intro r hr
    rw [← hafter.sound.inverse.mem_values, hreplaced.values, List.mem_append, List.mem_singleton]
    constructor
    · rintro (hrest | rfl) heq
      · exact hfirst (heq ▸ hrest)
      · exact hnew hr
    · intro hne
      exact .inl (((hmapped r).mp hr).resolve_left hne)
  · rw [hreplaced.values, horder, List.filter_append, List.filter_cons_of_neg (by simpa using hnew),
      List.filter_nil, List.append_nil, List.tail_cons, List.filter_eq_self]
    intro r hr
    exact decide_eq_true ((hmapped r).mpr (.inr hr))

theorem evictsLeastRecent_iff {history : FakeIpHistory} (hservice : history.service = service) :
    history.EvictsLeastRecent toLowerCase clock domain ↔
      ∃ r, history.LeastRecent r ∧ r.address = service.pool.candidate 0 := by
  subst hservice
  obtain ⟨first, hmapped, haddress, hreturned, hstay, -⟩ := assign_full hsteady hfull hclock hdomain
  constructor
  · rintro ⟨r, hleast, -, hout⟩
    refine ⟨r, hleast, ?_⟩
    by_contra hne
    have hfirst : r ≠ first := fun heq => hne (heq ▸ haddress)
    exact (hout r hleast.1).mp ((hstay r hleast.1).mpr hfirst) rfl
  · rintro ⟨r, hleast, hr⟩
    obtain rfl : r = first := hsteady.sound.inverse.eq_of_address hleast.1 hmapped (hr.trans haddress.symm)
    exact ⟨r, hleast, hreturned, hstay⟩

theorem searchUsesNone_iff : SearchUsesNone toLowerCase clock service domain ↔
    service.store.byDomain.values.filter (fun r => r.address ≠ service.pool.candidate 0) =
      service.inPoolOrder.tail := by
  obtain ⟨first, hmapped, haddress, -, hstay, hfilter⟩ := assign_full hsteady hfull hclock hdomain
  have hsame : service.store.byDomain.values.filter
        (fun r => (service.assign toLowerCase clock domain).2.store.Mapped r) =
      service.store.byDomain.values.filter (fun r => r.address ≠ service.pool.candidate 0) := by
    refine List.filter_congr fun r hr => decide_eq_decide.mpr ?_
    have hr' := (hsteady.sound.inverse.mem_values r).mp hr
    rw [hstay r hr', not_iff_not, ← haddress]
    constructor
    · exact congrArg FakeIpRecord.address
    · exact hsteady.sound.inverse.eq_of_address hr' hmapped
  unfold SearchUsesNone
  rw [hfilter, hsame, eq_comm]

end Assign

/-- **A full pool gives up the mapping of its first address.**  Over a clock at which nothing
expires, in every state of every service whose addresses are all taken: a new domain takes
the place of the least recently used mapping exactly when that is the one at the first
address; and the search leaves the order of the other mappings alone exactly when they
stand in the order of their addresses. -/
theorem eviction_iff (number : String → Option Int) (config : FakeIpConfig) {service : FakeIpService}
    (hcreate : FakeIpService.create number config = .ok service)
    (hclock : ∀ i j, i ≤ j → clock j < clock i + service.ttlSeconds * 1000)
    (calls : List FakeIpService.Call) (history : FakeIpHistory)
    (hrun : (system toLowerCase clock).run (start service) calls = some history)
    (hfull : history.service.Full) (domain : String)
    (hdomain : toLowerCase domain ∉ history.service.store.byDomain.keys) :
    (history.EvictsLeastRecent toLowerCase clock domain ↔
        ∃ r, history.LeastRecent r ∧ r.address = history.service.pool.candidate 0) ∧
      (SearchUsesNone toLowerCase clock history.service domain ↔
        history.service.store.byDomain.values.filter
            (fun r => r.address ≠ history.service.pool.candidate 0) =
          history.service.inPoolOrder.tail) := by
  obtain ⟨base, bits, hstart⟩ : ∃ base bits,
      service.Steady clock base bits (config.size.getD 65536) service.ttlSeconds :=
    FakeIpService.create_steady hcreate
  have hsteady := FakeIpService.run_steady hstart hclock toLowerCase (run_service toLowerCase clock hrun)
  exact ⟨evictsLeastRecent_iff hsteady hfull hclock hdomain rfl,
    searchUsesNone_iff hsteady hfull hclock hdomain⟩

/-- The history of some calls, at one moment. -/
def afterCalls (calls : List FakeIpService.Call) : FakeIpHistory :=
  calls.foldl (after String.toLower fun _ => 0) (start FakeIpService.twoAddressService)

theorem run_twoAddresses (calls : List FakeIpService.Call) :
    (system String.toLower fun _ => 0).run (start FakeIpService.twoAddressService) calls = some (afterCalls calls) := by
  unfold afterCalls
  generalize start FakeIpService.twoAddressService = history
  induction calls generalizing history with
  | nil => rfl
  | cons call calls ih => exact ih (history.after String.toLower (fun _ => 0) call)

theorem steady_twoAddresses (calls : List FakeIpService.Call) :
    ∃ base bits, (afterCalls calls).service.Steady (fun _ => 0) base bits 2 60 := by
  obtain ⟨base, bits, hstart⟩ : ∃ base bits, FakeIpService.twoAddressService.Steady (fun _ => 0) base bits 2 60 :=
    FakeIpService.create_steady FakeIpService.create_twoAddresses
  have hrun := run_service String.toLower (fun _ => 0) (run_twoAddresses calls)
  exact ⟨base, bits, FakeIpService.run_steady hstart (fun _ _ _ => by decide) String.toLower hrun⟩

theorem eviction_iff_two :
    (afterCalls [.assign "one.test", .assign "two.test"]).EvictsLeastRecent String.toLower (fun _ => 0)
      "three.test" := by
  obtain ⟨base, bits, hsteady⟩ := steady_twoAddresses [.assign "one.test", .assign "two.test"]
  refine (eviction_iff String.toLower (fun _ => 0) JsString.decimalNumber FakeIpService.twoAddresses FakeIpService.create_twoAddresses
    (fun _ _ _ => by decide) _ _ (run_twoAddresses [.assign "one.test", .assign "two.test"])
    (by decide +kernel) "three.test" (by decide +kernel)).1.mpr ?_
  refine ⟨⟨"one.test", "198.18.0.1", 60000⟩, (leastRecent_iff hsteady.sound.inverse _).mpr ?_, ?_⟩
  · decide +kernel
  · decide +kernel

/-- Two domains, and then the first one is used again. -/
def usedAgain : FakeIpHistory :=
  afterCalls [.assign "one.test", .assign "two.test", .reverse "198.18.0.1"]

/-- The mapping that was just used is given up. -/
theorem used_mapping_evicted :
    (system String.toLower fun _ => 0).run (start FakeIpService.twoAddressService)
        [.assign "one.test", .assign "two.test", .reverse "198.18.0.1"] = some usedAgain ∧
      usedAgain.service.Full ∧ "three.test" ∉ usedAgain.service.store.byDomain.keys ∧
      (usedAgain.service.assign String.toLower (fun _ => 0) "three.test").1.toOption = some "198.18.0.1" ∧
      ¬ usedAgain.EvictsLeastRecent String.toLower (fun _ => 0) "three.test" := by
  obtain ⟨base, bits, hsteady⟩ : ∃ base bits, usedAgain.service.Steady (fun _ => 0) base bits 2 60 :=
    steady_twoAddresses [.assign "one.test", .assign "two.test", .reverse "198.18.0.1"]
  refine ⟨run_twoAddresses _, by decide +kernel, by decide +kernel, by decide +kernel, ?_⟩
  rw [evictsLeastRecent_iff hsteady (by decide +kernel) (fun _ _ _ => by decide) (by decide +kernel) rfl]
  rintro ⟨r, hleast, haddress⟩
  obtain ⟨hmem, hfirst⟩ := (leastRecent_iff hsteady.sound.inverse r).mp hleast
  have hlater : ∀ r ∈ usedAgain.service.store.byDomain.values,
      r.address = usedAgain.service.pool.candidate 0 →
        ∃ r' ∈ usedAgain.service.store.byDomain.values, r' ≠ r ∧
          ¬ usedAgain.lastUse r.domain < usedAgain.lastUse r'.domain := by
    decide +kernel
  obtain ⟨r', hr', hne, hlt⟩ := hlater r hmem haddress
  exact hlt (hfirst r' hr' hne)

end FakeIpHistory

end Sepigs
