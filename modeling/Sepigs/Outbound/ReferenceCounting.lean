import Sepigs.Outbound.RegistryOperations
import Sepigs.Lib.Runs
import Mathlib.Data.List.Nodup
import Mathlib.Data.List.Perm.Basic

/-!
# Reference counting in the outbound runtime registry

`RegistryHistory` is a registry together with what happened to it so far: the
references acquired and not yet released, and every generation ever registered.
A registry operation that throws changes nothing.

The invariant `Consistent` has three parts, each about one projection of the
records, so that an operation that leaves a projection alone leaves its part
alone:

* `Activity`: the states.  The active record is the one under `activeGenerationId`.
* `Lifecycle`: the descriptors and objects.  An object of a registered generation
  has been stopped once if the record is gone, and never otherwise.
* `Accounting`: the counters.  The descriptor's counter, the sum of the per-tag
  counters and the number of held references agree.
-/

namespace Sepigs

structure HeldReference where
  generation : OutboundGeneration
  reference : OutboundRuntimeReference
deriving DecidableEq

structure RegistryHistory where
  registry : OutboundRuntimeRegistry
  held : List HeldReference
  registered : List RuntimeEntry

/-- The calls of the registry's interface; a reference may be released any
number of times. -/
inductive RegistryOperation
  | acquireOutboundRef (tag generationId : String)
  | releaseOutboundRef (referenceId : Nat)
  | switchGeneration (candidate : OutboundGeneration) (outbounds : KeyMap String Outbound)
  | restoreGeneration (oldGenerationId candidateGenerationId : String)
  | markDraining (generationId : String)
  | retireIfUnused (generationId : String)

namespace RegistryHistory

/-- All objects ever registered. -/
def instances (history : RegistryHistory) : List Outbound :=
  history.registered.flatMap fun entry => entry.outbounds.values

/-- A fresh descriptor with objects of its own. -/
def Fresh (history : RegistryHistory) (entry : RuntimeEntry) : Prop :=
  (∀ e ∈ history.registered, e.generation.ref ≠ entry.generation.ref) ∧
    entry.outbounds.values.Nodup ∧ ∀ outbound ∈ entry.outbounds.values,
      outbound ∉ history.instances

instance (history : RegistryHistory) (entry : RuntimeEntry) : Decidable (history.Fresh entry) :=
  inferInstanceAs (Decidable (_ ∧ _ ∧ _))

/-- What the callers promise: they switch to fresh generations only, and restore
over the active generation only. -/
def Permits (history : RegistryHistory) : RegistryOperation → Prop
  | .switchGeneration candidate outbounds => history.Fresh ⟨candidate, outbounds⟩
  | .restoreGeneration _ candidateGenerationId =>
    candidateGenerationId = history.registry.activeGenerationId
  | _ => True

instance (history : RegistryHistory) :
    (operation : RegistryOperation) → Decidable (history.Permits operation)
  | .switchGeneration candidate outbounds =>
    inferInstanceAs (Decidable (history.Fresh ⟨candidate, outbounds⟩))
  | .restoreGeneration _ candidateGenerationId =>
    inferInstanceAs (Decidable (candidateGenerationId = history.registry.activeGenerationId))
  | .acquireOutboundRef .. | .releaseOutboundRef .. | .markDraining .. | .retireIfUnused .. =>
    .isTrue trivial

def afterAcquire (history : RegistryHistory) (tag generationId : String) : RegistryHistory :=
  match history.registry.acquireOutboundRef tag generationId,
      history.registry.records.get generationId with
  | (some reference, registry), some record => { history with
      registry := registry
      held := ⟨record.generation, reference⟩ :: history.held }
  | _, _ => history

def afterRelease (history : RegistryHistory) (referenceId : Nat) : RegistryHistory :=
  { history with
    registry := history.registry.releaseOutboundRef referenceId
    held := history.held.filter fun x => x.reference.id ≠ referenceId }

/-- A call that throws leaves the registry as it was. -/
def orUnchanged (history : RegistryHistory) (registry : Except String OutboundRuntimeRegistry) :
    RegistryHistory :=
  match registry with
  | .ok registry => { history with registry := registry }
  | .error _ => history

def afterSwitch (history : RegistryHistory) (candidate : OutboundGeneration)
    (outbounds : KeyMap String Outbound) : RegistryHistory :=
  match history.registry.switchGeneration candidate outbounds with
  | .ok registry => { history with
      registry := registry
      registered := ⟨candidate, outbounds⟩ :: history.registered }
  | .error _ => history

def after (history : RegistryHistory) : RegistryOperation → RegistryHistory
  | .acquireOutboundRef tag generationId => history.afterAcquire tag generationId
  | .releaseOutboundRef referenceId => history.afterRelease referenceId
  | .switchGeneration candidate outbounds => history.afterSwitch candidate outbounds
  | .restoreGeneration oldGenerationId candidateGenerationId =>
    history.orUnchanged (history.registry.restoreGeneration oldGenerationId candidateGenerationId)
  | .markDraining generationId => history.orUnchanged (history.registry.markDraining generationId)
  | .retireIfUnused generationId =>
    { history with registry := history.registry.retireIfUnused generationId }

/-- The histories of a registry under permitted operations. -/
def system : Runs.System RegistryHistory RegistryOperation where
  step history operation := if history.Permits operation then some (history.after operation) else none

/-- A constructed registry. -/
def start (generation : OutboundGeneration) (outbounds : KeyMap String Outbound) :
    Except String RegistryHistory := do
  let registry ← OutboundRuntimeRegistry.new generation outbounds
  return ⟨registry, [], [⟨generation, outbounds⟩]⟩

/-- The record a generation was registered with is gone. -/
def Retired (history : RegistryHistory) (entry : RuntimeEntry) : Prop :=
  history.registry.liveEntry entry.generation.id ≠ some entry

end RegistryHistory

/-! ## The invariant -/

structure Activity (registry : OutboundRuntimeRegistry) : Prop where
  active_iff : ∀ id, registry.stateOf id = some .active ↔ id = registry.activeGenerationId

structure Lifecycle (registry : OutboundRuntimeRegistry) (registered : List RuntimeEntry) : Prop where
  keyed : ∀ id e, registry.liveEntry id = some e → e.generation.id = id
  mem_registered : ∀ id e, registry.liveEntry id = some e → e ∈ registered
  refs_nodup : (registered.map fun e => e.generation.ref).Nodup
  instances_nodup : (registered.flatMap fun e => e.outbounds.values).Nodup
  live_count : ∀ e ∈ registered, registry.liveEntry e.generation.id = some e →
    ∀ o ∈ e.outbounds.values, registry.stopCalls.count o = 0
  retired_count : ∀ e ∈ registered, registry.liveEntry e.generation.id ≠ some e →
    ∀ o ∈ e.outbounds.values, registry.stopCalls.count o = 1
  stopped_registered : ∀ o ∈ registry.stopCalls, ∃ e ∈ registered, o ∈ e.outbounds.values

structure Accounting (registry : OutboundRuntimeRegistry) (held : List HeldReference) : Prop where
  usage_total : ∀ id e counts, registry.liveEntry id = some e → registry.tagCounts id = some counts →
    registry.usage e.generation.ref = counts.total
  held_total : ∀ id counts, registry.tagCounts id = some counts →
    counts.total = held.countP fun x => x.reference.generationId = id
  held_tag : ∀ id counts, registry.tagCounts id = some counts → ∀ tag,
    (counts.get tag).getD 0 =
      held.countP fun x => x.reference.generationId = id ∧ x.reference.tag = tag
  idle : ∀ ref, (∀ id e, registry.liveEntry id = some e → e.generation.ref ≠ ref) →
    registry.usage ref = 0
  held_live : ∀ x ∈ held, ∃ e, registry.liveEntry x.reference.generationId = some e ∧
    e.generation = x.generation ∧ e.outbounds.get x.reference.tag = some x.reference.outbound
  releases : ∀ id, registry.referenceReleases.get id =
    (held.find? fun x => x.reference.id = id).map fun x =>
      ⟨x.generation.ref, x.reference.generationId, x.reference.tag⟩
  ids_nodup : (held.map fun x => x.reference.id).Nodup
  ids_lt : ∀ x ∈ held, x.reference.id < registry.nextReferenceId

structure RegistryHistory.Consistent (history : RegistryHistory) : Prop where
  activity : Activity history.registry
  lifecycle : Lifecycle history.registry history.registered
  accounting : Accounting history.registry history.held

/-! ## Lemmas about lists -/

theorem eq_of_mem_values {registered : List RuntimeEntry}
    (h : (registered.flatMap fun e => e.outbounds.values).Nodup) {e e' : RuntimeEntry}
    (he : e ∈ registered) (he' : e' ∈ registered) {o : Outbound} (ho : o ∈ e.outbounds.values)
    (ho' : o ∈ e'.outbounds.values) : e = e' := by
  obtain ⟨-, hd⟩ := List.nodup_flatMap.mp h
  by_contra hne
  have : Std.Symm (Function.onFun List.Disjoint fun e : RuntimeEntry => e.outbounds.values) :=
    ⟨fun _ _ hab _ h1 h2 => hab h2 h1⟩
  exact hd.forall he he' hne ho ho'

theorem eq_of_ref_eq {registered : List RuntimeEntry}
    (h : (registered.map fun e => e.generation.ref).Nodup) {e e' : RuntimeEntry}
    (he : e ∈ registered) (he' : e' ∈ registered) (hr : e.generation.ref = e'.generation.ref) :
    e = e' :=
  List.inj_on_of_nodup_map h he he' hr

/-- Taking out the one element with a given key. -/
theorem perm_cons_filter {α : Type} (f : α → Nat) (l : List α) (hn : (l.map f).Nodup) (x : α)
    (hx : x ∈ l) : l.Perm (x :: l.filter fun y => f y ≠ f x) := by
  induction l with
  | nil => cases hx
  | cons a l ih =>
    rw [List.map_cons, List.nodup_cons] at hn
    rcases List.mem_cons.mp hx with rfl | hx
    · have hl : l.filter (fun y => f y ≠ f x) = l := by
        refine List.filter_eq_self.mpr fun y hy => decide_eq_true fun heq => hn.1 ?_
        rw [← heq]
        exact List.mem_map_of_mem hy
      rw [List.filter_cons_of_neg (by simp), hl]
    · have ha : f a ≠ f x := fun heq => hn.1 (heq ▸ List.mem_map_of_mem hx)
      rw [List.filter_cons_of_pos (by simpa using ha)]
      exact ((ih hn.2 hx).cons a).trans (List.Perm.swap x a _)

/-! ## What each part of the invariant depends on -/

section Frame

variable {registry registry' : OutboundRuntimeRegistry} {registered : List RuntimeEntry}
  {held : List HeldReference}

theorem Activity.congr (h : Activity registry) (hs : registry'.stateOf = registry.stateOf)
    (ha : registry'.activeGenerationId = registry.activeGenerationId) : Activity registry' :=
  ⟨fun id => by rw [hs, ha]; exact h.active_iff id⟩

theorem Lifecycle.congr (h : Lifecycle registry registered)
    (hl : registry'.liveEntry = registry.liveEntry)
    (hs : registry'.stopCalls = registry.stopCalls) : Lifecycle registry' registered := by
  refine ⟨?_, ?_, h.refs_nodup, h.instances_nodup, ?_, ?_, ?_⟩
  · rw [hl]; exact h.keyed
  · rw [hl]; exact h.mem_registered
  · rw [hl, hs]; exact h.live_count
  · rw [hl, hs]; exact h.retired_count
  · rw [hs]; exact h.stopped_registered

theorem Accounting.congr (h : Accounting registry held)
    (hl : registry'.liveEntry = registry.liveEntry) (ht : registry'.tagCounts = registry.tagCounts)
    (hu : registry'.usage = registry.usage)
    (hr : registry'.referenceReleases = registry.referenceReleases)
    (hn : registry'.nextReferenceId = registry.nextReferenceId) : Accounting registry' held := by
  refine ⟨?_, ?_, ?_, ?_, ?_, ?_, h.ids_nodup, ?_⟩
  · rw [hl, ht, hu]; exact h.usage_total
  · rw [ht]; exact h.held_total
  · rw [ht]; exact h.held_tag
  · rw [hl, hu]; exact h.idle
  · rw [hl]; exact h.held_live
  · rw [hr]; exact h.releases
  · rw [hn]; exact h.ids_lt

/-- Two live records never share a descriptor. -/
theorem Lifecycle.live_ref_inj (h : Lifecycle registry registered) {id id' : String}
    {e e' : RuntimeEntry} (he : registry.liveEntry id = some e)
    (he' : registry.liveEntry id' = some e') (hr : e.generation.ref = e'.generation.ref) :
    id = id' := by
  have heq := eq_of_ref_eq h.refs_nodup (h.mem_registered _ _ he) (h.mem_registered _ _ he') hr
  rw [← h.keyed _ _ he, ← h.keyed _ _ he', heq]

end Frame

/-! ## Acquire -/

/-- What a successful acquire does to the accounts. -/
theorem Accounting.acquire {registry : OutboundRuntimeRegistry} {registered : List RuntimeEntry}
    {held : List HeldReference} (hl : Lifecycle registry registered) (h : Accounting registry held)
    {tag generationId : String} {record : RuntimeGenerationRecord} {outbound : Outbound}
    (hrec : registry.records.get generationId = some record)
    (hout : record.outbounds.get tag = some outbound) :
    Accounting (registry.acquireOutboundRef tag generationId).2
      (⟨record.generation, ⟨registry.nextReferenceId, generationId, tag, outbound⟩⟩ :: held) := by
  have hlive := registry.liveEntry_eq_some hrec
  have htags := registry.tagCounts_eq_some hrec
  have hlive' := (registry.acquireOutboundRef_frame tag generationId).1
  simp only [OutboundRuntimeRegistry.acquireOutboundRef, hrec, hout] at hlive' ⊢
  have htags' := registry.map_referencesByTag_set generationId { record with
    referencesByTag := record.referencesByTag.set tag
      ((record.referencesByTag.get tag).getD 0 + 1) }
  have htotal := KeyMap.total_set record.referencesByTag tag
    ((record.referencesByTag.get tag).getD 0 + 1)
  refine ⟨?_, ?_, ?_, ?_, ?_, ?_, ?_, ?_⟩
  · intro id e counts he hc
    rw [hlive'] at he
    replace hc := (htags' id).symm.trans hc
    split at hc
    · next hid =>
      subst hid
      cases hlive.symm.trans he
      cases hc
      have hu : registry.usage record.generation.ref = record.referencesByTag.total :=
        h.usage_total _ _ _ hlive htags
      simp only [Function.update_self]
      omega
    · next hid =>
      have hne : e.generation.ref ≠ record.generation.ref := fun heq =>
        hid (hl.live_ref_inj he hlive heq)
      simp only [Function.update_of_ne hne]
      exact h.usage_total _ _ _ he hc
  · intro id counts hc
    replace hc := (htags' id).symm.trans hc
    rw [List.countP_cons]
    split at hc
    · next hid =>
      subst hid
      cases hc
      have := h.held_total _ _ htags
      simp only [decide_true, if_true]
      omega
    · next hid =>
      rw [if_neg (by simpa using Ne.symm hid)]
      exact h.held_total _ _ hc
  · intro id counts hc tag'
    replace hc := (htags' id).symm.trans hc
    rw [List.countP_cons]
    split at hc
    · next hid =>
      subst hid
      cases hc
      have hold := h.held_tag _ _ htags tag'
      rw [KeyMap.get_set]
      by_cases ht : tag' = tag
      · subst ht
        simp only [if_true, Option.getD_some, and_self, decide_true]
        omega
      · rw [if_neg ht, if_neg (by simpa using Ne.symm ht)]
        exact hold
    · next hid =>
      rw [if_neg (by simp [Ne.symm hid])]
      exact h.held_tag _ _ hc tag'
  · intro ref href
    rw [hlive'] at href
    have hne : ref ≠ record.generation.ref := fun heq => href _ _ hlive heq.symm
    simp only [Function.update_of_ne hne]
    exact h.idle ref href
  · intro x hx
    rw [hlive']
    rcases List.mem_cons.mp hx with rfl | hx
    · exact ⟨_, hlive, rfl, hout⟩
    · exact h.held_live x hx
  · intro id
    rw [KeyMap.get_set, List.find?_cons]
    by_cases hid : id = registry.nextReferenceId
    · subst hid
      simp only [if_true, decide_true, Option.map_some]
    · simp only [if_neg hid, decide_eq_false (Ne.symm hid)]
      exact h.releases id
  · rw [List.map_cons, List.nodup_cons]
    refine ⟨fun hmem => ?_, h.ids_nodup⟩
    obtain ⟨x, hx, hxid⟩ := List.mem_map.mp hmem
    exact absurd hxid (Nat.ne_of_lt (h.ids_lt x hx))
  · intro x hx
    rcases List.mem_cons.mp hx with rfl | hx
    · exact Nat.lt_succ_self _
    · exact Nat.lt_succ_of_lt (h.ids_lt x hx)

theorem RegistryHistory.Consistent.afterAcquire {history : RegistryHistory}
    (h : history.Consistent) (tag generationId : String) :
    (history.afterAcquire tag generationId).Consistent := by
  obtain ⟨h1, h2, h3, h4⟩ := history.registry.acquireOutboundRef_frame tag generationId
  cases hr : (history.registry.acquireOutboundRef tag generationId).1 with
  | none =>
    have : history.afterAcquire tag generationId = history := by
      unfold RegistryHistory.afterAcquire
      split
      · next heq _ => rw [heq] at hr; cases hr
      · rfl
    rw [this]
    exact h
  | some reference =>
    obtain ⟨record, outbound, hrec, hout, rfl⟩ := history.registry.acquireOutboundRef_some _ _ hr
    have : history.afterAcquire tag generationId = { history with
        registry := (history.registry.acquireOutboundRef tag generationId).2
        held := ⟨record.generation,
          ⟨history.registry.nextReferenceId, generationId, tag, outbound⟩⟩ :: history.held } := by
      unfold RegistryHistory.afterAcquire
      rw [← Prod.eta (history.registry.acquireOutboundRef tag generationId), hr, hrec]
    rw [this]
    exact ⟨h.activity.congr h2 h3, h.lifecycle.congr h1 h4,
      h.accounting.acquire h.lifecycle hrec hout⟩

/-! ## Release -/

/-- The release of a held reference is the inverse of its acquire. -/
theorem Accounting.forget {registry : OutboundRuntimeRegistry} {registered : List RuntimeEntry}
    {held : List HeldReference} (hl : Lifecycle registry registered) (h : Accounting registry held)
    {x : HeldReference} (hx : x ∈ held) :
    Accounting (registry.forgetReference x.reference.id
        ⟨x.generation.ref, x.reference.generationId, x.reference.tag⟩)
      (held.filter fun y => y.reference.id ≠ x.reference.id) := by
  obtain ⟨e, hlive, hgen, hout⟩ := h.held_live x hx
  obtain ⟨record, hrec, rfl⟩ := OutboundRuntimeRegistry.exists_record_of_liveEntry hlive
  have htags := registry.tagCounts_eq_some hrec
  have hperm := perm_cons_filter (fun y : HeldReference => y.reference.id) held h.ids_nodup x hx
  have hcount := fun p : HeldReference → Bool => hperm.countP_eq p
  simp only [List.countP_cons] at hcount
  have hpos : 0 < (record.referencesByTag.get x.reference.tag).getD 0 := by
    rw [h.held_tag _ _ htags]
    exact List.countP_pos_iff.mpr ⟨x, hx, by simp⟩
  have htotal := OutboundRuntimeRegistry.total_releaseTag _ _ hpos
  have htags' := registry.map_referencesByTag_set x.reference.generationId { record with
    referencesByTag :=
      OutboundRuntimeRegistry.releaseTag record.referencesByTag x.reference.tag }
  have hlive' := (registry.forgetReference_frame x.reference.id
    ⟨x.generation.ref, x.reference.generationId, x.reference.tag⟩).1
  simp only [OutboundRuntimeRegistry.forgetReference, hrec] at hlive' ⊢
  refine ⟨?_, ?_, ?_, ?_, ?_, ?_, ?_, ?_⟩
  · intro id e counts he hc
    rw [hlive'] at he
    replace hc := (htags' id).symm.trans hc
    split at hc
    · next hid =>
      subst hid
      cases hlive.symm.trans he
      cases hc
      have hu : registry.usage record.generation.ref = record.referencesByTag.total :=
        h.usage_total _ _ _ hlive htags
      have hr : record.generation.ref = x.generation.ref := congrArg OutboundGeneration.ref hgen
      rw [hr] at hu
      simp only [hr, Function.update_self]
      omega
    · next hid =>
      have hne : e.generation.ref ≠ x.generation.ref := fun heq =>
        hid (hl.live_ref_inj he hlive (heq.trans (congrArg OutboundGeneration.ref hgen).symm))
      simp only [Function.update_of_ne hne]
      exact h.usage_total _ _ _ he hc
  · intro id counts hc
    replace hc := (htags' id).symm.trans hc
    have hk := hcount fun y => y.reference.generationId = id
    split at hc
    · next hid =>
      subst hid
      cases hc
      have := h.held_total _ _ htags
      simp only [decide_true, if_true] at hk
      show (OutboundRuntimeRegistry.releaseTag record.referencesByTag x.reference.tag).total = _
      omega
    · next hid =>
      rw [if_neg (by simpa using Ne.symm hid)] at hk
      rw [h.held_total _ _ hc]
      exact hk
  · intro id counts hc tag
    replace hc := (htags' id).symm.trans hc
    have hk := hcount fun y => y.reference.generationId = id ∧ y.reference.tag = tag
    split at hc
    · next hid =>
      subst hid
      cases hc
      have hold := h.held_tag _ _ htags tag
      rw [OutboundRuntimeRegistry.get_releaseTag _ _ _ hpos]
      by_cases ht : tag = x.reference.tag
      · subst ht
        simp only [if_true, and_self, decide_true] at hk ⊢
        omega
      · rw [if_neg (by simpa using Ne.symm ht)] at hk
        rw [if_neg ht]
        omega
    · next hid =>
      rw [if_neg (by simp [Ne.symm hid])] at hk
      rw [h.held_tag _ _ hc tag]
      exact hk
  · intro ref href
    rw [hlive'] at href
    have hne : ref ≠ x.generation.ref := fun heq =>
      href _ _ hlive ((congrArg OutboundGeneration.ref hgen).trans heq.symm)
    simp only [Function.update_of_ne hne]
    exact h.idle ref href
  · intro y hy
    rw [hlive']
    exact h.held_live y (List.mem_filter.mp hy).1
  · intro id
    rw [KeyMap.get_delete]
    split
    · next hid =>
      subst hid
      have : (held.filter fun y => y.reference.id ≠ x.reference.id).find?
          (fun y => y.reference.id = x.reference.id) = none := by
        rw [List.find?_eq_none]
        intro y hy
        simpa using (List.mem_filter.mp hy).2
      rw [this, Option.map_none]
    · next hid =>
      rw [h.releases, List.find?_filter]
      congr 2
      funext y
      by_cases hy : y.reference.id = id
      · simp [hy, hid]
      · simp [hy]
  · exact (List.Sublist.map _ List.filter_sublist).nodup h.ids_nodup
  · intro y hy
    exact h.ids_lt y (List.mem_filter.mp hy).1

/-! ## Retire -/

/-- Removing the record of a generation and stopping its objects. -/
theorem Lifecycle.retire {registry : OutboundRuntimeRegistry} {registered : List RuntimeEntry}
    (h : Lifecycle registry registered) {id : String} {record : RuntimeGenerationRecord}
    (hrec : registry.records.get id = some record) :
    Lifecycle { registry with
      records := registry.records.delete id
      stopCalls := registry.stopCalls ++ record.outbounds.values } registered := by
  have hentry := registry.liveEntry_eq_some hrec
  have hmem := h.mem_registered _ _ hentry
  have hkey := h.keyed _ _ hentry
  have hlive := registry.liveEntry_delete id
  have hcount : ∀ e ∈ registered, e ≠ ⟨record.generation, record.outbounds⟩ →
      ∀ o ∈ e.outbounds.values, record.outbounds.values.count o = 0 := by
    intro e he hne o ho
    refine List.count_eq_zero.mpr fun ho' => hne ?_
    exact eq_of_mem_values h.instances_nodup he hmem ho ho'
  refine ⟨?_, ?_, h.refs_nodup, h.instances_nodup, ?_, ?_, ?_⟩
  · intro k e he
    replace he := (hlive k).symm.trans he
    split at he
    · cases he
    · exact h.keyed k e he
  · intro k e he
    replace he := (hlive k).symm.trans he
    split at he
    · cases he
    · exact h.mem_registered k e he
  · intro e he hl o ho
    replace hl := (hlive _).symm.trans hl
    split at hl
    · cases hl
    · next hid =>
      have hne : e ≠ ⟨record.generation, record.outbounds⟩ := fun heq => hid (heq ▸ hkey)
      rw [List.count_append, h.live_count e he hl o ho, hcount e he hne o ho]
  · intro e he hl o ho
    rw [List.count_append]
    by_cases heq : e = ⟨record.generation, record.outbounds⟩
    · subst heq
      have hl' : registry.liveEntry record.generation.id =
          some ⟨record.generation, record.outbounds⟩ := by
        rw [show record.generation.id = id from hkey]; exact hentry
      rw [h.live_count _ he hl' o ho]
      have hn : record.outbounds.values.Nodup := (List.nodup_flatMap.mp h.instances_nodup).1 _ he
      rw [List.count_eq_one_of_mem hn ho]
    · rw [hcount e he heq o ho]
      refine congrArg (· + 0) (h.retired_count e he (fun hl' => ?_) o ho)
      refine hl ((hlive _).trans ?_)
      rw [if_neg, hl']
      intro hid
      rw [hid] at hl'
      exact heq (Option.some.inj (hl'.symm.trans hentry))
  · intro o ho
    rcases List.mem_append.mp ho with ho | ho
    · exact h.stopped_registered o ho
    · exact ⟨_, hmem, ho⟩

theorem Accounting.retire {registry : OutboundRuntimeRegistry} {held : List HeldReference}
    (h : Accounting registry held) {id : String} {record : RuntimeGenerationRecord}
    (hrec : registry.records.get id = some record)
    (hidle : registry.usage record.generation.ref = 0) (stopCalls : List Outbound) :
    Accounting { registry with
      records := registry.records.delete id
      stopCalls := stopCalls } held := by
  have hentry := registry.liveEntry_eq_some hrec
  have htags := registry.tagCounts_eq_some hrec
  have hlive := registry.liveEntry_delete id
  have hnone : ∀ x ∈ held, x.reference.generationId ≠ id := by
    have hz := h.usage_total _ _ _ hentry htags
    rw [h.held_total _ _ htags, hidle] at hz
    intro x hx hxid
    have := List.countP_eq_zero.mp hz.symm x hx
    simp [hxid] at this
  have hcounts : ∀ k counts, ((registry.records.delete id).get k).map
      RuntimeGenerationRecord.referencesByTag = some counts →
      registry.tagCounts k = some counts := by
    intro k counts hc
    rw [KeyMap.get_delete] at hc
    split at hc
    · cases hc
    · exact hc
  refine ⟨?_, fun k counts hc => h.held_total _ _ (hcounts k counts hc),
    fun k counts hc => h.held_tag _ _ (hcounts k counts hc), ?_, ?_, h.releases, h.ids_nodup,
    h.ids_lt⟩
  · intro k e counts he hc
    replace he := (hlive k).symm.trans he
    split at he
    · cases he
    · exact h.usage_total _ _ _ he (hcounts _ _ hc)
  · intro ref href
    by_cases hr : ref = record.generation.ref
    · rw [hr]; exact hidle
    · refine h.idle ref fun k e he heq => ?_
      by_cases hk : k = id
      · subst hk
        cases hentry.symm.trans he
        exact hr heq.symm
      · exact href k e ((hlive k).trans (by rw [if_neg hk, he])) heq
  · intro x hx
    obtain ⟨e, he, hge⟩ := h.held_live x hx
    exact ⟨e, (hlive _).trans (by rw [if_neg (hnone x hx), he]), hge⟩

theorem RegistryHistory.Consistent.retireIfUnused {registry : OutboundRuntimeRegistry}
    {registered : List RuntimeEntry} {held : List HeldReference}
    (h : RegistryHistory.Consistent ⟨registry, held, registered⟩) (id : String) :
    RegistryHistory.Consistent ⟨registry.retireIfUnused id, held, registered⟩ := by
  unfold OutboundRuntimeRegistry.retireIfUnused
  cases hrec : registry.records.get id with
  | none => exact h
  | some record =>
    simp only
    split
    · exact h
    · next hcond =>
      rw [not_or] at hcond
      obtain ⟨hactive, hidle⟩ := hcond
      refine ⟨⟨fun k => ?_⟩, h.lifecycle.retire hrec,
        h.accounting.retire hrec (Nat.eq_zero_of_not_pos hidle) _⟩
      show ((registry.records.delete id).get k).map RuntimeGenerationRecord.state = _ ↔ _
      rw [KeyMap.get_delete]
      split
      · next hk => simp [hk, hactive]
      · exact h.activity.active_iff k

theorem RegistryHistory.Consistent.afterRelease {history : RegistryHistory}
    (h : history.Consistent) (referenceId : Nat) :
    (history.afterRelease referenceId).Consistent := by
  unfold RegistryHistory.afterRelease OutboundRuntimeRegistry.releaseOutboundRef
  have hrel := h.accounting.releases referenceId
  cases hf : history.held.find? fun x => x.reference.id = referenceId with
  | none =>
    rw [hf, Option.map_none] at hrel
    have hself : history.held.filter (fun x => x.reference.id ≠ referenceId) = history.held := by
      refine List.filter_eq_self.mpr fun x hx => ?_
      simpa using List.find?_eq_none.mp hf x hx
    rw [hrel, hself]
    exact h
  | some x =>
    rw [hf, Option.map_some] at hrel
    have hx := List.mem_of_find?_eq_some hf
    have hid : x.reference.id = referenceId := by simpa using List.find?_some hf
    subst hid
    rw [hrel]
    obtain ⟨h1, h2⟩ := history.registry.forgetReference_frame x.reference.id
      ⟨x.generation.ref, x.reference.generationId, x.reference.tag⟩
    exact RegistryHistory.Consistent.retireIfUnused
      ⟨h.activity.congr h2 rfl, h.lifecycle.congr h1 rfl, h.accounting.forget h.lifecycle hx⟩ _

/-! ## Switch, restore and mark draining -/

section States

variable {registry : OutboundRuntimeRegistry} {registered : List RuntimeEntry}
  {held : List HeldReference} {id : String} {record : RuntimeGenerationRecord}

theorem Lifecycle.setState (h : Lifecycle registry registered) (hrec : ∃ r,
    registry.records.get id = some r ∧ record.generation = r.generation ∧
      record.outbounds = r.outbounds ∧ record.referencesByTag = r.referencesByTag)
    (state : RecordState) : Lifecycle (registry.setState id record state) registered :=
  h.congr (registry.setState_frame hrec state).1 rfl

theorem Accounting.setState (h : Accounting registry held) (hrec : ∃ r,
    registry.records.get id = some r ∧ record.generation = r.generation ∧
      record.outbounds = r.outbounds ∧ record.referencesByTag = r.referencesByTag)
    (state : RecordState) : Accounting (registry.setState id record state) held :=
  h.congr (registry.setState_frame hrec state).1 (registry.setState_frame hrec state).2 rfl rfl rfl

end States

theorem RegistryHistory.Consistent.markDraining {history : RegistryHistory}
    (h : history.Consistent) {id : String} {registry' : OutboundRuntimeRegistry}
    (hok : history.registry.markDraining id = .ok registry') :
    RegistryHistory.Consistent { history with registry := registry' } := by
  rcases OutboundRuntimeRegistry.markDraining_ok hok with rfl | ⟨record, hrec, hid, rfl⟩
  · exact h
  · refine ⟨⟨fun k => ?_⟩, h.lifecycle.setState ⟨record, hrec, rfl, rfl, rfl⟩ _,
      h.accounting.setState ⟨record, hrec, rfl, rfl, rfl⟩ _⟩
    rw [OutboundRuntimeRegistry.stateOf_setState]
    show _ ↔ k = history.registry.activeGenerationId
    split
    · next hk => simp [hk, hid]
    · exact h.activity.active_iff k

/-- A restore over the active generation. -/
theorem RegistryHistory.Consistent.restoreGeneration {history : RegistryHistory}
    (h : history.Consistent) {oldId : String} {registry' : OutboundRuntimeRegistry}
    (hok : history.registry.restoreGeneration oldId history.registry.activeGenerationId =
      .ok registry') :
    RegistryHistory.Consistent { history with registry := registry' } := by
  obtain ⟨old, candidate, hold, hcand, rfl⟩ := OutboundRuntimeRegistry.restoreGeneration_ok hok
  have hcand' : ∃ r, history.registry.records.get history.registry.activeGenerationId = some r ∧
      candidate.generation = r.generation ∧ candidate.outbounds = r.outbounds ∧
      candidate.referencesByTag = r.referencesByTag := ⟨candidate, hcand, rfl, rfl, rfl⟩
  have hold' : ∃ r, (history.registry.setState history.registry.activeGenerationId candidate
      .draining).records.get oldId = some r ∧ old.generation = r.generation ∧
      old.outbounds = r.outbounds ∧ old.referencesByTag = r.referencesByTag := by
    by_cases hid : oldId = history.registry.activeGenerationId
    · subst hid
      cases hold.symm.trans hcand
      exact ⟨_, KeyMap.get_set_self _ _ _, rfl, rfl, rfl⟩
    · exact ⟨old, (KeyMap.get_set_of_ne _ _ hid).trans hold, rfl, rfl, rfl⟩
  refine ⟨⟨fun k => ?_⟩,
    ((h.lifecycle.setState hcand' .draining).setState hold' .active).congr rfl rfl,
    ((h.accounting.setState hcand' .draining).setState hold' .active).congr rfl rfl rfl rfl rfl⟩
  show ((history.registry.setState history.registry.activeGenerationId candidate
    .draining).setState oldId old .active).stateOf k = some .active ↔ k = oldId
  simp only [OutboundRuntimeRegistry.stateOf_setState]
  split
  · next hk => simp [hk]
  · next hk =>
    split
    · simp [hk]
    · next hk' => simp [hk, h.activity.active_iff, hk']

/-- A fresh record under an unused id. -/
theorem Lifecycle.register {registry : OutboundRuntimeRegistry} {registered : List RuntimeEntry}
    (h : Lifecycle registry registered) (record : RuntimeGenerationRecord)
    (hid : registry.records.get record.generation.id = none)
    (href : ∀ e ∈ registered, e.generation.ref ≠ record.generation.ref)
    (hnodup : record.outbounds.values.Nodup)
    (hnew : ∀ o ∈ record.outbounds.values,
      o ∉ registered.flatMap fun e => e.outbounds.values) (activeGenerationId : String) :
    Lifecycle { registry with
      records := registry.records.set record.generation.id record
      activeGenerationId := activeGenerationId }
      (⟨record.generation, record.outbounds⟩ :: registered) := by
  have hlive := registry.liveEntry_set record.generation.id record
  have hnone : registry.liveEntry record.generation.id = none := by
    simp only [OutboundRuntimeRegistry.liveEntry, hid, Option.map_none]
  have hunstopped : ∀ o ∈ record.outbounds.values, registry.stopCalls.count o = 0 := by
    intro o ho
    refine List.count_eq_zero.mpr fun hs => hnew o ho ?_
    obtain ⟨e, he, hoe⟩ := h.stopped_registered o hs
    exact List.mem_flatMap.mpr ⟨e, he, hoe⟩
  have hne : ∀ e ∈ registered, e ≠ ⟨record.generation, record.outbounds⟩ := by
    rintro e he rfl
    exact href _ he rfl
  -- An entry registered before is live after the step exactly if it was live before.
  have hold : ∀ e ∈ registered, (if e.generation.id = record.generation.id then
      some (⟨record.generation, record.outbounds⟩ : RuntimeEntry)
      else registry.liveEntry e.generation.id) = some e ↔
        registry.liveEntry e.generation.id = some e := by
    intro e he
    split
    · next hk =>
      rw [hk, hnone]
      simp [Ne.symm (hne e he)]
    · rfl
  refine ⟨?_, ?_, ?_, ?_, ?_, ?_, ?_⟩
  · intro k e he
    replace he := (hlive k).symm.trans he
    split at he
    · next hk => cases he; exact hk.symm
    · exact h.keyed k e he
  · intro k e he
    replace he := (hlive k).symm.trans he
    split at he
    · cases he; exact List.mem_cons_self
    · exact List.mem_cons_of_mem _ (h.mem_registered k e he)
  · rw [List.map_cons, List.nodup_cons]
    refine ⟨fun hmem => ?_, h.refs_nodup⟩
    obtain ⟨e, he, heq⟩ := List.mem_map.mp hmem
    exact href e he heq
  · rw [List.flatMap_cons, List.nodup_append]
    exact ⟨hnodup, h.instances_nodup, fun a ha b hb hab => hnew a ha (hab ▸ hb)⟩
  · intro e he hl o ho
    replace hl := (hlive _).symm.trans hl
    rcases List.mem_cons.mp he with rfl | he
    · exact hunstopped o ho
    · exact h.live_count e he ((hold e he).mp hl) o ho
  · intro e he hl o ho
    replace hl : ¬ _ := fun heq => hl ((hlive _).trans heq)
    rcases List.mem_cons.mp he with rfl | he
    · exact absurd (if_pos rfl) hl
    · exact h.retired_count e he (fun heq => hl ((hold e he).mpr heq)) o ho
  · intro o ho
    obtain ⟨e, he, hoe⟩ := h.stopped_registered o ho
    exact ⟨e, List.mem_cons_of_mem _ he, hoe⟩

theorem Accounting.register {registry : OutboundRuntimeRegistry} {registered : List RuntimeEntry}
    {held : List HeldReference} (hl : Lifecycle registry registered) (h : Accounting registry held)
    (record : RuntimeGenerationRecord) (hid : registry.records.get record.generation.id = none)
    (href : ∀ e ∈ registered, e.generation.ref ≠ record.generation.ref)
    (htags : record.referencesByTag = ∅) (activeGenerationId : String) :
    Accounting { registry with
      records := registry.records.set record.generation.id record
      activeGenerationId := activeGenerationId } held := by
  have hlive := registry.liveEntry_set record.generation.id record
  have htag := registry.map_referencesByTag_set record.generation.id record
  have hnone : registry.liveEntry record.generation.id = none := by
    simp only [OutboundRuntimeRegistry.liveEntry, hid, Option.map_none]
  have hunheld : ∀ x ∈ held, x.reference.generationId ≠ record.generation.id := by
    intro x hx heq
    obtain ⟨e, he, -⟩ := h.held_live x hx
    rw [heq, hnone] at he
    cases he
  have hold : ∀ k e, registry.liveEntry k = some e → k ≠ record.generation.id := by
    rintro k e he rfl
    rw [hnone] at he
    cases he
  refine ⟨?_, ?_, ?_, ?_, ?_, h.releases, h.ids_nodup, h.ids_lt⟩
  · intro k e counts he hc
    replace he := (hlive k).symm.trans he
    replace hc := (htag k).symm.trans hc
    split at he
    · next hk =>
      rw [if_pos hk] at hc
      cases he
      cases hc
      rw [htags]
      exact h.idle _ fun k' e' he' => href e' (hl.mem_registered _ _ he')
    · next hk =>
      rw [if_neg hk] at hc
      exact h.usage_total _ _ _ he hc
  · intro k counts hc
    replace hc := (htag k).symm.trans hc
    split at hc
    · next hk =>
      cases hc
      rw [htags]
      refine (List.countP_eq_zero.mpr fun x hx => ?_).symm
      rw [hk]
      simpa using hunheld x hx
    · exact h.held_total _ _ hc
  · intro k counts hc tag
    replace hc := (htag k).symm.trans hc
    split at hc
    · next hk =>
      cases hc
      rw [htags, KeyMap.get_empty]
      refine (List.countP_eq_zero.mpr fun x hx => ?_).symm
      rw [hk]
      simp [hunheld x hx]
    · exact h.held_tag _ _ hc tag
  · intro ref hr
    refine h.idle ref fun k e he => hr k e ((hlive k).trans ?_)
    rw [if_neg (hold k e he), he]
  · intro x hx
    obtain ⟨e, he, hge⟩ := h.held_live x hx
    exact ⟨e, (hlive _).trans (by rw [if_neg (hunheld x hx), he]), hge⟩

theorem RegistryHistory.Consistent.afterSwitch {history : RegistryHistory} (h : history.Consistent)
    {candidate : OutboundGeneration} {outbounds : KeyMap String Outbound}
    (hfresh : history.Fresh ⟨candidate, outbounds⟩) :
    (history.afterSwitch candidate outbounds).Consistent := by
  unfold RegistryHistory.afterSwitch
  cases hs : history.registry.switchGeneration candidate outbounds with
  | error e => exact h
  | ok registry' =>
    obtain ⟨hid, old, hold, rfl⟩ := OutboundRuntimeRegistry.switchGeneration_ok hs
    obtain ⟨href, hnodup, hnew⟩ := hfresh
    have hne : candidate.id ≠ history.registry.activeGenerationId := by
      rintro heq
      rw [heq, hold] at hid
      cases hid
    have hl := h.lifecycle.setState ⟨old, hold, rfl, rfl, rfl⟩ .draining
    have ha := h.accounting.setState ⟨old, hold, rfl, rfl, rfl⟩ .draining
    have hid' : (history.registry.setState history.registry.activeGenerationId old
        .draining).records.get candidate.id = none :=
      (KeyMap.get_set_of_ne _ _ hne).trans hid
    refine ⟨⟨fun k => ?_⟩,
      hl.register ⟨candidate, old.sequence + 1, outbounds, ∅, .active⟩ hid' href hnodup hnew _,
      ha.register hl ⟨candidate, old.sequence + 1, outbounds, ∅, .active⟩ hid' href rfl _⟩
    show (((history.registry.setState history.registry.activeGenerationId old
      .draining).records.set candidate.id _).get k).map RuntimeGenerationRecord.state = _ ↔
        k = candidate.id
    rw [KeyMap.get_set]
    split
    · next hk => simp [hk]
    · next hk =>
      have hstate := history.registry.stateOf_setState history.registry.activeGenerationId old
        .draining k
      refine (iff_of_eq (congrArg (· = some RecordState.active) hstate)).trans ?_
      split
      · simp [hk]
      · next hk' => simp [h.activity.active_iff, hk, hk']

/-! ## Histories -/

namespace RegistryHistory

theorem Consistent.after {history : RegistryHistory} (h : history.Consistent)
    {operation : RegistryOperation} (hp : history.Permits operation) :
    (history.after operation).Consistent := by
  cases operation with
  | acquireOutboundRef tag generationId => exact h.afterAcquire tag generationId
  | releaseOutboundRef referenceId => exact h.afterRelease referenceId
  | switchGeneration candidate outbounds => exact h.afterSwitch hp
  | restoreGeneration oldId candidateId =>
    obtain rfl : candidateId = history.registry.activeGenerationId := hp
    show (history.orUnchanged _).Consistent
    unfold orUnchanged
    split
    · next hok => exact h.restoreGeneration hok
    · exact h
  | markDraining id =>
    show (history.orUnchanged _).Consistent
    unfold orUnchanged
    split
    · next hok => exact h.markDraining hok
    · exact h
  | retireIfUnused id => exact RegistryHistory.Consistent.retireIfUnused h id

theorem start_consistent {generation : OutboundGeneration} {outbounds : KeyMap String Outbound}
    {history : RegistryHistory} (hn : outbounds.values.Nodup)
    (h : start generation outbounds = .ok history) : history.Consistent := by
  unfold start OutboundRuntimeRegistry.new at h
  cases hv : validateRuntimeEntries generation outbounds with
  | error e => simp [hv, bind, Except.bind] at h
  | ok u =>
    simp only [hv, bind, Except.bind, pure, Except.pure, Except.ok.injEq] at h
    subst h
    -- The constructed registry is an empty one in which one record was registered.
    let empty : OutboundRuntimeRegistry := ⟨generation.id, ∅, fun _ => 0, ∅, 1, 0, []⟩
    have hl : Lifecycle empty [] := by
      refine ⟨?_, ?_, List.nodup_nil, List.nodup_nil, ?_, ?_, ?_⟩
      · intro id e he; cases he
      · intro id e he; cases he
      · intro e he; cases he
      · intro e he; cases he
      · intro o ho; cases ho
    have ha : Accounting empty [] := by
      refine ⟨?_, ?_, ?_, fun _ _ => rfl, ?_, fun _ => rfl, List.nodup_nil, ?_⟩
      · intro id e counts he; cases he
      · intro id counts hc; cases hc
      · intro id counts hc; cases hc
      · intro x hx; cases hx
      · intro x hx; cases hx
    refine ⟨⟨fun k => ?_⟩,
      hl.register ⟨generation, 0, outbounds, ∅, .active⟩ rfl (fun e he => by cases he) hn
        (fun o _ ho => by cases ho) _,
      ha.register hl ⟨generation, 0, outbounds, ∅, .active⟩ rfl (fun e he => by cases he) rfl _⟩
    show (((∅ : KeyMap String RuntimeGenerationRecord).set generation.id _).get k).map
      RuntimeGenerationRecord.state = _ ↔ k = generation.id
    rw [KeyMap.get_set]
    split
    · next hk => simp [hk]
    · next hk => simp [hk]

theorem consistent_of_run {generation : OutboundGeneration} {outbounds : KeyMap String Outbound}
    {history history' : RegistryHistory} (hn : outbounds.values.Nodup)
    (h : start generation outbounds = .ok history) (operations : List RegistryOperation)
    (hrun : system.run history operations = some history') : history'.Consistent := by
  refine system.run_invariant (fun _ _ => True) Consistent ?_ operations history history'
    (start_consistent hn h) (system.along_true _ _) hrun
  intro s operation s' hs _ hstep
  simp only [system] at hstep
  split at hstep
  · next hp => cases hstep; exact hs.after hp
  · cases hstep

/-- The number of references to a generation that are held. -/
def outstanding (history : RegistryHistory) (generation : OutboundGeneration) : Nat :=
  history.held.countP fun x => x.generation = generation

theorem Consistent.outstanding_eq {history : RegistryHistory} (h : history.Consistent) {id : String}
    {record : RuntimeGenerationRecord} (hrec : history.registry.records.get id = some record) :
    history.outstanding record.generation =
      history.held.countP fun x => x.reference.generationId = id := by
  refine List.countP_congr fun x hx => ?_
  obtain ⟨e, he, hgen, -⟩ := h.accounting.held_live x hx
  have hkey := h.lifecycle.keyed _ _ he
  have hlive := history.registry.liveEntry_eq_some hrec
  simp only [decide_eq_true_eq]
  constructor
  · intro heq
    rw [← h.lifecycle.keyed _ _ hlive, ← hkey, hgen, heq]
  · intro heq
    rw [heq] at he
    cases he.symm.trans hlive
    exact hgen.symm

theorem Consistent.retired_idle {history : RegistryHistory} (h : history.Consistent)
    {entry : RuntimeEntry} (he : entry ∈ history.registered) (hr : history.Retired entry) :
    history.registry.usage entry.generation.ref = 0 ∧ history.outstanding entry.generation = 0 := by
  have hne : ∀ id e, history.registry.liveEntry id = some e →
      e.generation.ref ≠ entry.generation.ref := by
    intro id e hl heq
    obtain rfl := eq_of_ref_eq h.lifecycle.refs_nodup (h.lifecycle.mem_registered _ _ hl) he heq
    rw [← h.lifecycle.keyed _ _ hl] at hl
    exact hr hl
  refine ⟨h.accounting.idle _ hne, List.countP_eq_zero.mpr fun x hx => ?_⟩
  obtain ⟨e, hl, hgen, -⟩ := h.accounting.held_live x hx
  rw [decide_eq_true_eq]
  intro heq
  exact hne _ e hl (congrArg OutboundGeneration.ref (hgen.trans heq))

theorem Consistent.release_unheld {history : RegistryHistory} (h : history.Consistent)
    {referenceId : Nat} (hid : ∀ x ∈ history.held, x.reference.id ≠ referenceId) :
    history.registry.releaseOutboundRef referenceId = history.registry := by
  unfold OutboundRuntimeRegistry.releaseOutboundRef
  have hf : history.held.find? (fun x => x.reference.id = referenceId) = none :=
    List.find?_eq_none.mpr fun x hx => by simpa using hid x hx
  rw [h.accounting.releases, hf, Option.map_none]

end RegistryHistory

/-! ## Top theorem -/

/-- In every history of a constructed registry: exactly the record under
`activeGenerationId` is active; the three counts of references agree; a release of
a reference that is not held changes nothing; no object of a generation with a
held reference is stopped; every object of a retired generation is stopped once. -/
theorem OutboundRuntimeRegistry.referenceCount_invariant {generation : OutboundGeneration}
    {outbounds : KeyMap String Outbound} {history history' : RegistryHistory}
    (hn : outbounds.values.Nodup) (hstart : RegistryHistory.start generation outbounds = .ok history)
    (operations : List RegistryOperation)
    (hrun : RegistryHistory.system.run history operations = some history') :
    (∀ id, history'.registry.stateOf id = some .active ↔
      id = history'.registry.activeGenerationId) ∧
    (∀ id record, history'.registry.records.get id = some record →
      history'.registry.referenceCount record = record.referencesByTag.total ∧
      history'.registry.referenceCount record = history'.outstanding record.generation) ∧
    (∀ entry ∈ history'.registered, history'.Retired entry →
      history'.registry.usage entry.generation.ref = 0 ∧
      history'.outstanding entry.generation = 0) ∧
    (∀ referenceId, (∀ x ∈ history'.held, x.reference.id ≠ referenceId) →
      history'.registry.releaseOutboundRef referenceId = history'.registry) ∧
    (∀ x ∈ history'.held, ∃ record,
      history'.registry.records.get x.reference.generationId = some record ∧
      record.generation = x.generation ∧
      record.outbounds.get x.reference.tag = some x.reference.outbound ∧
      ∀ o ∈ record.outbounds.values, o ∉ history'.registry.stopCalls) ∧
    (∀ entry ∈ history'.registered, history'.Retired entry →
      ∀ o ∈ entry.outbounds.values, history'.registry.stopCalls.count o = 1) := by
  have h := RegistryHistory.consistent_of_run hn hstart operations hrun
  refine ⟨h.activity.active_iff, ?_, fun entry he hr => h.retired_idle he hr,
    fun id hid => h.release_unheld hid, ?_, h.lifecycle.retired_count⟩
  · intro id record hrec
    have hu : history'.registry.referenceCount record = record.referencesByTag.total :=
      h.accounting.usage_total _ _ _ (history'.registry.liveEntry_eq_some hrec)
        (history'.registry.tagCounts_eq_some hrec)
    refine ⟨hu, ?_⟩
    rw [hu, h.accounting.held_total _ _ (history'.registry.tagCounts_eq_some hrec),
      h.outstanding_eq hrec]
  · intro x hx
    obtain ⟨e, he, hgen, hout⟩ := h.accounting.held_live x hx
    obtain ⟨record, hrec, rfl⟩ := OutboundRuntimeRegistry.exists_record_of_liveEntry he
    refine ⟨record, hrec, hgen, hout, fun o ho => ?_⟩
    have hkey := h.lifecycle.keyed _ _ he
    have hmem := h.lifecycle.mem_registered _ _ he
    rw [← hkey] at he
    exact List.count_eq_zero.mp (h.lifecycle.live_count _ hmem he o ho)

/-- A generation with one direct outbound under the tag `exit`. -/
def directGeneration (ref : Nat) (id : String) : OutboundGeneration :=
  ⟨ref, id, [⟨"exit", .direct, ""⟩]⟩

def directOutbounds (ref : Nat) : KeyMap String Outbound :=
  (∅ : KeyMap String Outbound).set "exit" ⟨ref, "exit", .direct⟩

/-- The constructed registry of `directGeneration 0 "old"`. -/
def directHistory : RegistryHistory where
  registry := {
    activeGenerationId := "old"
    records := (∅ : KeyMap String RuntimeGenerationRecord).set "old"
      ⟨directGeneration 0 "old", 0, directOutbounds 0, ∅, .active⟩
    usage := fun _ => 0
    referenceReleases := ∅
    nextReferenceId := 1
    rejectedUnsupported := 0
    stopCalls := [] }
  held := []
  registered := [⟨directGeneration 0 "old", directOutbounds 0⟩]

/-- A reference outlives the switch; its release and the retirement race. -/
def switchUnderReference : List RegistryOperation :=
  [.acquireOutboundRef "exit" "old", .switchGeneration (directGeneration 1 "new") (directOutbounds 1),
    .releaseOutboundRef 1, .retireIfUnused "old", .releaseOutboundRef 1]

def directHistoryEnd : RegistryHistory :=
  switchUnderReference.foldl RegistryHistory.after directHistory

theorem OutboundRuntimeRegistry.referenceCount_invariant_switch :
    (∀ id, directHistoryEnd.registry.stateOf id = some .active ↔ id = "new") ∧
    directHistoryEnd.registry.stopCalls.count ⟨0, "exit", .direct⟩ = 1 := by
  have h := @OutboundRuntimeRegistry.referenceCount_invariant (directGeneration 0 "old")
    (directOutbounds 0) directHistory directHistoryEnd (by decide) rfl switchUnderReference rfl
  obtain ⟨hactive, -, -, -, -, hstopped⟩ := h
  refine ⟨hactive, hstopped ⟨directGeneration 0 "old", directOutbounds 0⟩
    (List.mem_cons_of_mem _ List.mem_cons_self) (fun hlive => ?_) _ (by decide)⟩
  cases hlive

end Sepigs
