import Sepigs.Outbound.RuntimeRegistry

/-!
# What the registry's operations read and write

Three projections of the records (`liveEntry`: the descriptor and the objects;
`stateOf`; `tagCounts`) and, for each operation, when it succeeds, what it
returns, and which projections it leaves alone.
-/

namespace Sepigs

/-- A generation with the objects it is registered with. -/
structure RuntimeEntry where
  generation : OutboundGeneration
  outbounds : KeyMap String Outbound
deriving DecidableEq

namespace OutboundRuntimeRegistry

def liveEntry (registry : OutboundRuntimeRegistry) (generationId : String) : Option RuntimeEntry :=
  (registry.records.get generationId).map fun record => ⟨record.generation, record.outbounds⟩

def stateOf (registry : OutboundRuntimeRegistry) (generationId : String) : Option RecordState :=
  (registry.records.get generationId).map RuntimeGenerationRecord.state

def tagCounts (registry : OutboundRuntimeRegistry) (generationId : String) :
    Option (KeyMap String Nat) :=
  (registry.records.get generationId).map RuntimeGenerationRecord.referencesByTag

/-! ## Projections of the records -/

theorem liveEntry_eq_some (registry : OutboundRuntimeRegistry) {id : String}
    {record : RuntimeGenerationRecord} (h : registry.records.get id = some record) :
    registry.liveEntry id = some ⟨record.generation, record.outbounds⟩ := by
  simp only [liveEntry, h, Option.map_some]

theorem tagCounts_eq_some (registry : OutboundRuntimeRegistry) {id : String}
    {record : RuntimeGenerationRecord} (h : registry.records.get id = some record) :
    registry.tagCounts id = some record.referencesByTag := by
  simp only [tagCounts, h, Option.map_some]

/-- The tag counters after one record was written. -/
theorem map_referencesByTag_set (registry : OutboundRuntimeRegistry) (id : String)
    (record : RuntimeGenerationRecord) (k : String) :
    ((registry.records.set id record).get k).map RuntimeGenerationRecord.referencesByTag =
      if k = id then some record.referencesByTag else registry.tagCounts k := by
  rw [KeyMap.get_set]
  split
  · rfl
  · rfl

theorem liveEntry_set (registry : OutboundRuntimeRegistry) (id : String)
    (record : RuntimeGenerationRecord) (k : String) :
    ((registry.records.set id record).get k).map
        (fun r => (⟨r.generation, r.outbounds⟩ : RuntimeEntry)) =
      if k = id then some ⟨record.generation, record.outbounds⟩ else registry.liveEntry k := by
  rw [KeyMap.get_set]
  split
  · rfl
  · rfl

theorem liveEntry_delete (registry : OutboundRuntimeRegistry)
    (id k : String) :
    ((registry.records.delete id).get k).map
        (fun r => (⟨r.generation, r.outbounds⟩ : RuntimeEntry)) =
      if k = id then none else registry.liveEntry k := by
  rw [KeyMap.get_delete]
  split
  · rfl
  · rfl

theorem exists_record_of_liveEntry {registry : OutboundRuntimeRegistry} {id : String}
    {e : RuntimeEntry} (h : registry.liveEntry id = some e) :
    ∃ record, registry.records.get id = some record ∧ e = ⟨record.generation, record.outbounds⟩ := by
  unfold liveEntry at h
  obtain ⟨record, hrec, he⟩ := Option.map_eq_some_iff.mp h
  exact ⟨record, hrec, he.symm⟩

/-! ## Acquire and release -/

section Acquire

variable (registry : OutboundRuntimeRegistry) (tag generationId : String)

theorem acquireOutboundRef_some {reference : OutboundRuntimeReference}
    (h : (registry.acquireOutboundRef tag generationId).1 = some reference) :
    ∃ record outbound, registry.records.get generationId = some record ∧
      record.outbounds.get tag = some outbound ∧
      reference = ⟨registry.nextReferenceId, generationId, tag, outbound⟩ := by
  unfold acquireOutboundRef at h
  cases hrec : registry.records.get generationId with
  | none => simp [hrec] at h
  | some record =>
    cases hout : record.outbounds.get tag with
    | none => simp [hrec, hout] at h
    | some outbound =>
      simp only [hrec, hout, Option.some.injEq] at h
      exact ⟨record, outbound, rfl, hout, h.symm⟩

theorem acquireOutboundRef_frame :
    (registry.acquireOutboundRef tag generationId).2.liveEntry = registry.liveEntry ∧
    (registry.acquireOutboundRef tag generationId).2.stateOf = registry.stateOf ∧
    (registry.acquireOutboundRef tag generationId).2.activeGenerationId =
      registry.activeGenerationId ∧
    (registry.acquireOutboundRef tag generationId).2.stopCalls = registry.stopCalls := by
  unfold acquireOutboundRef
  cases hrec : registry.records.get generationId with
  | none => exact ⟨rfl, rfl, rfl, rfl⟩
  | some record =>
    cases hout : record.outbounds.get tag with
    | none =>
      simp only [hout, and_self]
    | some outbound =>
      simp only [hout]
      refine ⟨?_, ?_, trivial, trivial⟩
      · exact KeyMap.map_get_set registry.records
          (fun r => (⟨r.generation, r.outbounds⟩ : RuntimeEntry)) hrec rfl
      · exact KeyMap.map_get_set registry.records RuntimeGenerationRecord.state hrec rfl

end Acquire

theorem total_releaseTag (referencesByTag : KeyMap String Nat) (tag : String)
    (h : 0 < (referencesByTag.get tag).getD 0) :
    (releaseTag referencesByTag tag).total + 1 = referencesByTag.total := by
  have hd := KeyMap.total_delete referencesByTag tag
  unfold releaseTag
  cases hg : referencesByTag.get tag with
  | none => simp [hg] at h
  | some n =>
    rw [hg] at h hd
    simp only [Option.getD_some] at h hd ⊢
    split
    · omega
    · have hs := KeyMap.total_set referencesByTag tag (n - 1)
      rw [hg, Option.getD_some] at hs
      omega

theorem get_releaseTag (referencesByTag : KeyMap String Nat) (tag k : String)
    (h : 0 < (referencesByTag.get tag).getD 0) :
    ((releaseTag referencesByTag tag).get k).getD 0 =
      (referencesByTag.get k).getD 0 - if k = tag then 1 else 0 := by
  unfold releaseTag
  cases hg : referencesByTag.get tag with
  | none => simp [hg] at h
  | some n =>
    rw [hg] at h
    simp only [Option.getD_some] at h ⊢
    by_cases hk : k = tag
    · subst hk
      rw [if_pos rfl, hg]
      split
      · next h0 => rw [KeyMap.get_delete_self]; exact h0.symm
      · rw [KeyMap.get_set_self]; rfl
    · rw [if_neg hk]
      split
      · rw [KeyMap.get_delete_of_ne _ hk]; rfl
      · rw [KeyMap.get_set_of_ne _ _ hk]; rfl

theorem forgetReference_frame (registry : OutboundRuntimeRegistry) (referenceId : Nat)
    (release : ReferenceRelease) :
    (registry.forgetReference referenceId release).liveEntry = registry.liveEntry ∧
    (registry.forgetReference referenceId release).stateOf = registry.stateOf := by
  unfold forgetReference
  cases hrec : registry.records.get release.generationId with
  | none => exact ⟨rfl, rfl⟩
  | some record =>
    constructor
    · exact KeyMap.map_get_set registry.records
        (fun r => (⟨r.generation, r.outbounds⟩ : RuntimeEntry)) hrec rfl
    · exact KeyMap.map_get_set registry.records RuntimeGenerationRecord.state hrec rfl

/-! ## Switch, restore and mark draining -/

theorem requireRecord_ok {registry : OutboundRuntimeRegistry} {id : String}
    {record : RuntimeGenerationRecord} (h : registry.requireRecord id = .ok record) :
    registry.records.get id = some record := by
  unfold requireRecord at h
  split at h
  · cases h
  · next hrec => cases h; exact hrec

theorem switchGeneration_ok {registry registry' : OutboundRuntimeRegistry}
    {candidate : OutboundGeneration} {outbounds : KeyMap String Outbound}
    (h : registry.switchGeneration candidate outbounds = .ok registry') :
    registry.records.get candidate.id = none ∧ ∃ old,
      registry.records.get registry.activeGenerationId = some old ∧
      registry' = { registry.setState registry.activeGenerationId old .draining with
        records := (registry.setState registry.activeGenerationId old .draining).records.set
          candidate.id ⟨candidate, old.sequence + 1, outbounds, ∅, .active⟩
        activeGenerationId := candidate.id } := by
  unfold switchGeneration at h
  cases hhas : registry.records.has candidate.id with
  | true => simp [hhas, bind, Except.bind, throw, throwThe, MonadExceptOf.throw] at h
  | false =>
    cases hv : validateRuntimeEntries candidate outbounds with
    | error e => simp [hhas, hv, bind, Except.bind] at h
    | ok u =>
      cases hr : registry.requireRecord registry.activeGenerationId with
      | error e => simp [hhas, hv, hr, bind, Except.bind] at h
      | ok old =>
        simp only [hhas, hv, hr, bind, Except.bind, pure, Except.pure, Bool.false_eq_true,
          if_false, Except.ok.injEq] at h
        exact ⟨(KeyMap.has_eq_false _ _).mp hhas, old, requireRecord_ok hr, h.symm⟩

theorem restoreGeneration_ok {registry registry' : OutboundRuntimeRegistry} {oldId candidateId : String}
    (h : registry.restoreGeneration oldId candidateId = .ok registry') :
    ∃ old candidate, registry.records.get oldId = some old ∧
      registry.records.get candidateId = some candidate ∧
      registry' = { (registry.setState candidateId candidate .draining).setState oldId old .active
        with activeGenerationId := oldId } := by
  unfold restoreGeneration at h
  cases ho : registry.requireRecord oldId with
  | error e => simp [ho, bind, Except.bind] at h
  | ok old =>
    cases hc : registry.requireRecord candidateId with
    | error e => simp [ho, hc, bind, Except.bind] at h
    | ok candidate =>
      simp only [ho, hc, bind, Except.bind, pure, Except.pure, Except.ok.injEq] at h
      exact ⟨old, candidate, requireRecord_ok ho, requireRecord_ok hc, h.symm⟩

theorem markDraining_ok {registry registry' : OutboundRuntimeRegistry} {id : String}
    (h : registry.markDraining id = .ok registry') :
    registry' = registry ∨ ∃ record, registry.records.get id = some record ∧
      id ≠ registry.activeGenerationId ∧ registry' = registry.setState id record .draining := by
  unfold markDraining at h
  cases hr : registry.requireRecord id with
  | error e => simp [hr, bind, Except.bind] at h
  | ok record =>
    by_cases hid : id = registry.activeGenerationId
    · simp only [hr, bind, Except.bind, pure, Except.pure, if_pos hid, Except.ok.injEq] at h
      exact .inl h.symm
    · simp only [hr, bind, Except.bind, pure, Except.pure, if_neg hid, Except.ok.injEq] at h
      exact .inr ⟨record, requireRecord_ok hr, hid, h.symm⟩

theorem setState_frame (registry : OutboundRuntimeRegistry) {id : String}
    {record : RuntimeGenerationRecord} (h : ∃ r, registry.records.get id = some r ∧
      record.generation = r.generation ∧ record.outbounds = r.outbounds ∧
      record.referencesByTag = r.referencesByTag) (state : RecordState) :
    (registry.setState id record state).liveEntry = registry.liveEntry ∧
    (registry.setState id record state).tagCounts = registry.tagCounts := by
  obtain ⟨r, hr, h1, h2, h3⟩ := h
  constructor
  · exact KeyMap.map_get_set registry.records
      (fun r => (⟨r.generation, r.outbounds⟩ : RuntimeEntry)) hr (by rw [h1, h2])
  · exact KeyMap.map_get_set registry.records RuntimeGenerationRecord.referencesByTag hr h3

theorem stateOf_setState (registry : OutboundRuntimeRegistry) (id : String)
    (record : RuntimeGenerationRecord) (state : RecordState) (k : String) :
    (registry.setState id record state).stateOf k =
      if k = id then some state else registry.stateOf k := by
  unfold stateOf setState
  simp only [KeyMap.get_set]
  split
  · rfl
  · rfl

end OutboundRuntimeRegistry

end Sepigs
