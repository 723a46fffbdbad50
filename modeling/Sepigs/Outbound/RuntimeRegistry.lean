import Sepigs.Config.Types
import Sepigs.Lib.KeyMap
import Mathlib.Logic.Function.Basic

/-!
# The outbound runtime registry (`outbound/runtimeRegistry.ts`)

The registry keeps one record per generation of outbounds: the descriptor, the
outbound objects by tag, and the references requests hold, by tag.  The
reference count itself lives inside the descriptor (`OutboundGeneration.acquire`
in `outbound/generation.ts`), so `usage` is the heap of those counters, keyed by
the descriptor object.

`stopCalls` is a ghost: the objects whose `stop()` retirement has called, in
order.  `retireIfUnused` deletes the record and calls every `stop()` before its
first `await`, so each operation below is atomic.
-/

namespace Sepigs

/-- An outbound object; `ref` is its identity. -/
structure Outbound where
  ref : Nat
  tag : String
  type : OutboundType
deriving DecidableEq, Repr

/-- `OutboundGenerationDescriptor`; `ref` is the identity of the object. -/
structure OutboundGeneration where
  ref : Nat
  id : String
  outbounds : List OutboundConfig
deriving DecidableEq, Repr

def OutboundGeneration.outboundTags (generation : OutboundGeneration) : List String :=
  generation.outbounds.map OutboundConfig.tag

/-- `registrySnapshot.get(tag)?.type` -/
def OutboundGeneration.entryType (generation : OutboundGeneration) (tag : String) :
    Option OutboundType :=
  (generation.outbounds.find? fun entry => entry.tag = tag).map OutboundConfig.type

inductive RecordState
  | active
  | draining
deriving DecidableEq, Repr

structure RuntimeGenerationRecord where
  generation : OutboundGeneration
  sequence : Nat
  outbounds : KeyMap String Outbound
  referencesByTag : KeyMap String Nat
  state : RecordState

structure OutboundRuntimeReference where
  id : Nat
  generationId : String
  tag : String
  outbound : Outbound
deriving DecidableEq, Repr

/-- `generationRef` names the counter that `releaseGeneration` decrements. -/
structure ReferenceRelease where
  generationRef : Nat
  generationId : String
  tag : String
deriving DecidableEq, Repr

structure OutboundRuntimeRegistry where
  activeGenerationId : String
  records : KeyMap String RuntimeGenerationRecord
  usage : Nat → Nat
  referenceReleases : KeyMap Nat ReferenceRelease
  nextReferenceId : Nat
  rejectedUnsupported : Nat
  stopCalls : List Outbound

def validateRuntimeEntry (generation : OutboundGeneration) (outbounds : KeyMap String Outbound)
    (tag : String) : Except String Unit :=
  match outbounds.get tag with
  | none => .error s!"outbound runtime generation is missing object \"{tag}\""
  | some outbound =>
    if some outbound.type = generation.entryType tag then .ok ()
    else .error s!"outbound runtime generation type mismatch for \"{tag}\""

def validateRuntimeEntries (generation : OutboundGeneration)
    (outbounds : KeyMap String Outbound) : Except String Unit := do
  generation.outboundTags.forM (validateRuntimeEntry generation outbounds)
  if outbounds.values.length = generation.outboundTags.length then .ok ()
  else .error "outbound runtime generation contains unexpected objects"

namespace OutboundRuntimeRegistry

/-- The constructor. -/
def new (initialGeneration : OutboundGeneration) (initialOutbounds : KeyMap String Outbound) :
    Except String OutboundRuntimeRegistry := do
  validateRuntimeEntries initialGeneration initialOutbounds
  return {
    activeGenerationId := initialGeneration.id
    records := (∅ : KeyMap String RuntimeGenerationRecord).set initialGeneration.id {
      generation := initialGeneration
      sequence := 0
      outbounds := initialOutbounds
      referencesByTag := ∅
      state := .active }
    usage := fun _ => 0
    referenceReleases := ∅
    nextReferenceId := 1
    rejectedUnsupported := 0
    stopCalls := [] }

def requireRecord (registry : OutboundRuntimeRegistry) (generationId : String) :
    Except String RuntimeGenerationRecord :=
  match registry.records.get generationId with
  | none => .error s!"outbound runtime generation \"{generationId}\" is unavailable"
  | some record => .ok record

def referenceCount (registry : OutboundRuntimeRegistry) (record : RuntimeGenerationRecord) : Nat :=
  registry.usage record.generation.ref

def getOutbound (registry : OutboundRuntimeRegistry) (tag generationId : String) :
    Option Outbound :=
  (registry.records.get generationId).bind fun record => record.outbounds.get tag

def acquireOutboundRef (registry : OutboundRuntimeRegistry) (tag generationId : String) :
    Option OutboundRuntimeReference × OutboundRuntimeRegistry :=
  match registry.records.get generationId with
  | none => (none, registry)
  | some record =>
    match record.outbounds.get tag with
    | none => (none, registry)
    | some outbound =>
      (some ⟨registry.nextReferenceId, generationId, tag, outbound⟩, { registry with
        usage := Function.update registry.usage record.generation.ref
          (registry.usage record.generation.ref + 1)
        records := registry.records.set generationId { record with
          referencesByTag := record.referencesByTag.set tag
            ((record.referencesByTag.get tag).getD 0 + 1) }
        nextReferenceId := registry.nextReferenceId + 1
        referenceReleases := registry.referenceReleases.set registry.nextReferenceId
          ⟨record.generation.ref, generationId, tag⟩ })

def retireIfUnused (registry : OutboundRuntimeRegistry) (generationId : String) :
    OutboundRuntimeRegistry :=
  match registry.records.get generationId with
  | none => registry
  | some record =>
    if generationId = registry.activeGenerationId ∨ registry.referenceCount record > 0 then
      registry
    else
      { registry with
        records := registry.records.delete generationId
        stopCalls := registry.stopCalls ++ record.outbounds.values }

/-- The per-tag count after one release: an absent count reads as `1`. -/
def releaseTag (referencesByTag : KeyMap String Nat) (tag : String) : KeyMap String Nat :=
  let remaining := (referencesByTag.get tag).getD 1 - 1
  if remaining = 0 then referencesByTag.delete tag else referencesByTag.set tag remaining

/-- What `releaseOutboundRef` does before it retires: the reference is forgotten
first, so its `releaseGeneration` runs at most once. -/
def forgetReference (registry : OutboundRuntimeRegistry) (referenceId : Nat)
    (release : ReferenceRelease) : OutboundRuntimeRegistry :=
  { registry with
    referenceReleases := registry.referenceReleases.delete referenceId
    usage := Function.update registry.usage release.generationRef
      (registry.usage release.generationRef - 1)
    records :=
      match registry.records.get release.generationId with
      | none => registry.records
      | some record => registry.records.set release.generationId { record with
          referencesByTag := releaseTag record.referencesByTag release.tag } }

def releaseOutboundRef (registry : OutboundRuntimeRegistry) (referenceId : Nat) :
    OutboundRuntimeRegistry :=
  match registry.referenceReleases.get referenceId with
  | none => registry
  | some release => (registry.forgetReference referenceId release).retireIfUnused release.generationId

def switchGeneration (registry : OutboundRuntimeRegistry) (candidate : OutboundGeneration)
    (outbounds : KeyMap String Outbound) : Except String OutboundRuntimeRegistry := do
  if registry.records.has candidate.id then
    throw s!"outbound runtime generation \"{candidate.id}\" already exists"
  validateRuntimeEntries candidate outbounds
  let old ← registry.requireRecord registry.activeGenerationId
  return { registry with
    records := (registry.records.set registry.activeGenerationId
        { old with state := .draining }).set candidate.id {
      generation := candidate
      sequence := old.sequence + 1
      outbounds := outbounds
      referencesByTag := ∅
      state := .active }
    activeGenerationId := candidate.id }

def setState (registry : OutboundRuntimeRegistry) (generationId : String)
    (record : RuntimeGenerationRecord) (state : RecordState) : OutboundRuntimeRegistry :=
  { registry with records := registry.records.set generationId { record with state := state } }

/-- Both records are looked up before either is written; when the two ids are
one, the second write wins. -/
def restoreGeneration (registry : OutboundRuntimeRegistry)
    (oldGenerationId candidateGenerationId : String) : Except String OutboundRuntimeRegistry := do
  let old ← registry.requireRecord oldGenerationId
  let candidate ← registry.requireRecord candidateGenerationId
  return { (registry.setState candidateGenerationId candidate .draining).setState
      oldGenerationId old .active with activeGenerationId := oldGenerationId }

def markDraining (registry : OutboundRuntimeRegistry) (generationId : String) :
    Except String OutboundRuntimeRegistry := do
  let record ← registry.requireRecord generationId
  if generationId = registry.activeGenerationId then return registry
  else return registry.setState generationId record .draining

def recordRejectedUnsupported (registry : OutboundRuntimeRegistry) : OutboundRuntimeRegistry :=
  { registry with rejectedUnsupported := registry.rejectedUnsupported + 1 }

end OutboundRuntimeRegistry

end Sepigs
