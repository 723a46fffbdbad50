import Sepigs.Config.Types
import Sepigs.Lib.KeyMap
import Mathlib.Logic.Function.Basic

/-!
# The DNS generation store (`dns/generationStore.ts`)

The active generation, the generations that are still in use, and the counters
of cache entries carried over.  The mutable state of the generation objects
(`DNSGeneration.state`) is a heap keyed by the object.
-/

namespace Sepigs

/-- `ref` is the identity of the object; caches are left out. -/
structure DNSGeneration where
  ref : Nat
  id : String
  sequence : Nat
  config : DnsConfig
deriving DecidableEq, Repr

structure DnsGenerationRuntimeState where
  queryRefs : Nat
  inFlight : Nat
  draining : Bool
deriving DecidableEq, Repr

structure DNSGenerationStore where
  activeGeneration : DNSGeneration
  generations : KeyMap String DNSGeneration
  state : Nat → DnsGenerationRuntimeState
  cacheCarriedOver : Nat
  cacheDropped : Nat
  rejectedFakeIpChanges : Nat

namespace DNSGenerationStore

def setState (store : DNSGenerationStore) (generation : DNSGeneration)
    (f : DnsGenerationRuntimeState → DnsGenerationRuntimeState) : DNSGenerationStore :=
  { store with state := Function.update store.state generation.ref (f (store.state generation.ref)) }

def markDraining (store : DNSGenerationStore) (generation : DNSGeneration) : DNSGenerationStore :=
  store.setState generation fun state => { state with draining := true }

def markActive (store : DNSGenerationStore) (generation : DNSGeneration) : DNSGenerationStore :=
  store.setState generation fun state => { state with draining := false }

def isReleasable (store : DNSGenerationStore) (generation : DNSGeneration) : Bool :=
  let state := store.state generation.ref
  state.draining && state.queryRefs = 0 && state.inFlight = 0

def keep (store : DNSGenerationStore) (generation : DNSGeneration) : DNSGenerationStore :=
  { store with generations := store.generations.set generation.id generation }

def releaseDrained (store : DNSGenerationStore) : DNSGenerationStore :=
  { store with
    generations := store.generations.values.foldl (fun generations generation =>
      if generation = store.activeGeneration ∨ store.isReleasable generation = false then generations
      else generations.delete generation.id) store.generations }

def acquire (store : DNSGenerationStore) : DNSGeneration × DNSGenerationStore :=
  (store.activeGeneration, store.setState store.activeGeneration fun state =>
    { state with queryRefs := state.queryRefs + 1 })

/-- `release()` of a handle, once. -/
def release (store : DNSGenerationStore) (generation : DNSGeneration) : DNSGenerationStore :=
  (store.setState generation fun state =>
    { state with queryRefs := state.queryRefs - 1 }).releaseDrained

def switchTo (store : DNSGenerationStore) (candidate : DNSGeneration) : DNSGenerationStore :=
  { ((store.markDraining store.activeGeneration).markActive candidate).keep candidate with
    activeGeneration := candidate }

def restore (store : DNSGenerationStore) (old candidate : DNSGeneration) : DNSGenerationStore :=
  { (((store.markDraining candidate).markActive old).keep old).keep candidate with
    activeGeneration := old : DNSGenerationStore }.releaseDrained

/-- The generations whose flights are aborted, and the store; the flights leave
`inFlight` when they settle. -/
def shutdown (store : DNSGenerationStore) : List DNSGeneration × DNSGenerationStore :=
  (store.generations.values, store.releaseDrained)

def recordCacheCarryover (store : DNSGenerationStore) (carried dropped : Nat) :
    DNSGenerationStore :=
  { store with
    cacheCarriedOver := store.cacheCarriedOver + carried
    cacheDropped := store.cacheDropped + dropped }

def recordRejectedFakeIpChange (store : DNSGenerationStore) : DNSGenerationStore :=
  { store with rejectedFakeIpChanges := store.rejectedFakeIpChanges + 1 }

end DNSGenerationStore

end Sepigs
