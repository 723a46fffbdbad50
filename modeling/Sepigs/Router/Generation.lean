import Sepigs.Config.Types
import Sepigs.Lib.KeyMap

/-!
# The routing generation runtime (`router/generation.ts`)

One active pair of a router and a policy generation.  A transaction stages
candidates, collects the commits of the components it expects, and publishes the
next pair with the last of them.

A policy manager is mutable, so a pair holds its identity; `nextManager` is the
next fresh one.
-/

namespace Sepigs

/-- `rules`, `defaultOutbound` and `ruleSetFiles` are what `configHash` covers. -/
structure RouterGeneration where
  id : String
  sequence : Nat
  defaultOutbound : String
  rules : List RouteRuleConfig
  ruleSetFiles : List RouteRuleSetFileConfig
deriving DecidableEq, Repr

structure PolicyGeneration where
  id : String
  sequence : Nat
  policies : List RoutingPolicyConfig
deriving DecidableEq, Repr

structure RoutingGenerationPair where
  router : RouterGeneration
  policy : PolicyGeneration
  policyManager : Nat
deriving DecidableEq, Repr

def pairKey (generation : RoutingGenerationPair) : String :=
  s!"{generation.router.id}:{generation.policy.id}"

inductive RoutingComponent
  | router
  | policy
  | outbound
deriving DecidableEq, Repr

def RoutingComponent.text : RoutingComponent → String
  | router => "router"
  | policy => "policy"
  | outbound => "outbound"

/-- `committed` is a set: a component may be listed twice. -/
structure RoutingTransaction where
  oldGeneration : RoutingGenerationPair
  expected : List RoutingComponent
  committed : List RoutingComponent
  routerCandidate : Option RouterGeneration
  policyCandidate : Option PolicyGeneration
  published : Bool
deriving DecidableEq, Repr

structure RoutingGenerationRuntime where
  activeGeneration : RoutingGenerationPair
  transactions : KeyMap String RoutingTransaction
  usage : KeyMap String Nat
  draining : KeyMap String RoutingGenerationPair
  nextManager : Nat

/-- The pair a transaction publishes; `manager` is the manager of its policy candidate. -/
def RoutingTransaction.next (transaction : RoutingTransaction) (manager : Nat) :
    RoutingGenerationPair where
  router := transaction.routerCandidate.getD transaction.oldGeneration.router
  policy := transaction.policyCandidate.getD transaction.oldGeneration.policy
  policyManager :=
    if transaction.policyCandidate = none then transaction.oldGeneration.policyManager else manager

namespace RoutingGenerationRuntime

def acquire (runtime : RoutingGenerationRuntime) :
    RoutingGenerationPair × RoutingGenerationRuntime :=
  let key := pairKey runtime.activeGeneration
  (runtime.activeGeneration,
    { runtime with usage := runtime.usage.set key ((runtime.usage.get key).getD 0 + 1) })

/-- `release()` of a handle, once. -/
def release (runtime : RoutingGenerationRuntime) (generation : RoutingGenerationPair) :
    RoutingGenerationRuntime :=
  let key := pairKey generation
  let remaining := (runtime.usage.get key).getD 1 - 1
  if remaining = 0 then
    { runtime with usage := runtime.usage.delete key, draining := runtime.draining.delete key }
  else { runtime with usage := runtime.usage.set key remaining }

def requireTransaction (runtime : RoutingGenerationRuntime) (transactionId : String) :
    Except String RoutingTransaction :=
  match runtime.transactions.get transactionId with
  | none => .error s!"routing transaction \"{transactionId}\" was not initialized"
  | some transaction => .ok transaction

def setTransaction (runtime : RoutingGenerationRuntime) (transactionId : String)
    (transaction : RoutingTransaction) : RoutingGenerationRuntime :=
  { runtime with transactions := runtime.transactions.set transactionId transaction }

def begin (runtime : RoutingGenerationRuntime) (transactionId : String)
    (expected : List RoutingComponent) : Except String RoutingGenerationRuntime :=
  match runtime.transactions.get transactionId with
  | some _ => .ok runtime
  | none =>
    if expected = [] then .error "routing transaction requires a component"
    else .ok (runtime.setTransaction transactionId {
      oldGeneration := runtime.activeGeneration
      expected := expected
      committed := []
      routerCandidate := none
      policyCandidate := none
      published := false })

def stageRouter (runtime : RoutingGenerationRuntime) (transactionId : String)
    (candidate : RouterGeneration) : Except String RoutingGenerationRuntime := do
  let transaction ← runtime.requireTransaction transactionId
  return runtime.setTransaction transactionId { transaction with routerCandidate := some candidate }

def stagePolicy (runtime : RoutingGenerationRuntime) (transactionId : String)
    (candidate : PolicyGeneration) : Except String RoutingGenerationRuntime := do
  let transaction ← runtime.requireTransaction transactionId
  return runtime.setTransaction transactionId { transaction with policyCandidate := some candidate }

/-- Every expected component has committed. -/
def complete (transaction : RoutingTransaction) : Bool :=
  transaction.expected.all fun expected => expected ∈ transaction.committed

/-- The end of `commit`: the pair is published when the transaction is complete. -/
def publish (runtime : RoutingGenerationRuntime) (transactionId : String)
    (transaction : RoutingTransaction) : RoutingGenerationRuntime :=
  let old := runtime.activeGeneration
  { runtime.setTransaction transactionId { transaction with published := true } with
    activeGeneration := transaction.next runtime.nextManager
    draining := runtime.draining.set (pairKey old) old
    nextManager := runtime.nextManager + 1 }

def commit (runtime : RoutingGenerationRuntime) (transactionId : String)
    (component : RoutingComponent) : Except String RoutingGenerationRuntime := do
  let transaction ← runtime.requireTransaction transactionId
  if component ∉ transaction.expected then
    throw s!"routing transaction did not expect component \"{component.text}\""
  if component = .router ∧ transaction.routerCandidate = none then
    throw "routing transaction has no router candidate"
  if component = .policy ∧ transaction.policyCandidate = none then
    throw "routing transaction has no policy candidate"
  let committed := { transaction with committed := component :: transaction.committed }
  if complete committed then return runtime.publish transactionId committed
  else return runtime.setTransaction transactionId committed

def rollback (runtime : RoutingGenerationRuntime) (transactionId : String) :
    RoutingGenerationRuntime :=
  match runtime.transactions.get transactionId with
  | none => runtime
  | some transaction =>
    if transaction.published then
      { runtime.setTransaction transactionId { transaction with published := false } with
        activeGeneration := transaction.oldGeneration
        draining := (runtime.draining.delete (pairKey transaction.oldGeneration)).delete
          (pairKey runtime.activeGeneration) }
    else runtime

def cleanup (runtime : RoutingGenerationRuntime) (transactionId : String) :
    RoutingGenerationRuntime :=
  match runtime.transactions.get transactionId with
  | none => runtime
  | some transaction =>
    let oldKey := pairKey transaction.oldGeneration
    let draining :=
      if transaction.published ∧ (runtime.usage.get oldKey).getD 0 = 0 then
        runtime.draining.delete oldKey
      else runtime.draining
    { runtime with draining := draining, transactions := runtime.transactions.delete transactionId }

def isDrainingRouter (runtime : RoutingGenerationRuntime) (id : String) : Bool :=
  runtime.draining.values.any fun generation => generation.router.id = id

def replaceLegacy (runtime : RoutingGenerationRuntime) (next : RoutingGenerationPair) :
    RoutingGenerationRuntime :=
  let oldKey := pairKey runtime.activeGeneration
  { runtime with
    activeGeneration := next
    draining :=
      if 0 < (runtime.usage.get oldKey).getD 0 then
        runtime.draining.set oldKey runtime.activeGeneration
      else runtime.draining }

end RoutingGenerationRuntime

end Sepigs
