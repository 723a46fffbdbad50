import Mathlib.Algebra.Order.Floor.Ring
import Mathlib.Data.List.Rotate
import Mathlib.Data.Rat.Floor
import Mathlib.Order.WithBot
import Sepigs.Config.Types
import Sepigs.Lib.JsMap
import Sepigs.Lib.Runs

/-!
# The routing policy manager (`router/policy.ts`)

A policy names outbounds; `select` puts them in the order a connection tries
them.  The manager keeps the health of every outbound it was asked about and a
rotation cursor for every policy.

Latencies are exact rationals, and a selection reads the clock once.
-/

namespace Sepigs

/-- An `OutboundHealth` and its snapshot have the same fields. -/
structure OutboundHealth where
  tag : String
  failures : Nat
  lastFailureAt : Option Int
  latencyEwmaMs : Option Rat
  successes : Nat
deriving DecidableEq, Repr

def OutboundHealth.fresh (tag : String) : OutboundHealth where
  tag := tag
  failures := 0
  lastFailureAt := none
  latencyEwmaMs := none
  successes := 0

structure RoutingPolicySelection where
  requestedTag : String
  policyTag : Option String
  candidates : List String
deriving DecidableEq, Repr

structure RoutingPolicySnapshot where
  tag : String
  type : RoutingPolicyType
  strategy : LoadBalanceStrategy
  outbounds : List String
  healthyOutbounds : List String
deriving DecidableEq, Repr

structure RoutingPolicyManager where
  policies : JsMap String RoutingPolicyConfig
  health : JsMap String OutboundHealth
  roundRobinIndex : JsMap String Nat

namespace RoutingPolicyManager

def getHealth (manager : RoutingPolicyManager) (tag : String) :
    OutboundHealth × RoutingPolicyManager :=
  match manager.health.get tag with
  | some existing => (existing, manager)
  | none =>
    (.fresh tag, { manager with health := manager.health.set tag (.fresh tag) })

def getHealths (manager : RoutingPolicyManager) : List String → RoutingPolicyManager
  | [] => manager
  | tag :: tags => getHealths (manager.getHealth tag).2 tags

def reload (manager : RoutingPolicyManager) (policies : List RoutingPolicyConfig) :
    RoutingPolicyManager :=
  getHealths
    { manager with
      policies := policies.foldl (fun map policy => map.set policy.tag policy) ∅ }
    (policies.flatMap RoutingPolicyConfig.outbounds)

/-- The constructor. -/
def create (policies : List RoutingPolicyConfig) (initialHealth : List OutboundHealth) :
    RoutingPolicyManager :=
  reload
    { policies := ∅
      health := initialHealth.foldl (fun map snapshot => map.set snapshot.tag snapshot) ∅
      roundRobinIndex := ∅ }
    policies

def recordSuccess (manager : RoutingPolicyManager) (outboundTag : String) (latencyMs : Rat) :
    RoutingPolicyManager :=
  let (health, manager) := manager.getHealth outboundTag
  let latencyEwmaMs :=
    match health.latencyEwmaMs with
    | none => latencyMs
    | some ewma => ewma * (8 / 10) + latencyMs * (2 / 10)
  { manager with
    health := manager.health.set outboundTag
      { health with
        failures := 0
        lastFailureAt := none
        successes := health.successes + 1
        latencyEwmaMs := some latencyEwmaMs } }

def recordFailure (manager : RoutingPolicyManager) (now : Int) (outboundTag : String) :
    RoutingPolicyManager :=
  let (health, manager) := manager.getHealth outboundTag
  { manager with
    health := manager.health.set outboundTag
      { health with failures := health.failures + 1, lastFailureAt := some now } }

end RoutingPolicyManager

/-- The branches of `isHealthy`, on the record it reads. -/
def OutboundHealth.isHealthy (health : OutboundHealth) (policy : RoutingPolicyConfig)
    (now : Int) : Bool :=
  if health.failures < policy.unhealthyAfterFailures then
    true
  else
    match health.lastFailureAt with
    | none => true
    | some lastFailureAt => decide (now - lastFailureAt ≥ policy.recoverAfterMs)

namespace RoutingPolicyManager

def isHealthy (manager : RoutingPolicyManager) (policy : RoutingPolicyConfig) (now : Int)
    (outboundTag : String) : Bool × RoutingPolicyManager :=
  let (health, manager) := manager.getHealth outboundTag
  (health.isHealthy policy now, manager)

/-- `outbounds.filter((outboundTag) => this.isHealthy(outboundTag, policy))` -/
def filterHealthy (policy : RoutingPolicyConfig) (now : Int) :
    RoutingPolicyManager → List String → List String × RoutingPolicyManager
  | manager, [] => ([], manager)
  | manager, outboundTag :: outbounds =>
    let (healthy, manager) := manager.isHealthy policy now outboundTag
    let (rest, manager) := filterHealthy policy now manager outbounds
    (if healthy then outboundTag :: rest else rest, manager)

/-- An unknown latency is `Number.POSITIVE_INFINITY`.  The record exists by the time
the comparator asks for it (`getHealth_of_filterHealthy`). -/
def latencyScore (manager : RoutingPolicyManager) (outboundTag : String) : WithTop Rat :=
  match (manager.getHealth outboundTag).1.latencyEwmaMs with
  | none => ⊤
  | some latencyEwmaMs => (latencyEwmaMs : WithTop Rat)

def selectFailover (manager : RoutingPolicyManager) (policy : RoutingPolicyConfig) (now : Int) :
    List String × RoutingPolicyManager :=
  let (healthy, manager) := filterHealthy policy now manager policy.outbounds
  let unhealthy := policy.outbounds.filter fun outboundTag => !healthy.contains outboundTag
  (healthy ++ unhealthy, manager)

/-- `random` is what `Math.random()` returns. -/
def pickLoadBalanceFirst (manager : RoutingPolicyManager) (policy : RoutingPolicyConfig)
    (random : Rat) (pool : List String) : String × RoutingPolicyManager :=
  match policy.strategy with
  | .leastLatency =>
    -- ∞ − ∞ is NaN, which `sort` takes for 0: a tie.
    let sorted := pool.mergeSort fun left right =>
      decide (manager.latencyScore left ≤ manager.latencyScore right)
    (((sorted[0]? <|> pool[0]?) <|> policy.outbounds[0]?).getD "", manager)
  | .random =>
    ((pool[⌊random * pool.length⌋.toNat]? <|> pool[0]?).getD "", manager)
  | .roundRobin =>
    let current := (manager.roundRobinIndex.get policy.tag).getD 0
    ((pool[current % pool.length]? <|> pool[0]?).getD "",
      { manager with roundRobinIndex := manager.roundRobinIndex.set policy.tag (current + 1) })

def selectLoadBalance (manager : RoutingPolicyManager) (policy : RoutingPolicyConfig)
    (now : Int) (random : Rat) : List String × RoutingPolicyManager :=
  let (healthy, manager) := filterHealthy policy now manager policy.outbounds
  let pool := if healthy.length > 0 then healthy else policy.outbounds
  if pool.length = 0 then
    ([], manager)
  else
    let (first, manager) := manager.pickLoadBalanceFirst policy random pool
    let rest := pool.filter fun outboundTag => outboundTag ≠ first
    let unhealthy := policy.outbounds.filter fun outboundTag => !pool.contains outboundTag
    (first :: rest ++ unhealthy, manager)

def select (manager : RoutingPolicyManager) (now : Int) (random : Rat) (tag : String) :
    RoutingPolicySelection × RoutingPolicyManager :=
  match manager.policies.get tag with
  | none => (⟨tag, none, [tag]⟩, manager)
  | some policy =>
    let (candidates, manager) :=
      match policy.type with
      | .failover => manager.selectFailover policy now
      | .loadBalance => manager.selectLoadBalance policy now random
    (⟨tag, some policy.tag, candidates⟩, manager)

def getPolicySnapshot (policy : RoutingPolicyConfig) (now : Int)
    (manager : RoutingPolicyManager) : RoutingPolicySnapshot × RoutingPolicyManager :=
  let (healthyOutbounds, manager) := filterHealthy policy now manager policy.outbounds
  (⟨policy.tag, policy.type, policy.strategy, policy.outbounds, healthyOutbounds⟩, manager)

def getPolicySnapshotsOf (now : Int) :
    RoutingPolicyManager → List RoutingPolicyConfig →
      List RoutingPolicySnapshot × RoutingPolicyManager
  | manager, [] => ([], manager)
  | manager, policy :: policies =>
    let (snapshot, manager) := getPolicySnapshot policy now manager
    let (rest, manager) := getPolicySnapshotsOf now manager policies
    (snapshot :: rest, manager)

def getPolicySnapshots (manager : RoutingPolicyManager) (now : Int) :
    List RoutingPolicySnapshot × RoutingPolicyManager :=
  getPolicySnapshotsOf now manager manager.policies.values

def getHealthSnapshots (manager : RoutingPolicyManager) : List OutboundHealth :=
  manager.health.values

end RoutingPolicyManager

/-- What the engine, the prober and the dashboard call on a manager. -/
inductive PolicyCall
  | select (now : Int) (random : Rat) (tag : String)
  | recordSuccess (outboundTag : String) (latencyMs : Rat)
  | recordFailure (now : Int) (outboundTag : String)
  | getPolicySnapshots (now : Int)
  | reload (policies : List RoutingPolicyConfig)

namespace RoutingPolicyManager

def perform (manager : RoutingPolicyManager) : PolicyCall → RoutingPolicyManager
  | .select now random tag => (manager.select now random tag).2
  | .recordSuccess outboundTag latencyMs => manager.recordSuccess outboundTag latencyMs
  | .recordFailure now outboundTag => manager.recordFailure now outboundTag
  | .getPolicySnapshots now => (manager.getPolicySnapshots now).2
  | .reload policies => manager.reload policies

def calls : Runs.System RoutingPolicyManager PolicyCall where
  step manager call := some (manager.perform call)

end RoutingPolicyManager

end Sepigs
