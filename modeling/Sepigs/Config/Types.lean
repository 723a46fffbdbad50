import Mathlib.Order.Basic

/-!
# Configuration records (`config/types.ts`)

The sections of `SepigsConfig` that routing and the transactional reload read.
A section that the reload only compares is kept as its `stableJson` text.
-/

namespace Sepigs

/-- The `stableJson` text of a value: equal texts are equal values up to key order. -/
abbrev StableJson := String

/-! ## Routing -/

structure RouteRuleConfig where
  outboundTag : String
  tag : Option String
  domain : Option (List String)
  domainSuffix : Option (List String)
  ipCidr : Option (List String)
  geoIp : Option (List String)
  geoSite : Option (List String)
  port : Option (List Nat)
deriving DecidableEq, Repr

structure RouteRuleSetFileConfig where
  tag : String
  path : String
  outboundTag : String
deriving DecidableEq, Repr

inductive RoutingPolicyType
  | loadBalance
  | failover
deriving DecidableEq, Repr

inductive LoadBalanceStrategy
  | roundRobin
  | leastLatency
  | random
deriving DecidableEq, Repr

structure RoutingPolicyConfig where
  tag : String
  type : RoutingPolicyType
  outbounds : List String
  strategy : LoadBalanceStrategy
  unhealthyAfterFailures : Nat
  recoverAfterMs : Nat
deriving DecidableEq, Repr

structure RouterConfig where
  defaultOutbound : String
  rules : List RouteRuleConfig
  ruleSetFiles : List RouteRuleSetFileConfig
  policies : List RoutingPolicyConfig
deriving DecidableEq, Repr

/-! ## Outbounds -/

inductive OutboundType
  | direct
  | block
  | tcpRelay
  | shadowsocks
  | trojan
  | wireguard
  | extension (name : String)
deriving DecidableEq, Repr

/-- One outbound section; `settings` is the text of the fields that depend on the type. -/
structure OutboundConfig where
  tag : String
  type : OutboundType
  settings : StableJson
deriving DecidableEq, Repr

/-! ## Control plane -/

structure MetricsServerConfig where
  enabled : Bool
  listen : String
  port : Nat
  path : String
deriving DecidableEq, Repr

structure DashboardConfig where
  enabled : Bool
  listen : String
  port : Nat
  token : String
  rateLimitPerMinute : Nat
  cors : Bool
deriving DecidableEq, Repr

/-! ## DNS and reload -/

/-- `fakeIp` is compared on its own by the reload; `view` is `dnsConfigView`. -/
structure DnsConfig where
  view : StableJson
  fakeIp : StableJson
deriving DecidableEq, Repr

inductive TransactionalReloadComponent
  | metrics
  | dashboard
  | router
  | policy
  | dns
  | outbound
deriving DecidableEq, Repr

inductive ReloadMode
  | legacy
  | transactionalExperimental
deriving DecidableEq, Repr

structure TransactionalReloadConfig where
  enabledComponents : List TransactionalReloadComponent
  timeoutMs : Nat
  shadowBeforeCommit : Bool
  rollbackOnFailure : Bool
deriving DecidableEq, Repr

structure ReloadConfig where
  mode : ReloadMode
  transactional : TransactionalReloadConfig
deriving DecidableEq, Repr

/-- `unsupported` is `withoutM11Components`: every section that is not a field here. -/
structure SepigsConfig where
  metrics : MetricsServerConfig
  dashboard : DashboardConfig
  route : RouterConfig
  outbounds : List OutboundConfig
  dns : DnsConfig
  reload : ReloadConfig
  unsupported : StableJson
deriving DecidableEq, Repr

end Sepigs
