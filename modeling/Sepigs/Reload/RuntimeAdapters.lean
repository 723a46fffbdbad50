import Sepigs.Outbound.RuntimeRegistry
import Sepigs.Router.Generation
import Sepigs.Dns.GenerationStore
import Sepigs.Reload.Executor

/-!
# The runtime adapters of the data plane (`reload/adapters/*RuntimeAdapter.ts`)

The router, policy, outbound and DNS adapters over the state of the engine they
share.  Each of their methods is atomic: it has no `await` before its last effect.
The metrics and dashboard adapters take part with arbitrary outcomes and touch
nothing here; their own steps are a model of their own.

What a method's pure checks of the candidate decide is not computed: `Conditions`
says whether and with what message they reject, and everything here holds for
every choice of it.
-/

namespace Sepigs

/-- The mutable fields of an `OutboundRuntimePrepared`. -/
structure OutboundPreparedFlags where
  switched : Bool
  committed : Bool
  disposed : Bool
deriving DecidableEq, Repr

/-- `ref` is the identity of the object, and of its descriptor. -/
structure OutboundRuntimePrepared where
  ref : Nat
  oldGenerationId : String
  candidateGeneration : OutboundGeneration
  candidateOutbounds : KeyMap String Outbound
  transactionId : String
  participatesInRoutingTransaction : Bool
deriving DecidableEq

structure DnsRuntimePrepared where
  oldGeneration : DNSGeneration
  candidateGeneration : DNSGeneration
  carried : Nat
  dropped : Nat
deriving DecidableEq, Repr

/-- The prepared value of an adapter; `committed` of a router or policy value is
written and never read. -/
inductive RuntimePrepared
  | controlPlane
  | router (transactionId : String)
  | policy (transactionId : String)
  | outbound (value : OutboundRuntimePrepared)
  | dns (value : DnsRuntimePrepared)
deriving DecidableEq

/-- The engine's state that a reload reads and writes.  `generation` belongs to the
`RuntimeReloadIntegration`; `nextRef` is the next fresh object. -/
structure RuntimeHost where
  config : SepigsConfig
  routing : RoutingGenerationRuntime
  registry : OutboundRuntimeRegistry
  dns : DNSGenerationStore
  generation : Nat
  outboundFlags : Nat → OutboundPreparedFlags
  dnsCommitted : Nat → Bool
  nextRef : Nat

/-- What one call of `RuntimeReloadIntegration.reload` keeps in its local variables. -/
structure ReloadTask where
  previous : SepigsConfig
  candidate : SepigsConfig
  changedComponents : List TransactionalReloadComponent
  expectedRoutingComponents : List RoutingComponent
  nextGeneration : Nat
  candidateGenerationId : String
  transactionId : String
deriving DecidableEq, Repr

/-- What the model leaves open about one operation: whether the deadline of the
transaction has passed, the message with which the adapter's checks (or a server,
or a `stop()`) reject, whether an outbound change counts as unsupported, and the
size of the DNS cache carry-over. -/
structure Conditions where
  expired : Bool
  rejection : Option String
  unsupported : Bool
  carried : Nat
  dropped : Nat
deriving DecidableEq, Repr

namespace RuntimeHost

def setOutboundFlags (host : RuntimeHost) (value : OutboundRuntimePrepared)
    (flags : OutboundPreparedFlags) : RuntimeHost :=
  { host with outboundFlags := Function.update host.outboundFlags value.ref flags }

def setDnsCommitted (host : RuntimeHost) (value : DnsRuntimePrepared) (committed : Bool) :
    RuntimeHost :=
  { host with
    dnsCommitted := Function.update host.dnsCommitted value.candidateGeneration.ref committed }

end RuntimeHost

/-- A check that rejects with a message, or passes. -/
def checked (conditions : Conditions) : Except String Unit :=
  match conditions.rejection with
  | some message => .error message
  | none => .ok ()

/-! ## Router and policy -/

namespace RouterRuntimeAdapter

def candidateGeneration (task : ReloadTask) (host : RuntimeHost) : RouterGeneration where
  id := s!"{task.candidateGenerationId}-router"
  sequence := host.routing.activeGeneration.router.sequence + 1
  defaultOutbound := task.candidate.route.defaultOutbound
  rules := task.candidate.route.rules
  ruleSetFiles := task.candidate.route.ruleSetFiles

def prepare (task : ReloadTask) (conditions : Conditions) (host : RuntimeHost) :
    Except String RuntimePrepared × RuntimeHost :=
  let staged : Except String RoutingGenerationRuntime := do
    checked conditions
    let routing ← host.routing.begin task.transactionId task.expectedRoutingComponents
    routing.stageRouter task.transactionId (candidateGeneration task host)
  match staged with
  | .ok routing => (.ok (.router task.transactionId), { host with routing := routing })
  | .error error => (.error error, host)

end RouterRuntimeAdapter

namespace PolicyRuntimeAdapter

def candidateGeneration (task : ReloadTask) (host : RuntimeHost) : PolicyGeneration where
  id := s!"{task.candidateGenerationId}-policy"
  sequence := host.routing.activeGeneration.policy.sequence + 1
  policies := task.candidate.route.policies

def prepare (task : ReloadTask) (conditions : Conditions) (host : RuntimeHost) :
    Except String RuntimePrepared × RuntimeHost :=
  let staged : Except String RoutingGenerationRuntime := do
    checked conditions
    let routing ← host.routing.begin task.transactionId task.expectedRoutingComponents
    routing.stagePolicy task.transactionId (candidateGeneration task host)
  match staged with
  | .ok routing => (.ok (.policy task.transactionId), { host with routing := routing })
  | .error error => (.error error, host)

end PolicyRuntimeAdapter

/-- `commit` of the router and of the policy adapter. -/
def RuntimeHost.commitRouting (host : RuntimeHost) (transactionId : String)
    (component : RoutingComponent) : Except String Unit × RuntimeHost :=
  match host.routing.commit transactionId component with
  | .ok routing => (.ok (), { host with routing := routing })
  | .error error => (.error error, host)

/-- `rollback` of the router and of the policy adapter. -/
def RuntimeHost.rollbackRouting (host : RuntimeHost) (transactionId : String) : RuntimeHost :=
  { host with routing := host.routing.rollback transactionId }

/-- `cleanup` of the router and of the policy adapter. -/
def RuntimeHost.cleanupRouting (host : RuntimeHost) (transactionId : String) : RuntimeHost :=
  { host with routing := host.routing.cleanup transactionId }

/-! ## Outbound -/

namespace OutboundRuntimeAdapter

/-- `host.createRuntimeOutbound` for every section, as objects `ref`, `ref + 1`, … -/
def createRuntimeOutbounds :
    Nat → List OutboundConfig → KeyMap String Outbound → KeyMap String Outbound
  | _, [], outbounds => outbounds
  | ref, config :: configs, outbounds =>
    createRuntimeOutbounds (ref + 1) configs
      (outbounds.set config.tag ⟨ref, config.tag, config.type⟩)

def candidateGeneration (task : ReloadTask) (host : RuntimeHost) : OutboundGeneration where
  ref := host.nextRef
  id := s!"{task.candidateGenerationId}-outbound"
  outbounds := task.candidate.outbounds

def preparedValue (task : ReloadTask) (host : RuntimeHost) : OutboundRuntimePrepared where
  ref := host.nextRef
  oldGenerationId := host.registry.activeGenerationId
  candidateGeneration := candidateGeneration task host
  candidateOutbounds := createRuntimeOutbounds (host.nextRef + 1) task.candidate.outbounds ∅
  transactionId := task.transactionId
  participatesInRoutingTransaction := .outbound ∈ task.expectedRoutingComponents

def prepare (task : ReloadTask) (conditions : Conditions) (host : RuntimeHost) :
    Except String RuntimePrepared × RuntimeHost :=
  match host.registry.requireRecord host.registry.activeGenerationId with
  | .error error => (.error error, host)
  | .ok _ =>
    match conditions.rejection with
    | some message =>
      (.error message,
        if conditions.unsupported then
          { host with registry := host.registry.recordRejectedUnsupported }
        else host)
    | none =>
      (.ok (.outbound (preparedValue task host)),
        { host.setOutboundFlags (preparedValue task host) ⟨false, false, false⟩ with
          nextRef := host.nextRef + 1 + task.candidate.outbounds.length })

/-- The `catch` block of `commit`: the switch is taken back. -/
def commitFailed (value : OutboundRuntimePrepared) (error : String) (host : RuntimeHost) :
    Except String Unit × RuntimeHost :=
  match host.registry.restoreGeneration value.oldGenerationId value.candidateGeneration.id with
  | .error error => (.error error, host)
  | .ok registry =>
    (.error error, { host with
      registry := registry.retireIfUnused value.candidateGeneration.id
      outboundFlags := Function.update host.outboundFlags value.ref
        { host.outboundFlags value.ref with switched := false, disposed := true } })

def commit (value : OutboundRuntimePrepared) (host : RuntimeHost) :
    Except String Unit × RuntimeHost :=
  match host.registry.switchGeneration value.candidateGeneration value.candidateOutbounds with
  | .error error => (.error error, host)
  | .ok registry =>
    let switched := { host.setOutboundFlags value
      { host.outboundFlags value.ref with switched := true } with registry := registry }
    let committed := switched.setOutboundFlags value
      { switched.outboundFlags value.ref with committed := true }
    if value.participatesInRoutingTransaction then
      match switched.routing.commit value.transactionId .outbound with
      | .ok routing => (.ok (), { committed with routing := routing })
      | .error error => commitFailed value error switched
    else (.ok (), committed)

def rollback (value : OutboundRuntimePrepared) (host : RuntimeHost) :
    Except String Unit × RuntimeHost :=
  let flags := host.outboundFlags value.ref
  let done := fun host : RuntimeHost =>
    host.setOutboundFlags value { flags with switched := false, committed := false }
  if flags.switched then
    match host.registry.restoreGeneration value.oldGenerationId value.candidateGeneration.id with
    | .error error => (.error error, host)
    | .ok registry =>
      let restored := { host with registry := registry }
      (.ok (), done (if value.participatesInRoutingTransaction then
        restored.rollbackRouting value.transactionId else restored))
  else (.ok (), done host)

/-- `registry.snapshot().generations.some(…)`; the snapshot needs the active record. -/
def registered (value : OutboundRuntimePrepared) (host : RuntimeHost) : Except String Bool := do
  let _ ← host.registry.requireRecord host.registry.activeGenerationId
  return host.registry.records.values.any fun record =>
    record.generation.id = value.candidateGeneration.id

/-- `cleanup`; the adapter's own `stopOutbounds` is no retirement, and is not logged. -/
def cleanup (value : OutboundRuntimePrepared) (host : RuntimeHost) :
    Except String Unit × RuntimeHost :=
  let flags := host.outboundFlags value.ref
  let dispose := fun host : RuntimeHost => host.setOutboundFlags value { flags with disposed := true }
  let retire := fun id : String => { host with registry := host.registry.retireIfUnused id }
  if flags.disposed then (.ok (), host)
  else
    match (if flags.switched then .ok true else registered value host : Except String Bool) with
    | .error error => (.error error, host)
    | .ok false => (.ok (), dispose host)
    | .ok true =>
      if flags.committed then (.ok (), retire value.oldGenerationId)
      else (.ok (), dispose (retire value.candidateGeneration.id))

end OutboundRuntimeAdapter

/-! ## DNS -/

namespace DnsRuntimeAdapter

def candidateGeneration (task : ReloadTask) (host : RuntimeHost) : DNSGeneration where
  ref := host.nextRef
  id := s!"{task.candidateGenerationId}-dns"
  sequence := host.dns.activeGeneration.sequence + 1
  config := task.candidate.dns

def prepare (task : ReloadTask) (conditions : Conditions) (host : RuntimeHost) :
    Except String RuntimePrepared × RuntimeHost :=
  if host.dns.activeGeneration.config.fakeIp ≠ task.candidate.dns.fakeIp then
    (.error ("DNS-only transactional reload rejected unsupported high-risk fake-IP " ++
      "configuration change"), { host with dns := host.dns.recordRejectedFakeIpChange })
  else
    match checked conditions with
    | .error error => (.error error, host)
    | .ok () =>
      let candidate := candidateGeneration task host
      let value : DnsRuntimePrepared :=
        ⟨host.dns.activeGeneration, candidate, conditions.carried, conditions.dropped⟩
      (.ok (.dns value), { host.setDnsCommitted value false with
        nextRef := host.nextRef + 1
        dns := host.dns.setState candidate fun _ => ⟨0, 0, false⟩ })

def commit (value : DnsRuntimePrepared) (host : RuntimeHost) : Except String Unit × RuntimeHost :=
  (.ok (), { host.setDnsCommitted value true with
    dns := (host.dns.switchTo value.candidateGeneration).recordCacheCarryover value.carried
      value.dropped })

def rollback (value : DnsRuntimePrepared) (host : RuntimeHost) : Except String Unit × RuntimeHost :=
  let restored :=
    if host.dnsCommitted value.candidateGeneration.ref then
      { host with dns := host.dns.restore value.oldGeneration value.candidateGeneration }
    else host
  (.ok (), restored.setDnsCommitted value false)

/-- `cleanup`; aborted queries leave `inFlight` when they settle. -/
def cleanup (host : RuntimeHost) : Except String Unit × RuntimeHost :=
  (.ok (), { host with dns := host.dns.releaseDrained })

end DnsRuntimeAdapter

/-! ## Operations -/

abbrev RuntimeOperation : Type := ReloadOperation TransactionalReloadComponent RuntimePrepared

abbrev RuntimeEntryPrepared : Type := PreparedEntry TransactionalReloadComponent RuntimePrepared

/-- The texts of the operation labels. -/
def TransactionalReloadComponent.label : TransactionalReloadComponent → String
  | metrics => "metrics-server"
  | dashboard => "dashboard-server"
  | router => "router"
  | policy => "policy-prober"
  | dns => "dns"
  | outbound => "outbound-registry"

def deadlineExceeded (label : String) : String :=
  s!"reload operation \"{label}\" exceeded transaction deadline"

namespace RuntimeHost

def prepare (task : ReloadTask) (conditions : Conditions) (host : RuntimeHost) :
    TransactionalReloadComponent → Except String RuntimePrepared × RuntimeHost
  | .metrics | .dashboard => ((checked conditions).map fun _ => .controlPlane, host)
  | .router => RouterRuntimeAdapter.prepare task conditions host
  | .policy => PolicyRuntimeAdapter.prepare task conditions host
  | .outbound => OutboundRuntimeAdapter.prepare task conditions host
  | .dns => DnsRuntimeAdapter.prepare task conditions host

def commit (conditions : Conditions) (host : RuntimeHost) :
    RuntimePrepared → Except String Unit × RuntimeHost
  | .controlPlane => (checked conditions, host)
  | .router transactionId => host.commitRouting transactionId .router
  | .policy transactionId => host.commitRouting transactionId .policy
  | .outbound value => OutboundRuntimeAdapter.commit value host
  | .dns value => DnsRuntimeAdapter.commit value host

def rollback (conditions : Conditions) (host : RuntimeHost) :
    RuntimePrepared → Except String Unit × RuntimeHost
  | .controlPlane => (checked conditions, host)
  | .router transactionId | .policy transactionId => (.ok (), host.rollbackRouting transactionId)
  | .outbound value => OutboundRuntimeAdapter.rollback value host
  | .dns value => DnsRuntimeAdapter.rollback value host

def cleanup (host : RuntimeHost) : RuntimePrepared → Except String Unit × RuntimeHost
  | .controlPlane => (.ok (), host)
  | .router transactionId | .policy transactionId => (.ok (), host.cleanupRouting transactionId)
  | .outbound value => OutboundRuntimeAdapter.cleanup value host
  | .dns _ => DnsRuntimeAdapter.cleanup host

/-- One `executeReloadOperation` of the executor: nothing is called past the
deadline; rollback and cleanup have a deadline of their own, not yet passed, and
a `stop()` that rejects or takes too long makes a cleanup reject. -/
def perform (task : ReloadTask) (conditions : Conditions) (host : RuntimeHost) :
    (operation : RuntimeOperation) → operation.Reply × RuntimeHost
  | .simple phase =>
    let label := match phase with
      | .parse => "parse"
      | .validate => "validate"
    (if conditions.expired then .error (deadlineExceeded label) else .ok (), host)
  | .prepare component =>
    if conditions.expired then (.error (deadlineExceeded s!"{component.label}.prepare"), host)
    else host.prepare task conditions component
  | .healthCheck entry =>
    (if conditions.expired then .error (deadlineExceeded s!"{entry.component.label}.health")
      else checked conditions, host)
  | .commit entry =>
    if conditions.expired then (.error (deadlineExceeded s!"{entry.component.label}.commit"), host)
    else host.commit conditions entry.prepared
  | .rollback entry => host.rollback conditions entry.prepared
  | .cleanup entry =>
    let cleaned := host.cleanup entry.prepared
    (cleaned.1.bind fun _ => checked conditions, cleaned.2)

end RuntimeHost

end Sepigs
