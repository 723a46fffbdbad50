import Sepigs.Reload.RuntimeAdapters

/-!
# The runtime reload (`reload/runtimeIntegration.ts`)

`RuntimeReloadIntegration.reload` in two parts: what it does before its first
`await` (`start`, with `Engine.reloadConfig`'s reading of the committed config), and
the program it is from then on (`program`), call by call.  Everything after the
last `await` is one call, `commitRuntimeConfig`.
-/

namespace Sepigs

namespace RuntimeReloadIntegration

/-- The parts of a config that `changedRuntimeComponents` compares for a component. -/
def changed (previous candidate : SepigsConfig) : TransactionalReloadComponent → Bool
  | .metrics => previous.metrics ≠ candidate.metrics
  | .dashboard => previous.dashboard ≠ candidate.dashboard
  | .router =>
    (previous.route.defaultOutbound, previous.route.rules, previous.route.ruleSetFiles) ≠
      (candidate.route.defaultOutbound, candidate.route.rules, candidate.route.ruleSetFiles)
  | .policy => previous.route.policies ≠ candidate.route.policies
  | .outbound => previous.outbounds ≠ candidate.outbounds
  | .dns => previous.dns.view ≠ candidate.dns.view

def changedRuntimeComponents (previous candidate : SepigsConfig) :
    List TransactionalReloadComponent :=
  [.metrics, .dashboard, .router, .policy, .outbound, .dns].filter (changed previous candidate)

def expectedRoutingComponents (changedComponents : List TransactionalReloadComponent) :
    List RoutingComponent :=
  let routing :=
    (if .router ∈ changedComponents then [RoutingComponent.router] else []) ++
      (if .policy ∈ changedComponents then [RoutingComponent.policy] else [])
  routing ++ if .outbound ∈ changedComponents ∧ routing ≠ [] then [.outbound] else []

/-- DNS is published last. -/
def createRuntimeComponents (changedComponents : List TransactionalReloadComponent) :
    List TransactionalReloadComponent :=
  [.metrics, .dashboard, .router, .policy, .outbound, .dns].filter (· ∈ changedComponents)

/-- The checks before the first `await`. -/
def assertSupported (previous candidate : SepigsConfig) : Except String Unit := do
  if previous.unsupported ≠ candidate.unsupported then
    throw ("transactional-experimental M11 only supports metrics/dashboard/router/policy/dns/" ++
      "outbound changes; use legacy mode for other changes")
  (changedRuntimeComponents previous candidate).forM fun component =>
    if component ∈ candidate.reload.transactional.enabledComponents then .ok ()
    else .error s!"transactional reload component \"{component.label}\" changed but is not enabled"

/-- `transactionId`; `now` is `Date.now()`. -/
def transactionId (now nextGeneration : Nat) : String :=
  s!"runtime-reload-{now}-{nextGeneration}"

/-- The local variables of the call. -/
def newTask (host : RuntimeHost) (candidate : SepigsConfig) (now : Nat) : ReloadTask :=
  let changedComponents := changedRuntimeComponents host.config candidate
  let nextGeneration := host.generation + 1
  { previous := host.config
    candidate := candidate
    changedComponents := changedComponents
    expectedRoutingComponents := expectedRoutingComponents changedComponents
    nextGeneration := nextGeneration
    candidateGenerationId := s!"runtime-control-{nextGeneration}"
    transactionId := transactionId now nextGeneration }

/-- `Engine.reloadConfig` and `reload` up to the first `await`. -/
def start (host : RuntimeHost) (candidate : SepigsConfig) (now : Nat) :
    Except String ReloadTask × RuntimeHost :=
  if candidate.reload.mode ≠ .transactionalExperimental then
    (.error "runtime transactional integration requires transactional-experimental mode", host)
  else if host.config.dns.fakeIp ≠ candidate.dns.fakeIp then
    (.error ("transactional-experimental DNS reload rejected unsupported high-risk fake-IP " ++
      "configuration change"), { host with dns := host.dns.recordRejectedFakeIpChange })
  else
    match assertSupported host.config candidate with
    | .error error => (.error error, host)
    | .ok () => (.ok (newTask host candidate now), host)

/-- What a reload awaits; `shadow` is the whole execution against the shadow
components, which touch nothing. -/
inductive Call
  | shadow
  | operation (op : RuntimeOperation)
  | commitRuntimeConfig

def Call.Reply : Call → Type
  | shadow => Except String Unit
  | operation op => op.Reply
  | commitRuntimeConfig => Unit

/-- What the executor reads of its fields, with this repository's components. -/
abbrev Fields : Type := ReloadExecutorFields TransactionalReloadComponent RuntimePrepared

def reloadFailed (fields : Fields) : String :=
  let reason := fields.originalFailure.getD "unknown error"
  s!"experimental transactional reload failed: {reason}"

/-- `reload` after its `ReloadExecutor.execute`. -/
def afterExecute : Except String Fields × Fields → Resumption Call Call.Reply (Except String Unit)
  | (.error error, _) => .done (.error error)
  | (.ok fields, _) =>
    if fields.model.state = .committed then .call .commitRuntimeConfig fun _ => .done (.ok ())
    else .done (.error (reloadFailed fields))

/-- `reload` after its shadow execution. -/
def execute (task : ReloadTask) : Resumption Call Call.Reply (Except String Unit) :=
  Resumption.translate Call.operation (fun _ reply => reply)
    (ReloadExecutor.execute (createRuntimeComponents task.changedComponents)
      (ReloadExecutor.fieldsNew : Fields)) >>= afterExecute

def shadowFailed (error : String) : String :=
  s!"transactional reload shadow preflight failed: {error}"

/-- `reload` from the first `await` on. -/
def program (task : ReloadTask) : Resumption Call Call.Reply (Except String Unit) :=
  if task.candidate.reload.transactional.shadowBeforeCommit then
    .call .shadow fun settled : Except String Unit =>
      match settled with
      | .ok () => execute task
      | .error error => .done (.error (shadowFailed error))
  else execute task

/-- What a call does to the engine, and its reply. -/
def perform (task : ReloadTask) (conditions : Conditions) (host : RuntimeHost) :
    (call : Call) → call.Reply × RuntimeHost
  | .shadow => ((checked conditions : Except String Unit), host)
  | .operation op => host.perform task conditions op
  | .commitRuntimeConfig =>
    ((), { host with config := task.candidate, generation := task.nextGeneration })

end RuntimeReloadIntegration

end Sepigs
