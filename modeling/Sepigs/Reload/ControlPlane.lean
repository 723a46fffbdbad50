import Sepigs.Reload.Executor
import Mathlib.Logic.Function.Basic

/-!
# The control-plane servers and their adapters

`PrometheusMetricsServer` (`observability/prometheus.ts`) and `DashboardServer`
(`dashboard/server.ts`) with their reload adapters (`metricsRuntimeAdapter.ts`,
`dashboardRuntimeAdapter.ts`).  The two adapters are one text, and the two servers differ in
what `stop()` makes of an error of `close()` and in the text of one error; `ControlServerKind`
says which of them it is.

A method of an adapter is cut at its `await`s: what it does up to the next one is one step
(`ControlTask`), and `resume` goes on from there with how the awaited promise settled.
-/

namespace Sepigs

inductive ControlServerKind where
  | metrics
  | dashboard
deriving DecidableEq, Repr

def ControlServerKind.text : ControlServerKind → String
  | metrics => "metrics"
  | dashboard => "dashboard"

/-- `MetricsServerConfig` and `DashboardConfig`; `settings` are the fields that do not concern
the listener. -/
structure ControlServerConfig (τ : Type) where
  enabled : Bool
  listen : String
  port : Nat
  settings : τ
deriving DecidableEq, Repr

/-- An `http.Server`: `listen` was called, it accepts connections, it was closed, or `listen`
failed. -/
inductive HttpServerState where
  | opening
  | listening
  | closed
  | failed (error : String)
deriving DecidableEq, Repr

/-- `httpServers` are all that `start` ever made, `server` is the one the field refers to. -/
structure ControlServer (τ : Type) where
  config : ControlServerConfig τ
  server : Option Nat
  httpServers : List HttpServerState
deriving DecidableEq, Repr

/-- The promise of `start()` or `stop()`: settled, or pending until an `http.Server` of a server
listens. -/
inductive ServerCall where
  | settled (reply : Except String Unit)
  | listen (server httpServer : Nat)
deriving DecidableEq, Repr

/-- How the promise of `listen` settled. -/
def HttpServerState.outcome : HttpServerState → Option (Except String Unit)
  | opening => none
  | listening | closed => some (.ok ())
  | failed error => some (.error error)

namespace ControlServer

variable {τ : Type}

def new (config : ControlServerConfig τ) : ControlServer τ := ⟨config, none, []⟩

def start (id : Nat) (s : ControlServer τ) : ServerCall × ControlServer τ :=
  if !s.config.enabled || s.server.isSome then (.settled (.ok ()), s)
  else
    (.listen id s.httpServers.length,
      { s with
        server := some s.httpServers.length
        httpServers := s.httpServers ++ [.opening] })

/-- What `stop()` comes to when the `http.Server` does not listen: node's `close` reports
`ERR_SERVER_NOT_RUNNING`, and the dashboard's callback takes no error. -/
def closeFailure : ControlServerKind → Except String Unit
  | .metrics => .error "Server is not running."
  | .dashboard => .ok ()

/-- `close` ends the listening at once; its callback comes later.  One that does not listen yet
goes on opening. -/
def stop (kind : ControlServerKind) (s : ControlServer τ) : ServerCall × ControlServer τ :=
  match s.server with
  | none => (.settled (.ok ()), s)
  | some i =>
    if s.httpServers[i]? = some .listening then
      (.settled (.ok ()), { s with server := none, httpServers := s.httpServers.set i .closed })
    else (.settled (closeFailure kind), { s with server := none })

/-- The event `listening` or `error` of an `http.Server` that opens, with the `catch` block of
`start`. -/
def listened (i : Nat) (outcome : Except String Unit) (s : ControlServer τ) : ControlServer τ :=
  match outcome with
  | .ok () => { s with httpServers := s.httpServers.set i .listening }
  | .error error => { s with server := none, httpServers := s.httpServers.set i (.failed error) }

def updateFailure : ControlServerKind → String
  | .metrics => "active metrics server can only update path in place"
  | .dashboard => "active dashboard server can only update non-listener settings in place"

def updateConfig (kind : ControlServerKind) (config : ControlServerConfig τ) (s : ControlServer τ) :
    Except String (ControlServer τ) :=
  if s.server.isSome &&
      (!config.enabled || config.listen != s.config.listen || config.port != s.config.port) then
    .error (updateFailure kind)
  else .ok { s with config := config }

/-- Some `http.Server` of it accepts connections. -/
def Running (s : ControlServer τ) : Prop := .listening ∈ s.httpServers

instance (s : ControlServer τ) : Decidable s.Running := inferInstanceAs (Decidable (_ ∈ _))

end ControlServer

inductive ControlReloadStrategy where
  | inPlace
  | replace
  | disable
deriving DecidableEq, Repr

/-- `MetricsRuntimePrepared`, `DashboardRuntimePrepared`; a server is known by its number. -/
structure ControlPrepared (τ : Type) where
  oldServer : Nat
  oldConfig : ControlServerConfig τ
  nextConfig : ControlServerConfig τ
  candidateServer : Option Nat
  strategy : ControlReloadStrategy
  candidateStarted : Bool
  oldStopped : Bool
  hostSwapped : Bool
  committed : Bool
  rolledBack : Bool
deriving DecidableEq, Repr

/-- The host of an adapter: the servers made so far (the first `created` numbers), the current
one and `runtimeStarted()`.  `prepared` is the object that the executor's entry holds. -/
structure ControlPlane (τ : Type) where
  servers : Nat → ControlServer τ
  created : Nat
  current : Nat
  runtimeStarted : Bool
  prepared : Option (ControlPrepared τ)

namespace ControlPlane

variable {τ : Type}

def setServer (plane : ControlPlane τ) (id : Nat) (s : ControlServer τ) : ControlPlane τ :=
  { plane with servers := Function.update plane.servers id s }

def call (plane : ControlPlane τ) (id : Nat)
    (method : ControlServer τ → ServerCall × ControlServer τ) : ServerCall × ControlPlane τ :=
  ((method (plane.servers id)).1, plane.setServer id (method (plane.servers id)).2)

def createServer (plane : ControlPlane τ) (config : ControlServerConfig τ) : ControlPlane τ :=
  { plane.setServer plane.created (.new config) with created := plane.created + 1 }

def replaceServer (plane : ControlPlane τ) (id : Nat) : ControlPlane τ :=
  { plane with current := id }

/-- Assignments to the prepared object. -/
def update (plane : ControlPlane τ) (f : ControlPrepared τ → ControlPrepared τ) : ControlPlane τ :=
  { plane with prepared := plane.prepared.map f }

end ControlPlane

/-- Whether the promise has settled with `reply`. -/
def ServerCall.Settles {τ : Type} (plane : ControlPlane τ) (reply : Except String Unit) :
    ServerCall → Prop
  | settled r => reply = r
  | listen id i =>
    ∃ state, (plane.servers id).httpServers[i]? = some state ∧ state.outcome = some reply

/-- Who awaits `restoreMetricsState`: the `catch` block of `commit`, or `rollback`. -/
inductive RestoreCaller where
  | commit (error : String)
  | rollback
deriving DecidableEq, Repr

/-- Where a method of an adapter waits. -/
inductive ControlSuspended (τ : Type) where
  | probing (oldServer : Nat) (oldConfig nextConfig : ControlServerConfig τ)
  | disableStop (call : ServerCall)
  | candidateStart (candidate : Nat) (call : ServerCall)
  | replaceStop (candidate : Nat) (call : ServerCall)
  | restoreStop (caller : RestoreCaller) (call : ServerCall)
  | restoreStart (caller : RestoreCaller) (call : ServerCall)
  | restored (caller : RestoreCaller) (reply : Except String Unit)
  | cleanupStop (call : ServerCall)

inductive ControlTask (τ : Type) where
  | prepared (value : ControlPrepared τ)
  | resolved
  | rejected (error : String)
  | suspended (point : ControlSuspended τ)

namespace ControlAdapter

variable {τ : Type} (kind : ControlServerKind)

/-- `selectMetricsStrategy`, `selectDashboardStrategy` -/
def selectStrategy (oldConfig nextConfig : ControlServerConfig τ) : ControlReloadStrategy :=
  if !nextConfig.enabled then .disable
  else if oldConfig.enabled && oldConfig.listen == nextConfig.listen &&
      oldConfig.port == nextConfig.port then .inPlace
  else .replace

/-- The end of `prepare`, after the probe. -/
def prepareValue (nextConfig : ControlServerConfig τ) (oldServer : Nat)
    (oldConfig : ControlServerConfig τ) (plane : ControlPlane τ) : ControlTask τ × ControlPlane τ :=
  let strategy := selectStrategy oldConfig nextConfig
  let value (candidateServer : Option Nat) : ControlPrepared τ :=
    ⟨oldServer, oldConfig, nextConfig, candidateServer, strategy, false, false, false, false, false⟩
  if strategy = .replace then
    (.prepared (value (some plane.created)), plane.createServer nextConfig)
  else (.prepared (value none), plane)

def prepare (nextConfig : ControlServerConfig τ) (plane : ControlPlane τ) :
    ControlTask τ × ControlPlane τ :=
  let oldServer := plane.current
  let oldConfig := (plane.servers oldServer).config
  if selectStrategy oldConfig nextConfig = .replace ∧ nextConfig.enabled ∧ plane.runtimeStarted then
    (.suspended (.probing oldServer oldConfig nextConfig), plane)
  else prepareValue nextConfig oldServer oldConfig plane

def healthCheck (state : ControlPrepared τ) (plane : ControlPlane τ) :
    ControlTask τ × ControlPlane τ :=
  if state.strategy = .replace ∧ state.candidateServer = none then
    (.rejected s!"{kind.text} candidate server was not prepared", plane)
  else (.resolved, plane)

/-- The last step of `restoreMetricsState`. -/
def restoreOld (caller : RestoreCaller) (state : ControlPrepared τ) (plane : ControlPlane τ) :
    ControlTask τ × ControlPlane τ :=
  if state.oldStopped && plane.runtimeStarted then
    let started := plane.call state.oldServer (ControlServer.start state.oldServer)
    (.suspended (.restoreStart caller started.1), started.2)
  else (.suspended (.restored caller (.ok ())), plane)

/-- `restoreMetricsState`, `restoreDashboardState` -/
def restore (caller : RestoreCaller) (state : ControlPrepared τ) (plane : ControlPlane τ) :
    ControlTask τ × ControlPlane τ :=
  if state.strategy = .inPlace then
    match (plane.servers state.oldServer).updateConfig kind state.oldConfig with
    | .ok server => (.suspended (.restored caller (.ok ())), plane.setServer state.oldServer server)
    | .error error => (.suspended (.restored caller (.error error)), plane)
  else
    let plane :=
      if state.hostSwapped then
        (plane.replaceServer state.oldServer).update fun state => { state with hostSwapped := false }
      else plane
    match state.candidateServer with
    | some candidate =>
      if state.candidateStarted then
        let stopped := plane.call candidate (ControlServer.stop kind)
        (.suspended (.restoreStop caller stopped.1), stopped.2)
      else restoreOld caller state plane
    | none => restoreOld caller state plane

def markCommitted (plane : ControlPlane τ) : ControlPlane τ :=
  plane.update fun state => { state with committed := true }

/-- The `disable` branch of `commit` from `createMetricsServer` on. -/
def commitDisabled (state : ControlPrepared τ) (plane : ControlPlane τ) : ControlPlane τ :=
  markCommitted (((plane.createServer state.nextConfig).replaceServer plane.created).update
    fun state => { state with hostSwapped := true })

/-- The `replace` branch of `commit` from `replaceMetricsServer` on. -/
def commitCandidate (candidate : Nat) (plane : ControlPlane τ) : ControlPlane τ :=
  markCommitted ((plane.replaceServer candidate).update fun state => { state with hostSwapped := true })

def commit (state : ControlPrepared τ) (plane : ControlPlane τ) : ControlTask τ × ControlPlane τ :=
  match state.strategy with
  | .inPlace =>
    match (plane.servers state.oldServer).updateConfig kind state.nextConfig with
    | .ok server => (.resolved, markCommitted (plane.setServer state.oldServer server))
    | .error error => restore kind (.commit error) state plane
  | .disable =>
    if plane.runtimeStarted then
      let stopped := plane.call state.oldServer (ControlServer.stop kind)
      (.suspended (.disableStop stopped.1), stopped.2)
    else (.resolved, commitDisabled state plane)
  | .replace =>
    match state.candidateServer with
    | none => restore kind (.commit s!"{kind.text} candidate server is unavailable") state plane
    | some candidate =>
      if plane.runtimeStarted then
        let started := plane.call candidate (ControlServer.start candidate)
        (.suspended (.candidateStart candidate started.1), started.2)
      else (.resolved, commitCandidate candidate plane)

def rollback (state : ControlPrepared τ) (plane : ControlPlane τ) : ControlTask τ × ControlPlane τ :=
  restore kind .rollback state plane

def cleanup (state : ControlPrepared τ) (plane : ControlPlane τ) : ControlTask τ × ControlPlane τ :=
  match state.candidateServer with
  | none => (.resolved, plane)
  | some candidate =>
    if state.strategy ≠ .replace ∨ state.committed ∧ ¬ state.rolledBack then (.resolved, plane)
    else
      let stopped := plane.call candidate (ControlServer.stop kind)
      (.suspended (.cleanupStop stopped.1), stopped.2)

/-- The end of `restoreMetricsState`: `rollback` goes on, or `commit` throws. -/
def restoreEnd (caller : RestoreCaller) (reply : Except String Unit) (plane : ControlPlane τ) :
    ControlTask τ × ControlPlane τ :=
  match reply, caller with
  | .error error, _ => (.rejected error, plane)
  | .ok (), .commit error => (.rejected error, plane)
  | .ok (), .rollback =>
    (.resolved, plane.update fun state => { state with rolledBack := true, committed := false })

/-- `commit`, `rollback` and `cleanup` after an `await`, up to the next one. -/
def resumeHeld (state : ControlPrepared τ) (point : ControlSuspended τ) (reply : Except String Unit)
    (plane : ControlPlane τ) : ControlTask τ × ControlPlane τ :=
  match point, reply with
  | .probing _ _ _, _ => (.resolved, plane)
  | .disableStop _, .ok () =>
    (.resolved, commitDisabled state (plane.update fun state => { state with oldStopped := true }))
  | .candidateStart candidate _, .ok () =>
    let stopped := (plane.update fun state => { state with candidateStarted := true }).call
      state.oldServer (ControlServer.stop kind)
    (.suspended (.replaceStop candidate stopped.1), stopped.2)
  | .replaceStop candidate _, .ok () =>
    (.resolved, commitCandidate candidate
      (plane.update fun state => { state with oldStopped := true }))
  | .disableStop _, .error error | .candidateStart _ _, .error error
  | .replaceStop _ _, .error error =>
    restore kind (.commit error) state plane
  | .restoreStop caller _, .ok () =>
    restoreOld caller state (plane.update fun state => { state with candidateStarted := false })
  | .restoreStart caller _, .ok () =>
    (.suspended (.restored caller (.ok ())),
      plane.update fun state => { state with oldStopped := false })
  | .restoreStop caller _, .error error | .restoreStart caller _, .error error =>
    (.suspended (.restored caller (.error error)), plane)
  | .restored caller _, reply => restoreEnd caller reply plane
  | .cleanupStop _, .ok () =>
    (.resolved, plane.update fun state => { state with candidateStarted := false })
  | .cleanupStop _, .error error => (.rejected error, plane)

/-- A method after an `await`, up to the next one. -/
def resume (point : ControlSuspended τ) (reply : Except String Unit) (plane : ControlPlane τ) :
    ControlTask τ × ControlPlane τ :=
  match point, reply, plane.prepared with
  | .probing oldServer oldConfig nextConfig, .ok (), _ =>
    prepareValue nextConfig oldServer oldConfig plane
  | .probing _ _ _, .error error, _ => (.rejected error, plane)
  | _, _, none => (.resolved, plane)
  | _, _, some state => resumeHeld kind state point reply plane

/-- Whether the promise that is awaited has settled with `reply`; the probe of the port is the
environment's. -/
def Settles (plane : ControlPlane τ) (reply : Except String Unit) : ControlSuspended τ → Prop
  | .probing _ _ _ => True
  | .restored _ r => reply = r
  | .disableStop call | .candidateStart _ call | .replaceStop _ call | .restoreStop _ call
  | .restoreStart _ call | .cleanupStop call => call.Settles plane reply

end ControlAdapter

end Sepigs
