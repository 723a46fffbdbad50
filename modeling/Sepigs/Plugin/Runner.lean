import Sepigs.Lib.JsString
import Sepigs.Plugin.PluginManager

/-!
# Plugins that run in a process or a thread of their own

`plugin/runners/childProcessRunner.ts` and `plugin/runners/workerThreadRunner.ts`, with the
callbacks of `createRunner` in `plugin/plugin.ts`.  Both runners keep one table of pending
calls and one handle, over all the instances they start; what an instance sends or suffers,
a timer and the `finally` of `stop` are labels, in any order.

A call is known by its number in the order of the calls, an instance by its number in the
order in which they were started.  A call is pending as long as it has no outcome.
-/

namespace Sepigs

inductive PluginRunnerKind
  | childProcess
  | workerThread
deriving DecidableEq, Repr

inductive PluginMethod
  | setup
  | start
  | stop
  | invoke
deriving DecidableEq, Repr

def PluginMethod.text : PluginMethod → String
  | .setup => "setup"
  | .start => "start"
  | .stop => "stop"
  | .invoke => "invoke"

/-- An error by its class; `raised` is one that an instance raised. -/
inductive PluginError
  | timeoutError (message : String)
  | configError (message : String)
  | typeError (message : String)
  | raised (message : String)
deriving DecidableEq, Repr

structure PluginRunnerConfig where
  kind : PluginRunnerKind
  tag : String
  timeoutMs : Nat
  stdoutLimitBytes : Nat
deriving DecidableEq, Repr

/-- A process or a thread; `killed` once it was told to end. -/
structure PluginInstance where
  killed : Bool
  exited : Bool
deriving DecidableEq, Repr

/-- The payload is the text of a value. -/
structure PluginCall where
  sentTo : Nat
  method : PluginMethod
  outcome : Option (Except PluginError String)

/-- A call of `stop`: the instance that was there and the number of the call sent to it, the
thread whose end it waits for, and how it ended. -/
structure StopCall where
  request : Option (Nat × Nat)
  terminating : Option Nat
  result : Option (Except PluginError Unit)

/-- `current` is the handle `this.child` or `this.worker`.  `registrations` is history: the
types that are registered, with the instance that asked for it. -/
structure PluginRunner where
  current : Option Nat
  instances : List PluginInstance
  calls : List PluginCall
  stops : List StopCall
  outputBytes : Nat
  manager : PluginManager
  registrations : List (String × Nat)

/-- `registerRemoteOutboundFactory`; `none` when the type is refused. -/
def PluginManager.registerRemote (manager : PluginManager) (tag type : String) :
    Option PluginManager :=
  if !JsString.startsWith type "plugin." then none
  else
    match manager.registry.registerOutboundFactory type (.plugin tag) tag with
    | .error _ => none
    | .ok registry =>
      some { manager with
        registry := registry
        remoteOutboundTypes := manager.remoteOutboundTypes.set tag
          (addType ((manager.remoteOutboundTypes.get tag).getD []) type)
        log := manager.log ++ [⟨type, tag, manager.registry.factories.get type⟩] }

namespace PluginRunner

/-- The constructor, with the manager that is called back. -/
def create (manager : PluginManager) : PluginRunner := ⟨none, [], [], [], 0, manager, []⟩

/-- `ensureChild` and `ensureWorker` -/
def ensure (s : PluginRunner) : Nat × PluginRunner :=
  match s.current with
  | some i => (i, s)
  | none =>
    (s.instances.length,
      { s with current := some s.instances.length, instances := s.instances ++ [⟨false, false⟩] })

/-- `call`: the instance it is sent to, and the runner. -/
def call (s : PluginRunner) (method : PluginMethod) : Nat × PluginRunner :=
  let (i, s) := s.ensure
  (i, { s with calls := s.calls ++ [⟨i, method, none⟩] })

/-- `kill()` and `terminate()` -/
def kill (s : PluginRunner) (i : Nat) : PluginRunner :=
  { s with instances := s.instances.modify i fun process => { process with killed := true } }

/-- The promise of a call settles, if it has not. -/
def settleCall (s : PluginRunner) (id : Nat) (outcome : Except PluginError String) : PluginRunner :=
  { s with calls := s.calls.modify id fun call => { call with outcome := call.outcome <|> some outcome } }

def rejectAll (s : PluginRunner) (error : PluginError) : PluginRunner :=
  { s with calls := s.calls.map fun call =>
      { call with outcome := call.outcome <|> some (.error error) } }

variable (config : PluginRunnerConfig)

/-- `onRunnerClosed` -/
def closed (s : PluginRunner) : PluginRunner :=
  { s with manager := s.manager.unregisterRemoteOutboundFactories config.tag, registrations := [] }

/-- `onRegisterOutboundFactory`, for a message of the instance `i`. -/
def onRegister (s : PluginRunner) (i : Nat) (type : String) : PluginRunner :=
  match s.manager.registerRemote config.tag type with
  | none => s
  | some manager => { s with manager := manager, registrations := s.registrations ++ [(type, i)] }

/-- The answer of the plugin to a call: a payload, or that it failed and why. -/
def onReply (s : PluginRunner) (id : Nat) (answer : Except (Option String) String) : PluginRunner :=
  s.settleCall id <|
    match answer with
    | .ok payload => .ok payload
    | .error message => .error (.configError (message.getD s!"plugin \"{config.tag}\" failed"))

/-- Output of any instance, which is counted over all of them. -/
def onOutput (s : PluginRunner) (bytes : Nat) : PluginRunner :=
  let s := { s with outputBytes := s.outputBytes + bytes }
  match s.current with
  | some i =>
    if config.stdoutLimitBytes < s.outputBytes then
      { s.kill i with current := none }.rejectAll
        (.configError s!"plugin \"{config.tag}\" exceeded stdout/stderr limit")
    else s
  | none => s

/-- The timer of a call that was sent to the instance `i`. -/
def onTimeout (s : PluginRunner) (id i : Nat) (method : PluginMethod) : PluginRunner :=
  { s.kill i with current := none }.settleCall id (.error (.timeoutError
    s!"plugin \"{config.tag}\" {method.text} timed out after {config.timeoutMs}ms"))

/-- The start of an `exit` handler: the handle is cleared when it is of the instance. -/
def exited (s : PluginRunner) (i : Nat) : PluginRunner :=
  { s with
    current := if s.current = some i then none else s.current
    instances := s.instances.modify i fun process => { process with exited := true } }

def exitCode (code : Option Int) : String := (code.map toString).getD "n/a"

def exitSignal (signal : Option String) : String := signal.getD "n/a"

/-- `exit` of a child process; no code when a signal ended it. -/
def onChildExit (s : PluginRunner) (i : Nat) (code : Option Int) (signal : Option String) :
    PluginRunner :=
  let expectedStop := s.current.isNone
  let closed := (s.exited i).closed config
  if !expectedStop && decide (code ≠ some 0) then
    closed.rejectAll (.configError (s!"child-process plugin \"{config.tag}\" exited with code " ++
      s!"{exitCode code} signal {exitSignal signal}"))
  else closed

/-- `exit` of a worker thread. -/
def onWorkerExit (s : PluginRunner) (i : Nat) (code : Option Int) : PluginRunner :=
  let closed := (s.exited i).closed config
  if code ≠ some 0 then
    closed.rejectAll (.configError
      s!"worker-thread plugin \"{config.tag}\" exited with code {exitCode code}")
  else closed

def onExit (s : PluginRunner) (i : Nat) (code : Option Int) (signal : Option String) : PluginRunner :=
  match config.kind with
  | .childProcess => s.onChildExit config i code signal
  | .workerThread => s.onWorkerExit config i code

/-- `stop`, up to the await of its call. -/
def stop (s : PluginRunner) : PluginRunner :=
  match s.current with
  | none => { s with stops := s.stops ++ [⟨none, none, some (.ok ())⟩] }
  | some i =>
    let stopping := (s.call .stop).2
    { stopping with stops := stopping.stops ++ [⟨some (i, s.calls.length), none, none⟩] }

/-- What `stop` ends with when its call ended so. -/
def stopResult (outcome : Except PluginError String) : Except PluginError Unit :=
  outcome.map fun _ => ()

def setStop (s : PluginRunner) (k : Nat) (stop : StopCall) : PluginRunner :=
  { s with stops := s.stops.set k stop }

/-- The `finally` of `stop` for a child process. -/
def finishChildStop (s : PluginRunner) (k i id : Nat) (outcome : Except PluginError String) :
    PluginRunner :=
  ({ s.kill i with current := none }.closed config).setStop k
    ⟨some (i, id), none, some (stopResult outcome)⟩

/-- The `finally` of `stop` for a worker thread, up to its await. -/
def finishWorkerStop (s : PluginRunner) (k i id : Nat) : PluginRunner :=
  match s.current with
  | none => s.setStop k ⟨some (i, id), none,
      some (.error (.typeError "Cannot read properties of undefined (reading 'terminate')"))⟩
  | some j => (s.kill j).setStop k ⟨some (i, id), some j, none⟩

/-- The thread has ended. -/
def endWorkerStop (s : PluginRunner) (k i id j : Nat) (outcome : Except PluginError String) :
    PluginRunner :=
  ({ s with current := none }.closed config).setStop k
    ⟨some (i, id), some j, some (stopResult outcome)⟩

/-- What can happen next: a call of the runner, something of an instance, a timer, and `stop`
going on after an await. -/
inductive Action
  | call (method : PluginMethod)
  | stop
  | reply (id : Nat) (answer : Except (Option String) String)
  | register (i : Nat) (type : String)
  | output (i bytes : Nat)
  | error (i : Nat) (message : String)
  | exit (i : Nat) (code : Option Int) (signal : Option String)
  | timeout (id : Nat)
  | finishStop (k : Nat)
  | endStop (k : Nat)
deriving DecidableEq

def step (s : PluginRunner) : Action → Option PluginRunner
  | .call method => some (s.call method).2
  | .stop => some s.stop
  | .reply id answer => if id < s.calls.length then some (s.onReply config id answer) else none
  | .register i type => if i < s.instances.length then some (s.onRegister config i type) else none
  | .output i bytes => if i < s.instances.length then some (s.onOutput config bytes) else none
  | .error i message =>
    if i < s.instances.length then some (s.rejectAll (.raised message)) else none
  | .exit i code signal =>
    match s.instances[i]? with
    | some process => if process.exited then none else some (s.onExit config i code signal)
    | none => none
  | .timeout id =>
    match s.calls[id]? with
    | some ⟨i, method, none⟩ => some (s.onTimeout config id i method)
    | _ => none
  | .finishStop k =>
    match s.stops[k]? with
    | some ⟨some (i, id), none, none⟩ =>
      match s.calls[id]?.bind PluginCall.outcome with
      | some outcome =>
        match config.kind with
        | .childProcess => some (s.finishChildStop config k i id outcome)
        | .workerThread => some (s.finishWorkerStop k i id)
      | none => none
    | _ => none
  | .endStop k =>
    match s.stops[k]? with
    | some ⟨some (i, id), some j, none⟩ =>
      match s.calls[id]?.bind PluginCall.outcome with
      | some outcome =>
        if (s.instances[j]?.map PluginInstance.exited) = some true then
          some (s.endWorkerStop config k i id j outcome)
        else none
      | none => none
    | _ => none

/-- Any order of calls, events, timers and continuations. -/
def system : Runs.System PluginRunner Action where
  step := step config

end PluginRunner

end Sepigs
