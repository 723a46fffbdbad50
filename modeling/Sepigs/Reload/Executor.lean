import Sepigs.Lib.AsyncMethod
import Sepigs.Reload.Transaction

/-!
# The reload executor (`reload/executor.ts`)

`ReloadExecutor.execute` as an asynchronous method over the executor's mutable
fields.  A call of the outside world is one `executeReloadOperation`: the reply is
how it settled, so a timeout, an abort and a passed deadline are replies too.

`κ` are the components and `ν` what their `prepare` returns.  The event log, the
metrics and the clock are left out: nothing the executor decides reads them.
-/

namespace Sepigs

inductive ReloadFailureStage
  | parse
  | validate
  | prepare
  | health
  | commit
  | rollback
  | cleanup
deriving DecidableEq, Repr

/-- `prepared` is the `PreparedComponent` that `prepare` resolved to. -/
structure PreparedEntry (κ ν : Type) where
  component : κ
  prepared : ν
deriving DecidableEq, Repr

structure ReloadComponentError (κ : Type) where
  component : Option κ
  stage : ReloadFailureStage
  message : String
deriving DecidableEq, Repr

/-- The two phases with an optional callback. -/
inductive SimplePhase
  | parse
  | validate
deriving DecidableEq, Repr

def SimplePhase.stage : SimplePhase → ReloadFailureStage
  | parse => .parse
  | validate => .validate

def SimplePhase.state : SimplePhase → ReloadTransactionState
  | parse => .parsing
  | validate => .validating

/-- What the executor awaits. -/
inductive ReloadOperation (κ ν : Type)
  | simple (phase : SimplePhase)
  | prepare (component : κ)
  | healthCheck (entry : PreparedEntry κ ν)
  | commit (entry : PreparedEntry κ ν)
  | rollback (entry : PreparedEntry κ ν)
  | cleanup (entry : PreparedEntry κ ν)
deriving DecidableEq, Repr

/-- What the promise of the operation resolves to. -/
def ReloadOperation.Result {κ ν : Type} : ReloadOperation κ ν → Type
  | prepare _ => ν
  | simple _ | healthCheck _ | commit _ | rollback _ | cleanup _ => Unit

/-- How the promise of the operation settles. -/
abbrev ReloadOperation.Reply {κ ν : Type} (operation : ReloadOperation κ ν) : Type :=
  Except String operation.Result

/-- The mutable fields. -/
structure ReloadExecutorFields (κ ν : Type) where
  model : ReloadTransactionModel
  componentErrors : List (ReloadComponentError κ)
  preparedEntries : List (PreparedEntry κ ν)
  committedEntries : List (PreparedEntry κ ν)
  originalFailure : Option String
  primaryFailureStage : Option ReloadFailureStage
deriving DecidableEq, Repr

abbrev ReloadMethod (κ ν α : Type) : Type :=
  AsyncMethod (ReloadOperation κ ν) ReloadOperation.Reply (ReloadExecutorFields κ ν) String α

namespace ReloadExecutor

variable {κ ν : Type}

def fieldsNew : ReloadExecutorFields κ ν := ⟨.new, [], [], [], none, none⟩

def executeReloadOperation (operation : ReloadOperation κ ν) : ReloadMethod κ ν operation.Reply :=
  AsyncMethod.await operation

def transition (next : ReloadTransactionState) : ReloadMethod κ ν Unit := do
  let fields ← AsyncMethod.get
  let model ← AsyncMethod.settle (fields.model.transition next)
  AsyncMethod.modify fun fields => { fields with model := model }

def fail (reason : String) : ReloadMethod κ ν Unit := do
  let fields ← AsyncMethod.get
  let model ← AsyncMethod.settle (fields.model.fail reason)
  AsyncMethod.modify fun fields => { fields with model := model }

/-- The fields after `recordError`. -/
def recordErrorFields (stage : ReloadFailureStage) (message : String) (component : Option κ)
    (fields : ReloadExecutorFields κ ν) : ReloadExecutorFields κ ν :=
  { fields with
    primaryFailureStage :=
      if stage ≠ .rollback ∧ stage ≠ .cleanup ∧ fields.primaryFailureStage = none then some stage
      else fields.primaryFailureStage
    componentErrors := fields.componentErrors ++ [⟨component, stage, message⟩] }

def recordError (stage : ReloadFailureStage) (message : String) (component : Option κ) :
    ReloadMethod κ ν Unit :=
  AsyncMethod.modify (recordErrorFields stage message component)

def pushPrepared (entry : PreparedEntry κ ν) : ReloadMethod κ ν Unit :=
  AsyncMethod.modify fun fields =>
    { fields with preparedEntries := fields.preparedEntries ++ [entry] }

def pushCommitted (entry : PreparedEntry κ ν) : ReloadMethod κ ν Unit :=
  AsyncMethod.modify fun fields =>
    { fields with committedEntries := fields.committedEntries ++ [entry] }

def runSimplePhase (phase : SimplePhase) : ReloadMethod κ ν Unit := do
  transition phase.state
  let settled : Except String Unit ← executeReloadOperation (.simple phase)
  match settled with
  | .ok () => pure ()
  | .error error =>
    recordError phase.stage error none
    AsyncMethod.throw error

def runPrepare : List κ → ReloadMethod κ ν Unit
  | [] => pure ()
  | component :: components => do
    let settled : Except String ν ← executeReloadOperation (.prepare component)
    match settled with
    | .ok prepared =>
      pushPrepared ⟨component, prepared⟩
      runPrepare components
    | .error error =>
      recordError .prepare error (some component)
      AsyncMethod.throw error

def runHealthChecks : List (PreparedEntry κ ν) → ReloadMethod κ ν Unit
  | [] => pure ()
  | entry :: entries => do
    let settled : Except String Unit ← executeReloadOperation (.healthCheck entry)
    match settled with
    | .ok () => runHealthChecks entries
    | .error error =>
      recordError .health error (some entry.component)
      AsyncMethod.throw error

def runCommit : List (PreparedEntry κ ν) → ReloadMethod κ ν Unit
  | [] => pure ()
  | entry :: entries => do
    let settled : Except String Unit ← executeReloadOperation (.commit entry)
    match settled with
    | .ok () =>
      pushCommitted entry
      runCommit entries
    | .error error =>
      recordError .commit error (some entry.component)
      AsyncMethod.throw error

/-- The loop of `runRollback`; the list is already reversed. -/
def runRollback : List (PreparedEntry κ ν) → ReloadMethod κ ν Unit
  | [] => pure ()
  | entry :: entries => do
    let settled : Except String Unit ← executeReloadOperation (.rollback entry)
    match settled with
    | .ok () => runRollback entries
    | .error error =>
      recordError .rollback error (some entry.component)
      runRollback entries

/-- The loop of `runCleanup`; the list is already reversed. -/
def runCleanup : List (PreparedEntry κ ν) → ReloadMethod κ ν Unit
  | [] => pure ()
  | entry :: entries => do
    let settled : Except String Unit ← executeReloadOperation (.cleanup entry)
    match settled with
    | .ok () => runCleanup entries
    | .error error =>
      recordError .cleanup error (some entry.component)
      runCleanup entries

def rollbackEntries (fields : ReloadExecutorFields κ ν) : List (PreparedEntry κ ν) :=
  if fields.primaryFailureStage = some .commit then fields.committedEntries
  else fields.preparedEntries

/-- The `try` block of `execute`. -/
def phases (components : List κ) : ReloadMethod κ ν Unit := do
  runSimplePhase .parse
  runSimplePhase .validate
  transition .preparing
  runPrepare components
  transition .prepared
  let prepared ← AsyncMethod.get
  runHealthChecks prepared.preparedEntries
  transition .committing
  runCommit prepared.preparedEntries
  transition .committed

/-- The `catch` block of `execute`. -/
def compensate (error : String) : ReloadMethod κ ν Unit := do
  AsyncMethod.modify fun fields => { fields with originalFailure := some error }
  let failed ← AsyncMethod.get
  if failed.model.state.isTerminal then pure () else fail error
  let fields ← AsyncMethod.get
  if fields.model.state = .rollingBack then do
    runRollback (rollbackEntries fields).reverse
    transition .rolledBack
  else pure ()

/-- The `finally` block of `execute`. -/
def finish : ReloadMethod κ ν Unit := do
  let fields ← AsyncMethod.get
  runCleanup fields.preparedEntries.reverse

/-- What `result()` reads. -/
def execute (components : List κ) : ReloadMethod κ ν (ReloadExecutorFields κ ν) := do
  AsyncMethod.tryFinally (AsyncMethod.tryCatch (phases components) compensate) finish
  AsyncMethod.get

/-! ## The loops, call by call -/

theorem transition_apply (next : ReloadTransactionState) (fields : ReloadExecutorFields κ ν) :
    transition next fields =
      if next ∈ fields.model.state.transitions then
        .done (.ok (), { fields with model := { fields.model with state := next } })
      else .done (.error (ReloadTransactionModel.invalidTransition fields.model.state next), fields) := by
  show (AsyncMethod.settle (fields.model.transition next) >>= fun model =>
    (AsyncMethod.modify fun fields => { fields with model := model } : ReloadMethod κ ν Unit))
      fields = _
  unfold ReloadTransactionModel.transition
  split
  · rfl
  · rfl

theorem runSimplePhase_apply (phase : SimplePhase) (fields : ReloadExecutorFields κ ν)
    (h : phase.state ∈ fields.model.state.transitions) :
    runSimplePhase phase fields = .call (.simple phase) fun settled =>
      let fields' := { fields with model := { fields.model with state := phase.state } }
      match settled with
      | .ok () => .done (.ok (), fields')
      | .error error => .done (.error error, recordErrorFields phase.stage error none fields') := by
  show (transition phase.state >>= fun _ => _ : ReloadMethod κ ν Unit) fields = _
  show (transition phase.state fields >>= _) = _
  rw [transition_apply, if_pos h]
  refine congrArg (Resumption.call _) (funext fun settled => ?_)
  cases settled with
  | ok u => rfl
  | error error => rfl

theorem runPrepare_cons (component : κ) (components : List κ) (fields : ReloadExecutorFields κ ν) :
    runPrepare (component :: components) fields = .call (.prepare component) fun settled =>
      match settled with
      | .ok prepared => runPrepare components
        { fields with preparedEntries := fields.preparedEntries ++ [⟨component, prepared⟩] }
      | .error error =>
        .done (.error error, recordErrorFields .prepare error (some component) fields) := by
  refine congrArg (Resumption.call _) (funext fun settled => ?_)
  cases settled with
  | ok prepared => rfl
  | error error => rfl

theorem runHealthChecks_cons (entry : PreparedEntry κ ν) (entries : List (PreparedEntry κ ν))
    (fields : ReloadExecutorFields κ ν) :
    runHealthChecks (entry :: entries) fields = .call (.healthCheck entry) fun settled =>
      match settled with
      | .ok () => runHealthChecks entries fields
      | .error error =>
        .done (.error error, recordErrorFields .health error (some entry.component) fields) := by
  refine congrArg (Resumption.call _) (funext fun settled => ?_)
  cases settled with
  | ok u => rfl
  | error error => rfl

theorem runCommit_cons (entry : PreparedEntry κ ν) (entries : List (PreparedEntry κ ν))
    (fields : ReloadExecutorFields κ ν) :
    runCommit (entry :: entries) fields = .call (.commit entry) fun settled =>
      match settled with
      | .ok () => runCommit entries
        { fields with committedEntries := fields.committedEntries ++ [entry] }
      | .error error =>
        .done (.error error, recordErrorFields .commit error (some entry.component) fields) := by
  refine congrArg (Resumption.call _) (funext fun settled => ?_)
  cases settled with
  | ok u => rfl
  | error error => rfl

theorem runRollback_cons (entry : PreparedEntry κ ν) (entries : List (PreparedEntry κ ν))
    (fields : ReloadExecutorFields κ ν) :
    runRollback (entry :: entries) fields = .call (.rollback entry) fun settled =>
      match settled with
      | .ok () => runRollback entries fields
      | .error error => runRollback entries
        (recordErrorFields .rollback error (some entry.component) fields) := by
  refine congrArg (Resumption.call _) (funext fun settled => ?_)
  cases settled with
  | ok u => rfl
  | error error => rfl

theorem runCleanup_cons (entry : PreparedEntry κ ν) (entries : List (PreparedEntry κ ν))
    (fields : ReloadExecutorFields κ ν) :
    runCleanup (entry :: entries) fields = .call (.cleanup entry) fun settled =>
      match settled with
      | .ok () => runCleanup entries fields
      | .error error => runCleanup entries
        (recordErrorFields .cleanup error (some entry.component) fields) := by
  refine congrArg (Resumption.call _) (funext fun settled => ?_)
  cases settled with
  | ok u => rfl
  | error error => rfl

end ReloadExecutor

end Sepigs
