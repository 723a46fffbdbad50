import Sepigs.Reload.Executor

/-!
# Compensation

`execute` against components whose calls settle as scripted, one script for each
position of the component list, with no timeout and no abort.  `execution` is the
result together with every call in order.

* `Compensates`: the executor resolves in a terminal state, committed exactly if
  nothing was rejected; it rolls back, in reverse order and once, what the failing
  stage asks for, and cleans up, in reverse order and once, whatever was prepared.
* `execute_compensates_iff`: this holds exactly if the first rejection, if there is
  one, has a message that is not blank.  With a blank one `fail` throws inside the
  `catch` block, and nothing is rolled back.
-/

namespace Sepigs

/-- A component by how each of its calls settles. -/
structure ScriptedComponent (ν : Type) where
  prepare : Except String ν
  healthCheck : Except String Unit
  commit : Except String Unit
  rollback : Except String Unit
  cleanup : Except String Unit

namespace Compensation

variable {ν : Type}

abbrev Entry (ν : Type) : Type := PreparedEntry (ScriptedComponent ν) ν

abbrev Call (ν : Type) : Type := ReloadOperation (ScriptedComponent ν) ν

abbrev Fields (ν : Type) : Type := ReloadExecutorFields (ScriptedComponent ν) ν

/-! ## Scripts -/

/-- The elements a loop that stops at the first rejection completes. -/
def completed {α β : Type} (settled : α → Except String β) : List α → List (α × β)
  | [] => []
  | a :: as =>
    match settled a with
    | .ok b => (a, b) :: completed settled as
    | .error _ => []

/-- The elements such a loop reaches. -/
def reached {α β : Type} (settled : α → Except String β) : List α → List α
  | [] => []
  | a :: as =>
    match settled a with
    | .ok _ => a :: reached settled as
    | .error _ => [a]

/-- The first rejection. -/
def rejection {α β : Type} (settled : α → Except String β) : List α → Option (α × String)
  | [] => none
  | a :: as =>
    match settled a with
    | .ok _ => rejection settled as
    | .error message => some (a, message)

/-- The script of a whole execution; a callback may be missing. -/
structure Script (ν : Type) where
  parse : Option (Except String Unit)
  validate : Option (Except String Unit)
  components : List (ScriptedComponent ν)

/-- A missing callback resolves. -/
def Script.simple (script : Script ν) : SimplePhase → Except String Unit
  | .parse => script.parse.getD (.ok ())
  | .validate => script.validate.getD (.ok ())

def entryOf (prepared : ScriptedComponent ν × ν) : Entry ν := ⟨prepared.1, prepared.2⟩

/-- What the prepare loop prepares, if it is reached. -/
def Script.entries (script : Script ν) : List (Entry ν) :=
  (completed ScriptedComponent.prepare script.components).map entryOf

def Script.simpleRejection (script : Script ν) : Option (ReloadFailureStage × String) :=
  (rejection script.simple [.parse, .validate]).map fun r => (r.1.stage, r.2)

def Script.prepareRejection (script : Script ν) : Option (ReloadFailureStage × String) :=
  (rejection ScriptedComponent.prepare script.components).map fun r => (.prepare, r.2)

def Script.healthRejection (script : Script ν) : Option (ReloadFailureStage × String) :=
  (rejection (fun e : Entry ν => e.component.healthCheck) script.entries).map fun r => (.health, r.2)

def Script.commitRejection (script : Script ν) : Option (ReloadFailureStage × String) :=
  (rejection (fun e : Entry ν => e.component.commit) script.entries).map fun r => (.commit, r.2)

/-- The first of the parse, validate, prepare, health and commit calls to reject. -/
def Script.firstRejection (script : Script ν) : Option (ReloadFailureStage × String) :=
  ((script.simpleRejection.or script.prepareRejection).or script.healthRejection).or
    script.commitRejection

/-- The components whose prepare is called and resolves. -/
def Script.prepared (script : Script ν) : List (Entry ν) :=
  if script.simpleRejection = none then script.entries else []

/-- The components whose commit is called and resolves. -/
def Script.committed (script : Script ν) : List (Entry ν) :=
  if (script.simpleRejection.or script.prepareRejection).or script.healthRejection = none then
    (completed (fun e : Entry ν => e.component.commit) script.entries).map Prod.fst
  else []

/-- What has to be rolled back. -/
def Script.toRollBack (script : Script ν) : List (Entry ν) :=
  match script.firstRejection.map Prod.fst with
  | some .prepare | some .health => script.prepared.reverse
  | some .commit => script.committed.reverse
  | _ => []

/-- A call is logged and settles as scripted. -/
def Script.answer (script : Script ν) :
    (call : Call ν) → List (Call ν) → call.Reply × List (Call ν)
  | .simple phase, calls => (script.simple phase, calls ++ [.simple phase])
  | .prepare component, calls => (component.prepare, calls ++ [.prepare component])
  | .healthCheck entry, calls => (entry.component.healthCheck, calls ++ [.healthCheck entry])
  | .commit entry, calls => (entry.component.commit, calls ++ [.commit entry])
  | .rollback entry, calls => (entry.component.rollback, calls ++ [.rollback entry])
  | .cleanup entry, calls => (entry.component.cleanup, calls ++ [.cleanup entry])

/-- `execute()`: how it settles and what it called. -/
def execution (script : Script ν) : Except String (Fields ν) × List (Call ν) :=
  let ended := (ReloadExecutor.execute script.components ReloadExecutor.fieldsNew).run
    script.answer []
  (ended.1.1, ended.2)

def rollbacks (calls : List (Call ν)) : List (Entry ν) :=
  calls.filterMap fun call => match call with
    | .rollback entry => some entry
    | _ => none

def cleanups (calls : List (Call ν)) : List (Entry ν) :=
  calls.filterMap fun call => match call with
    | .cleanup entry => some entry
    | _ => none

/-- The compensation protocol. -/
structure Compensates (script : Script ν) : Prop where
  resolves : ∃ fields, (execution script).1 = .ok fields ∧ fields.model.state.isTerminal = true
  committed_iff : ∀ fields, (execution script).1 = .ok fields →
    (fields.model.state = .committed ↔ script.firstRejection = none)
  failure : ∀ fields, (execution script).1 = .ok fields →
    fields.originalFailure = script.firstRejection.map Prod.snd
  rolledBack : rollbacks (execution script).2 = script.toRollBack
  cleanedUp : cleanups (execution script).2 = script.prepared.reverse

/-! ## Lemmas about the loops -/

section Loops

variable (script : Script ν) (fields : Fields ν) (calls : List (Call ν))

theorem run_runPrepare (components : List (ScriptedComponent ν)) :
    AsyncMethod.run script.answer (ReloadExecutor.runPrepare components) fields calls =
      let entries := (completed ScriptedComponent.prepare components).map entryOf
      let fields' := { fields with preparedEntries := fields.preparedEntries ++ entries }
      let calls' := calls ++ (reached ScriptedComponent.prepare components).map .prepare
      match rejection ScriptedComponent.prepare components with
      | none => ((.ok (), fields'), calls')
      | some (component, message) =>
        ((.error message, ReloadExecutor.recordErrorFields .prepare message (some component) fields'),
          calls') := by
  induction components generalizing fields calls with
  | nil => simp [ReloadExecutor.runPrepare, rejection, completed, reached]
  | cons component components ih =>
    unfold AsyncMethod.run at ih ⊢
    rw [ReloadExecutor.runPrepare_cons]
    cases h : component.prepare with
    | ok prepared =>
      simp [Resumption.run, Script.answer, ih, rejection, completed, reached, h, entryOf]
    | error message => simp [Resumption.run, Script.answer, rejection, completed, reached, h]

theorem run_runHealthChecks (entries : List (Entry ν)) :
    AsyncMethod.run script.answer (ReloadExecutor.runHealthChecks entries) fields calls =
      let healthCheck := fun e : Entry ν => e.component.healthCheck
      let calls' := calls ++ (reached healthCheck entries).map .healthCheck
      match rejection healthCheck entries with
      | none => ((.ok (), fields), calls')
      | some (entry, message) =>
        ((.error message, ReloadExecutor.recordErrorFields .health message (some entry.component)
          fields), calls') := by
  induction entries generalizing fields calls with
  | nil => simp [ReloadExecutor.runHealthChecks, rejection, reached]
  | cons entry entries ih =>
    unfold AsyncMethod.run at ih ⊢
    rw [ReloadExecutor.runHealthChecks_cons]
    cases h : entry.component.healthCheck with
    | ok u => simp [Resumption.run, Script.answer, ih, rejection, reached, h]
    | error message => simp [Resumption.run, Script.answer, rejection, reached, h]

theorem run_runCommit (entries : List (Entry ν)) :
    AsyncMethod.run script.answer (ReloadExecutor.runCommit entries) fields calls =
      let commit := fun e : Entry ν => e.component.commit
      let fields' := { fields with
        committedEntries := fields.committedEntries ++ (completed commit entries).map Prod.fst }
      let calls' := calls ++ (reached commit entries).map .commit
      match rejection commit entries with
      | none => ((.ok (), fields'), calls')
      | some (entry, message) =>
        ((.error message, ReloadExecutor.recordErrorFields .commit message (some entry.component)
          fields'), calls') := by
  induction entries generalizing fields calls with
  | nil => simp [ReloadExecutor.runCommit, rejection, completed, reached]
  | cons entry entries ih =>
    unfold AsyncMethod.run at ih ⊢
    rw [ReloadExecutor.runCommit_cons]
    cases h : entry.component.commit with
    | ok u => simp [Resumption.run, Script.answer, ih, rejection, completed, reached, h]
    | error message => simp [Resumption.run, Script.answer, rejection, completed, reached, h]

/-- A rejected rollback is recorded, and the loop goes on. -/
theorem run_runRollback (entries : List (Entry ν)) :
    ∃ errors, AsyncMethod.run script.answer (ReloadExecutor.runRollback entries) fields calls =
      ((.ok (), { fields with componentErrors := errors }), calls ++ entries.map .rollback) := by
  induction entries generalizing fields calls with
  | nil => exact ⟨fields.componentErrors, by simp [ReloadExecutor.runRollback]⟩
  | cons entry entries ih =>
    unfold AsyncMethod.run at ih ⊢
    rw [ReloadExecutor.runRollback_cons]
    cases hr : entry.component.rollback with
    | ok u =>
      obtain ⟨errors, h⟩ := ih fields (calls ++ [.rollback entry])
      exact ⟨errors, by simp [Resumption.run, Script.answer, hr, h]⟩
    | error message =>
      obtain ⟨errors, h⟩ := ih (ReloadExecutor.recordErrorFields .rollback message
        (some entry.component) fields) (calls ++ [.rollback entry])
      refine ⟨errors, ?_⟩
      simp only [Resumption.run, Script.answer, hr]
      exact h.trans (by simp [ReloadExecutor.recordErrorFields])

theorem run_runCleanup (entries : List (Entry ν)) :
    ∃ errors, AsyncMethod.run script.answer (ReloadExecutor.runCleanup entries) fields calls =
      ((.ok (), { fields with componentErrors := errors }), calls ++ entries.map .cleanup) := by
  induction entries generalizing fields calls with
  | nil => exact ⟨fields.componentErrors, by simp [ReloadExecutor.runCleanup]⟩
  | cons entry entries ih =>
    unfold AsyncMethod.run at ih ⊢
    rw [ReloadExecutor.runCleanup_cons]
    cases hc : entry.component.cleanup with
    | ok u =>
      obtain ⟨errors, h⟩ := ih fields (calls ++ [.cleanup entry])
      exact ⟨errors, by simp [Resumption.run, Script.answer, hc, h]⟩
    | error message =>
      obtain ⟨errors, h⟩ := ih (ReloadExecutor.recordErrorFields .cleanup message
        (some entry.component) fields) (calls ++ [.cleanup entry])
      refine ⟨errors, ?_⟩
      simp only [Resumption.run, Script.answer, hc]
      exact h.trans (by simp [ReloadExecutor.recordErrorFields])

theorem run_transition (next : ReloadTransactionState) :
    AsyncMethod.run script.answer (ReloadExecutor.transition next) fields calls =
      if next ∈ fields.model.state.transitions then
        ((.ok (), { fields with model := { fields.model with state := next } }), calls)
      else
        ((.error (ReloadTransactionModel.invalidTransition fields.model.state next), fields),
          calls) := by
  unfold AsyncMethod.run
  rw [ReloadExecutor.transition_apply]
  split
  · rfl
  · rfl

theorem run_runSimplePhase (phase : SimplePhase)
    (h : phase.state ∈ fields.model.state.transitions) :
    AsyncMethod.run script.answer (ReloadExecutor.runSimplePhase phase) fields calls =
      let fields' := { fields with model := { fields.model with state := phase.state } }
      match script.simple phase with
      | .ok () => ((.ok (), fields'), calls ++ [.simple phase])
      | .error error =>
        ((.error error, ReloadExecutor.recordErrorFields phase.stage error none fields'),
          calls ++ [.simple phase]) := by
  unfold AsyncMethod.run
  rw [ReloadExecutor.runSimplePhase_apply phase fields h]
  simp only [Resumption.run, Script.answer]
  cases script.simple phase with
  | ok u => rfl
  | error error => rfl

end Loops

/-! ## The phases -/

/-- The state of the transaction while a stage runs. -/
def stateOf : ReloadFailureStage → ReloadTransactionState
  | .parse => .parsing
  | .validate => .validating
  | .prepare => .preparing
  | .health => .prepared
  | .commit => .committing
  | .rollback | .cleanup => .rollingBack

/-- How the `try` block ends. -/
structure PhasesEnd (script : Script ν) (ended : (Except String Unit × Fields ν) × List (Call ν)) :
    Prop where
  prepared : ended.1.2.preparedEntries = script.prepared
  committed : ended.1.2.committedEntries = script.committed
  noRollback : rollbacks ended.2 = []
  noCleanup : cleanups ended.2 = []
  noFailure : ended.1.2.originalFailure = none
  success : script.firstRejection = none →
    ended.1.1 = .ok () ∧ ended.1.2.model.state = .committed
  failure : ∀ stage message, script.firstRejection = some (stage, message) →
    ended.1.1 = .error message ∧ ended.1.2.primaryFailureStage = some stage ∧
      ended.1.2.model.state = stateOf stage

/-- The rejections of the two simple phases. -/
theorem simpleRejection_eq (script : Script ν) : script.simpleRejection =
    match script.simple .parse, script.simple .validate with
    | .error message, _ => some (.parse, message)
    | .ok (), .error message => some (.validate, message)
    | .ok (), .ok () => none := by
  unfold Script.simpleRejection rejection
  cases script.simple .parse with
  | error message => rfl
  | ok u =>
    simp only [rejection]
    cases script.simple .validate with
    | error message => rfl
    | ok u => rfl

theorem run_phases (script : Script ν) :
    PhasesEnd script (AsyncMethod.run script.answer (ReloadExecutor.phases script.components)
      ReloadExecutor.fieldsNew []) := by
  have hsimple := simpleRejection_eq script
  unfold ReloadExecutor.phases
  rw [AsyncMethod.run_bind, run_runSimplePhase _ _ _ _ (List.mem_singleton.mpr rfl)]
  cases hparse : script.simple .parse with
  | error message =>
    rw [hparse] at hsimple
    constructor <;> simp [hsimple, Script.prepared, Script.committed, Script.firstRejection,
      rollbacks, cleanups, ReloadExecutor.recordErrorFields, ReloadExecutor.fieldsNew, stateOf,
      SimplePhase.stage, SimplePhase.state]
  | ok u =>
    simp only [AsyncMethod.run_bind]
    rw [run_runSimplePhase _ _ _ _ (List.mem_cons_self)]
    cases hvalidate : script.simple .validate with
    | error message =>
      rw [hparse, hvalidate] at hsimple
      constructor <;> simp [hsimple, Script.prepared, Script.committed, Script.firstRejection,
        rollbacks, cleanups, ReloadExecutor.recordErrorFields, ReloadExecutor.fieldsNew, stateOf,
        SimplePhase.stage, SimplePhase.state]
    | ok u =>
      rw [hparse, hvalidate] at hsimple
      simp only [run_transition, run_runPrepare, SimplePhase.state]
      cases hprepare : rejection ScriptedComponent.prepare script.components with
      | some r =>
        obtain ⟨component, message⟩ := r
        constructor <;> simp [hsimple, hprepare, Script.prepared, Script.committed, Script.entries,
          Script.firstRejection, Script.prepareRejection, rollbacks, cleanups,
          ReloadExecutor.recordErrorFields, ReloadExecutor.fieldsNew, stateOf,
          ReloadTransactionState.transitions, List.filterMap_map]
      | none =>
        simp only [ReloadTransactionState.transitions, List.mem_cons, true_or, if_true,
          AsyncMethod.run_get, run_runHealthChecks]
        have hentries : ReloadExecutor.fieldsNew.preparedEntries ++
            (completed ScriptedComponent.prepare script.components).map entryOf = script.entries :=
          rfl
        simp only [hentries]
        cases hhealth : rejection (fun e : Entry ν => e.component.healthCheck) script.entries with
        | some r =>
          obtain ⟨entry, message⟩ := r
          constructor <;> simp [hsimple, hprepare, hhealth, Script.prepared, Script.committed,
            Script.firstRejection, Script.prepareRejection, Script.healthRejection, rollbacks,
            cleanups, ReloadExecutor.recordErrorFields, ReloadExecutor.fieldsNew, stateOf,
            List.filterMap_map]
        | none =>
          simp only [run_runCommit]
          cases hcommit : rejection (fun e : Entry ν => e.component.commit) script.entries with
          | some r =>
            obtain ⟨entry, message⟩ := r
            constructor <;> simp [hsimple, hprepare, hhealth, hcommit, Script.prepared,
              Script.committed, Script.firstRejection, Script.prepareRejection,
              Script.healthRejection, Script.commitRejection, rollbacks, cleanups,
              ReloadExecutor.recordErrorFields, ReloadExecutor.fieldsNew, stateOf,
              List.filterMap_map]
          | none =>
            constructor <;> simp [hsimple, hprepare, hhealth, hcommit, Script.prepared,
              Script.committed, Script.firstRejection, Script.prepareRejection,
              Script.healthRejection, Script.commitRejection, rollbacks, cleanups,
              ReloadExecutor.fieldsNew, List.filterMap_map]

/-! ## The catch and the finally block -/

section Recovery

variable (script : Script ν) (fields : Fields ν) (calls : List (Call ν))

/-- A blank reason makes `fail` throw: the `catch` block ends there. -/
theorem run_compensate_blank {error : String} (hblank : JsString.isBlank error = true)
    (hstate : fields.model.state.isTerminal = false) :
    AsyncMethod.run script.answer (ReloadExecutor.compensate error) fields calls =
      ((.error "reload failure reason must not be empty",
        { fields with originalFailure := some error }), calls) := by
  simp [ReloadExecutor.compensate, ReloadExecutor.fail, AsyncMethod.run_bind, hstate,
    ReloadTransactionModel.fail, hblank]

/-- Nothing has been prepared yet. -/
theorem run_compensate_failed {error : String} (hblank : JsString.isBlank error = false)
    (hstate : fields.model.state = .parsing ∨ fields.model.state = .validating) :
    AsyncMethod.run script.answer (ReloadExecutor.compensate error) fields calls =
      ((.ok (), { fields with
        originalFailure := some error
        model := ⟨.failed, some error⟩ }), calls) := by
  rcases hstate with hstate | hstate <;>
    simp [ReloadExecutor.compensate, ReloadExecutor.fail, AsyncMethod.run_bind, hstate,
      ReloadTransactionModel.fail, hblank, ReloadTransactionState.isTerminal]

theorem run_compensate_rolledBack {error : String} (hblank : JsString.isBlank error = false)
    (hstate : fields.model.state = .preparing ∨ fields.model.state = .prepared ∨
      fields.model.state = .committing) :
    ∃ errors, AsyncMethod.run script.answer (ReloadExecutor.compensate error) fields calls =
      ((.ok (), { fields with
        originalFailure := some error
        componentErrors := errors
        model := ⟨.rolledBack, some error⟩ }),
        calls ++ (ReloadExecutor.rollbackEntries fields).reverse.map .rollback) := by
  have hterminal : fields.model.state.isTerminal = false := by
    rcases hstate with h | h | h <;> rw [h] <;> rfl
  obtain ⟨errors, h⟩ := run_runRollback script { fields with
    originalFailure := some error
    model := ⟨.rollingBack, some error⟩ } calls (ReloadExecutor.rollbackEntries { fields with
    originalFailure := some error
    model := ⟨.rollingBack, some error⟩ }).reverse
  refine ⟨errors, ?_⟩
  simp only [ReloadExecutor.compensate, ReloadExecutor.fail, AsyncMethod.run_bind,
    AsyncMethod.run_modify, AsyncMethod.run_get, AsyncMethod.run_settle, hterminal,
    ReloadTransactionModel.fail, hblank, hstate, if_true, if_false, Bool.false_eq_true, h,
    run_transition, ReloadTransactionState.transitions, List.mem_cons, true_or]
  rfl

/-- Cleaning up never throws. -/
theorem run_finish (ended : Except String Unit) :
    ∃ errors, AsyncMethod.run script.answer
        (ReloadExecutor.finish >>= fun _ => AsyncMethod.settle ended) fields calls =
      ((ended, { fields with componentErrors := errors }),
        calls ++ fields.preparedEntries.reverse.map .cleanup) := by
  obtain ⟨errors, h⟩ := run_runCleanup script fields calls fields.preparedEntries.reverse
  refine ⟨errors, ?_⟩
  simp only [ReloadExecutor.finish, AsyncMethod.run_bind, AsyncMethod.run_get, h,
    AsyncMethod.run_settle]

/-- `execute()` after its `try` and `catch` blocks. -/
theorem execution_eq (script : Script ν) {recovered : Except String Unit} {fields : Fields ν}
    {calls : List (Call ν)}
    (h : AsyncMethod.run script.answer (AsyncMethod.tryCatch
        (ReloadExecutor.phases script.components) ReloadExecutor.compensate)
      ReloadExecutor.fieldsNew [] = ((recovered, fields), calls)) :
    ∃ errors, execution script =
      (recovered.map fun _ => { fields with componentErrors := errors },
        calls ++ fields.preparedEntries.reverse.map .cleanup) := by
  obtain ⟨errors, hfinish⟩ := run_finish script fields calls recovered
  refine ⟨errors, ?_⟩
  have hrun : AsyncMethod.run script.answer (ReloadExecutor.execute script.components)
      ReloadExecutor.fieldsNew [] =
      ((recovered.map fun _ => { fields with componentErrors := errors },
        { fields with componentErrors := errors }),
        calls ++ fields.preparedEntries.reverse.map .cleanup) := by
    rw [ReloadExecutor.execute, AsyncMethod.run_bind, AsyncMethod.run_tryFinally, h, hfinish]
    cases recovered with
    | ok u => rfl
    | error e => rfl
  show (_, _) = _
  unfold AsyncMethod.run at hrun
  rw [hrun]

end Recovery

theorem rollbacks_append (calls calls' : List (Call ν)) :
    rollbacks (calls ++ calls') = rollbacks calls ++ rollbacks calls' :=
  List.filterMap_append

theorem cleanups_append (calls calls' : List (Call ν)) :
    cleanups (calls ++ calls') = cleanups calls ++ cleanups calls' :=
  List.filterMap_append

@[simp] theorem rollbacks_map_rollback (entries : List (Entry ν)) :
    rollbacks (entries.map .rollback) = entries := by
  simp [rollbacks, List.filterMap_map]

@[simp] theorem rollbacks_map_cleanup (entries : List (Entry ν)) :
    rollbacks (entries.map .cleanup) = [] := by
  simp [rollbacks, List.filterMap_map]

@[simp] theorem cleanups_map_cleanup (entries : List (Entry ν)) :
    cleanups (entries.map .cleanup) = entries := by
  simp [cleanups, List.filterMap_map]

@[simp] theorem cleanups_map_rollback (entries : List (Entry ν)) :
    cleanups (entries.map .rollback) = [] := by
  simp [cleanups, List.filterMap_map]

/-- A rejection stops the executor before, or after it has something to roll back. -/
theorem firstRejection_stage (script : Script ν) {stage : ReloadFailureStage} {message : String}
    (h : script.firstRejection = some (stage, message)) :
    (stage = .parse ∨ stage = .validate) ∨ stage = .prepare ∨ stage = .health ∨ stage = .commit := by
  unfold Script.firstRejection at h
  rw [Option.or_eq_some_iff, Option.or_eq_some_iff, Option.or_eq_some_iff] at h
  rcases h with ((h | ⟨-, h⟩) | ⟨-, h⟩) | ⟨-, h⟩
  · rw [simpleRejection_eq] at h
    split at h
    · cases h; exact .inl (.inl rfl)
    · cases h; exact .inl (.inr rfl)
    · cases h
  · obtain ⟨r, -, hr⟩ := Option.map_eq_some_iff.mp h
    cases hr; exact .inr (.inl rfl)
  · obtain ⟨r, -, hr⟩ := Option.map_eq_some_iff.mp h
    cases hr; exact .inr (.inr (.inl rfl))
  · obtain ⟨r, -, hr⟩ := Option.map_eq_some_iff.mp h
    cases hr; exact .inr (.inr (.inr rfl))

/-- How the `catch` block leaves the executor. -/
structure Recovered (script : Script ν) (fields : Fields ν) (calls : List (Call ν)) : Prop where
  prepared : fields.preparedEntries = script.prepared
  terminal : fields.model.state.isTerminal = true
  committed_iff : fields.model.state = .committed ↔ script.firstRejection = none
  failure : fields.originalFailure = script.firstRejection.map Prod.snd
  rolledBack : rollbacks calls = script.toRollBack
  noCleanup : cleanups calls = []

theorem run_tryCatch (script : Script ν)
    (hblank : ∀ stage message, script.firstRejection = some (stage, message) →
      JsString.isBlank message = false) :
    ∃ fields calls, AsyncMethod.run script.answer (AsyncMethod.tryCatch
        (ReloadExecutor.phases script.components) ReloadExecutor.compensate)
      ReloadExecutor.fieldsNew [] = ((.ok (), fields), calls) ∧ Recovered script fields calls := by
  have hphases := run_phases script
  rw [AsyncMethod.run_tryCatch]
  generalize AsyncMethod.run script.answer (ReloadExecutor.phases script.components)
    ReloadExecutor.fieldsNew [] = last at hphases
  obtain ⟨⟨ended, fields⟩, calls⟩ := last
  obtain ⟨hprepared, hcommitted, hrollback, hcleanup, hfailure, hsuccess, hfailed⟩ := hphases
  dsimp only at hprepared hcommitted hrollback hcleanup hfailure hsuccess hfailed
  cases hfirst : script.firstRejection with
  | none =>
    obtain ⟨rfl, hstate⟩ := hsuccess hfirst
    refine ⟨fields, calls, rfl, hprepared, by rw [hstate]; rfl, by simp [hstate, hfirst],
      by rw [hfirst]; exact hfailure, ?_, hcleanup⟩
    rw [hrollback, Script.toRollBack, hfirst]
    rfl
  | some r =>
    obtain ⟨stage, message⟩ := r
    obtain ⟨rfl, hstage, hstate⟩ := hfailed stage message hfirst
    have hmessage := hblank stage message hfirst
    dsimp only
    rcases firstRejection_stage script hfirst with hs | hs
    · rw [run_compensate_failed script fields calls hmessage
        (by rw [hstate]; rcases hs with rfl | rfl <;> simp [stateOf])]
      refine ⟨_, calls, rfl, hprepared, rfl, by simp [hfirst], by rw [hfirst]; rfl, ?_, hcleanup⟩
      rw [hrollback, Script.toRollBack, hfirst]
      rcases hs with rfl | rfl <;> rfl
    · obtain ⟨errors, h⟩ := run_compensate_rolledBack script fields calls hmessage
        (by rw [hstate]; rcases hs with rfl | rfl | rfl <;> simp [stateOf])
      rw [h]
      refine ⟨_, _, rfl, hprepared, rfl, by simp [hfirst], by rw [hfirst]; rfl, ?_, ?_⟩
      · rw [rollbacks_append, hrollback, rollbacks_map_rollback, Script.toRollBack, hfirst]
        unfold ReloadExecutor.rollbackEntries
        rw [hstage, hprepared, hcommitted]
        rcases hs with rfl | rfl | rfl <;> rfl
      · rw [cleanups_append, hcleanup, cleanups_map_rollback]
        rfl

/-! ## Top theorems -/

theorem compensates_of_not_blank (script : Script ν)
    (hblank : ∀ stage message, script.firstRejection = some (stage, message) →
      JsString.isBlank message = false) : Compensates script := by
  obtain ⟨fields, calls, hrun, h⟩ := run_tryCatch script hblank
  obtain ⟨errors, hexec⟩ := execution_eq script hrun
  refine ⟨?_, ?_, ?_, ?_, ?_⟩
  · rw [hexec]
    exact ⟨_, rfl, h.terminal⟩
  · rw [hexec]
    rintro _ ⟨⟩
    exact h.committed_iff
  · rw [hexec]
    rintro _ ⟨⟩
    exact h.failure
  · rw [hexec]
    show rollbacks (calls ++ _) = _
    rw [rollbacks_append, h.rolledBack, rollbacks_map_cleanup, List.append_nil]
  · rw [hexec]
    show cleanups (calls ++ _) = _
    rw [cleanups_append, h.noCleanup, cleanups_map_cleanup, h.prepared, List.nil_append]

/-- With a blank first rejection `execute()` rejects with `fail`'s own error. -/
theorem execution_blank (script : Script ν) {stage : ReloadFailureStage} {message : String}
    (h : script.firstRejection = some (stage, message)) (hblank : JsString.isBlank message = true) :
    (execution script).1 = .error "reload failure reason must not be empty" := by
  obtain ⟨hended, -, hstate⟩ := (run_phases script).failure stage message h
  have hterminal : (stateOf stage).isTerminal = false := by
    rcases firstRejection_stage script h with (rfl | rfl) | rfl | rfl | rfl <;> rfl
  have hcatch := AsyncMethod.run_tryCatch script.answer ReloadExecutor.fieldsNew []
    (ReloadExecutor.phases script.components) ReloadExecutor.compensate
  generalize AsyncMethod.run script.answer (ReloadExecutor.phases script.components)
    ReloadExecutor.fieldsNew [] = last at hended hstate hcatch
  obtain ⟨⟨ended, fields⟩, calls⟩ := last
  dsimp only at hended hstate hcatch
  subst hended
  dsimp only at hcatch
  rw [run_compensate_blank script fields calls hblank (by rw [hstate]; exact hterminal)] at hcatch
  obtain ⟨errors, hexec⟩ := execution_eq script hcatch
  rw [hexec]
  rfl

/-- The executor compensates exactly if its first failure, when there is one, has
a message that is not blank. -/
theorem execute_compensates_iff (script : Script ν) :
    Compensates script ↔ ∀ stage message, script.firstRejection = some (stage, message) →
      JsString.isBlank message = false := by
  constructor
  · intro h stage message hfirst
    by_contra hblank
    rw [Bool.not_eq_false] at hblank
    obtain ⟨fields, hok, -⟩ := h.resolves
    rw [execution_blank script hfirst hblank] at hok
    cases hok
  · exact compensates_of_not_blank script

/-- The second of two components rejects its commit with an empty message. -/
def emptyCommitMessage : Script Nat where
  parse := none
  validate := none
  components := [⟨.ok 0, .ok (), .ok (), .ok (), .ok ()⟩, ⟨.ok 1, .ok (), .error "", .ok (), .ok ()⟩]

/-- The first component stays committed and `execute()` rejects. -/
theorem emptyCommitMessage_not_compensated :
    emptyCommitMessage.committed.map PreparedEntry.prepared = [0] ∧
    rollbacks (execution emptyCommitMessage).2 = [] ∧
    (execution emptyCommitMessage).1 = .error "reload failure reason must not be empty" ∧
    ¬ Compensates emptyCommitMessage := by
  refine ⟨rfl, rfl, rfl, fun h => ?_⟩
  obtain ⟨fields, hok, -⟩ := h.resolves
  cases hok

end Compensation

end Sepigs
