import Sepigs.Reload.Executor

/-!
# A proof rule for the executor

`ExecutorProof` names what has to hold of the world in each part of an execution
and what each awaited operation has to do to it:

* `preparing es`: `es` are prepared, nothing is committed;
* `committing es done`: all of `es` are prepared, the commits of `done` resolved;
* `recovering es rest`: `rest` is still to be rolled back, its last entry first;
* `cleaning ok es rest`: `rest` is still to be cleaned up, its last entry first.

`execute_wp`: then an execution ends with nothing left to clean up, and `ok` says
whether it is committed, however the others interfere.  The one thing to watch
is a blank message: then `fail` throws, and the execution goes on to clean up
without a rollback.
-/

namespace Sepigs

variable {κ ν σ : Type}

/-- The operations before the first commit. -/
def ReloadOperation.isEarly {κ ν : Type} : ReloadOperation κ ν → Bool
  | simple _ | prepare _ | healthCheck _ => true
  | commit _ | rollback _ | cleanup _ => false

def ReloadOperation.isCleanup {κ ν : Type} : ReloadOperation κ ν → Bool
  | cleanup _ => true
  | simple _ | prepare _ | healthCheck _ | commit _ | rollback _ => false

/-- The world's assertions and the obligations of the operations.  The `wait` fields
are about the others moving (`R`) while an operation is awaited. -/
structure ExecutorProof (R : ReloadOperation κ ν → σ → σ → Prop)
    (E : (operation : ReloadOperation κ ν) → σ → operation.Reply → σ → Prop)
    (I : ReloadOperation κ ν → σ → Prop) (components : List κ) where
  preparing : List (PreparedEntry κ ν) → σ → Prop
  committing : List (PreparedEntry κ ν) → List (PreparedEntry κ ν) → σ → Prop
  recovering : List (PreparedEntry κ ν) → List (PreparedEntry κ ν) → σ → Prop
  cleaning : Bool → List (PreparedEntry κ ν) → List (PreparedEntry κ ν) → σ → Prop
  preparing_wait : ∀ es operation s s', operation.isEarly = true → R operation s s' →
    preparing es s → I operation s' ∧ preparing es s'
  committing_wait : ∀ es done entry rest s s', es = done ++ entry :: rest →
    R (.commit entry) s s' → committing es done s →
    I (.commit entry) s' ∧ committing es done s'
  recovering_wait : ∀ es rest entry s s', R (.rollback entry) s s' →
    recovering es (rest ++ [entry]) s → I (.rollback entry) s' ∧ recovering es (rest ++ [entry]) s'
  cleaning_wait : ∀ ok es rest entry s s', R (.cleanup entry) s s' → cleaning ok es rest s →
    I (.cleanup entry) s' ∧ cleaning ok es rest s'
  simple : ∀ phase s r s', preparing [] s → E (.simple phase) s r s' → preparing [] s'
  prepare_ok : ∀ es component rest s prepared s',
    es.map PreparedEntry.component ++ component :: rest = components → preparing es s →
    E (.prepare component) s (.ok prepared) s' → preparing (es ++ [⟨component, prepared⟩]) s'
  prepare_error : ∀ es component rest s message s',
    es.map PreparedEntry.component ++ component :: rest = components → preparing es s →
    E (.prepare component) s (.error message) s' → preparing es s'
  healthCheck : ∀ es entry s r s', entry ∈ es → preparing es s → E (.healthCheck entry) s r s' →
    preparing es s'
  prepared : ∀ es s, es.map PreparedEntry.component = components → preparing es s →
    committing es [] s
  commit_ok : ∀ es done entry rest s s', es = done ++ entry :: rest → committing es done s →
    E (.commit entry) s (.ok ()) s' → committing es (done ++ [entry]) s'
  commit_error : ∀ es done entry rest s message s', es = done ++ entry :: rest →
    committing es done s → E (.commit entry) s (.error message) s' →
    recovering es done s' ∧ (JsString.isBlank message = true → cleaning false es es s')
  committed : ∀ es s, committing es es s → cleaning true es es s
  abandoned : ∀ es s, preparing es s → recovering es es s ∧ cleaning false es es s
  rollback : ∀ es rest entry s r s', recovering es (rest ++ [entry]) s →
    E (.rollback entry) s r s' → recovering es rest s'
  recovered : ∀ es s, recovering es [] s → cleaning false es es s
  cleanup : ∀ ok es rest entry s r s', cleaning ok es (rest ++ [entry]) s →
    E (.cleanup entry) s r s' → cleaning ok es rest s'

namespace ExecutorProof

open ReloadExecutor

variable {R : ReloadOperation κ ν → σ → σ → Prop}
  {E : (operation : ReloadOperation κ ν) → σ → operation.Reply → σ → Prop}
  {I : ReloadOperation κ ν → σ → Prop} {components : List κ} (proof : ExecutorProof R E I components)

/-- How the `try` block ends. -/
def PhasesEnd (ended : Except String Unit) (fields : ReloadExecutorFields κ ν) (s : σ) : Prop :=
  match ended with
  | .ok () => fields.model.state = .committed ∧
    proof.cleaning true fields.preparedEntries fields.preparedEntries s
  | .error message =>
    (fields.model.state = .parsing ∨ fields.model.state = .validating ∨
        fields.model.state = .preparing ∨ fields.model.state = .prepared) ∧
      fields.primaryFailureStage ≠ some .commit ∧ proof.preparing fields.preparedEntries s ∨
    fields.model.state = .committing ∧ fields.primaryFailureStage = some .commit ∧
      proof.recovering fields.preparedEntries fields.committedEntries s ∧
      (JsString.isBlank message = true →
        proof.cleaning false fields.preparedEntries fields.preparedEntries s)

/-- How the `catch` block ends. -/
def Caught (ended : Except String Unit) (fields : ReloadExecutorFields κ ν) (s : σ) : Prop :=
  match ended with
  | .ok () => proof.cleaning (fields.model.state = .committed) fields.preparedEntries
    fields.preparedEntries s
  | .error _ => proof.cleaning false fields.preparedEntries fields.preparedEntries s

/-! ## The loops -/

section Loops

variable {fields : ReloadExecutorFields κ ν} {s : σ}

/-- Fields with which the phases before commit may fail. -/
def Early (fields : ReloadExecutorFields κ ν) : Prop :=
  (fields.model.state = .parsing ∨ fields.model.state = .validating ∨
    fields.model.state = .preparing ∨ fields.model.state = .prepared) ∧
  fields.primaryFailureStage = none

theorem phasesEnd_early {stage : ReloadFailureStage} {message : String} {component : Option κ}
    (hstage : stage = .parse ∨ stage = .validate ∨ stage = .prepare ∨ stage = .health)
    (hfields : Early fields) (h : proof.preparing fields.preparedEntries s) :
    proof.PhasesEnd (.error message) (recordErrorFields stage message component fields) s := by
  obtain ⟨hstate, hnone⟩ := hfields
  refine .inl ⟨hstate, ?_, h⟩
  unfold recordErrorFields
  rcases hstage with rfl | rfl | rfl | rfl <;> simp [hnone]

theorem runPrepare_wp (rest : List κ) (hfields : Early fields)
    (hcomponents : fields.preparedEntries.map PreparedEntry.component ++ rest = components)
    (h : proof.preparing fields.preparedEntries s) :
    AsyncMethod.wp R E I (runPrepare rest) (fun ended fields' s' =>
      match ended with
      | .ok () => ∃ es, fields' = { fields with preparedEntries := es } ∧
        es.map PreparedEntry.component = components ∧ proof.preparing es s'
      | .error message => proof.PhasesEnd (.error message) fields' s') fields s := by
  induction rest generalizing fields s with
  | nil =>
    refine ⟨fields.preparedEntries, rfl, ?_, h⟩
    rw [← hcomponents, List.append_nil]
  | cons component rest ih =>
    unfold AsyncMethod.wp
    rw [runPrepare_cons]
    intro s' hr
    obtain ⟨hi, h'⟩ := proof.preparing_wait _ _ s s' rfl hr h
    refine ⟨hi, fun settled s'' he => ?_⟩
    cases settled with
    | ok prepared =>
      exact @ih { fields with
          preparedEntries := fields.preparedEntries ++ [⟨component, prepared⟩] } s'' hfields
        (by simpa using hcomponents)
        (proof.prepare_ok _ component rest s' prepared s'' hcomponents h' he)
    | error message =>
      have h'' := proof.prepare_error _ component rest s' message s'' hcomponents h' he
      exact proof.phasesEnd_early (.inr (.inr (.inl rfl))) hfields h''

theorem runHealthChecks_wp (rest : List (PreparedEntry κ ν)) (hfields : Early fields)
    (hrest : ∀ entry ∈ rest, entry ∈ fields.preparedEntries)
    (h : proof.preparing fields.preparedEntries s) :
    AsyncMethod.wp R E I (runHealthChecks rest) (fun ended fields' s' =>
      match ended with
      | .ok () => fields' = fields ∧ proof.preparing fields.preparedEntries s'
      | .error message => proof.PhasesEnd (.error message) fields' s') fields s := by
  induction rest generalizing s with
  | nil => exact ⟨rfl, h⟩
  | cons entry rest ih =>
    unfold AsyncMethod.wp
    rw [runHealthChecks_cons]
    intro s' hr
    obtain ⟨hi, h'⟩ := proof.preparing_wait _ _ s s' rfl hr h
    refine ⟨hi, fun settled s'' he => ?_⟩
    have h'' := proof.healthCheck _ entry s' settled s'' (hrest entry List.mem_cons_self) h' he
    cases settled with
    | ok u => exact ih (fun e hmem => hrest e (List.mem_cons_of_mem _ hmem)) h''
    | error message =>
      exact proof.phasesEnd_early (.inr (.inr (.inr rfl))) hfields h''

theorem runCommit_wp (rest : List (PreparedEntry κ ν)) (hstate : fields.model.state = .committing)
    (hnone : fields.primaryFailureStage = none)
    (hsplit : fields.preparedEntries = fields.committedEntries ++ rest)
    (h : proof.committing fields.preparedEntries fields.committedEntries s) :
    AsyncMethod.wp R E I (runCommit rest) (fun ended fields' s' =>
      match ended with
      | .ok () => fields' = { fields with committedEntries := fields.preparedEntries } ∧
        proof.cleaning true fields.preparedEntries fields.preparedEntries s'
      | .error message => proof.PhasesEnd (.error message) fields' s') fields s := by
  induction rest generalizing fields s with
  | nil =>
    rw [List.append_nil] at hsplit
    rw [← hsplit] at h
    exact ⟨congrArg (fun entries => { fields with committedEntries := entries }) hsplit.symm,
      proof.committed _ _ h⟩
  | cons entry rest ih =>
    unfold AsyncMethod.wp
    rw [runCommit_cons]
    intro s' hr
    obtain ⟨hi, h'⟩ := proof.committing_wait _ _ entry rest s s' hsplit hr h
    refine ⟨hi, fun settled s'' he => ?_⟩
    cases settled with
    | ok u =>
      exact @ih { fields with committedEntries := fields.committedEntries ++ [entry] } s'' hstate
        hnone (by simpa using hsplit) (proof.commit_ok _ _ entry rest s' s'' hsplit h' he)
    | error message =>
      obtain ⟨hback, hblank⟩ := proof.commit_error _ _ entry rest s' message s'' hsplit h' he
      refine .inr ⟨hstate, ?_, hback, hblank⟩
      simp [recordErrorFields, hnone]

theorem runRollback_wp (es rest : List (PreparedEntry κ ν)) (h : proof.recovering es rest s) :
    AsyncMethod.wp R E I (runRollback rest.reverse) (fun ended fields' s' =>
      (∃ errors, ended = .ok () ∧ fields' = { fields with componentErrors := errors }) ∧
      proof.recovering es [] s') fields s := by
  induction rest using List.reverseRecOn generalizing fields s with
  | nil => exact ⟨⟨fields.componentErrors, rfl, rfl⟩, h⟩
  | append_singleton rest entry ih =>
    rw [List.reverse_append, List.reverse_singleton, List.singleton_append]
    unfold AsyncMethod.wp
    rw [runRollback_cons]
    intro s' hr
    obtain ⟨hi, h'⟩ := proof.recovering_wait _ rest entry s s' hr h
    refine ⟨hi, fun settled s'' he => ?_⟩
    have h'' := proof.rollback es rest entry s' settled s'' h' he
    cases settled with
    | ok u => exact ih h''
    | error message =>
      exact @ih (recordErrorFields .rollback message (some entry.component) fields) s'' h''

theorem runCleanup_wp (ok : Bool) (es rest : List (PreparedEntry κ ν))
    (h : proof.cleaning ok es rest s) :
    AsyncMethod.wp R E I (runCleanup rest.reverse) (fun ended fields' s' =>
      (∃ errors, ended = .ok () ∧ fields' = { fields with componentErrors := errors }) ∧
      proof.cleaning ok es [] s') fields s := by
  induction rest using List.reverseRecOn generalizing fields s with
  | nil => exact ⟨⟨fields.componentErrors, rfl, rfl⟩, h⟩
  | append_singleton rest entry ih =>
    rw [List.reverse_append, List.reverse_singleton, List.singleton_append]
    unfold AsyncMethod.wp
    rw [runCleanup_cons]
    intro s' hr
    obtain ⟨hi, h'⟩ := proof.cleaning_wait ok es _ entry s s' hr h
    refine ⟨hi, fun settled s'' he => ?_⟩
    have h'' := proof.cleanup ok es rest entry s' settled s'' h' he
    cases settled with
    | ok u => exact ih h''
    | error message =>
      exact @ih (recordErrorFields .cleanup message (some entry.component) fields) s'' h''

/-- Entering a phase. -/
def entering (next : ReloadTransactionState) (fields : ReloadExecutorFields κ ν) :
    ReloadExecutorFields κ ν :=
  { fields with model := { fields.model with state := next } }

theorem transition_done {next : ReloadTransactionState}
    (h : next ∈ fields.model.state.transitions) :
    transition next fields = .done (.ok (), entering next fields) := by
  rw [transition_apply, if_pos h]
  rfl

theorem transition_bind {α : Type} {next : ReloadTransactionState}
    (h : next ∈ fields.model.state.transitions) (f : Unit → ReloadMethod κ ν α) :
    (transition next >>= f) fields = f () (entering next fields) := by
  exact AsyncMethod.bind_of_ok (transition_done h)

end Loops

/-! ## The three blocks -/

theorem runSimplePhase_wp (phase : SimplePhase) {fields : ReloadExecutorFields κ ν} {s : σ}
    (hnext : phase.state ∈ fields.model.state.transitions) (hempty : fields.preparedEntries = [])
    (hnone : fields.primaryFailureStage = none) (h : proof.preparing [] s) :
    AsyncMethod.wp R E I (runSimplePhase phase) (fun ended fields' s' =>
      match ended with
      | .ok () => fields' = entering phase.state fields ∧ proof.preparing [] s'
      | .error message => proof.PhasesEnd (.error message) fields' s') fields s := by
  unfold AsyncMethod.wp
  rw [runSimplePhase_apply phase fields hnext]
  intro s' hr
  obtain ⟨hi, h'⟩ := proof.preparing_wait _ _ s s' rfl hr h
  refine ⟨hi, fun settled s'' he => ?_⟩
  have h'' := proof.simple phase s' settled s'' h' he
  cases settled with
  | ok u => exact ⟨rfl, h''⟩
  | error message =>
    refine proof.phasesEnd_early ?_ ⟨?_, hnone⟩ ?_
    · cases phase <;> simp [SimplePhase.stage]
    · cases phase <;> simp [SimplePhase.state]
    · rw [hempty]; exact h''

theorem phases_wp {s : σ} (h : proof.preparing [] s) :
    AsyncMethod.wp R E I (phases components) proof.PhasesEnd fieldsNew s := by
  unfold phases
  refine AsyncMethod.wp_bind (AsyncMethod.wp_mono ?_
    (proof.runSimplePhase_wp .parse (List.mem_singleton.mpr rfl) rfl rfl h))
  rintro (message | _) fields s h
  · exact h
  obtain ⟨rfl, h⟩ := h
  refine AsyncMethod.wp_bind (AsyncMethod.wp_mono ?_
    (proof.runSimplePhase_wp .validate List.mem_cons_self rfl rfl h))
  rintro (message | _) fields s h
  · exact h
  obtain ⟨rfl, h⟩ := h
  unfold AsyncMethod.wp
  rw [transition_bind List.mem_cons_self]
  refine AsyncMethod.wp_bind (AsyncMethod.wp_mono ?_
    (proof.runPrepare_wp components ⟨.inr (.inr (.inl rfl)), rfl⟩ rfl h))
  rintro (message | _) fields s h
  · exact h
  obtain ⟨es, rfl, hcomponents, h⟩ := h
  unfold AsyncMethod.wp
  rw [transition_bind List.mem_cons_self, AsyncMethod.get_bind]
  refine AsyncMethod.wp_bind (AsyncMethod.wp_mono ?_
    (proof.runHealthChecks_wp es ⟨.inr (.inr (.inr rfl)), rfl⟩ (fun _ hmem => hmem) h))
  rintro (message | _) fields s h
  · exact h
  obtain ⟨rfl, h⟩ := h
  unfold AsyncMethod.wp
  rw [transition_bind List.mem_cons_self]
  refine AsyncMethod.wp_bind (AsyncMethod.wp_mono ?_
    (proof.runCommit_wp es rfl rfl rfl (proof.prepared es s hcomponents h)))
  rintro (message | _) fields s h
  · exact h
  obtain ⟨rfl, h⟩ := h
  unfold AsyncMethod.wp
  show Resumption.wp R E I (transition .committed _) _ s
  rw [transition_done List.mem_cons_self]
  exact ⟨rfl, h⟩

/-- The fields after `fail`, when it does not throw. -/
theorem fail_done {fields : ReloadExecutorFields κ ν} {reason : String}
    (hblank : JsString.isBlank reason = false) (hstate : fields.model.state.isTerminal = false) :
    fail reason fields = .done (.ok (), { fields with model :=
      if fields.model.state = .preparing ∨ fields.model.state = .prepared ∨
          fields.model.state = .committing then ⟨.rollingBack, some reason⟩
      else ⟨.failed, some reason⟩ }) := by
  unfold fail
  rw [AsyncMethod.get_bind]
  unfold ReloadTransactionModel.fail
  rw [hblank, hstate]
  simp only [Bool.false_eq_true, if_false]
  split
  · rfl
  · rfl

/-- `fail` throws on a blank reason. -/
theorem fail_blank {fields : ReloadExecutorFields κ ν} {reason : String}
    (hblank : JsString.isBlank reason = true) :
    fail reason fields = .done (.error "reload failure reason must not be empty", fields) := by
  unfold fail
  rw [AsyncMethod.get_bind]
  unfold ReloadTransactionModel.fail
  rw [hblank]
  rfl

/-- The rest of the `catch` block, after `fail`. -/
theorem compensate_apply {fields : ReloadExecutorFields κ ν} {error : String}
    (hstate : fields.model.state.isTerminal = false) :
    compensate error fields = (fail error >>= fun _ => AsyncMethod.get >>= fun fields =>
      if fields.model.state = .rollingBack then
        runRollback (rollbackEntries fields).reverse >>= fun _ => transition .rolledBack
      else pure ()) { fields with originalFailure := some error } := by
  unfold compensate
  rw [AsyncMethod.modify_bind, AsyncMethod.get_bind]
  rw [if_neg (show ¬ fields.model.state.isTerminal = true by simp [hstate])]

theorem rollback_wp {fields : ReloadExecutorFields κ ν} {s : σ}
    (hstate : fields.model.state = .rollingBack)
    (h : proof.recovering fields.preparedEntries (rollbackEntries fields) s) :
    AsyncMethod.wp R E I (runRollback (rollbackEntries fields).reverse >>= fun _ =>
      transition .rolledBack) proof.Caught fields s := by
  refine AsyncMethod.wp_bind (AsyncMethod.wp_mono ?_ (proof.runRollback_wp _ _ h))
  rintro _ fields' s' ⟨⟨errors, rfl, rfl⟩, h'⟩
  unfold AsyncMethod.wp
  dsimp only
  rw [transition_done (by simp [hstate, ReloadTransactionState.transitions])]
  exact proof.recovered _ s' h'

theorem compensate_wp {message : String} {fields : ReloadExecutorFields κ ν} {s : σ}
    (h : proof.PhasesEnd (.error message) fields s) :
    AsyncMethod.wp R E I (compensate message) proof.Caught fields s := by
  have hterminal : fields.model.state.isTerminal = false := by
    rcases h with ⟨hs | hs | hs | hs, -⟩ | ⟨hs, -⟩ <;> rw [hs] <;> rfl
  have hclean : JsString.isBlank message = true →
      proof.cleaning false fields.preparedEntries fields.preparedEntries s := by
    intro hb
    rcases h with ⟨-, -, h⟩ | ⟨-, -, -, h⟩
    · exact (proof.abandoned _ s h).2
    · exact h hb
  have hterminal' : ({ fields with originalFailure := some message } :
      ReloadExecutorFields κ ν).model.state.isTerminal = false := hterminal
  unfold AsyncMethod.wp
  rw [compensate_apply hterminal]
  cases hb : JsString.isBlank message with
  | true =>
    rw [AsyncMethod.bind_of_error (fail_blank hb)]
    exact hclean hb
  | false =>
    rw [AsyncMethod.bind_of_ok (fail_done hb hterminal'), AsyncMethod.get_bind]
    rcases h with ⟨hstate, hstage, h⟩ | ⟨hstate, hstage, h, -⟩
    · obtain ⟨hback, hend⟩ := proof.abandoned _ s h
      rcases hstate with hs | hs | hs | hs
      · simp only [hs, reduceCtorEq, or_self, if_false]
        exact hend
      · simp only [hs, reduceCtorEq, or_self, if_false]
        exact hend
      · simp only [hs, true_or, if_true]
        refine proof.rollback_wp rfl ?_
        rw [rollbackEntries, if_neg hstage]
        exact hback
      · simp only [hs, reduceCtorEq, or_false, or_true, if_true]
        refine proof.rollback_wp rfl ?_
        rw [rollbackEntries, if_neg hstage]
        exact hback
    · simp only [hstate, reduceCtorEq, or_true, if_true]
      refine proof.rollback_wp rfl ?_
      rw [rollbackEntries, if_pos hstage]
      exact h

/-- **The executor's rule.**  From nothing prepared, an execution ends with nothing
left to clean up; it resolves as committed, or resolves or rejects as not committed. -/
theorem execute_wp {s : σ} (h : proof.preparing [] s) :
    AsyncMethod.wp R E I (execute components) (fun ended _ s' =>
      match ended with
      | .ok fields => proof.cleaning (fields.model.state = .committed) fields.preparedEntries [] s'
      | .error _ => ∃ es, proof.cleaning false es [] s') fieldsNew s := by
  unfold execute
  have hcatch : AsyncMethod.wp R E I (AsyncMethod.tryCatch (phases components) compensate)
      proof.Caught fieldsNew s := by
    refine AsyncMethod.wp_tryCatch (AsyncMethod.wp_mono ?_ (proof.phases_wp h))
    rintro (message | _) fields s h
    · exact proof.compensate_wp h
    · obtain ⟨hstate, h⟩ := h
      show proof.cleaning (decide (fields.model.state = .committed)) _ _ s
      rw [decide_eq_true hstate]
      exact h
  refine AsyncMethod.wp_bind (AsyncMethod.wp_tryFinally (AsyncMethod.wp_mono ?_ hcatch))
  intro ended fields s h
  unfold finish
  refine AsyncMethod.wp_bind ?_
  unfold AsyncMethod.wp
  rw [AsyncMethod.get_bind]
  cases ended with
  | ok u =>
    refine Resumption.wp_mono ?_ (proof.runCleanup_wp _ _ _ h)
    rintro ⟨_, fields'⟩ s' ⟨⟨errors, rfl, rfl⟩, h'⟩
    exact h'
  | error message =>
    refine Resumption.wp_mono ?_ (proof.runCleanup_wp _ _ _ h)
    rintro ⟨_, fields'⟩ s' ⟨⟨errors, rfl, rfl⟩, h'⟩
    exact ⟨_, h'⟩

end ExecutorProof

end Sepigs
