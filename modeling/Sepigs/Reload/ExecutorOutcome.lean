import Sepigs.Reload.ExecutorRule

/-!
# What an execution ends with

An execution commits if and only if none of its operations up to the last commit was
rejected, and it rejects itself if and only if the one that was had a blank message
(`execute_outcome`).  The world of these preconditions is the list of such messages.  How the
operations are answered is left open.
-/

namespace Sepigs

variable {κ ν : Type}

/-- The message of a rejection that the executor does not go on from. -/
def ReloadOperation.failure (operation : ReloadOperation κ ν) (reply : operation.Reply) :
    Option String :=
  match reply, operation with
  | .ok _, _ => none
  | .error _, rollback _ | .error _, cleanup _ => none
  | .error message, simple _ | .error message, prepare _ | .error message, healthCheck _
  | .error message, commit _ => some message

/-- The messages so far, after an operation. -/
def ReloadOperation.note (operation : ReloadOperation κ ν) (failures : List String)
    (reply : operation.Reply) : List String :=
  failures ++ (operation.failure reply).toList

def Notes (operation : ReloadOperation κ ν) (failures : List String) (reply : operation.Reply)
    (failures' : List String) : Prop :=
  failures' = operation.note failures reply

namespace ReloadExecutor

/-- The precondition over the messages. -/
abbrev Leads {α : Type} (p : ReloadMethod κ ν α)
    (Q : Except String α → ReloadExecutorFields κ ν → List String → Prop)
    (fields : ReloadExecutorFields κ ν) (failures : List String) : Prop :=
  AsyncMethod.wp (fun _ => Eq) Notes (fun _ _ => True) p Q fields failures

/-- A part of the `try` block: it ends well without a rejection, badly with its message. -/
def PartEnds (state : ReloadTransactionState) (ended : Except String Unit)
    (fields : ReloadExecutorFields κ ν) (failures : List String) : Prop :=
  fields.model.state = state ∧
    match ended with
    | .ok () => failures = []
    | .error message => failures = [message]

theorem runPrepare_leads (components : List κ) (fields : ReloadExecutorFields κ ν) :
    Leads (runPrepare components) (PartEnds fields.model.state) fields [] := by
  induction components generalizing fields with
  | nil => exact ⟨rfl, rfl⟩
  | cons component components ih =>
    unfold Leads AsyncMethod.wp
    rw [runPrepare_cons]
    intro failures hfailures
    subst hfailures
    refine ⟨trivial, fun reply failures hnotes => ?_⟩
    cases reply with
    | error message =>
      obtain rfl : failures = [message] := hnotes
      exact ⟨rfl, rfl⟩
    | ok prepared =>
      obtain rfl : failures = [] := hnotes
      exact ih { fields with preparedEntries := fields.preparedEntries ++ [⟨component, prepared⟩] }

theorem runHealthChecks_leads (entries : List (PreparedEntry κ ν))
    (fields : ReloadExecutorFields κ ν) :
    Leads (runHealthChecks entries) (PartEnds fields.model.state) fields [] := by
  induction entries with
  | nil => exact ⟨rfl, rfl⟩
  | cons entry entries ih =>
    unfold Leads AsyncMethod.wp
    rw [runHealthChecks_cons]
    intro failures hfailures
    subst hfailures
    refine ⟨trivial, fun reply failures hnotes => ?_⟩
    cases reply with
    | error message =>
      obtain rfl : failures = [message] := hnotes
      exact ⟨rfl, rfl⟩
    | ok u =>
      obtain rfl : failures = [] := hnotes
      exact ih

theorem runCommit_leads (entries : List (PreparedEntry κ ν)) (fields : ReloadExecutorFields κ ν) :
    Leads (runCommit entries) (PartEnds fields.model.state) fields [] := by
  induction entries generalizing fields with
  | nil => exact ⟨rfl, rfl⟩
  | cons entry entries ih =>
    unfold Leads AsyncMethod.wp
    rw [runCommit_cons]
    intro failures hfailures
    subst hfailures
    refine ⟨trivial, fun reply failures hnotes => ?_⟩
    cases reply with
    | error message =>
      obtain rfl : failures = [message] := hnotes
      exact ⟨rfl, rfl⟩
    | ok u =>
      obtain rfl : failures = [] := hnotes
      exact ih { fields with committedEntries := fields.committedEntries ++ [entry] }

/-- Neither loop of the recovery changes the state or the message. -/
def Recovers (state : ReloadTransactionState) (failures : List String)
    (ended : Except String Unit) (fields : ReloadExecutorFields κ ν) (failures' : List String) :
    Prop :=
  ended = .ok () ∧ fields.model.state = state ∧ failures' = failures

theorem runRollback_leads (entries : List (PreparedEntry κ ν)) (fields : ReloadExecutorFields κ ν)
    (failures : List String) :
    Leads (runRollback entries) (Recovers fields.model.state failures) fields failures := by
  induction entries generalizing fields with
  | nil => exact ⟨rfl, rfl, rfl⟩
  | cons entry entries ih =>
    unfold Leads AsyncMethod.wp
    rw [runRollback_cons]
    intro failures₁ hfailures₁
    subst hfailures₁
    refine ⟨trivial, fun reply failures₂ hnotes => ?_⟩
    have hnotes : failures₂ = failures := by
      cases reply <;> exact hnotes.trans (List.append_nil _)
    subst hnotes
    cases reply with
    | error message => exact ih (recordErrorFields .rollback message (some entry.component) fields)
    | ok u => exact ih fields

theorem runCleanup_leads (entries : List (PreparedEntry κ ν)) (fields : ReloadExecutorFields κ ν)
    (failures : List String) :
    Leads (runCleanup entries) (Recovers fields.model.state failures) fields failures := by
  induction entries generalizing fields with
  | nil => exact ⟨rfl, rfl, rfl⟩
  | cons entry entries ih =>
    unfold Leads AsyncMethod.wp
    rw [runCleanup_cons]
    intro failures₁ hfailures₁
    subst hfailures₁
    refine ⟨trivial, fun reply failures₂ hnotes => ?_⟩
    have hnotes : failures₂ = failures := by
      cases reply <;> exact hnotes.trans (List.append_nil _)
    subst hnotes
    cases reply with
    | error message => exact ih (recordErrorFields .cleanup message (some entry.component) fields)
    | ok u => exact ih fields

theorem runSimplePhase_leads (phase : SimplePhase) (fields : ReloadExecutorFields κ ν)
    (hnext : phase.state ∈ fields.model.state.transitions) :
    Leads (runSimplePhase phase) (PartEnds phase.state) fields [] := by
  unfold Leads AsyncMethod.wp
  rw [runSimplePhase_apply phase fields hnext]
  intro failures hfailures
  subst hfailures
  refine ⟨trivial, fun reply failures hnotes => ?_⟩
  cases reply with
  | error message =>
    obtain rfl : failures = [message] := hnotes
    exact ⟨rfl, rfl⟩
  | ok u =>
    obtain rfl : failures = [] := hnotes
    exact ⟨rfl, rfl⟩

open ExecutorProof

/-- How the `try` block ends. -/
def PhasesLead (ended : Except String Unit) (fields : ReloadExecutorFields κ ν)
    (failures : List String) : Prop :=
  match ended with
  | .ok () => fields.model.state = .committed ∧ failures = []
  | .error message => fields.model.state.isTerminal = false ∧ failures = [message]

theorem PartEnds.lead {state : ReloadTransactionState} {message : String}
    {fields : ReloadExecutorFields κ ν} {failures : List String}
    (h : PartEnds state (.error message) fields failures) (hstate : state.isTerminal = false) :
    PhasesLead (.error message) fields failures := by
  obtain ⟨rfl, hfailures⟩ := h
  exact ⟨hstate, hfailures⟩

theorem phases_leads (components : List κ) :
    Leads (phases components) PhasesLead (fieldsNew : ReloadExecutorFields κ ν) [] := by
  unfold phases
  refine AsyncMethod.wp_bind (AsyncMethod.wp_mono ?_
    (runSimplePhase_leads .parse fieldsNew (List.mem_singleton.mpr rfl)))
  rintro (message | _) fields failures h
  · exact h.lead rfl
  obtain ⟨hstate, rfl⟩ := h
  refine AsyncMethod.wp_bind (AsyncMethod.wp_mono ?_
    (runSimplePhase_leads .validate fields (by rw [hstate]; exact List.mem_cons_self)))
  rintro (message | _) fields failures h
  · exact h.lead rfl
  obtain ⟨hstate, rfl⟩ := h
  unfold AsyncMethod.wp
  rw [transition_bind (by rw [hstate]; exact List.mem_cons_self)]
  refine AsyncMethod.wp_bind (AsyncMethod.wp_mono ?_
    (runPrepare_leads components (entering .preparing fields)))
  rintro (message | _) fields failures h
  · exact h.lead rfl
  obtain ⟨hstate, rfl⟩ := h
  unfold AsyncMethod.wp
  rw [transition_bind (by rw [hstate]; exact List.mem_cons_self), AsyncMethod.get_bind]
  refine AsyncMethod.wp_bind (AsyncMethod.wp_mono ?_ (runHealthChecks_leads _ _))
  rintro (message | _) fields failures h
  · exact h.lead rfl
  obtain ⟨hstate, rfl⟩ := h
  unfold AsyncMethod.wp
  rw [transition_bind (by rw [hstate]; exact List.mem_cons_self)]
  refine AsyncMethod.wp_bind (AsyncMethod.wp_mono ?_ (runCommit_leads _ _))
  rintro (message | _) fields failures h
  · exact h.lead rfl
  obtain ⟨hstate, rfl⟩ := h
  unfold AsyncMethod.wp
  rw [transition_done (by rw [hstate]; exact List.mem_cons_self)]
  exact ⟨rfl, rfl⟩

/-- A failed execution is not committed, whatever becomes of its recovery; it rejects if the
message is blank. -/
def NotCommitted (message : String) (ended : Except String Unit)
    (fields : ReloadExecutorFields κ ν) (failures : List String) : Prop :=
  fields.model.state ≠ .committed ∧ failures = [message] ∧
    ended.isOk = !JsString.isBlank message

theorem compensate_leads (message : String) {fields : ReloadExecutorFields κ ν}
    (hstate : fields.model.state.isTerminal = false) :
    Leads (compensate message) (NotCommitted message) fields [message] := by
  have hstate' : ({ fields with originalFailure := some message } :
      ReloadExecutorFields κ ν).model.state.isTerminal = false := hstate
  have hne : fields.model.state ≠ .committed := by
    intro heq
    rw [heq] at hstate
    cases hstate
  unfold Leads AsyncMethod.wp
  rw [compensate_apply hstate]
  cases hblank : JsString.isBlank message with
  | true =>
    rw [AsyncMethod.bind_of_error (fail_blank hblank)]
    exact ⟨hne, rfl, by rw [hblank]; rfl⟩
  | false =>
    rw [AsyncMethod.bind_of_ok (fail_done hblank hstate'), AsyncMethod.get_bind]
    by_cases hback : fields.model.state = .preparing ∨ fields.model.state = .prepared ∨
        fields.model.state = .committing
    · simp only [hback, if_true]
      refine AsyncMethod.wp_bind (AsyncMethod.wp_mono ?_ (runRollback_leads _ _ [message]))
      rintro _ fields failures ⟨rfl, hrolling, rfl⟩
      unfold AsyncMethod.wp
      dsimp only
      rw [transition_done (by simp [hrolling, ReloadTransactionState.transitions])]
      exact ⟨fun heq => (by cases heq), rfl, by rw [hblank]; rfl⟩
    · simp only [hback, if_false, reduceCtorEq]
      exact ⟨fun heq => (by cases heq), rfl, by rw [hblank]; rfl⟩

/-- **An execution commits unless one of its operations was rejected.**  Otherwise it
resolves, unless the message was blank. -/
theorem execute_outcome (components : List κ) :
    Leads (execute components) (fun ended _ failures =>
      match ended with
      | .ok fields => (fields.model.state = .committed ↔ failures = []) ∧
        ∀ message ∈ failures, JsString.isBlank message = false
      | .error _ => ∃ message, failures = [message] ∧ JsString.isBlank message = true)
      (fieldsNew : ReloadExecutorFields κ ν) [] := by
  unfold execute
  have hcaught : Leads (AsyncMethod.tryCatch (phases components) compensate)
      (fun ended fields failures => PhasesLead (.ok ()) fields failures ∧ ended = .ok () ∨
        ∃ message, NotCommitted message ended fields failures)
      (fieldsNew : ReloadExecutorFields κ ν) [] := by
    refine AsyncMethod.wp_tryCatch (AsyncMethod.wp_mono ?_ (phases_leads components))
    rintro (message | _) fields failures h
    · obtain ⟨hstate, rfl⟩ := h
      refine AsyncMethod.wp_mono ?_ (compensate_leads message hstate)
      exact fun ended fields failures h => Or.inr ⟨message, h⟩
    · exact Or.inl ⟨h, rfl⟩
  refine AsyncMethod.wp_bind (AsyncMethod.wp_tryFinally (AsyncMethod.wp_mono ?_ hcaught))
  intro ended fields failures h
  unfold finish
  refine AsyncMethod.wp_bind ?_
  unfold AsyncMethod.wp
  rw [AsyncMethod.get_bind]
  refine Resumption.wp_mono ?_ (runCleanup_leads _ _ failures)
  rintro ⟨_, fields'⟩ failures' ⟨hended, hstate, rfl⟩
  dsimp only at hended hstate ⊢
  subst hended
  rcases h with ⟨⟨hcommitted, rfl⟩, rfl⟩ | ⟨message, hne, rfl, hblank⟩
  · exact ⟨⟨fun _ => rfl, fun _ => hstate.trans hcommitted⟩, fun _ hmem => by cases hmem⟩
  · cases ended with
    | error e =>
      have hblank : false = !JsString.isBlank message := hblank
      exact ⟨message, rfl, by simpa using hblank⟩
    | ok u =>
      have hblank : true = !JsString.isBlank message := hblank
      refine ⟨⟨fun heq => absurd (hstate.symm.trans heq) hne, fun h => by cases h⟩, ?_⟩
      intro message' hmem
      rw [List.mem_singleton.mp hmem]
      simpa using hblank

/-- What an execution ended with, along an interleaving; the messages are accounted for. -/
theorem steps_outcome {σ : Type} {R : Option (ReloadOperation κ ν) → σ → σ → Prop}
    {E : (operation : ReloadOperation κ ν) → σ → operation.Reply → σ → Prop} {components : List κ}
    {s t : σ} {ended : Except String (ReloadExecutorFields κ ν)} {fields : ReloadExecutorFields κ ν}
    (hs : Resumption.Steps R E (execute components fieldsNew) s (.done (ended, fields)) t) :
    ∃ failures, Resumption.Steps (fun i x y => R i x.1 y.1 ∧ y.2 = x.2)
        (fun operation x reply y => E operation x.1 reply y.1 ∧ y.2 = operation.note x.2 reply)
        (execute components fieldsNew) (s, []) (.done (ended, fields)) (t, failures) ∧
      match ended with
      | .ok fields => (fields.model.state = .committed ↔ failures = []) ∧
        ∀ message ∈ failures, JsString.isBlank message = false
      | .error _ => ∃ message, failures = [message] ∧ JsString.isBlank message = true := by
  obtain ⟨failures, hnoted⟩ := hs.account ReloadOperation.note []
  refine ⟨failures, hnoted, ?_⟩
  have hmessages : Resumption.Steps (fun _ => Eq) Notes (execute components fieldsNew) []
      (.done (ended, fields)) failures :=
    hnoted.image Prod.snd (fun _ _ _ hr => hr.2.symm) (fun _ _ _ _ he => he.2)
  exact Resumption.wp_steps (fun _ _ => rfl) (fun _ _ _ _ => Eq.trans)
    (fun _ _ _ heq hq => heq ▸ hq) (execute_outcome components) hmessages

end ReloadExecutor

/-- The executor's rule along an interleaving, when the others do the same whatever it awaits. -/
theorem ExecutorProof.steps_end {σ : Type} {R : σ → σ → Prop}
    {E : (operation : ReloadOperation κ ν) → σ → operation.Reply → σ → Prop}
    {I : ReloadOperation κ ν → σ → Prop} {components : List κ}
    (proof : ExecutorProof (fun _ => R) E I components) (hrefl : ∀ s, R s s)
    (htrans : ∀ s t u, R s t → R t u → R s u)
    (hcleaning : ∀ ok es s t, R s t → proof.cleaning ok es [] s → proof.cleaning ok es [] t)
    {fields fields' : ReloadExecutorFields κ ν} {s t : σ} (h : proof.preparing [] s)
    (hs : Resumption.Steps (fun _ => R) E
      (ReloadExecutor.execute components ReloadExecutor.fieldsNew) s (.done (.ok fields, fields')) t) :
    proof.cleaning (fields.model.state = .committed) fields.preparedEntries [] t := by
  refine Resumption.wp_steps (fun _ => hrefl) (fun _ => htrans) ?_ (proof.execute_wp h) hs
  rintro ⟨_ | _, _⟩ s t hr hended
  · obtain ⟨es, hes⟩ := hended
    exact ⟨es, hcleaning _ _ _ _ hr hes⟩
  · exact hcleaning _ _ _ _ hr hended

end Sepigs
