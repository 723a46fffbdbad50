import Sepigs.Reload.Atomicity

/-!
# A proof rule for the program of a reload

`reload` is a shadow execution, an execution, and what follows a successful one.
`program_rule`: what an execution leads to (`C`, told whether it has committed) carries
over to the program, over any world.
-/

namespace Sepigs

namespace RuntimeReloadIntegration

variable {σ : Type} {R : Call → σ → σ → Prop} {E : (call : Call) → σ → call.Reply → σ → Prop}
  {I : Call → σ → Prop} {P : σ → Prop} {C : Bool → σ → Prop} {Q : Except String Unit → σ → Prop}
  {task : ReloadTask}

theorem execute_rule
    (hexecute : ∀ s, P s → AsyncMethod.wp (fun op => R (.operation op)) (fun op => E (.operation op))
      (fun op => I (.operation op))
      (ReloadExecutor.execute (createRuntimeComponents task.changedComponents)) (fun ended _ s =>
        match ended with
        | .ok fields => C (fields.model.state = .committed) s
        | .error _ => C false s) ReloadExecutor.fieldsNew s)
    (hwait : ∀ s s', R .commitRuntimeConfig s s' → C true s → I .commitRuntimeConfig s' ∧ C true s')
    (hcommit : ∀ s reply s', E .commitRuntimeConfig s reply s' → C true s → Q (.ok ()) s')
    (hfailed : ∀ s error, C false s → Q (.error error) s) {s : σ} (h : P s) :
    Resumption.wp R E I (execute task) Q s := by
  refine Resumption.wp_bind (Resumption.wp_mono ?_
    (Resumption.wp_translate (fun _ _ _ hr => hr) (fun _ _ _ _ hs => hs) (fun _ _ hi => hi)
      (hexecute s h)))
  rintro ⟨error | fields, fields'⟩ s hended
  · exact hfailed s error hended
  have hended : C (fields.model.state = .committed) s := hended
  unfold afterExecute
  dsimp only
  by_cases hcommitted : fields.model.state = .committed
  · rw [if_pos hcommitted]
    rw [decide_eq_true hcommitted] at hended
    intro s' hr
    obtain ⟨hi, hended'⟩ := hwait s s' hr hended
    exact ⟨hi, fun reply s'' he => hcommit s' reply s'' he hended'⟩
  · rw [if_neg hcommitted]
    rw [decide_eq_false hcommitted] at hended
    exact hfailed s _ hended

/-- **The program's rule.** -/
theorem program_rule
    (hshadow_wait : ∀ s s', R .shadow s s' → P s → I .shadow s' ∧ P s')
    (hshadow : ∀ s (reply : Except String Unit) s', E .shadow s reply s' → P s →
      match reply with
      | .ok () => P s'
      | .error _ => ∀ error, Q (.error error) s')
    (hexecute : ∀ s, P s → AsyncMethod.wp (fun op => R (.operation op)) (fun op => E (.operation op))
      (fun op => I (.operation op))
      (ReloadExecutor.execute (createRuntimeComponents task.changedComponents)) (fun ended _ s =>
        match ended with
        | .ok fields => C (fields.model.state = .committed) s
        | .error _ => C false s) ReloadExecutor.fieldsNew s)
    (hwait : ∀ s s', R .commitRuntimeConfig s s' → C true s → I .commitRuntimeConfig s' ∧ C true s')
    (hcommit : ∀ s reply s', E .commitRuntimeConfig s reply s' → C true s → Q (.ok ()) s')
    (hfailed : ∀ s error, C false s → Q (.error error) s) {s : σ} (h : P s) :
    Resumption.wp R E I (program task) Q s := by
  unfold program
  split
  · intro s' hr
    obtain ⟨hi, h'⟩ := hshadow_wait s s' hr h
    refine ⟨hi, fun reply s'' he => ?_⟩
    have hreply := hshadow s' reply s'' he h'
    cases reply with
    | error error => exact hreply _
    | ok u => exact execute_rule hexecute hwait hcommit hfailed hreply
  · exact execute_rule hexecute hwait hcommit hfailed h

end RuntimeReloadIntegration

end Sepigs
