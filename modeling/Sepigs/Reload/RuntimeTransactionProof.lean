import Sepigs.Reload.RuntimeTransactionSteps

/-!
# The proof of a runtime reload

The parts of a reload as the assertions of the executor's rule, and from it the
whole execution: how it ends, and what holds whenever it waits.
-/

namespace Sepigs

open RuntimeReloadIntegration

namespace RuntimeTransaction

variable (task : ReloadTask) (host : RuntimeHost)

/-- The rollback of the outbound component would succeed, and would leave the old
outbound generation and the old pair active. -/
def RollbackSucceeds (value : OutboundRuntimePrepared) (s : RuntimeHost) : Prop :=
  ∃ t, OutboundRuntimeAdapter.rollback value s = (.ok (), t) ∧
    t.registry.activeGenerationId = host.registry.activeGenerationId ∧
    t.registry.liveEntry t.registry.activeGenerationId =
      host.registry.liveEntry host.registry.activeGenerationId ∧
    t.routing.activeGeneration = host.routing.activeGeneration

/-- What holds whenever the execution waits for an operation. -/
def Watched (operation : RuntimeOperation) (s : RuntimeHost) : Prop :=
  Together task host (s.view host.registry.activeGenerationId) ∧
  (operation.isCleanup = false → OldKept host (s.view host.registry.activeGenerationId)) ∧
  ∀ component value, operation = .rollback ⟨component, .outbound value⟩ →
    RollbackSucceeds host value s

variable {task} {es rest : List RuntimeEntryPrepared} {s : RuntimeHost}

/-- **The parts of a reload are the assertions of the executor's rule.** -/
def executorProof (host : RuntimeHost)
    (htask : task.expectedRoutingComponents = expectedRoutingComponents task.changedComponents) :
    ExecutorProof (fun operation => Others host.registry.activeGenerationId operation.isCleanup)
      (Performs task) (Watched task host) (createRuntimeComponents task.changedComponents) where
  preparing es s := Preparing task host es (s.view host.registry.activeGenerationId)
  committing es done s := Committing task host es done (s.view host.registry.activeGenerationId)
  recovering es rest s := Recovering task host es rest (s.view host.registry.activeGenerationId)
  cleaning ok _ rest s := Cleaning task host ok rest (s.view host.registry.activeGenerationId)
  preparing_wait es operation s s' hearly hr h := by
    have hnot : operation.isCleanup = false := by
      cases operation with
      | cleanup entry => cases hearly
      | _ => rfl
    rw [hnot] at hr
    rw [← Others.view_eq_undecided hr] at h
    refine ⟨⟨h.together, fun _ => h.oldKept, ?_⟩, h⟩
    rintro component value rfl
    cases hearly
  committing_wait es done entry rest s s' _ hr h := by
    rw [← Others.view_eq_undecided hr] at h
    refine ⟨⟨h.together htask, fun _ => h.oldKept, ?_⟩, h⟩
    rintro component value heq
    cases heq
  recovering_wait es rest entry s s' hr h := by
    rw [← Others.view_eq_undecided hr] at h
    refine ⟨⟨h.together, fun _ => h.oldKept, ?_⟩, h⟩
    rintro component value heq
    cases heq
    obtain ⟨tail, htail⟩ := split_initial h.initial
    cases h.entries.genuine _ (htail ▸ List.mem_append_right _ List.mem_cons_self) with
    | outbound _ hof =>
      obtain ⟨t, hrollback, -, hun, hback, -⟩ := h.rollback_outbound htask
      exact ⟨t, hrollback, hback.off.activeOutbound, hback.off.activeEntry, hun.pair⟩
  cleaning_wait ok es rest entry s s' hr h := by
    have h := Cleaning.of_oldEntry h (s'.registry.liveEntry host.registry.activeGenerationId)
    rw [← hr.view_eq] at h
    refine ⟨⟨h.together htask, fun hnot => absurd hnot Bool.noConfusion, ?_⟩, h⟩
    rintro component value heq
    cases heq
  simple phase s r s' h hs := by
    obtain ⟨conditions, hs⟩ := hs
    obtain rfl : s = s' := congrArg Prod.snd hs
    exact h
  prepare_ok es c tail s prepared s' hnext h hs := h.prepare_ok htask hnext hs
  prepare_error es c tail s message s' hnext h hs := by
    obtain ⟨hview, -⟩ := Preparing.prepare_error htask hnext hs host.registry.activeGenerationId
    rw [← hview] at h
    exact h
  healthCheck es entry s r s' _ h hs := by
    obtain ⟨conditions, hs⟩ := hs
    obtain rfl : s = s' := congrArg Prod.snd hs
    exact h
  prepared es s hall h := h.committing htask hall
  commit_ok es done entry rest s s' hsplit h hs := h.commit_ok htask hsplit hs
  commit_error es done entry rest s message s' hsplit h hs := by
    obtain ⟨rfl, hblank⟩ := h.commit_error htask hsplit hs
    exact ⟨h.recovering htask hsplit, hblank⟩
  committed es s h := h.after htask
  abandoned es s h := ⟨h.recovering, h.before⟩
  rollback es rest entry s r s' h hs := h.rollback htask hs
  recovered es s h := h.before
  cleanup ok es rest entry s r s' h hs := h.cleanup hs

end RuntimeTransaction

end Sepigs
