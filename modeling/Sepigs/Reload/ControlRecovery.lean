import Sepigs.Reload.ControlExecution
import Sepigs.Reload.ExecutorOutcome

/-!
# The recovery of a control-plane transaction

What `rollback` and `cleanup` lead to when they are raced, in a run that is undone
(`unwound`).
-/

namespace Sepigs

variable {κ ν τ : Type}

open ControlPlane

namespace ControlAdapter

variable {kind : ControlServerKind} {condition : ControlCondition τ} {before : ControlPlane τ}
  {next : ControlServerConfig τ} {s t : ControlScene τ}

variable (before next) in
/-- The scene of a transaction that unwinds. -/
def Unwinds (s : ControlScene τ) : Prop := Unwinding before next s.plane s.abandoned

theorem Fresh.unwinds (h : Fresh before next s.plane) (hprobing : AllProbing s) :
    Unwinds before next s := .inl ⟨h.quiet, hprobing.harmless⟩

theorem restoreOld_ne {candidate : Nat} {call : ServerCall} {caller : RestoreCaller}
    {state : ControlPrepared τ} {plane : ControlPlane τ} :
    (restoreOld caller state plane).1 ≠ .suspended (.candidateStart candidate call) := by
  unfold restoreOld
  split
  · exact fun heq => by cases heq
  · exact fun heq => by cases heq

theorem restore_ne {candidate : Nat} {call : ServerCall} {caller : RestoreCaller}
    {state : ControlPrepared τ} {plane : ControlPlane τ} :
    (restore kind caller state plane).1 ≠ .suspended (.candidateStart candidate call) := by
  unfold restore
  split
  · split
    · exact fun heq => by cases heq
    · exact fun heq => by cases heq
  · dsimp only
    split
    · split
      · exact fun heq => by cases heq
      · exact restoreOld_ne
    · exact restoreOld_ne

/-- Only a commit starts its candidate. -/
theorem resume_ne {point : ControlSuspended τ} {reply : Except String Unit} {plane : ControlPlane τ}
    {candidate : Nat} {call : ServerCall} :
    (resume kind point reply plane).1 ≠ .suspended (.candidateStart candidate call) := by
  unfold resume
  split
  · unfold prepareValue
    dsimp only
    split
    · exact fun heq => by cases heq
    · exact fun heq => by cases heq
  · exact fun heq => by cases heq
  · exact fun heq => by cases heq
  · unfold resumeHeld
    split
    · exact fun heq => by cases heq
    · exact fun heq => by cases heq
    · exact fun heq => by cases heq
    · exact fun heq => by cases heq
    · exact restore_ne
    · exact restore_ne
    · exact restore_ne
    · exact restoreOld_ne
    · exact fun heq => by cases heq
    · exact fun heq => by cases heq
    · exact fun heq => by cases heq
    · unfold restoreEnd
      split <;> exact fun heq => by cases heq
    · exact fun heq => by cases heq
    · exact fun heq => by cases heq

/-- **A method is raced while the transaction unwinds.** -/
theorem runs_unwinding (hready : before.Ready) {task task' : ControlTask τ}
    (hruns : Runs kind unwound (task, s) (task', t))
    (hne : ∀ candidate call, task ≠ .suspended (.candidateStart candidate call))
    (h : Unwinding before next s.plane (s.abandoned ++ [task])) :
    Unwinding before next t.plane (t.abandoned ++ [task']) := by
  have hstep : ∀ x y : ControlTask τ × ControlScene τ, Step kind unwound x y →
      (∀ candidate call, x.1 ≠ .suspended (.candidateStart candidate call)) ∧
        Unwinding before next x.2.plane (x.2.abandoned ++ [x.1]) →
      (∀ candidate call, y.1 ≠ .suspended (.candidateStart candidate call)) ∧
        Unwinding before next y.2.plane (y.2.abandoned ++ [y.1]) := by
    rintro x y hstep ⟨hne, h⟩
    cases hstep with
    | @listened task s id i outcome hopening hcondition =>
      refine ⟨hne, h.listened hopening ?_ ?_⟩
      · rintro rfl hmem
        rcases List.mem_append.mp hmem with hmem | hmem
        · exact hcondition id hmem
        · exact hne _ _ (List.mem_singleton.mp hmem).symm
      · rintro error rfl hmem
        refine hcondition .rollback ?_
        rcases List.mem_append.mp hmem with hmem | hmem
        · exact List.mem_cons_of_mem _ hmem
        · rw [List.mem_singleton.mp hmem]
          exact List.mem_cons_self
    | @raced point s reply hsettles =>
      refine ⟨fun _ _ => resume_ne, ?_⟩
      have hk : (s.abandoned ++ [.suspended point])[s.abandoned.length]? = some (.suspended point) := by
        simp
      have hnext := Unwinding.resume kind hready h hk hsettles
      rw [List.set_append_right _ _ (Nat.le_refl _), Nat.sub_self] at hnext
      exact hnext
    | @abandoned task s k point reply hk hsettles =>
      refine ⟨hne, ?_⟩
      have hlt := (List.getElem?_eq_some_iff.mp hk).1
      have hk' : (s.abandoned ++ [task])[k]? = some (.suspended point) := by
        rw [List.getElem?_append_left hlt]
        exact hk
      have hnext := Unwinding.resume kind hready h hk' hsettles
      rw [List.set_append_left _ _ hlt] at hnext
      exact hnext
  refine (Relation.ReflTransGen.head_induction_on (motive := fun x _ =>
    (∀ candidate call, x.1 ≠ .suspended (.candidateStart candidate call)) ∧
        Unwinding before next x.2.plane (x.2.abandoned ++ [x.1]) →
    (∀ candidate call, task' ≠ .suspended (.candidateStart candidate call)) ∧
        Unwinding before next t.plane (t.abandoned ++ [task'])) hruns (fun h => h) ?_ ⟨hne, h⟩).2
  exact fun h _ ih hx => ih (hstep _ _ h hx)

theorem Unwinds.drifts (hready : before.Ready) (h : Unwinds before next s)
    (hdrifts : Drifts kind unwound s t) : Unwinds before next t := by
  have hnext := runs_unwinding hready hdrifts (fun _ _ heq => by cases heq)
    (Unwinding.addOver h over_resolved)
  exact hnext.dropLast over_resolved

section Recovery

variable {adapter : κ} {entry : PreparedEntry κ ν} {operation : ReloadOperation κ ν}
  {reply : operation.Reply}

/-- The answer of a recovering operation, once its method is known to unwind. -/
theorem performs_recovery (hready : before.Ready) (hrecovery : operation.isRecovery = true)
    (h : Unwinds before next s)
    (hperform : Unwinding before next (perform kind next operation s.plane).2
      (s.abandoned ++ [(perform kind next operation s.plane).1]) ∧
      ∀ candidate call, (perform kind next operation s.plane).1 ≠
        .suspended (.candidateStart candidate call))
    (hperforms : Performs kind unwound next adapter operation s reply t) : Unwinds before next t := by
  cases hperforms with
  | other _ => exact h
  | refused _ hmain =>
    rw [hrecovery] at hmain
    cases hmain
  | @received t _ task plane _ hruns hreceived =>
    have hnext := runs_unwinding hready hruns hperform.2 hperform.1
    have hover : Over task ∧ plane = t.plane := by
      cases operation with
      | rollback entry =>
        cases reply with
        | ok u => exact ⟨by rw [hreceived.1]; exact over_resolved, hreceived.2⟩
        | error error => exact ⟨by rw [hreceived.1]; exact over_rejected error, hreceived.2⟩
      | cleanup entry =>
        cases reply with
        | ok u => exact ⟨by rw [hreceived.1]; exact over_resolved, hreceived.2⟩
        | error error => exact ⟨by rw [hreceived.1]; exact over_rejected error, hreceived.2⟩
      | simple _ => cases hrecovery
      | prepare _ => cases hrecovery
      | healthCheck _ => cases hrecovery
      | commit _ => cases hrecovery
    obtain ⟨hover, rfl⟩ := hover
    exact hnext.dropLast hover
  | @overtaken t error task _ hruns _ => exact runs_unwinding hready hruns hperform.2 hperform.1

end Recovery

section Rollback

variable {plane : ControlPlane τ} {tasks : List (ControlTask τ)}

/-- Where a rollback stands, beside methods that only probe. -/
theorem RollbackAt.unwinding {result : ControlTask τ × ControlPlane τ}
    (h : RollbackAt before next result) (hprobing : ∀ task ∈ tasks, Probing task) :
    Unwinding before next result.2 (tasks ++ [result.1]) ∧
      ∀ candidate call, result.1 ≠ .suspended (.candidateStart candidate call) := by
  unfold RollbackAt at h
  have hall : ∀ task, Probing task → ∀ x ∈ tasks ++ [task], Harmless x := by
    intro task htask x hx
    rcases List.mem_append.mp hx with hx | hx
    · exact (hprobing x hx).harmless
    · rw [List.mem_singleton.mp hx]
      exact htask.harmless
  cases htask : result.1 with
  | prepared value =>
    rw [htask] at h
    exact h.elim
  | resolved =>
    rw [htask] at h
    exact ⟨.inl ⟨h, hall _ trivial⟩, fun _ _ heq => by cases heq⟩
  | rejected error =>
    rw [htask] at h
    exact ⟨.inl ⟨h, hall _ trivial⟩, fun _ _ heq => by cases heq⟩
  | suspended point =>
    rw [htask] at h
    refine ⟨.inr (.inr ⟨tasks.length, point, by simp, ?_, h⟩), ?_⟩
    · intro j task hj hget
      by_cases hlt : j < tasks.length
      · rw [List.getElem?_append_left hlt] at hget
        exact hprobing task (List.mem_of_getElem? hget)
      · have hlen := (List.getElem?_eq_some_iff.mp hget).1
        simp at hlen
        omega
    · rintro candidate call heq
      cases heq
      exact h.elim

/-- Stopping a candidate that is down. -/
theorem stop_quiet {candidate : Nat} (hquiet : Quiet before next plane)
    (hall : ∀ task ∈ tasks, Harmless task) (hid : plane.candidate = some candidate) :
    Quiet before next (plane.call candidate (ControlServer.stop kind)).2 ∧
      ∀ task ∈ tasks ++ [.suspended (.cleanupStop (plane.call candidate
        (ControlServer.stop kind)).1)], Harmless task := by
  obtain ⟨hcall, hdown⟩ := ControlServer.stop_steady kind
    (.inr (hquiet.candidate candidate hid).2.2.2)
  refine ⟨hquiet.setCandidate hid (by simp) hdown, fun x hx => ?_⟩
  rcases List.mem_append.mp hx with hx | hx
  · exact hall x hx
  · rw [List.mem_singleton.mp hx]
    exact ⟨_, hcall⟩

/-- **The cleanup of a transaction that unwinds** stops at most a candidate that does not run. -/
theorem cleanup_spec {state : ControlPrepared τ} (h : Unwinding before next plane tasks)
    (hstate : plane.prepared = some state) :
    Unwinding before next (cleanup kind state plane).2 (tasks ++ [(cleanup kind state plane).1]) ∧
      ∀ candidate call, (cleanup kind state plane).1 ≠
        .suspended (.candidateStart candidate call) := by
  unfold cleanup
  cases hcandidate : state.candidateServer with
  | none => exact ⟨h.addOver over_resolved, fun _ _ heq => by cases heq⟩
  | some candidate =>
    dsimp only
    split
    · exact ⟨h.addOver over_resolved, fun _ _ heq => by cases heq⟩
    · next hcleans =>
      have hid : plane.candidate = some candidate := by
        rw [ControlPlane.candidate_eq hstate]
        exact hcandidate
      refine ⟨?_, fun _ _ heq => by cases heq⟩
      rcases h with ⟨hquiet, hall⟩ | ⟨l, c, i, hl, hbeside, hstage⟩ | ⟨l, point, hl, hbeside, hwaits⟩
      · exact .inl (stop_quiet hquiet hall hid)
      · obtain ⟨hstage, state', hstate', hc⟩ := hstage
        cases hstate.symm.trans hstate'
        cases hcandidate.symm.trans hc
        have hleft : (∃ r, (ControlServer.stop kind (plane.servers candidate)).1 = .settled r) ∧
            (ControlServer.stop kind (plane.servers candidate)).2.Left i := by
          rcases (hstage.candidate candidate hid).2.2.2 with hopening | hdetached | hfailed
          · exact ⟨⟨_, (hopening.stop kind).1⟩, .inr (.inl (hopening.stop kind).2)⟩
          · rw [ControlServer.stop_none hdetached.1]
            exact ⟨⟨_, rfl⟩, .inr (.inl hdetached)⟩
          · rw [ControlServer.stop_none hfailed.1.1]
            exact ⟨⟨_, rfl⟩, .inr (.inr hfailed)⟩
        refine .inr (.inl ⟨l, candidate, i, ?_, ?_, hstage.setCandidate hid (by simp) hleft.2, state,
          hstate, hcandidate⟩)
        · rw [List.getElem?_append_left (List.getElem?_eq_some_iff.mp hl).1]
          exact hl
        · intro j task hj hget
          by_cases hlt : j < tasks.length
          · rw [List.getElem?_append_left hlt] at hget
            exact hbeside j task hj hget
          · rw [List.getElem?_append_right (by omega)] at hget
            rw [List.mem_singleton.mp (List.mem_of_getElem? hget)]
            exact hleft.1
      · have htaken : ∀ state', plane.prepared = some state' →
            ¬ (state'.committed = true ∧ state'.rolledBack = false) := by
          rintro state' hstate' ⟨hcommitted, hrolledBack⟩
          cases hstate.symm.trans hstate'
          exact hcleans (.inr ⟨hcommitted, by rw [hrolledBack]; exact Bool.false_ne_true⟩)
        cases point with
        | restoreStop caller call =>
          cases caller with
          | commit error => exact hwaits.elim
          | rollback =>
            obtain ⟨-, -, -, state', hstate', -, htaken'⟩ := hwaits
            exact absurd htaken' (htaken state' hstate')
        | restoreStart caller call =>
          cases caller with
          | commit error => exact hwaits.elim
          | rollback =>
            obtain ⟨-, ⟨-, -, state', hstate', -, htaken'⟩ |
                ⟨-, -, -, -, state', hstate', -, htaken'⟩⟩ :=
              hwaits
            · exact absurd htaken' (htaken state' hstate')
            · exact absurd htaken' (htaken state' hstate')
        | restored caller r =>
          cases caller with
          | commit error => exact hwaits.elim
          | rollback =>
            refine .inl (stop_quiet hwaits (fun x hx => ?_) hid)
            obtain ⟨j, hj⟩ := List.mem_iff_getElem?.mp hx
            by_cases hjl : j = l
            · subst hjl
              cases hl.symm.trans hj
              trivial
            · exact (hbeside j x hjl hj).harmless
        | probing _ _ _ => exact hwaits.elim
        | disableStop _ => exact hwaits.elim
        | candidateStart _ _ => exact hwaits.elim
        | replaceStop _ _ => exact hwaits.elim
        | cleanupStop _ => exact hwaits.elim

end Rollback

end ControlAdapter

/-! ## A transaction that fails -/

namespace ControlAdapter

variable {kind : ControlServerKind} {condition : ControlCondition τ} {before : ControlPlane τ}
  {next : ControlServerConfig τ} {s t : ControlScene τ}

/-- The adapter is among the entries. -/
def Has (adapter : κ) (entries : List (PreparedEntry κ ν)) : Prop :=
  adapter ∈ entries.map PreparedEntry.component

theorem has_append {adapter : κ} {entries : List (PreparedEntry κ ν)} {entry : PreparedEntry κ ν} :
    Has adapter (entries ++ [entry]) ↔ Has adapter entries ∨ entry.component = adapter := by
  unfold Has
  simp only [List.map_append, List.mem_append, List.map_cons, List.map_nil, List.mem_singleton]
  exact or_congr_right eq_comm

section Proof

variable (before next) in
/-- Before the commit of the adapter. -/
structure Early (adapter : κ) (entries : List (PreparedEntry κ ν)) (s : ControlScene τ) : Prop where
  fresh : Fresh before next s.plane
  probing : AllProbing s
  prepared : Has adapter entries → s.plane.prepared.isSome = true

variable (before next) in
structure Committed (s : ControlScene τ) : Prop where
  took : Took before next s.plane
  probing : AllProbing s

theorem Early.drifts {adapter : κ} {entries : List (PreparedEntry κ ν)}
    (h : Early before next adapter entries s) (hdrifts : Drifts kind condition s t) :
    Early before next adapter entries t := by
  obtain ⟨hfresh, hprobing⟩ := h.fresh.drifts h.probing hdrifts
  exact ⟨hfresh, hprobing, fun hhas =>
    runs_prepared hdrifts over_resolved (h.prepared hhas) h.probing⟩

theorem Committed.drifts (h : Committed before next s) (hdrifts : Drifts kind condition s t) :
    Committed before next t := by
  obtain ⟨htook, hprobing⟩ := h.took.drifts h.probing hdrifts
  exact ⟨htook, hprobing⟩

theorem Early.healthCheck {adapter : κ} {entries : List (PreparedEntry κ ν)}
    {entry : PreparedEntry κ ν} {reply : (ReloadOperation.healthCheck entry).Reply}
    (h : Early before next adapter entries s)
    (hperforms : Performs kind condition next adapter (.healthCheck entry) s reply t) :
    Early before next adapter entries t := by
  obtain ⟨hfresh, hprobing, hprepared⟩ := performs_healthCheck h.fresh h.probing hperforms
  exact ⟨hfresh, hprobing, fun hhas => hprepared (h.prepared hhas)⟩

theorem Early.prepare {adapter component : κ} {entries : List (PreparedEntry κ ν)}
    {reply : (ReloadOperation.prepare component : ReloadOperation κ ν).Reply}
    (hnodup : (entries.map PreparedEntry.component ++ [component]).Nodup)
    (h : Early before next adapter entries s)
    (hperforms : Performs kind condition next adapter (.prepare component) s reply t) :
    Early before next adapter entries t ∧
      ∀ prepared, reply = .ok prepared →
        Early before next adapter (entries ++ [⟨component, prepared⟩]) t := by
  obtain ⟨hfresh, hprobing, hadapter, hother⟩ := performs_prepare h.fresh h.probing hperforms
  have hkept : Has adapter entries → t.plane.prepared.isSome = true := by
    intro hhas
    have hne : component ≠ adapter := by
      rintro rfl
      exact (List.nodup_append.mp hnodup).2.2 _ hhas _ (List.mem_singleton.mpr rfl) rfl
    rw [hother hne]
    exact h.prepared hhas
  refine ⟨⟨hfresh, hprobing, hkept⟩, fun prepared hok => ⟨hfresh, hprobing, fun hhas => ?_⟩⟩
  rcases has_append.mp hhas with hhas | heq
  · exact hkept hhas
  · exact hadapter heq (by rw [hok]; rfl)

theorem Performs.eq_of_other {operation : ReloadOperation κ ν} {adapter : κ}
    {reply : operation.Reply} (hne : operation.component ≠ some adapter)
    (h : Performs kind condition next adapter operation s reply t) : s = t := by
  cases h with
  | other _ => rfl
  | refused hadapter _ => exact absurd hadapter hne
  | received hadapter _ _ => exact absurd hadapter hne
  | overtaken hadapter _ _ => exact absurd hadapter hne

/-- The commit of the adapter, in a run that is undone. -/
theorem Early.commit {adapter : κ} {entries : List (PreparedEntry κ ν)} {entry : PreparedEntry κ ν}
    {reply : (ReloadOperation.commit entry).Reply} (h : Early before next adapter entries s)
    (hhas : Has adapter entries) (hentry : entry.component = adapter)
    (hperforms : Performs kind unwound next adapter (.commit entry) s reply t) :
    (reply = .ok () → Committed before next t) ∧
      ∀ error, reply = .error error → Unwinds before next t := by
  rcases performs_commit h.fresh (h.prepared hhas) h.probing hperforms hentry with
    ⟨rfl, htook, hprobing⟩ | ⟨⟨error, rfl⟩, hcases⟩
  · exact ⟨fun _ => ⟨htook, hprobing⟩, fun _ heq => by cases heq⟩
  · refine ⟨fun heq => (by cases heq), fun _ _ => ?_⟩
    rcases hcases with ⟨hfresh, hprobing⟩ | ⟨hquiet, hprobing⟩ | ⟨task, tasks, hat, hcond, hprobing, heq⟩
    · exact hfresh.unwinds hprobing
    · exact .inl ⟨hquiet, hprobing.harmless⟩
    · unfold Unwinds
      rw [heq]
      have hquiet : Quiet before next t.plane → Harmless task →
          Unwinding before next t.plane (tasks ++ [task]) := by
        refine fun hquiet htask => .inl ⟨hquiet, fun x hx => ?_⟩
        rcases List.mem_append.mp hx with hx | hx
        · exact (hprobing x hx).harmless
        · rw [List.mem_singleton.mp hx]
          exact htask
      cases task with
      | prepared value => exact hat.elim
      | rejected error => exact hquiet hat trivial
      | resolved => exact hcond.elim
      | suspended point =>
        cases point with
        | restored caller r =>
          cases caller with
          | rollback => exact hat.elim
          | commit error => exact hquiet hat.1 trivial
        | candidateStart candidate call =>
          obtain ⟨hruns, i, rfl, hstage, state, hstate, hcandidate, -⟩ := hat
          have hid : t.plane.candidate = some candidate := by
            rw [ControlPlane.candidate_eq hstate]
            exact hcandidate
          refine .inr (.inl ⟨tasks.length, candidate, i, by simp, ?_,
            hstage.restate hstage.old fun id heq => ?_, state, hstate, hcandidate⟩)
          · intro j x hj hget
            by_cases hlt : j < tasks.length
            · rw [List.getElem?_append_left hlt] at hget
              exact (hprobing x (List.mem_of_getElem? hget)).harmless
            · have hlen := (List.getElem?_eq_some_iff.mp hget).1
              simp at hlen
              omega
          · obtain rfl := Option.some.inj (hid.symm.trans heq)
            rcases (hstage.candidate candidate hid).2.2.2 with hopening | hup | hfailed
            · exact .inl hopening
            · exact absurd ⟨_, hup.2.1, rfl⟩ hcond
            · exact .inr (.inr hfailed)
        | disableStop _ => exact hcond.elim
        | replaceStop _ _ => exact hcond.elim
        | probing _ _ _ => exact hat.elim
        | restoreStop _ _ => exact hat.elim
        | restoreStart _ _ => exact hat.elim
        | cleanupStop _ => exact hat.elim

/-- The rollback of the adapter. -/
theorem performs_rollback (hready : before.Ready) {adapter : κ} {entry : PreparedEntry κ ν}
    {reply : (ReloadOperation.rollback entry).Reply} (hentry : entry.component = adapter)
    (h : Fresh before next s.plane ∨ Took before next s.plane) (hprobing : AllProbing s)
    (hsome : s.plane.prepared.isSome = true)
    (hperforms : Performs kind unwound next adapter (.rollback entry) s reply t) :
    Unwinds before next t := by
  obtain ⟨state, hstate⟩ := Option.isSome_iff_exists.mp hsome
  have hperform : perform kind next (.rollback entry) s.plane = rollback kind state s.plane := by
    unfold perform
    rw [hstate]
  have hat : RollbackAt before next (perform kind next (.rollback entry) s.plane) := by
    rw [hperform]
    rcases h with hfresh | htook
    · exact rollback_quiet hfresh.quiet hstate
    · exact rollback_spec hready htook hstate
  have hunwinding := hat.unwinding hprobing
  cases hperforms with
  | other hother => exact absurd (congrArg some hentry) hother
  | refused _ hmain => cases hmain
  | @received t _ task plane _ hruns hreceived =>
    have hnext := runs_unwinding hready hruns hunwinding.2 hunwinding.1
    have hover : Over task ∧ plane = t.plane := by
      cases reply with
      | ok u => exact ⟨by rw [hreceived.1]; exact over_resolved, hreceived.2⟩
      | error error => exact ⟨by rw [hreceived.1]; exact over_rejected error, hreceived.2⟩
    obtain ⟨hover, rfl⟩ := hover
    exact hnext.dropLast hover
  | @overtaken t error task _ hruns _ => exact runs_unwinding hready hruns hunwinding.2 hunwinding.1

end Proof

end ControlAdapter

/-! ## A transaction that fails -/

namespace ControlAdapter

variable {kind : ControlServerKind} {before : ControlPlane τ} {next : ControlServerConfig τ}
  {adapter : κ} {components : List κ}

theorem Drifts.refl {condition : ControlCondition τ} (s : ControlScene τ) :
    Drifts kind condition s s := Relation.ReflTransGen.refl

theorem Drifts.trans {condition : ControlCondition τ} {s t u : ControlScene τ}
    (h : Drifts kind condition s t) (h' : Drifts kind condition t u) : Drifts kind condition s u :=
  Relation.ReflTransGen.trans h h'

/-- Some message is blank: then the executor does not roll back. -/
def Blank (failures : List String) : Prop := ∃ message ∈ failures, JsString.isBlank message = true

theorem Blank.note {operation : ReloadOperation κ ν} {failures : List String} (h : Blank failures)
    (reply : operation.Reply) : Blank (operation.note failures reply) := by
  obtain ⟨message, hmem, hblank⟩ := h
  exact ⟨message, List.mem_append_left _ hmem, hblank⟩

variable (before next) in
/-- The entries of `rest` are still to be rolled back. -/
def Recovering (adapter : κ) (rest : List (PreparedEntry κ ν)) (s : ControlScene τ) : Prop :=
  (Has adapter rest → s.plane.prepared.isSome = true ∧ AllProbing s ∧
    (Fresh before next s.plane ∨ Took before next s.plane)) ∧
  (¬ Has adapter rest → Unwinds before next s)

section Recovering

variable {s t : ControlScene τ} {rest : List (PreparedEntry κ ν)} {entry : PreparedEntry κ ν}

theorem Early.recovering {entries : List (PreparedEntry κ ν)}
    (h : Early before next adapter entries s) (hsub : Has adapter rest → Has adapter entries) :
    Recovering before next adapter rest s :=
  ⟨fun hhas => ⟨h.prepared (hsub hhas), h.probing, .inl h.fresh⟩, fun _ => h.fresh.unwinds h.probing⟩

theorem Committed.recovering (h : Committed before next s) (hhas : Has adapter rest) :
    Recovering before next adapter rest s := by
  refine ⟨fun _ => ⟨?_, h.probing, .inr h.took⟩, fun hnot => absurd hhas hnot⟩
  obtain ⟨-, state, hstate, -⟩ := h.took
  rw [hstate]
  rfl

theorem Recovering.drifts (hready : before.Ready) (h : Recovering before next adapter rest s)
    (hdrifts : Drifts kind unwound s t) : Recovering before next adapter rest t := by
  refine ⟨fun hhas => ?_, fun hnot => (h.2 hnot).drifts hready hdrifts⟩
  obtain ⟨hsome, hprobing, hcases⟩ := h.1 hhas
  have hsome' := runs_prepared hdrifts over_resolved hsome hprobing
  rcases hcases with hfresh | htook
  · obtain ⟨hfresh', hprobing'⟩ := hfresh.drifts hprobing hdrifts
    exact ⟨hsome', hprobing', .inl hfresh'⟩
  · obtain ⟨htook', hprobing'⟩ := htook.drifts hprobing hdrifts
    exact ⟨hsome', hprobing', .inr htook'⟩

/-- One entry is rolled back. -/
theorem Recovering.rollback (hready : before.Ready)
    (hnodup : ((rest ++ [entry]).map PreparedEntry.component).Nodup)
    (h : Recovering before next adapter (rest ++ [entry]) s)
    {reply : (ReloadOperation.rollback entry).Reply}
    (hperforms : Performs kind unwound next adapter (.rollback entry) s reply t) :
    Recovering before next adapter rest t := by
  by_cases hentry : entry.component = adapter
  · obtain ⟨hsome, hprobing, hcases⟩ := h.1 (has_append.mpr (.inr hentry))
    have hunwinds := performs_rollback hready hentry hcases hprobing hsome hperforms
    refine ⟨fun hhas => ?_, fun _ => hunwinds⟩
    rw [List.map_append, List.nodup_append] at hnodup
    exact absurd rfl (hnodup.2.2 _ hhas _ (by simp [hentry]))
  · have hother : (ReloadOperation.rollback entry).component ≠ some adapter :=
      fun heq => hentry (Option.some.inj heq)
    obtain rfl := hperforms.eq_of_other hother
    refine ⟨fun hhas => h.1 (has_append.mpr (.inl hhas)), fun hnot => h.2 fun hhas => ?_⟩
    rcases has_append.mp hhas with hhas | heq
    · exact hnot hhas
    · exact hentry heq

theorem Unwinds.cleanedUp (hready : before.Ready) (h : Unwinds before next s)
    {reply : (ReloadOperation.cleanup entry).Reply}
    (hperforms : Performs kind unwound next adapter (.cleanup entry) s reply t) :
    Unwinds before next t := by
  refine performs_recovery hready rfl h ?_ hperforms
  cases hstate : s.plane.prepared with
  | none =>
    have hperform : perform kind next (.cleanup entry) s.plane = (.resolved, s.plane) := by
      unfold perform
      rw [hstate]
    rw [hperform]
    exact ⟨Unwinding.addOver h over_resolved, fun _ _ heq => by cases heq⟩
  | some state =>
    have hperform : perform kind next (.cleanup entry) s.plane = cleanup kind state s.plane := by
      unfold perform
      rw [hstate]
    rw [hperform]
    exact cleanup_spec h hstate

end Recovering

variable (kind next) in
/-- What goes on beside an execution, and what its operations do, with the messages. -/
def Beholds (condition : ControlCondition τ) (_ : ReloadOperation κ ν)
    (x y : ControlScene τ × List String) : Prop :=
  Drifts kind condition x.1 y.1 ∧ y.2 = x.2

variable (kind next) in
def PerformsNoted (condition : ControlCondition τ) (adapter : κ) (operation : ReloadOperation κ ν)
    (x : ControlScene τ × List String) (reply : operation.Reply) (y : ControlScene τ × List String) :
    Prop :=
  Performs kind condition next adapter operation x.1 reply y.1 ∧ y.2 = operation.note x.2 reply

variable (before next) in
/-- After the commits of `entries`. -/
def CommitsDone (adapter : κ) (es entries : List (PreparedEntry κ ν)) (s : ControlScene τ) : Prop :=
  (Has adapter entries → Committed before next s) ∧
  (¬ Has adapter entries → Early before next adapter es s)

theorem CommitsDone.drifts {condition : ControlCondition τ} {es entries : List (PreparedEntry κ ν)}
    {s t : ControlScene τ} (h : CommitsDone before next adapter es entries s)
    (hdrifts : Drifts kind condition s t) : CommitsDone before next adapter es entries t :=
  ⟨fun hhas => (h.1 hhas).drifts hdrifts, fun hnot => (h.2 hnot).drifts hdrifts⟩

end ControlAdapter

end Sepigs
