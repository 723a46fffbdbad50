import Sepigs.Reload.ControlStages

/-!
# The methods of a control-plane adapter, step by step

A commit ends with the new server in the place of the old one, or with the host as it was
(`commit_spec`, `resume_commit`); a rollback leaves the host as it was (`rollback_spec`,
`resume_rollback`).
-/

namespace Sepigs

variable {τ : Type}

open ControlPlane

namespace ControlPlane

/-- Before a transaction: the current server is up or down, nothing of it is under way, and
while the runtime runs, it is up exactly if it is enabled. -/
structure Ready (plane : ControlPlane τ) : Prop where
  current_lt : plane.current < plane.created
  steady : (plane.servers plane.current).Up ∨ (plane.servers plane.current).Down
  started : plane.runtimeStarted = true → ((plane.servers plane.current).config.enabled = true ↔
    (plane.servers plane.current).Running)
  prepared : plane.prepared = none

end ControlPlane

namespace ControlServer

variable {s : ControlServer τ} {kind : ControlServerKind}

theorem Up.running (h : s.Up) : s.Running := by
  obtain ⟨i, hi⟩ := h
  exact hi.running

variable (kind) in
theorem stop_steady (h : s.Up ∨ s.Down) :
    (stop kind s).1 = .settled (.ok ()) ∧ (stop kind s).2.Down := by
  rcases h with ⟨i, hi⟩ | hdown
  · exact hi.stop kind
  · rw [stop_none hdown.1]
    exact ⟨rfl, hdown⟩

end ControlServer

theorem ControlPlane.Turned.steady {before : ControlPlane τ} {config : ControlServerConfig τ}
    {s : ControlServer τ} (h : Turned before config s) : s.Up ∨ s.Down := by
  obtain ⟨-, ⟨-, hs⟩ | ⟨-, hs⟩⟩ := h
  · exact .inl hs
  · exact .inr hs

namespace ControlStage

variable {before plane : ControlPlane τ} {next : ControlServerConfig τ}
  {flags : Bool × Bool × Bool} {current : Nat} {Old Candidate Candidate' : ControlServer τ → Prop}

theorem of_no_candidate (h : ControlStage before next plane flags current Old Candidate)
    (hnone : plane.candidate = none) :
    ControlStage before next plane flags current Old Candidate' :=
  h.restate h.old fun id hid => by
    rw [hnone] at hid
    cases hid

/-- An update in place changes the config of the old server. -/
theorem setConfig {old : ControlServerConfig τ}
    (h : ControlStage before next plane flags current (Turned before old) Candidate)
    {state : ControlPrepared τ} (hstate : plane.prepared = some state)
    (hinPlace : state.strategy = .inPlace) (config : ControlServerConfig τ) :
    ControlStage before next (plane.setServer before.current
      { plane.servers before.current with config := config }) flags current
      (Turned before config) Candidate := by
  have hother : ∀ j, j ≠ before.current → (plane.setServer before.current
      { plane.servers before.current with config := config }).servers j = plane.servers j :=
    fun j hj => Function.update_of_ne hj _ _
  have hold : (plane.setServer before.current
      { plane.servers before.current with config := config }).servers before.current =
      { plane.servers before.current with config := config } := Function.update_self ..
  refine ⟨h.old_lt, h.created, h.started, h.current, ?_, ?_, ?_, h.prepared, ?_⟩
  · rw [hold]
    exact ⟨rfl, h.old.2⟩
  · intro j hj
    rw [hother j (h.candidate_ne hj)]
    exact h.candidate j hj
  · intro j hge hlt hne
    have hlt' := h.old_lt
    rw [hother j (by omega)]
    exact h.rest j hge hlt hne
  · exact fun hne => absurd hinPlace (hne state hstate)

end ControlStage

namespace ControlAdapter

variable {kind : ControlServerKind} {before plane : ControlPlane τ} {next : ControlServerConfig τ}
  {state : ControlPrepared τ}

theorem selectStrategy_replace {old : ControlServerConfig τ}
    (h : selectStrategy old next = .replace) : next.enabled = true := by
  cases henabled : next.enabled with
  | true => rfl
  | false =>
    unfold selectStrategy at h
    rw [henabled] at h
    cases h

theorem selectStrategy_inPlace {old : ControlServerConfig τ}
    (h : selectStrategy old next = .inPlace) :
    old.enabled = true ∧ old.listen = next.listen ∧ old.port = next.port := by
  unfold selectStrategy at h
  split at h
  · cases h
  · split at h
    · next hsame => simpa [and_assoc] using hsame
    · cases h

section Restore

variable {caller : RestoreCaller}

theorem restoreOld_kept (caller : RestoreCaller) (plane : ControlPlane τ)
    (h : state.oldStopped = false) :
    restoreOld caller state plane = (.suspended (.restored caller (.ok ())), plane) := by
  unfold restoreOld
  rw [h]
  rfl

variable (kind caller) in
/-- Nothing is to be restored. -/
theorem restore_quiet (h : Quiet before next plane) (hstate : plane.prepared = some state) :
    ∃ reply, (restore kind caller state plane).1 = .suspended (.restored caller reply) ∧
      Quiet before next (restore kind caller state plane).2 ∧
      (restore kind caller state plane).2.prepared = some state := by
  obtain ⟨hflags, hdescribes⟩ := h.prepared state hstate
  simp only [ControlPrepared.flags, Prod.mk.injEq] at hflags
  obtain ⟨hcandidate, hold, hswapped⟩ := hflags
  unfold restore
  by_cases hinPlace : state.strategy = .inPlace
  · rw [if_pos hinPlace, hdescribes.oldServer, hdescribes.oldConfig]
    unfold ControlServer.updateConfig
    split
    · next server hserver =>
      split at hserver
      · cases hserver
      · cases hserver
        exact ⟨_, rfl, h.setConfig hstate hinPlace _, hstate⟩
    · exact ⟨_, rfl, h, hstate⟩
  · rw [if_neg hinPlace, hswapped]
    have hkept := restoreOld_kept caller plane hold
    cases hserver : state.candidateServer with
    | none => exact ⟨_, congrArg Prod.fst hkept, by simpa [hkept] using h, by simpa [hkept] using hstate⟩
    | some candidate =>
      simp only [hcandidate, Bool.false_eq_true, if_false, hkept]
      exact ⟨_, rfl, h, hstate⟩

/-- The old server is started again. -/
theorem restoreOld_stopped (hready : before.Ready) (hstarted : before.runtimeStarted = true)
    (h : StageOf before next plane (false, true, false) before.current ControlServer.Down
      ControlServer.Down fun state => state.strategy ≠ .inPlace ∧ state.committed = true ∧
        state.rolledBack = false)
    (hstopped : state.oldStopped = true) (hold : state.oldServer = before.current) :
    ∃ call, (restoreOld .rollback state plane).1 = .suspended (.restoreStart .rollback call) ∧
      RollbackWaits before next (restoreOld .rollback state plane).2
        (.restoreStart .rollback call) := by
  obtain ⟨hstage, current, hcurrent, hne, htaken⟩ := h
  have hconfig := hstage.config fun state hstate => by
    rw [hcurrent] at hstate
    cases hstate
    exact hne
  unfold restoreOld
  rw [hstopped, hstage.started, hstarted, hold]
  simp only [Bool.and_self, if_true]
  refine ⟨_, rfl, hstarted, ?_⟩
  cases henabled : (before.servers before.current).config.enabled with
  | true =>
    obtain ⟨i, hcall, hopening⟩ := ControlServer.start_down before.current hstage.old
      (by rw [hconfig]; exact henabled)
    refine .inr ⟨i, hcall, ?_, hstage.setOld (by simp) (.inl hopening), current, hcurrent, hne, htaken⟩
    rcases hready.steady with hup | hdown
    · exact hup
    · exact absurd ((hready.started hstarted).mp henabled) hdown.not_running
  | false =>
    have hkept := ControlServer.start_disabled before.current
      (s := plane.servers before.current) (by rw [hconfig]; exact henabled)
    refine .inl ⟨congrArg Prod.fst hkept, hstage.setOld (by simp) ?_, current, hcurrent, hne, htaken⟩
    rw [hkept]
    refine ⟨hconfig, .inr ⟨?_, hstage.old⟩⟩
    rcases hready.steady with hup | hdown
    · have henabled' := (hready.started hstarted).mpr hup.running
      rw [henabled] at henabled'
      cases henabled'
    · exact hdown

end Restore

end ControlAdapter

namespace ControlAdapter

variable {kind : ControlServerKind} {before plane : ControlPlane τ} {next : ControlServerConfig τ}
  {state : ControlPrepared τ} {reply : Except String Unit} {point : ControlSuspended τ}

/-- Where a commit stands. -/
def CommitAt (before : ControlPlane τ) (next : ControlServerConfig τ)
    (result : ControlTask τ × ControlPlane τ) : Prop :=
  match result.1 with
  | .prepared _ => False
  | .resolved => Took before next result.2
  | .rejected _ => Quiet before next result.2
  | .suspended point => CommitWaits before next result.2 point

/-- Where a rollback stands. -/
def RollbackAt (before : ControlPlane τ) (next : ControlServerConfig τ)
    (result : ControlTask τ × ControlPlane τ) : Prop :=
  match result.1 with
  | .prepared _ => False
  | .resolved | .rejected _ => Quiet before next result.2
  | .suspended point => RollbackWaits before next result.2 point

theorem not_settles_opening {id i : Nat}
    (h : (plane.servers id).httpServers[i]? = some .opening) :
    ¬ ServerCall.Settles plane reply (.listen id i) := by
  rintro ⟨state, hi, houtcome⟩
  cases h.symm.trans hi
  cases houtcome

theorem settles_up {id i : Nat} (h : (plane.servers id).UpAt i)
    (hsettles : ServerCall.Settles plane reply (.listen id i)) : reply = .ok () := by
  obtain ⟨state, hi, houtcome⟩ := hsettles
  cases h.2.1.symm.trans hi
  exact (Option.some.inj houtcome).symm

theorem settles_failed {id i : Nat} (h : (plane.servers id).FailedAt i)
    (hsettles : ServerCall.Settles plane reply (.listen id i)) : ∃ error, reply = .error error := by
  obtain ⟨-, error, herror⟩ := h
  obtain ⟨state, hi, houtcome⟩ := hsettles
  cases herror.symm.trans hi
  exact ⟨error, (Option.some.inj houtcome).symm⟩

/-- The commit throws: nothing was assigned, so nothing is restored. -/
theorem restore_commit (error : String) (h : Quiet before next plane)
    (hstate : plane.prepared = some state) :
    CommitAt before next (restore kind (.commit error) state plane) := by
  obtain ⟨r, htask, hquiet, hprepared⟩ := restore_quiet kind (.commit error) h hstate
  unfold CommitAt
  rw [htask]
  exact ⟨hquiet, by rw [hprepared]; rfl⟩

theorem update_committed {flags : Bool × Bool × Bool} {current : Nat}
    {Old Candidate : ControlServer τ → Prop}
    (h : ControlStage before next plane flags current Old Candidate) :
    ControlStage before next (markCommitted plane) flags current Old Candidate :=
  h.update (fun _ => ⟨rfl, rfl, rfl, rfl, rfl⟩) (fun _ hflags => hflags)

theorem update_swapped {a b : Bool} {current : Nat} {Old Candidate : ControlServer τ → Prop}
    (h : ControlStage before next plane (a, b, false) current Old Candidate) :
    ControlStage before next (plane.update fun state => { state with hostSwapped := true })
      (a, b, true) current Old Candidate := by
  refine h.update (fun _ => ⟨rfl, rfl, rfl, rfl, rfl⟩) (fun state hflags => ?_)
  simp only [ControlPrepared.flags, Prod.mk.injEq] at hflags ⊢
  exact ⟨hflags.1, hflags.2.1, trivial⟩

theorem update_stopped {a c b : Bool} {current : Nat} {Old Candidate : ControlServer τ → Prop}
    (h : ControlStage before next plane (a, b, c) current Old Candidate) (b' : Bool) :
    ControlStage before next (plane.update fun state => { state with oldStopped := b' })
      (a, b', c) current Old Candidate := by
  refine h.update (fun _ => ⟨rfl, rfl, rfl, rfl, rfl⟩) (fun state hflags => ?_)
  simp only [ControlPrepared.flags, Prod.mk.injEq] at hflags ⊢
  exact ⟨hflags.1, trivial, hflags.2.2⟩

theorem update_started {a b c : Bool} {current : Nat} {Old Candidate : ControlServer τ → Prop}
    (h : ControlStage before next plane (a, b, c) current Old Candidate) (a' : Bool) :
    ControlStage before next (plane.update fun state => { state with candidateStarted := a' })
      (a', b, c) current Old Candidate := by
  refine h.update (fun _ => ⟨rfl, rfl, rfl, rfl, rfl⟩) (fun state hflags => ?_)
  simp only [ControlPrepared.flags, Prod.mk.injEq] at hflags ⊢
  exact ⟨trivial, hflags.2.1, hflags.2.2⟩

section Swap

variable {b : Bool} {Old Candidate : ControlServer τ → Prop}

/-- The disabled server becomes the current one. -/
theorem took_disabled
    (h : ControlStage before next plane (false, b, false) before.current Old Candidate)
    (hstate : plane.prepared = some state) (hstrategy : state.strategy = .disable)
    (hrolledBack : state.rolledBack = false) {state' : ControlPrepared τ}
    (hnext : state'.nextConfig = next)
    (hold : before.runtimeStarted = true ∧ b = true ∧ Old = ControlServer.Down ∨
      before.runtimeStarted = false ∧ b = false ∧ Old = Back before) :
    Took before next (commitDisabled state' plane) := by
  obtain ⟨hflags, hdescribes⟩ := h.prepared state hstate
  have hnone : state.candidateServer = none := by
    have hcandidate := hdescribes.candidate
    rw [hstrategy] at hcandidate
    simpa using hcandidate
  have hstage := update_committed (update_swapped ((h.createServer state'.nextConfig).replaceServer
    plane.created))
  have hcandidate : (commitDisabled state' plane).candidate = none := by
    show Option.bind (Option.map _ (Option.map _ plane.prepared)) _ = none
    rw [hstate]
    exact hnone
  refine ⟨?_, _, ControlPlane.update_prepared (ControlPlane.update_prepared hstate _) _, rfl,
    hrolledBack, .inr ⟨?_, h.created, Nat.lt_succ_self _, fun candidate hid => ?_, ?_⟩⟩
  · show (Function.update plane.servers plane.created _ plane.created).config = next
    rw [Function.update_self]
    exact hnext
  · exact fun heq => by cases hstrategy.symm.trans heq
  · rw [show state.candidateServer = some candidate from hid] at hnone
    cases hnone
  · rcases hold with ⟨hstarted, rfl, rfl⟩ | ⟨hstarted, rfl, rfl⟩
    · refine .inl ⟨hstarted, ?_⟩
      rw [show ({ state with hostSwapped := true, committed := true } :
        ControlPrepared τ).candidateServer.isSome = false by rw [hnone]; rfl]
      exact hstage.of_no_candidate hcandidate
    · exact .inr ⟨hstarted, hstage.of_no_candidate hcandidate⟩

/-- The candidate becomes the current server. -/
theorem took_candidate {a : Bool}
    (h : ControlStage before next plane (a, b, false) before.current Old Candidate)
    (hstate : plane.prepared = some state) {candidate : Nat}
    (hcandidate : state.candidateServer = some candidate) (hrolledBack : state.rolledBack = false)
    (hold : before.runtimeStarted = true ∧ a = true ∧ b = true ∧ Old = ControlServer.Down ∧
        Candidate = ControlServer.Up ∨
      before.runtimeStarted = false ∧ a = false ∧ b = false ∧ Old = Back before ∧
        Candidate = ControlServer.Down) :
    Took before next (commitCandidate candidate plane) := by
  obtain ⟨hflags, hdescribes⟩ := h.prepared state hstate
  have hid : plane.candidate = some candidate := by
    rw [ControlPlane.candidate_eq hstate]
    exact hcandidate
  obtain ⟨hge, hlt, hconfig, -⟩ := h.candidate candidate hid
  have hstage := update_committed (update_swapped (h.replaceServer candidate))
  have hstrategy : state.strategy = .replace := by
    rw [hdescribes.candidate, hcandidate]
    rfl
  refine ⟨hconfig, _, ControlPlane.update_prepared (ControlPlane.update_prepared hstate _) _, rfl,
    hrolledBack, .inr ⟨?_, hge, hlt, fun id hid => ?_, ?_⟩⟩
  · exact fun heq => by cases hstrategy.symm.trans heq
  · exact Option.some.inj (hcandidate.symm.trans hid)
  · rcases hold with ⟨hstarted, rfl, rfl, rfl, rfl⟩ | ⟨hstarted, rfl, rfl, rfl, rfl⟩
    · refine .inl ⟨hstarted, ?_⟩
      rw [show ({ state with hostSwapped := true, committed := true } :
        ControlPrepared τ).candidateServer.isSome = true by rw [hcandidate]; rfl]
      exact hstage
    · exact .inr ⟨hstarted, hstage⟩

end Swap

/-- **The first step of a commit.** -/
theorem commit_spec (h : Quiet before next plane) (hstate : plane.prepared = some state)
    (hrolledBack : state.rolledBack = false) :
    CommitAt before next (commit kind state plane) := by
  obtain ⟨hflags, hdescribes⟩ := h.prepared state hstate
  have hstarted := h.started
  unfold commit
  cases hstrategy : state.strategy with
  | inPlace =>
    dsimp only
    rw [hdescribes.oldServer]
    split
    · next server hserver =>
      unfold ControlServer.updateConfig at hserver
      split at hserver
      · cases hserver
      · cases hserver
        refine ⟨?_, _, ControlPlane.update_prepared hstate _, rfl, hrolledBack, .inl ⟨hstrategy, ?_⟩⟩
        · have hcurrent := h.current
          show (Function.update plane.servers before.current _ plane.current).config = next
          rw [hcurrent, Function.update_self]
          exact hdescribes.nextConfig
        · rw [hdescribes.nextConfig]
          exact update_committed (h.setConfig hstate hstrategy next)
    · exact restore_commit _ h hstate
  | disable =>
    dsimp only
    rw [hstarted, hdescribes.oldServer]
    split
    · next hruns =>
      obtain ⟨hcall, hdown⟩ := ControlServer.stop_steady kind h.old.steady
      exact ⟨hcall, hruns, h.setOld (by simp) hdown, state, hstate, hstrategy, hrolledBack⟩
    · next hruns =>
      exact took_disabled h hstate hstrategy hrolledBack hdescribes.nextConfig
        (.inr ⟨by simpa using hruns, rfl, rfl⟩)
  | replace =>
    dsimp only
    cases hcandidate : state.candidateServer with
    | none => exact restore_commit _ h hstate
    | some candidate =>
      dsimp only
      rw [hstarted]
      have hid : plane.candidate = some candidate := by
        rw [ControlPlane.candidate_eq hstate]
        exact hcandidate
      split
      · next hruns =>
        obtain ⟨-, -, hconfig, hdown⟩ := h.candidate candidate hid
        obtain ⟨i, hcall, hopening⟩ := ControlServer.start_down candidate hdown
          (by rw [hconfig]; exact selectStrategy_replace (hdescribes.strategy.symm.trans hstrategy))
        exact ⟨hruns, i, hcall, h.setCandidate hid (by simp) (.inl hopening), state, hstate,
          hcandidate, hrolledBack⟩
      · next hruns =>
        exact took_candidate h hstate hcandidate hrolledBack
          (.inr ⟨by simpa using hruns, rfl, rfl, rfl, rfl⟩)

/-- **A later step of a commit.** -/
theorem resume_commit (h : CommitWaits before next plane point)
    (hsettles : Settles plane reply point) : CommitAt before next (resume kind point reply plane) := by
  cases point with
  | disableStop call =>
    obtain ⟨rfl, hruns, hstage, state, hstate, hstrategy, hrolledBack⟩ := h
    obtain rfl : reply = .ok () := hsettles
    have hresume : resume kind (.disableStop (.settled (.ok ()))) (.ok ()) plane =
        (.resolved, commitDisabled state
          (plane.update fun state => { state with oldStopped := true })) := by
      unfold resume
      rw [hstate]
      rfl
    rw [hresume]
    exact took_disabled (update_stopped hstage true) (ControlPlane.update_prepared hstate _)
      hstrategy hrolledBack (hstage.prepared state hstate).2.nextConfig (.inl ⟨hruns, rfl, rfl⟩)
  | candidateStart candidate call =>
    obtain ⟨hruns, i, rfl, hstage, state, hstate, hcandidate, hrolledBack⟩ := h
    have hid : plane.candidate = some candidate := by
      rw [ControlPlane.candidate_eq hstate]
      exact hcandidate
    have hdescribes := (hstage.prepared state hstate).2
    rcases (hstage.candidate candidate hid).2.2.2 with hopening | hup | hfailed
    · exact absurd hsettles (not_settles_opening hopening.2.1)
    · obtain rfl := settles_up hup hsettles
      have hcome : ControlStage before next plane (false, false, false) before.current
          (Back before) ControlServer.Up := hstage.restate hstage.old fun id heq => by
        obtain rfl := Option.some.inj (hid.symm.trans heq)
        exact ⟨i, hup⟩
      have hstage := update_started hcome true
      obtain ⟨hcall, hdown⟩ := ControlServer.stop_steady kind hstage.old.steady
      have hresume : resume kind (.candidateStart candidate (.listen candidate i)) (.ok ()) plane =
          resumeHeld kind state (.candidateStart candidate (.listen candidate i)) (.ok ()) plane := by
        unfold resume
        rw [hstate]
      rw [hresume]
      unfold resumeHeld
      rw [hdescribes.oldServer]
      exact ⟨hcall, hruns, hstage.setOld (by simp) hdown, _, ControlPlane.update_prepared hstate _,
        hcandidate, hrolledBack⟩
    · obtain ⟨error, rfl⟩ := settles_failed hfailed hsettles
      have hquiet : Quiet before next plane := hstage.restate hstage.old fun id heq => by
        obtain rfl := Option.some.inj (hid.symm.trans heq)
        exact hfailed.1
      have hresume : resume kind (.candidateStart candidate (.listen candidate i)) (.error error)
          plane = restore kind (.commit error) state plane := by
        unfold resume
        rw [hstate]
        rfl
      rw [hresume]
      exact restore_commit _ hquiet hstate
  | replaceStop candidate call =>
    obtain ⟨rfl, hruns, hstage, state, hstate, hcandidate, hrolledBack⟩ := h
    obtain rfl : reply = .ok () := hsettles
    have hresume : resume kind (.replaceStop candidate (.settled (.ok ()))) (.ok ()) plane =
        (.resolved, commitCandidate candidate
          (plane.update fun state => { state with oldStopped := true })) := by
      unfold resume
      rw [hstate]
      rfl
    rw [hresume]
    exact took_candidate (update_stopped hstage true) (ControlPlane.update_prepared hstate _)
      hcandidate hrolledBack (.inl ⟨hruns, rfl, rfl, rfl, rfl⟩)
  | restored caller r =>
    cases caller with
    | rollback => exact h.elim
    | commit error =>
      obtain ⟨hquiet, hsome⟩ := h
      obtain ⟨state, hstate⟩ := Option.isSome_iff_exists.mp hsome
      have hresume : resume kind (.restored (.commit error) r) reply plane =
          restoreEnd (.commit error) reply plane := by
        unfold resume
        rw [hstate]
        cases reply <;> rfl
      rw [hresume]
      cases reply with
      | ok u => exact hquiet
      | error e => exact hquiet
  | probing _ _ _ => exact h.elim
  | restoreStop _ _ => exact h.elim
  | restoreStart _ _ => exact h.elim
  | cleanupStop _ => exact h.elim

end ControlAdapter

namespace ControlAdapter

variable {kind : ControlServerKind} {before plane : ControlPlane τ} {next : ControlServerConfig τ}
  {state : ControlPrepared τ} {reply : Except String Unit} {point : ControlSuspended τ}

theorem update_unswapped {a b : Bool} {current : Nat} {Old Candidate : ControlServer τ → Prop}
    (h : ControlStage before next plane (a, b, true) current Old Candidate) :
    ControlStage before next (plane.update fun state => { state with hostSwapped := false })
      (a, b, false) current Old Candidate := by
  refine h.update (fun _ => ⟨rfl, rfl, rfl, rfl, rfl⟩) (fun state hflags => ?_)
  simp only [ControlPrepared.flags, Prod.mk.injEq] at hflags ⊢
  exact ⟨hflags.1, hflags.2.1, trivial⟩

theorem rollback_quiet (h : Quiet before next plane) (hstate : plane.prepared = some state) :
    RollbackAt before next (rollback kind state plane) := by
  obtain ⟨r, htask, hquiet, -⟩ := restore_quiet kind .rollback h hstate
  unfold RollbackAt rollback
  rw [htask]
  exact hquiet

/-- `restoreMetricsState` of an object whose server was swapped in. -/
theorem restore_swapped (hne : state.strategy ≠ .inPlace) (hswapped : state.hostSwapped = true) :
    restore kind .rollback state plane =
      let plane := (plane.replaceServer state.oldServer).update
        fun state => { state with hostSwapped := false }
      match state.candidateServer with
      | some candidate =>
        if state.candidateStarted then
          let stopped := plane.call candidate (ControlServer.stop kind)
          (.suspended (.restoreStop .rollback stopped.1), stopped.2)
        else restoreOld .rollback state plane
      | none => restoreOld .rollback state plane := by
  unfold restore
  rw [if_neg hne, hswapped]
  rfl

/-- `updateConfig` takes the old config back. -/
theorem restore_inPlace
    (h : ControlStage before next plane (false, false, false) before.current (Turned before next)
      ControlServer.Down) (hstate : plane.prepared = some state)
    (hinPlace : state.strategy = .inPlace) :
    restore kind .rollback state plane = (.suspended (.restored .rollback (.ok ())),
      plane.setServer before.current
        { plane.servers before.current with config := (before.servers before.current).config }) := by
  obtain ⟨-, hdescribes⟩ := h.prepared state hstate
  obtain ⟨henabled, hlisten, hport⟩ := selectStrategy_inPlace (hdescribes.strategy.symm.trans hinPlace)
  rw [hdescribes.oldConfig] at henabled hlisten hport
  unfold restore ControlServer.updateConfig
  rw [if_pos hinPlace, hdescribes.oldServer, hdescribes.oldConfig, h.old.1, henabled, hlisten, hport]
  simp

/-- **The first step of a rollback.** -/
theorem rollback_spec (hready : before.Ready) (h : Took before next plane)
    (hstate : plane.prepared = some state) : RollbackAt before next (rollback kind state plane) := by
  obtain ⟨-, state', hstate', hcommitted, hrolledBack, hcases⟩ := h
  cases hstate.symm.trans hstate'
  rcases hcases with ⟨hinPlace, hstage⟩ | ⟨hne, -, -, -, hcases⟩
  · unfold rollback
    rw [restore_inPlace hstage hstate hinPlace]
    exact hstage.setConfig hstate hinPlace _
  unfold rollback
  rcases hcases with ⟨hruns, hstage⟩ | ⟨hruns, hstage⟩
  · obtain ⟨hflags, hdescribes⟩ := hstage.prepared state hstate
    simp only [ControlPrepared.flags, Prod.mk.injEq] at hflags
    obtain ⟨hstarted, hstopped, hswapped⟩ := hflags
    have hback := update_unswapped (hstage.replaceServer before.current)
    rw [restore_swapped hne hswapped, hdescribes.oldServer]
    cases hcandidate : state.candidateServer with
    | none =>
      rw [hcandidate] at hback
      have hnone : ((plane.replaceServer before.current).update
          fun state => { state with hostSwapped := false }).candidate = none := by
        rw [← hcandidate, ← ControlPlane.candidate_eq hstate]
        exact ControlPlane.update_candidate fun _ => rfl
      obtain ⟨call, htask, hwaits⟩ := restoreOld_stopped hready hruns
        ⟨hback.of_no_candidate hnone, _, ControlPlane.update_prepared hstate _, hne, hcommitted,
          hrolledBack⟩ hstopped hdescribes.oldServer
      unfold RollbackAt
      rw [htask]
      exact hwaits
    | some candidate =>
      dsimp only
      rw [hcandidate] at hback hstarted
      have hstarted : state.candidateStarted = true := hstarted
      rw [if_pos hstarted]
      have hid : ((plane.replaceServer before.current).update
          fun state => { state with hostSwapped := false }).candidate = some candidate := by
        rw [← hcandidate, ← ControlPlane.candidate_eq hstate]
        exact ControlPlane.update_candidate fun _ => rfl
      obtain ⟨i, hup⟩ := (hback.candidate candidate hid).2.2.2
      obtain ⟨hcall, hdown⟩ := hup.stop kind
      exact ⟨hcall, hruns, hback.setCandidate hid (by simp) hdown, _,
        ControlPlane.update_prepared hstate _, hne, hcommitted, hrolledBack⟩
  · obtain ⟨hflags, hdescribes⟩ := hstage.prepared state hstate
    simp only [ControlPrepared.flags, Prod.mk.injEq] at hflags
    obtain ⟨hstarted, hstopped, hswapped⟩ := hflags
    have hback := update_unswapped (hstage.replaceServer before.current)
    rw [restore_swapped hne hswapped, hdescribes.oldServer]
    have hkept := restoreOld_kept .rollback ((plane.replaceServer before.current).update
      fun state => { state with hostSwapped := false }) hstopped
    cases hcandidate : state.candidateServer with
    | none =>
      dsimp only
      rw [hkept]
      exact hback
    | some candidate =>
      dsimp only
      rw [hstarted, if_neg Bool.false_ne_true, hkept]
      exact hback

variable (kind) in
/-- **A later step of a rollback.** -/
theorem resume_rollback (hready : before.Ready) (h : RollbackWaits before next plane point)
    (hsettles : Settles plane reply point) :
    RollbackAt before next (resume kind point reply plane) := by
  cases point with
  | restoreStop caller call =>
    cases caller with
    | commit error => exact h.elim
    | rollback =>
      obtain ⟨rfl, hruns, hstage, state, hstate, hne, htaken⟩ := h
      obtain rfl : reply = .ok () := hsettles
      obtain ⟨hflags, hdescribes⟩ := hstage.prepared state hstate
      simp only [ControlPrepared.flags, Prod.mk.injEq] at hflags
      have hresume : resume kind (.restoreStop .rollback (.settled (.ok ()))) (.ok ()) plane =
          restoreOld .rollback state
            (plane.update fun state => { state with candidateStarted := false }) := by
        unfold resume
        rw [hstate]
        rfl
      obtain ⟨call, htask, hwaits⟩ := restoreOld_stopped hready hruns
        ⟨update_started hstage false, _, ControlPlane.update_prepared hstate _, hne, htaken⟩
        hflags.2.1 hdescribes.oldServer
      rw [hresume]
      unfold RollbackAt
      rw [htask]
      exact hwaits
  | restoreStart caller call =>
    cases caller with
    | commit error => exact h.elim
    | rollback =>
      obtain ⟨hruns, hcases⟩ := h
      have hresume : ∀ state, plane.prepared = some state →
          resume kind (.restoreStart .rollback call) (.ok ()) plane =
            (.suspended (.restored .rollback (.ok ())),
              plane.update fun state => { state with oldStopped := false }) := by
        intro state hstate
        unfold resume
        rw [hstate]
        rfl
      rcases hcases with ⟨rfl, hstage, state, hstate, -⟩ |
        ⟨i, rfl, hup, hstage, state, hstate, hne, -⟩
      · obtain rfl : reply = .ok () := hsettles
        rw [hresume state hstate]
        exact update_stopped hstage false
      · rcases hstage.old with hopening | hat
        · exact absurd hsettles (not_settles_opening hopening.2.1)
        · obtain rfl := settles_up hat hsettles
          rw [hresume state hstate]
          have hconfig := hstage.config fun state' hstate' => by
            cases hstate.symm.trans hstate'
            exact hne
          exact update_stopped (hstage.restate ⟨hconfig, .inl ⟨hup, i, hat⟩⟩
            fun id hid => (hstage.candidate id hid).2.2.2) false
  | restored caller r =>
    cases caller with
    | commit error => exact h.elim
    | rollback =>
      have hquiet : Quiet before next plane := h
      cases hstate : plane.prepared with
      | none =>
        have hresume : resume kind (.restored .rollback r) reply plane = (.resolved, plane) := by
          unfold resume
          rw [hstate]
        rw [hresume]
        exact hquiet
      | some state =>
        have hresume : resume kind (.restored .rollback r) reply plane =
            restoreEnd .rollback reply plane := by
          unfold resume
          rw [hstate]
          cases reply <;> rfl
        rw [hresume]
        cases reply with
        | error error => exact hquiet
        | ok u => exact hquiet.update (fun _ => ⟨rfl, rfl, rfl, rfl, rfl⟩) (fun _ hflags => hflags)
  | probing _ _ _ => exact h.elim
  | disableStop _ => exact h.elim
  | candidateStart _ _ => exact h.elim
  | replaceStop _ _ => exact h.elim
  | cleanupStop _ => exact h.elim

end ControlAdapter

end Sepigs
