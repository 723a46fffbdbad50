import Sepigs.Reload.ControlMethods

/-!
# A transaction that unwinds

Beside the executor there may be methods that it no longer waits for.  `Unwinding` says which
of them a transaction that fails may have, and that the host is as it was but for what they
are about to do; every step keeps it (`Unwinding.resume`, `Unwinding.listened`).
-/

namespace Sepigs

variable {τ : Type}

open ControlPlane

/-! ## Other steps beside a method -/

namespace ControlAdapter

variable {kind : ControlServerKind} {before plane : ControlPlane τ} {next : ControlServerConfig τ}
  {reply : Except String Unit} {point : ControlSuspended τ}

namespace StageOf

variable {flags : Bool × Bool × Bool} {current : Nat} {Old Candidate : ControlServer τ → Prop}
  {P : ControlPrepared τ → Prop}

theorem createServer (h : StageOf before next plane flags current Old Candidate P)
    (config : ControlServerConfig τ) :
    StageOf before next (plane.createServer config) flags current Old Candidate P :=
  ⟨h.1.createServer config, h.2⟩

theorem listened (h : StageOf before next plane flags current Old Candidate P) {id i : Nat}
    {outcome : Except String Unit} (hopening : (plane.servers id).httpServers[i]? = some .opening)
    (hold : ∀ s : ControlServer τ, id = before.current → s.httpServers[i]? = some .opening → Old s →
      Old (s.listened i outcome))
    (hcandidate : ∀ s : ControlServer τ, plane.candidate = some id →
      s.httpServers[i]? = some .opening → Candidate s → Candidate (s.listened i outcome)) :
    StageOf before next (plane.setServer id ((plane.servers id).listened i outcome)) flags current
      Old Candidate P :=
  ⟨h.1.listened hopening hold hcandidate, h.2⟩

end StageOf

/-- A method that is over, or whose end changes nothing that matters. -/
def Harmless : ControlTask τ → Prop
  | .suspended (.probing _ _ _) | .suspended (.restored _ _) => True
  | .suspended (.cleanupStop call) => ∃ r, call = .settled r
  | .suspended _ => False
  | _ => True

/-- A method that is over, or a `prepare` that probes the port. -/
def Probing : ControlTask τ → Prop
  | .suspended (.probing _ _ _) => True
  | .suspended _ => False
  | _ => True

theorem Probing.harmless {task : ControlTask τ} (h : Probing task) : Harmless task := by
  cases task with
  | suspended point =>
    cases point with
    | probing _ _ _ => trivial
    | _ => exact h.elim
  | _ => trivial

def Over (task : ControlTask τ) : Prop := ∀ point, task ≠ .suspended point

theorem Over.probing {task : ControlTask τ} (h : Over task) : Probing task := by
  cases task with
  | suspended point => exact absurd rfl (h point)
  | _ => trivial

variable (kind reply plane) in
/-- A `prepare` goes on: it may make a server. -/
theorem resume_probing (h : Probing (.suspended point)) :
    Over (resume kind point reply plane).1 ∧ ((resume kind point reply plane).2 = plane ∨
      ∃ config, (resume kind point reply plane).2 = plane.createServer config) := by
  cases point with
  | probing oldServer oldConfig nextConfig =>
    cases reply with
    | error error => exact ⟨fun _ heq => (by cases heq), .inl rfl⟩
    | ok u =>
      show Over (prepareValue nextConfig oldServer oldConfig plane).1 ∧ _
      unfold resume prepareValue
      dsimp only
      split
      · exact ⟨fun _ heq => (by cases heq), .inr ⟨nextConfig, rfl⟩⟩
      · exact ⟨fun _ heq => (by cases heq), .inl rfl⟩
  | _ => exact h.elim

variable (kind reply plane) in
/-- What a harmless method does to the prepared object. -/
theorem resume_harmless (h : Harmless (.suspended point)) :
    Over (resume kind point reply plane).1 ∧ ((resume kind point reply plane).2 = plane ∨
      (∃ config, (resume kind point reply plane).2 = plane.createServer config) ∨
      ∃ a b c : ControlPrepared τ → Bool, (resume kind point reply plane).2 = plane.update fun state =>
        { state with
          candidateStarted := state.candidateStarted && a state
          committed := b state
          rolledBack := c state }) := by
  cases point with
  | probing oldServer oldConfig nextConfig =>
    obtain ⟨hover, heq | heq⟩ := resume_probing kind plane reply
      (show Probing (.suspended (.probing oldServer oldConfig nextConfig)) from trivial)
    · exact ⟨hover, .inl heq⟩
    · exact ⟨hover, .inr (.inl heq)⟩
  | restored caller r =>
    cases hstate : plane.prepared with
    | none =>
      have hresume : resume kind (.restored caller r) reply plane = (.resolved, plane) := by
        unfold resume
        rw [hstate]
      rw [hresume]
      exact ⟨fun _ heq => (by cases heq), .inl rfl⟩
    | some state =>
      have hresume : resume kind (.restored caller r) reply plane = restoreEnd caller reply plane := by
        unfold resume
        rw [hstate]
        cases reply <;> rfl
      rw [hresume]
      cases reply with
      | error error => exact ⟨fun _ heq => (by cases heq), .inl rfl⟩
      | ok u =>
        cases caller with
        | commit error => exact ⟨fun _ heq => (by cases heq), .inl rfl⟩
        | rollback =>
          refine ⟨fun _ heq => (by cases heq), .inr (.inr ⟨fun _ => true, fun _ => false,
            fun _ => true, ?_⟩)⟩
          unfold restoreEnd
          simp only [Bool.and_true]
  | cleanupStop call =>
    cases hstate : plane.prepared with
    | none =>
      have hresume : resume kind (.cleanupStop call) reply plane = (.resolved, plane) := by
        unfold resume
        rw [hstate]
      rw [hresume]
      exact ⟨fun _ heq => (by cases heq), .inl rfl⟩
    | some state =>
      have hresume : resume kind (.cleanupStop call) reply plane =
          resumeHeld kind state (.cleanupStop call) reply plane := by
        unfold resume
        rw [hstate]
      rw [hresume]
      cases reply with
      | error error => exact ⟨fun _ heq => (by cases heq), .inl rfl⟩
      | ok u =>
        refine ⟨fun _ heq => (by cases heq), .inr (.inr ⟨fun _ => false,
          ControlPrepared.committed, ControlPrepared.rolledBack, ?_⟩)⟩
        unfold resumeHeld
        simp only [Bool.and_false]
  | disableStop _ => exact h.elim
  | candidateStart _ _ => exact h.elim
  | replaceStop _ _ => exact h.elim
  | restoreStop _ _ => exact h.elim
  | restoreStart _ _ => exact h.elim

theorem update_harmless {b c : Bool} {current : Nat} {Old Candidate : ControlServer τ → Prop}
    (h : ControlStage before next plane (false, b, c) current Old Candidate)
    (a d e : ControlPrepared τ → Bool) :
    ControlStage before next (plane.update fun state =>
      { state with
        candidateStarted := state.candidateStarted && a state
        committed := d state
        rolledBack := e state }) (false, b, c) current Old Candidate := by
  refine h.update (fun _ => ⟨rfl, rfl, rfl, rfl, rfl⟩) (fun state hflags => ?_)
  simp only [ControlPrepared.flags, Prod.mk.injEq] at hflags ⊢
  refine ⟨?_, hflags.2⟩
  rw [hflags.1]
  rfl

section Listened

variable {id i : Nat} {outcome : Except String Unit}

theorem Quiet.listened (h : Quiet before next plane)
    (hopening : (plane.servers id).httpServers[i]? = some .opening) :
    Quiet before next (plane.setServer id ((plane.servers id).listened i outcome)) :=
  ControlStage.listened h hopening (fun _ _ hi hs => hs.listened hi) (fun _ _ hi hs => hs.listened hi)

theorem CommitWaits.listened (h : CommitWaits before next plane point)
    (hopening : (plane.servers id).httpServers[i]? = some .opening) :
    CommitWaits before next (plane.setServer id ((plane.servers id).listened i outcome)) point := by
  cases point with
  | disableStop call =>
    obtain ⟨hcall, hruns, hstage⟩ := h
    exact ⟨hcall, hruns, hstage.listened hopening (fun _ _ hi hs => hs.listened hi)
      (fun _ _ hi hs => hs.listened hi)⟩
  | candidateStart candidate call =>
    obtain ⟨hruns, j, hcall, hstage⟩ := h
    exact ⟨hruns, j, hcall, hstage.listened hopening (fun _ _ hi hs => hs.listened hi)
      (fun _ _ hi hs => hs.listened hi)⟩
  | replaceStop candidate call =>
    obtain ⟨hcall, hruns, hstage⟩ := h
    exact ⟨hcall, hruns, hstage.listened hopening (fun _ _ hi hs => hs.listened hi)
      (fun _ _ hi hs => hs.listened hi)⟩
  | restored caller r =>
    cases caller with
    | rollback => exact h.elim
    | commit error => exact ⟨h.1.listened hopening, h.2⟩
  | probing _ _ _ => exact h.elim
  | restoreStop _ _ => exact h.elim
  | restoreStart _ _ => exact h.elim
  | cleanupStop _ => exact h.elim

theorem CommitWaits.createServer (h : CommitWaits before next plane point)
    (config : ControlServerConfig τ) :
    CommitWaits before next (plane.createServer config) point := by
  cases point with
  | disableStop call => exact ⟨h.1, h.2.1, h.2.2.createServer config⟩
  | candidateStart candidate call =>
    obtain ⟨hruns, j, hcall, hstage⟩ := h
    exact ⟨hruns, j, hcall, hstage.createServer config⟩
  | replaceStop candidate call => exact ⟨h.1, h.2.1, h.2.2.createServer config⟩
  | restored caller r =>
    cases caller with
    | rollback => exact h.elim
    | commit error => exact ⟨ControlStage.createServer h.1 config, h.2⟩
  | probing _ _ _ => exact h.elim
  | restoreStop _ _ => exact h.elim
  | restoreStart _ _ => exact h.elim
  | cleanupStop _ => exact h.elim

/-- The old server must come up when a rollback starts it. -/
theorem RollbackWaits.listened (h : RollbackWaits before next plane point)
    (hopening : (plane.servers id).httpServers[i]? = some .opening)
    (houtcome : point = .restoreStart .rollback (.listen id i) → ∀ error, outcome ≠ .error error) :
    RollbackWaits before next (plane.setServer id ((plane.servers id).listened i outcome)) point := by
  cases point with
  | restoreStop caller call =>
    cases caller with
    | commit error => exact h.elim
    | rollback =>
      obtain ⟨hcall, hruns, hstage⟩ := h
      exact ⟨hcall, hruns, hstage.listened hopening (fun _ _ hi hs => hs.listened hi)
        (fun _ _ hi hs => hs.listened hi)⟩
  | restoreStart caller call =>
    cases caller with
    | commit error => exact h.elim
    | rollback =>
      obtain ⟨hruns, ⟨hcall, hstage⟩ | ⟨j, rfl, hup, hstage⟩⟩ := h
      · exact ⟨hruns, .inl ⟨hcall, hstage.listened hopening (fun _ _ hi hs => hs.listened hi)
          (fun _ _ hi hs => hs.listened hi)⟩⟩
      · refine ⟨hruns, .inr ⟨j, rfl, hup, hstage.listened hopening ?_
          (fun _ _ hi hs => hs.listened hi)⟩⟩
        intro s hid hi hs
        refine hs.listened hi fun heq => houtcome ?_
        rw [hid, heq]
  | restored caller r =>
    cases caller with
    | commit error => exact h.elim
    | rollback => exact Quiet.listened h hopening
  | probing _ _ _ => exact h.elim
  | disableStop _ => exact h.elim
  | candidateStart _ _ => exact h.elim
  | replaceStop _ _ => exact h.elim
  | cleanupStop _ => exact h.elim

theorem RollbackWaits.createServer (h : RollbackWaits before next plane point)
    (config : ControlServerConfig τ) :
    RollbackWaits before next (plane.createServer config) point := by
  cases point with
  | restoreStop caller call =>
    cases caller with
    | commit error => exact h.elim
    | rollback => exact ⟨h.1, h.2.1, h.2.2.createServer config⟩
  | restoreStart caller call =>
    cases caller with
    | commit error => exact h.elim
    | rollback =>
      obtain ⟨hruns, ⟨hcall, hstage⟩ | ⟨j, hcall, hup, hstage⟩⟩ := h
      · exact ⟨hruns, .inl ⟨hcall, hstage.createServer config⟩⟩
      · exact ⟨hruns, .inr ⟨j, hcall, hup, hstage.createServer config⟩⟩
  | restored caller r =>
    cases caller with
    | commit error => exact h.elim
    | rollback => exact ControlStage.createServer h config
  | probing _ _ _ => exact h.elim
  | disableStop _ => exact h.elim
  | candidateStart _ _ => exact h.elim
  | replaceStop _ _ => exact h.elim
  | cleanupStop _ => exact h.elim

/-- The candidate of an abandoned commit must not come up. -/
theorem LeftStage.listened {candidate j : Nat} (h : LeftStage before next plane candidate j)
    (hopening : (plane.servers id).httpServers[i]? = some .opening)
    (houtcome : id = candidate → i = j → outcome ≠ .ok ()) :
    LeftStage before next (plane.setServer id ((plane.servers id).listened i outcome)) candidate
      j := by
  obtain ⟨hstage, state, hstate, hcandidate⟩ := h
  refine StageOf.listened ⟨hstage, state, hstate, hcandidate⟩ hopening
    (fun _ _ hi hs => hs.listened hi) fun s hid hi hs => hs.listened hi fun heq => ?_
  refine houtcome ?_ heq
  rw [ControlPlane.candidate_eq hstate, hcandidate] at hid
  exact (Option.some.inj hid).symm

end Listened

end ControlAdapter

namespace ControlAdapter

variable {kind : ControlServerKind} {before plane : ControlPlane τ} {next : ControlServerConfig τ}
  {reply : Except String Unit} {point : ControlSuspended τ} {tasks : List (ControlTask τ)} {k : Nat}

/-- All the methods but the `k`th. -/
def Beside (P : ControlTask τ → Prop) (k : Nat) (tasks : List (ControlTask τ)) : Prop :=
  ∀ j task, j ≠ k → tasks[j]? = some task → P task

theorem Beside.set {P : ControlTask τ → Prop} (h : Beside P k tasks) {j : Nat}
    {task : ControlTask τ} (htask : P task) : Beside P k (tasks.set j task) := by
  intro l task' hl hget
  by_cases hlj : j = l
  · subst hlj
    have hlt := (List.getElem?_eq_some_iff.mp hget).1
    rw [List.length_set] at hlt
    rw [List.getElem?_set_self hlt] at hget
    cases hget
    exact htask
  · rw [List.getElem?_set_ne hlj] at hget
    exact h l task' hl hget

theorem Beside.all {P : ControlTask τ → Prop} (h : Beside P k tasks) {task : ControlTask τ}
    (htask : P task) : ∀ task' ∈ tasks.set k task, P task' := by
  intro task' hmem
  obtain ⟨l, hl⟩ := List.mem_iff_getElem?.mp hmem
  by_cases hlk : k = l
  · subst hlk
    have hlt := (List.getElem?_eq_some_iff.mp hl).1
    rw [List.length_set] at hlt
    rw [List.getElem?_set_self hlt] at hl
    cases hl
    exact htask
  · rw [List.getElem?_set_ne hlk] at hl
    exact h l task' (Ne.symm hlk) hl

theorem all_set {P : ControlTask τ → Prop} (h : ∀ task ∈ tasks, P task) {task : ControlTask τ}
    (htask : P task) : ∀ task' ∈ tasks.set k task, P task' := by
  intro task' hmem
  rcases List.mem_or_eq_of_mem_set hmem with hmem | rfl
  · exact h task' hmem
  · exact htask

variable (before next) in
/-- A transaction that will not commit any more: the host is as it was, but for an abandoned
commit whose candidate will not come up, or a rollback that is still under way. -/
def Unwinding (plane : ControlPlane τ) (tasks : List (ControlTask τ)) : Prop :=
  Quiet before next plane ∧ (∀ task ∈ tasks, Harmless task) ∨
  (∃ k candidate i, tasks[k]? = some (.suspended (.candidateStart candidate (.listen candidate i))) ∧
    Beside Harmless k tasks ∧ LeftStage before next plane candidate i) ∨
  ∃ k point, tasks[k]? = some (.suspended point) ∧ Beside Probing k tasks ∧
    RollbackWaits before next plane point

variable (kind) in
/-- An abandoned commit whose candidate did not come up. -/
theorem resume_left {candidate i : Nat} (h : LeftStage before next plane candidate i)
    (hsettles : Settles plane reply (.candidateStart candidate (.listen candidate i))) :
    Harmless (resume kind (.candidateStart candidate (.listen candidate i)) reply plane).1 ∧
      Quiet before next
        (resume kind (.candidateStart candidate (.listen candidate i)) reply plane).2 := by
  obtain ⟨hstage, state, hstate, hcandidate⟩ := h
  have hid : plane.candidate = some candidate := by
    rw [ControlPlane.candidate_eq hstate]
    exact hcandidate
  rcases (hstage.candidate candidate hid).2.2.2 with hopening | hdetached | hfailed
  · exact absurd hsettles (not_settles_opening hopening.2.1)
  · exact absurd hsettles (not_settles_opening hdetached.2.1)
  · obtain ⟨error, rfl⟩ := settles_failed hfailed hsettles
    have hquiet : Quiet before next plane := hstage.restate hstage.old fun id heq => by
      obtain rfl := Option.some.inj (hid.symm.trans heq)
      exact hfailed.1
    have hresume : resume kind (.candidateStart candidate (.listen candidate i)) (.error error)
        plane = restore kind (.commit error) state plane := by
      unfold resume
      rw [hstate]
      rfl
    rw [hresume]
    obtain ⟨r, htask, hquiet', -⟩ :=
      restore_quiet kind (.commit error) hquiet hstate
    rw [htask]
    exact ⟨trivial, hquiet'⟩

theorem Over.harmless {task : ControlTask τ} (h : Over task) : Harmless task := h.probing.harmless

variable (kind) in
/-- **A method goes on, in a transaction that unwinds.** -/
theorem Unwinding.resume (hready : before.Ready) (h : Unwinding before next plane tasks)
    (hk : tasks[k]? = some (.suspended point)) (hsettles : Settles plane reply point) :
    Unwinding before next (resume kind point reply plane).2
      (tasks.set k (ControlAdapter.resume kind point reply plane).1) := by
  have hlt : k < tasks.length := (List.getElem?_eq_some_iff.mp hk).1
  rcases h with ⟨hquiet, hall⟩ | ⟨l, candidate, i, hl, hbeside, hstage⟩ | ⟨l, point', hl, hbeside, hwaits⟩
  · obtain ⟨hover, hplane⟩ := resume_harmless kind plane reply
      (hall _ (List.mem_of_getElem? hk))
    refine .inl ⟨?_, all_set hall hover.harmless⟩
    rcases hplane with heq | ⟨config, heq⟩ | ⟨a, b, c, heq⟩
    · rw [heq]
      exact hquiet
    · rw [heq]
      exact ControlStage.createServer hquiet config
    · rw [heq]
      exact update_harmless hquiet a b c
  · by_cases hkl : k = l
    · subst hkl
      cases hk.symm.trans hl
      obtain ⟨hharmless, hquiet⟩ := resume_left kind hstage hsettles
      exact .inl ⟨hquiet, hbeside.all hharmless⟩
    · obtain ⟨hover, hplane⟩ := resume_harmless kind plane reply
        (hbeside k _ hkl hk)
      refine .inr (.inl ⟨l, candidate, i, by rw [List.getElem?_set_ne hkl]; exact hl,
        hbeside.set hover.harmless, ?_⟩)
      obtain ⟨hstage, state, hstate, hcandidate⟩ := hstage
      rcases hplane with heq | ⟨config, heq⟩ | ⟨a, b, c, heq⟩
      · rw [heq]
        exact ⟨hstage, state, hstate, hcandidate⟩
      · rw [heq]
        exact ⟨hstage.createServer config, state, hstate, hcandidate⟩
      · rw [heq]
        exact ⟨update_harmless hstage a b c, _, ControlPlane.update_prepared hstate _, hcandidate⟩
  · by_cases hkl : k = l
    · subst hkl
      cases hk.symm.trans hl
      have hat := resume_rollback kind hready hwaits hsettles
      unfold RollbackAt at hat
      cases htask : (ControlAdapter.resume kind point reply plane).1 with
      | prepared value =>
        rw [htask] at hat
        exact hat.elim
      | suspended point' =>
        rw [htask] at hat
        refine .inr (.inr ⟨k, point', List.getElem?_set_self hlt, ?_, hat⟩)
        intro j task hj hget
        rw [List.getElem?_set_ne (Ne.symm hj)] at hget
        exact hbeside j task hj hget
      | resolved =>
        rw [htask] at hat
        exact .inl ⟨hat, Beside.all (fun j task hj hget => (hbeside j task hj hget).harmless) trivial⟩
      | rejected error =>
        rw [htask] at hat
        exact .inl ⟨hat, Beside.all (fun j task hj hget => (hbeside j task hj hget).harmless) trivial⟩
    · obtain ⟨hover, hplane⟩ := resume_probing kind plane reply
        (hbeside k _ hkl hk)
      refine .inr (.inr ⟨l, point', by rw [List.getElem?_set_ne hkl]; exact hl,
        hbeside.set hover.probing, ?_⟩)
      rcases hplane with heq | ⟨config, heq⟩
      · rw [heq]
        exact hwaits
      · rw [heq]
        exact hwaits.createServer config

/-- **An `http.Server` comes up or fails, in a transaction that unwinds.** -/
theorem Unwinding.listened {id i : Nat} {outcome : Except String Unit}
    (h : Unwinding before next plane tasks)
    (hopening : (plane.servers id).httpServers[i]? = some .opening)
    (hok : outcome = .ok () → .suspended (.candidateStart id (.listen id i)) ∉ tasks)
    (herror : ∀ error, outcome = .error error →
      .suspended (.restoreStart .rollback (.listen id i)) ∉ tasks) :
    Unwinding before next (plane.setServer id ((plane.servers id).listened i outcome)) tasks := by
  rcases h with ⟨hquiet, hall⟩ | ⟨l, candidate, j, hl, hbeside, hstage⟩ | ⟨l, point, hl, hbeside, hwaits⟩
  · exact .inl ⟨hquiet.listened hopening, hall⟩
  · refine .inr (.inl ⟨l, candidate, j, hl, hbeside, hstage.listened hopening ?_⟩)
    rintro rfl rfl hout
    exact hok hout (List.mem_of_getElem? hl)
  · refine .inr (.inr ⟨l, point, hl, hbeside, hwaits.listened hopening ?_⟩)
    rintro rfl error hout
    exact herror error hout (List.mem_of_getElem? hl)

/-- A method that is over may be left out. -/
theorem Unwinding.dropLast {task : ControlTask τ} (h : Unwinding before next plane (tasks ++ [task]))
    (hover : Over task) : Unwinding before next plane tasks := by
  have hkeep : ∀ {l : Nat} {point : ControlSuspended τ},
      (tasks ++ [task])[l]? = some (.suspended point) → tasks[l]? = some (.suspended point) := by
    intro l point hl
    by_cases hlt : l < tasks.length
    · rwa [List.getElem?_append_left hlt] at hl
    · rw [List.getElem?_append_right (by omega)] at hl
      obtain ⟨hlt', heq⟩ := List.getElem?_eq_some_iff.mp hl
      simp at hlt'
      have hzero : l - tasks.length = 0 := by omega
      simp only [hzero, List.getElem_cons_zero] at heq
      exact absurd heq (hover point)
  have hbeside : ∀ {P : ControlTask τ → Prop} {l : Nat}, Beside P l (tasks ++ [task]) →
      Beside P l tasks := by
    intro P l hb j task' hj hget
    refine hb j task' hj ?_
    rw [List.getElem?_append_left (List.getElem?_eq_some_iff.mp hget).1]
    exact hget
  rcases h with ⟨hquiet, hall⟩ | ⟨l, candidate, i, hl, hb, hstage⟩ | ⟨l, point, hl, hb, hwaits⟩
  · exact .inl ⟨hquiet, fun task' hmem => hall task' (List.mem_append_left _ hmem)⟩
  · exact .inr (.inl ⟨l, candidate, i, hkeep hl, hbeside hb, hstage⟩)
  · exact .inr (.inr ⟨l, point, hkeep hl, hbeside hb, hwaits⟩)

/-- A harmless method may be added. -/
theorem Unwinding.addOver {task : ControlTask τ} (h : Unwinding before next plane tasks)
    (hover : Over task) : Unwinding before next plane (tasks ++ [task]) := by
  have hbeside : ∀ {P : ControlTask τ → Prop} {l : Nat}, P task → Beside P l tasks →
      Beside P l (tasks ++ [task]) := by
    intro P l hp hb j task' hj hget
    have hmem := List.mem_of_getElem? hget
    by_cases hlt : j < tasks.length
    · rw [List.getElem?_append_left hlt] at hget
      exact hb j task' hj hget
    · rw [List.getElem?_append_right (by omega)] at hget
      obtain ⟨hlt', heq⟩ := List.getElem?_eq_some_iff.mp hget
      simp at hlt'
      have hzero : j - tasks.length = 0 := by omega
      simp only [hzero, List.getElem_cons_zero] at heq
      rw [← heq]
      exact hp
  have hkeep : ∀ {l : Nat} {task' : ControlTask τ}, tasks[l]? = some task' →
      (tasks ++ [task])[l]? = some task' := by
    intro l task' hl
    rw [List.getElem?_append_left (List.getElem?_eq_some_iff.mp hl).1]
    exact hl
  rcases h with ⟨hquiet, hall⟩ | ⟨l, candidate, i, hl, hb, hstage⟩ | ⟨l, point, hl, hb, hwaits⟩
  · refine .inl ⟨hquiet, fun task' hmem => ?_⟩
    rcases List.mem_append.mp hmem with hmem | hmem
    · exact hall task' hmem
    · rw [List.mem_singleton.mp hmem]
      exact hover.harmless
  · exact .inr (.inl ⟨l, candidate, i, hkeep hl, hbeside hover.harmless hb, hstage⟩)
  · exact .inr (.inr ⟨l, point, hkeep hl, hbeside hover.probing hb, hwaits⟩)

end ControlAdapter

end Sepigs
