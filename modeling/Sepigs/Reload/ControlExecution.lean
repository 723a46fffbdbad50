import Sepigs.Reload.ControlRuns
import Sepigs.Reload.ControlUnwinding

/-!
# The operations of an execution before they fail

What `prepare`, `healthCheck` and `commit` lead to when they are raced (`performs_prepare`,
`performs_healthCheck`, `performs_commit`), whatever goes on beside them.
-/

namespace Sepigs

variable {κ ν τ : Type}

open ControlPlane

/-! ## Runs -/

namespace ControlAdapter

variable {kind : ControlServerKind} {condition : ControlCondition τ} {before plane : ControlPlane τ}
  {next : ControlServerConfig τ}

/-- **The rule for a method that is raced**, beside methods that only probe. -/
theorem runs_raced {Q : ControlTask τ × ControlPlane τ → Prop}
    (hlistened : ∀ task plane id i outcome,
      (plane.servers id).httpServers[i]? = some .opening → Q (task, plane) →
      Q (task, plane.setServer id ((plane.servers id).listened i outcome)))
    (hcreate : ∀ task plane config, Q (task, plane) → Q (task, plane.createServer config))
    (hresume : ∀ point plane reply, Settles plane reply point → Q (.suspended point, plane) →
      Q (resume kind point reply plane))
    {task task' : ControlTask τ} {s t : ControlScene τ}
    (hruns : Runs kind condition (task, s) (task', t)) (h : Q (task, s.plane))
    (hprobing : ∀ x ∈ s.abandoned, Probing x) : Q (task', t.plane) ∧ ∀ x ∈ t.abandoned, Probing x := by
  have hstep : ∀ x y : ControlTask τ × ControlScene τ, Step kind condition x y →
      Q (x.1, x.2.plane) ∧ (∀ z ∈ x.2.abandoned, Probing z) →
      Q (y.1, y.2.plane) ∧ ∀ z ∈ y.2.abandoned, Probing z := by
    rintro x y hstep ⟨hq, hall⟩
    cases hstep with
    | listened hopening hcondition => exact ⟨hlistened _ _ _ _ _ hopening hq, hall⟩
    | raced hsettles => exact ⟨hresume _ _ _ hsettles hq, hall⟩
    | @abandoned task s k point reply hk hsettles =>
      obtain ⟨hover, hplane⟩ := resume_probing kind s.plane reply
        (hall _ (List.mem_of_getElem? hk))
      refine ⟨?_, all_set hall hover.probing⟩
      rcases hplane with heq | ⟨config, heq⟩
      · show Q (task, (resume kind point reply s.plane).2)
        rw [heq]
        exact hq
      · show Q (task, (resume kind point reply s.plane).2)
        rw [heq]
        exact hcreate _ _ _ hq
  refine Relation.ReflTransGen.head_induction_on (motive := fun x _ =>
    Q (x.1, x.2.plane) ∧ (∀ z ∈ x.2.abandoned, Probing z) →
    Q (task', t.plane) ∧ ∀ z ∈ t.abandoned, Probing z) hruns (fun h => h) ?_ ⟨h, hprobing⟩
  exact fun h _ ih hx => ih (hstep _ _ h hx)

section Fresh

variable (before next) in
/-- Before the commit. -/
structure Fresh (plane : ControlPlane τ) : Prop where
  quiet : Quiet before next plane
  rolledBack : ∀ state, plane.prepared = some state → state.rolledBack = false

theorem Fresh.listened (h : Fresh before next plane) {id i : Nat} {outcome : Except String Unit}
    (hopening : (plane.servers id).httpServers[i]? = some .opening) :
    Fresh before next (plane.setServer id ((plane.servers id).listened i outcome)) :=
  ⟨h.quiet.listened hopening, h.rolledBack⟩

theorem Fresh.createServer (h : Fresh before next plane) (config : ControlServerConfig τ) :
    Fresh before next (plane.createServer config) :=
  ⟨ControlStage.createServer h.quiet config, h.rolledBack⟩

/-- The executor keeps another prepared object, whose candidate was made and not started. -/
theorem Fresh.prepared (h : Fresh before next plane) {value : ControlPrepared τ}
    (hflags : value.flags = (false, false, false)) (hdescribes : value.Describes before next)
    (hrolledBack : value.rolledBack = false)
    (hcandidate : ∀ id, value.candidateServer = some id →
      before.created ≤ id ∧ id < plane.created ∧ (plane.servers id).config = next) :
    Fresh before next { plane with prepared := some value } := by
  have hdown : ∀ id, before.created ≤ id → id < plane.created → (plane.servers id).Down := by
    intro id hge hlt
    by_cases hid : plane.candidate = some id
    · exact (h.quiet.candidate id hid).2.2.2
    · exact h.quiet.rest id hge hlt hid
  refine ⟨⟨h.quiet.old_lt, h.quiet.created, h.quiet.started, h.quiet.current, h.quiet.old,
    fun id hid => ?_, fun id hge hlt _ => hdown id hge hlt, ?_, fun _ => h.quiet.old.1⟩, ?_⟩
  · obtain ⟨hge, hlt, hconfig⟩ := hcandidate id hid
    exact ⟨hge, hlt, hconfig, hdown id hge hlt⟩
  · intro state hstate
    cases hstate
    exact ⟨hflags, hdescribes⟩
  · intro state hstate
    cases hstate
    exact hrolledBack

end Fresh

section Prepare

variable (before next) in
/-- Where a `prepare` stands. -/
def PrepareAt (result : ControlTask τ × ControlPlane τ) : Prop :=
  Fresh before next result.2 ∧
    match result.1 with
    | .prepared value => Fresh before next { result.2 with prepared := some value }
    | .rejected _ => True
    | .suspended (.probing oldServer oldConfig nextConfig) =>
      oldServer = before.current ∧ oldConfig = (before.servers before.current).config ∧
        nextConfig = next
    | _ => False

theorem prepareValue_spec (h : Fresh before next plane) :
    PrepareAt before next (prepareValue next before.current
      (before.servers before.current).config plane) := by
  unfold prepareValue
  dsimp only
  split
  · next hstrategy =>
    refine ⟨h.createServer next, (h.createServer next).prepared rfl
      ⟨rfl, rfl, rfl, rfl, ?_⟩ rfl fun id hid => ?_⟩
    · simp [hstrategy]
    · cases hid
      refine ⟨h.quiet.created, Nat.lt_succ_self _, ?_⟩
      show (Function.update plane.servers plane.created _ plane.created).config = next
      rw [Function.update_self]
      rfl
  · next hstrategy =>
    refine ⟨h, h.prepared rfl ⟨rfl, rfl, rfl, rfl, fun heq => absurd heq hstrategy, ?_⟩ rfl ?_⟩
    · exact fun hsome => by cases hsome
    · exact fun id hid => by cases hid

theorem prepare_spec (h : Fresh before next plane) : PrepareAt before next (prepare next plane) := by
  have hconfig : (plane.servers plane.current).config = (before.servers before.current).config := by
    rw [h.quiet.current]
    exact h.quiet.old.1
  unfold prepare
  dsimp only
  rw [hconfig, h.quiet.current]
  split
  · exact ⟨h, rfl, rfl, rfl⟩
  · exact prepareValue_spec h

theorem runs_prepare {task : ControlTask τ} {s t : ControlScene τ}
    (hruns : Runs kind condition ((prepare next s.plane).1, s.setPlane (prepare next s.plane).2)
      (task, t)) (h : Fresh before next s.plane) (hprobing : ∀ x ∈ s.abandoned, Probing x) :
    PrepareAt before next (task, t.plane) ∧ ∀ x ∈ t.abandoned, Probing x := by
  refine runs_raced ?_ ?_ ?_ hruns (prepare_spec h) hprobing
  · rintro task plane id i outcome hopening ⟨hfresh, htask⟩
    refine ⟨hfresh.listened hopening, ?_⟩
    cases task with
    | prepared value => exact Fresh.listened htask hopening
    | resolved => exact htask
    | rejected error => trivial
    | suspended point =>
      cases point with
      | probing _ _ _ => exact htask
      | _ => exact htask.elim
  · rintro task plane config ⟨hfresh, htask⟩
    refine ⟨hfresh.createServer config, ?_⟩
    cases task with
    | prepared value => exact Fresh.createServer htask config
    | resolved => exact htask
    | rejected error => trivial
    | suspended point =>
      cases point with
      | probing _ _ _ => exact htask
      | _ => exact htask.elim
  · rintro point plane reply hsettles ⟨hfresh, htask⟩
    cases point with
    | probing oldServer oldConfig nextConfig =>
      obtain ⟨rfl, rfl, rfl⟩ := htask
      cases reply with
      | ok u => exact prepareValue_spec hfresh
      | error error => exact ⟨hfresh, trivial⟩
    | _ => exact htask.elim

end Prepare

section Commit

theorem Took.listened (h : Took before next plane) {id i : Nat} {outcome : Except String Unit}
    (hopening : (plane.servers id).httpServers[i]? = some .opening) :
    Took before next (plane.setServer id ((plane.servers id).listened i outcome)) := by
  obtain ⟨hconfig, state, hstate, hcommitted, hrolledBack, hcases⟩ := h
  refine ⟨?_, state, hstate, hcommitted, hrolledBack, ?_⟩
  · rw [← hconfig]
    by_cases hid : plane.current = id
    · subst hid
      simp [ControlPlane.setServer]
    · simp [ControlPlane.setServer, hid]
  rcases hcases with ⟨hstrategy, hstage⟩ | ⟨hne, hge, hlt, hcandidate, hcases⟩
  · exact .inl ⟨hstrategy, hstage.listened hopening (fun _ _ hi hs => hs.listened hi)
      (fun _ _ hi hs => hs.listened hi)⟩
  · refine .inr ⟨hne, hge, hlt, hcandidate, ?_⟩
    rcases hcases with ⟨hruns, hstage⟩ | ⟨hruns, hstage⟩
    · exact .inl ⟨hruns, hstage.listened hopening (fun _ _ hi hs => hs.listened hi)
        (fun _ _ hi hs => hs.listened hi)⟩
    · exact .inr ⟨hruns, hstage.listened hopening (fun _ _ hi hs => hs.listened hi)
        (fun _ _ hi hs => hs.listened hi)⟩

theorem Took.createServer (hold_lt : before.current < before.created)
    (hcreated : before.created ≤ plane.created) (h : Took before next plane)
    (config : ControlServerConfig τ) : Took before next (plane.createServer config) := by
  obtain ⟨hconfig, state, hstate, hcommitted, hrolledBack, hcases⟩ := h
  have hlt : plane.current < plane.created := by
    rcases hcases with ⟨-, hstage⟩ | ⟨-, -, hlt, -⟩
    · rw [hstage.current]
      omega
    · exact hlt
  refine ⟨?_, state, hstate, hcommitted, hrolledBack, ?_⟩
  · rw [← hconfig]
    exact congrArg _ (Function.update_of_ne (Nat.ne_of_lt hlt) _ _)
  rcases hcases with ⟨hstrategy, hstage⟩ | ⟨hne, hge, hlt, hcandidate, hcases⟩
  · exact .inl ⟨hstrategy, hstage.createServer config⟩
  · refine .inr ⟨hne, hge, Nat.lt_succ_of_lt hlt, hcandidate, ?_⟩
    rcases hcases with ⟨hruns, hstage⟩ | ⟨hruns, hstage⟩
    · exact .inl ⟨hruns, hstage.createServer config⟩
    · exact .inr ⟨hruns, hstage.createServer config⟩

theorem Took.bounds (h : Took before next plane) :
    before.current < before.created ∧ before.created ≤ plane.created := by
  obtain ⟨-, state, -, -, -, hcases⟩ := h
  rcases hcases with ⟨-, hstage⟩ | ⟨-, -, -, -, ⟨-, hstage⟩ | ⟨-, hstage⟩⟩
  · exact ⟨hstage.old_lt, hstage.created⟩
  · exact ⟨hstage.old_lt, hstage.created⟩
  · exact ⟨hstage.old_lt, hstage.created⟩

theorem runs_commit {task task' : ControlTask τ} {s t : ControlScene τ}
    (hruns : Runs kind condition (task, s) (task', t)) (h : CommitAt before next (task, s.plane))
    (hprobing : ∀ x ∈ s.abandoned, Probing x) :
    CommitAt before next (task', t.plane) ∧ ∀ x ∈ t.abandoned, Probing x := by
  refine runs_raced ?_ ?_ ?_ hruns h hprobing
  · intro task plane id i outcome hopening h
    cases task with
    | prepared value => exact h
    | resolved => exact Took.listened h hopening
    | rejected error => exact Quiet.listened h hopening
    | suspended point => exact CommitWaits.listened h hopening
  · intro task plane config h
    cases task with
    | prepared value => exact h
    | resolved => exact Took.createServer (Took.bounds h).1 (Took.bounds h).2 h config
    | rejected error => exact ControlStage.createServer h config
    | suspended point => exact CommitWaits.createServer h config
  · exact fun point plane reply hsettles h => resume_commit h hsettles

/-- A method that is over changes nothing any more. -/
theorem runs_over {P : ControlPlane τ → Prop}
    (hlistened : ∀ plane id i outcome, (plane.servers id).httpServers[i]? = some .opening →
      P plane → P (plane.setServer id ((plane.servers id).listened i outcome)))
    (hcreate : ∀ plane config, P plane → P (plane.createServer config))
    {task task' : ControlTask τ} {s t : ControlScene τ}
    (hruns : Runs kind condition (task, s) (task', t)) (hover : Over task) (h : P s.plane)
    (hprobing : ∀ x ∈ s.abandoned, Probing x) :
    task' = task ∧ P t.plane ∧ ∀ x ∈ t.abandoned, Probing x := by
  have hq := runs_raced (Q := fun x => x.1 = task ∧ P x.2)
    (fun _ plane id i outcome hopening h => ⟨h.1, hlistened plane id i outcome hopening h.2⟩)
    (fun _ plane config h => ⟨h.1, hcreate plane config h.2⟩)
    (fun point _ _ _ h => absurd h.1.symm (hover point)) hruns ⟨rfl, h⟩ hprobing
  exact ⟨hq.1.1, hq.1.2, hq.2⟩

theorem runs_fresh {task task' : ControlTask τ} {s t : ControlScene τ}
    (hruns : Runs kind condition (task, s) (task', t)) (hover : Over task)
    (h : Fresh before next s.plane) (hprobing : ∀ x ∈ s.abandoned, Probing x) :
    task' = task ∧ Fresh before next t.plane ∧ ∀ x ∈ t.abandoned, Probing x :=
  runs_over (fun _ _ _ _ hopening h => h.listened hopening) (fun _ config h => h.createServer config)
    hruns hover h hprobing

theorem runs_took {task task' : ControlTask τ} {s t : ControlScene τ}
    (hruns : Runs kind condition (task, s) (task', t)) (hover : Over task)
    (h : Took before next s.plane) (hprobing : ∀ x ∈ s.abandoned, Probing x) :
    task' = task ∧ Took before next t.plane ∧ ∀ x ∈ t.abandoned, Probing x :=
  runs_over (fun _ _ _ _ hopening h => h.listened hopening)
    (fun _ config h => h.createServer h.bounds.1 h.bounds.2 config) hruns hover h hprobing

end Commit

end ControlAdapter

/-! ## The executor's rule -/

namespace ControlAdapter

variable {kind : ControlServerKind} {condition : ControlCondition τ} {before : ControlPlane τ}
  {next : ControlServerConfig τ} {s t : ControlScene τ}

/-- The methods that go on are only probing. -/
def AllProbing (s : ControlScene τ) : Prop := ∀ task ∈ s.abandoned, Probing task

theorem AllProbing.append (h : AllProbing s) {plane : ControlPlane τ} {task : ControlTask τ}
    (htask : Probing task) : AllProbing ⟨plane, s.abandoned ++ [task]⟩ := by
  intro x hx
  rcases List.mem_append.mp hx with hx | hx
  · exact h x hx
  · rw [List.mem_singleton.mp hx]
    exact htask

theorem AllProbing.harmless (h : AllProbing s) : ∀ task ∈ s.abandoned, Harmless task :=
  fun task htask => (h task htask).harmless

theorem over_resolved : Over (.resolved : ControlTask τ) := fun _ heq => by cases heq

theorem over_rejected (error : String) : Over (.rejected error : ControlTask τ) :=
  fun _ heq => by cases heq

theorem Fresh.drifts (h : Fresh before next s.plane) (hprobing : AllProbing s)
    (hdrifts : Drifts kind condition s t) : Fresh before next t.plane ∧ AllProbing t :=
  (runs_fresh hdrifts over_resolved h hprobing).2

theorem Took.drifts (h : Took before next s.plane) (hprobing : AllProbing s)
    (hdrifts : Drifts kind condition s t) : Took before next t.plane ∧ AllProbing t :=
  (runs_took hdrifts over_resolved h hprobing).2

section Early

variable {adapter : κ} {entry : PreparedEntry κ ν}

theorem performs_prepare {component : κ}
    {reply : (ReloadOperation.prepare component : ReloadOperation κ ν).Reply} (h : Fresh before next s.plane)
    (hprobing : AllProbing s)
    (hperforms : Performs kind condition next adapter (.prepare component) s reply t) :
    Fresh before next t.plane ∧ AllProbing t ∧
      (component = adapter → reply.isOk = true → t.plane.prepared.isSome = true) ∧
      (component ≠ adapter → t.plane.prepared = s.plane.prepared) := by
  cases hperforms with
  | other hother =>
    exact ⟨h, hprobing, fun heq => absurd (congrArg some heq) hother, fun _ => rfl⟩
  | refused hadapter _ =>
    exact ⟨h, hprobing, fun _ hok => (by cases hok), fun hne => absurd (Option.some.inj hadapter) hne⟩
  | @received t _ task plane hadapter hruns hreceived =>
    obtain ⟨⟨hfresh, htask⟩, hall⟩ := runs_prepare hruns h hprobing
    refine ⟨?_, hall, ?_, fun hne => absurd (Option.some.inj hadapter) hne⟩
    · cases reply with
      | ok v =>
        obtain ⟨value, rfl, rfl⟩ := hreceived
        exact htask
      | error error =>
        obtain ⟨rfl, rfl⟩ := hreceived
        exact hfresh
    · intro _ hok
      cases reply with
      | ok v =>
        obtain ⟨value, rfl, rfl⟩ := hreceived
        rfl
      | error error => cases hok
  | @overtaken t error task hadapter hruns _ =>
    obtain ⟨⟨hfresh, htask⟩, hall⟩ := runs_prepare hruns h hprobing
    refine ⟨hfresh, AllProbing.append hall ?_, fun _ hok => (by cases hok),
      fun hne => absurd (Option.some.inj hadapter) hne⟩
    cases task with
    | suspended point =>
      cases point with
      | probing _ _ _ => trivial
      | _ => exact htask.elim
    | _ => trivial

theorem healthCheck_over (state : ControlPrepared τ) (plane : ControlPlane τ) :
    Over (healthCheck kind state plane).1 ∧ (healthCheck kind state plane).2 = plane := by
  unfold healthCheck
  split
  · exact ⟨over_rejected _, rfl⟩
  · exact ⟨over_resolved, rfl⟩

variable (kind next entry) in
theorem perform_healthCheck (plane : ControlPlane τ) :
    Over (perform kind next (.healthCheck entry) plane).1 ∧
      (perform kind next (.healthCheck entry) plane).2 = plane := by
  cases hstate : plane.prepared with
  | none =>
    have hperform : perform kind next (.healthCheck entry) plane = (.resolved, plane) := by
      unfold perform
      rw [hstate]
    rw [hperform]
    exact ⟨over_resolved, rfl⟩
  | some state =>
    have hperform : perform kind next (.healthCheck entry) plane = healthCheck kind state plane := by
      unfold perform
      rw [hstate]
    rw [hperform]
    exact healthCheck_over state plane

theorem runs_prepared {task task' : ControlTask τ} (hruns : Runs kind condition (task, s) (task', t))
    (hover : Over task) (h : s.plane.prepared.isSome = true) (hprobing : AllProbing s) :
    t.plane.prepared.isSome = true :=
  (runs_over (P := fun plane => plane.prepared.isSome = true) (fun _ _ _ _ _ h => h)
    (fun _ _ h => h) hruns hover h hprobing).2.1

theorem performs_healthCheck {reply : (ReloadOperation.healthCheck entry).Reply} (h : Fresh before next s.plane)
    (hprobing : AllProbing s)
    (hperforms : Performs kind condition next adapter (.healthCheck entry) s reply t) :
    Fresh before next t.plane ∧ AllProbing t ∧
      (s.plane.prepared.isSome = true → t.plane.prepared.isSome = true) := by
  cases hperforms with
  | other _ => exact ⟨h, hprobing, fun hsome => hsome⟩
  | refused _ _ => exact ⟨h, hprobing, fun hsome => hsome⟩
  | @received t _ task plane hadapter hruns hreceived =>
    obtain ⟨hover, hplane⟩ := perform_healthCheck kind next entry s.plane
    rw [hplane] at hruns
    obtain ⟨rfl, hfresh, hall⟩ := runs_fresh hruns hover h hprobing
    have heq : plane = t.plane := by
      cases reply with
      | ok u => exact hreceived.2
      | error error => exact hreceived.2
    subst heq
    exact ⟨hfresh, hall, fun hsome => runs_prepared hruns hover hsome hprobing⟩
  | @overtaken t error task hadapter hruns _ =>
    obtain ⟨hover, hplane⟩ := perform_healthCheck kind next entry s.plane
    rw [hplane] at hruns
    obtain ⟨rfl, hfresh, hall⟩ := runs_fresh hruns hover h hprobing
    have hkept : s.plane.prepared.isSome = true → t.plane.prepared.isSome = true :=
      fun hsome => runs_prepared hruns hover hsome hprobing
    exact ⟨hfresh, AllProbing.append hall hover.probing, hkept⟩

theorem performs_commit {reply : (ReloadOperation.commit entry).Reply} (h : Fresh before next s.plane)
    (hsome : s.plane.prepared.isSome = true) (hprobing : AllProbing s)
    (hperforms : Performs kind condition next adapter (.commit entry) s reply t)
    (hadapter : entry.component = adapter) :
    reply = .ok () ∧ Took before next t.plane ∧ AllProbing t ∨
      (∃ error, reply = .error error) ∧
        (Fresh before next t.plane ∧ AllProbing t ∨ Quiet before next t.plane ∧ AllProbing t ∨
          ∃ task abandoned, CommitAt before next (task, t.plane) ∧ condition.overtaken task t.plane ∧
            AllProbing ⟨t.plane, abandoned⟩ ∧ t.abandoned = abandoned ++ [task]) := by
  obtain ⟨state, hstate⟩ := Option.isSome_iff_exists.mp hsome
  have hperform : perform kind next (.commit entry) s.plane = commit kind state s.plane := by
    unfold perform
    rw [hstate]
  cases hperforms with
  | other hother => exact absurd (congrArg some hadapter) hother
  | @refused error _ _ => exact .inr ⟨⟨error, rfl⟩, .inl ⟨h, hprobing⟩⟩
  | @received t _ task plane _ hruns hreceived =>
    rw [hperform] at hruns
    obtain ⟨hat, hall⟩ := runs_commit hruns
      (commit_spec h.quiet hstate (h.rolledBack state hstate)) hprobing
    cases reply with
    | ok u =>
      obtain ⟨rfl, rfl⟩ := hreceived
      exact .inl ⟨rfl, hat, hall⟩
    | error error =>
      obtain ⟨rfl, rfl⟩ := hreceived
      exact .inr ⟨⟨error, rfl⟩, .inr (.inl ⟨hat, hall⟩)⟩
  | @overtaken t error task _ hruns hcommit =>
    rw [hperform] at hruns
    obtain ⟨hat, hall⟩ := runs_commit hruns
      (commit_spec h.quiet hstate (h.rolledBack state hstate)) hprobing
    exact .inr ⟨⟨error, rfl⟩, .inr (.inr ⟨task, t.abandoned, hat, hcommit entry rfl, hall, rfl⟩)⟩

end Early

end ControlAdapter

end Sepigs
