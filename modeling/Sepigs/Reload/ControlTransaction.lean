import Sepigs.Reload.ControlRecovery

/-!
# Control-plane transactions

A transaction that commits leaves the new config current and only its server running
(`execution_switches`); one that fails leaves the host as it was (`execution_unwinds`), in the
runs that `unwound` describes; in others it may not (`overtaken_commit_goes_on`).
-/

namespace Sepigs

variable {κ ν τ : Type}

open ControlPlane

namespace ControlAdapter

variable {kind : ControlServerKind} {before : ControlPlane τ} {next : ControlServerConfig τ}
  {adapter : κ} {components : List κ}

/-! ## A transaction that fails -/

section Commits

variable {es entries rest : List (PreparedEntry κ ν)} {entry : PreparedEntry κ ν}
  {s t : ControlScene τ}

/-- The entry of the adapter is committed once. -/
theorem not_has_of_nodup (hnodup : (es.map PreparedEntry.component).Nodup)
    (hes : es = entries ++ entry :: rest) (hentry : entry.component = adapter) :
    ¬ Has adapter entries := by
  intro hhas
  rw [hes, List.map_append, List.nodup_append] at hnodup
  exact hnodup.2.2 adapter hhas adapter (by simp [hentry]) rfl

theorem has_of_append (hes : es = entries ++ entry :: rest) (h : Has adapter entries) :
    Has adapter es := by
  rw [hes]
  unfold Has
  rw [List.map_append]
  exact List.mem_append_left _ h

theorem nodup_upto {component : κ} {rest : List κ} (hnodup : components.Nodup)
    (hcomponents : es.map PreparedEntry.component ++ component :: rest = components) :
    (es.map PreparedEntry.component ++ [component]).Nodup := by
  rw [← hcomponents, List.append_cons, List.nodup_append] at hnodup
  exact hnodup.1

theorem commit_other (hentry : entry.component ≠ adapter) :
    (ReloadOperation.commit entry : ReloadOperation κ ν).component ≠ some adapter :=
  fun heq => hentry (Option.some.inj heq)

theorem CommitsDone.commit_ok {condition : ControlCondition τ}
    (hnodup : (es.map PreparedEntry.component).Nodup) (hes : es = entries ++ entry :: rest)
    (h : CommitsDone before next adapter es entries s)
    (hperforms : Performs kind condition next adapter (.commit entry) s (.ok ()) t) :
    CommitsDone before next adapter es (entries ++ [entry]) t := by
  by_cases hentry : entry.component = adapter
  · have hearly := h.2 (not_has_of_nodup hnodup hes hentry)
    have hhas : Has adapter es := by
      rw [hes, Has]
      simp [hentry]
    refine ⟨fun _ => ?_, fun hnot => absurd (has_append.mpr (.inr hentry)) hnot⟩
    rcases performs_commit hearly.fresh (hearly.prepared hhas) hearly.probing hperforms hentry with
      ⟨-, htook, hprobing⟩ | ⟨⟨error, heq⟩, -⟩
    · exact ⟨htook, hprobing⟩
    · cases heq
  · obtain rfl := hperforms.eq_of_other (commit_other hentry)
    refine ⟨fun hhas => h.1 ?_, fun hnot => h.2 fun hhas => hnot (has_append.mpr (.inl hhas))⟩
    exact (has_append.mp hhas).resolve_right hentry

theorem CommitsDone.commit_error {message : String}
    (hnodup : (es.map PreparedEntry.component).Nodup) (hes : es = entries ++ entry :: rest)
    (h : CommitsDone before next adapter es entries s)
    (hperforms : Performs kind unwound next adapter (.commit entry) s (.error message) t) :
    Recovering before next adapter entries t := by
  by_cases hentry : entry.component = adapter
  · have hnot := not_has_of_nodup hnodup hes hentry
    have hhas : Has adapter es := by
      rw [hes, Has]
      simp [hentry]
    have hunwinds := ((h.2 hnot).commit hhas hentry hperforms).2 message rfl
    exact ⟨fun hhas => absurd hhas hnot, fun _ => hunwinds⟩
  · obtain rfl := hperforms.eq_of_other (commit_other hentry)
    by_cases hhas : Has adapter entries
    · exact (h.1 hhas).recovering hhas
    · exact (h.2 hhas).recovering (has_of_append hes)

end Commits

/-- The cleanup of a transaction that has committed does nothing. -/
theorem Committed.cleanedUp {condition : ControlCondition τ} {entry : PreparedEntry κ ν}
    {reply : (ReloadOperation.cleanup entry).Reply} {s t : ControlScene τ}
    (h : Committed before next s)
    (hperforms : Performs kind condition next adapter (.cleanup entry) s reply t) :
    Committed before next t := by
  obtain ⟨-, state, hstate, hcommitted, hrolledBack, -⟩ := h.took
  have hperform : perform kind next (.cleanup entry) s.plane = (.resolved, s.plane) := by
    unfold perform
    rw [hstate]
    dsimp only
    unfold cleanup
    cases state.candidateServer with
    | none => rfl
    | some candidate => simp [hcommitted, hrolledBack]
  cases hperforms with
  | other _ => exact h
  | refused _ _ => exact h
  | @received t _ task plane _ hruns hreceived =>
    rw [hperform] at hruns
    obtain ⟨rfl, htook, hprobing⟩ := runs_took hruns over_resolved h.took h.probing
    have heq : plane = t.plane := by
      cases reply with
      | ok u => exact hreceived.2
      | error error => exact hreceived.2
    subst heq
    exact ⟨htook, hprobing⟩
  | @overtaken t error task _ hruns _ =>
    rw [hperform] at hruns
    obtain ⟨rfl, htook, hprobing⟩ := runs_took hruns over_resolved h.took h.probing
    exact ⟨htook, AllProbing.append hprobing trivial⟩

section Unwound

/-- The messages of the main operations, beside the scene. -/
abbrev NotedScene (τ : Type) : Type := ControlScene τ × List String

variable (before next) in
/-- Before the commits. -/
def PreparingNoted (adapter : κ) (es : List (PreparedEntry κ ν)) (x : NotedScene τ) : Prop :=
  (es.map PreparedEntry.component).Nodup ∧ Early before next adapter es x.1

variable (before next) in
/-- What a cleanup of an execution that failed relies on. -/
def CleaningNoted (ok : Bool) (x : NotedScene τ) : Prop :=
  ok = true ∨ Blank x.2 ∨ Unwinds before next x.1

theorem CleaningNoted.drifts (hready : before.Ready) {ok : Bool} {x y : NotedScene τ}
    (h : CleaningNoted before next ok x) (hdrifts : Drifts kind unwound x.1 y.1) (hnoted : y.2 = x.2) :
    CleaningNoted before next ok y := by
  rcases h with hok | hblank | hunwinds
  · exact .inl hok
  · exact .inr (.inl (by rw [hnoted]; exact hblank))
  · exact .inr (.inr (hunwinds.drifts hready hdrifts))

/-- **The world of an execution that may fail.** -/
def unwoundProof (hready : before.Ready) (hnodup : components.Nodup) :
    ExecutorProof (fun _ (x y : NotedScene τ) => Drifts kind unwound x.1 y.1 ∧ y.2 = x.2)
      (fun (operation : ReloadOperation κ ν) x reply y =>
        Performs kind unwound next adapter operation x.1 reply y.1 ∧
          y.2 = operation.note x.2 reply)
      (fun _ _ => True) components where
  preparing es x := PreparingNoted before next adapter es x
  committing es entries x := (es.map PreparedEntry.component).Nodup ∧
    CommitsDone before next adapter es entries x.1
  recovering _ rest x := (rest.map PreparedEntry.component).Nodup ∧
    Recovering before next adapter rest x.1
  cleaning ok _ _ x := CleaningNoted before next ok x
  preparing_wait := by
    rintro es operation x y - ⟨hdrifts, -⟩ ⟨hes, hearly⟩
    exact ⟨trivial, hes, hearly.drifts hdrifts⟩
  committing_wait := by
    rintro es entries entry rest x y - ⟨hdrifts, -⟩ ⟨hes, hdone⟩
    exact ⟨trivial, hes, hdone.drifts hdrifts⟩
  recovering_wait := by
    rintro es rest entry x y ⟨hdrifts, -⟩ ⟨hrest, hrecovering⟩
    exact ⟨trivial, hrest, hrecovering.drifts hready hdrifts⟩
  cleaning_wait := by
    rintro ok es rest entry x y ⟨hdrifts, hnoted⟩ hcleaning
    exact ⟨trivial, hcleaning.drifts hready hdrifts hnoted⟩
  simple := by
    rintro phase x reply y ⟨hes, hearly⟩ ⟨hperforms, -⟩
    obtain heq := hperforms.eq_of_other (by exact fun heq => by cases heq)
    exact ⟨hes, heq ▸ hearly⟩
  prepare_ok := by
    rintro es component rest x prepared y hcomponents ⟨-, hearly⟩ ⟨hperforms, -⟩
    have hes := nodup_upto hnodup hcomponents
    refine ⟨by simpa using hes, (hearly.prepare hes hperforms).2 prepared rfl⟩
  prepare_error := by
    rintro es component rest x message y hcomponents ⟨hes, hearly⟩ ⟨hperforms, -⟩
    exact ⟨hes, (hearly.prepare (nodup_upto hnodup hcomponents) hperforms).1⟩
  healthCheck := by
    rintro es entry x reply y - ⟨hes, hearly⟩ ⟨hperforms, -⟩
    exact ⟨hes, hearly.healthCheck hperforms⟩
  prepared := by
    rintro es x - ⟨hes, hearly⟩
    exact ⟨hes, fun hhas => (by cases hhas), fun _ => hearly⟩
  commit_ok := by
    rintro es entries entry rest x y heq ⟨hes, hdone⟩ ⟨hperforms, -⟩
    exact ⟨hes, hdone.commit_ok hes heq hperforms⟩
  commit_error := by
    rintro es entries entry rest x message y heq ⟨hes, hdone⟩ ⟨hperforms, hnoted⟩
    refine ⟨⟨?_, hdone.commit_error hes heq hperforms⟩, fun hblank => .inr (.inl ?_)⟩
    · rw [heq, List.map_append, List.nodup_append] at hes
      exact hes.1
    · rw [hnoted]
      exact ⟨message, List.mem_append_right _ (List.mem_singleton.mpr rfl), hblank⟩
  committed := fun _ _ _ => .inl rfl
  abandoned := by
    rintro es x ⟨hes, hearly⟩
    exact ⟨⟨hes, hearly.recovering id⟩, .inr (.inr (hearly.fresh.unwinds hearly.probing))⟩
  rollback := by
    rintro es rest entry x reply y ⟨hrest, hrecovering⟩ ⟨hperforms, -⟩
    refine ⟨?_, hrecovering.rollback hready hrest hperforms⟩
    rw [List.map_append, List.nodup_append] at hrest
    exact hrest.1
  recovered := by
    rintro es x ⟨-, hrecovering⟩
    exact .inr (.inr (hrecovering.2 (by simp [Has])))
  cleanup := by
    rintro ok es rest entry x reply y hcleaning ⟨hperforms, hnoted⟩
    rcases hcleaning with hok | hblank | hunwinds
    · exact .inl hok
    · exact .inr (.inl (by rw [hnoted]; exact hblank.note reply))
    · exact .inr (.inr (hunwinds.cleanedUp hready hperforms))

end Unwound

end ControlAdapter

namespace ControlServer

variable {s : ControlServer τ} {i : Nat}

theorem ClosedBut.not_running (h : s.ClosedBut (some i))
    (hi : s.httpServers[i]? ≠ some .listening) : ¬ s.Running := by
  intro hrunning
  obtain ⟨j, hj⟩ := List.mem_iff_getElem?.mp hrunning
  by_cases hij : j = i
  · subst hij
    exact hi hj
  · exact (h j _ (by simpa using hij) hj).2 rfl

theorem Left.not_running (h : s.Left i) : ¬ s.Running := by
  rcases h with ⟨-, hi, hclosed⟩ | ⟨-, hi, hclosed⟩ | ⟨hdown, -⟩
  · exact hclosed.not_running (by rw [hi]; exact fun heq => by cases heq)
  · exact hclosed.not_running (by rw [hi]; exact fun heq => by cases heq)
  · exact hdown.not_running

end ControlServer

theorem ControlPlane.Turned.running_iff {before : ControlPlane τ} {config : ControlServerConfig τ}
    {s : ControlServer τ} (h : Turned before config s) :
    s.Running ↔ (before.servers before.current).Running := by
  obtain ⟨-, ⟨hup, hs⟩ | ⟨hdown, hs⟩⟩ := h
  · exact ⟨fun _ => hup.running, fun _ => hs.running⟩
  · exact ⟨fun hr => absurd hr hs.not_running, fun hr => absurd hr hdown.not_running⟩

namespace ControlAdapter

variable {kind : ControlServerKind} {before plane : ControlPlane τ} {next : ControlServerConfig τ}
  {adapter : κ} {components : List κ}

/-! ## The host after a transaction -/

variable (before) in
/-- The servers a transaction deals with: the old one, and those made since. -/
def OfTransaction (plane : ControlPlane τ) (id : Nat) : Prop :=
  id = before.current ∨ before.created ≤ id ∧ id < plane.created

variable (before) in
/-- The host is as it was before; only the old server may still be starting, in a rollback that
the executor did not wait for. -/
structure Undone (s : ControlScene τ) : Prop where
  current : s.plane.current = before.current
  config : (s.plane.servers before.current).config = (before.servers before.current).config
  others : ∀ id, OfTransaction before s.plane id → id ≠ before.current →
    ¬ (s.plane.servers id).Running
  old : s.Settled →
    ((s.plane.servers before.current).Running ↔ (before.servers before.current).Running)

variable (before next) in
/-- The new config is in force: while the runtime runs, its server is the only one of the
transaction that runs, if it is enabled; otherwise the old server is left as it was. -/
structure Switched (plane : ControlPlane τ) : Prop where
  config : (plane.servers plane.current).config = next
  running : before.runtimeStarted = true → ∀ id, OfTransaction before plane id →
    ((plane.servers id).Running ↔ id = plane.current ∧ next.enabled = true)
  idle : before.runtimeStarted = false → ∀ id, OfTransaction before plane id →
    ((plane.servers id).Running ↔ id = before.current ∧ (before.servers before.current).Running)

section Stage

variable {flags : Bool × Bool × Bool} {current : Nat} {Old Candidate : ControlServer τ → Prop}

/-- The servers made since, when the candidate does not run. -/
theorem not_running_of_stage (h : ControlStage before next plane flags current Old Candidate)
    (hcandidate : ∀ s : ControlServer τ, Candidate s → ¬ s.Running) {id : Nat}
    (hid : OfTransaction before plane id) (hne : id ≠ before.current) :
    ¬ (plane.servers id).Running := by
  obtain ⟨hge, hlt⟩ := hid.resolve_left hne
  by_cases hid : plane.candidate = some id
  · exact hcandidate _ (h.candidate id hid).2.2.2
  · exact (h.rest id hge hlt hid).not_running

end Stage

theorem Quiet.undone {s : ControlScene τ} (h : Quiet before next s.plane) : Undone before s where
  current := h.current
  config := h.old.1
  others _ hid hne := not_running_of_stage h (fun _ hs => hs.not_running) hid hne
  old _ := h.old.running_iff

theorem Unwinds.undone {s : ControlScene τ} (h : Unwinds before next s) : Undone before s := by
  rcases h with ⟨hquiet, -⟩ | ⟨k, candidate, i, hk, -, hstage, -⟩ | ⟨k, point, hk, -, hwaits⟩
  · exact Quiet.undone hquiet
  · refine ⟨hstage.current, hstage.old.1, fun id hid hne => ?_, fun _ => hstage.old.running_iff⟩
    exact not_running_of_stage hstage (fun _ hs => hs.not_running) hid hne
  · have hpending : ¬ s.Settled := fun hsettled => hsettled point (List.mem_of_getElem? hk)
    have hstaged : ∀ {flags : Bool × Bool × Bool} {Old : ControlServer τ → Prop},
        (StageOf before next s.plane flags before.current Old ControlServer.Down
          fun state => state.strategy ≠ .inPlace ∧ state.committed = true ∧
            state.rolledBack = false) → Undone before s := by
      rintro flags Old ⟨hstage, state, hstate, hne, -⟩
      refine ⟨hstage.current, hstage.config fun state' hstate' => ?_, fun id hid hold => ?_,
        fun hsettled => absurd hsettled hpending⟩
      · cases hstate.symm.trans hstate'
        exact hne
      · exact not_running_of_stage hstage (fun _ hs => hs.not_running) hid hold
    cases point with
    | restoreStop caller call =>
      cases caller with
      | commit error => exact hwaits.elim
      | rollback => exact hstaged hwaits.2.2
    | restoreStart caller call =>
      cases caller with
      | commit error => exact hwaits.elim
      | rollback =>
        obtain ⟨-, ⟨-, hstage⟩ | ⟨i, -, -, hstage⟩⟩ := hwaits
        · exact hstaged hstage
        · exact hstaged hstage
    | restored caller r =>
      cases caller with
      | commit error => exact hwaits.elim
      | rollback => exact Quiet.undone hwaits
    | probing _ _ _ => exact hwaits.elim
    | disableStop _ => exact hwaits.elim
    | candidateStart _ _ => exact hwaits.elim
    | replaceStop _ _ => exact hwaits.elim
    | cleanupStop _ => exact hwaits.elim

theorem selectStrategy_enabled {old : ControlServerConfig τ} :
    selectStrategy old next = .disable ↔ next.enabled = false := by
  unfold selectStrategy
  cases next.enabled with
  | false => simp
  | true =>
    simp only [Bool.not_true, Bool.false_eq_true, if_false, reduceCtorEq, iff_false]
    split
    · exact fun heq => by cases heq
    · exact fun heq => by cases heq

/-- **What a committed transaction has switched to.** -/
theorem Took.switched (hready : before.Ready) (h : Took before next plane) :
    Switched before next plane := by
  obtain ⟨hconfig, state, hstate, -, -, hcases⟩ := h
  rcases hcases with ⟨hinPlace, hstage⟩ | ⟨hne, hge, hlt, hcurrent, hcases⟩
  · obtain ⟨-, hdescribes⟩ := hstage.prepared state hstate
    have hselect := hdescribes.strategy.symm.trans hinPlace
    have hdown : ∀ id, OfTransaction before plane id → id ≠ before.current →
        ¬ (plane.servers id).Running :=
      fun id hid hne => not_running_of_stage hstage (fun _ hs => hs.not_running) hid hne
    have henabled : next.enabled = true := by
      rw [← Bool.not_eq_false, ← selectStrategy_enabled, hselect]
      exact fun heq => by cases heq
    refine ⟨hconfig, fun hstarted id hid => ?_, fun _ id hid => ?_⟩
    · by_cases hold : id = before.current
      · subst hold
        have hrunning : (plane.servers before.current).Running := by
          rw [hstage.old.running_iff, ← hready.started hstarted, ← hdescribes.oldConfig]
          exact (selectStrategy_inPlace hselect).1
        exact ⟨fun _ => ⟨hstage.current.symm, henabled⟩, fun _ => hrunning⟩
      · refine ⟨fun hrunning => absurd hrunning (hdown id hid hold), fun h => absurd h.1 ?_⟩
        rw [hstage.current]
        exact hold
    · by_cases hold : id = before.current
      · subst hold
        rw [hstage.old.running_iff]
        exact ⟨fun hrunning => ⟨rfl, hrunning⟩, fun h => h.2⟩
      · exact ⟨fun hrunning => absurd hrunning (hdown id hid hold), fun h => absurd h.1 hold⟩
  · rcases hcases with ⟨hruns, hstage⟩ | ⟨hruns, hstage⟩
    · refine ⟨hconfig, fun _ id hid => ?_, fun hidle => ?_⟩
      · obtain ⟨-, hdescribes⟩ := hstage.prepared state hstate
        have hold_lt := hstage.old_lt
        cases hcandidate : state.candidateServer with
        | none =>
          have hdisabled : next.enabled = false := by
            rw [← selectStrategy_enabled, ← hdescribes.strategy]
            cases hstrategy : state.strategy with
            | disable => rfl
            | inPlace => exact absurd hstrategy hne
            | replace =>
              have hsome := hdescribes.candidate.mp hstrategy
              rw [hcandidate] at hsome
              cases hsome
          refine ⟨fun hrunning => absurd hrunning ?_, fun h => ?_⟩
          · by_cases hold : id = before.current
            · subst hold
              exact hstage.old.not_running
            · obtain ⟨hge, hlt⟩ := hid.resolve_left hold
              refine (hstage.rest id hge hlt ?_).not_running
              rw [ControlPlane.candidate_eq hstate, hcandidate]
              exact fun heq => by cases heq
          · rw [hdisabled] at h
            cases h.2
        | some candidate =>
          have hid' : plane.candidate = some candidate := by
            rw [ControlPlane.candidate_eq hstate]
            exact hcandidate
          have henabled : next.enabled = true := by
            refine selectStrategy_replace (hdescribes.strategy.symm.trans ?_)
            rw [hdescribes.candidate, hcandidate]
            rfl
          obtain rfl := hcurrent candidate hcandidate
          refine ⟨fun hrunning => ⟨?_, henabled⟩, ?_⟩
          · by_contra hother
            by_cases hold : id = before.current
            · subst hold
              exact hstage.old.not_running hrunning
            · obtain ⟨hge, hlt⟩ := hid.resolve_left hold
              refine (hstage.rest id hge hlt fun heq => hother ?_).not_running hrunning
              exact Option.some.inj (heq.symm.trans hid')
          · rintro ⟨rfl, -⟩
            exact (hstage.candidate _ hid').2.2.2.running
      · rw [hruns] at hidle
        cases hidle
    · refine ⟨hconfig, fun hstarted => ?_, fun _ id hid => ?_⟩
      · rw [hruns] at hstarted
        cases hstarted
      · by_cases hold : id = before.current
        · subst hold
          rw [hstage.old.running_iff]
          exact ⟨fun hrunning => ⟨rfl, hrunning⟩, fun h => h.2⟩
        · refine ⟨fun hrunning => absurd hrunning ?_, fun h => absurd h.1 hold⟩
          exact not_running_of_stage hstage (fun _ hs => hs.not_running) hid hold

/-! ## Executions -/

theorem fresh_of_ready (hready : before.Ready) : Fresh before next before := by
  have hnone : ∀ state, before.prepared = some state → False := by
    intro state hstate
    rw [hready.prepared] at hstate
    cases hstate
  refine ⟨⟨hready.current_lt, Nat.le_refl _, rfl, rfl, ⟨rfl, ?_⟩, fun id hid => ?_,
    fun id hge hlt => absurd hlt (Nat.not_lt.mpr hge), fun state hstate => (hnone state hstate).elim,
    fun _ => rfl⟩, fun state hstate => (hnone state hstate).elim⟩
  · rcases hready.steady with hup | hdown
    · exact .inl ⟨hup, hup⟩
    · exact .inr ⟨hdown, hdown⟩
  · rw [ControlPlane.candidate, hready.prepared] at hid
    cases hid

theorem early_of_ready (hready : before.Ready) :
    Early before next adapter ([] : List (PreparedEntry κ ν)) ⟨before, []⟩ where
  fresh := fresh_of_ready hready
  probing _ htask := by cases htask
  prepared hhas := by cases hhas

/-! ## A metrics server on another port -/

section Metrics

def metricsHost : ControlPlane Unit where
  servers _ := ⟨⟨true, "127.0.0.1", 9090, ()⟩, some 0, [.listening]⟩
  created := 1
  current := 0
  runtimeStarted := true
  prepared := none

def metricsNext : ControlServerConfig Unit := ⟨true, "127.0.0.1", 9091, ()⟩

theorem metricsHost_ready : metricsHost.Ready where
  current_lt := Nat.zero_lt_one
  steady := by
    refine .inl ⟨0, rfl, rfl, fun j state hj hget => ?_⟩
    cases j with
    | zero => exact absurd rfl hj
    | succ j => cases hget
  started _ := ⟨fun _ => List.mem_singleton.mpr rfl, fun _ => rfl⟩
  prepared := rfl

/-- The operations of two components; the adapter's is the one numbered 0. -/
abbrev MetricsPerforms (condition : ControlCondition Unit) : (operation : ReloadOperation Nat Unit) →
    ControlScene Unit → operation.Reply → ControlScene Unit → Prop :=
  Performs .metrics condition metricsNext 0

abbrev MetricsExecution (condition : ControlCondition Unit) (s : ControlScene Unit)
    (fields fields' : ReloadExecutorFields Nat Unit) : Prop :=
  Resumption.Steps (fun _ => Drifts .metrics condition) (MetricsPerforms condition)
    (ReloadExecutor.execute [0, 1] ReloadExecutor.fieldsNew) ⟨metricsHost, []⟩
    (.done (.ok fields, fields')) s

variable {condition : ControlCondition Unit}

theorem metrics_other (operation : ReloadOperation Nat Unit) (reply : operation.Reply)
    (h : operation.component ≠ some 0) (s : ControlScene Unit) :
    MetricsPerforms condition operation s reply s := .other h

/-- What is awaited resolves. -/
theorem resolves {point : ControlSuspended Unit} {s : ControlScene Unit}
    (h : Settles s.plane (.ok ()) point) :
    Step .metrics condition (.suspended point, s) ((resume .metrics point (.ok ()) s.plane).1,
      s.setPlane (resume .metrics point (.ok ()) s.plane).2) := .raced h

/-- An `http.Server` comes up. -/
theorem comes_up {task : ControlTask Unit} {s : ControlScene Unit} (id i : Nat)
    (hcondition : ∀ task s, s.abandoned = [] → condition.listened task s id i (.ok ()))
    (hopening : (s.plane.servers id).httpServers[i]? = some .opening) (hnone : s.abandoned = []) :
    Step .metrics condition (task, s) (task,
      s.setPlane (s.plane.setServer id ((s.plane.servers id).listened i (.ok ())))) :=
  .listened hopening (hcondition _ _ hnone)

theorem unwound_listened {id i : Nat} (task : ControlTask Unit) (s : ControlScene Unit)
    (h : s.abandoned = []) : unwound.listened task s id i (.ok ()) := by
  intro candidate hmem
  rw [h] at hmem
  cases hmem

/-- The second server listens, the first is closed. -/
structure MetricsSwitched (s : ControlScene Unit) : Prop where
  abandoned : s.abandoned = []
  created : s.plane.created = 2
  current : s.plane.current = 1
  first : (s.plane.servers 0).httpServers = [.closed]
  second : (s.plane.servers 1).httpServers = [.listening]

/-- The first server listens again, the second is closed. -/
structure MetricsUnwound (s : ControlScene Unit) : Prop where
  abandoned : s.abandoned = []
  created : s.plane.created = 2
  current : s.plane.current = 0
  first : (s.plane.servers 0).httpServers = [.closed, .listening]
  second : (s.plane.servers 1).httpServers = [.closed]

/-- The port changes; then the change is cleaned up, or rolled back and cleaned up. -/
theorem metrics_operations :
    ∃ s, MetricsPerforms unwound (.prepare 0) ⟨metricsHost, []⟩ (.ok ()) s ∧
    ∃ t, MetricsPerforms unwound (.healthCheck ⟨0, ()⟩) s (.ok ()) t ∧
    ∃ u, MetricsPerforms unwound (.commit ⟨0, ()⟩) t (.ok ()) u ∧
    (∃ v, MetricsPerforms unwound (.cleanup ⟨0, ()⟩) u (.ok ()) v ∧ MetricsSwitched v) ∧
    ∃ v, MetricsPerforms unwound (.rollback ⟨0, ()⟩) u (.ok ()) v ∧
    ∃ w, MetricsPerforms unwound (.cleanup ⟨0, ()⟩) v (.ok ()) w ∧ MetricsUnwound w := by
  refine ⟨_, .received rfl (.head (resolves trivial) .refl) ⟨_, rfl, rfl⟩, ?_⟩
  refine ⟨_, .received rfl .refl ⟨rfl, rfl⟩, ?_⟩
  refine ⟨_, .received rfl (.head (comes_up 1 0 unwound_listened rfl rfl)
    (.head (resolves ⟨.listening, rfl, rfl⟩) (.head (resolves rfl) .refl))) ⟨rfl, rfl⟩, ?_⟩
  refine ⟨⟨_, .received rfl .refl ⟨rfl, rfl⟩, rfl, rfl, rfl, rfl, rfl⟩, ?_⟩
  refine ⟨_, .received rfl (.head (resolves rfl) (.head (comes_up 0 1 unwound_listened rfl rfl)
    (.head (resolves ⟨.listening, rfl, rfl⟩) (.head (resolves rfl) .refl)))) ⟨rfl, rfl⟩, ?_⟩
  exact ⟨_, .received rfl (.head (resolves rfl) .refl) ⟨rfl, rfl⟩, rfl, rfl, rfl, rfl, rfl⟩

/-- Both components commit. -/
theorem metrics_commits : ∃ s fields fields', MetricsExecution unwound s fields fields' ∧
    fields.model.state = .committed ∧ MetricsSwitched s := by
  obtain ⟨s, hprepare, t, hhealth, u, hcommit, ⟨v, hcleanup, hswitched⟩, -⟩ := metrics_operations
  have hsteps : MetricsExecution unwound v _ _ :=
    .call (metrics_other (.simple .parse) (.ok ()) (by decide) _)
    (.call (metrics_other (.simple .validate) (.ok ()) (by decide) _)
    (.call hprepare (.call (metrics_other (.prepare 1) (.ok ()) (by decide) _)
    (.call hhealth (.call (metrics_other (.healthCheck ⟨1, ()⟩) (.ok ()) (by decide) _)
    (.call hcommit (.call (metrics_other (.commit ⟨1, ()⟩) (.ok ()) (by decide) _)
    (.call (metrics_other (.cleanup ⟨1, ()⟩) (.ok ()) (by decide) _)
    (.call hcleanup (.refl _ _))))))))))
  exact ⟨v, _, _, hsteps, rfl, hswitched⟩

/-- The other component refuses to commit. -/
theorem metrics_rolls_back : ∃ s fields fields', MetricsExecution unwound s fields fields' ∧
    fields.model.state = .rolledBack ∧ MetricsUnwound s := by
  obtain ⟨s, hprepare, t, hhealth, u, hcommit, -, v, hrollback, w, hcleanup, hunwound⟩ := metrics_operations
  have hsteps : MetricsExecution unwound w _ _ :=
    .call (metrics_other (.simple .parse) (.ok ()) (by decide) _)
    (.call (metrics_other (.simple .validate) (.ok ()) (by decide) _)
    (.call hprepare (.call (metrics_other (.prepare 1) (.ok ()) (by decide) _)
    (.call hhealth (.call (metrics_other (.healthCheck ⟨1, ()⟩) (.ok ()) (by decide) _)
    (.call hcommit (.call (metrics_other (.commit ⟨1, ()⟩) (.error "refused") (by decide) _)
    (.call hrollback (.call (metrics_other (.cleanup ⟨1, ()⟩) (.ok ()) (by decide) _)
    (.call hcleanup (.refl _ _)))))))))))
  exact ⟨w, _, _, hsteps, rfl, hunwound⟩

end Metrics

/-- **A transaction that fails leaves the host as it was.** -/
theorem execution_unwinds (hready : before.Ready) (hnodup : components.Nodup)
    {fields fields' : ReloadExecutorFields κ ν} {s : ControlScene τ}
    (hsteps : Resumption.Steps (fun _ => Drifts kind unwound) (Performs kind unwound next adapter)
      (ReloadExecutor.execute components ReloadExecutor.fieldsNew) ⟨before, []⟩
      (.done (.ok fields, fields')) s)
    (hfailed : fields.model.state ≠ .committed) : Undone before s := by
  obtain ⟨failures, hnoted, -, hnotBlank⟩ := ReloadExecutor.steps_outcome hsteps
  have hended := (unwoundProof hready hnodup).steps_end (fun x => ⟨.refl x.1, rfl⟩)
    (fun x y z h h' => ⟨h.1.trans h'.1, h'.2.trans h.2⟩)
    (fun _ _ _ _ h hcleaning => hcleaning.drifts hready h.1 h.2)
    (show PreparingNoted before next adapter [] (⟨before, []⟩, []) from
      ⟨List.nodup_nil, early_of_ready hready⟩) hnoted
  rcases hended with hok | ⟨message, hmem, hblank⟩ | hunwinds
  · exact absurd (of_decide_eq_true hok) hfailed
  · rw [hnotBlank message hmem] at hblank
    cases hblank
  · exact hunwinds.undone

theorem execution_unwinds_metrics : ∃ s fields fields', MetricsExecution unwound s fields fields' ∧
    fields.model.state = .rolledBack ∧ MetricsUnwound s ∧ Undone metricsHost s := by
  obtain ⟨s, fields, fields', hsteps, hstate, hunwound⟩ := metrics_rolls_back
  refine ⟨s, fields, fields', hsteps, hstate, hunwound, ?_⟩
  refine execution_unwinds metricsHost_ready (by decide) hsteps ?_
  rw [hstate]
  exact fun heq => by cases heq

/-- A commit that is abandoned while it closes the old server goes on when the transaction is
over: another server is current then, and it does not run. -/
theorem overtaken_commit_goes_on : ∃ s fields fields', MetricsExecution .any s fields fields' ∧
    fields.model.state = .rolledBack ∧ s.plane.current = 1 ∧ ¬ (s.plane.servers 1).Running := by
  have hoperations : ∃ s, MetricsPerforms .any (.prepare 0) ⟨metricsHost, []⟩ (.ok ()) s ∧
      ∃ t, MetricsPerforms .any (.healthCheck ⟨0, ()⟩) s (.ok ()) t ∧
      ∃ u, MetricsPerforms .any (.commit ⟨0, ()⟩) t (.error "timeout") u ∧
      ∃ v, MetricsPerforms .any (.cleanup ⟨0, ()⟩) u (.ok ()) v ∧
      ∃ w, Drifts .metrics .any v w ∧ w.plane.current = 1 ∧ ¬ (w.plane.servers 1).Running := by
    refine ⟨_, .received rfl (.head (resolves trivial) .refl) ⟨_, rfl, rfl⟩, ?_⟩
    refine ⟨_, .received rfl .refl ⟨rfl, rfl⟩, ?_⟩
    refine ⟨_, .overtaken rfl (.head (comes_up 1 0 (fun _ _ _ => trivial) rfl rfl)
      (.head (resolves ⟨.listening, rfl, rfl⟩) .refl)) (fun _ _ => trivial), ?_⟩
    refine ⟨_, .received rfl (.head (resolves rfl) .refl) ⟨rfl, rfl⟩, ?_⟩
    exact ⟨_, .head (@Step.abandoned _ _ _ _ _ 0 _ (.ok ()) rfl rfl) .refl, rfl, by decide⟩
  obtain ⟨s, hprepare, t, hhealth, u, hcommit, v, hcleanup, w, hdrifts, hcurrent, hdown⟩ := hoperations
  have hsteps : MetricsExecution .any w _ _ :=
    .call (metrics_other (.simple .parse) (.ok ()) (by decide) _)
    (.call (metrics_other (.simple .validate) (.ok ()) (by decide) _)
    (.call hprepare (.call (metrics_other (.prepare 1) (.ok ()) (by decide) _)
    (.call hhealth (.call (metrics_other (.healthCheck ⟨1, ()⟩) (.ok ()) (by decide) _)
    (.call hcommit (.call (metrics_other (.cleanup ⟨1, ()⟩) (.ok ()) (by decide) _)
    (.call hcleanup (.other hdrifts (.refl _ _))))))))))
  exact ⟨w, _, _, hsteps, rfl, hcurrent, hdown⟩

/-- **The world of an execution that commits**, whatever the condition on the run. -/
def switchedProof (condition : ControlCondition τ) (hnodup : components.Nodup) :
    ExecutorProof (fun _ => Drifts kind condition)
      (fun (operation : ReloadOperation κ ν) => Performs kind condition next adapter operation)
      (fun _ _ => True) components where
  preparing es s := (es.map PreparedEntry.component).Nodup ∧ Early before next adapter es s
  committing es entries s := (es.map PreparedEntry.component).Nodup ∧
    es.map PreparedEntry.component = components ∧ CommitsDone before next adapter es entries s
  recovering _ _ _ := True
  cleaning ok _ _ s := ok = true → adapter ∈ components → Committed before next s
  preparing_wait := by
    rintro es operation s t - hdrifts ⟨hes, hearly⟩
    exact ⟨trivial, hes, hearly.drifts hdrifts⟩
  committing_wait := by
    rintro es entries entry rest s t - hdrifts ⟨hes, hcomponents, hdone⟩
    exact ⟨trivial, hes, hcomponents, hdone.drifts hdrifts⟩
  recovering_wait := fun _ _ _ _ _ _ _ => ⟨trivial, trivial⟩
  cleaning_wait := by
    rintro ok es rest entry s t hdrifts hcleaning
    exact ⟨trivial, fun hok hmem => (hcleaning hok hmem).drifts hdrifts⟩
  simple := by
    rintro phase s reply t ⟨hes, hearly⟩ hperforms
    obtain rfl := hperforms.eq_of_other (by exact fun heq => by cases heq)
    exact ⟨hes, hearly⟩
  prepare_ok := by
    rintro es component rest s prepared t hcomponents ⟨-, hearly⟩ hperforms
    have hes := nodup_upto hnodup hcomponents
    exact ⟨by simpa using hes, (hearly.prepare hes hperforms).2 prepared rfl⟩
  prepare_error := by
    rintro es component rest s message t hcomponents ⟨hes, hearly⟩ hperforms
    exact ⟨hes, (hearly.prepare (nodup_upto hnodup hcomponents) hperforms).1⟩
  healthCheck := by
    rintro es entry s reply t - ⟨hes, hearly⟩ hperforms
    exact ⟨hes, hearly.healthCheck hperforms⟩
  prepared := by
    rintro es s hcomponents ⟨hes, hearly⟩
    exact ⟨hes, hcomponents, fun hhas => (by cases hhas), fun _ => hearly⟩
  commit_ok := by
    rintro es entries entry rest s t heq ⟨hes, hcomponents, hdone⟩ hperforms
    exact ⟨hes, hcomponents, hdone.commit_ok hes heq hperforms⟩
  commit_error := fun _ _ _ _ _ _ _ _ _ _ => ⟨trivial, fun _ hok => by cases hok⟩
  committed := by
    rintro es s ⟨-, hcomponents, hdone⟩ - hmem
    exact hdone.1 (by rw [Has, hcomponents]; exact hmem)
  abandoned := fun _ _ _ => ⟨trivial, fun hok => by cases hok⟩
  rollback := fun _ _ _ _ _ _ _ _ => trivial
  recovered := fun _ _ _ hok => by cases hok
  cleanup := by
    rintro ok es rest entry s reply t hcleaning hperforms hok hmem
    exact (hcleaning hok hmem).cleanedUp hperforms

/-- **A transaction that commits puts the new config in force**, whatever was abandoned on the
way. -/
theorem execution_switches {condition : ControlCondition τ} (hready : before.Ready)
    (hnodup : components.Nodup) (hadapter : adapter ∈ components)
    {fields fields' : ReloadExecutorFields κ ν} {s : ControlScene τ}
    (hsteps : Resumption.Steps (fun _ => Drifts kind condition)
      (Performs kind condition next adapter)
      (ReloadExecutor.execute components ReloadExecutor.fieldsNew) ⟨before, []⟩
      (.done (.ok fields, fields')) s)
    (hcommitted : fields.model.state = .committed) : Switched before next s.plane := by
  have hended := (switchedProof condition hnodup).steps_end .refl (fun _ _ _ h h' => h.trans h')
    (fun _ _ _ _ hdrifts hcleaning hok hmem => (hcleaning hok hmem).drifts hdrifts)
    (show _ ∧ Early before next adapter [] ⟨before, []⟩ from
      ⟨List.nodup_nil, early_of_ready hready⟩) hsteps
  exact (hended (decide_eq_true hcommitted) hadapter).took.switched hready

theorem execution_switches_metrics : ∃ s fields fields', MetricsExecution unwound s fields fields' ∧
    fields.model.state = .committed ∧ MetricsSwitched s ∧ Switched metricsHost metricsNext s.plane := by
  obtain ⟨s, fields, fields', hsteps, hcommitted, hswitched⟩ := metrics_commits
  exact ⟨s, fields, fields', hsteps, hcommitted, hswitched,
    execution_switches metricsHost_ready (by decide) (by decide) hsteps hcommitted⟩

end ControlAdapter

end Sepigs
