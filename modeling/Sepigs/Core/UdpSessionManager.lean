import Sepigs.Lib.Recency
import Sepigs.Lib.Runs

/-!
# UDP sessions (`core/udpSessionManager.ts`, `core/stats.ts`)

A close callback can call in again, so `closeAll` is a loop that other calls interrupt:
`resume` goes on with the innermost one (`loops`).  A timer fires whenever it is armed.

A session is known by its place in `opened`, which keeps the removed ones too.
-/

namespace Sepigs

/-- The UDP counters of `StatsTracker`. -/
structure UdpStats where
  udpSessionsTotal : Nat
  udpSessionsActive : Nat
  udpErrorsTotal : Nat
deriving DecidableEq, Repr

namespace UdpStats

def openUdpSession (stats : UdpStats) : UdpStats :=
  { stats with
    udpSessionsTotal := stats.udpSessionsTotal + 1
    udpSessionsActive := stats.udpSessionsActive + 1 }

def closeUdpSession (stats : UdpStats) : UdpStats :=
  { stats with udpSessionsActive := max 0 (stats.udpSessionsActive - 1) }

def recordUdpError (stats : UdpStats) : UdpStats :=
  { stats with udpErrorsTotal := stats.udpErrorsTotal + 1 }

end UdpStats

structure ManagedUdpSession where
  session : Nat
  timer : Nat
deriving DecidableEq, Repr

/-- Two ghosts of a session that was opened: how often its close callback ran, and how
`release` removed it. -/
structure OpenedUdpSession where
  id : String
  closeCalls : Nat
  removed : Option Bool
deriving DecidableEq, Repr

/-- What an armed timer releases; `session` is a ghost, the session it was created for. -/
structure UdpTimer where
  id : String
  session : Nat
deriving DecidableEq, Repr

structure UdpSessionManager where
  maxSessions : Nat
  sessions : JsMap String ManagedUdpSession
  stats : UdpStats
  timers : JsMap Nat UdpTimer
  nextTimer : Nat
  opened : List OpenedUdpSession
  loops : List (List String)

inductive UdpSessionCall
  | open (id : String)
  | touch (id : String)
  | release (id : String) (invokeClose : Bool)
  | recordError
  | expire (timer : Nat)
  | closeAll
  | resume
deriving DecidableEq, Repr

namespace UdpSessionManager

def create (maxSessions : Nat) : UdpSessionManager where
  maxSessions := maxSessions
  sessions := ∅
  stats := ⟨0, 0, 0⟩
  timers := ∅
  nextTimer := 0
  opened := []
  loops := []

def createTimer (s : UdpSessionManager) (id : String) (session : Nat) : Nat × UdpSessionManager :=
  (s.nextTimer,
    { s with timers := s.timers.set s.nextTimer ⟨id, session⟩, nextTimer := s.nextTimer + 1 })

def openSession (s : UdpSessionManager) (id : String) : Option Nat × UdpSessionManager :=
  if s.sessions.size ≥ s.maxSessions then (none, { s with stats := s.stats.recordUdpError })
  else
    match s.sessions.get id with
    | some existing => (some existing.session, s)
    | none =>
      let session := s.opened.length
      let (timer, s) := s.createTimer id session
      (some session, { s with
        sessions := s.sessions.set id ⟨session, timer⟩
        stats := s.stats.openUdpSession
        opened := s.opened ++ [⟨id, 0, none⟩] })

def touch (s : UdpSessionManager) (id : String) : UdpSessionManager :=
  match s.sessions.get id with
  | none => s
  | some managed =>
    let cleared := { s with timers := s.timers.delete managed.timer }
    let (timer, s) := cleared.createTimer id managed.session
    { s with sessions := s.sessions.set id { managed with timer := timer } }

/-- The close callback runs last; what it calls are the next steps. -/
def release (s : UdpSessionManager) (id : String) (invokeClose : Bool) : UdpSessionManager :=
  match s.sessions.get id with
  | none => s
  | some managed =>
    { s with
      sessions := s.sessions.delete id
      timers := s.timers.delete managed.timer
      stats := s.stats.closeUdpSession
      opened := s.opened.modify managed.session fun opened =>
        { opened with
          removed := some invokeClose
          closeCalls := if invokeClose then opened.closeCalls + 1 else opened.closeCalls } }

/-- A timer fires once. -/
def expire (s : UdpSessionManager) (timer : Nat) : Option UdpSessionManager :=
  match s.timers.get timer with
  | none => none
  | some armed => some ({ s with timers := s.timers.delete timer }.release armed.id true)

def resume (s : UdpSessionManager) : Option UdpSessionManager :=
  match s.loops with
  | [] => none
  | [] :: loops => some { s with loops := loops }
  | (id :: ids) :: loops => some ({ s with loops := ids :: loops }.release id true)

def step (s : UdpSessionManager) : UdpSessionCall → Option UdpSessionManager
  | .open id => some (s.openSession id).2
  | .touch id => some (s.touch id)
  | .release id invokeClose => some (s.release id invokeClose)
  | .recordError => some { s with stats := s.stats.recordUdpError }
  | .expire timer => s.expire timer
  | .closeAll => some { s with loops := s.sessions.keys :: s.loops }
  | .resume => s.resume

def system : Runs.System UdpSessionManager UdpSessionCall where
  step := step

/-! ## What the sessions are counted by -/

/-- The counters, the callbacks and the timers agree with the sessions that are tracked. -/
structure Accounted (s : UdpSessionManager) : Prop where
  active : s.stats.udpSessionsActive = s.sessions.size
  limit : s.sessions.size ≤ s.maxSessions
  closed : ∀ o ∈ s.opened, o.closeCalls = if o.removed = some true then 1 else 0
  live : ∀ id managed, s.sessions.get id = some managed →
    s.opened[managed.session]? = some ⟨id, 0, none⟩ ∧
      s.timers.get managed.timer = some ⟨id, managed.session⟩
  timers : ∀ timer armed, s.timers.get timer = some armed →
    s.sessions.get armed.id = some ⟨armed.session, timer⟩ ∧ timer < s.nextTimer

/-- An expiry removes no session but the one its timer was created for, and the close
callback of what expiry or `closeAll` removes has run once. -/
def RemovesOwn (s : UdpSessionManager) (call : UdpSessionCall) : Prop :=
  ∀ s', s.step call = some s' → ∀ id managed, s.sessions.get id = some managed →
    s'.sessions.get id = s.sessions.get id ∨
      match call with
      | .expire timer => s.timers.get timer = some ⟨id, managed.session⟩ ∧
        s'.opened[managed.session]? = some ⟨id, 1, some true⟩
      | .resume => s'.opened[managed.session]? = some ⟨id, 1, some true⟩
      | _ => True

/-- Opening a live id returns its session and does nothing else. -/
def OpensLive (s : UdpSessionManager) : UdpSessionCall → Prop
  | .open id => ∀ managed, s.sessions.get id = some managed →
    s.openSession id = (some managed.session, s)
  | _ => True

/-- No live id is opened at the limit. -/
def BelowLimit (s : UdpSessionManager) : UdpSessionCall → Prop
  | .open id => s.sessions.has id = true → s.sessions.size < s.maxSessions
  | _ => True

theorem accounted_create (maxSessions : Nat) : (create maxSessions).Accounted where
  active := rfl
  limit := Nat.zero_le _
  closed o hmem := absurd hmem List.not_mem_nil
  live id managed hget := by cases hget
  timers timer armed hget := by cases hget

section Steps

variable {s : UdpSessionManager} {id : String}

/-- The session of a live id is nobody else's. -/
theorem Accounted.id_unique (h : s.Accounted) {id' : String} {managed managed' : ManagedUdpSession}
    (hget : s.sessions.get id = some managed) (hget' : s.sessions.get id' = some managed')
    (heq : managed'.session = managed.session) : id' = id := by
  obtain ⟨hopened, -⟩ := h.live id managed hget
  obtain ⟨hopened', -⟩ := h.live id' managed' hget'
  rw [heq, hopened] at hopened'
  cases hopened'
  rfl

theorem Accounted.recordError (h : s.Accounted) :
    { s with stats := s.stats.recordUdpError }.Accounted :=
  ⟨h.active, h.limit, h.closed, h.live, h.timers⟩

/-! ## One lemma for each call -/

theorem openSession_cases (s : UdpSessionManager) (id : String) :
    (s.maxSessions ≤ s.sessions.size ∧
      s.openSession id = (none, { s with stats := s.stats.recordUdpError })) ∨
    s.sessions.size < s.maxSessions ∧
      ((∃ existing, s.sessions.get id = some existing ∧
        s.openSession id = (some existing.session, s)) ∨
      s.sessions.get id = none ∧
        s.openSession id = (some s.opened.length, { s with
          sessions := s.sessions.set id ⟨s.opened.length, s.nextTimer⟩
          stats := s.stats.openUdpSession
          timers := s.timers.set s.nextTimer ⟨id, s.opened.length⟩
          nextTimer := s.nextTimer + 1
          opened := s.opened ++ [⟨id, 0, none⟩] })) := by
  unfold openSession
  split
  · next hfull => exact .inl ⟨hfull, rfl⟩
  · next hbelow =>
    refine .inr ⟨Nat.lt_of_not_le hbelow, ?_⟩
    split
    · next existing hlive => exact .inl ⟨existing, hlive, rfl⟩
    · next hfree => exact .inr ⟨hfree, rfl⟩

theorem touch_cases (s : UdpSessionManager) (id : String) :
    (s.sessions.get id = none ∧ s.touch id = s) ∨
    ∃ managed, s.sessions.get id = some managed ∧
      s.touch id = { s with
        sessions := s.sessions.set id { managed with timer := s.nextTimer }
        timers := (s.timers.delete managed.timer).set s.nextTimer ⟨id, managed.session⟩
        nextTimer := s.nextTimer + 1 } := by
  unfold touch
  split
  · next hfree => exact .inl ⟨hfree, rfl⟩
  · next managed hlive => exact .inr ⟨managed, hlive, rfl⟩

/-- How `release` leaves a session. -/
def releasedAs (invokeClose : Bool) (opened : OpenedUdpSession) : OpenedUdpSession :=
  { opened with
    removed := some invokeClose
    closeCalls := if invokeClose then opened.closeCalls + 1 else opened.closeCalls }

theorem release_cases (s : UdpSessionManager) (id : String) (invokeClose : Bool) :
    (s.sessions.get id = none ∧ s.release id invokeClose = s) ∨
    ∃ managed, s.sessions.get id = some managed ∧
      s.release id invokeClose = { s with
        sessions := s.sessions.delete id
        timers := s.timers.delete managed.timer
        stats := s.stats.closeUdpSession
        opened := s.opened.modify managed.session (releasedAs invokeClose) } := by
  unfold release
  split
  · next hfree => exact .inl ⟨hfree, rfl⟩
  · next managed hlive => exact .inr ⟨managed, hlive, rfl⟩

theorem Accounted.openSession (h : s.Accounted) (id : String) : (s.openSession id).2.Accounted := by
  rcases s.openSession_cases id with ⟨-, heq⟩ | ⟨hbelow, ⟨existing, -, heq⟩ | ⟨hfree, heq⟩⟩
  · rw [heq]
    exact h.recordError
  · rw [heq]
    exact h
  rw [heq]
  have hnew : id ∉ s.sessions.keys := (JsMap.get_eq_none_iff _ _).mp hfree
  have hsize := JsMap.size_set_of_notMem s.sessions ⟨s.opened.length, s.nextTimer⟩ hnew
  constructor
  · show s.stats.udpSessionsActive + 1 = _
    rw [h.active]
    exact hsize.symm
  · exact hsize.trans_le hbelow
  · intro o hmem
    rcases List.mem_append.mp hmem with hmem | hmem
    · exact h.closed o hmem
    · rw [List.mem_singleton.mp hmem]
      rfl
  · intro id' managed hget
    simp only [JsMap.get_set] at hget ⊢
    split at hget
    · next heq =>
      cases hget
      simp [heq]
    · obtain ⟨hopened, htimer⟩ := h.live id' managed hget
      have hne : managed.timer ≠ s.nextTimer := Nat.ne_of_lt (h.timers _ _ htimer).2
      rw [if_neg hne, List.getElem?_append_left (List.getElem?_eq_some_iff.mp hopened).1]
      exact ⟨hopened, htimer⟩
  · intro timer armed hget
    simp only [JsMap.get_set] at hget ⊢
    split at hget
    · next heq =>
      cases hget
      simp [heq]
    · obtain ⟨harmed, hlt⟩ := h.timers timer armed hget
      have hne : armed.id ≠ id := by
        intro heq
        rw [heq, hfree] at harmed
        cases harmed
      rw [if_neg hne]
      exact ⟨harmed, Nat.lt_succ_of_lt hlt⟩

theorem Accounted.touch (h : s.Accounted) (id : String) : (s.touch id).Accounted := by
  rcases s.touch_cases id with ⟨-, heq⟩ | ⟨managed, hlive, heq⟩
  · rw [heq]
    exact h
  rw [heq]
  have hmem : id ∈ s.sessions.keys := (JsMap.has_eq_true_iff _ _).mp (by simp [JsMap.has, hlive])
  have hsize : (s.sessions.set id { managed with timer := s.nextTimer }).size = s.sessions.size := by
    unfold JsMap.size
    rw [JsMap.entries_set_of_mem _ _ hmem, List.length_map]
  obtain ⟨hopened, htimer⟩ := h.live id managed hlive
  constructor
  · exact h.active.trans hsize.symm
  · exact hsize.trans_le h.limit
  · exact h.closed
  · intro id' managed' hget
    simp only [JsMap.get_set, JsMap.get_delete] at hget ⊢
    split at hget
    · next heq =>
      cases hget
      simp [heq, hopened]
    · next hother =>
      obtain ⟨hopened', htimer'⟩ := h.live id' managed' hget
      have hnew : managed'.timer ≠ s.nextTimer := Nat.ne_of_lt (h.timers _ _ htimer').2
      have hne : managed'.timer ≠ managed.timer := by
        intro heq
        rw [heq, htimer] at htimer'
        exact hother (congrArg UdpTimer.id (Option.some.inj htimer')).symm
      rw [if_neg hnew, if_neg hne]
      exact ⟨hopened', htimer'⟩
  · intro timer armed hget
    simp only [JsMap.get_set, JsMap.get_delete] at hget ⊢
    split at hget
    · next heq =>
      cases hget
      simp [heq]
    · split at hget
      · cases hget
      · next hold =>
        obtain ⟨harmed, hlt⟩ := h.timers timer armed hget
        have hne : armed.id ≠ id := by
          intro heq
          rw [heq, hlive] at harmed
          cases harmed
          exact hold rfl
        rw [if_neg hne]
        exact ⟨harmed, Nat.lt_succ_of_lt hlt⟩

/-- The session that is released was not released before. -/
theorem Accounted.released (h : s.Accounted) {managed : ManagedUdpSession} (invokeClose : Bool)
    (hlive : s.sessions.get id = some managed) :
    (s.opened.modify managed.session (releasedAs invokeClose))[managed.session]? =
      some ⟨id, if invokeClose then 1 else 0, some invokeClose⟩ := by
  rw [List.getElem?_modify, (h.live id managed hlive).1]
  simp [releasedAs]

theorem Accounted.release (h : s.Accounted) (id : String) (invokeClose : Bool) :
    (s.release id invokeClose).Accounted := by
  rcases s.release_cases id invokeClose with ⟨-, heq⟩ | ⟨managed, hlive, heq⟩
  · rw [heq]
    exact h
  rw [heq]
  have hmem : id ∈ s.sessions.keys := (JsMap.has_eq_true_iff _ _).mp (by simp [JsMap.has, hlive])
  have hsize := JsMap.size_delete_of_mem s.sessions hmem
  obtain ⟨hopened, htimer⟩ := h.live id managed hlive
  have hlimit := h.limit
  constructor
  · show max 0 (s.stats.udpSessionsActive - 1) = (s.sessions.delete id).size
    rw [h.active]
    omega
  · show (s.sessions.delete id).size ≤ s.maxSessions
    omega
  · intro o hmem
    obtain ⟨i, hget⟩ := List.mem_iff_getElem?.mp hmem
    by_cases hi : i = managed.session
    · rw [hi, h.released invokeClose hlive] at hget
      cases hget
      cases invokeClose
      · rfl
      · rfl
    · rw [List.getElem?_modify_ne (releasedAs invokeClose) s.opened (Ne.symm hi)] at hget
      exact h.closed o (List.mem_of_getElem? hget)
  · intro id' managed' hget
    simp only [JsMap.get_delete] at hget ⊢
    split at hget
    · cases hget
    · next hother =>
      obtain ⟨hopened', htimer'⟩ := h.live id' managed' hget
      have hsession : managed.session ≠ managed'.session := by
        intro heq
        exact hother (h.id_unique hlive hget heq.symm)
      have hne : managed'.timer ≠ managed.timer := by
        intro heq
        rw [heq, htimer] at htimer'
        exact hother (congrArg UdpTimer.id (Option.some.inj htimer')).symm
      rw [if_neg hne, List.getElem?_modify_ne (releasedAs invokeClose) s.opened hsession]
      exact ⟨hopened', htimer'⟩
  · intro timer armed hget
    simp only [JsMap.get_delete] at hget ⊢
    split at hget
    · cases hget
    · next hold =>
      obtain ⟨harmed, hlt⟩ := h.timers timer armed hget
      have hne : armed.id ≠ id := by
        intro heq
        rw [heq, hlive] at harmed
        cases harmed
        exact hold rfl
      rw [if_neg hne]
      exact ⟨harmed, hlt⟩

/-- A timer that fires is the one its session has. -/
theorem Accounted.expire_eq (h : s.Accounted) {timer : Nat} {armed : UdpTimer}
    (harmed : s.timers.get timer = some armed) :
    s.expire timer = some (s.release armed.id true) := by
  obtain ⟨hlive, -⟩ := h.timers timer armed harmed
  have hdeleted : (s.timers.delete timer).delete timer = s.timers.delete timer :=
    JsMap.delete_of_notMem _ (JsMap.notMem_keys_delete s.timers timer)
  unfold expire
  rw [harmed]
  unfold UdpSessionManager.release
  simp only [hlive, hdeleted]

theorem Accounted.step (h : s.Accounted) {call : UdpSessionCall} {s' : UdpSessionManager}
    (hstep : s.step call = some s') : s'.Accounted := by
  cases call with
  | «open» id =>
    cases hstep
    exact h.openSession id
  | touch id =>
    cases hstep
    exact h.touch id
  | release id invokeClose =>
    cases hstep
    exact h.release id invokeClose
  | recordError =>
    cases hstep
    exact h.recordError
  | expire timer =>
    cases harmed : s.timers.get timer with
    | none =>
      simp [UdpSessionManager.step, expire, harmed] at hstep
    | some armed =>
      obtain rfl := Option.some.inj ((h.expire_eq harmed).symm.trans hstep)
      exact h.release armed.id true
  | closeAll =>
    cases hstep
    exact ⟨h.active, h.limit, h.closed, h.live, h.timers⟩
  | resume =>
    simp only [UdpSessionManager.step, resume] at hstep
    split at hstep
    · cases hstep
    · cases hstep
      exact ⟨h.active, h.limit, h.closed, h.live, h.timers⟩
    · next id ids loops _ =>
      cases hstep
      have hloop : ({ s with loops := ids :: loops } : UdpSessionManager).Accounted :=
        ⟨h.active, h.limit, h.closed, h.live, h.timers⟩
      exact hloop.release id true

/-- `release` removes one session and runs its callback, if at all. -/
theorem Accounted.release_keeps (h : s.Accounted) (id' : String) {managed : ManagedUdpSession}
    (hlive : s.sessions.get id = some managed) :
    (s.release id' true).sessions.get id = s.sessions.get id ∨
      id' = id ∧ (s.release id' true).opened[managed.session]? = some ⟨id, 1, some true⟩ := by
  rcases s.release_cases id' true with ⟨-, heq⟩ | ⟨managed', hlive', heq⟩
  · rw [heq]
    exact .inl rfl
  rw [heq]
  by_cases hid : id' = id
  · subst hid
    cases hlive'.symm.trans hlive
    exact .inr ⟨rfl, h.released true hlive⟩
  · left
    show (s.sessions.delete id').get id = _
    rw [JsMap.get_delete, if_neg (Ne.symm hid)]

theorem Accounted.removesOwn (h : s.Accounted) (call : UdpSessionCall) : s.RemovesOwn call := by
  intro s' hstep id managed hlive
  cases call with
  | expire timer =>
    cases harmed : s.timers.get timer with
    | none => simp [UdpSessionManager.step, expire, harmed] at hstep
    | some armed =>
      obtain rfl := Option.some.inj ((h.expire_eq harmed).symm.trans hstep)
      refine (h.release_keeps armed.id hlive).imp_right ?_
      rintro ⟨rfl, hclosed⟩
      obtain ⟨hown, -⟩ := h.timers timer armed harmed
      cases hlive.symm.trans hown
      exact ⟨harmed, hclosed⟩
  | resume =>
    simp only [UdpSessionManager.step, resume] at hstep
    split at hstep
    · cases hstep
    · cases hstep
      exact .inl rfl
    · next id' ids loops _ =>
      cases hstep
      have hloop : ({ s with loops := ids :: loops } : UdpSessionManager).Accounted :=
        ⟨h.active, h.limit, h.closed, h.live, h.timers⟩
      exact (hloop.release_keeps id' hlive).imp_right And.right
  | _ => exact .inr trivial

theorem opensLive_iff (s : UdpSessionManager) (call : UdpSessionCall) :
    s.OpensLive call ↔ s.BelowLimit call := by
  cases call with
  | «open» id =>
    unfold OpensLive BelowLimit
    rcases s.openSession_cases id with ⟨hfull, heq⟩ | ⟨hbelow, ⟨existing, hlive, heq⟩ | ⟨hfree, heq⟩⟩
    · constructor
      · intro hopens hhas
        obtain ⟨managed, hlive⟩ := Option.isSome_iff_exists.mp hhas
        have hopened := hopens managed hlive
        rw [heq] at hopened
        cases hopened
      · intro hlimit managed hlive
        have hsome : s.sessions.has id = true := by
          unfold JsMap.has
          rw [hlive]
          rfl
        exact absurd (hlimit hsome) (Nat.not_lt.mpr hfull)
    · refine iff_of_true (fun managed hget => ?_) fun _ => hbelow
      cases hlive.symm.trans hget
      exact heq
    · refine iff_of_true (fun managed hget => ?_) fun _ => hbelow
      cases hfree.symm.trans hget
  | _ => exact Iff.rfl

end Steps

/-- **The sessions of every run are accounted for, and opening a live id returns its session
exactly if no live id is opened at the limit.** -/
theorem udp_sessions_accounted_iff (maxSessions : Nat) (calls : List UdpSessionCall) :
    system.Throughout Accounted (create maxSessions) calls ∧
      system.Along RemovesOwn (create maxSessions) calls ∧
      (system.Along OpensLive (create maxSessions) calls ↔
        system.Along BelowLimit (create maxSessions) calls) := by
  refine ⟨?_, ?_, ?_⟩
  · exact system.throughout_of_kept Accounted (fun s call s' h hstep => h.step hstep) calls _
      (accounted_create maxSessions)
  · exact (system.along_true (create maxSessions) calls).of_invariant Accounted
      (fun s call s' h _ hstep => h.step hstep) (fun s call h _ => h.removesOwn call)
      (accounted_create maxSessions)
  · exact ⟨fun h => h.mono fun s call => (opensLive_iff s call).mp,
      fun h => h.mono fun s call => (opensLive_iff s call).mpr⟩

/-- One session is allowed, and its id is opened again. -/
theorem live_id_rejected :
    ∃ s, system.run (create 1) [.open "7"] = some s ∧ s.sessions.get "7" = some ⟨0, 0⟩ ∧
      (s.openSession "7").1 = none ∧ (s.openSession "7").2.stats.udpErrorsTotal = 1 ∧
      ¬ system.Along OpensLive (create 1) [.open "7", .open "7"] := by
  refine ⟨_, rfl, rfl, rfl, rfl, ?_⟩
  rintro ⟨-, h⟩
  have hopens := (h _ rfl).1 ⟨0, 0⟩ rfl
  cases hopens

end UdpSessionManager

end Sepigs
