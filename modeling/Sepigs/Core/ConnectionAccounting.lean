import Mathlib.Tactic.Linarith
import Sepigs.Core.ConnectionManager
import Sepigs.Lib.JsString

/-!
# The accounting of connections

A connection is tracked until it is closed, and it is closing as long as one of the
calls under way is its `close` (`Phase`).  So the close that gets past the guard is the
only one to finalise it, however deep the calls are nested.
-/

namespace Sepigs

namespace ConnectionManager

variable {s : ConnectionManager}

/-- The closes of a connection that are under way. -/
def closing (stack : List CloseFrame) (connection : Nat) : Nat :=
  stack.countP fun
    | .close c _ => c = connection
    | .closeAll _ _ => false

/-- What the counters and the life of every connection should be. -/
structure Accounted (s : ConnectionManager) : Prop where
  limiter : s.limiter.activeConnections = s.connections.size
  stats : s.stats.activeConnections = s.connections.size
  capacity : s.limiter.activeConnections ≤ s.limiter.maxConnections
  tracked : s.connections.size = s.accepted.countP fun c => c.finalized = 0
  once : ∀ c ∈ s.accepted, c.finalized ≤ 1
  triggered : ∀ i c, s.accepted[i]? = some c → 0 < c.closeCalls →
    c.finalized = 1 ∨ 0 < closing s.stack i
  total : s.stats.totalConnections = s.stats.activeConnections + s.stats.closedConnections
  failed : s.stats.failedConnections ≤ s.stats.closedConnections
  upload : s.stats.bytesClientToRemote = (s.accepted.map (·.bytesUpload)).sum
  download : s.stats.bytesRemoteToClient = (s.accepted.map (·.bytesDownload)).sum
  failureRate : 0 ≤ s.stats.failureRate ∧ s.stats.failureRate ≤ 1

/-- The life of one connection: `frames` of its closes are under way. -/
structure Phase (frames i : Nat) (c : ManagedConnection) : Prop where
  id : c.id = toString (i + 1)
  frames : frames = if c.state = .closing then 1 else 0
  finalized : c.finalized = if c.state = .closed then 1 else 0
  called : 0 < c.closeCalls ↔ c.isOpen = false

/-- A connection is in the map exactly until it is closed. -/
structure Tracked (s : ConnectionManager) : Prop where
  nextId : s.nextId = s.accepted.length + 1
  phases : ∀ i c, s.accepted[i]? = some c → Phase (closing s.stack i) i c
  entries : ∀ id i, (id, i) ∈ s.connections.entries ↔
    ∃ c, s.accepted[i]? = some c ∧ c.id = id ∧ c.state ≠ .closed
  frames : ∀ i failed, .close i failed ∈ s.stack → i < s.accepted.length

structure Counted (s : ConnectionManager) : Prop where
  limiter : s.limiter.activeConnections = s.connections.size
  stats : s.stats.activeConnections = s.connections.size
  capacity : s.limiter.activeConnections ≤ s.limiter.maxConnections
  total : s.stats.totalConnections = s.stats.activeConnections + s.stats.closedConnections
  accepted : s.stats.totalConnections = s.accepted.length
  closed : s.stats.closedConnections = (s.accepted.map (·.finalized)).sum
  failed : s.stats.failedConnections ≤ s.stats.closedConnections
  upload : s.stats.bytesClientToRemote = (s.accepted.map (·.bytesUpload)).sum
  download : s.stats.bytesRemoteToClient = (s.accepted.map (·.bytesDownload)).sum

/-! ## One connection changes -/

theorem getElem?_update (i j : Nat) (f : ManagedConnection → ManagedConnection) :
    (s.update i f).accepted[j]? = s.accepted[j]?.map fun c => if i = j then f c else c := by
  show (s.accepted.modify i f)[j]? = _
  rw [List.getElem?_modify]
  rfl

theorem sum_modify (l : List ManagedConnection) (i : Nat)
    (f : ManagedConnection → ManagedConnection) (g : ManagedConnection → Nat) (n : Nat)
    (hf : ∀ c, g (f c) = g c + n) (hi : i < l.length) :
    ((l.modify i f).map g).sum = (l.map g).sum + n := by
  induction l generalizing i with
  | nil => exact absurd hi (Nat.not_lt_zero i)
  | cons c l ih =>
    cases i with
    | zero =>
      show g (f c) + (l.map g).sum = g c + (l.map g).sum + n
      rw [hf]
      omega
    | succ i =>
      show g c + ((l.modify i f).map g).sum = g c + (l.map g).sum + n
      rw [ih i (Nat.lt_of_succ_lt_succ hi)]
      omega

/-- Nothing changes about the life of the connection. -/
structure Quiet (f : ManagedConnection → ManagedConnection) : Prop where
  id : ∀ c, (f c).id = c.id
  state : ∀ c, ((f c).state = .closed ↔ c.state = .closed) ∧
    ((f c).state = .closing ↔ c.state = .closing)
  finalized : ∀ c, (f c).finalized = c.finalized
  closeCalls : ∀ c, (f c).closeCalls = c.closeCalls

theorem isOpen_eq_false (c : ManagedConnection) :
    c.isOpen = false ↔ c.state = .closed ∨ c.state = .closing := by
  unfold ManagedConnection.isOpen
  rw [decide_eq_false_iff_not, not_and_or, Decidable.not_not, Decidable.not_not]

theorem Phase.quiet {frames i : Nat} {c : ManagedConnection}
    {f : ManagedConnection → ManagedConnection} (h : Phase frames i c) (hf : Quiet f) :
    Phase frames i (f c) where
  id := by rw [hf.id, h.id]
  frames := by simp only [hf.state, h.frames]
  finalized := by simp only [hf.finalized, hf.state, h.finalized]
  called := by
    rw [hf.closeCalls, h.called, isOpen_eq_false, isOpen_eq_false, (hf.state c).1, (hf.state c).2]

/-- A connection changes without being closed, and its closes under way with it. -/
theorem Tracked.update (h : Tracked s) {f : ManagedConnection → ManagedConnection} {i : Nat}
    {stack : List CloseFrame}
    (hphase : ∀ c, s.accepted[i]? = some c →
      Phase (closing stack i) i (f c) ∧ ((f c).state = .closed ↔ c.state = .closed))
    (hother : ∀ j, j ≠ i → closing stack j = closing s.stack j)
    (hframes : ∀ j failed, .close j failed ∈ stack → j < s.accepted.length) :
    Tracked { s.update i f with stack := stack } where
  nextId := by
    show s.nextId = (s.accepted.modify i f).length + 1
    rw [List.length_modify, h.nextId]
  phases j c hc := by
    change (s.update i f).accepted[j]? = some c at hc
    rw [getElem?_update] at hc
    obtain ⟨c, hget, rfl⟩ := Option.map_eq_some_iff.mp hc
    split
    · next heq =>
      subst heq
      exact (hphase c hget).1
    · next hne =>
      show Phase (closing stack j) j c
      rw [hother j (Ne.symm hne)]
      exact h.phases j c hget
  entries id j := by
    refine (h.entries id j).trans ?_
    show _ ↔ ∃ c, (s.update i f).accepted[j]? = some c ∧ _
    rw [getElem?_update]
    by_cases hij : i = j
    · subst hij
      constructor
      · rintro ⟨c, hget, hid, hstate⟩
        obtain ⟨hnew, hclosed⟩ := hphase c hget
        refine ⟨f c, by rw [hget]; simp, ?_, fun h => hstate (hclosed.mp h)⟩
        rw [hnew.id, ← (h.phases i c hget).id, hid]
      · rintro ⟨c', hc, hid, hstate⟩
        obtain ⟨c, hget, rfl⟩ := Option.map_eq_some_iff.mp hc
        rw [if_pos rfl] at hid hstate
        obtain ⟨hnew, hclosed⟩ := hphase c hget
        refine ⟨c, hget, ?_, fun h => hstate (hclosed.mpr h)⟩
        rw [(h.phases i c hget).id, ← hnew.id, hid]
    · simp only [hij, if_false, Option.map_id_fun', id_eq]
  frames j failed hmem := by
    show j < (s.accepted.modify i f).length
    rw [List.length_modify]
    exact hframes j failed hmem

theorem Tracked.quiet (h : Tracked s) {f : ManagedConnection → ManagedConnection} (hf : Quiet f)
    (i : Nat) : Tracked (s.update i f) :=
  h.update (fun c hget => ⟨(h.phases i c hget).quiet hf, (hf.state c).1⟩) (fun _ _ => rfl) h.frames

/-- Nothing is counted. -/
structure SameCounts (f : ManagedConnection → ManagedConnection) : Prop where
  finalized : ∀ c, (f c).finalized = c.finalized
  upload : ∀ c, (f c).bytesUpload = c.bytesUpload
  download : ∀ c, (f c).bytesDownload = c.bytesDownload

theorem map_modify_same {g : ManagedConnection → Nat} {f : ManagedConnection → ManagedConnection}
    (hf : ∀ c, g (f c) = g c) (l : List ManagedConnection) (i : Nat) :
    (l.modify i f).map g = l.map g := by
  refine List.ext_getElem? fun j => ?_
  rw [List.getElem?_map, List.getElem?_map, List.getElem?_modify]
  cases l[j]? with
  | none => rfl
  | some c =>
    by_cases hij : i = j
    · simp [hij, hf]
    · simp [hij]

theorem Counted.update (h : Counted s) {f : ManagedConnection → ManagedConnection}
    (hf : SameCounts f) (i : Nat) (stack : List CloseFrame) :
    Counted { s.update i f with stack := stack } where
  limiter := h.limiter
  stats := h.stats
  capacity := h.capacity
  total := h.total
  accepted := by
    show _ = (s.accepted.modify i f).length
    rw [List.length_modify]
    exact h.accepted
  closed := by
    show _ = ((s.accepted.modify i f).map _).sum
    rw [map_modify_same hf.finalized]
    exact h.closed
  failed := h.failed
  upload := by
    show _ = ((s.accepted.modify i f).map _).sum
    rw [map_modify_same hf.upload]
    exact h.upload
  download := by
    show _ = ((s.accepted.modify i f).map _).sum
    rw [map_modify_same hf.download]
    exact h.download

/-! ## The calls -/

theorem closing_eq_zero (h : Tracked s) {i : Nat} (hi : s.accepted.length ≤ i) :
    closing s.stack i = 0 := by
  refine List.countP_eq_zero.mpr fun frame hmem => ?_
  cases frame with
  | close c failed =>
    have := h.frames c failed hmem
    simp only [decide_eq_true_eq]
    omega
  | closeAll remaining reason => simp

theorem notMem_keys (h : Tracked s) : toString s.nextId ∉ s.connections.keys := by
  intro hmem
  obtain ⟨⟨id, i⟩, hentry, hid⟩ := List.mem_map.mp hmem
  obtain ⟨c, hget, hc, -⟩ := (h.entries id i).mp hentry
  have hphase := (h.phases i c hget).id
  rw [hc, show id = toString s.nextId from hid, h.nextId] at hphase
  have hlt := (List.getElem?_eq_some_iff.mp hget).1
  have := JsString.toString_injective hphase
  omega

theorem Tracked.accept (h : Tracked s) : Tracked s.accept := by
  unfold ConnectionManager.accept ResourceLimiter.tryAcquireConnection
  split
  · exact ⟨h.nextId, h.phases, h.entries, h.frames⟩
  have hnew (j : Nat) : (s.accepted ++ [ManagedConnection.create (toString s.nextId)])[j]? =
      if j = s.accepted.length then some (ManagedConnection.create (toString s.nextId))
      else s.accepted[j]? := by
    rw [List.getElem?_append]
    split
    · next hlt => rw [if_neg (Nat.ne_of_lt hlt)]
    · next hge =>
      split
      · next heq => simp [heq]
      · next hne =>
        rw [List.getElem?_eq_none (by simp; omega), List.getElem?_eq_none (by omega)]
  refine ⟨?_, fun j c hc => ?_, fun id j => ?_, fun j failed hmem => ?_⟩
  · simp [h.nextId]
  · change (s.accepted ++ [ManagedConnection.create (toString s.nextId)])[j]? = some c at hc
    rw [hnew] at hc
    split at hc
    · next heq =>
      cases hc
      subst heq
      refine ⟨?_, ?_, rfl, ?_⟩
      · show toString s.nextId = _
        rw [h.nextId]
      · exact closing_eq_zero h (Nat.le_refl _)
      · simp [ManagedConnection.create, ManagedConnection.isOpen]
    · exact h.phases j c hc
  · show (id, j) ∈ (s.connections.set (toString s.nextId) s.accepted.length).entries ↔
      ∃ c, (s.accepted ++ [ManagedConnection.create (toString s.nextId)])[j]? = some c ∧ _
    rw [JsMap.mem_entries_set, hnew, h.entries]
    constructor
    · rintro (⟨rfl, rfl⟩ | ⟨-, c, hget, hid, hstate⟩)
      · exact ⟨_, if_pos rfl, rfl, by simp [ManagedConnection.create]⟩
      · have hlt := (List.getElem?_eq_some_iff.mp hget).1
        exact ⟨c, by rw [if_neg (Nat.ne_of_lt hlt), hget], hid, hstate⟩
    · rintro ⟨c, hc, hid, hstate⟩
      split at hc
      · next heq =>
        cases hc
        exact Or.inl ⟨hid.symm, heq⟩
      · refine Or.inr ⟨?_, c, hc, hid, hstate⟩
        rintro rfl
        exact notMem_keys h (List.mem_map.mpr ⟨_, (h.entries _ j).mpr ⟨c, hc, hid, hstate⟩, rfl⟩)
  · show j < (s.accepted ++ [_]).length
    rw [List.length_append]
    exact Nat.lt_add_right _ (h.frames j failed hmem)

theorem Counted.accept (h : Counted s) (ht : Tracked s) : Counted s.accept := by
  obtain ⟨hlimiter, hstats, hcapacity, htotal, haccepted, hclosed, hfailed, hupload, hdownload⟩ := h
  unfold ConnectionManager.accept ResourceLimiter.tryAcquireConnection
  split
  · exact ⟨hlimiter, hstats, hcapacity, htotal, haccepted, hclosed, hfailed, hupload, hdownload⟩
  have hfree : s.limiter.activeConnections < s.limiter.maxConnections := Nat.lt_of_not_le ‹_›
  have hsize : (s.connections.set (toString s.nextId) s.accepted.length).size =
      s.connections.size + 1 := JsMap.size_set_of_notMem _ _ (notMem_keys ht)
  refine ⟨?_, ?_, hfree, ?_, ?_, ?_, hfailed, ?_, ?_⟩
  · show s.limiter.activeConnections + 1 = JsMap.size (s.connections.set _ _)
    exact (congrArg (· + 1) hlimiter).trans hsize.symm
  · show s.stats.activeConnections + 1 = JsMap.size (s.connections.set _ _)
    exact (congrArg (· + 1) hstats).trans hsize.symm
  · show s.stats.totalConnections + 1 = s.stats.activeConnections + 1 + s.stats.closedConnections
    omega
  · show s.stats.totalConnections + 1 = (s.accepted ++ [_]).length
    rw [haccepted, List.length_append, List.length_singleton]
  · show s.stats.closedConnections = ((s.accepted ++ [_]).map _).sum
    rw [List.map_append, List.sum_append, hclosed]
    rfl
  · show s.stats.bytesClientToRemote = ((s.accepted ++ [_]).map _).sum
    rw [List.map_append, List.sum_append, hupload]
    rfl
  · show s.stats.bytesRemoteToClient = ((s.accepted ++ [_]).map _).sum
    rw [List.map_append, List.sum_append, hdownload]
    rfl

/-- The two ways a close begins. -/
theorem close_cases {i : Nat} {c : ManagedConnection} (hget : s.accepted[i]? = some c)
    (failed : Bool) (reason : String) :
    c.isOpen = false ∧
        s.close i failed reason = s.update i (fun c => { c with closeCalls := c.closeCalls + 1 }) ∨
      c.isOpen = true ∧ s.close i failed reason =
        { s.update i fun c => { c with closeCalls := c.closeCalls + 1 }.beginClose reason with
          stack := .close i failed :: s.stack } := by
  unfold ConnectionManager.close
  rw [hget]
  dsimp only
  cases hopen : c.isOpen with
  | false => exact Or.inl ⟨rfl, rfl⟩
  | true =>
    refine Or.inr ⟨rfl, ?_⟩
    simp only [Bool.not_true, Bool.false_eq_true, if_false, update, List.modify_modify_eq]
    rfl

theorem Counted.close (h : Counted s) (i : Nat) (failed : Bool) (reason : String) :
    Counted (s.close i failed reason) := by
  cases hget : s.accepted[i]? with
  | none =>
    unfold ConnectionManager.close
    rw [hget]
    exact h
  | some c =>
    rcases close_cases hget failed reason with ⟨-, hclose⟩ | ⟨-, hclose⟩
    · rw [hclose]
      exact h.update (f := fun c => { c with closeCalls := c.closeCalls + 1 }) ⟨fun _ => rfl, fun _ => rfl, fun _ => rfl⟩ i s.stack
    · rw [hclose]
      exact h.update
        (f := fun c => { c with closeCalls := c.closeCalls + 1 }.beginClose reason)
        ⟨fun _ => rfl, fun _ => rfl, fun _ => rfl⟩ i _

/-- One more close of `i` is under way, or one less: the other connections do not see it. -/
theorem closing_cons (stack : List CloseFrame) (i j : Nat) (failed : Bool) :
    closing (.close i failed :: stack) j = closing stack j + if i = j then 1 else 0 := by
  unfold closing
  rw [List.countP_cons]
  simp

theorem Tracked.close (h : Tracked s) (i : Nat) (failed : Bool) (reason : String) :
    Tracked (s.close i failed reason) := by
  cases hget : s.accepted[i]? with
  | none =>
    unfold ConnectionManager.close
    rw [hget]
    exact h
  | some c =>
    have hphase := h.phases i c hget
    rcases close_cases hget failed reason with ⟨hclosed, hclose⟩ | ⟨hopen, hclose⟩
    · rw [hclose]
      refine h.update (f := fun c => { c with closeCalls := c.closeCalls + 1 })
        (fun c' hget' => ?_) (fun _ _ => rfl) h.frames
      obtain rfl : c = c' := Option.some.inj (hget.symm.trans hget')
      exact ⟨⟨hphase.id, hphase.frames, hphase.finalized,
        ⟨fun _ => hclosed, fun _ => Nat.succ_pos _⟩⟩, Iff.rfl⟩
    · rw [hclose]
      have hstate : c.state ≠ .closed ∧ c.state ≠ .closing := of_decide_eq_true hopen
      refine h.update (fun c' hget' => ?_) (fun j hne => ?_) (fun j failed' hmem => ?_)
      · obtain rfl : c = c' := Option.some.inj (hget.symm.trans hget')
        refine ⟨⟨hphase.id, ?_, ?_, ⟨fun _ => rfl, fun _ => Nat.succ_pos _⟩⟩, ?_⟩
        · rw [closing_cons, hphase.frames, if_neg hstate.2, if_pos rfl]
          rfl
        · show c.finalized = 0
          rw [hphase.finalized, if_neg hstate.1]
        · exact ⟨fun h => (nomatch h), fun h => absurd h hstate.1⟩
      · rw [closing_cons, if_neg (Ne.symm hne), Nat.add_zero]
      · rcases List.mem_cons.mp hmem with heq | hmem
        · cases heq
          exact (List.getElem?_eq_some_iff.mp hget).1
        · exact h.frames j failed' hmem

theorem finalize_of_has {i : Nat} {id : String} (h : s.connections.has id = true) (failed : Bool) :
    s.finalize i id failed =
      { s.update i fun c => { c with finalized := c.finalized + 1 } with
        connections := s.connections.delete id
        limiter := s.limiter.releaseConnection
        stats := s.stats.closeConnection failed } := by
  unfold ConnectionManager.finalize
  exact if_neg (by simp [h])

/-- The close at the top of the stack comes to its end: the connection is finalised. -/
theorem resume_close (h : Tracked s) {i : Nat} {failed : Bool} {rest : List CloseFrame}
    (hstack : s.stack = .close i failed :: rest) :
    ∃ c, s.accepted[i]? = some c ∧ c.state = .closing ∧ closing rest i = 0 ∧
      c.id ∈ s.connections.keys ∧
      s.resume = some { s with
        limiter := s.limiter.releaseConnection
        stats := s.stats.closeConnection failed
        connections := s.connections.delete c.id
        accepted := s.accepted.modify i fun c =>
          { c with state := .closed, finalized := c.finalized + 1 }
        stack := rest } := by
  have hlt : i < s.accepted.length := h.frames i failed (hstack ▸ List.mem_cons_self)
  have hget : s.accepted[i]? = some s.accepted[i] := List.getElem?_eq_getElem hlt
  have hphase := h.phases i _ hget
  have hframes := hphase.frames
  rw [hstack, closing_cons, if_pos rfl] at hframes
  have hclosing : s.accepted[i].state = .closing := by
    by_contra hne
    rw [if_neg hne] at hframes
    omega
  have hmem : s.accepted[i].id ∈ s.connections.keys := by
    refine List.mem_map.mpr ⟨(s.accepted[i].id, i), (h.entries _ i).mpr ⟨_, hget, rfl, ?_⟩, rfl⟩
    rw [hclosing]
    exact ConnectionState.noConfusion
  rw [if_pos hclosing] at hframes
  refine ⟨_, hget, hclosing, by omega, hmem, ?_⟩
  have hhas : s.connections.has s.accepted[i].id = true := (JsMap.has_eq_true_iff _ _).mpr hmem
  unfold ConnectionManager.resume
  rw [hstack]
  dsimp only
  rw [hget]
  refine (congrArg some (finalize_of_has ?_ failed)).trans ?_
  · exact hhas
  · dsimp only [update]
    rw [List.modify_modify_eq]
    rfl

theorem Tracked.finalize (h : Tracked s) {i : Nat} {failed : Bool} {rest : List CloseFrame}
    (hstack : s.stack = .close i failed :: rest) {t : ConnectionManager}
    (hresume : s.resume = some t) : Tracked t := by
  obtain ⟨c, hget, hclosing, hrest, hmem, heq⟩ := resume_close h hstack
  rw [heq] at hresume
  cases hresume
  have hphase := h.phases i c hget
  have hother (j : Nat) (hne : j ≠ i) : closing rest j = closing s.stack j := by
    rw [hstack, closing_cons, if_neg (Ne.symm hne), Nat.add_zero]
  have hnew (j : Nat) := getElem?_update (s := s) i j fun c =>
    { c with state := .closed, finalized := c.finalized + 1 }
  refine ⟨?_, fun j c' hc => ?_, fun id j => ?_, fun j failed' hmem => ?_⟩
  · show s.nextId = (s.accepted.modify i _).length + 1
    rw [List.length_modify]
    exact h.nextId
  · obtain ⟨c', hget', rfl⟩ := Option.map_eq_some_iff.mp ((hnew j).symm.trans hc)
    split
    · next hij =>
      subst hij
      obtain rfl : c = c' := Option.some.inj (hget.symm.trans hget')
      refine ⟨hphase.id, hrest, ?_, ?_⟩
      · show c.finalized + 1 = 1
        rw [hphase.finalized, hclosing]
        rfl
      · refine ⟨fun _ => rfl, fun _ => hphase.called.mpr ?_⟩
        exact (isOpen_eq_false c).mpr (Or.inr hclosing)
    · next hij =>
      show Phase (closing rest j) j c'
      rw [hother j (Ne.symm hij)]
      exact h.phases j c' hget'
  · show (id, j) ∈ (s.connections.delete c.id).entries ↔
      ∃ c, (s.update i _).accepted[j]? = some c ∧ _
    rw [JsMap.mem_entries_delete, h.entries, hnew]
    by_cases hij : i = j
    · subst hij
      constructor
      · rintro ⟨hne, c', hget', hid, -⟩
        obtain rfl : c = c' := Option.some.inj (hget.symm.trans hget')
        exact absurd hid.symm hne
      · rintro ⟨c', hc, -, hstate⟩
        obtain ⟨c', -, rfl⟩ := Option.map_eq_some_iff.mp hc
        rw [if_pos rfl] at hstate
        exact absurd rfl hstate
    · simp only [hij, if_false, Option.map_id_fun', id_eq]
      refine ⟨And.right, fun hc => ⟨?_, hc⟩⟩
      obtain ⟨c', hget', hid, -⟩ := hc
      rw [← hid, (h.phases j c' hget').id, hphase.id]
      intro heq
      have := JsString.toString_injective heq
      omega
  · show j < (s.accepted.modify i _).length
    rw [List.length_modify]
    exact h.frames j failed' (hstack ▸ List.mem_cons_of_mem _ hmem)

theorem Counted.finalize (h : Counted s) (ht : Tracked s) {i : Nat} {failed : Bool}
    {rest : List CloseFrame} (hstack : s.stack = .close i failed :: rest) {t : ConnectionManager}
    (hresume : s.resume = some t) : Counted t := by
  obtain ⟨c, hget, hclosing, hrest, hmem, heq⟩ := resume_close ht hstack
  rw [heq] at hresume
  cases hresume
  have hlt : i < s.accepted.length := (List.getElem?_eq_some_iff.mp hget).1
  obtain ⟨hlimiter, hstats, hcapacity, htotal, haccepted, hclosed, hfailed, hupload, hdownload⟩ := h
  have hsize : JsMap.size (s.connections.delete c.id) + 1 = s.connections.size :=
    JsMap.size_delete_of_mem _ hmem
  have hpos : 0 < s.limiter.activeConnections := by omega
  have hpos' : 0 < s.stats.activeConnections := by omega
  have hrelease : s.limiter.releaseConnection =
      { s.limiter with activeConnections := s.limiter.activeConnections - 1 } := if_pos hpos
  refine ⟨?_, ?_, ?_, ?_, ?_, ?_, ?_, ?_, ?_⟩
  · show s.limiter.releaseConnection.activeConnections = JsMap.size (s.connections.delete c.id)
    rw [hrelease]
    show s.limiter.activeConnections - 1 = _
    omega
  · show (if s.stats.activeConnections > 0 then s.stats.activeConnections - 1
      else s.stats.activeConnections) = JsMap.size (s.connections.delete c.id)
    rw [if_pos hpos']
    omega
  · show s.limiter.releaseConnection.activeConnections ≤ s.limiter.releaseConnection.maxConnections
    rw [hrelease]
    exact Nat.le_trans (Nat.sub_le _ 1) hcapacity
  · show s.stats.totalConnections = (if s.stats.activeConnections > 0 then
      s.stats.activeConnections - 1 else s.stats.activeConnections) + (s.stats.closedConnections + 1)
    rw [if_pos hpos']
    omega
  · show s.stats.totalConnections = (s.accepted.modify i _).length
    rw [List.length_modify]
    exact haccepted
  · show s.stats.closedConnections + 1 = ((s.accepted.modify i _).map _).sum
    rw [sum_modify _ i _ _ 1 (fun _ => rfl) hlt, hclosed]
  · show (if failed then s.stats.failedConnections + 1 else s.stats.failedConnections) ≤
      s.stats.closedConnections + 1
    split <;> omega
  · show s.stats.bytesClientToRemote = ((s.accepted.modify i _).map _).sum
    rw [map_modify_same]
    · exact hupload
    · exact fun _ => rfl
  · show s.stats.bytesRemoteToClient = ((s.accepted.modify i _).map _).sum
    rw [map_modify_same]
    · exact hdownload
    · exact fun _ => rfl

/-! ## Steps and runs -/

/-- Only the timer or a listener changes. -/
def Rewires (f : ManagedConnection → ManagedConnection) : Prop :=
  ∀ c, ∃ timer clientListener remoteListeners,
    f c = { c with
      timer := timer, clientListener := clientListener, remoteListeners := remoteListeners }

theorem Rewires.keeps (ht : Tracked s) (hc : Counted s)
    {f : ManagedConnection → ManagedConnection} (hf : Rewires f) (i : Nat) :
    Tracked (s.update i f) ∧ Counted (s.update i f) := by
  refine ⟨ht.quiet ⟨fun c => ?_, fun c => ?_, fun c => ?_, fun c => ?_⟩ i,
    hc.update ⟨fun c => ?_, fun c => ?_, fun c => ?_⟩ i s.stack⟩ <;>
  obtain ⟨_, _, _, heq⟩ := hf c <;> rw [heq]
  exact ⟨Iff.rfl, Iff.rfl⟩

/-- Only `closeAll` comes and goes on the stack. -/
theorem Tracked.restack (h : Tracked s) {stack : List CloseFrame}
    (hclosing : ∀ i, closing stack i = closing s.stack i)
    (hframes : ∀ i failed, .close i failed ∈ stack → .close i failed ∈ s.stack) :
    Tracked { s with stack := stack } where
  nextId := h.nextId
  phases i c hget := by
    show Phase (closing stack i) i c
    rw [hclosing]
    exact h.phases i c hget
  entries := h.entries
  frames i failed hmem := h.frames i failed (hframes i failed hmem)

theorem Counted.restack (h : Counted s) (stack : List CloseFrame) :
    Counted { s with stack := stack } :=
  ⟨h.limiter, h.stats, h.capacity, h.total, h.accepted, h.closed, h.failed, h.upload, h.download⟩

/-- The innermost call goes on. -/
theorem resume_keeps (ht : Tracked s) (hc : Counted s) {t : ConnectionManager}
    (h : s.resume = some t) : Tracked t ∧ Counted t := by
  cases hstack : s.stack with
  | nil =>
    unfold ConnectionManager.resume at h
    rw [hstack] at h
    cases h
  | cons frame rest =>
    cases frame with
    | close i failed => exact ⟨ht.finalize hstack h, hc.finalize ht hstack h⟩
    | closeAll remaining reason =>
      have hclosing (remaining' : List Nat) (i : Nat) :
          closing (.closeAll remaining' reason :: rest) i = closing s.stack i := by
        rw [hstack]
        unfold closing
        rw [List.countP_cons_of_neg (by simp), List.countP_cons_of_neg (by simp)]
      cases remaining with
      | nil =>
        unfold ConnectionManager.resume at h
        rw [hstack] at h
        cases h
        refine ⟨ht.restack (fun i => ?_) fun i failed hmem => ?_, hc.restack rest⟩
        · rw [hstack]
          unfold closing
          rw [List.countP_cons_of_neg (by simp)]
        · exact hstack ▸ List.mem_cons_of_mem _ hmem
      | cons connection remaining =>
        unfold ConnectionManager.resume at h
        rw [hstack] at h
        cases h
        refine ⟨(ht.restack (hclosing remaining) fun i failed hmem => ?_).close _ _ _,
          (hc.restack _).close _ _ _⟩
        rcases List.mem_cons.mp hmem with heq | hmem
        · cases heq
        · exact hstack ▸ List.mem_cons_of_mem _ hmem

/-- What is left to do before all calls have returned. -/
def pending (stack : List CloseFrame) : Nat :=
  (stack.map fun
    | .close _ _ => 1
    | .closeAll remaining _ => 2 * remaining.length + 1).sum

theorem pending_close_le (i : Nat) (failed : Bool) (reason : String) :
    pending (s.close i failed reason).stack ≤ pending s.stack + 1 := by
  cases hget : s.accepted[i]? with
  | none =>
    unfold ConnectionManager.close
    rw [hget]
    exact Nat.le_succ _
  | some c =>
    rcases close_cases hget failed reason with ⟨-, hclose⟩ | ⟨-, hclose⟩ <;> rw [hclose]
    · exact Nat.le_succ _
    · show 1 + pending s.stack ≤ _
      omega

theorem resume_progress (ht : Tracked s) (hstack : s.stack ≠ []) :
    ∃ t, s.resume = some t ∧ pending t.stack < pending s.stack := by
  cases hs : s.stack with
  | nil => exact absurd hs hstack
  | cons frame rest =>
    cases frame with
    | close i failed =>
      obtain ⟨c, -, -, -, -, hresume⟩ := resume_close ht hs
      refine ⟨_, hresume, ?_⟩
      show pending rest < 1 + pending rest
      omega
    | closeAll remaining reason =>
      unfold ConnectionManager.resume
      rw [hs]
      cases remaining with
      | nil =>
        refine ⟨_, rfl, ?_⟩
        show pending rest < 1 + pending rest
        omega
      | cons connection remaining =>
        refine ⟨_, rfl, Nat.lt_of_le_of_lt (pending_close_le _ _ _) ?_⟩
        show 2 * remaining.length + 1 + pending rest + 1 <
          2 * (remaining.length + 1) + 1 + pending rest
        omega

/-- The calls under way come to their end when nothing else is called. -/
theorem settles (n : Nat) (ht : Tracked s) (hc : Counted s) (hn : pending s.stack ≤ n) :
    ∃ k t, system.run s (List.replicate k .resume) = some t ∧ t.stack = [] := by
  induction n generalizing s with
  | zero =>
    refine ⟨0, s, rfl, ?_⟩
    by_contra hne
    obtain ⟨t, -, hlt⟩ := resume_progress ht hne
    omega
  | succ n ih =>
    by_cases hne : s.stack = []
    · exact ⟨0, s, rfl, hne⟩
    · obtain ⟨t, hresume, hlt⟩ := resume_progress ht hne
      obtain ⟨ht', hc'⟩ := resume_keeps ht hc hresume
      obtain ⟨k, u, hrun, hu⟩ := ih ht' hc' (by omega)
      refine ⟨k + 1, u, ?_, hu⟩
      exact (system.run_cons_eq_some s u .resume _).mpr ⟨t, hresume, hrun⟩

end ConnectionManager

end Sepigs
