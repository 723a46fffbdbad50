import Sepigs.Transport.ZeroCopy

/-!
# What a relay delivers

`close` of one stream closes the relay and the connection, and both destroy the other
stream, with what still waits in it.  So a relay whose streams report no error delivers
everything exactly if the stream that closes first finds the other one drained.
-/

namespace Sepigs

namespace ZeroCopyRelay

/-! ## Streams and their updates -/

section Streams

variable (s : ZeroCopyRelay) (side : RelaySide) (stream : RelayStream)

@[simp] theorem stream_setStream : (s.setStream side stream).stream side = stream := by
  cases side <;> rfl

@[simp] theorem stream_setStream_other :
    (s.setStream side stream).stream side.other = s.stream side.other := by
  cases side <;> rfl

@[simp] theorem stream_setStream_of_other :
    (s.setStream side.other stream).stream side = s.stream side := by
  cases side <;> rfl

@[simp] theorem closed_setStream : (s.setStream side stream).closed = s.closed := by
  cases side <;> rfl

@[simp] theorem connection_setStream : (s.setStream side stream).connection = s.connection := by
  cases side <;> rfl

@[simp] theorem stream_countBytes (bytes : Nat) (side' : RelaySide) :
    (s.countBytes side bytes).stream side' = s.stream side' := by
  cases side' <;> rfl

@[simp] theorem closed_countBytes (bytes : Nat) : (s.countBytes side bytes).closed = s.closed := rfl

theorem isOpen_touch (connection : ManagedConnection) :
    connection.touch.isOpen = connection.isOpen := by
  unfold ManagedConnection.touch
  split
  · rfl
  · rfl

@[simp] theorem isOpen_countBytes (bytes : Nat) :
    (s.countBytes side bytes).connection.isOpen = s.connection.isOpen := by
  cases side
  · exact isOpen_touch _
  · exact isOpen_touch _

@[simp] theorem stream_closeStreams : s.closeStreams.stream side = (s.stream side).destroy := by
  cases side <;> rfl

theorem forall_side {P : RelaySide → Prop} (side : RelaySide) :
    (∀ side', P side') ↔ P side ∧ P side.other := by
  constructor
  · intro h
    exact ⟨h side, h side.other⟩
  · rintro ⟨h, hother⟩ side'
    rcases side.eq_or_eq_other side' with rfl | rfl
    · exact h
    · exact hother

end Streams

/-! ## The close of a relay -/

/-- The listeners of the first `close`. -/
def closeBoth (s : ZeroCopyRelay) (reason : String) : ZeroCopyRelay :=
  (s.connectionClose false reason).cleanup false "socket closed"

section Close

variable {s : ZeroCopyRelay} {reason : String}

/-- The connection destroys both streams before the relay does. -/
theorem closeBoth_of_open (hclosed : s.closed = false) (hopen : s.connection.isOpen = true) :
    (s.closeBoth reason).closed = true ∧ (s.closeBoth reason).connection.isOpen = false ∧
      ∀ side, (s.closeBoth reason).stream side = (s.stream side).destroy := by
  have hconnection : s.connectionClose false reason = { s.closeStreams with
      connection := { s.connection.beginClose reason with state := .closed }
      finalized := some false } := by
    unfold connectionClose
    rw [hopen]
    rfl
  have hbegun : ({ s.connection.beginClose reason with state := .closed } :
      ManagedConnection).isOpen = false := rfl
  unfold closeBoth
  rw [hconnection]
  unfold cleanup
  rw [show s.closeStreams.closed = false from hclosed]
  unfold connectionClose
  simp only [closeStreams, hbegun]
  refine ⟨rfl, rfl, ?_⟩
  intro side
  cases side <;> rfl

theorem closeBoth_of_closed (hclosed : s.closed = true) (hopen : s.connection.isOpen = false) :
    s.closeBoth reason = s := by
  have hconnection : s.connectionClose false reason = s := by
    unfold connectionClose
    rw [hopen]
    rfl
  unfold closeBoth
  rw [hconnection]
  unfold cleanup
  rw [hclosed]
  rfl

end Close

/-! ## What every run keeps -/

/-- Both streams live as long as the relay does, and what was read from one of them was
written to the other. -/
structure Piped (s : ZeroCopyRelay) : Prop where
  open_iff : s.connection.isOpen = !s.closed
  destroyed : ∀ side, (s.stream side).destroyed = s.closed
  written : ∀ side, (s.stream side.other).written = (s.stream side).taken

/-- No stream was destroyed with a chunk that waits in it. -/
def Drained (s : ZeroCopyRelay) : Prop :=
  ∀ side, (s.stream side).destroyed = true → (s.stream side).waiting = []

/-- The stream that closes the relay finds the other one drained. -/
def ClosesDrained (s : ZeroCopyRelay) : RelayEvent → Prop
  | .close side => s.closed = false → (s.stream side.other).waiting = []
  | _ => True

instance (s : ZeroCopyRelay) : DecidablePred s.ClosesDrained
  | .close side =>
    inferInstanceAs (Decidable (s.closed = false → (s.stream side.other).waiting = []))
  | .data _ _ | .ended _ | .flushed _ | .error _ | .timeout _ => isTrue trivial

theorem Piped.drained {s : ZeroCopyRelay} (h : s.Piped) (hclosed : s.closed = false) : s.Drained := by
  intro side hdestroyed
  rw [h.destroyed, hclosed] at hdestroyed
  cases hdestroyed

section Steps

variable {s t : ZeroCopyRelay} {side : RelaySide}

theorem Piped.closed_of_live (h : s.Piped) (hlive : (s.stream side).destroyed = false) :
    s.closed = false := by
  rw [← h.destroyed side]
  exact hlive

theorem Piped.data (h : s.Piped) {chunk : List UInt8} (hstep : s.step (.data side chunk) = some t) :
    t.Piped ∧ t.closed = false := by
  obtain ⟨source, hsource, hstep⟩ := Option.bind_eq_some_iff.mp hstep
  obtain ⟨hlive, rfl⟩ := NodeStream.onData_spec hsource
  have hclosed := h.closed_of_live hlive
  simp only [closed_setStream, hclosed, Bool.false_eq_true, if_false,
    stream_setStream_other] at hstep
  split at hstep
  · cases hstep
    refine ⟨⟨?_, ?_, ?_⟩, ?_⟩
    · simpa using h.open_iff
    · rw [forall_side side]
      simp [hlive, hclosed, NodeStream.write, h.destroyed]
    · have hback := h.written side.other
      rw [RelaySide.other_other] at hback
      rw [forall_side side]
      simp only [stream_setStream, stream_setStream_of_other, stream_countBytes,
        NodeStream.written_write, RelaySide.other_other, h.written]
      exact ⟨trivial, hback⟩
    · simpa using hclosed
  · cases hstep

theorem Piped.ended (h : s.Piped) (hstep : s.step (.ended side) = some t) :
    t.Piped ∧ t.closed = false := by
  obtain ⟨source, hsource, hstep⟩ := Option.bind_eq_some_iff.mp hstep
  obtain ⟨hlive, rfl⟩ := NodeStream.onEnd_spec hsource
  have hclosed := h.closed_of_live hlive
  simp only [closed_setStream, hclosed, Bool.false_eq_true, if_false] at hstep
  cases hstep
  refine ⟨⟨?_, ?_, ?_⟩, ?_⟩
  · simpa using h.open_iff
  · rw [forall_side side]
    simp [hlive, hclosed, NodeStream.endWrites, h.destroyed]
  · have hback := h.written side.other
    rw [RelaySide.other_other] at hback
    rw [forall_side side]
    simp only [stream_setStream, stream_setStream_of_other, stream_setStream_other,
      NodeStream.written_endWrites, RelaySide.other_other, h.written]
    exact ⟨trivial, hback⟩
  · simpa using hclosed

theorem Piped.flushed (h : s.Piped) (hstep : s.step (.flushed side) = some t) :
    t.Piped ∧ t.closed = false := by
  obtain ⟨stream, hstream, hstep⟩ := Option.bind_eq_some_iff.mp hstep
  cases hstep
  have hwritten := NodeStream.written_onFlush hstream
  obtain ⟨hlive, chunk, waiting, hwaiting, rfl⟩ := NodeStream.onFlush_spec hstream
  have hclosed := h.closed_of_live hlive
  refine ⟨⟨?_, ?_, ?_⟩, ?_⟩
  · simpa using h.open_iff
  · rw [forall_side side]
    simp [hlive, hclosed, h.destroyed]
  · have hback := h.written side.other
    rw [RelaySide.other_other] at hback
    rw [forall_side side]
    simp only [stream_setStream, stream_setStream_other, RelaySide.other_other, h.written, hwritten]
    exact ⟨trivial, hback⟩
  · simpa using hclosed

/-- A stream is destroyed with what waits in it. -/
structure CutFrom (stream stream' : RelayStream) : Prop where
  destroyed : stream'.destroyed = true
  taken : stream'.taken = stream.taken
  waiting : stream'.waiting = stream.waiting
  delivered : stream'.delivered = stream.delivered

/-- The step that destroys streams. -/
theorem Piped.close_spec (h : s.Piped) (hstep : s.step (.close side) = some t) :
    t.closed = true ∧ t.connection.isOpen = false ∧
      (s.closed = false → (s.stream side).waiting = []) ∧
      ∀ side', CutFrom (s.stream side') (t.stream side') := by
  obtain ⟨stream, hstream, hstep⟩ := Option.bind_eq_some_iff.mp hstep
  obtain ⟨hover, rfl⟩ := NodeStream.onClose_spec hstream
  obtain rfl := Option.some.inj hstep
  change (closeBoth _ _).closed = true ∧ (closeBoth _ _).connection.isOpen = false ∧ _ ∧
    ∀ side', CutFrom (s.stream side') ((closeBoth _ _).stream side')
  cases hclosed : s.closed with
  | false =>
    have hopen : s.connection.isOpen = true := by simpa [hclosed] using h.open_iff
    have hlive : (s.stream side).destroyed = false := (h.destroyed side).trans hclosed
    obtain ⟨htclosed, htopen, hstreams⟩ := @closeBoth_of_open
      (s.setStream side { s.stream side with destroyed := true, closed := true })
      s!"{streamName side} socket closed" (by simpa using hclosed) (by simpa using hopen)
    refine ⟨htclosed, htopen, fun _ => hover hlive, ?_⟩
    rw [forall_side side]
    rw [hstreams, hstreams, stream_setStream, stream_setStream_other]
    exact ⟨⟨rfl, rfl, rfl, rfl⟩, ⟨rfl, rfl, rfl, rfl⟩⟩
  | true =>
    have hopen : s.connection.isOpen = false := by simpa [hclosed] using h.open_iff
    rw [closeBoth_of_closed (by simpa using hclosed) (by simpa using hopen)]
    refine ⟨by simpa using hclosed, by simpa using hopen, ?_, ?_⟩
    · intro hne
      cases hne
    · rw [forall_side side, stream_setStream, stream_setStream_other]
      exact ⟨⟨rfl, rfl, rfl, rfl⟩, ⟨(h.destroyed _).trans hclosed, rfl, rfl, rfl⟩⟩

theorem Piped.close (h : s.Piped) (hstep : s.step (.close side) = some t) : t.Piped := by
  obtain ⟨hclosed, hopen, -, hcut⟩ := h.close_spec hstep
  refine ⟨by rw [hopen, hclosed]; rfl, fun side' => (hcut side').destroyed.trans hclosed.symm, ?_⟩
  intro side'
  have hwritten := h.written side'
  unfold NodeStream.written at hwritten ⊢
  rw [(hcut _).delivered, (hcut _).waiting, (hcut _).taken]
  exact hwritten

theorem Piped.step (h : s.Piped) {event : RelayEvent} (hgraceful : event.Graceful)
    (hstep : s.step event = some t) : t.Piped := by
  cases event with
  | data side chunk => exact (h.data hstep).1
  | ended side => exact (h.ended hstep).1
  | flushed side => exact (h.flushed hstep).1
  | close side => exact h.close hstep
  | error side => exact hgraceful.elim
  | timeout side => exact hgraceful.elim

/-- Only the close of a relay can leave something behind. -/
theorem Piped.drained_iff (h : s.Piped) (hdrained : s.Drained) {event : RelayEvent}
    (hgraceful : event.Graceful) (hstep : s.step event = some t) :
    t.Drained ↔ s.ClosesDrained event := by
  cases event with
  | data side chunk =>
    obtain ⟨ht, hclosed⟩ := h.data hstep
    exact iff_of_true (ht.drained hclosed) trivial
  | ended side =>
    obtain ⟨ht, hclosed⟩ := h.ended hstep
    exact iff_of_true (ht.drained hclosed) trivial
  | flushed side =>
    obtain ⟨ht, hclosed⟩ := h.flushed hstep
    exact iff_of_true (ht.drained hclosed) trivial
  | close side =>
    obtain ⟨hclosed, -, hover, hcut⟩ := h.close_spec hstep
    constructor
    · intro hafter _
      rw [← (hcut side.other).waiting]
      exact hafter side.other (hcut side.other).destroyed
    · intro hcloses side' _
      rw [(hcut side').waiting]
      cases hwas : s.closed with
      | true => exact hdrained side' ((h.destroyed side').trans hwas)
      | false =>
        rcases side.eq_or_eq_other side' with rfl | rfl
        · exact hover hwas
        · exact hcloses hwas
  | error side => exact hgraceful.elim
  | timeout side => exact hgraceful.elim

end Steps

/-! ## What the other side receives -/

/-- The stream of a peer that closed cleanly has been given to the other peer, or is on its
way to it. -/
structure Untruncated (s : ZeroCopyRelay) : Prop where
  drained : s.Drained
  received : ∀ side, (s.stream side).readableEnded = true →
    ∃ k t, system.run s (List.replicate k (.flushed side.other)) = some t ∧
      (t.stream side.other).delivered = (s.stream side).taken

theorem run_flushed (side : RelaySide) (waiting : List (List UInt8)) (s : ZeroCopyRelay)
    (hlive : (s.stream side).destroyed = false) (hwaiting : (s.stream side).waiting = waiting) :
    ∃ t, system.run s (List.replicate waiting.length (.flushed side)) = some t ∧
      (t.stream side).delivered = (s.stream side).written := by
  induction waiting generalizing s with
  | nil => exact ⟨s, rfl, (NodeStream.written_of_drained hwaiting).symm⟩
  | cons chunk waiting ih =>
    have hflush := NodeStream.onFlush_eq hlive hwaiting
    obtain ⟨t, hrun, hdelivered⟩ := ih
      (s.setStream side { s.stream side with
        waiting := waiting
        delivered := (s.stream side).delivered ++ chunk })
      (by simpa using hlive) (by simp)
    refine ⟨t, ?_, ?_⟩
    · rw [List.length_cons, List.replicate_succ, Runs.System.run_cons_eq_some]
      exact ⟨_, Option.bind_eq_some_iff.mpr ⟨_, hflush, rfl⟩, hrun⟩
    · rw [hdelivered, stream_setStream]
      exact NodeStream.written_onFlush hflush

theorem Piped.untruncated_iff {s : ZeroCopyRelay} (h : s.Piped) : s.Untruncated ↔ s.Drained := by
  constructor
  · exact Untruncated.drained
  · intro hdrained
    refine ⟨hdrained, fun side _ => ?_⟩
    rw [← h.written side]
    cases hdestroyed : (s.stream side.other).destroyed with
    | false => exact ⟨_, run_flushed side.other _ s hdestroyed rfl⟩
    | true =>
      refine ⟨0, s, rfl, ?_⟩
      exact (NodeStream.written_of_drained (hdrained side.other hdestroyed)).symm

theorem piped_start (id : String) (clientHalfOpen remoteHalfOpen : Bool)
    (initialData : List UInt8) : (start id clientHalfOpen remoteHalfOpen initialData).Piped where
  open_iff := rfl
  destroyed side := by
    cases side
    · rfl
    · show (if initialData.length > 0 then _ else _ : RelayStream).destroyed = false
      split
      · rfl
      · rfl
  written side := by
    cases side
    · show (if initialData.length > 0 then _ else _ : RelayStream).written = initialData
      split
      · exact NodeStream.written_write
      · next hempty => exact (List.length_eq_zero_iff.mp (Nat.eq_zero_of_not_pos hempty)).symm
    · show [] = (if initialData.length > 0 then _ else _ : RelayStream).taken
      split
      · rfl
      · rfl

/-- **A relay without errors and timeouts truncates nothing exactly if the stream that closes
first finds the other one drained.** -/
theorem relay_untruncated_iff (id : String) (clientHalfOpen remoteHalfOpen : Bool)
    (initialData : List UInt8) {events : List RelayEvent} {s : ZeroCopyRelay}
    (hgraceful : ∀ event ∈ events, event.Graceful)
    (hrun : system.run (start id clientHalfOpen remoteHalfOpen initialData) events = some s) :
    system.Throughout Untruncated (start id clientHalfOpen remoteHalfOpen initialData) events ↔
      system.Along ClosesDrained (start id clientHalfOpen remoteHalfOpen initialData) events := by
  have hpiped := piped_start id clientHalfOpen remoteHalfOpen initialData
  have halong : system.Along (fun _ event => event.Graceful)
      (start id clientHalfOpen remoteHalfOpen initialData) events :=
    (system.along_iff _ _ _).mpr fun pre event post _ heq _ => hgraceful event (by simp [heq])
  refine system.throughout_iff_along (fun s event t h hevent hstep => h.step hevent hstep) ?_
    events _ s hpiped (hpiped.untruncated_iff.mpr (hpiped.drained rfl)) halong hrun
  intro s event t h huntruncated hevent hstep
  rw [(h.step hevent hstep).untruncated_iff]
  exact h.drained_iff huntruncated.drained hevent hstep

/-- The remote socket takes the request before the client closes. -/
def drainedClose : List RelayEvent :=
  [.data .client [71, 10], .flushed .remote, .ended .client, .close .client, .close .remote]

theorem relay_untruncated_iff_drainedClose :
    system.Throughout Untruncated (start "1" false false []) drainedClose := by
  have hrun : ∃ s, system.run (start "1" false false []) drainedClose = some s :=
    Option.isSome_iff_exists.mp (by decide)
  obtain ⟨s, hrun⟩ := hrun
  refine (relay_untruncated_iff "1" false false [] (by decide) hrun).mpr ?_
  decide

/-- The remote socket is slow: the request waits in its buffer when the client, which has
sent its last, closes. -/
def slowRemote : List RelayEvent :=
  [.data .client [71, 10], .ended .client, .close .client]

theorem relay_truncates :
    (∀ event ∈ slowRemote, event.Graceful) ∧
      ∃ s, system.run (start "1" false false []) slowRemote = some s ∧
        s.client.readableEnded = true ∧ s.client.taken = [71, 10] ∧ s.remote.destroyed = true ∧
        s.remote.waiting = [[71, 10]] ∧ s.remote.delivered = [] ∧
        ¬ system.Throughout Untruncated (start "1" false false []) slowRemote := by
  refine ⟨by decide, _, rfl, rfl, rfl, rfl, rfl, rfl, ?_⟩
  intro h
  have hend := (system.throughout_iff _ _ _).mp h slowRemote [] _ rfl rfl
  have hwaiting := hend.drained .remote rfl
  cases hwaiting

end ZeroCopyRelay

end Sepigs
