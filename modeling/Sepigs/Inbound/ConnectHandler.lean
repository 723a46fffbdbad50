import Sepigs.Core.ConnectionManager

/-!
# CONNECT against the closing of its connection

One connection of `inbound/socks5.ts` or `inbound/http.ts` from its acceptance on: the
handler goes on whenever what it awaits is settled, and in between the sockets, the timer
and the manager can close the connection.  The counters are `core/connectionManager.ts`'s
and are modelled there.
-/

namespace Sepigs

/-- `destroyed` but not `closed`: the `close` event is still to come. -/
inductive StreamState
  | alive
  | destroyed
  | closed
deriving DecidableEq, Repr

/-- `tracked`: the leak detector has the socket, and listens for its `close`. -/
structure TcpStream where
  state : StreamState
  tracked : Bool
deriving DecidableEq, Repr

namespace TcpStream

def destroy (stream : TcpStream) : TcpStream :=
  if stream.state = .alive then { stream with state := .destroyed } else stream

/-- What `trackSocket` gave to clean up. -/
def untrack (stream : TcpStream) : TcpStream := { stream with tracked := false }

/-- The `close` event, as the leak detector sees it. -/
def emitClose : TcpStream := ⟨.closed, false⟩

end TcpStream

inductive ConnectProtocol
  | socks5
  | http
deriving DecidableEq, Repr

/-- What the handler awaits: the request, `openTcp`, the write of the reply (`refused` when the
client could not be written to), or the write of an error. -/
inductive ConnectPhase
  | negotiating
  | opening
  | replying (refused : Bool)
  | reporting
  | finished
deriving DecidableEq, Repr

/-- `relay`: `zeroCopyRelay` has been set up and not cleaned up. -/
structure ConnectHandler where
  protocol : ConnectProtocol
  phase : ConnectPhase
  connection : ManagedConnection
  client : TcpStream
  remote : Option TcpStream
  relay : Bool
deriving DecidableEq, Repr

inductive Side
  | client
  | remote
deriving DecidableEq, Repr

/-- `requestFails` comes with or without an error reply; a socket is destroyed by its peer or
by an error, and emits `close` later; `relayEnds` is an error or a timeout that the relay
hears of. -/
inductive ConnectEvent
  | requestRead
  | requestFails (reported : Bool)
  | openResolves (remote : StreamState)
  | openRejects
  | writeSettles (written : Bool)
  | destroyed (side : Side)
  | emitsClose (side : Side)
  | timeout
  | closeConnection (reason : String)
  | relayEnds
deriving DecidableEq, Repr

namespace ConnectHandler

/-- After `accept`. -/
def accepted (protocol : ConnectProtocol) (id : String) : ConnectHandler where
  protocol := protocol
  phase := .negotiating
  connection := ManagedConnection.create id
  client := ⟨.alive, true⟩
  remote := none
  relay := false

/-- `connection.close`; nothing comes in between. -/
def close (s : ConnectHandler) (reason : String) : ConnectHandler :=
  if s.connection.isOpen then
    { s with
      connection := { s.connection.beginClose reason with
        state := .closed, finalized := s.connection.finalized + 1 }
      client := s.client.untrack.destroy
      remote := s.remote.map fun remote => remote.untrack.destroy }
  else s

/-- `connection.attachRemoteSocket`, and the call of `writeSocket` for the reply. -/
def attachRemoteSocket (s : ConnectHandler) (remote : StreamState) : ConnectHandler :=
  { s with
    connection := s.connection.attachRemoteSocket
    remote := some ⟨remote, true⟩
    phase := .replying (s.client.state ≠ .alive) }

/-- `cleanup` of the relay. -/
def endRelay (s : ConnectHandler) (reason : String) : ConnectHandler :=
  if s.relay then
    { s with
      relay := false
      client := s.client.destroy
      remote := s.remote.map TcpStream.destroy }.close reason
  else s

def finish (s : ConnectHandler) : ConnectHandler := { s with phase := .finished }

/-- The error after the reply was not written: `inbound/http.ts` reports it to a client that is
not destroyed. -/
def replyFailed (s : ConnectHandler) : ConnectHandler :=
  match s.protocol with
  | .socks5 => (s.close "socks5 inbound failure").finish
  | .http =>
    if s.client.state = .alive then { s with phase := .reporting }
    else (s.close "http inbound failure").finish

/-- `markEstablished` and `pipe`. -/
def replyWritten (s : ConnectHandler) : ConnectHandler :=
  { s with connection := s.connection.markEstablished, relay := true, phase := .finished }

/-- The listeners on the client's `close`. -/
def clientClosed (s : ConnectHandler) : ConnectHandler :=
  let s := { s with client := TcpStream.emitClose }
  let s :=
    if s.connection.clientListener then
      { s with connection := { s.connection with clientListener := false } }.close "client socket closed"
    else s
  s.endRelay "socket closed"

/-- The listeners on the remote's `close`. -/
def remoteClosed (s : ConnectHandler) : ConnectHandler :=
  let s := { s with remote := some TcpStream.emitClose }
  let s :=
    if 0 < s.connection.remoteListeners then
      { s with connection := { s.connection with remoteListeners := s.connection.remoteListeners - 1 } }.close
        "remote socket closed"
    else s
  s.endRelay "socket closed"

def step (s : ConnectHandler) : ConnectEvent → Option ConnectHandler
  | .requestRead => if s.phase = .negotiating then some { s with phase := .opening } else none
  | .requestFails reported =>
    if s.phase = .negotiating then
      some (if reported then { s with phase := .reporting } else (s.close "inbound failure").finish)
    else none
  | .openResolves remote => if s.phase = .opening then some (s.attachRemoteSocket remote) else none
  | .openRejects => if s.phase = .opening then some { s with phase := .reporting } else none
  | .writeSettles written =>
    match s.phase with
    | .replying refused =>
      if written then if refused then none else some s.replyWritten else some s.replyFailed
    | .reporting => some (s.close "outbound connect failed").finish
    | _ => none
  | .destroyed .client => if s.client.state = .alive then some { s with client := s.client.destroy } else none
  | .destroyed .remote =>
    match s.remote with
    | some remote => if remote.state = .alive then some { s with remote := some remote.destroy } else none
    | none => none
  | .emitsClose .client => if s.client.state = .destroyed then some s.clientClosed else none
  | .emitsClose .remote =>
    match s.remote with
    | some remote => if remote.state = .destroyed then some s.remoteClosed else none
    | none => none
  | .timeout =>
    if s.connection.timer then
      some ({ s with connection := { s.connection with timer := false } }.close "handshake timeout")
    else none
  | .closeConnection reason => some (s.close reason)
  | .relayEnds => if s.relay then some (s.endRelay "idle timeout") else none

def system : Runs.System ConnectHandler ConnectEvent where
  step := step

/-- Once the connection is closed and the handler is done, the remote socket is gone. -/
def NoLeak (s : ConnectHandler) : Prop :=
  s.connection.state = .closed → s.phase = .finished →
    ∀ remote, s.remote = some remote → remote.state ≠ .alive ∧ remote.tracked = false

/-- The remote emits `close` before the handler goes on. -/
def closesFirst : List ConnectEvent → Bool
  | [] => true
  | .emitsClose .remote :: _ => true
  | .writeSettles _ :: _ => false
  | _ :: events => closesFirst events

/-- Every remote socket that `openTcp` gives after the connection was closed emits `close`
before the handler goes on. -/
def InTime : ConnectHandler → List ConnectEvent → Prop
  | _, [] => True
  | s, event :: events =>
    (∀ remote, event = .openResolves remote → s.connection.state = .closed → closesFirst events = true) ∧
      ∀ s', s.step event = some s' → InTime s' events

/-! ## What the operations keep -/

theorem destroy_state (stream : TcpStream) : stream.destroy.state ≠ .alive := by
  unfold TcpStream.destroy
  by_cases h : stream.state = .alive
  · rw [if_pos h]
    simp
  · rw [if_neg h]
    exact h

theorem destroy_tracked (stream : TcpStream) : stream.destroy.tracked = stream.tracked := by
  unfold TcpStream.destroy
  by_cases h : stream.state = .alive
  · rw [if_pos h]
  · rw [if_neg h]

/-- A remote socket that has gone, if there is one. -/
def RemoteGone (s : ConnectHandler) : Prop :=
  ∀ remote, s.remote = some remote → remote.state ≠ .alive ∧ remote.tracked = false

/-- A connection that is closed has closed its sockets. -/
structure Clean (s : ConnectHandler) : Prop where
  notClosing : s.connection.state ≠ .closing
  client : s.connection.state = .closed → s.client.state ≠ .alive
  remote : s.connection.state = .closed → s.RemoteGone
  noRemote : s.phase = .negotiating ∨ s.phase = .opening → s.remote = none
  noRelay : s.phase ≠ .finished → s.relay = false

theorem isOpen_iff {connection : ManagedConnection} (h : connection.state ≠ .closing) :
    connection.isOpen = true ↔ connection.state ≠ .closed := by
  unfold ManagedConnection.isOpen
  simp [h]

theorem close_of_closed {s : ConnectHandler} (h : s.connection.state = .closed) (reason : String) :
    s.close reason = s := by
  unfold close ManagedConnection.isOpen
  rw [h]
  rfl

theorem close_phase (s : ConnectHandler) (reason : String) : (s.close reason).phase = s.phase := by
  unfold close
  split <;> rfl

theorem close_protocol (s : ConnectHandler) (reason : String) : (s.close reason).protocol = s.protocol := by
  unfold close
  split <;> rfl

theorem Clean.close {s : ConnectHandler} (h : s.Clean) (reason : String) : (s.close reason).Clean := by
  by_cases hclosed : s.connection.state = .closed
  · rw [close_of_closed hclosed]
    exact h
  · unfold ConnectHandler.close
    rw [if_pos ((isOpen_iff h.notClosing).mpr hclosed)]
    refine ⟨by simp, fun _ => destroy_state _, fun _ remote hremote => ?_, fun hphase => ?_, h.noRelay⟩
    · obtain ⟨before, -, rfl⟩ := Option.map_eq_some_iff.mp hremote
      exact ⟨destroy_state _, by rw [destroy_tracked]; rfl⟩
    · show s.remote.map _ = none
      rw [h.noRemote hphase]
      rfl

theorem Clean.finish {s : ConnectHandler} (h : s.Clean) : s.finish.Clean :=
  ⟨h.notClosing, h.client, h.remote, fun hphase => (by rcases hphase with hphase | hphase <;> cases hphase),
    fun hphase => absurd rfl hphase⟩

theorem Clean.report {s : ConnectHandler} (h : s.Clean) (hphase : s.phase ≠ .finished) :
    Clean { s with phase := .reporting } :=
  ⟨h.notClosing, h.client, h.remote, fun hphase => (by rcases hphase with hphase | hphase <;> cases hphase),
    fun _ => h.noRelay hphase⟩

theorem Clean.destroyClient {s : ConnectHandler} (h : s.Clean) : Clean { s with client := s.client.destroy } :=
  ⟨h.notClosing, fun _ => destroy_state _, h.remote, h.noRemote, h.noRelay⟩

theorem Clean.destroyRemote {s : ConnectHandler} (h : s.Clean) {remote : TcpStream} (hremote : s.remote = some remote) :
    Clean { s with remote := some remote.destroy } := by
  refine ⟨h.notClosing, h.client, fun hclosed other hother => ?_, fun hphase => ?_, h.noRelay⟩
  · cases hother
    refine ⟨destroy_state _, ?_⟩
    rw [destroy_tracked]
    exact (h.remote hclosed remote hremote).2
  · have hnone := h.noRemote hphase
    rw [hremote] at hnone
    cases hnone

theorem Clean.endRelay {s : ConnectHandler} (h : s.Clean) (reason : String) : (s.endRelay reason).Clean := by
  have hdestroyed : Clean { s with
      relay := false, client := s.client.destroy, remote := s.remote.map TcpStream.destroy } := by
    refine ⟨h.notClosing, fun _ => destroy_state _, fun hclosed remote hremote => ?_, fun hphase => ?_, fun _ => rfl⟩
    · obtain ⟨before, hbefore, rfl⟩ := Option.map_eq_some_iff.mp hremote
      refine ⟨destroy_state _, ?_⟩
      rw [destroy_tracked]
      exact (h.remote hclosed before hbefore).2
    · show s.remote.map _ = none
      rw [h.noRemote hphase]
      rfl
  unfold ConnectHandler.endRelay
  split
  · exact hdestroyed.close reason
  · exact h

theorem Clean.clientClosed {s : ConnectHandler} (h : s.Clean) : s.clientClosed.Clean := by
  have hclosed : TcpStream.emitClose.state ≠ .alive := by simp [TcpStream.emitClose]
  have hclient : Clean { s with client := TcpStream.emitClose } :=
    ⟨h.notClosing, fun _ => hclosed, h.remote, h.noRemote, h.noRelay⟩
  have hlistener : Clean { s with
      client := TcpStream.emitClose, connection := { s.connection with clientListener := false } } :=
    ⟨h.notClosing, fun _ => hclosed, h.remote, h.noRemote, h.noRelay⟩
  unfold ConnectHandler.clientClosed
  refine Clean.endRelay ?_ _
  simp only []
  split
  · exact hlistener.close _
  · exact hclient

/-- After its `close` event the remote has gone. -/
theorem clean_remoteClosed {s : ConnectHandler} (hnotClosing : s.connection.state ≠ .closing)
    (hclient : s.connection.state = .closed → s.client.state ≠ .alive)
    (hphase : s.phase ≠ .negotiating ∧ s.phase ≠ .opening) (hnoRelay : s.phase ≠ .finished → s.relay = false) :
    s.remoteClosed.Clean := by
  have hgone : ∀ remote, some TcpStream.emitClose = some remote → remote.state ≠ .alive ∧ remote.tracked = false := by
    intro remote hremote
    cases hremote
    exact ⟨by simp [TcpStream.emitClose], rfl⟩
  have hremote : Clean { s with remote := some TcpStream.emitClose } :=
    ⟨hnotClosing, hclient, fun _ => hgone, fun h => absurd h (by simp [hphase]), hnoRelay⟩
  have hlistener : Clean { s with
      remote := some TcpStream.emitClose
      connection := { s.connection with remoteListeners := s.connection.remoteListeners - 1 } } :=
    ⟨hnotClosing, hclient, fun _ => hgone, fun h => absurd h (by simp [hphase]), hnoRelay⟩
  unfold ConnectHandler.remoteClosed
  refine Clean.endRelay ?_ _
  simp only []
  split
  · exact hlistener.close _
  · exact hremote

theorem Clean.replyFailed {s : ConnectHandler} (h : s.Clean) (hphase : s.phase ≠ .finished) :
    s.replyFailed.Clean := by
  unfold ConnectHandler.replyFailed
  split
  · exact (h.close _).finish
  · split
    · exact h.report hphase
    · exact (h.close _).finish

theorem Clean.replyWritten {s : ConnectHandler} (h : s.Clean) : s.replyWritten.Clean := by
  have hstate : s.connection.markEstablished.state = .closed ↔ s.connection.state = .closed := by
    unfold ManagedConnection.markEstablished
    split
    · rfl
    · next hhandshake =>
      have heq : s.connection.state = .handshake := by simpa using hhandshake
      simp [heq]
  have hnotClosing : s.connection.markEstablished.state ≠ .closing := by
    unfold ManagedConnection.markEstablished
    split
    · exact h.notClosing
    · simp
  refine ⟨hnotClosing, fun hclosed => h.client (hstate.mp hclosed), fun hclosed => h.remote (hstate.mp hclosed),
    fun hphase => ?_, fun hphase => absurd rfl hphase⟩
  rcases hphase with hphase | hphase <;> cases hphase

/-- The remote came too late, and the handler will not wait for the client. -/
structure Late (s : ConnectHandler) : Prop where
  closed : s.connection.state = .closed
  phase : s.phase = .replying true
  client : s.client.state ≠ .alive
  relay : s.relay = false
  remote : ∃ remote, s.remote = some remote ∧ remote.tracked = true

theorem late_attach {s : ConnectHandler} (h : s.Clean) (hphase : s.phase = .opening)
    (hclosed : s.connection.state = .closed) (remote : StreamState) : (s.attachRemoteSocket remote).Late := by
  refine ⟨hclosed, ?_, h.client hclosed, h.noRelay (by simp [hphase]), ⟨remote, true⟩, rfl, rfl⟩
  show ConnectPhase.replying _ = _
  rw [decide_eq_true (h.client hclosed)]

theorem clean_attach {s : ConnectHandler} (h : s.Clean) (hphase : s.phase = .opening)
    (hopen : s.connection.state ≠ .closed) (remote : StreamState) : (s.attachRemoteSocket remote).Clean := by
  refine ⟨h.notClosing, fun hclosed => absurd hclosed hopen, fun hclosed => absurd hclosed hopen, fun hphase' => ?_,
    fun _ => h.noRelay (by simp [hphase])⟩
  rcases hphase' with hphase' | hphase' <;> cases hphase'

/-! ## Steps -/

/-- What a step can do. -/
inductive Move (s : ConnectHandler) : ConnectEvent → ConnectHandler → Prop where
  | requestRead (h : s.phase = .negotiating) : Move s .requestRead { s with phase := .opening }
  | requestReported (h : s.phase = .negotiating) : Move s (.requestFails true) { s with phase := .reporting }
  | requestFailed (h : s.phase = .negotiating) : Move s (.requestFails false) (s.close "inbound failure").finish
  | openResolves (remote : StreamState) (h : s.phase = .opening) :
      Move s (.openResolves remote) (s.attachRemoteSocket remote)
  | openRejects (h : s.phase = .opening) : Move s .openRejects { s with phase := .reporting }
  | replyWritten (h : s.phase = .replying false) : Move s (.writeSettles true) s.replyWritten
  | replyFailed (refused : Bool) (h : s.phase = .replying refused) : Move s (.writeSettles false) s.replyFailed
  | reported (written : Bool) (h : s.phase = .reporting) :
      Move s (.writeSettles written) (s.close "outbound connect failed").finish
  | clientDestroyed (h : s.client.state = .alive) :
      Move s (.destroyed .client) { s with client := s.client.destroy }
  | remoteDestroyed (remote : TcpStream) (hremote : s.remote = some remote) (h : remote.state = .alive) :
      Move s (.destroyed .remote) { s with remote := some remote.destroy }
  | clientClosed (h : s.client.state = .destroyed) : Move s (.emitsClose .client) s.clientClosed
  | remoteClosed (remote : TcpStream) (hremote : s.remote = some remote) (h : remote.state = .destroyed) :
      Move s (.emitsClose .remote) s.remoteClosed
  | timeout (h : s.connection.timer = true) :
      Move s .timeout
        ({ s with connection := { s.connection with timer := false } }.close "handshake timeout")
  | closeConnection (reason : String) : Move s (.closeConnection reason) (s.close reason)
  | relayEnds (h : s.relay = true) : Move s .relayEnds (s.endRelay "idle timeout")

theorem step_move {s s' : ConnectHandler} {event : ConnectEvent} (hstep : s.step event = some s') :
    Move s event s' := by
  unfold step at hstep
  cases event with
  | requestRead =>
    obtain ⟨h, heq⟩ := Option.ite_none_right_eq_some.mp hstep
    cases heq
    exact .requestRead h
  | requestFails reported =>
    obtain ⟨h, heq⟩ := Option.ite_none_right_eq_some.mp hstep
    cases reported with
    | true =>
      cases heq
      exact .requestReported h
    | false =>
      cases heq
      exact .requestFailed h
  | openResolves remote =>
    obtain ⟨h, heq⟩ := Option.ite_none_right_eq_some.mp hstep
    cases heq
    exact .openResolves remote h
  | openRejects =>
    obtain ⟨h, heq⟩ := Option.ite_none_right_eq_some.mp hstep
    cases heq
    exact .openRejects h
  | writeSettles written =>
    simp only [] at hstep
    cases hphase : s.phase with
    | replying refused =>
      rw [hphase] at hstep
      cases written with
      | false =>
        cases hstep
        exact .replyFailed refused hphase
      | true =>
        cases refused with
        | false =>
          cases hstep
          exact .replyWritten hphase
        | true => cases hstep
    | reporting =>
      rw [hphase] at hstep
      cases hstep
      exact .reported written hphase
    | negotiating | opening | finished =>
      rw [hphase] at hstep
      cases hstep
  | destroyed side =>
    cases side with
    | client =>
      obtain ⟨h, heq⟩ := Option.ite_none_right_eq_some.mp hstep
      cases heq
      exact .clientDestroyed h
    | remote =>
      cases hremote : s.remote with
      | none =>
        rw [hremote] at hstep
        cases hstep
      | some remote =>
        rw [hremote] at hstep
        obtain ⟨h, heq⟩ := Option.ite_none_right_eq_some.mp hstep
        cases heq
        exact .remoteDestroyed remote hremote h
  | emitsClose side =>
    cases side with
    | client =>
      obtain ⟨h, heq⟩ := Option.ite_none_right_eq_some.mp hstep
      cases heq
      exact .clientClosed h
    | remote =>
      cases hremote : s.remote with
      | none =>
        rw [hremote] at hstep
        cases hstep
      | some remote =>
        rw [hremote] at hstep
        obtain ⟨h, heq⟩ := Option.ite_none_right_eq_some.mp hstep
        cases heq
        exact .remoteClosed remote hremote h
  | timeout =>
    obtain ⟨h, heq⟩ := Option.ite_none_right_eq_some.mp hstep
    cases heq
    exact .timeout h
  | closeConnection reason =>
    cases hstep
    exact .closeConnection reason
  | relayEnds =>
    obtain ⟨h, heq⟩ := Option.ite_none_right_eq_some.mp hstep
    cases heq
    exact .relayEnds h

/-- A step of a clean state leads to one, but for a remote that comes too late. -/
theorem clean_step {s s' : ConnectHandler} {event : ConnectEvent} (h : s.Clean) (hstep : s.step event = some s')
    (hnotLate : ∀ remote, event = .openResolves remote → s.connection.state ≠ .closed) : s'.Clean := by
  cases step_move hstep with
  | requestRead hphase =>
    exact ⟨h.notClosing, h.client, h.remote, fun _ => h.noRemote (Or.inl hphase),
      fun _ => h.noRelay (by simp [hphase])⟩
  | requestReported hphase => exact h.report (by simp [hphase])
  | requestFailed hphase => exact (h.close _).finish
  | openResolves remote hphase => exact clean_attach h hphase (hnotLate remote rfl) remote
  | openRejects hphase => exact h.report (by simp [hphase])
  | replyWritten hphase => exact h.replyWritten
  | replyFailed refused hphase => exact h.replyFailed (by simp [hphase])
  | reported written hphase => exact (h.close _).finish
  | clientDestroyed _ => exact h.destroyClient
  | remoteDestroyed remote hremote _ => exact h.destroyRemote hremote
  | clientClosed _ => exact h.clientClosed
  | remoteClosed remote hremote _ =>
    refine clean_remoteClosed h.notClosing h.client ?_ h.noRelay
    constructor
    · intro hphase
      rw [h.noRemote (Or.inl hphase)] at hremote
      cases hremote
    · intro hphase
      rw [h.noRemote (Or.inr hphase)] at hremote
      cases hremote
  | timeout _ =>
    have htimer : Clean { s with connection := { s.connection with timer := false } } :=
      ⟨h.notClosing, h.client, h.remote, h.noRemote, h.noRelay⟩
    exact htimer.close _
  | closeConnection reason => exact h.close reason
  | relayEnds _ => exact h.endRelay _

/-- The handler waits for `openTcp` no more. -/
def Past (s : ConnectHandler) : Prop := s.phase ≠ .negotiating ∧ s.phase ≠ .opening

theorem endRelay_phase (s : ConnectHandler) (reason : String) : (s.endRelay reason).phase = s.phase := by
  unfold endRelay
  split
  · rw [close_phase]
  · rfl

theorem clientClosed_phase (s : ConnectHandler) : s.clientClosed.phase = s.phase := by
  unfold clientClosed
  rw [endRelay_phase]
  simp only []
  split
  · rw [close_phase]
  · rfl

theorem remoteClosed_phase (s : ConnectHandler) : s.remoteClosed.phase = s.phase := by
  unfold remoteClosed
  rw [endRelay_phase]
  simp only []
  split
  · rw [close_phase]
  · rfl

theorem past_finish (s : ConnectHandler) : s.finish.Past := ⟨by simp [finish], by simp [finish]⟩

theorem replyFailed_past (s : ConnectHandler) : s.replyFailed.Past := by
  unfold replyFailed
  split
  · exact past_finish _
  · split
    · exact ⟨by simp, by simp⟩
    · exact past_finish _

theorem Past.of_phase {s s' : ConnectHandler} (h : s.Past) (hphase : s'.phase = s.phase) : s'.Past := by
  unfold Past
  rw [hphase]
  exact h

theorem past_step {s s' : ConnectHandler} {event : ConnectEvent} (h : s.Past) (hstep : s.step event = some s') :
    s'.Past ∧ ∀ remote, event ≠ .openResolves remote := by
  cases step_move hstep with
  | requestRead hphase | requestReported hphase | requestFailed hphase => exact absurd hphase h.1
  | openResolves remote hphase | openRejects hphase => exact absurd hphase h.2
  | replyWritten _ => exact ⟨⟨by simp [replyWritten], by simp [replyWritten]⟩, fun _ => by simp⟩
  | replyFailed _ _ => exact ⟨replyFailed_past s, fun _ => by simp⟩
  | reported _ _ => exact ⟨past_finish _, fun _ => by simp⟩
  | clientDestroyed _ | remoteDestroyed _ _ _ => exact ⟨h, fun _ => by simp⟩
  | clientClosed _ => exact ⟨h.of_phase s.clientClosed_phase, fun _ => by simp⟩
  | remoteClosed _ _ _ => exact ⟨h.of_phase s.remoteClosed_phase, fun _ => by simp⟩
  | timeout _ => exact ⟨h.of_phase (close_phase _ _), fun _ => by simp⟩
  | closeConnection reason => exact ⟨h.of_phase (close_phase _ _), fun _ => by simp⟩
  | relayEnds _ => exact ⟨h.of_phase (endRelay_phase _ _), fun _ => by simp⟩

/-- A remote that came too late stays tracked, until it closes or the handler goes on. -/
theorem late_step {s s' : ConnectHandler} {event : ConnectEvent} (h : s.Late) (hstep : s.step event = some s') :
    (event = .emitsClose .remote ∧ s'.Clean) ∨
      ((∃ written, event = .writeSettles written) ∧ ¬ s'.NoLeak) ∨
      ((∀ events, closesFirst (event :: events) = closesFirst events) ∧ s'.Late) := by
  obtain ⟨remote, hremote, htracked⟩ := h.remote
  have hclose : ∀ reason, s.close reason = s := close_of_closed h.closed
  have hnotClosing : s.connection.state ≠ .closing := by simp [h.closed]
  have hpast : s.Past := ⟨by simp [h.phase], by simp [h.phase]⟩
  cases step_move hstep with
  | requestRead hphase | requestReported hphase | requestFailed hphase => exact absurd hphase hpast.1
  | openResolves remote hphase | openRejects hphase => exact absurd hphase hpast.2
  | replyWritten hphase =>
    rw [h.phase] at hphase
    cases hphase
  | replyFailed refused hphase =>
    right
    left
    refine ⟨⟨false, rfl⟩, fun hnoLeak => ?_⟩
    have hfinish : s.replyFailed = s.finish := by
      unfold replyFailed
      split
      · rw [hclose]
      · rw [if_neg h.client, hclose]
    rw [hfinish] at hnoLeak
    have hgone := hnoLeak h.closed rfl remote hremote
    rw [htracked] at hgone
    cases hgone.2
  | reported written hphase =>
    rw [h.phase] at hphase
    cases hphase
  | clientDestroyed _ =>
    exact Or.inr (Or.inr ⟨fun _ => rfl, h.closed, h.phase, destroy_state _, h.relay, h.remote⟩)
  | remoteDestroyed other hother _ =>
    refine Or.inr (Or.inr ⟨fun _ => rfl, h.closed, h.phase, h.client, h.relay, other.destroy, rfl, ?_⟩)
    rw [destroy_tracked]
    have heq : remote = other := Option.some.inj (hremote.symm.trans hother)
    rw [← heq]
    exact htracked
  | clientClosed _ =>
    right
    right
    refine ⟨fun _ => rfl, ?_⟩
    have hcases : s.clientClosed = { s with client := TcpStream.emitClose } ∨
        s.clientClosed = { s with
          client := TcpStream.emitClose, connection := { s.connection with clientListener := false } } := by
      unfold clientClosed endRelay
      simp only []
      split
      · right
        rw [close_of_closed (by exact h.closed), if_neg (by simp [h.relay])]
      · left
        rw [if_neg (by simp [h.relay])]
    rcases hcases with heq | heq
    · rw [heq]
      exact ⟨h.closed, h.phase, by simp [TcpStream.emitClose], h.relay, h.remote⟩
    · rw [heq]
      exact ⟨h.closed, h.phase, by simp [TcpStream.emitClose], h.relay, h.remote⟩
  | remoteClosed _ _ _ =>
    exact Or.inl ⟨rfl, clean_remoteClosed hnotClosing (fun _ => h.client) hpast fun _ => h.relay⟩
  | timeout _ =>
    right
    right
    refine ⟨fun _ => rfl, ?_⟩
    rw [close_of_closed (by exact h.closed)]
    exact ⟨h.closed, h.phase, h.client, h.relay, h.remote⟩
  | closeConnection reason =>
    right
    right
    refine ⟨fun _ => rfl, ?_⟩
    rw [hclose]
    exact h
  | relayEnds hrelay =>
    rw [h.relay] at hrelay
    cases hrelay

/-! ## Runs -/

theorem noLeak_of_clean {s : ConnectHandler} (h : s.Clean) : s.NoLeak := fun hclosed _ => h.remote hclosed

/-- Once the handler has got past `openTcp` in time, nothing can leak. -/
theorem past_throughout {s : ConnectHandler} (h : s.Clean) (hpast : s.Past) (events : List ConnectEvent) :
    system.Throughout NoLeak s events := by
  have hkept := system.throughout_of_kept (fun s => s.Clean ∧ s.Past) (fun s event s' hs hstep => by
    obtain ⟨hpast', hnot⟩ := past_step hs.2 hstep
    exact ⟨clean_step hs.1 hstep fun remote heq => absurd heq (hnot remote), hpast'⟩) events s ⟨h, hpast⟩
  exact hkept.mono fun s hs => noLeak_of_clean hs.1

theorem past_inTime (events : List ConnectEvent) : ∀ s t : ConnectHandler, s.Past →
    system.run s events = some t → s.InTime events := by
  induction events with
  | nil =>
    intro s t _ _
    trivial
  | cons event events ih =>
    intro s t hpast hrun
    obtain ⟨next, hstep, hrest⟩ := (system.run_cons_eq_some s t event events).mp hrun
    obtain ⟨hpast', hnot⟩ := past_step hpast hstep
    refine ⟨fun remote heq => absurd heq (hnot remote), fun s' hs' => ?_⟩
    have heq : next = s' := Option.some.inj (hstep.symm.trans hs')
    rw [← heq]
    exact ih next t hpast' hrest

/-- With a remote that came too late, all depends on what comes first. -/
theorem late_throughout (events : List ConnectEvent) : ∀ s t : ConnectHandler, s.Late →
    system.run s events = some t → (system.Throughout NoLeak s events ↔ closesFirst events = true) := by
  induction events with
  | nil =>
    intro s t h _
    have hnow : s.NoLeak := fun _ hphase => by
      rw [h.phase] at hphase
      cases hphase
    exact iff_of_true hnow rfl
  | cons event events ih =>
    intro s t h hrun
    obtain ⟨next, hnext, hrest⟩ := (system.run_cons_eq_some s t event events).mp hrun
    have hstep : s.step event = some next := hnext
    have hnow : s.NoLeak := fun _ hphase => by
      rw [h.phase] at hphase
      cases hphase
    have hthroughout : system.Throughout NoLeak s (event :: events) ↔ system.Throughout NoLeak next events := by
      constructor
      · intro hall
        exact hall.2 next hstep
      · intro hnext
        refine ⟨hnow, fun s' hs' => ?_⟩
        have heq : next = s' := Option.some.inj (hstep.symm.trans hs')
        rw [← heq]
        exact hnext
    rw [hthroughout]
    rcases late_step h hstep with ⟨rfl, hclean⟩ | ⟨⟨written, rfl⟩, hleak⟩ | ⟨hsame, hlate⟩
    · have hpast : s.Past := ⟨by simp [h.phase], by simp [h.phase]⟩
      exact iff_of_true (past_throughout hclean (past_step hpast hstep).1 events) rfl
    · have hnot : ¬ system.Throughout NoLeak next events := by
        intro hall
        cases events with
        | nil => exact hleak hall
        | cons _ _ => exact hleak hall.1
      refine iff_of_false hnot ?_
      simp [closesFirst]
    · rw [hsame]
      exact ih next t hlate hrest

theorem clean_throughout (events : List ConnectEvent) : ∀ s t : ConnectHandler, s.Clean →
    system.run s events = some t → (system.Throughout NoLeak s events ↔ s.InTime events) := by
  induction events with
  | nil =>
    intro s t h _
    exact iff_of_true (noLeak_of_clean h) trivial
  | cons event events ih =>
    intro s t h hrun
    obtain ⟨next, hnext, hrest⟩ := (system.run_cons_eq_some s t event events).mp hrun
    have hstep : s.step event = some next := hnext
    have honly : ∀ s', s.step event = some s' → s' = next := fun s' hs' =>
      Option.some.inj (hs'.symm.trans hstep)
    by_cases hlate : ∃ remote, event = .openResolves remote ∧ s.connection.state = .closed
    · obtain ⟨remote, rfl, hclosed⟩ := hlate
      have hlate' : next.Late ∧ next.Past := by
        cases step_move hstep with
        | openResolves _ hphase =>
          have hattached := late_attach h hphase hclosed remote
          exact ⟨hattached, by simp [hattached.phase], by simp [hattached.phase]⟩
      have hiff := late_throughout events next t hlate'.1 hrest
      constructor
      · intro hall
        refine ⟨fun _ _ _ => hiff.mp (hall.2 next hstep), fun s' hs' => ?_⟩
        rw [honly s' hs']
        exact past_inTime events next t hlate'.2 hrest
      · intro hinTime
        refine ⟨noLeak_of_clean h, fun s' hs' => ?_⟩
        rw [honly s' hs']
        exact hiff.mpr (hinTime.1 remote rfl hclosed)
    · have hnotLate : ∀ remote, event = .openResolves remote → s.connection.state ≠ .closed :=
        fun remote heq hclosed => hlate ⟨remote, heq, hclosed⟩
      have hiff := ih next t (clean_step h hstep hnotLate) hrest
      constructor
      · intro hall
        refine ⟨fun remote heq hclosed => absurd hclosed (hnotLate remote heq), fun s' hs' => ?_⟩
        rw [honly s' hs']
        exact hiff.mp (hall.2 next hstep)
      · intro hinTime
        refine ⟨noLeak_of_clean h, fun s' hs' => ?_⟩
        rw [honly s' hs']
        exact hiff.mpr (hinTime.2 next hstep)

theorem clean_accepted (protocol : ConnectProtocol) (id : String) : (accepted protocol id).Clean :=
  ⟨by simp [accepted, ManagedConnection.create], fun h => (by simp [accepted, ManagedConnection.create] at h),
    fun _ _ h => (nomatch h), fun _ => rfl, fun _ => rfl⟩

/-- **No remote socket outlives its connection exactly when none comes too late.**  In a run
from the acceptance of a connection on, the remote socket is gone in every state with a
closed connection and a finished handler if, and only if, each remote socket that comes
after the connection was closed closes by itself before the handler goes on. -/
theorem no_leak_iff (protocol : ConnectProtocol) (id : String) (events : List ConnectEvent)
    (last : ConnectHandler) (hrun : system.run (accepted protocol id) events = some last) :
    (∀ before after s, events = before ++ after → system.run (accepted protocol id) before = some s → s.NoLeak) ↔
      (accepted protocol id).InTime events := by
  rw [← clean_throughout events (accepted protocol id) last (clean_accepted protocol id) hrun]
  exact (system.throughout_iff NoLeak (accepted protocol id) events).symm

/-- The remote comes, the reply is written, and then the client goes. -/
theorem no_leak_iff_relayed :
    (system.run (accepted .socks5 "1") [.requestRead, .openResolves .alive, .writeSettles true, .destroyed .client,
        .emitsClose .client]).isSome = true ∧
      ∀ before after s, [.requestRead, .openResolves .alive, .writeSettles true, .destroyed .client,
          .emitsClose .client] = before ++ after →
        system.run (accepted .socks5 "1") before = some s → s.NoLeak := by
  have hinTime : (accepted .socks5 "1").InTime
      [.requestRead, .openResolves .alive, .writeSettles true, .destroyed .client, .emitsClose .client] := by
    refine ⟨fun remote heq => (nomatch heq), fun s' hs' => ?_⟩
    cases hs'
    refine ⟨fun remote heq hclosed => (nomatch hclosed), fun s' hs' => ?_⟩
    refine past_inTime _ _ ((system.run s' [.writeSettles true, .destroyed .client, .emitsClose .client]).getD s') ?_ ?_
    · cases hs'
      exact ⟨by simp [attachRemoteSocket], by simp [attachRemoteSocket]⟩
    · cases hs'
      rfl
  exact ⟨rfl, (no_leak_iff .socks5 "1" _ _ rfl).mpr hinTime⟩

/-- The client goes while `openTcp` is pending: the remote socket stays. -/
theorem remote_leaked :
    ∃ (protocol : ConnectProtocol) (id : String) (events : List ConnectEvent) (s : ConnectHandler),
      system.run (accepted protocol id) events = some s ∧ ¬ s.NoLeak := by
  refine ⟨.http, "1", [.requestRead, .destroyed .client, .emitsClose .client, .openResolves .alive,
    .writeSettles false], _, rfl, fun hnoLeak => ?_⟩
  have hgone := hnoLeak rfl rfl ⟨.alive, true⟩ rfl
  exact absurd rfl hgone.1

end ConnectHandler

end Sepigs
