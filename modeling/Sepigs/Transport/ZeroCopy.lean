import Sepigs.Core.ConnectionManager
import Sepigs.Lib.NodeStream

/-!
# The relay (`transport/zeroCopy.ts`, `core/connectionManager.ts`)

An inbound hands its client socket and the remote socket of a connection to
`zeroCopyRelay`, which pipes each into the other.  Two parties listen for `close` of either
stream: the connection, which listened first, and the relay.

When a stream is read and how fast its peer takes what waits is left open.  A write to a
stream that cannot be written is reported by an `error` of its own, so a run without errors
has none.
-/

namespace Sepigs

abbrev RelayStream := NodeStream UInt8

inductive RelaySide
  | client
  | remote
deriving DecidableEq, Repr

def RelaySide.other : RelaySide → RelaySide
  | client => remote
  | remote => client

@[simp] theorem RelaySide.other_other (side : RelaySide) : side.other.other = side := by
  cases side <;> rfl

theorem RelaySide.eq_or_eq_other (side side' : RelaySide) : side' = side ∨ side' = side.other := by
  cases side <;> cases side' <;> simp [other]

/-- `closed` is the variable of `zeroCopyRelay`: the listeners and both pipes are there
until it is set.  `finalized` is what `manager.finalize` was told. -/
structure ZeroCopyRelay where
  client : RelayStream
  remote : RelayStream
  closed : Bool
  connection : ManagedConnection
  finalized : Option Bool
deriving DecidableEq, Repr

namespace ZeroCopyRelay

def stream (s : ZeroCopyRelay) : RelaySide → RelayStream
  | .client => s.client
  | .remote => s.remote

def setStream (s : ZeroCopyRelay) (side : RelaySide) (stream : RelayStream) : ZeroCopyRelay :=
  match side with
  | .client => { s with client := stream }
  | .remote => { s with remote := stream }

/-- `closeStream` and `closeSocket`, of both streams. -/
def closeStreams (s : ZeroCopyRelay) : ZeroCopyRelay :=
  { s with client := s.client.destroy, remote := s.remote.destroy }

/-- `ManagedConnection.close` -/
def connectionClose (s : ZeroCopyRelay) (failed : Bool) (reason : String) : ZeroCopyRelay :=
  if !s.connection.isOpen then s
  else { s.closeStreams with
    connection := { s.connection.beginClose reason with state := .closed }
    finalized := some failed }

def cleanup (s : ZeroCopyRelay) (failed : Bool) (reason : String) : ZeroCopyRelay :=
  if s.closed then s
  else { s with closed := true }.closeStreams.connectionClose failed reason

/-- `onClientData` and `onRemoteData` -/
def countBytes (s : ZeroCopyRelay) (side : RelaySide) (bytes : Nat) : ZeroCopyRelay :=
  let connection := s.connection
  { s with connection :=
      match side with
      | .client => { connection with bytesUpload := connection.bytesUpload + bytes }.touch
      | .remote => { connection with bytesDownload := connection.bytesDownload + bytes }.touch }

def streamName : RelaySide → String
  | .client => "client"
  | .remote => "remote"

end ZeroCopyRelay

/-- What a stream reports; `flushed` is its peer taking a chunk. -/
inductive RelayEvent
  | data (side : RelaySide) (chunk : List UInt8)
  | ended (side : RelaySide)
  | flushed (side : RelaySide)
  | close (side : RelaySide)
  | error (side : RelaySide)
  | timeout (side : RelaySide)
deriving DecidableEq, Repr

/-- Neither an error nor a timeout. -/
def RelayEvent.Graceful : RelayEvent → Prop
  | .error _ | .timeout _ => False
  | _ => True

instance : DecidablePred RelayEvent.Graceful
  | .error _ | .timeout _ => isFalse id
  | .data _ _ | .ended _ | .flushed _ | .close _ => isTrue trivial

namespace ZeroCopyRelay

def step (s : ZeroCopyRelay) : RelayEvent → Option ZeroCopyRelay
  | .data side chunk => do
    let source ← (s.stream side).onData chunk
    let s := s.setStream side source
    if s.closed then some s
    else if (s.stream side.other).writable then
      some ((s.countBytes side chunk.length).setStream side.other
        ((s.stream side.other).write chunk))
    else none
  | .ended side => do
    let source ← (s.stream side).onEnd
    let s := s.setStream side source
    some (if s.closed then s else s.setStream side.other (s.stream side.other).endWrites)
  | .flushed side => do
    let stream ← (s.stream side).onFlush
    some (s.setStream side stream)
  | .close side => do
    let stream ← (s.stream side).onClose
    let s := (s.setStream side stream).connectionClose false s!"{streamName side} socket closed"
    some (s.cleanup false "socket closed")
  | .error side =>
    if (s.stream side).closed then none
    else
      let s := s.setStream side (s.stream side).destroy
      some (s.cleanup true s!"{streamName side} socket error")
  | .timeout side =>
    if (s.stream side).closed then none
    else some (s.cleanup true "idle timeout")

def system : Runs.System ZeroCopyRelay RelayEvent where
  step := step

/-- `initialData` is what an inbound read past the head of the request: it is written to the
remote socket, and the two sockets are piped. -/
def start (id : String) (clientHalfOpen remoteHalfOpen : Bool) (initialData : List UInt8) :
    ZeroCopyRelay where
  client := { NodeStream.create clientHalfOpen with taken := initialData }
  remote :=
    let remote := NodeStream.create remoteHalfOpen
    if initialData.length > 0 then remote.write initialData else remote
  closed := false
  connection :=
    let connection := (ManagedConnection.create id).attachRemoteSocket.markEstablished
    { connection with bytesUpload := initialData.length }.touch
  finalized := none

end ZeroCopyRelay

end Sepigs
