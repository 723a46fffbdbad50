import Mathlib.Data.Rat.Defs
import Mathlib.Algebra.Order.Ring.Rat
import Sepigs.Lib.JsMap
import Sepigs.Lib.Runs

/-!
# Connection admission (`core/connectionManager.ts`, `core/resourceLimiter.ts`, `core/stats.ts`)

A connection is closed by its client socket, by a remote socket, by its timer or through
the manager.  Destroying a socket can run any code, which can call in again before the
close is over; so a step is a call, or `resume`, which goes on with the innermost call
that is under way (`stack`).

An object is known by its place in `accepted`, which also keeps the closed ones.
-/

namespace Sepigs

structure ResourceLimiter where
  maxConnections : Nat
  activeConnections : Nat
  rejectedConnections : Nat
deriving DecidableEq, Repr

namespace ResourceLimiter

def tryAcquireConnection (limiter : ResourceLimiter) : Bool × ResourceLimiter :=
  if limiter.activeConnections ≥ limiter.maxConnections then
    (false, { limiter with rejectedConnections := limiter.rejectedConnections + 1 })
  else (true, { limiter with activeConnections := limiter.activeConnections + 1 })

def releaseConnection (limiter : ResourceLimiter) : ResourceLimiter :=
  if limiter.activeConnections > 0 then
    { limiter with activeConnections := limiter.activeConnections - 1 }
  else limiter

end ResourceLimiter

/-- The connection counters. -/
structure StatsTracker where
  activeConnections : Nat
  totalConnections : Nat
  failedConnections : Nat
  closedConnections : Nat
  rejectedConnections : Nat
  bytesClientToRemote : Nat
  bytesRemoteToClient : Nat
deriving DecidableEq, Repr

namespace StatsTracker

def startConnection (stats : StatsTracker) : StatsTracker :=
  { stats with
    activeConnections := stats.activeConnections + 1
    totalConnections := stats.totalConnections + 1 }

def closeConnection (stats : StatsTracker) (failed : Bool) : StatsTracker :=
  { stats with
    activeConnections :=
      if stats.activeConnections > 0 then stats.activeConnections - 1 else stats.activeConnections
    closedConnections := stats.closedConnections + 1
    failedConnections := if failed then stats.failedConnections + 1 else stats.failedConnections }

def rejectConnection (stats : StatsTracker) : StatsTracker :=
  { stats with rejectedConnections := stats.rejectedConnections + 1 }

def addClientToRemoteBytes (stats : StatsTracker) (bytes : Nat) : StatsTracker :=
  { stats with bytesClientToRemote := stats.bytesClientToRemote + bytes }

def addRemoteToClientBytes (stats : StatsTracker) (bytes : Nat) : StatsTracker :=
  { stats with bytesRemoteToClient := stats.bytesRemoteToClient + bytes }

/-- `failureRate` of `snapshot()`. -/
def failureRate (stats : StatsTracker) : ℚ :=
  let failureBase := stats.totalConnections + stats.rejectedConnections
  if failureBase = 0 then 0
  else (stats.failedConnections + stats.rejectedConnections : ℕ) / (failureBase : ℕ)

end StatsTracker

inductive ConnectionState
  | handshake
  | established
  | closing
  | closed
deriving DecidableEq, Repr

/-- `timer` is armed and `onClose` listens on the client socket and on `remoteListeners`
remote sockets.  Two ghosts: how often `close` was called, and how often `finalize`. -/
structure ManagedConnection where
  id : String
  state : ConnectionState
  bytesUpload : Nat
  bytesDownload : Nat
  closeReason : Option String
  timer : Bool
  clientListener : Bool
  remoteListeners : Nat
  closeCalls : Nat
  finalized : Nat
deriving DecidableEq, Repr

namespace ManagedConnection

/-- The constructor. -/
def create (id : String) : ManagedConnection where
  id := id
  state := .handshake
  bytesUpload := 0
  bytesDownload := 0
  closeReason := none
  timer := true
  clientListener := true
  remoteListeners := 0
  closeCalls := 0
  finalized := 0

/-- Arms the timer again. -/
def touch (connection : ManagedConnection) : ManagedConnection :=
  if connection.state = .established then { connection with timer := true } else connection

def markEstablished (connection : ManagedConnection) : ManagedConnection :=
  if connection.state ≠ .handshake then connection
  else { connection with state := .established, timer := true }

def attachRemoteSocket (connection : ManagedConnection) : ManagedConnection :=
  { connection with remoteListeners := connection.remoteListeners + 1 }

/-- The guard of `close`. -/
def isOpen (connection : ManagedConnection) : Bool :=
  connection.state ≠ .closed ∧ connection.state ≠ .closing

/-- `close` up to the sockets: the timer and the listeners are gone. -/
def beginClose (connection : ManagedConnection) (reason : String) : ManagedConnection :=
  { connection with
    state := .closing
    closeReason := some reason
    timer := false
    clientListener := false
    remoteListeners := 0 }

end ManagedConnection

/-- A call that is under way: `close` at its sockets, and `closeAll` in its loop. -/
inductive CloseFrame
  | close (connection : Nat) (failed : Bool)
  | closeAll (remaining : List Nat) (reason : String)
deriving DecidableEq, Repr

structure ConnectionManager where
  limiter : ResourceLimiter
  stats : StatsTracker
  connections : JsMap String Nat
  nextId : Nat
  accepted : List ManagedConnection
  stack : List CloseFrame

inductive ConnectionCall
  | accept
  | attachRemoteSocket (connection : Nat)
  | markEstablished (connection : Nat)
  | addUploadBytes (connection bytes : Nat)
  | addDownloadBytes (connection bytes : Nat)
  | clientSocketClosed (connection : Nat)
  | remoteSocketClosed (connection : Nat)
  | timeout (connection : Nat)
  | close (connection : Nat) (failed : Bool) (reason : String)
  | closeConnection (id reason : String)
  | closeAll (reason : String)
  | resume

namespace ConnectionManager

def create (maxConnections : Nat) : ConnectionManager where
  limiter := ⟨maxConnections, 0, 0⟩
  stats := ⟨0, 0, 0, 0, 0, 0, 0⟩
  connections := ∅
  nextId := 1
  accepted := []
  stack := []

def accept (s : ConnectionManager) : ConnectionManager :=
  let acquired := s.limiter.tryAcquireConnection
  if !acquired.1 then { s with limiter := acquired.2, stats := s.stats.rejectConnection }
  else
    let connection := ManagedConnection.create (toString s.nextId)
    { s with
      limiter := acquired.2
      stats := s.stats.startConnection
      connections := s.connections.set connection.id s.accepted.length
      nextId := s.nextId + 1
      accepted := s.accepted ++ [connection] }

/-- Applies `f` to a connection. -/
def update (s : ConnectionManager) (connection : Nat)
    (f : ManagedConnection → ManagedConnection) : ConnectionManager :=
  { s with accepted := s.accepted.modify connection f }

/-- `close` of a connection, up to the code its sockets run. -/
def close (s : ConnectionManager) (connection : Nat) (failed : Bool) (reason : String) :
    ConnectionManager :=
  let called := s.update connection fun c => { c with closeCalls := c.closeCalls + 1 }
  match s.accepted[connection]? with
  | none => s
  | some c =>
    if !c.isOpen then called
    else { called.update connection (·.beginClose reason) with
      stack := .close connection failed :: s.stack }

def finalize (s : ConnectionManager) (connection : Nat) (id : String) (failed : Bool) :
    ConnectionManager :=
  let called := s.update connection fun c => { c with finalized := c.finalized + 1 }
  if !s.connections.has id then called
  else { called with
    connections := s.connections.delete id
    limiter := s.limiter.releaseConnection
    stats := s.stats.closeConnection failed }

/-- Goes on with the innermost call. -/
def resume (s : ConnectionManager) : Option ConnectionManager :=
  match s.stack with
  | [] => none
  | .close connection failed :: rest => do
    let c ← s.accepted[connection]?
    return finalize { s.update connection ({ · with state := .closed }) with stack := rest }
      connection c.id failed
  | .closeAll [] _ :: rest => some { s with stack := rest }
  | .closeAll (connection :: remaining) reason :: rest =>
    some (close { s with stack := .closeAll remaining reason :: rest } connection false reason)

/-- A call on a connection; `none` when there is no such object or the event cannot occur. -/
def on (s : ConnectionManager) (connection : Nat) (enabled : ManagedConnection → Bool)
    (call : ManagedConnection → ConnectionManager) : Option ConnectionManager :=
  match s.accepted[connection]? with
  | none => none
  | some c => if enabled c then some (call c) else none

def step (s : ConnectionManager) : ConnectionCall → Option ConnectionManager
  | .accept => some s.accept
  | .attachRemoteSocket connection =>
    s.on connection (fun _ => true) fun _ => s.update connection (·.attachRemoteSocket)
  | .markEstablished connection =>
    s.on connection (fun _ => true) fun _ => s.update connection (·.markEstablished)
  | .addUploadBytes connection bytes =>
    s.on connection (fun _ => true) fun _ =>
      { s.update connection fun c => { c with bytesUpload := c.bytesUpload + bytes }.touch with
        stats := s.stats.addClientToRemoteBytes bytes }
  | .addDownloadBytes connection bytes =>
    s.on connection (fun _ => true) fun _ =>
      { s.update connection fun c => { c with bytesDownload := c.bytesDownload + bytes }.touch with
        stats := s.stats.addRemoteToClientBytes bytes }
  | .clientSocketClosed connection =>
    s.on connection (·.clientListener) fun _ =>
      (s.update connection ({ · with clientListener := false })).close connection false
        "client socket closed"
  | .remoteSocketClosed connection =>
    s.on connection (0 < ·.remoteListeners) fun c =>
      (s.update connection ({ · with remoteListeners := c.remoteListeners - 1 })).close connection
        false "remote socket closed"
  | .timeout connection =>
    s.on connection (·.timer) fun _ =>
      (s.update connection ({ · with timer := false })).close connection true "handshake timeout"
  | .close connection failed reason =>
    s.on connection (fun _ => true) fun _ => s.close connection failed reason
  | .closeConnection id reason =>
    match s.connections.get id with
    | none => some s
    | some connection => some (s.close connection true reason)
  | .closeAll reason => some { s with stack := .closeAll s.connections.values reason :: s.stack }
  | .resume => s.resume

def system : Runs.System ConnectionManager ConnectionCall where
  step := step

end ConnectionManager

end Sepigs
