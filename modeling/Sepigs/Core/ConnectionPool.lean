import Sepigs.Lib.Recency
import Sepigs.Lib.Runs

/-!
# The pool of TCP connections (`core/connectionPool.ts`)

Sockets and the closures of `release` (the timer and the two listeners of one idle entry)
are known by their place in a list that only grows.  Destroying a socket and its events are
separate steps: Node reports `close` and `error` later.
-/

namespace Sepigs

structure ConnectionPoolConfig where
  enabled : Bool
  maxIdlePerEndpoint : Nat
deriving DecidableEq, Repr

structure PoolEndpoint where
  host : String
  port : Nat
deriving DecidableEq, Repr

def endpointKey (endpoint : PoolEndpoint) : String := s!"tcp:{endpoint.host}:{endpoint.port}"

/-- Two ghosts: how many hold the socket, and whether the pool destroyed it while held. -/
structure PoolSocket where
  destroyed : Bool
  holders : Nat
  cut : Bool
deriving DecidableEq, Repr

/-- The timer and the listeners of an idle entry, with what they close over. -/
structure PoolClosures where
  key : String
  socket : Nat
  timer : Bool
  onClose : Bool
  onError : Bool
deriving DecidableEq, Repr

namespace PoolClosures

/-- `cleanup` and `clearTimeout` -/
def silenced (c : PoolClosures) : PoolClosures :=
  { c with timer := false, onClose := false, onError := false }

def Active (c : PoolClosures) : Prop := c.timer = true ∨ c.onClose = true ∨ c.onError = true

end PoolClosures

structure IdleEntry where
  socket : Nat
  closures : Nat
deriving DecidableEq, Repr

structure TcpConnectionPool where
  config : ConnectionPoolConfig
  idle : JsMap String (List IdleEntry)
  closures : List PoolClosures
  sockets : List PoolSocket

/-- `lease` dials a new socket if it finds none (`dials`), or fails. -/
inductive PoolCall
  | lease (endpoint : PoolEndpoint) (dials : Bool)
  | release (endpoint : PoolEndpoint) (socket : Nat)
  | destroy (socket : Nat)
  | close (socket : Nat)
  | error (socket : Nat)
  | timeout (closures : Nat)
  | closeAll
deriving DecidableEq, Repr

namespace TcpConnectionPool

def create (config : ConnectionPoolConfig) : TcpConnectionPool where
  config := config
  idle := ∅
  closures := []
  sockets := []

def destroyed (s : TcpConnectionPool) (socket : Nat) : Bool :=
  s.sockets[socket]?.any (·.destroyed)

/-- `closeSocket` -/
def closeSocket (s : TcpConnectionPool) (socket : Nat) : TcpConnectionPool :=
  { s with sockets := s.sockets.modify socket fun c =>
    if c.destroyed then c else { c with destroyed := true, cut := 0 < c.holders } }

/-- `entry.cleanup()` and `clearTimeout(entry.timer)` -/
def silence (s : TcpConnectionPool) (closures : Nat) : TcpConnectionPool :=
  { s with closures := s.closures.modify closures PoolClosures.silenced }

/-- A socket gets one holder more. -/
def hold (s : TcpConnectionPool) (socket : Nat) : TcpConnectionPool :=
  { s with sockets := s.sockets.modify socket fun c => { c with holders := c.holders + 1 } }

/-- `factory()` -/
def dial (s : TcpConnectionPool) : Nat × TcpConnectionPool :=
  (s.sockets.length, { s with sockets := s.sockets ++ [⟨false, 1, false⟩] })

/-- The loop of `lease`, over the bucket from its end. -/
def takeIdle (s : TcpConnectionPool) (key : String) : List IdleEntry → Option Nat × TcpConnectionPool
  | [] => (none, s)
  | entry :: rest =>
    let popped := { s with idle := s.idle.set key rest.reverse }.silence entry.closures
    if popped.destroyed entry.socket then popped.takeIdle key rest
    else (some entry.socket, popped.hold entry.socket)

/-- `lease` up to its `factory()` -/
def reuse (s : TcpConnectionPool) (endpoint : PoolEndpoint) : Option Nat × TcpConnectionPool :=
  if !s.config.enabled then (none, s)
  else
    let key := endpointKey endpoint
    match s.idle.get key with
    | none => (none, s)
    | some bucket => s.takeIdle key bucket.reverse

def lease (s : TcpConnectionPool) (endpoint : PoolEndpoint) (dials : Bool) :
    Option Nat × TcpConnectionPool :=
  match s.reuse endpoint with
  | (some socket, s) => (some socket, s)
  | (none, s) =>
    if dials then
      let (socket, s) := s.dial
      (some socket, s)
    else (none, s)

/-- The holder has let the socket go before `release` looks at it. -/
def release (s : TcpConnectionPool) (endpoint : PoolEndpoint) (socket : Nat) : TcpConnectionPool :=
  let s := { s with sockets := s.sockets.modify socket fun c => { c with holders := c.holders - 1 } }
  if !s.config.enabled || s.config.maxIdlePerEndpoint = 0 || s.destroyed socket then
    s.closeSocket socket
  else
    let key := endpointKey endpoint
    let bucket := (s.idle.get key).getD []
    if bucket.length ≥ s.config.maxIdlePerEndpoint then s.closeSocket socket
    else
      { s with
        closures := s.closures ++ [⟨key, socket, true, true, true⟩]
        idle := s.idle.set key (bucket ++ [⟨socket, s.closures.length⟩]) }

def removeEntry (s : TcpConnectionPool) (key : String) (socket : Nat) : TcpConnectionPool :=
  match s.idle.get key with
  | none => s
  | some entries =>
    match entries.findIdx? fun candidate => candidate.socket = socket with
    | none => s
    | some index =>
      let remaining := entries.eraseIdx index
      let removed := match entries[index]? with
        | none => s
        | some removed => s.silence removed.closures
      { removed with
        idle := if remaining.isEmpty then s.idle.delete key else s.idle.set key remaining }

/-- The closures of a list, one after the other. -/
def runAll (s : TcpConnectionPool) (run : TcpConnectionPool → Nat → PoolClosures → TcpConnectionPool)
    (listening : List Nat) : TcpConnectionPool :=
  listening.foldl (fun s closures =>
    match s.closures[closures]? with
    | none => s
    | some c => run s closures c) s

/-- A listener or a timer of an entry runs at most once. -/
def onceRun (s : TcpConnectionPool) (closures : Nat) (ran : PoolClosures → PoolClosures) :
    TcpConnectionPool :=
  { s with closures := s.closures.modify closures ran }

def onClose (s : TcpConnectionPool) (closures : Nat) (c : PoolClosures) : TcpConnectionPool :=
  (s.onceRun closures ({ · with onClose := false })).removeEntry c.key c.socket

def onError (s : TcpConnectionPool) (closures : Nat) (c : PoolClosures) : TcpConnectionPool :=
  ((s.onceRun closures ({ · with onError := false })).removeEntry c.key c.socket).closeSocket c.socket

def onTimeout (s : TcpConnectionPool) (closures : Nat) (c : PoolClosures) : TcpConnectionPool :=
  ((s.onceRun closures ({ · with timer := false })).removeEntry c.key c.socket).closeSocket c.socket

/-- The closures with a listener on a socket. -/
def listening (s : TcpConnectionPool) (listens : PoolClosures → Bool) (socket : Nat) : List Nat :=
  (List.range s.closures.length).filter fun closures =>
    s.closures[closures]?.any fun c => c.socket = socket && listens c

/-- The body of the loop of `closeAll` -/
def closeEntry (s : TcpConnectionPool) (entry : IdleEntry) : TcpConnectionPool :=
  (s.silence entry.closures).closeSocket entry.socket

def closeAll (s : TcpConnectionPool) : TcpConnectionPool :=
  { s.idle.values.flatten.foldl closeEntry s with idle := ∅ }

def step (s : TcpConnectionPool) : PoolCall → Option TcpConnectionPool
  | .lease endpoint dials => some (s.lease endpoint dials).2
  | .release endpoint socket =>
    if s.sockets[socket]?.any (0 < ·.holders) then some (s.release endpoint socket) else none
  | .destroy socket =>
    some { s with sockets := s.sockets.modify socket fun c => { c with destroyed := true } }
  | .close socket => some (s.runAll onClose (s.listening (·.onClose) socket))
  | .error socket => some (s.runAll onError (s.listening (·.onError) socket))
  | .timeout closures =>
    match s.closures[closures]? with
    | none => none
    | some c => if c.timer then some (s.onTimeout closures c) else none
  | .closeAll => some s.closeAll

def system : Runs.System TcpConnectionPool PoolCall where
  step := step

end TcpConnectionPool

end Sepigs
