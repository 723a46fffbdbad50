import Sepigs.Core.UdpSessionManager
import Sepigs.Inbound.Socks5Address
import Sepigs.Lib.Tally

/-!
# UDP associations (`handleUdpAssociate` and `handleUdpDatagram` of `inbound/socks5.ts`)

Every association has a relay socket and a session with the manager; the two are closed by the end of
the control connection, by a failure on the way, by the session's timer or by `closeAll`,
whichever comes first.  A datagram's answer arrives at any time, also after that.

A relay's place in `relays` is its session's in `opened`.  `refused`, `relayErrors` and the place of
a reply's datagram are ghosts.
-/

namespace Sepigs

structure SourceAddress where
  host : String
  port : Nat
deriving DecidableEq, Repr

structure UdpOutboundPacket where
  payload : Bytes
  source : Destination
deriving DecidableEq, Repr

/-- `transport/udpSession.ts` -/
structure UdpSession where
  id : String
  source : SourceAddress
  destination : Option Destination
  packetsUpload : Nat
  packetsDownload : Nat
  bytesUpload : Nat
  bytesDownload : Nat
deriving DecidableEq, Repr

namespace UdpSession

def new (id : String) (source : SourceAddress) : UdpSession := ⟨id, source, none, 0, 0, 0, 0⟩

def upload (destination : Destination) (bytes : Nat) (session : UdpSession) : UdpSession :=
  { session with
    destination := some destination
    packetsUpload := session.packetsUpload + 1
    bytesUpload := session.bytesUpload + bytes }

def download (bytes : Nat) (session : UdpSession) : UdpSession :=
  { session with
    packetsDownload := session.packetsDownload + 1
    bytesDownload := session.bytesDownload + bytes }

end UdpSession

/-- The UDP traffic of `StatsTracker`. -/
structure UdpTraffic where
  udpPacketsClientToRemote : Nat
  udpPacketsRemoteToClient : Nat
  udpBytesClientToRemote : Nat
  udpBytesRemoteToClient : Nat
deriving DecidableEq, Repr

namespace UdpTraffic

def addUdpClientToRemoteBytes (bytes : Nat) (traffic : UdpTraffic) : UdpTraffic :=
  { traffic with
    udpPacketsClientToRemote := traffic.udpPacketsClientToRemote + 1
    udpBytesClientToRemote := traffic.udpBytesClientToRemote + bytes }

def addUdpRemoteToClientBytes (bytes : Nat) (traffic : UdpTraffic) : UdpTraffic :=
  { traffic with
    udpPacketsRemoteToClient := traffic.udpPacketsRemoteToClient + 1
    udpBytesRemoteToClient := traffic.udpBytesRemoteToClient + bytes }

end UdpTraffic

/-- What the association awaits; `done` says whether its connection is closed as failed. -/
inductive RelayPhase where
  | binding
  | replying
  | established
  | done (failed : Bool)
deriving DecidableEq, Repr

structure UdpRelay where
  session : UdpSession
  closed : Bool
  phase : RelayPhase
deriving DecidableEq, Repr

/-- The message and error handlers go with the socket. -/
def UdpRelay.closeUdpServer (relay : UdpRelay) : UdpRelay := { relay with closed := true }

inductive DatagramFate where
  | waiting
  | unanswered
  | answered (response : UdpOutboundPacket)
  | dropped
deriving DecidableEq, Repr

/-- A datagram from `rinfo`; `packet` is what it was read as, and what the outbound got. -/
structure RelayedDatagram where
  relay : Nat
  rinfo : SourceAddress
  packet : Option SocksUdpPacket
  fate : DatagramFate
deriving DecidableEq, Repr

/-- What a relay has sent, and where to. -/
structure UdpReply where
  datagram : Nat
  relay : Nat
  packet : Bytes
  receiver : SourceAddress
deriving DecidableEq, Repr

structure UdpRelays where
  nextId : Nat
  manager : UdpSessionManager
  relays : List UdpRelay
  datagrams : List RelayedDatagram
  replies : List UdpReply
  traffic : UdpTraffic
  written : List (String × Bytes)
  refused : Nat
  relayErrors : Nat

inductive UdpAssociateLabel where
  | otherConnection
  | associate (source : SourceAddress)
  | bound (index : Nat) (address : Option (String × Nat))
  | written (index : Nat) (ok : Bool)
  | controlClosed (index : Nat)
  | message (index : Nat) (message : Bytes) (rinfo : SourceAddress)
  | response (datagram : Nat) (outcome : Except Unit (Option UdpOutboundPacket))
  | relayError (index : Nat)
  | expire (timer : Nat)
  | closeAll

section Packets

variable (node : Node)

def SocksUdp.encodeSocksUdpPacket (source : Destination) (payload : Bytes) : Except SepigsError Bytes := do
  let address ← SocksCodec.encodeSocksAddress node source
  pure ([0, 0, 0] ++ address ++ payload)

def Socks5Inbound.createReply (replyCode : UInt8) (bound : Option Destination) : Except SepigsError Bytes := do
  let address ← Socks5Inbound.encodeSocksAddress node (bound.getD (makeDestination node "0.0.0.0" 0))
  pure ([0x05, replyCode, 0x00] ++ address)

end Packets

namespace UdpRelays

def create (maxSessions : Nat) : UdpRelays where
  nextId := 1
  manager := .create maxSessions
  relays := []
  datagrams := []
  replies := []
  traffic := ⟨0, 0, 0, 0⟩
  written := []
  refused := 0
  relayErrors := 0

def recordError (s : UdpRelays) : UdpRelays :=
  { s with manager := { s.manager with stats := s.manager.stats.recordUdpError } }

/-- The callback that `release` runs is the session's own `closeUdpServer`. -/
def release (id : String) (invokeClose : Bool) (s : UdpRelays) : UdpRelays :=
  { s with
    manager := s.manager.release id invokeClose
    relays :=
      match s.manager.sessions.get id with
      | some managed => if invokeClose then s.relays.modify managed.session UdpRelay.closeUdpServer else s.relays
      | none => s.relays }

/-- The last three steps of `handleUdpAssociate`, on success and on failure. -/
def finish (index : Nat) (relay : UdpRelay) (failed : Bool) (s : UdpRelays) : UdpRelays :=
  { s with relays := s.relays.set index { relay.closeUdpServer with phase := .done failed } }.release
    relay.session.id false

def writeReply (node : Node) (id : String) (replyCode : UInt8) (bound : Option Destination) (s : UdpRelays) :
    Except SepigsError UdpRelays := do
  let reply ← Socks5Inbound.createReply node replyCode bound
  pure { s with written := s.written ++ [(id, reply)] }

/-- Without a session the client is told so, and the socket is never bound.  The connection has its
id since it was accepted; here it is numbered only when it asks for the association, so the numbers
are others, but none is given twice. -/
def associate (node : Node) (source : SourceAddress) (s : UdpRelays) : UdpRelays :=
  let id := toString s.nextId
  let opened := s.manager.openSession id
  let s := { s with nextId := s.nextId + 1, manager := opened.2 }
  match opened.1 with
  | none =>
    let s := { s with refused := s.refused + 1 }
    (s.writeReply node id 0x01 none).toOption.getD s
  | some _ => { s with relays := s.relays ++ [⟨.new id source, false, .binding⟩] }

/-- A failure to bind is an error event of the socket too. -/
def bound (node : Node) (index : Nat) (relay : UdpRelay) (address : Option (String × Nat)) (s : UdpRelays) :
    UdpRelays :=
  match address with
  | none => { s with relayErrors := s.relayErrors + 1 }.recordError.finish index relay true
  | some (host, port) =>
    match s.writeReply node relay.session.id 0x00 (some (makeDestination node host port)) with
    | .error _ => s.finish index relay true
    | .ok s => { s with relays := s.relays.set index { relay with phase := .replying } }

def dropped (index : Nat) (datagram : RelayedDatagram) (s : UdpRelays) : UdpRelays :=
  { s.recordError with datagrams := s.datagrams.set index { datagram with fate := .dropped } }

/-- `handleUdpDatagram` up to its `await`. -/
def message (node : Node) (index : Nat) (relay : UdpRelay) (message : Bytes) (rinfo : SourceAddress)
    (s : UdpRelays) : UdpRelays :=
  let s := { s with manager := s.manager.touch relay.session.id }
  match SocksUdp.parseSocksUdpPacket node message with
  | .error _ => { s.recordError with datagrams := s.datagrams ++ [⟨index, rinfo, none, .dropped⟩] }
  | .ok packet =>
    { s with
      relays := s.relays.set index
        { relay with session := relay.session.upload packet.destination packet.payload.length }
      traffic := s.traffic.addUdpClientToRemoteBytes packet.payload.length
      datagrams := s.datagrams ++ [⟨index, rinfo, some packet, .waiting⟩] }

/-- The rest of `handleUdpDatagram`; `send` throws on a closed socket and for a port of zero. -/
def response (node : Node) (index : Nat) (datagram : RelayedDatagram) (relay : UdpRelay)
    (outcome : Except Unit (Option UdpOutboundPacket)) (s : UdpRelays) : UdpRelays :=
  match outcome with
  | .error _ => s.dropped index datagram
  | .ok none => { s with datagrams := s.datagrams.set index { datagram with fate := .unanswered } }
  | .ok (some response) =>
    match SocksUdp.encodeSocksUdpPacket node response.source response.payload with
    | .error _ => s.dropped index datagram
    | .ok packet =>
      if relay.closed ∨ datagram.rinfo.port = 0 then s.dropped index datagram
      else
        { s with
          replies := s.replies ++ [⟨index, datagram.relay, packet, datagram.rinfo⟩]
          traffic := s.traffic.addUdpRemoteToClientBytes response.payload.length
          relays := s.relays.set datagram.relay
            { relay with session := relay.session.download response.payload.length }
          datagrams := s.datagrams.set index { datagram with fate := .answered response } }

/-- No callback calls the manager, so nothing comes between the releases. -/
def closeAll (s : UdpRelays) : UdpRelays :=
  s.manager.sessions.keys.foldl (fun s id => s.release id true) s

def expire (timer : Nat) (s : UdpRelays) : Option UdpRelays :=
  match s.manager.timers.get timer with
  | none => none
  | some armed =>
    some ({ s with manager := { s.manager with timers := s.manager.timers.delete timer } }.release armed.id true)

/-- The relay, where it is in the phase that the event is for. -/
def relayIn (allowed : UdpRelay → Bool) (index : Nat) (s : UdpRelays) : Option UdpRelay :=
  s.relays[index]?.filter allowed

def step (node : Node) (s : UdpRelays) : UdpAssociateLabel → Option UdpRelays
  | .otherConnection => some { s with nextId := s.nextId + 1 }
  | .associate source => some (s.associate node source)
  | .bound index address =>
    (s.relayIn (fun relay => relay.phase = .binding ∧ relay.closed = false) index).map fun relay =>
      s.bound node index relay address
  | .written index ok =>
    (s.relayIn (fun relay => relay.phase = .replying) index).map fun relay =>
      if ok then { s with relays := s.relays.set index { relay with phase := .established } }
      else s.finish index relay true
  | .controlClosed index =>
    (s.relayIn (fun relay => relay.phase = .established) index).map fun relay => s.finish index relay false
  | .message index message rinfo =>
    (s.relayIn (fun relay => relay.phase ≠ .binding ∧ relay.closed = false) index).map fun relay =>
      s.message node index relay message rinfo
  | .response index outcome =>
    (s.datagrams[index]?.filter fun datagram => datagram.fate = .waiting).bind fun datagram =>
      s.relays[datagram.relay]?.map fun relay => s.response node index datagram relay outcome
  | .relayError index =>
    (s.relayIn (fun relay => relay.phase ≠ .binding ∧ relay.closed = false) index).map fun _ =>
      { s with relayErrors := s.relayErrors + 1 }.recordError
  | .expire timer => s.expire timer
  | .closeAll => some s.closeAll

def system (node : Node) : Runs.System UdpRelays UdpAssociateLabel := ⟨step node⟩

end UdpRelays

/-! ## Sessions and their places -/

namespace UdpSessionManager

/-- The session that an id is tracked with. -/
def sessionOf (m : UdpSessionManager) (id : String) : Option Nat :=
  (m.sessions.get id).map ManagedUdpSession.session

theorem sessionOf_touch (m : UdpSessionManager) (id : String) : (m.touch id).sessionOf = m.sessionOf := by
  rcases m.touch_cases id with ⟨-, heq⟩ | ⟨managed, hlive, heq⟩
  · rw [heq]
  · funext other
    rw [heq]
    unfold sessionOf
    simp only [JsMap.get_set]
    by_cases hother : other = id
    · rw [if_pos hother, hother, hlive]
      rfl
    · rw [if_neg hother]

theorem sessionOf_release (m : UdpSessionManager) (id other : String) (invokeClose : Bool) :
    (m.release id invokeClose).sessionOf other = if other = id then none else m.sessionOf other := by
  rcases m.release_cases id invokeClose with ⟨hfree, heq⟩ | ⟨managed, hlive, heq⟩
  · rw [heq]
    by_cases hother : other = id
    · rw [if_pos hother, hother]
      unfold sessionOf
      rw [hfree]
      rfl
    · rw [if_neg hother]
  · rw [heq]
    unfold sessionOf
    simp only [JsMap.get_delete]
    by_cases hother : other = id
    · rw [if_pos hother, if_pos hother]
      rfl
    · rw [if_neg hother, if_neg hother]

theorem length_opened_touch (m : UdpSessionManager) (id : String) :
    (m.touch id).opened.length = m.opened.length := by
  rcases m.touch_cases id with ⟨-, heq⟩ | ⟨managed, -, heq⟩
  · rw [heq]
  · rw [heq]

theorem length_opened_release (m : UdpSessionManager) (id : String) (invokeClose : Bool) :
    (m.release id invokeClose).opened.length = m.opened.length := by
  rcases m.release_cases id invokeClose with ⟨-, heq⟩ | ⟨managed, -, heq⟩
  · rw [heq]
  · rw [heq]
    exact List.length_modify _ _ _

theorem maxSessions_touch (m : UdpSessionManager) (id : String) : (m.touch id).maxSessions = m.maxSessions := by
  rcases m.touch_cases id with ⟨-, heq⟩ | ⟨managed, -, heq⟩
  · rw [heq]
  · rw [heq]

theorem maxSessions_release (m : UdpSessionManager) (id : String) (invokeClose : Bool) :
    (m.release id invokeClose).maxSessions = m.maxSessions := by
  rcases m.release_cases id invokeClose with ⟨-, heq⟩ | ⟨managed, -, heq⟩
  · rw [heq]
  · rw [heq]

theorem maxSessions_openSession (m : UdpSessionManager) (id : String) :
    (m.openSession id).2.maxSessions = m.maxSessions := by
  rcases m.openSession_cases id with ⟨-, heq⟩ | ⟨-, ⟨existing, -, heq⟩ | ⟨-, heq⟩⟩
  · rw [heq]
  · rw [heq]
  · rw [heq]

theorem errors_touch (m : UdpSessionManager) (id : String) :
    (m.touch id).stats.udpErrorsTotal = m.stats.udpErrorsTotal := by
  rcases m.touch_cases id with ⟨-, heq⟩ | ⟨managed, -, heq⟩
  · rw [heq]
  · rw [heq]

theorem errors_release (m : UdpSessionManager) (id : String) (invokeClose : Bool) :
    (m.release id invokeClose).stats.udpErrorsTotal = m.stats.udpErrorsTotal := by
  rcases m.release_cases id invokeClose with ⟨-, heq⟩ | ⟨managed, -, heq⟩
  · rw [heq]
  · rw [heq]
    rfl

end UdpSessionManager

namespace UdpRelays

variable {nextId : Nat} {manager : UdpSessionManager} {relays : List UdpRelay}

/-- The relays whose sockets are open are the ones that are tracked. -/
structure Relayed (nextId : Nat) (manager : UdpSessionManager) (relays : List UdpRelay) : Prop where
  accounted : manager.Accounted
  places : relays.length = manager.opened.length
  ids : (relays.map fun relay => relay.session.id).Nodup
  fresh : ∀ relay ∈ relays, ∃ n < nextId, relay.session.id = toString n
  registered : ∀ id index, manager.sessionOf id = some index ↔
    ∃ relay, relays[index]? = some relay ∧ relay.session.id = id ∧ relay.closed = false
  ended : ∀ relay ∈ relays, ∀ failed, relay.phase = .done failed → relay.closed = true

theorem relayed_create (maxSessions : Nat) : Relayed 1 (.create maxSessions) [] where
  accounted := UdpSessionManager.accounted_create maxSessions
  places := rfl
  ids := List.nodup_nil
  fresh relay hmem := absurd hmem List.not_mem_nil
  registered id index := by
    constructor
    · intro htracked
      cases htracked
    · rintro ⟨relay, hget, -⟩
      cases hget
  ended relay hmem := absurd hmem List.not_mem_nil

theorem Relayed.place_unique (h : Relayed nextId manager relays) {index index' : Nat} {relay relay' : UdpRelay}
    (hget : relays[index]? = some relay) (hget' : relays[index']? = some relay')
    (hid : relay'.session.id = relay.session.id) : index' = index := by
  have hplace {i : Nat} {r : UdpRelay} (hr : relays[i]? = some r) :
      (relays.map fun relay => relay.session.id)[i]? = some r.session.id := by
    rw [List.getElem?_map, hr]
    rfl
  have hlt : index' < (relays.map fun relay => relay.session.id).length := by
    rw [List.length_map]
    exact (List.getElem?_eq_some_iff.mp hget').1
  refine (List.getElem?_inj hlt h.ids).mp ?_
  rw [hplace hget, hplace hget', hid]

/-- The manager changes, but not what it tracks. -/
theorem Relayed.keeps (h : Relayed nextId manager relays) {manager' : UdpSessionManager}
    (haccounted : manager'.Accounted) (hsessions : manager'.sessionOf = manager.sessionOf)
    (hopened : manager'.opened.length = manager.opened.length) : Relayed nextId manager' relays := by
  refine ⟨haccounted, h.places.trans hopened.symm, h.ids, h.fresh, fun id index => ?_, h.ended⟩
  rw [hsessions]
  exact h.registered id index

theorem Relayed.recordError (h : Relayed nextId manager relays) :
    Relayed nextId { manager with stats := manager.stats.recordUdpError } relays :=
  h.keeps h.accounted.recordError rfl rfl

theorem Relayed.touch (h : Relayed nextId manager relays) (id : String) :
    Relayed nextId (manager.touch id) relays :=
  h.keeps (h.accounted.touch id) (manager.sessionOf_touch id) (manager.length_opened_touch id)

theorem Relayed.later (h : Relayed nextId manager relays) : Relayed (nextId + 1) manager relays := by
  refine ⟨h.accounted, h.places, h.ids, fun relay hmem => ?_, h.registered, h.ended⟩
  obtain ⟨n, hn, hid⟩ := h.fresh relay hmem
  exact ⟨n, by omega, hid⟩

/-- A relay changes and its socket does not. -/
theorem Relayed.updates (h : Relayed nextId manager relays) {index : Nat} {relay relay' : UdpRelay}
    (hget : relays[index]? = some relay) (hid : relay'.session.id = relay.session.id)
    (hclosed : relay'.closed = relay.closed)
    (hended : ∀ failed, relay'.phase = .done failed → relay'.closed = true) :
    Relayed nextId manager (relays.set index relay') := by
  have hlt := (List.getElem?_eq_some_iff.mp hget).1
  refine ⟨h.accounted, ?_, ?_, ?_, ?_, ?_⟩
  · rw [List.length_set, h.places]
  · rw [Tally.map_set_same _ hget hid]
    exact h.ids
  · intro other hmem
    rcases List.mem_or_eq_of_mem_set hmem with hmem | rfl
    · exact h.fresh other hmem
    · rw [hid]
      exact h.fresh relay (List.mem_of_getElem? hget)
  · intro id place
    rw [h.registered, List.getElem?_set]
    by_cases hplace : index = place
    · subst hplace
      rw [if_pos rfl, if_pos hlt, hget]
      simp [hid, hclosed]
    · rw [if_neg hplace]
  · intro other hmem
    rcases List.mem_or_eq_of_mem_set hmem with hmem | rfl
    · exact h.ended other hmem
    · exact hended

/-- A socket is closed and its session is released. -/
theorem Relayed.closes (h : Relayed nextId manager relays) {index : Nat} {relay relay' : UdpRelay}
    (hget : relays[index]? = some relay) (hid : relay'.session.id = relay.session.id)
    (hclosed : relay'.closed = true) (invokeClose : Bool) :
    Relayed nextId (manager.release relay.session.id invokeClose) (relays.set index relay') := by
  have hlt := (List.getElem?_eq_some_iff.mp hget).1
  refine ⟨h.accounted.release _ _, ?_, ?_, ?_, ?_, ?_⟩
  · rw [List.length_set, UdpSessionManager.length_opened_release, h.places]
  · rw [Tally.map_set_same _ hget hid]
    exact h.ids
  · intro other hmem
    rcases List.mem_or_eq_of_mem_set hmem with hmem | rfl
    · exact h.fresh other hmem
    · rw [hid]
      exact h.fresh relay (List.mem_of_getElem? hget)
  · intro id place
    rw [UdpSessionManager.sessionOf_release, List.getElem?_set]
    by_cases hplace : index = place
    · subst hplace
      rw [if_pos rfl, if_pos hlt]
      refine iff_of_false ?_ ?_
      · intro htracked
        split at htracked
        · cases htracked
        · next hother =>
          obtain ⟨other, hat, rfl, -⟩ := (h.registered id index).mp htracked
          cases hget.symm.trans hat
          exact hother rfl
      · rintro ⟨other, hat, -, hopen⟩
        cases hat
        rw [hclosed] at hopen
        cases hopen
    · rw [if_neg hplace]
      by_cases hother : id = relay.session.id
      · rw [if_pos hother]
        refine iff_of_false (fun hnone => by cases hnone) ?_
        rintro ⟨other, hat, hsame, -⟩
        exact hplace (h.place_unique hat hget (hother.symm.trans hsame.symm))
      · rw [if_neg hother]
        exact h.registered id place
  · intro other hmem
    rcases List.mem_or_eq_of_mem_set hmem with hmem | rfl
    · exact h.ended other hmem
    · exact fun _ _ => hclosed

/-- No id is given twice, so a new one is not tracked. -/
theorem Relayed.get_nextId (h : Relayed nextId manager relays) :
    manager.sessions.get (toString nextId) = none := by
  cases hget : manager.sessions.get (toString nextId) with
  | none => rfl
  | some managed =>
    have htracked : manager.sessionOf (toString nextId) = some managed.session := by
      unfold UdpSessionManager.sessionOf
      rw [hget]
      rfl
    obtain ⟨relay, hat, hid, -⟩ := (h.registered _ _).mp htracked
    obtain ⟨n, hn, hid'⟩ := h.fresh relay (List.mem_of_getElem? hat)
    have heq := JsString.toString_injective (hid'.symm.trans hid)
    omega

/-- A new session is tracked at the place of the new relay. -/
theorem Relayed.opens (h : Relayed nextId manager relays) (hbelow : manager.sessions.size < manager.maxSessions)
    (source : SourceAddress) :
    Relayed (nextId + 1) (manager.openSession (toString nextId)).2
      (relays ++ [⟨.new (toString nextId) source, false, .binding⟩]) := by
  have hnew : ∀ relay ∈ relays, relay.session.id ≠ toString nextId := by
    intro relay hmem heq
    obtain ⟨n, hn, hid⟩ := h.fresh relay hmem
    have := JsString.toString_injective (hid.symm.trans heq)
    omega
  have hopens : (manager.openSession (toString nextId)).2.opened =
        manager.opened ++ [⟨toString nextId, 0, none⟩] ∧
      ∀ id, (manager.openSession (toString nextId)).2.sessionOf id =
        if id = toString nextId then some relays.length else manager.sessionOf id := by
    rcases manager.openSession_cases (toString nextId) with ⟨hfull, -⟩ | ⟨-, ⟨existing, hlive, -⟩ | ⟨-, heq⟩⟩
    · omega
    · rw [h.get_nextId] at hlive
      cases hlive
    · rw [heq]
      refine ⟨rfl, fun id => ?_⟩
      unfold UdpSessionManager.sessionOf
      simp only [JsMap.get_set]
      by_cases hid : id = toString nextId
      · rw [if_pos hid, if_pos hid, h.places]
        rfl
      · rw [if_neg hid, if_neg hid]
  refine ⟨h.accounted.openSession _, ?_, ?_, ?_, ?_, ?_⟩
  · rw [hopens.1, List.length_append, List.length_append, h.places]
    rfl
  · rw [List.map_append]
    refine List.nodup_append.mpr ⟨h.ids, List.nodup_singleton _, ?_⟩
    intro id hmem id' hmem'
    obtain ⟨relay, hrelay, rfl⟩ := List.mem_map.mp hmem
    rw [List.mem_singleton.mp hmem']
    exact hnew relay hrelay
  · intro relay hmem
    rcases List.mem_append.mp hmem with hmem | hmem
    · exact h.later.fresh relay hmem
    · rw [List.mem_singleton.mp hmem]
      exact ⟨nextId, Nat.lt_succ_self _, rfl⟩
  · intro id place
    rw [hopens.2]
    by_cases hid : id = toString nextId
    · rw [if_pos hid]
      constructor
      · intro hplace
        cases hplace
        exact ⟨_, List.getElem?_concat_length, hid.symm, rfl⟩
      · rintro ⟨relay, hat, hsame, -⟩
        by_cases hlt : place < relays.length
        · rw [List.getElem?_append_left hlt] at hat
          exact absurd (hsame.trans hid) (hnew relay (List.mem_of_getElem? hat))
        · have hlt' := (List.getElem?_eq_some_iff.mp hat).1
          rw [List.length_append, List.length_singleton] at hlt'
          exact congrArg some (by omega)
    · rw [if_neg hid, h.registered]
      constructor
      · rintro ⟨relay, hat, hsame⟩
        refine ⟨relay, ?_, hsame⟩
        rw [List.getElem?_append_left (List.getElem?_eq_some_iff.mp hat).1]
        exact hat
      · rintro ⟨relay, hat, hsame⟩
        by_cases hlt : place < relays.length
        · rw [List.getElem?_append_left hlt] at hat
          exact ⟨relay, hat, hsame⟩
        · rw [List.getElem?_append_right (Nat.le_of_not_lt hlt)] at hat
          have hmem := List.mem_of_getElem? hat
          rw [List.mem_singleton.mp hmem] at hsame
          exact absurd hsame.1.symm hid
  · intro relay hmem
    rcases List.mem_append.mp hmem with hmem | hmem
    · exact h.ended relay hmem
    · rw [List.mem_singleton.mp hmem]
      intro failed hdone
      cases hdone

/-- Which sockets are open, by their ids, and how many. -/
theorem Relayed.open_count (h : Relayed nextId manager relays) :
    (relays.filter fun relay => !relay.closed).length = manager.sessions.size := by
  have hnodup : ((relays.filter fun relay => !relay.closed).map fun relay => relay.session.id).Nodup :=
    h.ids.sublist (List.filter_sublist.map _)
  have hmem (id : String) :
      id ∈ ((relays.filter fun relay => !relay.closed).map fun relay => relay.session.id) ↔
        id ∈ manager.sessions.keys := by
    have hkeys : id ∈ manager.sessions.keys ↔ ∃ index, manager.sessionOf id = some index := by
      rw [← JsMap.has_eq_true_iff]
      unfold JsMap.has UdpSessionManager.sessionOf
      cases manager.sessions.get id <;> simp
    rw [hkeys, List.mem_map]
    constructor
    · rintro ⟨relay, hfilter, rfl⟩
      obtain ⟨hrelay, hopen⟩ := List.mem_filter.mp hfilter
      obtain ⟨index, hat⟩ := List.getElem?_of_mem hrelay
      exact ⟨index, (h.registered _ _).mpr ⟨relay, hat, rfl, by simpa using hopen⟩⟩
    · rintro ⟨index, htracked⟩
      obtain ⟨relay, hat, hid, hopen⟩ := (h.registered _ _).mp htracked
      exact ⟨relay, List.mem_filter.mpr ⟨List.mem_of_getElem? hat, by simpa using hopen⟩, hid⟩
  have hperm := (List.perm_ext_iff_of_nodup hnodup manager.sessions.nodup).mpr hmem
  have hlength := hperm.length_eq
  rw [List.length_map] at hlength
  rw [hlength]
  exact JsMap.length_keys _

end UdpRelays

end Sepigs
