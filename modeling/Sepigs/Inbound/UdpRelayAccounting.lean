import Sepigs.Inbound.UdpAssociate

/-!
# What associations come to (`inbound/socks5.ts`, `core/udpSessionManager.ts`, `core/stats.ts`)

Over any run the sessions, the counters and the sockets of all associations agree with each other, and each
datagram has at most one reply.
-/

namespace Sepigs

namespace RelayedDatagram

def upload (datagram : RelayedDatagram) : Option Nat := datagram.packet.map fun packet => packet.payload.length

def download (datagram : RelayedDatagram) : Option Nat :=
  match datagram.fate with
  | .answered response => some response.payload.length
  | _ => none

def isDropped (datagram : RelayedDatagram) : Bool := datagram.fate = .dropped

end RelayedDatagram

namespace UdpRelays

open Tally (Ledger)

variable {node : Node} {s s' : UdpRelays}

def sessions (s : UdpRelays) : List UdpSession := s.relays.map UdpRelay.session

/-- Sessions and totals count the datagrams sent on, and the responses passed back. -/
structure Counted (sessions : List UdpSession) (datagrams : List RelayedDatagram) (traffic : UdpTraffic) :
    Prop where
  uploads : Ledger RelayedDatagram.relay RelayedDatagram.upload
    (fun session : UdpSession => (session.packetsUpload, session.bytesUpload)) sessions datagrams
    (traffic.udpPacketsClientToRemote, traffic.udpBytesClientToRemote)
  downloads : Ledger RelayedDatagram.relay RelayedDatagram.download
    (fun session : UdpSession => (session.packetsDownload, session.bytesDownload)) sessions datagrams
    (traffic.udpPacketsRemoteToClient, traffic.udpBytesRemoteToClient)

/-- A reply answers a datagram that came to its relay, goes to its sender and is its only one. -/
structure Answered (node : Node) (datagrams : List RelayedDatagram) (replies : List UdpReply) : Prop where
  sent : ∀ reply ∈ replies, ∃ datagram response, datagrams[reply.datagram]? = some datagram ∧
    datagram.fate = .answered response ∧ reply.relay = datagram.relay ∧ reply.receiver = datagram.rinfo ∧
    SocksUdp.encodeSocksUdpPacket node response.source response.payload = .ok reply.packet
  once : (replies.map UdpReply.datagram).Nodup
  all : ∀ index datagram response, datagrams[index]? = some datagram → datagram.fate = .answered response →
    index ∈ replies.map UdpReply.datagram

structure Sound (node : Node) (s : UdpRelays) : Prop where
  relayed : Relayed s.nextId s.manager s.relays
  counted : Counted s.sessions s.datagrams s.traffic
  answered : Answered node s.datagrams s.replies
  errors : s.manager.stats.udpErrorsTotal =
    s.refused + s.relayErrors + s.datagrams.countP RelayedDatagram.isDropped

theorem sound_create (maxSessions : Nat) : (create maxSessions).Sound node where
  relayed := relayed_create maxSessions
  counted := ⟨.nil, .nil⟩
  answered := ⟨fun reply hmem => absurd hmem List.not_mem_nil, List.nodup_nil, fun index d r hget => by cases hget⟩
  errors := rfl

/-- A datagram is added that has no reply. -/
theorem Answered.adds {datagrams : List RelayedDatagram} {replies : List UdpReply}
    (h : Answered node datagrams replies) {datagram : RelayedDatagram}
    (hfate : ∀ response, datagram.fate ≠ .answered response) : Answered node (datagrams ++ [datagram]) replies := by
  refine ⟨fun reply hmem => ?_, h.once, fun index other response hget hother => ?_⟩
  · obtain ⟨other, response, hget, hother⟩ := h.sent reply hmem
    refine ⟨other, response, ?_, hother⟩
    rw [List.getElem?_append_left (List.getElem?_eq_some_iff.mp hget).1]
    exact hget
  · by_cases hlt : index < datagrams.length
    · rw [List.getElem?_append_left hlt] at hget
      exact h.all index other response hget hother
    · rw [List.getElem?_append_right (Nat.le_of_not_lt hlt)] at hget
      rw [List.mem_singleton.mp (List.mem_of_getElem? hget)] at hother
      exact absurd hother (hfate response)

/-- A datagram that waits has no reply yet. -/
theorem Answered.notMem {datagrams : List RelayedDatagram} {replies : List UdpReply}
    (h : Answered node datagrams replies) {index : Nat} {datagram : RelayedDatagram}
    (hget : datagrams[index]? = some datagram) (hwaiting : datagram.fate = .waiting) :
    index ∉ replies.map UdpReply.datagram := by
  intro hmem
  obtain ⟨reply, hreply, rfl⟩ := List.mem_map.mp hmem
  obtain ⟨other, response, hat, hother, -⟩ := h.sent reply hreply
  cases hget.symm.trans hat
  rw [hwaiting] at hother
  cases hother

/-- Where a waiting datagram is settled, the others' replies stay. -/
theorem Answered.sent_set {datagrams : List RelayedDatagram} {replies : List UdpReply}
    (h : Answered node datagrams replies) {index : Nat} {datagram datagram' : RelayedDatagram}
    (hget : datagrams[index]? = some datagram) (hwaiting : datagram.fate = .waiting)
    {reply : UdpReply} (hmem : reply ∈ replies) :
    (datagrams.set index datagram')[reply.datagram]? = datagrams[reply.datagram]? := by
  refine List.getElem?_set_ne fun heq => ?_
  rw [heq] at hget
  exact (h.notMem hget hwaiting) (List.mem_map_of_mem hmem)

/-- A waiting datagram is settled without a reply. -/
theorem Answered.closes {datagrams : List RelayedDatagram} {replies : List UdpReply}
    (h : Answered node datagrams replies) {index : Nat} {datagram datagram' : RelayedDatagram}
    (hget : datagrams[index]? = some datagram) (hwaiting : datagram.fate = .waiting)
    (hfate : ∀ response, datagram'.fate ≠ .answered response) :
    Answered node (datagrams.set index datagram') replies := by
  refine ⟨fun reply hmem => ?_, h.once, fun other d response hat hd => ?_⟩
  · rw [h.sent_set hget hwaiting hmem]
    exact h.sent reply hmem
  · rw [List.getElem?_set] at hat
    split at hat
    · split at hat
      · cases hat
        exact absurd hd (hfate response)
      · cases hat
    · exact h.all other d response hat hd

/-- A waiting datagram is answered. -/
theorem Answered.answers {datagrams : List RelayedDatagram} {replies : List UdpReply}
    (h : Answered node datagrams replies) {index : Nat} {datagram : RelayedDatagram}
    (hget : datagrams[index]? = some datagram) (hwaiting : datagram.fate = .waiting)
    {response : UdpOutboundPacket} {packet : Bytes}
    (hencode : SocksUdp.encodeSocksUdpPacket node response.source response.payload = .ok packet) :
    Answered node (datagrams.set index { datagram with fate := .answered response })
      (replies ++ [⟨index, datagram.relay, packet, datagram.rinfo⟩]) := by
  have hlt := (List.getElem?_eq_some_iff.mp hget).1
  refine ⟨fun reply hmem => ?_, ?_, fun other d r hat hd => ?_⟩
  · rcases List.mem_append.mp hmem with hmem | hmem
    · rw [h.sent_set hget hwaiting hmem]
      exact h.sent reply hmem
    · rw [List.mem_singleton.mp hmem]
      exact ⟨_, response, List.getElem?_set_self hlt, rfl, rfl, rfl, hencode⟩
  · rw [List.map_append]
    refine List.nodup_append.mpr ⟨h.once, List.nodup_singleton _, ?_⟩
    intro place hmem place' hmem'
    rw [List.mem_singleton.mp hmem']
    rintro rfl
    exact h.notMem hget hwaiting hmem
  · rw [List.map_append]
    rw [List.getElem?_set] at hat
    split at hat
    · next heq =>
      subst heq
      exact List.mem_append_right _ List.mem_cons_self
    · exact List.mem_append_left _ (h.all other d r hat hd)

/-! ## Every step -/

theorem Sound.recordError (h : s.Sound node) : { s with relayErrors := s.relayErrors + 1 }.recordError.Sound node := by
  refine ⟨h.relayed.recordError, h.counted, h.answered, ?_⟩
  have herrors := h.errors
  show s.manager.stats.udpErrorsTotal + 1 = s.refused + (s.relayErrors + 1) + s.datagrams.countP _
  omega

/-- A relay changes and neither its socket nor its session does. -/
theorem Sound.updates (h : s.Sound node) {index : Nat} {relay : UdpRelay}
    (hget : s.relays[index]? = some relay) (relay' : UdpRelay) (hsession : relay'.session = relay.session)
    (hclosed : relay'.closed = relay.closed)
    (hended : ∀ failed, relay'.phase = .done failed → relay'.closed = true) :
    Sound node { s with relays := s.relays.set index relay' } := by
  refine ⟨h.relayed.updates hget (congrArg UdpSession.id hsession) hclosed hended, ?_, h.answered, h.errors⟩
  show Counted ((s.relays.set index relay').map UdpRelay.session) _ _
  rw [Tally.map_set_same _ hget hsession]
  exact h.counted

/-- A socket is closed and its session is released. -/
theorem Sound.closes (h : s.Sound node) {index : Nat} {relay : UdpRelay}
    (hget : s.relays[index]? = some relay) (relay' : UdpRelay) (hsession : relay'.session = relay.session)
    (hclosed : relay'.closed = true) (invokeClose : Bool) :
    Sound node { s with
      manager := s.manager.release relay.session.id invokeClose
      relays := s.relays.set index relay' } := by
  refine ⟨h.relayed.closes hget (congrArg UdpSession.id hsession) hclosed invokeClose, ?_, h.answered, ?_⟩
  · show Counted ((s.relays.set index relay').map UdpRelay.session) _ _
    rw [Tally.map_set_same _ hget hsession]
    exact h.counted
  · show (s.manager.release _ _).stats.udpErrorsTotal = _
    rw [UdpSessionManager.errors_release]
    exact h.errors

theorem Sound.finish (h : s.Sound node) {index : Nat} {relay : UdpRelay}
    (hget : s.relays[index]? = some relay) (failed : Bool) : (s.finish index relay failed).Sound node := by
  have heq : s.finish index relay failed = { s with
      manager := s.manager.release relay.session.id false
      relays := s.relays.set index { relay.closeUdpServer with phase := .done failed } } := by
    unfold UdpRelays.finish UdpRelays.release
    cases s.manager.sessions.get relay.session.id <;> rfl
  rw [heq]
  exact h.closes hget { relay.closeUdpServer with phase := .done failed } rfl rfl false

theorem Sound.release (h : s.Sound node) (id : String) : (s.release id true).Sound node := by
  rcases s.manager.release_cases id true with ⟨hfree, heq⟩ | ⟨managed, hlive, -⟩
  · have hsame : s.release id true = s := by
      unfold UdpRelays.release
      rw [heq, hfree]
    rw [hsame]
    exact h
  · have htracked : s.manager.sessionOf id = some managed.session := by
      unfold UdpSessionManager.sessionOf
      rw [hlive]
      rfl
    obtain ⟨relay, hat, rfl, -⟩ := (h.relayed.registered _ _).mp htracked
    have heq : s.release relay.session.id true = { s with
        manager := s.manager.release relay.session.id true
        relays := s.relays.set managed.session relay.closeUdpServer } := by
      have hmodify : s.relays.modify managed.session UdpRelay.closeUdpServer =
          s.relays.set managed.session relay.closeUdpServer := by
        rw [List.modify_eq_set_getElem?, hat]
        rfl
      unfold UdpRelays.release
      rw [hlive]
      simp only [if_true, hmodify]
    rw [heq]
    exact h.closes hat relay.closeUdpServer rfl rfl true

theorem Sound.closeAll (h : s.Sound node) : s.closeAll.Sound node := by
  unfold UdpRelays.closeAll
  generalize s.manager.sessions.keys = ids
  induction ids generalizing s with
  | nil => exact h
  | cons id ids ih => exact ih (h.release id)

/-- The timer that fires is forgotten with its session. -/
theorem Sound.expire (h : s.Sound node) {timer : Nat} (hstep : s.expire timer = some s') : s'.Sound node := by
  unfold UdpRelays.expire at hstep
  cases harmed : s.manager.timers.get timer with
  | none =>
    rw [harmed] at hstep
    cases hstep
  | some armed =>
    have hmanager := h.relayed.accounted.expire_eq harmed
    rw [harmed] at hstep
    cases hstep
    unfold UdpSessionManager.expire at hmanager
    rw [harmed] at hmanager
    have heq : ({ s with manager := { s.manager with timers := s.manager.timers.delete timer } } : UdpRelays).release
        armed.id true = s.release armed.id true := by
      unfold UdpRelays.release
      rw [Option.some.inj hmanager]
    rw [heq]
    exact h.release armed.id

theorem Sound.associate (h : s.Sound node) (source : SourceAddress) : (s.associate node source).Sound node := by
  rcases s.manager.openSession_cases (toString s.nextId) with ⟨-, heq⟩ | ⟨hbelow, hopen⟩
  · have hrefused : Sound node { s with
        nextId := s.nextId + 1
        manager := { s.manager with stats := s.manager.stats.recordUdpError }
        refused := s.refused + 1 } := by
      refine ⟨h.relayed.recordError.later, h.counted, h.answered, ?_⟩
      have herrors := h.errors
      show s.manager.stats.udpErrorsTotal + 1 = s.refused + 1 + s.relayErrors + s.datagrams.countP _
      omega
    unfold UdpRelays.associate writeReply
    simp only [heq]
    cases Socks5Inbound.createReply node 0x01 none with
    | error error => exact hrefused
    | ok reply => exact ⟨hrefused.relayed, hrefused.counted, hrefused.answered, hrefused.errors⟩
  · rcases hopen with ⟨existing, hlive, -⟩ | ⟨-, heq⟩
    · rw [h.relayed.get_nextId] at hlive
      cases hlive
    · have hrelayed := h.relayed.opens hbelow source
      unfold UdpRelays.associate
      simp only [heq] at hrelayed ⊢
      refine ⟨hrelayed, ?_, h.answered, h.errors⟩
      show Counted ((s.relays ++ [_]).map UdpRelay.session) _ _
      rw [List.map_append]
      exact ⟨h.counted.uploads.opens rfl, h.counted.downloads.opens rfl⟩

theorem writeReply_eq {id : String} {replyCode : UInt8} {bound : Option Destination}
    (hwrite : s.writeReply node id replyCode bound = .ok s') :
    ∃ reply, s' = { s with written := s.written ++ [(id, reply)] } := by
  unfold writeReply at hwrite
  cases hreply : Socks5Inbound.createReply node replyCode bound with
  | error error =>
    rw [hreply] at hwrite
    cases hwrite
  | ok reply =>
    rw [hreply] at hwrite
    cases hwrite
    exact ⟨reply, rfl⟩

theorem Sound.bound (h : s.Sound node) {index : Nat} {relay : UdpRelay} (hget : s.relays[index]? = some relay)
    (address : Option (String × Nat)) : (s.bound node index relay address).Sound node := by
  cases address with
  | none => exact h.recordError.finish hget true
  | some address =>
    obtain ⟨host, port⟩ := address
    simp only [UdpRelays.bound]
    split
    · exact h.finish hget true
    · next replied hwrite =>
      obtain ⟨reply, rfl⟩ := writeReply_eq hwrite
      have hwritten : Sound node { s with written := s.written ++ [(relay.session.id, reply)] } :=
        ⟨h.relayed, h.counted, h.answered, h.errors⟩
      refine hwritten.updates hget { relay with phase := .replying } rfl rfl ?_
      intro failed hdone
      cases hdone

/-- A datagram that waits was not dropped. -/
theorem countP_dropped_set {datagrams : List RelayedDatagram} {index : Nat} {datagram : RelayedDatagram}
    (hget : datagrams[index]? = some datagram) (hwaiting : datagram.fate = .waiting) (datagram' : RelayedDatagram) :
    (datagrams.set index datagram').countP RelayedDatagram.isDropped =
      datagrams.countP RelayedDatagram.isDropped + if datagram'.isDropped then 1 else 0 := by
  have hold : datagram.isDropped = false := by
    unfold RelayedDatagram.isDropped
    rw [hwaiting]
    rfl
  obtain ⟨hlt, hat⟩ := List.getElem?_eq_some_iff.mp hget
  rw [List.countP_set hlt, hat, hold]
  rfl

/-- A waiting datagram is settled without a reply. -/
theorem Sound.settles (h : s.Sound node) {index : Nat} {datagram : RelayedDatagram}
    (hget : s.datagrams[index]? = some datagram) (hwaiting : datagram.fate = .waiting) (fate : DatagramFate)
    (hfate : ∀ response, fate ≠ .answered response) :
    Relayed s.nextId s.manager s.relays ∧
      Counted s.sessions (s.datagrams.set index { datagram with fate := fate }) s.traffic ∧
      Answered node (s.datagrams.set index { datagram with fate := fate }) s.replies ∧
      (s.datagrams.set index { datagram with fate := fate }).countP RelayedDatagram.isDropped =
        s.datagrams.countP RelayedDatagram.isDropped + if fate = .dropped then 1 else 0 := by
  have hdownload : RelayedDatagram.download { datagram with fate := fate } = RelayedDatagram.download datagram := by
    unfold RelayedDatagram.download
    rw [hwaiting]
    cases fate with
    | answered response => exact absurd rfl (hfate response)
    | waiting => rfl
    | unanswered => rfl
    | dropped => rfl
  refine ⟨h.relayed, ⟨h.counted.uploads.amends hget rfl rfl, h.counted.downloads.amends hget hdownload rfl⟩,
    h.answered.closes hget hwaiting hfate, ?_⟩
  rw [countP_dropped_set hget hwaiting]
  simp [RelayedDatagram.isDropped]

theorem Sound.dropped (h : s.Sound node) {index : Nat} {datagram : RelayedDatagram}
    (hget : s.datagrams[index]? = some datagram) (hwaiting : datagram.fate = .waiting) :
    (s.dropped index datagram).Sound node := by
  obtain ⟨hrelayed, hcounted, hanswered, hdropped⟩ :=
    h.settles hget hwaiting .dropped (fun response heq => by cases heq)
  refine ⟨hrelayed.recordError, hcounted, hanswered, ?_⟩
  have herrors := h.errors
  show s.manager.stats.udpErrorsTotal + 1 = s.refused + s.relayErrors +
    (s.datagrams.set index { datagram with fate := .dropped }).countP RelayedDatagram.isDropped
  rw [hdropped, if_pos rfl]
  omega

theorem Sound.message (h : s.Sound node) {index : Nat} {relay : UdpRelay} (hget : s.relays[index]? = some relay)
    (bytes : Bytes) (rinfo : SourceAddress) : (s.message node index relay bytes rinfo).Sound node := by
  have hended := h.relayed.ended relay (List.mem_of_getElem? hget)
  have hsession : s.sessions[index]? = some relay.session := by
    unfold sessions
    rw [List.getElem?_map, hget]
    rfl
  have htouched := h.relayed.touch relay.session.id
  have herrors : (s.manager.touch relay.session.id).stats.udpErrorsTotal =
      s.refused + s.relayErrors + s.datagrams.countP RelayedDatagram.isDropped :=
    (s.manager.errors_touch _).trans h.errors
  unfold UdpRelays.message
  cases SocksUdp.parseSocksUdpPacket node bytes with
  | error error =>
    have hplace := (List.getElem?_eq_some_iff.mp hsession).1
    refine ⟨htouched.recordError, ?_, h.answered.adds (fun response heq => by cases heq), ?_⟩
    · exact ⟨h.counted.uploads.skips _ hplace rfl, h.counted.downloads.skips _ hplace rfl⟩
    · show (s.manager.touch _).stats.udpErrorsTotal + 1 = s.refused + s.relayErrors + (s.datagrams ++ [_]).countP _
      rw [herrors, List.countP_append]
      rfl
  | ok packet =>
    refine ⟨htouched.updates hget rfl rfl hended, ?_, h.answered.adds (fun response heq => by cases heq), ?_⟩
    · show Counted ((s.relays.set index _).map UdpRelay.session) _ _
      rw [List.map_set]
      constructor
      · have happends := h.counted.uploads.appends ⟨index, rinfo, some packet, .waiting⟩
          (relay.session.upload packet.destination packet.payload.length) hsession
          (by simp [UdpSession.upload, RelayedDatagram.upload])
        simpa [sessions, UdpTraffic.addUdpClientToRemoteBytes, RelayedDatagram.upload] using happends
      · refine (h.counted.downloads.recounts hsession
          (relay.session.upload packet.destination packet.payload.length) rfl).skips _ ?_ rfl
        rw [List.length_set]
        exact (List.getElem?_eq_some_iff.mp hsession).1
    · show (s.manager.touch _).stats.udpErrorsTotal = s.refused + s.relayErrors + (s.datagrams ++ [_]).countP _
      rw [herrors, List.countP_append]
      rfl

theorem Sound.answers (h : s.Sound node) {index : Nat} {datagram : RelayedDatagram} {relay : UdpRelay}
    (hget : s.datagrams[index]? = some datagram) (hwaiting : datagram.fate = .waiting)
    (hrelay : s.relays[datagram.relay]? = some relay) {response : UdpOutboundPacket} {packet : Bytes}
    (hencode : SocksUdp.encodeSocksUdpPacket node response.source response.payload = .ok packet) :
    Sound node { s with
      replies := s.replies ++ [⟨index, datagram.relay, packet, datagram.rinfo⟩]
      traffic := s.traffic.addUdpRemoteToClientBytes response.payload.length
      relays := s.relays.set datagram.relay
        { relay with session := relay.session.download response.payload.length }
      datagrams := s.datagrams.set index { datagram with fate := .answered response } } := by
  have hsession : s.sessions[datagram.relay]? = some relay.session := by
    unfold sessions
    rw [List.getElem?_map, hrelay]
    rfl
  have hdownload : datagram.download = none := by
    unfold RelayedDatagram.download
    rw [hwaiting]
  refine ⟨?_, ?_, h.answered.answers hget hwaiting hencode, ?_⟩
  · exact h.relayed.updates hrelay rfl rfl (h.relayed.ended relay (List.mem_of_getElem? hrelay))
  · show Counted ((s.relays.set datagram.relay _).map UdpRelay.session) _ _
    rw [List.map_set]
    constructor
    · exact (h.counted.uploads.recounts hsession (relay.session.download response.payload.length) rfl).amends
        hget rfl rfl
    · have hsettles := h.counted.downloads.settles hget hdownload { datagram with fate := .answered response } rfl
        (relay.session.download response.payload.length) hsession
        (by simp [UdpSession.download, RelayedDatagram.download])
      simpa [sessions, UdpTraffic.addUdpRemoteToClientBytes, RelayedDatagram.download] using hsettles
  · show _ = s.refused + s.relayErrors + (s.datagrams.set index _).countP RelayedDatagram.isDropped
    rw [countP_dropped_set hget hwaiting, h.errors]
    rfl

theorem Sound.response (h : s.Sound node) {index : Nat} {datagram : RelayedDatagram} {relay : UdpRelay}
    (hget : s.datagrams[index]? = some datagram) (hwaiting : datagram.fate = .waiting)
    (hrelay : s.relays[datagram.relay]? = some relay) (outcome : Except Unit (Option UdpOutboundPacket)) :
    (s.response node index datagram relay outcome).Sound node := by
  cases outcome with
  | error error => exact h.dropped hget hwaiting
  | ok packet? =>
    cases packet? with
    | none =>
      obtain ⟨hrelayed, hcounted, hanswered, hdropped⟩ :=
        h.settles hget hwaiting .unanswered (fun response heq => by cases heq)
      refine ⟨hrelayed, hcounted, hanswered, ?_⟩
      show _ = s.refused + s.relayErrors +
        (s.datagrams.set index { datagram with fate := .unanswered }).countP RelayedDatagram.isDropped
      rw [hdropped]
      exact h.errors
    | some response =>
      unfold UdpRelays.response
      cases hencode : SocksUdp.encodeSocksUdpPacket node response.source response.payload with
      | error error =>
        simp only [hencode]
        exact h.dropped hget hwaiting
      | ok packet =>
        simp only [hencode]
        by_cases hthrows : relay.closed = true ∨ datagram.rinfo.port = 0
        · rw [if_pos hthrows]
          exact h.dropped hget hwaiting
        · rw [if_neg hthrows]
          exact h.answers hget hwaiting hrelay hencode

theorem relayIn_eq_some {allowed : UdpRelay → Bool} {index : Nat} {relay : UdpRelay}
    (h : s.relayIn allowed index = some relay) : s.relays[index]? = some relay ∧ allowed relay = true :=
  Option.filter_eq_some_iff.mp h

theorem Sound.step (h : s.Sound node) {label : UdpAssociateLabel} (hstep : s.step node label = some s') :
    s'.Sound node := by
  cases label with
  | otherConnection =>
    cases hstep
    exact ⟨h.relayed.later, h.counted, h.answered, h.errors⟩
  | associate source =>
    cases hstep
    exact h.associate source
  | bound index address =>
    obtain ⟨relay, hrelay, rfl⟩ := Option.map_eq_some_iff.mp hstep
    exact h.bound (relayIn_eq_some hrelay).1 address
  | written index ok =>
    obtain ⟨relay, hrelay, rfl⟩ := Option.map_eq_some_iff.mp hstep
    have hget := (relayIn_eq_some hrelay).1
    by_cases hok : ok = true
    · rw [if_pos hok]
      refine h.updates hget { relay with phase := .established } rfl rfl ?_
      intro failed hdone
      cases hdone
    · rw [if_neg hok]
      exact h.finish hget true
  | controlClosed index =>
    obtain ⟨relay, hrelay, rfl⟩ := Option.map_eq_some_iff.mp hstep
    exact h.finish (relayIn_eq_some hrelay).1 false
  | message index message rinfo =>
    obtain ⟨relay, hrelay, rfl⟩ := Option.map_eq_some_iff.mp hstep
    exact h.message (relayIn_eq_some hrelay).1 message rinfo
  | response index outcome =>
    obtain ⟨datagram, hdatagram, hstep⟩ := Option.bind_eq_some_iff.mp hstep
    obtain ⟨hget, hwaiting⟩ := Option.filter_eq_some_iff.mp hdatagram
    obtain ⟨relay, hrelay, rfl⟩ := Option.map_eq_some_iff.mp hstep
    exact h.response hget (of_decide_eq_true hwaiting) hrelay outcome
  | relayError index =>
    obtain ⟨relay, hrelay, rfl⟩ := Option.map_eq_some_iff.mp hstep
    exact h.recordError
  | expire timer => exact h.expire hstep
  | closeAll =>
    cases hstep
    exact h.closeAll

/-- The limit stays what it was made with. -/
theorem limit_step {label : UdpAssociateLabel} (hstep : s.step node label = some s') :
    s'.manager.maxSessions = s.manager.maxSessions := by
  have hrelease (s : UdpRelays) (id : String) (invokeClose : Bool) :
      (s.release id invokeClose).manager.maxSessions = s.manager.maxSessions :=
    s.manager.maxSessions_release id invokeClose
  have hfinish (s : UdpRelays) (index : Nat) (relay : UdpRelay) (failed : Bool) :
      (s.finish index relay failed).manager.maxSessions = s.manager.maxSessions :=
    hrelease _ _ _
  cases label with
  | otherConnection =>
    cases hstep
    rfl
  | associate source =>
    cases hstep
    rw [← s.manager.maxSessions_openSession (toString s.nextId)]
    unfold UdpRelays.associate
    simp only []
    split
    · unfold writeReply
      cases Socks5Inbound.createReply node 0x01 none <;> rfl
    · rfl
  | bound index address =>
    obtain ⟨relay, -, rfl⟩ := Option.map_eq_some_iff.mp hstep
    unfold UdpRelays.bound
    split
    · exact hfinish _ _ _ _
    · split
      · exact hfinish _ _ _ _
      · next replied hwrite =>
        obtain ⟨reply, rfl⟩ := writeReply_eq hwrite
        rfl
  | written index ok =>
    obtain ⟨relay, -, rfl⟩ := Option.map_eq_some_iff.mp hstep
    split
    · rfl
    · exact hfinish _ _ _ _
  | controlClosed index =>
    obtain ⟨relay, -, rfl⟩ := Option.map_eq_some_iff.mp hstep
    exact hfinish _ _ _ _
  | message index message rinfo =>
    obtain ⟨relay, -, rfl⟩ := Option.map_eq_some_iff.mp hstep
    unfold UdpRelays.message
    cases SocksUdp.parseSocksUdpPacket node message with
    | error error => exact s.manager.maxSessions_touch _
    | ok packet => exact s.manager.maxSessions_touch _
  | response index outcome =>
    obtain ⟨datagram, -, hstep⟩ := Option.bind_eq_some_iff.mp hstep
    obtain ⟨relay, -, rfl⟩ := Option.map_eq_some_iff.mp hstep
    unfold UdpRelays.response
    split
    · rfl
    · rfl
    · split
      · rfl
      · split <;> rfl
  | relayError index =>
    obtain ⟨relay, -, rfl⟩ := Option.map_eq_some_iff.mp hstep
    rfl
  | expire timer =>
    have hstep : s.expire timer = some s' := hstep
    unfold UdpRelays.expire at hstep
    split at hstep
    · cases hstep
    · cases hstep
      exact hrelease _ _ _
  | closeAll =>
    cases hstep
    unfold UdpRelays.closeAll
    generalize s.manager.sessions.keys = ids
    induction ids generalizing s with
    | nil => rfl
    | cons id ids ih => exact ih.trans (hrelease s id true)

theorem run_limit {labels : List UdpAssociateLabel} {s s' : UdpRelays}
    (hrun : (system node).run s labels = some s') : s'.manager.maxSessions = s.manager.maxSessions := by
  refine ((system node).run_relation (fun _ _ => True) (fun _ => True)
    (fun s s' => s'.manager.maxSessions = s.manager.maxSessions) (fun _ => rfl)
    (fun _ _ _ h h' => h'.trans h) ?_ labels s s' trivial ((system node).along_true _ labels) hrun).2
  intro before label after _ _ hstep
  exact ⟨trivial, limit_step hstep⟩

theorem run_sound (maxSessions : Nat) {labels : List UdpAssociateLabel}
    (hrun : (system node).run (create maxSessions) labels = some s) : s.Sound node := by
  refine (system node).run_invariant (fun _ _ => True) (Sound node) ?_ labels _ s (sound_create maxSessions)
    ((system node).along_true _ labels) hrun
  intro before label after hbefore _ hstep
  exact hbefore.step hstep

end UdpRelays

open UdpRelays in
/-- However associations, datagrams, answers, timers and failures follow each other: a relay's socket is
open as long as its session is tracked with a timer armed, at most `maxSessions` are, and none is when
its association is done; every datagram, answer and error is counted once. -/
theorem udp_associations_accounted (node : Node) (maxSessions : Nat) (labels : List UdpAssociateLabel)
    (s : UdpRelays) (hrun : (system node).run (create maxSessions) labels = some s) :
    (s.relays.filter fun relay => !relay.closed).length = s.manager.stats.udpSessionsActive ∧
    s.manager.stats.udpSessionsActive ≤ maxSessions ∧
    (∀ index relay, s.relays[index]? = some relay →
      (relay.closed = false ↔ ∃ timer, s.manager.sessions.get relay.session.id = some ⟨index, timer⟩ ∧
        s.manager.timers.get timer = some ⟨relay.session.id, index⟩) ∧
      (∀ failed, relay.phase = .done failed → relay.closed = true)) ∧
    Counted s.sessions s.datagrams s.traffic ∧
    s.manager.stats.udpErrorsTotal =
      s.refused + s.relayErrors + s.datagrams.countP RelayedDatagram.isDropped := by
  have hsound := run_sound maxSessions hrun
  have hactive := hsound.relayed.accounted.active
  have hlimit := hsound.relayed.accounted.limit
  rw [run_limit hrun] at hlimit
  refine ⟨hsound.relayed.open_count.trans hactive.symm, hactive.trans_le hlimit,
    fun index relay hget => ⟨?_, hsound.relayed.ended relay (List.mem_of_getElem? hget)⟩,
    hsound.counted, hsound.errors⟩
  constructor
  · intro hopen
    have htracked := (hsound.relayed.registered relay.session.id index).mpr ⟨relay, hget, rfl, hopen⟩
    obtain ⟨managed, hlive, rfl⟩ := Option.map_eq_some_iff.mp htracked
    exact ⟨managed.timer, hlive, (hsound.relayed.accounted.live _ _ hlive).2⟩
  · rintro ⟨timer, hlive, -⟩
    have htracked : s.manager.sessionOf relay.session.id = some index := by
      unfold UdpSessionManager.sessionOf
      rw [hlive]
      rfl
    obtain ⟨other, hat, -, hopen⟩ := (hsound.relayed.registered _ _).mp htracked
    cases hget.symm.trans hat
    exact hopen

open UdpRelays in
/-- The second association is refused; the first one's session expires before its answer is there. -/
theorem udp_associations_accounted_expired :
    ∃ s, (system asciiNode).run (create 1)
        [.associate ⟨"c", 1⟩, .bound 0 (some ("r", 9)), .written 0 true, .associate ⟨"d", 2⟩,
          .message 0 [0, 0, 0, 3, 1, 97, 0, 80, 7] ⟨"c", 5⟩, .expire 1,
          .response 0 (.ok (some ⟨[7], ⟨"a", 80, .domain⟩⟩))] = some s ∧
      s.manager.stats.udpSessionsActive = 0 ∧ s.manager.stats.udpErrorsTotal = 2 := by
  obtain ⟨hactive, -, -, -, herrors⟩ := udp_associations_accounted asciiNode 1
    [.associate ⟨"c", 1⟩, .bound 0 (some ("r", 9)), .written 0 true, .associate ⟨"d", 2⟩,
      .message 0 [0, 0, 0, 3, 1, 97, 0, 80, 7] ⟨"c", 5⟩, .expire 1,
      .response 0 (.ok (some ⟨[7], ⟨"a", 80, .domain⟩⟩))] _ rfl
  exact ⟨_, rfl, hactive.symm, herrors⟩

end Sepigs
