import Sepigs.Inbound.UdpRelayAccounting
import Sepigs.Outbound.ProxyRequests

/-!
# Replies of associations (`inbound/socks5.ts`, `inbound/socks5Udp.ts`)

Where a reply goes and what the client reads from it; and that a closed socket stays closed, whatever is
still to come.
-/

namespace Sepigs

namespace UdpRelays

variable {node : Node} {s s' : UdpRelays}

/-! ## A closed socket -/

/-- What a relay has received. -/
def receivedBy (index : Nat) (s : UdpRelays) : Nat := (s.datagrams.map RelayedDatagram.relay).count index

/-- What a relay has sent. -/
def sentBy (index : Nat) (s : UdpRelays) : List UdpReply := s.replies.filter fun reply => reply.relay = index

/-- The relays that were closed are, and have received and sent nothing more. -/
def StayClosed (s s' : UdpRelays) : Prop :=
  ∀ index relay, s.relays[index]? = some relay → relay.closed = true →
    (∃ relay', s'.relays[index]? = some relay' ∧ relay'.closed = true) ∧
      s'.receivedBy index = s.receivedBy index ∧ s'.sentBy index = s.sentBy index

theorem StayClosed.refl (s : UdpRelays) : StayClosed s s :=
  fun _ relay hget hclosed => ⟨⟨relay, hget, hclosed⟩, rfl, rfl⟩

theorem StayClosed.trans {t : UdpRelays} (h : StayClosed s s') (h' : StayClosed s' t) : StayClosed s t := by
  intro index relay hget hclosed
  obtain ⟨⟨relay', hget', hclosed'⟩, hreceived, hsent⟩ := h index relay hget hclosed
  obtain ⟨hthen, hreceived', hsent'⟩ := h' index relay' hget' hclosed'
  exact ⟨hthen, hreceived'.trans hreceived, hsent'.trans hsent⟩

/-- One relay changes and does not open again; what is received or sent is for an open one. -/
theorem StayClosed.of_set {place : Nat} {relay relay' : UdpRelay} (hplace : s.relays[place]? = some relay)
    (hrelays : s'.relays = s.relays.set place relay') (hkeeps : relay.closed = true → relay'.closed = true)
    (htraffic : ∀ index, (index = place → relay.closed = true) →
      s'.receivedBy index = s.receivedBy index ∧ s'.sentBy index = s.sentBy index) : StayClosed s s' := by
  intro index other hget hclosed
  refine ⟨?_, htraffic index ?_⟩
  · rw [hrelays, List.getElem?_set]
    by_cases heq : place = index
    · subst heq
      cases hplace.symm.trans hget
      rw [if_pos rfl, if_pos (List.getElem?_eq_some_iff.mp hget).1]
      exact ⟨relay', rfl, hkeeps hclosed⟩
    · rw [if_neg heq]
      exact ⟨other, hget, hclosed⟩
  · rintro rfl
    cases hplace.symm.trans hget
    exact hclosed

/-- No socket and no datagram is touched. -/
theorem StayClosed.of_eq (hrelays : s'.relays = s.relays) (hdatagrams : s'.datagrams = s.datagrams)
    (hreplies : s'.replies = s.replies) : StayClosed s s' := by
  intro index relay hget hclosed
  unfold receivedBy sentBy
  rw [hrelays, hdatagrams, hreplies]
  exact ⟨⟨relay, hget, hclosed⟩, rfl, rfl⟩

theorem stayClosed_release (s : UdpRelays) (id : String) : StayClosed s (s.release id true) := by
  cases hget : s.manager.sessions.get id with
  | none =>
    refine .of_eq ?_ rfl rfl
    unfold UdpRelays.release
    rw [hget]
  | some managed =>
    have hrelays : (s.release id true).relays = s.relays.modify managed.session UdpRelay.closeUdpServer := by
      unfold UdpRelays.release
      rw [hget]
      rfl
    intro index relay hat hclosed
    refine ⟨?_, rfl, rfl⟩
    rw [hrelays, List.getElem?_modify, hat]
    refine ⟨_, rfl, ?_⟩
    show (if managed.session = index then relay.closeUdpServer else relay).closed = true
    split
    · rfl
    · exact hclosed

theorem finish_relays (s : UdpRelays) (index : Nat) (relay : UdpRelay) (failed : Bool) :
    (s.finish index relay failed).relays =
      s.relays.set index { relay.closeUdpServer with phase := .done failed } := by
  unfold UdpRelays.finish UdpRelays.release
  cases s.manager.sessions.get relay.session.id <;> rfl

theorem stayClosed_finish {index : Nat} {relay : UdpRelay} (hget : s.relays[index]? = some relay) (failed : Bool) :
    StayClosed s (s.finish index relay failed) :=
  .of_set hget (finish_relays s index relay failed) (fun _ => rfl) (fun _ _ => ⟨rfl, rfl⟩)

theorem stayClosed_closeAll (s : UdpRelays) : StayClosed s s.closeAll := by
  unfold UdpRelays.closeAll
  generalize s.manager.sessions.keys = ids
  induction ids generalizing s with
  | nil => exact .refl s
  | cons id ids ih => exact (stayClosed_release s id).trans (ih (s.release id true))

theorem stayClosed_associate (node : Node) (s : UdpRelays) (source : SourceAddress) :
    StayClosed s (s.associate node source) := by
  unfold UdpRelays.associate
  simp only []
  split
  · refine .of_eq ?_ ?_ ?_ <;>
    · unfold writeReply
      cases Socks5Inbound.createReply node 0x01 none <;> rfl
  · intro index relay hget hclosed
    refine ⟨⟨relay, ?_, hclosed⟩, rfl, rfl⟩
    show (s.relays ++ [_])[index]? = some relay
    rw [List.getElem?_append_left (List.getElem?_eq_some_iff.mp hget).1]
    exact hget

theorem stayClosed_bound {index : Nat} {relay : UdpRelay} (hget : s.relays[index]? = some relay)
    (address : Option (String × Nat)) : StayClosed s (s.bound node index relay address) := by
  cases address with
  | none =>
    have hrecords : StayClosed s { s with relayErrors := s.relayErrors + 1 }.recordError := .of_eq rfl rfl rfl
    exact hrecords.trans (stayClosed_finish hget true)
  | some address =>
    obtain ⟨host, port⟩ := address
    simp only [UdpRelays.bound]
    split
    · exact stayClosed_finish hget true
    · next replied hwrite =>
      obtain ⟨reply, rfl⟩ := writeReply_eq hwrite
      exact .of_set hget rfl (fun hclosed => hclosed) (fun _ _ => ⟨rfl, rfl⟩)

/-- Datagrams come to open sockets. -/
theorem stayClosed_message {index : Nat} {relay : UdpRelay} (hget : s.relays[index]? = some relay)
    (hopen : relay.closed = false) (bytes : Bytes) (rinfo : SourceAddress) :
    StayClosed s (s.message node index relay bytes rinfo) := by
  have hcount (packet : Option SocksUdpPacket) (fate : DatagramFate) {other : Nat} (hne : other ≠ index) :
      ((s.datagrams ++ [(⟨index, rinfo, packet, fate⟩ : RelayedDatagram)]).map RelayedDatagram.relay).count other =
        (s.datagrams.map RelayedDatagram.relay).count other := by
    rw [List.map_append, List.count_append, List.map_singleton, List.count_singleton]
    simp [hne.symm]
  have hother {other : Nat} (hclosed : other = index → relay.closed = true) : other ≠ index := by
    intro heq
    rw [hopen] at hclosed
    exact Bool.false_ne_true (hclosed heq)
  unfold UdpRelays.message
  cases SocksUdp.parseSocksUdpPacket node bytes with
  | error error =>
    intro other relay' hat hclosed
    have hne : other ≠ index := by
      rintro rfl
      cases hget.symm.trans hat
      rw [hopen] at hclosed
      cases hclosed
    exact ⟨⟨relay', hat, hclosed⟩, hcount _ _ hne, rfl⟩
  | ok packet =>
    exact .of_set hget rfl (fun hclosed => hclosed) (fun other hclosed => ⟨hcount _ _ (hother hclosed), rfl⟩)

/-- Replies leave from open sockets. -/
theorem stayClosed_response {index : Nat} {datagram : RelayedDatagram} {relay : UdpRelay}
    (hget : s.datagrams[index]? = some datagram) (hrelay : s.relays[datagram.relay]? = some relay)
    (outcome : Except Unit (Option UdpOutboundPacket)) :
    StayClosed s (s.response node index datagram relay outcome) := by
  have hcount (fate : DatagramFate) :
      (s.datagrams.set index { datagram with fate := fate }).map RelayedDatagram.relay =
        s.datagrams.map RelayedDatagram.relay :=
    Tally.map_set_same _ hget rfl
  have hsettles (s' : UdpRelays) (fate : DatagramFate) (hrelays : s'.relays = s.relays)
      (hdatagrams : s'.datagrams = s.datagrams.set index { datagram with fate := fate })
      (hreplies : s'.replies = s.replies) : StayClosed s s' := by
    intro other relay' hat hclosed
    unfold receivedBy sentBy
    rw [hrelays, hdatagrams, hreplies, hcount]
    exact ⟨⟨relay', hat, hclosed⟩, rfl, rfl⟩
  cases outcome with
  | error error => exact hsettles _ .dropped rfl rfl rfl
  | ok packet? =>
    cases packet? with
    | none => exact hsettles _ .unanswered rfl rfl rfl
    | some response =>
      unfold UdpRelays.response
      cases hencode : SocksUdp.encodeSocksUdpPacket node response.source response.payload with
      | error error =>
        simp only [hencode]
        exact hsettles _ .dropped rfl rfl rfl
      | ok packet =>
        simp only [hencode]
        by_cases hthrows : relay.closed = true ∨ datagram.rinfo.port = 0
        · rw [if_pos hthrows]
          exact hsettles _ .dropped rfl rfl rfl
        · rw [if_neg hthrows]
          refine .of_set hrelay rfl (fun hclosed => hclosed) (fun other hclosed => ⟨?_, ?_⟩)
          · exact congrArg (List.count other) (hcount _)
          · have hne : datagram.relay ≠ other := fun heq => hthrows (.inl (hclosed heq.symm))
            show (s.replies ++ [_]).filter _ = _
            rw [List.filter_append]
            simp [sentBy, hne]

theorem stayClosed_step {label : UdpAssociateLabel} (hstep : s.step node label = some s') : StayClosed s s' := by
  cases label with
  | otherConnection =>
    cases hstep
    exact .of_eq rfl rfl rfl
  | associate source =>
    cases hstep
    exact stayClosed_associate node s source
  | bound index address =>
    obtain ⟨relay, hrelay, rfl⟩ := Option.map_eq_some_iff.mp hstep
    exact stayClosed_bound (relayIn_eq_some hrelay).1 address
  | written index ok =>
    obtain ⟨relay, hrelay, rfl⟩ := Option.map_eq_some_iff.mp hstep
    have hget := (relayIn_eq_some hrelay).1
    by_cases hok : ok = true
    · rw [if_pos hok]
      exact .of_set hget rfl (fun hclosed => hclosed) (fun _ _ => ⟨rfl, rfl⟩)
    · rw [if_neg hok]
      exact stayClosed_finish hget true
  | controlClosed index =>
    obtain ⟨relay, hrelay, rfl⟩ := Option.map_eq_some_iff.mp hstep
    exact stayClosed_finish (relayIn_eq_some hrelay).1 false
  | message index message rinfo =>
    obtain ⟨relay, hrelay, rfl⟩ := Option.map_eq_some_iff.mp hstep
    obtain ⟨hget, hallowed⟩ := relayIn_eq_some hrelay
    exact stayClosed_message hget (of_decide_eq_true hallowed).2 message rinfo
  | response index outcome =>
    obtain ⟨datagram, hdatagram, hstep⟩ := Option.bind_eq_some_iff.mp hstep
    obtain ⟨hget, hwaiting⟩ := Option.filter_eq_some_iff.mp hdatagram
    obtain ⟨relay, hrelay, rfl⟩ := Option.map_eq_some_iff.mp hstep
    exact stayClosed_response hget hrelay outcome
  | relayError index =>
    obtain ⟨relay, hrelay, rfl⟩ := Option.map_eq_some_iff.mp hstep
    exact .of_eq rfl rfl rfl
  | expire timer =>
    have hstep : s.expire timer = some s' := hstep
    unfold UdpRelays.expire at hstep
    split at hstep
    · cases hstep
    · cases hstep
      exact stayClosed_release _ _
  | closeAll =>
    cases hstep
    exact stayClosed_closeAll s

/-! ## What the client reads -/

/-- The packet of a reply, read back. -/
theorem encodeSocksUdpPacket_read (hnode : BuiltIns node) {host : String} {port : Nat}
    (hsendable : Sendable node host port) {payload packet : Bytes}
    (hencode : SocksUdp.encodeSocksUdpPacket node (makeDestination node host port) payload = .ok packet) :
    ∃ read, SocksUdp.parseSocksUdpPacket node packet = .ok ⟨read, payload⟩ ∧
      SameEndpoint (makeDestination node host port) read := by
  obtain ⟨address, haddress, hsame, -⟩ := hsendable.exists_address hnode
  have hpacket : packet = 0 :: 0 :: 0 :: (address.encode ++ payload) := by
    unfold SocksUdp.encodeSocksUdpPacket at hencode
    rw [haddress] at hencode
    cases hencode
    rfl
  have hdecode : decodeSocksAddress node (0 :: 0 :: 0 :: (address.encode ++ payload)) 3 =
      .ok (address.destination node, 3 + address.encode.length) :=
    SocksCodec.decode_address node address [0, 0, 0] payload
  have hread := SocksUdp.parseSocksUdpPacket_eq node (address.encode ++ payload)
  rw [hdecode, ← hpacket] at hread
  refine ⟨address.destination node, ?_, hsame⟩
  have hrest : packet.drop (3 + address.encode.length) = payload := by
    rw [hpacket, show (0 :: 0 :: 0 :: (address.encode ++ payload) : Bytes) =
      ([0, 0, 0] ++ address.encode) ++ payload from rfl]
    refine List.drop_left' ?_
    rw [List.length_append]
    rfl
  have hparsed : (SocksUdp.parseSocksUdpPacket node packet).toOption =
      some ⟨address.destination node, packet.drop (3 + address.encode.length)⟩ := hread
  rw [hrest] at hparsed
  cases hresult : SocksUdp.parseSocksUdpPacket node packet with
  | error error =>
    rw [hresult] at hparsed
    cases hparsed
  | ok result =>
    rw [hresult] at hparsed
    exact congrArg Except.ok (Option.some.inj hparsed)

end UdpRelays

open UdpRelays in
/-- A reply goes to the sender of its datagram, from the relay that the datagram came to, at most once, and
is read there as the response; a closed relay receives and sends nothing any more. -/
theorem udp_replies_return (node : Node) (maxSessions : Nat) (labels later : List UdpAssociateLabel)
    (s t : UdpRelays) (hrun : (system node).run (create maxSessions) labels = some s)
    (hlater : (system node).run s later = some t) :
    (∀ reply ∈ s.replies, ∃ datagram response, s.datagrams[reply.datagram]? = some datagram ∧
      datagram.fate = .answered response ∧ reply.relay = datagram.relay ∧ reply.receiver = datagram.rinfo ∧
      (BuiltIns node → ∀ host port, Sendable node host port → response.source = makeDestination node host port →
        ∃ read, SocksUdp.parseSocksUdpPacket node reply.packet = .ok ⟨read, response.payload⟩ ∧
          SameEndpoint response.source read)) ∧
    (s.replies.map UdpReply.datagram).Nodup ∧
    StayClosed s t := by
  have hsound := run_sound maxSessions hrun
  refine ⟨fun reply hmem => ?_, hsound.answered.once, ?_⟩
  · obtain ⟨datagram, response, hget, hfate, hrelay, hreceiver, hencode⟩ := hsound.answered.sent reply hmem
    refine ⟨datagram, response, hget, hfate, hrelay, hreceiver, fun hnode host port hsendable hsource => ?_⟩
    rw [hsource] at hencode ⊢
    exact encodeSocksUdpPacket_read hnode hsendable hencode
  · refine ((system node).run_relation (fun _ _ => True) (fun _ => True) StayClosed .refl
      (fun _ _ _ h h' => h.trans h') ?_ later s t trivial ((system node).along_true _ later) hlater).2
    intro before label after _ _ hstep
    exact ⟨trivial, stayClosed_step hstep⟩

/-! ## An answer from an IPv6 address -/

section Answered

open UdpRelays SocksCodec Runs

/-- An association, a datagram on it and its answer. -/
def answeredLabels (source : Destination) : List UdpAssociateLabel :=
  [.associate ⟨"c", 1⟩, .bound 0 (some ("r", 9)), .written 0 true,
    .message 0 [0, 0, 0, 3, 1, 97, 0, 80, 7] ⟨"c", 5⟩, .response 0 (.ok (some ⟨[7], source⟩))]

theorem makeDestination_relay : makeDestination codecNode "r" 9 = ⟨"r", 9, .domain⟩ := by
  have hfour : codecNode.isIP "r" ≠ 4 := by
    intro h
    obtain ⟨quad, hquad⟩ := (IpText.versions.v4 "r").mp h
    have hdot : '.' ∈ "r".toList := hquad ▸ quad.dot_mem
    exact absurd hdot (by decide)
  have hsix : codecNode.isIP "r" ≠ 6 := by
    intro h
    have hcolons := ((IpText.versions.v6 "r").mp h).two_le_count_colon
    exact absurd hcolons (by decide)
  unfold makeDestination detectAddressType
  split
  · next h => exact absurd h hfour
  · next h => exact absurd h hsix
  · rfl

theorem response_of_encode {node : Node} {index : Nat} {datagram : RelayedDatagram} {relay : UdpRelay}
    {answer : UdpOutboundPacket} {packet : Bytes} (s : UdpRelays)
    (hencode : SocksUdp.encodeSocksUdpPacket node answer.source answer.payload = .ok packet)
    (hopen : ¬ (relay.closed = true ∨ datagram.rinfo.port = 0)) :
    s.response node index datagram relay (.ok (some answer)) =
      { s with
        replies := s.replies ++ [⟨index, datagram.relay, packet, datagram.rinfo⟩]
        traffic := s.traffic.addUdpRemoteToClientBytes answer.payload.length
        relays := s.relays.set datagram.relay
          { relay with session := relay.session.download answer.payload.length }
        datagrams := s.datagrams.set index { datagram with fate := .answered answer } } := by
  unfold UdpRelays.response
  dsimp only
  rw [hencode]
  exact if_neg hopen

theorem run_answered {source : Destination} {packet : Bytes}
    (hencode : SocksUdp.encodeSocksUdpPacket codecNode source [7] = .ok packet) :
    ∃ s t sent, (system codecNode).run (create 1) (answeredLabels source) = some s ∧
      (system codecNode).run s [.controlClosed 0, .closeAll] = some t ∧
      s.replies = [⟨0, 0, packet, ⟨"c", 5⟩⟩] ∧
      s.datagrams = [⟨0, ⟨"c", 5⟩, some sent, .answered ⟨[7], source⟩⟩] := by
  have hbound : (system codecNode).step ((create 1).associate codecNode ⟨"c", 1⟩) (.bound 0 (some ("r", 9))) =
      some { (create 1).associate codecNode ⟨"c", 1⟩ with
        relays := [⟨.new "1" ⟨"c", 1⟩, false, .replying⟩]
        written := [("1", [5, 0, 0, 3, 1, 114, 0, 9])] } := by
    show some (bound codecNode 0 ⟨.new "1" ⟨"c", 1⟩, false, .binding⟩ (some ("r", 9))
      ((create 1).associate codecNode ⟨"c", 1⟩)) = _
    unfold bound writeReply Socks5Inbound.createReply
    dsimp only [Option.getD]
    rw [makeDestination_relay]
    rfl
  refine ⟨_, _, _, (System.run_cons_eq_some ..).mpr ⟨_, rfl, (System.run_cons_eq_some ..).mpr ⟨_, hbound,
    (System.run_cons_eq_some ..).mpr ⟨_, rfl, (System.run_cons_eq_some ..).mpr ⟨_, rfl,
      (System.run_cons_eq_some ..).mpr ⟨_, congrArg some (response_of_encode _ hencode ?_), rfl⟩⟩⟩⟩⟩,
    rfl, rfl, rfl⟩
  rintro (hclosed | hport)
  · cases hclosed
  · cases hport

theorem udp_replies_return_once :
    ∃ s t packet read, (system codecNode).run (create 1)
        (answeredLabels (makeDestination codecNode "::1" 443)) = some s ∧
      (system codecNode).run s [.controlClosed 0, .closeAll] = some t ∧
      s.replies = [⟨0, 0, packet, ⟨"c", 5⟩⟩] ∧
      SocksUdp.parseSocksUdpPacket codecNode packet = .ok ⟨read, [7]⟩ ∧
      SameEndpoint (makeDestination codecNode "::1" 443) read ∧ StayClosed s t := by
  obtain ⟨address, hencode, -⟩ := sendable_loopback.exists_address builtIns_codecNode
  have hpacket : SocksUdp.encodeSocksUdpPacket codecNode (makeDestination codecNode "::1" 443) [7] =
      .ok ([0, 0, 0] ++ address.encode ++ [7]) := by
    unfold SocksUdp.encodeSocksUdpPacket
    rw [hencode]
    rfl
  obtain ⟨s, t, sent, hrun, hlater, hsent, hdatagrams⟩ := run_answered hpacket
  obtain ⟨hreplies, -, hclosed⟩ := udp_replies_return codecNode 1 _ _ s t hrun hlater
  obtain ⟨datagram, response, hget, hfate, -, -, hread⟩ := hreplies _ (hsent ▸ List.mem_singleton_self _)
  rw [hdatagrams] at hget
  cases hget
  cases hfate
  obtain ⟨read, hparsed, hsame⟩ := hread builtIns_codecNode "::1" 443 sendable_loopback rfl
  exact ⟨s, t, _, read, hrun, hlater, hsent, hparsed, hsame, hclosed⟩

end Answered

end Sepigs
