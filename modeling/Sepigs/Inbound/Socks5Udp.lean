import Sepigs.Protocol.AddressCodec

/-!
# SOCKS5 packets over UDP (`inbound/socks5Udp.ts`)

`parseSocksUdpPacket` reads the address with a function of its own, which checks the length
of the address before the port is looked for.  It accepts what `decodeSocksAddress` accepts.
-/

namespace Sepigs

structure SocksUdpPacket where
  destination : Destination
  payload : Bytes
deriving DecidableEq, Repr

namespace SocksUdp

variable (node : Node)

/-- The host and the offset after it. -/
def readAddress (buffer : Bytes) (offset : Nat) (type : Int) : Except SepigsError (String × Nat) :=
  if type = 1 then
    let stop := offset + 4
    if buffer.length < stop then .error (ProtocolError "SOCKS5 UDP IPv4 address is truncated")
    else .ok (dottedBytes ((buffer.take stop).drop offset), stop)
  else if type = 3 then
    let length := (buffer[offset]?.getD 0).toNat
    let start := offset + 1
    let stop := start + length
    if length = 0 ∨ buffer.length < stop then .error (ProtocolError "SOCKS5 UDP domain is truncated")
    else .ok (node.utf8 ((buffer.take stop).drop start), stop)
  else if type = 4 then
    let stop := offset + 16
    if buffer.length < stop then .error (ProtocolError "SOCKS5 UDP IPv6 address is truncated")
    else .ok (JsString.join (ipv6Groups ((buffer.take stop).drop offset)) ':', stop)
  else .error (ProtocolError s!"unsupported SOCKS5 UDP address type {type}")

/-- The packet whose host was read up to the offset. -/
def packetAt (message : Bytes) (parsed : String × Nat) : Except SepigsError SocksUdpPacket :=
  match message[parsed.2]?, message[parsed.2 + 1]? with
  | some high, some low =>
    .ok { destination := makeDestination node parsed.1 (uint16 high low)
          payload := message.drop (parsed.2 + 2) }
  | _, _ => .error (ProtocolError "SOCKS5 UDP packet missing destination port")

def parseSocksUdpPacket (message : Bytes) : Except SepigsError SocksUdpPacket :=
  if message.length < 7 then .error (ProtocolError "SOCKS5 UDP packet is too short")
  else if message[0]? ≠ some 0 ∨ message[1]? ≠ some 0 then
    .error (ProtocolError "SOCKS5 UDP packet has invalid reserved bytes")
  else if message[2]? ≠ some 0 then
    .error (ProtocolError "SOCKS5 UDP fragmentation is not supported")
  else do
    let parsed ← readAddress node message 4 (message[3]?.elim (-1) fun type => type.toNat)
    packetAt node message parsed

/-! ## The packet of a decoded address -/

/-- The destination and the bytes after the address, for a message that holds one. -/
def packetOf (message : Bytes) (decoded : Destination × Nat) : SocksUdpPacket :=
  ⟨decoded.1, message.drop decoded.2⟩

/-- Where the port is missing, so is its place in the decoder's count. -/
theorem packetAt_eq (message : Bytes) (host : String) (stop : Nat) :
    (packetAt node message (host, stop)).toOption =
      (destinationAt node host message stop).toOption.map (packetOf message) := by
  unfold packetAt destinationAt readPort
  cases message[stop]? with
  | none => rfl
  | some high =>
    cases message[stop + 1]? with
    | none => rfl
    | some low => rfl

theorem destinationAt_short {message : Bytes} (host : String) {stop : Nat}
    (h : message.length < stop + 2) : (destinationAt node host message stop).toOption = none := by
  have hlow : message[stop + 1]? = none := List.getElem?_eq_none (by omega)
  unfold destinationAt readPort
  rw [hlow]
  cases message[stop]? with
  | none => rfl
  | some high => rfl

/-- Checking for the address alone and checking for the port too come to the same. -/
theorem field_agrees (message : Bytes) (host : String) (stop : Nat) (error error' : SepigsError) :
    ((if message.length < stop then .error error else .ok (host, stop)) >>= packetAt node message).toOption =
      ((if message.length < stop + 2 then .error error' else destinationAt node host message stop) :
        Except SepigsError (Destination × Nat)).toOption.map (packetOf message) := by
  by_cases hlong : message.length < stop + 2
  · rw [if_pos hlong]
    by_cases hshort : message.length < stop
    · rw [if_pos hshort]
      rfl
    · rw [if_neg hshort]
      show (packetAt node message (host, stop)).toOption = none
      rw [packetAt_eq, destinationAt_short node host hlong]
      rfl
  · rw [if_neg hlong, if_neg (by omega)]
    exact packetAt_eq node message host stop

/-- What is too short for a packet is too short for an address. -/
theorem decodeSocksAddress_short {bytes : Bytes} (h : bytes.length < 4) (before : Bytes) :
    (decodeSocksAddress node (before ++ bytes) before.length).toOption = none := by
  rw [decodeSocksAddress_append]
  cases hdecode : decodeSocksAddress node bytes 0 with
  | error error => rfl
  | ok result =>
    obtain ⟨address, rest, rfl⟩ := exists_encode_of_ok node hdecode
    obtain ⟨host, high, low⟩ := address
    cases host with
    | ipv4 field hfield =>
      simp [SocksAddress.encode, SocksHost.lead, SocksHost.bytes, hfield] at h
      omega
    | domain field hfield =>
      simp [SocksAddress.encode, SocksHost.lead, SocksHost.bytes] at h
      omega
    | ipv6 field hfield =>
      simp [SocksAddress.encode, SocksHost.lead, SocksHost.bytes, hfield] at h
      omega

/-- **A packet is the decoded address and what follows it.** -/
theorem parseSocksUdpPacket_eq (bytes : Bytes) :
    (parseSocksUdpPacket node (0 :: 0 :: 0 :: bytes)).toOption =
      (decodeSocksAddress node (0 :: 0 :: 0 :: bytes) 3).toOption.map (packetOf (0 :: 0 :: 0 :: bytes)) := by
  by_cases hshort : bytes.length < 4
  · have hnone : (decodeSocksAddress node (0 :: 0 :: 0 :: bytes) 3).toOption = none :=
      decodeSocksAddress_short node hshort [0, 0, 0]
    rw [hnone]
    have hlength : (0 :: 0 :: 0 :: bytes : Bytes).length < 7 := Nat.add_lt_add_right hshort 3
    unfold parseSocksUdpPacket
    rw [if_pos hlength]
    rfl
  · obtain ⟨addressType, rest, rfl⟩ : ∃ addressType rest, bytes = addressType :: rest := by
      cases bytes with
      | nil => exact absurd (by simp) hshort
      | cons addressType rest => exact ⟨addressType, rest, rfl⟩
    generalize hmessage : (0 :: 0 :: 0 :: addressType :: rest : Bytes) = message
    have hlength : ¬ message.length < 7 := by
      rw [← hmessage]
      simpa using hshort
    have h0 : message[0]? = some 0 := by rw [← hmessage]; rfl
    have h1 : message[1]? = some 0 := by rw [← hmessage]; rfl
    have h2 : message[2]? = some 0 := by rw [← hmessage]; rfl
    have h3 : message[3]? = some addressType := by rw [← hmessage]; rfl
    unfold parseSocksUdpPacket
    rw [if_neg hlength, if_neg (by simp [h0, h1]), if_neg (by simp [h2]), h3]
    show (readAddress node message 4 (addressType.toNat : Int) >>= packetAt node message).toOption = _
    unfold readAddress decodeSocksAddress
    rw [h3]
    have htype (n : Nat) (hn : n < 256) : (addressType.toNat : Int) = (n : Int) ↔
        addressType = UInt8.ofNat n := by
      rw [Int.natCast_inj, ← UInt8.toNat_inj, UInt8.toNat_ofNat', Nat.mod_eq_of_lt (by omega)]
    have ht1 : (addressType.toNat : Int) = 1 ↔ addressType = 0x01 := htype 1 (by decide)
    have ht3 : (addressType.toNat : Int) = 3 ↔ addressType = 0x03 := htype 3 (by decide)
    have ht4 : (addressType.toNat : Int) = 4 ↔ addressType = 0x04 := htype 4 (by decide)
    simp only [ht1, ht3, ht4]
    by_cases hipv4 : addressType = 0x01
    · simp only [if_pos hipv4]
      exact field_agrees node message _ 8 _ _
    · simp only [if_neg hipv4]
      by_cases hdomain : addressType = 0x03
      · simp only [if_pos hdomain]
        obtain ⟨length, hlead⟩ : ∃ length, message[4]? = some length := by
          rw [List.getElem?_eq_getElem (by omega)]
          exact ⟨_, rfl⟩
        rw [hlead]
        simp only [Option.getD_some]
        by_cases hzero : length = 0
        · rw [if_pos (Or.inl (by rw [hzero]; rfl)), if_pos hzero]
          rfl
        · have hne : length.toNat ≠ 0 := fun heq => hzero (UInt8.toNat_inj.mp heq)
          simp only [hne, false_or, if_neg hzero]
          exact field_agrees node message _ (5 + length.toNat) _ _
      · simp only [if_neg hdomain]
        by_cases hipv6 : addressType = 0x04
        · simp only [if_pos hipv6]
          exact field_agrees node message _ 20 _ _
        · simp only [if_neg hipv6]
          rfl

end SocksUdp

end Sepigs
