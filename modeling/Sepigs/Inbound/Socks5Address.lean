import Sepigs.Inbound.Socks5Negotiation
import Sepigs.Inbound.Socks5Udp

/-!
# The SOCKS5 inbound's own address functions (`inbound/socks5.ts`)

The inbound reads addresses piece by piece from the client and writes them with an encoder
of its own.  Both do what `protocol/address.ts` does.
-/

namespace Sepigs

open Dialogue

/-! ## The private encoder -/

namespace Socks5Inbound

variable (node : Node)

def parseIpv6Groups (input : String) : Except SepigsError (List Nat) := SocksCodec.parseIpv6Groups input

/-- No group is missing when there are too many: the array is made with length zero then. -/
def joinGroups (host : String) (split : Bool) (head tail : List Nat) : Except SepigsError Bytes :=
  let missing : Int := 8 - head.length - tail.length
  let groups := if split then head ++ List.replicate missing.toNat 0 ++ tail else head
  if groups.length ≠ 8 then .error (SocksCodec.invalidIpv6 host)
  else .ok (groups.flatMap SocksCodec.twoBytes)

def ipv6ToBytes (host : String) : Except SepigsError Bytes :=
  let parts := (splitDoubleColon host.toList).map String.ofList
  if 2 < parts.length then .error (SocksCodec.invalidIpv6 host)
  else do
    let head ← parseIpv6Groups (parts[0]?.getD "")
    let tail ← parseIpv6Groups (parts[1]?.getD "")
    joinGroups host (decide (parts.length = 2)) head tail

def encodeSocksAddress (destination : Destination) : Except SepigsError Bytes :=
  let port := SocksCodec.twoBytes destination.port
  match destination.addressType with
  | .ipv4 => do
    let bytes ← SocksCodec.ipv4ToBytes node destination.host
    pure (0x01 :: bytes ++ port)
  | .ipv6 => do
    let bytes ← ipv6ToBytes destination.host
    pure (0x04 :: bytes ++ port)
  | .domain =>
    let host := utf8Bytes destination.host
    if 255 < host.length then
      .error (ProtocolError s!"domain name is too long for SOCKS5: \"{destination.host}\"")
    else .ok (0x03 :: UInt8.ofNat host.length :: host ++ port)

/-- Too many groups are too many with or without the check for it. -/
theorem joinGroups_eq (host : String) {split : Bool} (head : List Nat) {tail : List Nat}
    (h : split = false → tail = []) :
    joinGroups host split head tail = SocksCodec.joinGroups host split head tail := by
  have himplies : (8 - head.length - tail.length : Int) < 0 →
      (if split then head ++ List.replicate (8 - head.length - tail.length : Int).toNat 0 ++ tail
        else head).length ≠ 8 := by
    intro hmissing
    by_cases hsplit : split = true
    · rw [if_pos hsplit, List.length_append, List.length_append, List.length_replicate]
      omega
    · rw [if_neg hsplit]
      rw [h (Bool.eq_false_iff.mpr hsplit), List.length_nil] at hmissing
      omega
  unfold joinGroups SocksCodec.joinGroups
  simp only [or_iff_left_of_imp himplies]

theorem ipv6ToBytes_eq (host : String) : ipv6ToBytes host = SocksCodec.ipv6ToBytes host := by
  unfold ipv6ToBytes SocksCodec.ipv6ToBytes parseIpv6Groups
  generalize hparts : (splitDoubleColon host.toList).map String.ofList = parts
  by_cases hmany : 2 < parts.length
  · simp only [if_pos hmany]
  · simp only [if_neg hmany]
    cases SocksCodec.parseIpv6Groups (parts[0]?.getD "") with
    | error error => rfl
    | ok head =>
      cases htail : SocksCodec.parseIpv6Groups (parts[1]?.getD "") with
      | error error => rfl
      | ok tail =>
        show joinGroups host _ head tail = SocksCodec.joinGroups host _ head tail
        refine joinGroups_eq host head fun hone => ?_
        have hlength : parts.length ≤ 1 := by
          have hne := of_decide_eq_false hone
          omega
        rw [List.getElem?_eq_none hlength] at htail
        cases htail
        rfl

/-- The encoders differ in one text of an error. -/
theorem encodeSocksAddress_eq (destination : Destination) :
    (encodeSocksAddress node destination).toOption =
      (SocksCodec.encodeSocksAddress node destination).toOption := by
  obtain ⟨host, port, addressType⟩ := destination
  cases addressType with
  | ipv4 => rfl
  | ipv6 =>
    unfold encodeSocksAddress SocksCodec.encodeSocksAddress
    simp only [ipv6ToBytes_eq]
  | domain =>
    unfold encodeSocksAddress SocksCodec.encodeSocksAddress
    by_cases hlong : 255 < (utf8Bytes host).length
    · simp only [if_pos hlong]
      rfl
    · simp only [if_neg hlong]

end Socks5Inbound

/-! ## The reader of addresses -/

section Reader

variable (node : Node)

theorem succeeds_read_append (data rest : Bytes) (ending : SepigsError) :
    Succeeds (read data.length : Session ByteReader (List UInt8)) ⟨data ++ rest, ending⟩ data
      ⟨rest, ending⟩ := by
  show (if data.length ≤ (data ++ rest).length then
      .ok ((data ++ rest).take data.length, ⟨(data ++ rest).drop data.length, ending⟩)
    else .error ending) = (.ok (data, ⟨rest, ending⟩) : Except SepigsError (Bytes × ByteReader))
  rw [if_pos (by rw [List.length_append]; omega), List.take_left, List.drop_left]

/-- Reads of a given length take a piece of that length. -/
theorem succeeds_read_of_length {n : Nat} {data : Bytes} (h : data.length = n) (rest : Bytes)
    (ending : SepigsError) :
    Succeeds (read n : Session ByteReader (List UInt8)) ⟨data ++ rest, ending⟩ data ⟨rest, ending⟩ :=
  h ▸ succeeds_read_append data rest ending

/-- The part of the lead after the address type. -/
theorem readSocksAddress_succeeds (host : SocksHost) (rest : Bytes) (ending : SepigsError) :
    ∃ addressType more, host.lead = addressType :: more ∧
      Succeeds (readSocksAddress node addressType) (⟨more ++ (host.bytes ++ rest), ending⟩ : ByteReader)
        (host.text node) ⟨rest, ending⟩ := by
  cases host with
  | ipv4 bytes h =>
    exact ⟨0x01, [], rfl, (succeeds_read_of_length h rest ending).bind rfl⟩
  | domain bytes h =>
    refine ⟨0x03, [UInt8.ofNat bytes.length], rfl, ?_⟩
    have hcount := toNat_ofNat_of_le h.2
    have hne : UInt8.ofNat bytes.length ≠ 0 := by
      intro hzero
      rw [hzero] at hcount
      have hz : (0 : UInt8).toNat = 0 := rfl
      omega
    have hread : Succeeds (read (UInt8.ofNat bytes.length).toNat >>= fun bytes => pure (node.utf8 bytes))
        (⟨bytes ++ rest, ending⟩ : ByteReader) (node.utf8 bytes) ⟨rest, ending⟩ :=
      Succeeds.bind (succeeds_read_of_length hcount.symm rest ending) rfl
    refine Succeeds.bind (succeeds_read_append [UInt8.ofNat bytes.length] (bytes ++ rest) ending) ?_
    show Succeeds (if UInt8.ofNat bytes.length = 0 then _ else _) _ _ _
    rw [if_neg hne]
    exact hread
  | ipv6 bytes h =>
    exact ⟨0x04, [], rfl, (succeeds_read_of_length h rest ending).bind rfl⟩

/-- A command is read from the bytes of its address. -/
theorem readCommand_succeeds (command : UInt8) (address : SocksAddress) (rest : Bytes)
    (ending : SepigsError) :
    Succeeds (readCommand node) (⟨commandBytes command address ++ rest, ending⟩ : ByteReader)
      ⟨command, address.destination node⟩ ⟨rest, ending⟩ := by
  obtain ⟨host, high, low⟩ := address
  obtain ⟨addressType, more, hlead, hhost⟩ :=
    readSocksAddress_succeeds node host ([high, low] ++ rest) ending
  have hsplit : commandBytes command ⟨host, high, low⟩ ++ rest =
      [SOCKS_VERSION, command, 0x00, addressType] ++ (more ++ (host.bytes ++ ([high, low] ++ rest))) := by
    simp [commandBytes, SocksAddress.encode, hlead]
  rw [hsplit]
  refine Succeeds.bind (succeeds_read_append [SOCKS_VERSION, command, 0x00, addressType] _ ending) ?_
  show Succeeds (if SOCKS_VERSION ≠ SOCKS_VERSION ∨ (0x00 : UInt8) ≠ 0x00 then _ else _) _ _ _
  rw [if_neg (by simp)]
  exact hhost.bind ((succeeds_read_append [high, low] rest ending).bind rfl)

/-- The command that was read and the bytes still to be read. -/
def taken {ρ : Type} (content : ρ → Bytes) (result : List Bytes × Except SepigsError (Socks5Command × ρ)) :
    Option (Socks5Command × Bytes) :=
  result.2.toOption.map fun read => (read.1, content read.2)

/-- The command of a decoded address and the bytes after the address. -/
def commandOf (command : UInt8) (bytes : Bytes) (decoded : Destination × Nat) : Socks5Command × Bytes :=
  (⟨command, decoded.1⟩, bytes.drop decoded.2)

theorem taken_of_agree {ρ ρ' : Type} {R : ρ → ρ' → Prop} {content : ρ → Bytes} {content' : ρ' → Bytes}
    (hR : ∀ r r', R r r' → content r = content' r')
    {x : List Bytes × Except SepigsError (Socks5Command × ρ)}
    {y : List Bytes × Except SepigsError (Socks5Command × ρ')} (h : Agree R x y) :
    taken content x = taken content' y := by
  cases h with
  | error replies error => rfl
  | ok replies command h => exact congrArg (fun rest => some (command, rest)) (hR _ _ h)

/-- **The address is read from the client as it is decoded from a buffer.** -/
theorem readCommand_eq (command : UInt8) (bytes : Bytes) (ending : SepigsError) :
    taken ByteReader.content (readCommand node (⟨SOCKS_VERSION :: command :: 0x00 :: bytes, ending⟩ : ByteReader)) =
      (decodeSocksAddress node bytes 0).toOption.map (commandOf command bytes) := by
  cases hdecode : decodeSocksAddress node bytes 0 with
  | ok decoded =>
    obtain ⟨address, rest, rfl⟩ := exists_encode_of_ok node hdecode
    rw [decodeSocksAddress_encode] at hdecode
    cases hdecode
    have hread : (readCommand node (⟨commandBytes command address ++ rest, ending⟩ : ByteReader)).2 = _ :=
      readCommand_succeeds node command address rest ending
    show Option.map _ (readCommand node (⟨commandBytes command address ++ rest, ending⟩ : ByteReader)).2.toOption =
      some (commandOf command _ _)
    rw [hread, commandOf, List.drop_left]
    rfl
  | error error =>
    cases hread : (readCommand node
      (⟨SOCKS_VERSION :: command :: 0x00 :: bytes, ending⟩ : ByteReader)).2 with
    | error error =>
      unfold taken
      rw [hread]
      rfl
    | ok result =>
      have hsucceeds : Succeeds (readCommand node)
          (⟨SOCKS_VERSION :: command :: 0x00 :: bytes, ending⟩ : ByteReader) result.1 result.2 := hread
      obtain ⟨address, -, hcontent⟩ := succeeds_readCommand node hsucceeds
      have hbytes : SOCKS_VERSION :: command :: 0x00 :: bytes =
          SOCKS_VERSION :: result.1.command :: 0x00 :: (address.encode ++ result.2.content) := hcontent
      rw [List.cons_inj_right, List.cons.injEq, List.cons_inj_right] at hbytes
      obtain ⟨-, rfl⟩ := hbytes
      rw [decodeSocksAddress_encode] at hdecode
      cases hdecode

/-- In chunks, however they come, within the limit of the reader. -/
theorem buffered_readCommand_eq (command : UInt8) (bytes : Bytes) (reader : BufferedSocketReader)
    (hcontent : reader.content = SOCKS_VERSION :: command :: 0x00 :: bytes)
    (hlimit : reader.content.length ≤ reader.maxBytes) :
    taken BufferedSocketReader.content (readCommand node reader) =
      (decodeSocksAddress node bytes 0).toOption.map (commandOf command bytes) := by
  rw [← readCommand_eq node command bytes reader.socket.ending]
  exact taken_of_agree (fun _ _ h => h.content)
    (readCommand_simulates node reader _ ⟨hcontent, hlimit, rfl⟩)

end Reader

/-- **The address functions of SOCKS5 agree.**  A packet over UDP is parsed exactly when its
address is decoded, to the same destination and the bytes after the address; the command
read from a client, from the bytes themselves or in whatever chunks within the limit, has
the destination that is decoded from the buffer and leaves the bytes after it, and is
turned away when the buffer is; and the two encoders write the same bytes or both throw. -/
theorem socks5_addresses_agree (node : Node) :
    (∀ bytes : Bytes, (SocksUdp.parseSocksUdpPacket node (0 :: 0 :: 0 :: bytes)).toOption =
        (decodeSocksAddress node (0 :: 0 :: 0 :: bytes) 3).toOption.map
          fun decoded => ⟨decoded.1, (0 :: 0 :: 0 :: bytes).drop decoded.2⟩) ∧
      (∀ (command : UInt8) (bytes : Bytes) (ending : SepigsError),
        taken ByteReader.content
            (readCommand node (⟨SOCKS_VERSION :: command :: 0x00 :: bytes, ending⟩ : ByteReader)) =
          (decodeSocksAddress node bytes 0).toOption.map
            fun decoded => (⟨command, decoded.1⟩, bytes.drop decoded.2)) ∧
      (∀ (command : UInt8) (bytes : Bytes) (reader : BufferedSocketReader),
        reader.content = SOCKS_VERSION :: command :: 0x00 :: bytes →
        reader.content.length ≤ reader.maxBytes →
        taken BufferedSocketReader.content (readCommand node reader) =
          (decodeSocksAddress node bytes 0).toOption.map
            fun decoded => (⟨command, decoded.1⟩, bytes.drop decoded.2)) ∧
      ∀ destination, (Socks5Inbound.encodeSocksAddress node destination).toOption =
        (SocksCodec.encodeSocksAddress node destination).toOption := by
  refine ⟨?_, ?_, ?_, ?_⟩
  · exact SocksUdp.parseSocksUdpPacket_eq node
  · exact readCommand_eq node
  · exact buffered_readCommand_eq node
  · exact Socks5Inbound.encodeSocksAddress_eq node

/-- A domain in three chunks. -/
theorem socks5_addresses_agree_chunks :
    taken BufferedSocketReader.content (readCommand asciiNode (BufferedSocketReader.create
        ⟨[[5], [1, 0, 3, 1]], [[[97, 0]], [[80, 9]]], ProtocolError "ended"⟩ 1024)) =
      some (⟨1, ⟨"a", 80, .domain⟩⟩, [9]) :=
  ((socks5_addresses_agree asciiNode).2.2.1 1 [3, 1, 97, 0, 80, 9] (BufferedSocketReader.create
    ⟨[[5], [1, 0, 3, 1]], [[[97, 0]], [[80, 9]]], ProtocolError "ended"⟩ 1024) rfl (by decide)).trans
    (by decide +kernel)

end Sepigs
