import Sepigs.Inbound.Handshake
import Sepigs.Protocol.AddressCodec
import Sepigs.Protocol.ShadowsocksStream

/-!
# What the outbounds write and the inbounds read (`outbound/trojan.ts`, `outbound/shadowsocks.ts`)

A request starts with its destination: after the hash of the password with Trojan, before the
first bytes of the payload with Shadowsocks.  The other end of the connection is
`readTrojanHandshake` and `readAddress`, on whatever pieces the bytes come in.
-/

namespace Sepigs

open Accumulate Decoder ShadowsocksTcpStream
open SocksCodec (SameHost encodeSocksAddress roundTrips_ipv4 roundTrips_ipv6 roundTrips_domain)

/-! ## Destinations that can be sent -/

section Destinations

variable (node : Node)

/-- The built-ins on texts of addresses, of the numbers of a byte and of UTF-8. -/
structure BuiltIns : Prop where
  versions : IpText.Versions node.isIP
  utf8 : ∀ text, node.utf8 (utf8Bytes text) = text
  number : ∀ n : Nat, n ≤ 255 → node.number (toString n) = some (n : Int)

/-- A host of some length, without a zone or a dotted quad if it is IPv6. -/
structure Sendable (host : String) (port : Nat) : Prop where
  port_le : port ≤ 65535
  host_ne : host ≠ ""
  host_le : (utf8Bytes host).length ≤ 255
  six : node.isIP host = 6 → '%' ∉ host.toList ∧ '.' ∉ host.toList

variable {node} {host : String} {port : Nat}

theorem Sendable.roundTrips (h : Sendable node host port) (hnode : BuiltIns node) :
    SocksCodec.RoundTrips node (makeDestination node host port) := by
  by_cases hsix : node.isIP host = 6
  · obtain ⟨hzone, hdot⟩ := h.six hsix
    obtain ⟨address, hchars⟩ := SocksCodec.exists_address hnode.versions hsix hzone
    exact roundTrips_ipv6 hnode.versions h.port_le hchars hsix hdot
  · by_cases hfour : node.isIP host = 4
    · exact roundTrips_ipv4 hnode.versions hnode.number h.port_le hfour
    · exact roundTrips_domain hnode.utf8 h.port_le h.host_ne h.host_le hfour hsix

/-- The same place, for a host in its own spelling. -/
structure SameEndpoint (sent read : Destination) : Prop where
  addressType : read.addressType = sent.addressType
  host : SameHost sent.addressType sent.host read.host
  port : read.port = sent.port

/-- The type of the host is the first byte. -/
theorem isDomain_iff {destination : Destination} {address : SocksAddress}
    (h : encodeSocksAddress node destination = .ok address.encode) :
    address.host.isDomain = true ↔ destination.addressType = .domain := by
  have hfirst : ∀ {first : UInt8} {rest : Bytes}, Except.ok (ε := SepigsError) (first :: rest) = .ok address.encode →
      address.encode.head? = some first := by
    intro first rest heq
    rw [← Except.ok.inj heq]
    rfl
  have hhead : address.host.isDomain = true ↔ address.encode.head? = some 0x03 := by
    obtain ⟨host, high, low⟩ := address
    cases host with
    | ipv4 bytes hbytes => exact iff_of_false Bool.false_ne_true (by simp [SocksAddress.encode, SocksHost.lead])
    | domain bytes hbytes => exact iff_of_true rfl rfl
    | ipv6 bytes hbytes => exact iff_of_false Bool.false_ne_true (by simp [SocksAddress.encode, SocksHost.lead])
  rw [hhead]
  unfold encodeSocksAddress at h
  cases htype : destination.addressType with
  | ipv4 =>
    rw [htype] at h
    cases hbytes : SocksCodec.ipv4ToBytes node destination.host with
    | error error =>
      simp only [hbytes] at h
      cases h
    | ok bytes =>
      simp only [hbytes] at h
      rw [hfirst h]
      exact iff_of_false (by decide) (fun heq => by cases heq)
  | ipv6 =>
    rw [htype] at h
    cases hbytes : SocksCodec.ipv6ToBytes destination.host with
    | error error =>
      simp only [hbytes] at h
      cases h
    | ok bytes =>
      simp only [hbytes] at h
      rw [hfirst h]
      exact iff_of_false (by decide) (fun heq => by cases heq)
  | domain =>
    rw [htype] at h
    simp only [] at h
    split at h
    · cases h
    · rw [hfirst h]
      exact iff_of_true rfl rfl

/-- The bytes of a destination are those of an address with known fields. -/
theorem Sendable.exists_address (h : Sendable node host port) (hnode : BuiltIns node) :
    ∃ address : SocksAddress, encodeSocksAddress node (makeDestination node host port) = .ok address.encode ∧
      SameEndpoint (makeDestination node host port) (address.destination node) ∧
      (address.host.isDomain = true ↔ (makeDestination node host port).addressType = .domain) := by
  obtain ⟨bytes, hencode, hdecode⟩ := h.roundTrips hnode
  obtain ⟨decoded, hdecoded, htype, hhost, hport⟩ := hdecode [] []
  rw [List.nil_append, List.append_nil, List.length_nil, Nat.zero_add] at hdecoded
  obtain ⟨address, rest, rfl⟩ := exists_encode_of_ok node hdecoded
  rw [decodeSocksAddress_encode] at hdecoded
  have hfields := Prod.mk.inj (Except.ok.inj hdecoded)
  have hnil : rest = [] := by
    have hlength := hfields.2
    rw [List.length_append] at hlength
    exact List.length_eq_zero_iff.mp (by omega)
  rw [hnil, List.append_nil] at hencode
  rw [← hfields.1] at htype hhost hport
  exact ⟨address, hencode, ⟨htype, hhost, hport⟩, isDomain_iff hencode⟩

end Destinations

/-! ## Trojan -/

section Trojan

variable (node : Node) (sha224 : String → String)

/-- `Buffer.from(text, "ascii")` -/
def asciiBytes (text : String) : Bytes := text.toList.map fun c => UInt8.ofNat c.toNat

/-- `createHash("sha224").update(password).digest("hex")`, `expectedHash` of the inbound. -/
def trojanPasswordHash (password : String) : Bytes := asciiBytes (sha224 password)

def createTrojanRequest (password : String) (destination : Destination) : Except SepigsError Bytes := do
  let address ← encodeSocksAddress node destination
  pure (asciiBytes (sha224 password ++ "\r\n") ++ [0x01] ++ address ++ utf8Bytes "\r\n")

/-- `digest("hex")` gives hexadecimal digits. -/
def HexDigests : Prop :=
  ∀ password, ∀ c ∈ (sha224 password).toList, c ∈ "0123456789abcdef".toList

/-- The request is read: the passwords agree, no chunk ends after the command or after the type
of a domain, and one ends between the end of the request and the limit. -/
def TrojanArrives (client server : String) (destination : Destination) (request : Bytes)
    (maxBytes : Nat) (chunks : List Bytes) : Prop :=
  trojanPasswordHash sha224 client = trojanPasswordHash sha224 server ∧
    ¬ EndsAt chunks ((trojanPasswordHash sha224 client).length + 3) ∧
    ¬ (destination.addressType = .domain ∧
      EndsAt chunks ((trojanPasswordHash sha224 client).length + 4)) ∧
    EndsWithin chunks request.length maxBytes

variable {node sha224}

theorem HexDigests.notMem (h : HexDigests sha224) (password : String) :
    13 ∉ trojanPasswordHash sha224 password := by
  intro hmem
  obtain ⟨c, hc, hbyte⟩ := List.mem_map.mp hmem
  have hdigits : ("0123456789abcdef".toList.all fun c => UInt8.ofNat c.toNat ≠ 13) = true := by decide
  exact of_decide_eq_true (List.all_eq_true.mp hdigits c (h password c hc)) hbyte

theorem createTrojanRequest_eq {destination : Destination} {address : SocksAddress} (password : String)
    (h : encodeSocksAddress node destination = .ok address.encode) :
    createTrojanRequest node sha224 password destination =
      .ok (trojanHead (trojanPasswordHash sha224 password) address) := by
  have hline : asciiBytes (sha224 password ++ "\r\n") = trojanPasswordHash sha224 password ++ [13, 10] := by
    unfold trojanPasswordHash asciiBytes
    rw [String.toList_append, List.map_append]
    rfl
  have hend : utf8Bytes "\r\n" = [13, 10] := by decide
  unfold createTrojanRequest
  rw [h, hline, hend]
  show Except.ok _ = _
  simp [trojanHead, trojanLead]

/-- Another hash is refused, once the line is there. -/
theorem trojanAttempt_otherHash {passwordHash expectedHash : Bytes} (hhash : 13 ∉ passwordHash)
    (hne : passwordHash ≠ expectedHash) (address : SocksAddress) (payload : Bytes) :
    trojanAttempt node expectedHash (trojanHead passwordHash address ++ payload) =
      .fail (ProtocolError "Trojan password authentication failed") := by
  have hsplit : trojanHead passwordHash address ++ payload =
      passwordHash ++ 13 :: 10 :: 0x01 :: (address.encode ++ 13 :: 10 :: payload) := by
    simp [trojanHead, trojanLead]
  unfold trojanAttempt
  rw [hsplit, indexOf_crlf hhash]
  simp only [List.take_left]
  rw [if_pos hne]

/-- **A Trojan request arrives.**  What `TrojanOutbound.connect` writes, with the payload after
it and in whatever chunks, is read as its destination and its payload, or it is refused. -/
theorem trojan_request_read (hnode : BuiltIns node) (hsha224 : HexDigests sha224) {host : String} {port : Nat}
    (h : Sendable node host port) (client server : String) (maxBytes : Nat) :
    ∃ request, createTrojanRequest node sha224 client (makeDestination node host port) = .ok request ∧
      ∀ (payload : Bytes) (chunks : List Bytes), chunks.flatten = request ++ payload →
        (TrojanArrives sha224 client server (makeDestination node host port) request maxBytes chunks ∧
          ∃ destination remainder unread,
            readTrojanHandshake node (trojanPasswordHash sha224 server) maxBytes chunks =
              .resolved destination remainder unread ∧
            SameEndpoint (makeDestination node host port) destination ∧
            remainder ++ unread.flatten = payload) ∨
        (¬ TrojanArrives sha224 client server (makeDestination node host port) request maxBytes chunks ∧
          ∃ error, readTrojanHandshake node (trojanPasswordHash sha224 server) maxBytes chunks =
            .rejected error) := by
  obtain ⟨address, hencode, hsame, hdomain⟩ := h.exists_address hnode
  have hclient := hsha224.notMem client
  have hserver := hsha224.notMem server
  refine ⟨_, createTrojanRequest_eq client hencode, fun payload chunks hchunks => ?_⟩
  by_cases hhash : trojanPasswordHash sha224 client = trojanPasswordHash sha224 server
  · have hwaits := trojan_waits_iff node hclient address (hchunks ▸ List.prefix_append _ payload)
    have harrives : TrojanArrives sha224 client server (makeDestination node host port)
          (trojanHead (trojanPasswordHash sha224 client) address) maxBytes chunks ↔
        WaitsBefore (trojanAttempt node (trojanPasswordHash sha224 client))
            (trojanHead (trojanPasswordHash sha224 client) address).length chunks ∧
          EndsWithin chunks (trojanHead (trojanPasswordHash sha224 client) address).length maxBytes := by
      rw [hwaits]
      unfold TrojanArrives TrojanEarly
      rw [hdomain, not_or]
      exact ⟨fun ⟨_, hcommand, htype, hends⟩ => ⟨⟨hcommand, htype⟩, hends⟩,
        fun ⟨⟨hcommand, htype⟩, hends⟩ => ⟨hhash, hcommand, htype, hends⟩⟩
    rw [harrives, ← hhash]
    rcases (trojan_reads node hclient).resolved_or_rejected maxBytes
        (ProtocolError "Trojan request header exceeds limit") ⟨address, rfl, rfl⟩ hchunks with
      ⟨hbefore, hends, remainder, unread, hresolved, hrest⟩ | ⟨hnot, hrejected⟩
    · exact Or.inl ⟨⟨hbefore, hends⟩, _, remainder, unread, hresolved, hsame, hrest⟩
    · exact Or.inr ⟨hnot, hrejected⟩
  · right
    refine ⟨fun harrives => hhash harrives.1, ?_⟩
    have hne : chunks ≠ [] := by
      rintro rfl
      have hlength := congrArg List.length hchunks
      simp [trojanHead, trojanLead] at hlength
    have hfail := @trojanAttempt_otherHash node _ _ hclient hhash address payload
    rw [← hchunks] at hfail
    exact (trojan_reads node hserver).framed.rejected_of_fail maxBytes _ hne hfail

theorem builtIns_codecNode : BuiltIns SocksCodec.codecNode :=
  ⟨IpText.versions, SocksCodec.codecNode_utf8, fun n _ => JsString.decimalNumber_toString n⟩

theorem sendable_loopback : Sendable SocksCodec.codecNode "::1" 443 :=
  ⟨by decide, by decide, by decide +kernel, fun _ => ⟨by decide, by decide⟩⟩

/-- The digest of the empty password, for every one. -/
def emptyDigest (_ : String) : String := "d14a028c2a3a2bc9476102bb288234c415a2b01f828ea62ac5b3e42f"

/-- An IPv6 destination. -/
theorem trojan_request_read_loopback :
    ∃ request, createTrojanRequest SocksCodec.codecNode emptyDigest ""
        (makeDestination SocksCodec.codecNode "::1" 443) = .ok request ∧
      ∀ (payload : Bytes) (chunks : List Bytes), chunks.flatten = request ++ payload →
        (∃ destination remainder unread,
          readTrojanHandshake SocksCodec.codecNode (trojanPasswordHash emptyDigest "") 8192 chunks =
              .resolved destination remainder unread ∧
            remainder ++ unread.flatten = payload) ∨
        ∃ error, readTrojanHandshake SocksCodec.codecNode (trojanPasswordHash emptyDigest "") 8192 chunks =
          .rejected error := by
  have hdigits : HexDigests emptyDigest := by
    intro password
    have hall : ((emptyDigest password).toList.all fun c => c ∈ "0123456789abcdef".toList) = true := by
      show ("d14a028c2a3a2bc9476102bb288234c415a2b01f828ea62ac5b3e42f".toList.all _) = true
      decide
    exact fun c hc => of_decide_eq_true (List.all_eq_true.mp hall c hc)
  obtain ⟨request, hrequest, hread⟩ :=
    trojan_request_read builtIns_codecNode hdigits sendable_loopback "" "" 8192
  refine ⟨request, hrequest, fun payload chunks hchunks => ?_⟩
  rcases hread payload chunks hchunks with ⟨-, destination, remainder, unread, hresolved, -, hrest⟩ | ⟨-, hrejected⟩
  · exact Or.inl ⟨destination, remainder, unread, hresolved, hrest⟩
  · exact Or.inr hrejected

end Trojan

/-! ## Shadowsocks -/

section Shadowsocks

variable (node : Node) (crypto : Crypto)

/-- The stream that `ShadowsocksOutbound.connect` gives. -/
def shadowsocksConnect (context : ShadowsocksCryptoContext) (salt : Bytes) (destination : Destination) :
    Except SepigsError ShadowsocksTcpStream := do
  let prefixBytes ← encodeSocksAddress node destination
  pure (create crypto salt context prefixBytes true)

/-- `salt` is the one its first write sends. -/
def createShadowsocksServerStream (context : ShadowsocksCryptoContext) (salt : Bytes) :
    ShadowsocksTcpStream :=
  create crypto salt context [] false

/-- The plaintext of the first frame. -/
def firstFrameBytes (prefixBytes chunk : Bytes) : Nat := min 0x3fff (prefixBytes.length + chunk.length)

/-- The bytes on the wire up to the end of the first frame. -/
def firstFrameEnd (context : ShadowsocksCryptoContext) (prefixBytes chunk : Bytes) : Nat :=
  context.spec.saltLength + (2 + context.spec.authTagLength) +
    (firstFrameBytes prefixBytes chunk + context.spec.authTagLength)

/-- What `readAddress` makes of `received` when so many bytes have come: it waits for the first
frame, and has the destination then, if the frame is within the limit. -/
structure AddressArrives (maxBytes frameEnd frameBytes come : Nat) (sent : Destination) (given : Bytes)
    (received : List Bytes) : Prop where
  waits : come < frameEnd → readAddress node maxBytes received = .waiting
  refused : frameEnd ≤ come → maxBytes < frameBytes → readAddress node maxBytes received =
    .rejected (ProtocolError "Shadowsocks request header exceeds limit")
  read : frameEnd ≤ come → frameBytes ≤ maxBytes → ∃ destination remainder unread,
    readAddress node maxBytes received = .resolved destination remainder unread ∧
      SameEndpoint sent destination ∧ remainder ++ unread.flatten = given

variable {node crypto} {context : ShadowsocksCryptoContext} {salt : Bytes}

theorem length_encode_le (address : SocksAddress) : address.encode.length ≤ 259 := by
  obtain ⟨host, high, low⟩ := address
  cases host with
  | ipv4 bytes h => simp [SocksAddress.encode, SocksHost.lead, SocksHost.bytes, h]
  | domain bytes h =>
    simp only [SocksAddress.encode, SocksHost.lead, SocksHost.bytes, List.length_append, List.length_cons,
      List.length_nil]
    omega
  | ipv6 bytes h => simp [SocksAddress.encode, SocksHost.lead, SocksHost.bytes, h]

/-- Before the end of its first frame, a stream gives nothing. -/
theorem drain_beforeFrame {part : Bytes} (hsalt : salt.length = context.spec.saltLength)
    (hsmall : part.length ≤ 0x3fff)
    (hopens : Opens crypto context (sealFrame crypto context (subkey crypto salt context) zeroNonce part).length)
    {n : Nat}
    (hn : n < (salt ++ (sealFrame crypto context (subkey crypto salt context) zeroNonce part).bytes).length) :
    ((receiver crypto context).drain freshReception
      ((salt ++ (sealFrame crypto context (subkey crypto salt context) zeroNonce part).bytes).take n)).output =
        [] := by
  have hneed : (receiver crypto context).need freshReception = some salt.length := by
    rw [hsalt]
    rfl
  generalize hframe : sealFrame crypto context (subkey crypto salt context) zeroNonce part = frame at *
  by_cases hlong : salt.length ≤ n
  · obtain ⟨m, rfl⟩ := Nat.exists_eq_add_of_le hlong
    rw [List.length_append] at hn
    rw [List.take_length_add_append, drain_piece hneed]
    show ((receiver crypto context).drain (betweenFrames (subkey crypto salt context) zeroNonce)
      (frame.bytes.take m)).output = []
    unfold SealedFrame.bytes at hn ⊢
    rw [List.length_append] at hn
    have hlength := @need_length crypto context (subkey crypto salt context) zeroNonce part
    rw [hframe] at hlength
    by_cases hmore : frame.length.ciphertext.length ≤ m
    · obtain ⟨k, rfl⟩ := Nat.exists_eq_add_of_le hmore
      have htake := @take_length crypto context (subkey crypto salt context) zeroNonce part hsmall
        (hframe ▸ hopens)
      rw [hframe] at htake
      rw [List.take_length_add_append, drain_piece hlength,
        show (receiver crypto context).take (betweenFrames (subkey crypto salt context) zeroNonce) _ = _
          from htake]
      have hpayload := @need_payload crypto context (subkey crypto salt context) zeroNonce part
      rw [hframe] at hpayload
      show ((receiver crypto context).drain
        (withinFrame (subkey crypto salt context) zeroNonce part.length) _).output = []
      rw [drain_short hpayload (by rw [List.length_take]; omega)]
    · rw [drain_short hlength (by rw [List.length_take]; omega)]
  · rw [drain_short hneed (by rw [List.length_take]; omega)]

section Wire

variable {parts : List Bytes} (hsalt : salt.length = context.spec.saltLength)
  (hsizes : ∀ part ∈ parts, 1 ≤ part.length ∧ part.length ≤ 0x3fff)
  (hopens : ∀ frame ∈ sealParts crypto context (subkey crypto salt context) zeroNonce parts,
    Opens crypto context frame.length ∧ Opens crypto context frame.payload)

include hsalt hsizes hopens

/-- Part of the wire gives some of the parts. -/
theorem drain_start {bytes : Bytes}
    (h : bytes <+: salt ++ (sealParts crypto context (subkey crypto salt context) zeroNonce
      parts).flatMap SealedFrame.bytes) :
    ((receiver crypto context).drain freshReception bytes).output <+: parts := by
  obtain ⟨more, hmore⟩ := h
  have hwhole := drain_sent hsalt parts hsizes hopens
  rw [← hmore, drain_append] at hwhole
  exact ⟨_, congrArg Drained.output hwhole⟩

/-- With its first frame complete, it gives the first part first. -/
theorem drain_fromFrame {first : Bytes} {rest : List Bytes} (hparts : parts = first :: rest) {bytes : Bytes}
    (h : bytes <+: salt ++ (sealParts crypto context (subkey crypto salt context) zeroNonce
      parts).flatMap SealedFrame.bytes)
    (hlong : (salt ++ (sealFrame crypto context (subkey crypto salt context) zeroNonce first).bytes).length ≤
      bytes.length) :
    ∃ more, ((receiver crypto context).drain freshReception bytes).output = first :: more := by
  subst hparts
  have hframe : salt ++ (sealFrame crypto context (subkey crypto salt context) zeroNonce first).bytes <+:
      bytes := by
    refine List.prefix_of_prefix_length_le ?_ h hlong
    unfold sealParts
    rw [List.flatMap_cons, ← List.append_assoc]
    exact List.prefix_append _ _
  obtain ⟨more, rfl⟩ := hframe
  have hone := @drain_sent crypto context salt hsalt [first]
    (fun part hpart => hsizes part (List.mem_singleton.mp hpart ▸ List.mem_cons_self))
    (fun frame hmem => hopens frame (List.mem_singleton.mp hmem ▸ List.mem_cons_self))
  unfold sealParts sealParts at hone
  rw [List.flatMap_singleton] at hone
  rw [drain_append, hone]
  exact ⟨_, rfl⟩

end Wire

/-- A frame that starts with the address is enough. -/
theorem readAddress_frame (maxBytes : Nat) (address : SocksAddress) (payload : Bytes) (more : List Bytes) :
    readAddress node maxBytes ((address.encode ++ payload) :: more) =
      if maxBytes < (address.encode ++ payload).length then
        .rejected (ProtocolError "Shadowsocks request header exceeds limit")
      else .resolved (address.destination node) payload more := by
  unfold readAddress accumulate limited
  rw [List.nil_append]
  by_cases h : maxBytes < (address.encode ++ payload).length
  · rw [if_pos h, if_pos h]
  · rw [if_neg h, if_neg h, (shadowsocks_reads node).attempt_append ⟨address, rfl, rfl⟩ payload]
    simp only []
    rw [List.drop_left]

/-- The address is in the first part. -/
theorem writtenParts_first (address : SocksAddress) (chunk : Bytes) (chunks : List Bytes) :
    ∃ payload rest, writtenParts address.encode (chunk :: chunks) = (address.encode ++ payload) :: rest ∧
      (address.encode ++ payload).length = firstFrameBytes address.encode chunk := by
  have hle := length_encode_le address
  have hpos := List.length_pos_iff.mpr (encode_ne_nil address)
  refine ⟨chunk.take (0x3fff - address.encode.length),
    payloadParts ((address.encode ++ chunk).drop 0x3fff) ++ chunks.flatMap payloadParts, ?_, ?_⟩
  · have hfirst : (address.encode ++ chunk).take 0x3fff =
        address.encode ++ chunk.take (0x3fff - address.encode.length) := by
      rw [List.take_append, List.take_of_length_le (by omega)]
    have hsome : ¬ (address.encode ++ chunk).length = 0 := by
      rw [List.length_append]
      omega
    rw [← hfirst]
    show payloadParts (address.encode ++ chunk) ++ _ = _
    rw [payloadParts, if_neg hsome]
    rfl
  · unfold firstFrameBytes
    rw [List.length_append, List.length_take]
    omega

theorem length_firstFrame (hsalt : salt.length = context.spec.saltLength) (key part : Bytes) :
    (salt ++ (sealFrame crypto context key zeroNonce part).bytes).length =
      context.spec.saltLength + (2 + context.spec.authTagLength) +
        (part.length + context.spec.authTagLength) := by
  have hlength : (sealFrame crypto context key zeroNonce part).length.ciphertext.length =
      2 + context.spec.authTagLength := length_aeadEncrypt crypto context key zeroNonce _
  have hpayload : (sealFrame crypto context key zeroNonce part).payload.ciphertext.length =
      part.length + context.spec.authTagLength := length_aeadEncrypt crypto context key _ part
  unfold SealedFrame.bytes
  rw [List.length_append, List.length_append, hlength, hpayload, hsalt]
  omega

/-- Some of the wire, and what the server makes of it. -/
theorem address_arrives {parts more segments : List Bytes} {address : SocksAddress} {payload : Bytes}
    (hsalt : salt.length = context.spec.saltLength)
    (hsizes : ∀ part ∈ parts, 1 ≤ part.length ∧ part.length ≤ 0x3fff)
    (hopens : ∀ frame ∈ sealParts crypto context (subkey crypto salt context) zeroNonce parts,
      Opens crypto context frame.length ∧ Opens crypto context frame.payload)
    (hparts : parts = (address.encode ++ payload) :: more)
    (h : segments.flatten <+: salt ++ (sealParts crypto context (subkey crypto salt context) zeroNonce
      parts).flatMap SealedFrame.bytes)
    {sent : Destination} (hsame : SameEndpoint sent (address.destination node)) (maxBytes : Nat)
    {received : List Bytes} (hreceived : received = ((receiver crypto context).drain freshReception
      segments.flatten).output) :
    AddressArrives node maxBytes
      (salt ++ (sealFrame crypto context (subkey crypto salt context) zeroNonce
        (address.encode ++ payload)).bytes).length
      (address.encode ++ payload).length segments.flatten.length sent
      (received.flatten.drop address.encode.length) received where
  waits hshort := by
    subst hparts
    have hframe : segments.flatten = (salt ++ (sealFrame crypto context (subkey crypto salt context) zeroNonce
        (address.encode ++ payload)).bytes).take segments.flatten.length := by
      refine List.prefix_iff_eq_take.mp (List.prefix_of_prefix_length_le h ?_ (by omega))
      unfold sealParts
      rw [List.flatMap_cons, ← List.append_assoc]
      exact List.prefix_append _ _
    have hnothing := drain_beforeFrame hsalt (hsizes _ List.mem_cons_self).2
      (hopens _ List.mem_cons_self).1 hshort
    rw [← hframe, ← hreceived] at hnothing
    rw [hnothing]
    rfl
  refused hlong hlimit := by
    obtain ⟨rest, hrest⟩ := drain_fromFrame hsalt hsizes hopens hparts h hlong
    rw [hreceived, hrest, readAddress_frame, if_pos hlimit]
  read hlong hlimit := by
    obtain ⟨rest, hrest⟩ := drain_fromFrame hsalt hsizes hopens hparts h hlong
    refine ⟨address.destination node, payload, rest, ?_, hsame, ?_⟩
    · rw [hreceived, hrest, readAddress_frame, if_neg (by omega)]
    · rw [hreceived, hrest, List.flatten_cons, List.append_assoc, List.drop_left]

/-- What is read from some of what was given is the start of it. -/
theorem readAddress_start {maxBytes : Nat} {address : SocksAddress} {given : Bytes} {received : List Bytes}
    (hstart : received.flatten <+: address.encode ++ given) {destination : Destination} {remainder : Bytes}
    {unread : List Bytes} (h : readAddress node maxBytes received = .resolved destination remainder unread) :
    destination = address.destination node ∧ address.encode ++ (remainder ++ unread.flatten) = received.flatten := by
  have hframed := (shadowsocks_reads node).framed
  obtain ⟨consumed, hdone, hrest⟩ := hframed.remainder maxBytes _ h
  have hwhole := hframed.of_start hstart hdone
  rw [(shadowsocks_reads node).attempt_append ⟨address, rfl, rfl⟩ given] at hwhole
  cases hwhole
  have hle := hframed.consumed_le _ _ _ hdone
  have hhead : address.encode <+: received.flatten :=
    List.prefix_of_prefix_length_le (List.prefix_append _ given) hstart hle
  obtain ⟨payload, hpayload⟩ := hhead
  rw [hrest, ← hpayload, List.drop_left]
  exact ⟨rfl, rfl⟩

/-- **A Shadowsocks request arrives.**  The address that `ShadowsocksOutbound.connect` sends with
the first write is in one frame: the server has it once that frame has come, however the bytes
are cut, unless its own limit is below the frame.  With an AEAD that opens only what was sealed,
no other address is ever read and nothing but the start of what was written is passed on. -/
theorem shadowsocks_request_read (hnode : BuiltIns node) {host : String} {port : Nat}
    (h : Sendable node host port) (method : ShadowsocksCipher) (password : String)
    (hcontext : context = createShadowsocksCryptoContext crypto method password)
    (hsalt : salt.length = (CIPHERS method).saltLength) (chunk : Bytes) (chunks : List Bytes)
    (serverSalt : Bytes) (maxBytes : Nat) :
    ∃ prefixBytes stream, encodeSocksAddress node (makeDestination node host port) = .ok prefixBytes ∧
      shadowsocksConnect node crypto context salt (makeDestination node host port) = .ok stream ∧
      ((∀ key nonce plaintext,
          aeadDecrypt crypto context key nonce (aeadEncrypt crypto context key nonce plaintext) = .ok plaintext) →
        ∀ segments : List Bytes,
          segments.flatten <+: (stream.writeAll crypto salt (chunk :: chunks)).sent.flatten →
          ∃ given, given <+: (chunk :: chunks).flatten ∧
            (segments.flatten = (stream.writeAll crypto salt (chunk :: chunks)).sent.flatten →
              given = (chunk :: chunks).flatten) ∧
            AddressArrives node maxBytes (firstFrameEnd context prefixBytes chunk)
              (firstFrameBytes prefixBytes chunk) segments.flatten.length (makeDestination node host port) given
              ((createShadowsocksServerStream crypto context serverSalt).receiveAll crypto segments).pushed) ∧
      (OpensOnly crypto context (stream.writeAll crypto salt (chunk :: chunks)).sealedEntries →
        (stream.writeAll crypto salt (chunk :: chunks)).frames.length < 2 ^ 95 →
        ∀ (segments : List Bytes) (destination : Destination) (remainder : Bytes) (unread : List Bytes),
          readAddress node maxBytes
              ((createShadowsocksServerStream crypto context serverSalt).receiveAll crypto segments).pushed =
            .resolved destination remainder unread →
          SameEndpoint (makeDestination node host port) destination ∧
            remainder ++ unread.flatten <+: (chunk :: chunks).flatten) := by
  obtain ⟨address, hencode, hsame, -⟩ := h.exists_address hnode
  have hspec : salt.length = context.spec.saltLength := by
    rw [hsalt, hcontext]
    rfl
  have hconnect : shadowsocksConnect node crypto context salt (makeDestination node host port) =
      .ok (create crypto salt context address.encode true) := by
    unfold shadowsocksConnect
    rw [hencode]
    rfl
  refine ⟨_, _, hencode, hconnect, fun hinverse segments hsegments => ?_, fun hideal hfew segments => ?_⟩
  · obtain ⟨hsends, hsent⟩ := writeAll_create crypto salt context address.encode true (List.cons_ne_nil chunk chunks)
    rw [hsent, hsends.frames] at hsegments
    rw [hsent, hsends.frames]
    have hsizes := @writtenParts_size address.encode (chunk :: chunks)
    obtain ⟨payload, rest, hparts, hlength⟩ := writtenParts_first address chunk chunks
    have hopens := opens_of_inverse crypto hinverse (subkey crypto salt context)
      (writtenParts address.encode (chunk :: chunks))
    have hflatten := @writtenParts_flatten address.encode (chunk :: chunks) (List.cons_ne_nil chunk chunks)
    have hreceived : ((createShadowsocksServerStream crypto context serverSalt).receiveAll crypto
        segments).pushed = ((receiver crypto context).drain freshReception segments.flatten).output :=
      (create_receives serverSalt context [] false segments).2.1
    generalize ((createShadowsocksServerStream crypto context serverSalt).receiveAll crypto
      segments).pushed = received at hreceived ⊢
    have hstart := drain_start hspec hsizes hopens hsegments
    rw [← hreceived] at hstart
    refine ⟨received.flatten.drop address.encode.length, ?_, fun hwhole => ?_, ?_⟩
    · have hgiven : received.flatten <+: address.encode ++ (chunk :: chunks).flatten := by
        rw [← hflatten]
        obtain ⟨tail, htail⟩ := hstart
        rw [← htail, List.flatten_append]
        exact List.prefix_append _ _
      have hdrop := hgiven.drop address.encode.length
      rwa [List.drop_left] at hdrop
    · rw [hwhole, drain_sent hspec _ hsizes hopens] at hreceived
      rw [hreceived, hflatten, List.drop_left]
    · have harrives : AddressArrives node _ _ _ _ _ _ _ :=
        address_arrives hspec hsizes hopens hparts hsegments hsame maxBytes hreceived
      rw [length_firstFrame hspec, hlength] at harrives
      exact harrives
  · have hstart := @received_upTo crypto context salt address.encode true (chunk :: chunks) serverSalt []
      false (List.cons_ne_nil chunk chunks) hideal hfew segments
    intro destination remainder unread hread
    obtain ⟨rfl, hrest⟩ := readAddress_start hstart hread
    refine ⟨hsame, ?_⟩
    have hstart' : address.encode ++ (remainder ++ unread.flatten) <+: address.encode ++ (chunk :: chunks).flatten := by
      rw [hrest]
      exact hstart
    exact (List.prefix_append_right_inj _).mp hstart'

/-- Only one frame opens. -/
def loneFrameCrypto (part : Bytes) : Crypto :=
  plainCrypto fun key nonce text => key = [] ∧
    ((nonce = zeroNonce ∧ text = writeUInt16BE part.length) ∨ (nonce = incrementNonce zeroNonce ∧ text = part))

theorem loneFrame_opensOnly {part prefixBytes : Bytes} {writes : List Bytes} (hwrites : writes ≠ [])
    (hparts : writtenParts prefixBytes writes = [part]) (context : ShadowsocksCryptoContext) (salt : Bytes) :
    OpensOnly (loneFrameCrypto part) context
      (sender (loneFrameCrypto part) context salt prefixBytes true writes).sealedEntries := by
  intro key nonce ciphertext plaintext hopened
  obtain ⟨hciphertext, hallows⟩ := (plain_opens_iff _ _ _ _ _ _).mp hopened
  obtain ⟨rfl, hentry⟩ := of_decide_eq_true hallows
  unfold sealedEntries
  rw [sender_frames _ hwrites, hparts, hciphertext]
  rcases hentry with ⟨rfl, rfl⟩ | ⟨rfl, rfl⟩
  · exact List.mem_cons_self
  · exact List.mem_cons_of_mem _ List.mem_cons_self

/-- A destination and one byte: sent to a server that opens everything, and to one that opens
this frame only. -/
theorem shadowsocks_request_read_loopback :
    (∃ stream, shadowsocksConnect SocksCodec.codecNode (plainCrypto fun _ _ _ => true)
        (createShadowsocksCryptoContext (plainCrypto fun _ _ _ => true) .aes128gcm "") (List.replicate 16 0)
        (makeDestination SocksCodec.codecNode "::1" 443) = .ok stream ∧
      ∀ segments : List Bytes,
        segments.flatten = (stream.writeAll (plainCrypto fun _ _ _ => true) (List.replicate 16 0) [[7]]).sent.flatten →
        ∃ frameEnd frameBytes, AddressArrives SocksCodec.codecNode 8192 frameEnd frameBytes segments.flatten.length
          (makeDestination SocksCodec.codecNode "::1" 443) [7]
          ((createShadowsocksServerStream (plainCrypto fun _ _ _ => true)
            (createShadowsocksCryptoContext (plainCrypto fun _ _ _ => true) .aes128gcm "")
            (List.replicate 16 1)).receiveAll (plainCrypto fun _ _ _ => true) segments).pushed) ∧
    ∃ part : Bytes, ∀ (segments : List Bytes) (destination : Destination) (remainder : Bytes) (unread : List Bytes),
      readAddress SocksCodec.codecNode 8192
          ((createShadowsocksServerStream (loneFrameCrypto part)
            (createShadowsocksCryptoContext (loneFrameCrypto part) .aes128gcm "")
            (List.replicate 16 1)).receiveAll (loneFrameCrypto part) segments).pushed =
        .resolved destination remainder unread → remainder ++ unread.flatten <+: [7] := by
  constructor
  · obtain ⟨prefixBytes, stream, -, hstream, harrives, -⟩ := @shadowsocks_request_read
      SocksCodec.codecNode (plainCrypto fun _ _ _ => true) _ (List.replicate 16 0) builtIns_codecNode _ _
      sendable_loopback .aes128gcm "" rfl rfl [7] [] (List.replicate 16 1) 8192
    refine ⟨stream, hstream, fun segments hsegments => ?_⟩
    obtain ⟨given, -, hwhole, hread⟩ := harrives
      (fun key nonce plaintext => (plain_opens_iff _ _ _ _ _ _).mpr ⟨rfl, rfl⟩) segments
      (hsegments ▸ List.prefix_refl _)
    obtain rfl : given = [7] := hwhole hsegments
    exact ⟨_, _, hread⟩
  · obtain ⟨address, hencode, -⟩ := sendable_loopback.exists_address builtIns_codecNode
    have hparts : writtenParts address.encode [[7]] = [address.encode ++ [7]] := by
      have hle := length_encode_le address
      have hshort : (address.encode ++ [7]).length ≤ 0x3fff := by
        rw [List.length_append]
        have hone : ([7] : Bytes).length = 1 := rfl
        omega
      show payloadParts (address.encode ++ [7]) ++ [] = _
      rw [List.append_nil, payloadParts, if_neg (by simp), List.take_of_length_le hshort,
        List.drop_eq_nil_of_le hshort, payloadParts]
      rfl
    refine ⟨address.encode ++ [7], fun segments destination remainder unread hread => ?_⟩
    obtain ⟨prefixBytes, stream, -, hstream, -, hsafe⟩ := @shadowsocks_request_read
      SocksCodec.codecNode (loneFrameCrypto (address.encode ++ [7])) _ (List.replicate 16 0) builtIns_codecNode _ _
      sendable_loopback .aes128gcm "" rfl rfl [7] [] (List.replicate 16 1) 8192
    obtain rfl : create (loneFrameCrypto (address.encode ++ [7])) (List.replicate 16 0)
        (createShadowsocksCryptoContext (loneFrameCrypto (address.encode ++ [7])) .aes128gcm "") address.encode
        true = stream := by
      unfold shadowsocksConnect at hstream
      rw [hencode] at hstream
      exact Except.ok.inj hstream
    refine (hsafe (loneFrame_opensOnly (by decide) hparts _ _) ?_ segments destination remainder unread hread).2
    have hframes := @sender_frames (loneFrameCrypto (address.encode ++ [7]))
      (createShadowsocksCryptoContext (loneFrameCrypto (address.encode ++ [7])) .aes128gcm "")
      (List.replicate 16 0) address.encode true [[7]] (by decide)
    have hcount := congrArg List.length hframes
    rw [length_sealParts, hparts] at hcount
    show (sender _ _ _ _ _ _).frames.length < _
    rw [hcount]
    exact Nat.one_lt_two_pow (by decide)

end Shadowsocks

end Sepigs
