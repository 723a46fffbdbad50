import Sepigs.Inbound.Http

/-!
# The bytes of a CONNECT tunnel

`readUntil` returns all that came together with the end of the head.  Only what the
socket still holds reaches the remote; what follows the head in the same delivery is in
`bodyRemainder`, which the tunnel does not use.
-/

namespace Sepigs

/-- A head: it ends with the first terminator. -/
structure IsHead (head : Bytes) : Prop where
  ends : Buffer.indexOf headerTerminator head = some (head.length - 4)

theorem IsHead.length {head : Bytes} (h : IsHead head) : 4 ≤ head.length := by
  have hle := Buffer.indexOf_le h.ends
  have hlength : headerTerminator.length = 4 := rfl
  omega

/-- What `readUntil` has read when it returns: some deliveries, the last of which brought
the terminator. -/
theorem readUntil_head {client : ClientSocket} {maxBytes : Nat} {raw : Bytes}
    {reader : BufferedSocketReader}
    (h : (BufferedSocketReader.create client maxBytes).readUntil
      (fun buffer => (Buffer.indexOf headerTerminator buffer).isSome) = .ok (raw, reader)) :
    ∃ added, (BufferedSocketReader.create client maxBytes).deliveries = added ++ reader.deliveries ∧
      raw = added.flatten ∧ reader.buffer = [] ∧ (Buffer.indexOf headerTerminator raw).isSome ∧
      ∀ k, k < added.length → Buffer.indexOf headerTerminator (added.take k).flatten = none := by
  unfold BufferedSocketReader.readUntil at h
  cases hpull : (BufferedSocketReader.create client maxBytes).pullUntil
      fun buffer => (Buffer.indexOf headerTerminator buffer).isSome with
  | error error =>
    rw [hpull] at h
    cases h
  | ok next =>
    rw [hpull] at h
    cases h
    obtain ⟨added, hpulled, hready, hbefore⟩ :=
      BufferedSocketReader.pullUntil_spec _ (Nat.le_refl _) hpull
    refine ⟨added, hpulled.deliveries, hpulled.buffer, rfl, hready, fun k hk => ?_⟩
    have hnone := hbefore k hk
    rwa [Option.isSome_eq_false_iff, Option.isNone_iff_eq_none] at hnone

/-- The tunnel loses nothing exactly when a delivery ends where the head ends. -/
theorem delivered_iff {client : ClientSocket} {maxBytes : Nat} {raw head payload : Bytes}
    {reader : BufferedSocketReader}
    (h : (BufferedSocketReader.create client maxBytes).readUntil
      (fun buffer => (Buffer.indexOf headerTerminator buffer).isSome) = .ok (raw, reader))
    (hhead : IsHead head) (hcontent : client.unread = head ++ payload) :
    ∃ extra, raw = head ++ extra ∧ payload = extra ++ reader.socket.unread ∧
      (extra = [] ↔
        ∃ k, ((BufferedSocketReader.create client maxBytes).deliveries.take k).flatten = head) := by
  obtain ⟨added, hdeliveries, hraw, -, hready, hbefore⟩ := readUntil_head h
  obtain ⟨i, hi⟩ := Option.isSome_iff_exists.mp hready
  have hall : raw ++ reader.socket.unread = head ++ payload := by
    rw [← hcontent, hraw, ← BufferedSocketReader.deliveries_flatten reader, ← List.flatten_append,
      ← hdeliveries]
    exact BufferedSocketReader.deliveries_flatten _
  have hfirst : some i = some (head.length - 4) := by
    rw [← Buffer.indexOf_append hi reader.socket.unread, hall, Buffer.indexOf_append hhead.ends payload]
  have hlength := hhead.length
  have hle := Buffer.indexOf_le hi
  have hterminator : headerTerminator.length = 4 := rfl
  cases hfirst
  have hraw' : raw <+: head ++ payload := ⟨reader.socket.unread, hall⟩
  obtain ⟨extra, hextra⟩ : head <+: raw :=
    List.prefix_of_prefix_length_le (List.prefix_append head payload) hraw' (by omega)
  refine ⟨extra, hextra.symm, ?_, ?_⟩
  · rw [← hextra, List.append_assoc] at hall
    exact (List.append_cancel_left hall).symm
  · constructor
    · rintro rfl
      refine ⟨added.length, ?_⟩
      rw [hdeliveries, List.take_left, ← hraw, ← hextra, List.append_nil]
    · rintro ⟨k, hk⟩
      -- the deliveries up to there already hold the terminator
      have hlong : added.length ≤ k := by
        by_contra hlt
        have hnone := hbefore k (by omega)
        rw [hdeliveries, List.take_append_of_le_length (by omega)] at hk
        rw [hk, hhead.ends] at hnone
        cases hnone
      rw [hdeliveries, List.take_append, List.take_of_length_le hlong, List.flatten_append, ← hraw,
        ← hextra, List.append_assoc] at hk
      have hnil := List.append_right_eq_self.mp hk
      exact (List.append_eq_nil_iff.mp hnil).1

/-- The head decides what is parsed; what follows it is the body. -/
theorem parseHttpRequest_append {head : Bytes} {parsed : ParsedHttpRequest} (extra : Bytes)
    (hhead : IsHead head) (h : parseHttpRequest head = .ok parsed) :
    parseHttpRequest (head ++ extra) = .ok { parsed with bodyRemainder := extra } := by
  have hlength := hhead.length
  unfold parseHttpRequest at h ⊢
  rw [hhead.ends] at h
  rw [Buffer.indexOf_append hhead.ends extra]
  simp only [] at h ⊢
  rw [List.take_append_of_le_length (by omega)]
  rw [show head.length - 4 + 4 = head.length by omega] at h ⊢
  rw [List.drop_left]
  revert h
  cases (Buffer.split ['\r', '\n'] (latin1 (head.take (head.length - 4))).toList).map String.ofList with
  | nil =>
    intro h
    cases h
  | cons requestLine headers =>
    simp only []
    split
    · split
      · intro h
        cases h
        rfl
      · intro h
        cases h
    · intro h
      cases h

theorem not_established_failed (error : SepigsError) : .markEstablished ∉ failed error := by
  simp [failed, sendHttpError]

section Tunnel

variable (node : Node) (world : HttpWorld)

/-- A tunnel passes on what the reader gave back and what is left in the socket. -/
theorem bytesToRemote_handleConnect {parsed : ParsedHttpRequest} {extraData : Bytes} {client : ClientSocket}
    (h : .markEstablished ∈ handleConnect node world parsed extraData client) :
    bytesToRemote (handleConnect node world parsed extraData client) = extraData ++ client.unread := by
  unfold handleConnect at h ⊢
  cases hauthority : parseAuthority node parsed.target 443 with
  | error error =>
    rw [hauthority] at h
    exact absurd h (not_established_failed error)
  | ok destination =>
    rw [hauthority] at h
    simp only [] at h ⊢
    cases hopen : world.openTcp destination with
    | error error =>
      rw [hopen] at h
      simp [openFailed, sendHttpError] at h
    | ok remote =>
      rw [hopen] at h
      simp only [] at h ⊢
      cases hwrite : world.write "HTTP/1.1 200 Connection Established\r\n\r\n" with
      | error error =>
        rw [hwrite] at h
        simp [failed, sendHttpError] at h
      | ok written =>
        by_cases hextra : 0 < extraData.length
        · simp [bytesToRemote, hextra]
        · have hnil : extraData = [] := List.length_eq_zero_iff.mp (by omega)
          simp [bytesToRemote, hnil]

/-- **A CONNECT tunnel loses what came with its head.**  Whenever a tunnel is established,
the remote gets exactly the bytes after the head if, and only if, one of the deliveries
ends where the head ends. -/
theorem tunnel_bytes_iff (config : HttpInboundConfig) (client : ClientSocket) (head payload : Bytes)
    (parsed : ParsedHttpRequest) (hcontent : client.unread = head ++ payload) (hhead : IsHead head)
    (hparsed : parseHttpRequest head = .ok parsed) (hconnect : node.toUpperCase parsed.method = "CONNECT")
    (hestablished : .markEstablished ∈ handleConnection node world config client) :
    bytesToRemote (handleConnection node world config client) = payload ↔
      ∃ k, ((BufferedSocketReader.create client config.maxHeaderBytes).deliveries.take k).flatten = head := by
  unfold handleConnection at hestablished ⊢
  cases haccepted : world.accepted with
  | false =>
    rw [haccepted] at hestablished
    simp [sendHttpError] at hestablished
  | true =>
    rw [haccepted] at hestablished
    simp only [if_true] at hestablished ⊢
    cases hread : (BufferedSocketReader.create client config.maxHeaderBytes).readUntil
        fun buffer => (Buffer.indexOf headerTerminator buffer).isSome with
    | error error =>
      rw [hread] at hestablished
      exact absurd hestablished (not_established_failed error)
    | ok result =>
      obtain ⟨raw, reader⟩ := result
      rw [hread] at hestablished
      obtain ⟨extra, hraw, hpayload, hiff⟩ := delivered_iff hread hhead hcontent
      obtain ⟨-, -, -, hbuffer, -⟩ := readUntil_head hread
      simp only [handleHead, hraw, parseHttpRequest_append extra hhead hparsed] at hestablished ⊢
      cases hauth : isAuthorized node { parsed with bodyRemainder := extra } config.auth with
      | false =>
        rw [hauth] at hestablished
        simp [sendHttpAuthRequired] at hestablished
      | true =>
        rw [hauth] at hestablished
        simp only [hconnect, if_true, BufferedSocketReader.releaseRemainder, hbuffer] at hestablished ⊢
        rw [bytesToRemote_handleConnect node world hestablished, List.nil_append, ← hiff, hpayload]
        constructor
        · intro h
          exact List.append_left_eq_self.mp h.symm
        · rintro rfl
          rfl

end Tunnel

/-- The world where everything is granted. -/
def grantingWorld : HttpWorld where
  accepted := true
  openTcp _ := .ok ()
  write _ := .ok ()

/-- A byte that comes with the head: the tunnel is established and the byte is lost. -/
theorem tunnel_byte_lost :
    ∃ (node : Node) (world : HttpWorld) (config : HttpInboundConfig) (client : ClientSocket)
      (head payload : Bytes) (parsed : ParsedHttpRequest),
      client.unread = head ++ payload ∧ IsHead head ∧ parseHttpRequest head = .ok parsed ∧
        node.toUpperCase parsed.method = "CONNECT" ∧
        client.unread.length ≤ config.maxHeaderBytes ∧
        .markEstablished ∈ handleConnection node world config client ∧
        bytesToRemote (handleConnection node world config client) ≠ payload := by
  refine ⟨asciiNode, grantingWorld, ⟨none, 8192⟩,
    ⟨[latin1Bytes "CONNECT a.test:443 HTTP/1.1\r\n\r\n" ++ [7]], [], ProtocolError "ended"⟩,
    latin1Bytes "CONNECT a.test:443 HTTP/1.1\r\n\r\n", [7],
    ⟨"CONNECT", "a.test:443", "HTTP/1.1", [], []⟩, ?_, ⟨?_⟩, rfl, ?_, ?_, ?_, ?_⟩
  · decide +kernel
  · decide +kernel
  · decide +kernel
  · decide +kernel
  · decide +kernel
  · decide +kernel

/-- The byte comes later: it is passed on. -/
theorem tunnel_bytes_iff_later :
    bytesToRemote (handleConnection asciiNode grantingWorld ⟨none, 8192⟩
      ⟨[latin1Bytes "CONNECT a.test:443 HTTP/1.1\r\n\r\n"], [[], [[7]]], ProtocolError "ended"⟩) = [7] :=
  (tunnel_bytes_iff asciiNode grantingWorld ⟨none, 8192⟩ _
    (latin1Bytes "CONNECT a.test:443 HTTP/1.1\r\n\r\n") [7] ⟨"CONNECT", "a.test:443", "HTTP/1.1", [], []⟩
    (by decide +kernel) ⟨by decide +kernel⟩ rfl (by decide +kernel) (by decide +kernel)).mpr
      ⟨1, by decide +kernel⟩

end Sepigs
