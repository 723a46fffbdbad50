import Sepigs.Lib.JsString
import Sepigs.Utils.BufferedSocketReader

/-!
# Destinations and SOCKS addresses (`protocol/types.ts`, `protocol/address.ts`)

What the protocols take from Node is a parameter: `net.isIP`, decoding a buffer as UTF-8
or from base64, `Number`, the case mappings and the URL parser.
-/

namespace Sepigs

structure Url where
  protocol : String
  hostname : String
  port : String
  pathname : String
  search : String
deriving DecidableEq, Repr

/-- `number` is `Number(text)` where that is an integer; `url` is `new URL(text)` where that
does not throw. -/
structure Node where
  isIP : String → Nat
  utf8 : Bytes → String
  base64 : String → Bytes
  number : String → Option Int
  toLowerCase : String → String
  toUpperCase : String → String
  url : String → Option Url

/-- The built-ins on ASCII text that holds no IP address, no base64 and no URL. -/
def asciiNode : Node where
  isIP _ := 0
  utf8 bytes := String.ofList (bytes.map fun b => Char.ofNat b.toNat)
  base64 _ := []
  number := JsString.decimalNumber
  toLowerCase := String.toLower
  toUpperCase := String.toUpper
  url _ := none

inductive AddressType
  | domain
  | ipv4
  | ipv6
deriving DecidableEq, Repr

structure Destination where
  host : String
  port : Nat
  addressType : AddressType
deriving DecidableEq, Repr

/-- `Buffer.from(text)` -/
def utf8Bytes (text : String) : Bytes := text.toByteArray.data.toList

/-- The comparison of credentials, the same in `inbound/http.ts` and `inbound/socks5.ts`. -/
def safeEqual (left right : String) : Bool := utf8Bytes left = utf8Bytes right

variable (node : Node)

def detectAddressType (host : String) : AddressType :=
  match node.isIP host with
  | 4 => .ipv4
  | 6 => .ipv6
  | _ => .domain

def makeDestination (host : String) (port : Nat) : Destination :=
  { host := host, port := port, addressType := detectAddressType node host }

/-- `(high << 8) + low` -/
def uint16 (high low : UInt8) : Nat := (high.toNat <<< 8) + low.toNat

/-- `n.toString(16)` -/
def toHex (n : Nat) : String := String.ofList (Nat.toDigits 16 n)

/-- `bytes.join(".")` -/
def dottedBytes (bytes : Bytes) : String := JsString.join (bytes.map fun b => toString b.toNat) '.'

/-- The groups of two bytes; a last byte alone has a zero after it. -/
def ipv6Groups : Bytes → List String
  | [] => []
  | [high] => [toHex (uint16 high 0)]
  | high :: low :: bytes => toHex (uint16 high low) :: ipv6Groups bytes

def readPort (buffer : Bytes) (offset : Nat) : Except SepigsError Nat :=
  match buffer[offset]?, buffer[offset + 1]? with
  | some high, some low => .ok (uint16 high low)
  | _, _ => .error (ProtocolError "missing SOCKS address port")

/-- The destination of a host and the port that follows it. -/
def destinationAt (host : String) (buffer : Bytes) (addressEnd : Nat) :
    Except SepigsError (Destination × Nat) :=
  (readPort buffer addressEnd).map fun port => (makeDestination node host port, addressEnd + 2)

def decodeSocksAddress (buffer : Bytes) (offset : Nat) : Except SepigsError (Destination × Nat) :=
  match buffer[offset]? with
  | none => .error (ProtocolError "missing SOCKS address type")
  | some addressType =>
    if addressType = 0x01 then
      let addressEnd := offset + 5
      if buffer.length < addressEnd + 2 then .error (ProtocolError "truncated IPv4 SOCKS address")
      else destinationAt node (dottedBytes ((buffer.take addressEnd).drop (offset + 1))) buffer addressEnd
    else if addressType = 0x03 then
      match buffer[offset + 1]? with
      | none => .error (ProtocolError "invalid domain SOCKS address length")
      | some length =>
        if length = 0 then .error (ProtocolError "invalid domain SOCKS address length")
        else
          let hostStart := offset + 2
          let hostEnd := hostStart + length.toNat
          if buffer.length < hostEnd + 2 then .error (ProtocolError "truncated domain SOCKS address")
          else destinationAt node (node.utf8 ((buffer.take hostEnd).drop hostStart)) buffer hostEnd
    else if addressType = 0x04 then
      let addressEnd := offset + 17
      if buffer.length < addressEnd + 2 then .error (ProtocolError "truncated IPv6 SOCKS address")
      else
        let groups := ipv6Groups ((buffer.take addressEnd).drop (offset + 1))
        destinationAt node (JsString.join groups ':') buffer addressEnd
    else .error (ProtocolError s!"unsupported SOCKS address type {addressType.toNat}")

/-! ## The addresses that are meant -/

/-- The host of a SOCKS address on the wire. -/
inductive SocksHost where
  | ipv4 (bytes : Bytes) (h : bytes.length = 4)
  | domain (bytes : Bytes) (h : 0 < bytes.length ∧ bytes.length ≤ 255)
  | ipv6 (bytes : Bytes) (h : bytes.length = 16)

structure SocksAddress where
  host : SocksHost
  high : UInt8
  low : UInt8

namespace SocksHost

/-- The type, and the length of a domain. -/
def lead : SocksHost → Bytes
  | ipv4 _ _ => [0x01]
  | domain bytes _ => [0x03, UInt8.ofNat bytes.length]
  | ipv6 _ _ => [0x04]

def bytes : SocksHost → Bytes
  | ipv4 bytes _ => bytes
  | domain bytes _ => bytes
  | ipv6 bytes _ => bytes

def text : SocksHost → String
  | ipv4 bytes _ => dottedBytes bytes
  | domain bytes _ => node.utf8 bytes
  | ipv6 bytes _ => JsString.join (ipv6Groups bytes) ':'

def isDomain : SocksHost → Bool
  | domain _ _ => true
  | _ => false

end SocksHost

namespace SocksAddress

def encode (address : SocksAddress) : Bytes :=
  address.host.lead ++ (address.host.bytes ++ [address.high, address.low])

def destination (address : SocksAddress) : Destination :=
  makeDestination node (address.host.text node) (uint16 address.high address.low)

end SocksAddress

theorem toNat_ofNat_of_le {n : Nat} (h : n ≤ 255) : (UInt8.ofNat n).toNat = n := by
  rw [UInt8.toNat_ofNat']
  omega

theorem destinationAt_append (host : String) (before rest : Bytes) (high low : UInt8) :
    destinationAt node host (before ++ high :: low :: rest) before.length =
      .ok (makeDestination node host (uint16 high low), before.length + 2) := by
  have hhigh : (before ++ high :: low :: rest)[before.length]? = some high := by simp
  have hlow : (before ++ high :: low :: rest)[before.length + 1]? = some low := by
    rw [List.getElem?_append_right (by omega)]
    simp
  unfold destinationAt readPort
  rw [hhigh, hlow]
  rfl

/-- Reading the fields of an address whose ends are known. -/
theorem fields_append (text : Bytes → String) (lead bytes rest : Bytes) (high low : UInt8)
    (start stop : Nat) (hstart : lead.length = start) (hstop : lead.length + bytes.length = stop) :
    ¬ (lead ++ (bytes ++ high :: low :: rest)).length < stop + 2 ∧
      destinationAt node (text (((lead ++ (bytes ++ high :: low :: rest)).take stop).drop start))
          (lead ++ (bytes ++ high :: low :: rest)) stop =
        .ok (makeDestination node (text bytes) (uint16 high low), stop + 2) := by
  subst hstart
  subst hstop
  constructor
  · simp only [List.length_append, List.length_cons]
    omega
  · have hfield : ((lead ++ (bytes ++ high :: low :: rest)).take (lead.length + bytes.length)).drop
        lead.length = bytes := by
      rw [← List.append_assoc, ← List.length_append, List.take_left, List.drop_left]
    rw [hfield, ← List.append_assoc, ← List.length_append]
    exact destinationAt_append node (text bytes) (lead ++ bytes) rest high low

/-- An address is decoded from its bytes, whatever follows them. -/
theorem decodeSocksAddress_encode (address : SocksAddress) (rest : Bytes) :
    decodeSocksAddress node (address.encode ++ rest) 0 =
      .ok (address.destination node, address.encode.length) := by
  obtain ⟨host, high, low⟩ := address
  have hsplit : SocksAddress.encode ⟨host, high, low⟩ ++ rest =
      host.lead ++ (host.bytes ++ high :: low :: rest) := by
    simp [SocksAddress.encode]
  rw [hsplit]
  cases host with
  | ipv4 bytes h =>
    have hlength : (SocksAddress.encode ⟨.ipv4 bytes h, high, low⟩).length = 7 := by
      simp [SocksAddress.encode, SocksHost.lead, SocksHost.bytes, h]
    obtain ⟨hlong, hfields⟩ := fields_append node dottedBytes [0x01] bytes rest high low 1 5 rfl
      (by simp [h])
    rw [hlength]
    show decodeSocksAddress node ([0x01] ++ (bytes ++ high :: low :: rest)) 0 = _
    show (if _ < 5 + 2 then _ else _) = _
    rw [if_neg hlong]
    exact hfields
  | domain bytes h =>
    have hlength : (SocksAddress.encode ⟨.domain bytes h, high, low⟩).length = 2 + bytes.length + 2 := by
      simp [SocksAddress.encode, SocksHost.lead, SocksHost.bytes]
      omega
    have hcount := toNat_ofNat_of_le h.2
    have hne : UInt8.ofNat bytes.length ≠ 0 := by
      intro hzero
      rw [hzero] at hcount
      have hz : (0 : UInt8).toNat = 0 := rfl
      omega
    obtain ⟨hlong, hfields⟩ := fields_append node node.utf8 [0x03, UInt8.ofNat bytes.length] bytes rest
      high low 2 (2 + bytes.length) rfl rfl
    rw [hlength]
    show decodeSocksAddress node
      ([0x03, UInt8.ofNat bytes.length] ++ (bytes ++ high :: low :: rest)) 0 = _
    show (if UInt8.ofNat bytes.length = 0 then _ else
      if _ < 0 + 2 + (UInt8.ofNat bytes.length).toNat + 2 then _ else _) = _
    rw [if_neg hne, hcount, Nat.zero_add, if_neg hlong]
    exact hfields
  | ipv6 bytes h =>
    have hlength : (SocksAddress.encode ⟨.ipv6 bytes h, high, low⟩).length = 19 := by
      simp [SocksAddress.encode, SocksHost.lead, SocksHost.bytes, h]
    obtain ⟨hlong, hfields⟩ := fields_append node (fun bytes => JsString.join (ipv6Groups bytes) ':')
      [0x04] bytes rest high low 1 17 rfl (by simp [h])
    rw [hlength]
    show decodeSocksAddress node ([0x04] ++ (bytes ++ high :: low :: rest)) 0 = _
    show (if _ < 17 + 2 then _ else _) = _
    rw [if_neg hlong]
    exact hfields

theorem exists_field (bytes : Bytes) {n : Nat} (h : n + 2 ≤ bytes.length) :
    ∃ field high low rest, bytes = field ++ high :: low :: rest ∧ field.length = n := by
  have hlength : (bytes.drop n).length = bytes.length - n := List.length_drop
  match hdrop : bytes.drop n with
  | [] =>
    rw [hdrop, List.length_nil] at hlength
    omega
  | [high] =>
    rw [hdrop, List.length_singleton] at hlength
    omega
  | high :: low :: rest =>
    refine ⟨bytes.take n, high, low, rest, ?_, List.length_take_of_le (by omega)⟩
    rw [← hdrop, List.take_append_drop]

/-- Only addresses are decoded. -/
theorem exists_encode_of_ok {bytes : Bytes} {result : Destination × Nat}
    (h : decodeSocksAddress node bytes 0 = .ok result) :
    ∃ (address : SocksAddress) (rest : Bytes), bytes = address.encode ++ rest := by
  cases bytes with
  | nil => cases h
  | cons addressType bytes =>
    unfold decodeSocksAddress at h
    simp only [List.getElem?_cons_zero, List.length_cons] at h
    split at h
    · next htype =>
      split at h
      · cases h
      · next hlong =>
        obtain ⟨field, high, low, rest, rfl, hfield⟩ := exists_field bytes (n := 4) (by omega)
        refine ⟨⟨.ipv4 field hfield, high, low⟩, rest, ?_⟩
        simp [SocksAddress.encode, SocksHost.lead, SocksHost.bytes, htype]
    · split at h
      · next htype =>
        cases bytes with
        | nil => cases h
        | cons length bytes =>
          simp only [Nat.zero_add, List.getElem?_cons_succ, List.getElem?_cons_zero, List.length_cons] at h
          split at h
          · cases h
          · next hne =>
            split at h
            · cases h
            · next hlong =>
              obtain ⟨field, high, low, rest, rfl, hfield⟩ :=
                exists_field bytes (n := length.toNat) (by omega)
              have hpos : 0 < length.toNat := by
                refine Nat.pos_of_ne_zero fun hzero => hne ?_
                exact UInt8.toNat_inj.mp hzero
              have hlt := length.toNat_lt
              refine ⟨⟨.domain field ⟨by omega, by omega⟩, high, low⟩, rest, ?_⟩
              simp [SocksAddress.encode, SocksHost.lead, SocksHost.bytes, htype, hfield]
      · split at h
        · next htype =>
          split at h
          · cases h
          · next hlong =>
            obtain ⟨field, high, low, rest, rfl, hfield⟩ := exists_field bytes (n := 16) (by omega)
            refine ⟨⟨.ipv6 field hfield, high, low⟩, rest, ?_⟩
            simp [SocksAddress.encode, SocksHost.lead, SocksHost.bytes, htype]
        · cases h

/-! ## A part of an address -/

/-- The errors that the handshakes take for "not yet". -/
def isTruncated (error : SepigsError) : Bool :=
  errorCode error = "PROTOCOL_ERROR" && JsString.startsWith error.message "truncated"

/-- A proper part of an address is taken for an address to come, but for two lengths. -/
theorem decodeSocksAddress_take (address : SocksAddress) {n : Nat} (h : n < address.encode.length) :
    ∃ error, decodeSocksAddress node (address.encode.take n) 0 = .error error ∧
      (isTruncated error = true ↔ n ≠ 0 ∧ ¬ (n = 1 ∧ address.host.isDomain = true)) := by
  obtain ⟨host, high, low⟩ := address
  cases n with
  | zero =>
    refine ⟨_, rfl, ?_⟩
    have htruncated : isTruncated (ProtocolError "missing SOCKS address type") = false := by decide +kernel
    simp [htruncated]
  | succ n =>
    cases host with
    | ipv4 bytes hbytes =>
      have hlength : n + 1 < 7 := by
        simpa [SocksAddress.encode, SocksHost.lead, SocksHost.bytes, hbytes] using h
      refine ⟨ProtocolError "truncated IPv4 SOCKS address", ?_, ?_⟩
      · show decodeSocksAddress node (0x01 :: (bytes ++ [high, low]).take n) 0 = _
        show (if _ < 5 + 2 then _ else _) = _
        rw [if_pos]
        simp only [List.length_cons, List.length_take]
        omega
      · have htruncated : isTruncated (ProtocolError "truncated IPv4 SOCKS address") = true := by decide +kernel
        simp [htruncated, SocksHost.isDomain]
    | domain bytes hbytes =>
      have hlength : n + 1 < 2 + bytes.length + 2 := by
        have hlt := h
        simp [SocksAddress.encode, SocksHost.lead, SocksHost.bytes] at hlt
        omega
      cases n with
      | zero =>
        refine ⟨_, rfl, ?_⟩
        have htruncated : isTruncated (ProtocolError "invalid domain SOCKS address length") = false := by
          decide +kernel
        simp [htruncated, SocksHost.isDomain]
      | succ n =>
        have hcount := toNat_ofNat_of_le hbytes.2
        have hne : UInt8.ofNat bytes.length ≠ 0 := by
          intro hzero
          rw [hzero] at hcount
          have hz : (0 : UInt8).toNat = 0 := rfl
          omega
        refine ⟨ProtocolError "truncated domain SOCKS address", ?_, ?_⟩
        · show decodeSocksAddress node
            (0x03 :: UInt8.ofNat bytes.length :: (bytes ++ [high, low]).take n) 0 = _
          show (if UInt8.ofNat bytes.length = 0 then _ else
            if _ < 0 + 2 + (UInt8.ofNat bytes.length).toNat + 2 then _ else _) = _
          rw [if_neg hne, hcount, if_pos]
          simp only [List.length_cons, List.length_take]
          omega
        · have htruncated : isTruncated (ProtocolError "truncated domain SOCKS address") = true := by
            decide +kernel
          simp [htruncated]
    | ipv6 bytes hbytes =>
      have hlength : n + 1 < 19 := by
        simpa [SocksAddress.encode, SocksHost.lead, SocksHost.bytes, hbytes] using h
      refine ⟨ProtocolError "truncated IPv6 SOCKS address", ?_, ?_⟩
      · show decodeSocksAddress node (0x04 :: (bytes ++ [high, low]).take n) 0 = _
        show (if _ < 17 + 2 then _ else _) = _
        rw [if_pos]
        simp only [List.length_cons, List.length_take]
        omega
      · have htruncated : isTruncated (ProtocolError "truncated IPv6 SOCKS address") = true := by decide +kernel
        simp [htruncated, SocksHost.isDomain]

/-! ## Decoding further on -/

theorem getElem?_append_length (before bytes : Bytes) (k : Nat) :
    (before ++ bytes)[before.length + k]? = bytes[k]? := by
  rw [List.getElem?_append_right (by omega), Nat.add_sub_cancel_left]

theorem drop_take_append (before bytes : Bytes) (start stop : Nat) :
    ((before ++ bytes).take (before.length + stop)).drop (before.length + start) =
      (bytes.take stop).drop start := by
  rw [List.take_append, List.take_of_length_le (by omega), Nat.add_sub_cancel_left, List.drop_append,
    List.drop_of_length_le (by omega), Nat.add_sub_cancel_left, List.nil_append]

theorem destinationAt_append_left (host : String) (before bytes : Bytes) (offset : Nat) :
    destinationAt node host (before ++ bytes) (before.length + offset) =
      (destinationAt node host bytes offset).map fun result => (result.1, before.length + result.2) := by
  unfold destinationAt readPort
  rw [Nat.add_assoc before.length offset 1, getElem?_append_length, getElem?_append_length]
  cases bytes[offset]? with
  | none => rfl
  | some high =>
    cases bytes[offset + 1]? with
    | none => rfl
    | some low => rfl

theorem decodeSocksAddress_append (before bytes : Bytes) :
    decodeSocksAddress node (before ++ bytes) before.length =
      (decodeSocksAddress node bytes 0).map fun result => (result.1, before.length + result.2) := by
  have hshort (k : Nat) : (before ++ bytes).length < before.length + k + 2 ↔ bytes.length < 0 + k + 2 := by
    rw [List.length_append]
    omega
  have htype : (before ++ bytes)[before.length]? = bytes[0]? := getElem?_append_length before bytes 0
  unfold decodeSocksAddress
  rw [htype, getElem?_append_length before bytes 1]
  cases bytes[0]? with
  | none => rfl
  | some addressType =>
    simp only []
    by_cases h1 : addressType = 0x01
    · simp only [if_pos h1]
      by_cases hlong : bytes.length < 0 + 5 + 2
      · rw [if_pos ((hshort 5).mpr hlong), if_pos hlong]
        rfl
      · rw [if_neg (mt (hshort 5).mp hlong), if_neg hlong, drop_take_append, destinationAt_append_left]
    · simp only [if_neg h1]
      by_cases h3 : addressType = 0x03
      · simp only [if_pos h3, Nat.zero_add]
        cases bytes[1]? with
        | none => rfl
        | some length =>
          simp only []
          by_cases hzero : length = 0
          · simp only [if_pos hzero]
            rfl
          · simp only [if_neg hzero, Nat.add_assoc before.length 2]
            have hshort' := hshort (2 + length.toNat)
            rw [Nat.zero_add] at hshort'
            by_cases hlong : bytes.length < 2 + length.toNat + 2
            · rw [if_pos (hshort'.mpr hlong), if_pos hlong]
              rfl
            · rw [if_neg (mt hshort'.mp hlong), if_neg hlong, drop_take_append, destinationAt_append_left]
      · simp only [if_neg h3]
        by_cases h4 : addressType = 0x04
        · simp only [if_pos h4]
          by_cases hlong : bytes.length < 0 + 17 + 2
          · rw [if_pos ((hshort 17).mpr hlong), if_pos hlong]
            rfl
          · rw [if_neg (mt (hshort 17).mp hlong), if_neg hlong, drop_take_append, destinationAt_append_left]
        · simp only [if_neg h4]
          rfl

end Sepigs
