import Sepigs.Lib.Accumulate
import Sepigs.Lib.Buffer
import Sepigs.Protocol.Address

/-!
# The handshakes of the Trojan and Shadowsocks inbounds (`inbound/trojan.ts`, `inbound/shadowsocks.ts`)

Both try to read a destination from all that has come, each time a chunk comes, and take
an error whose text starts with "truncated" for "not yet".
-/

namespace Sepigs

open Accumulate

variable (node : Node)

/-- What one `data` event makes of all the bytes so far in `readTrojanHandshake`. -/
def trojanAttempt (expectedHash data : Bytes) : Attempt SepigsError Destination :=
  match Buffer.indexOf [13, 10] data with
  | none => .wait
  | some lineEnd =>
    let passwordHash := data.take lineEnd
    if passwordHash ≠ expectedHash then .fail (ProtocolError "Trojan password authentication failed")
    else
      let commandOffset := lineEnd + 2
      match data[commandOffset]? with
      | none => .wait
      | some command =>
        if command ≠ 0x01 then .fail (ProtocolError s!"Trojan command {command.toNat} is unsupported")
        else
          match decodeSocksAddress node data (commandOffset + 1) with
          | .error error => if isTruncated error then .wait else .fail error
          | .ok (destination, offset) =>
            if data.length < offset + 2 then .wait
            else if data[offset]? ≠ some 0x0d ∨ data[offset + 1]? ≠ some 0x0a then
              .fail (ProtocolError "Trojan request terminator is invalid")
            else .done destination (offset + 2)

/-- The promise of `readTrojanHandshake` after these chunks, without timeout or socket error. -/
def readTrojanHandshake (expectedHash : Bytes) (maxBytes : Nat) (chunks : List Bytes) :
    Reading SepigsError Destination UInt8 :=
  accumulate (limited maxBytes (ProtocolError "Trojan request header exceeds limit")
    (trojanAttempt node expectedHash)) [] chunks

/-- What one `data` event makes of all the bytes so far in `readAddress`. -/
def shadowsocksAttempt (data : Bytes) : Attempt SepigsError Destination :=
  match decodeSocksAddress node data 0 with
  | .error error => if isTruncated error then .wait else .fail error
  | .ok (destination, offset) => .done destination offset

/-- The promise of `readAddress` after these chunks, without timeout or stream error. -/
def readAddress (maxBytes : Nat) (chunks : List Bytes) : Reading SepigsError Destination UInt8 :=
  accumulate (limited maxBytes (ProtocolError "Shadowsocks request header exceeds limit")
    (shadowsocksAttempt node)) [] chunks

/-! ## Heads -/

/-- The bytes before the address of a Trojan request. -/
def trojanLead (passwordHash : Bytes) : Bytes := passwordHash ++ [13, 10, 0x01]

/-- Password hash, CRLF, the command CONNECT, address and port, CRLF. -/
def trojanHead (passwordHash : Bytes) (address : SocksAddress) : Bytes :=
  trojanLead passwordHash ++ (address.encode ++ [13, 10])

theorem encode_ne_nil (address : SocksAddress) : address.encode ≠ [] := by
  unfold SocksAddress.encode
  simp

theorem shadowsocks_reads :
    Reads (shadowsocksAttempt node)
      fun head destination => ∃ address : SocksAddress, head = address.encode ∧
        destination = address.destination node where
  nonempty := by
    rintro head value ⟨address, rfl, -⟩
    exact encode_ne_nil address
  done_iff := by
    intro data value consumed
    constructor
    · intro h
      unfold shadowsocksAttempt at h
      cases hdecode : decodeSocksAddress node data 0 with
      | error error =>
        rw [hdecode] at h
        simp only [] at h
        split at h <;> cases h
      | ok result =>
        obtain ⟨address, rest, rfl⟩ := exists_encode_of_ok node hdecode
        rw [decodeSocksAddress_encode] at h
        cases h
        exact ⟨_, ⟨address, rfl, rfl⟩, List.prefix_append _ _, rfl⟩
    · rintro ⟨head, ⟨address, rfl, rfl⟩, ⟨rest, rfl⟩, rfl⟩
      unfold shadowsocksAttempt
      rw [decodeSocksAddress_encode]

/-- A part of an address waits, but for two lengths. -/
theorem shadowsocksAttempt_take (address : SocksAddress) {n : Nat} (h : n < address.encode.length) :
    shadowsocksAttempt node (address.encode.take n) = .wait ↔
      n ≠ 0 ∧ ¬ (n = 1 ∧ address.host.isDomain = true) := by
  obtain ⟨error, hdecode, htruncated⟩ := decodeSocksAddress_take node address h
  unfold shadowsocksAttempt
  rw [hdecode, ← htruncated]
  simp only []
  split
  · next hyes => simp [hyes]
  · next hno => simp [hno]

theorem indexOf_crlf {passwordHash : Bytes} (hhash : 13 ∉ passwordHash) (rest : Bytes) :
    Buffer.indexOf [13, 10] (passwordHash ++ 13 :: 10 :: rest) = some passwordHash.length := by
  induction passwordHash with
  | nil => exact Buffer.indexOf_eq_zero (List.prefix_append [13, 10] rest)
  | cons b passwordHash ih =>
    have hb : (13 : UInt8) ≠ b := fun heq => hhash (heq ▸ List.mem_cons_self)
    have hnot : ¬ [13, 10] <+: b :: (passwordHash ++ 13 :: 10 :: rest) := by
      intro hstart
      exact hb (List.cons_prefix_cons.mp hstart).1
    rw [List.cons_append, Buffer.indexOf_cons hnot, ih fun hmem => hhash (List.mem_cons_of_mem b hmem)]
    rfl

theorem indexOf_trojanLead {passwordHash : Bytes} (hhash : 13 ∉ passwordHash) (rest : Bytes) :
    Buffer.indexOf [13, 10] (trojanLead passwordHash ++ rest) = some passwordHash.length := by
  have hsplit : trojanLead passwordHash ++ rest = passwordHash ++ 13 :: 10 :: 0x01 :: rest := by
    simp [trojanLead]
  rw [hsplit]
  exact indexOf_crlf hhash _

theorem length_trojanLead (passwordHash : Bytes) :
    (trojanLead passwordHash).length = passwordHash.length + 3 := by
  simp [trojanLead]

/-- With the right hash and command, the address decides. -/
theorem trojanAttempt_lead {passwordHash : Bytes} (hhash : 13 ∉ passwordHash) (rest : Bytes) :
    trojanAttempt node passwordHash (trojanLead passwordHash ++ rest) =
      match decodeSocksAddress node rest 0 with
      | .error error => if isTruncated error then .wait else .fail error
      | .ok (destination, offset) =>
        if rest.length < offset + 2 then .wait
        else if rest[offset]? ≠ some 0x0d ∨ rest[offset + 1]? ≠ some 0x0a then
          .fail (ProtocolError "Trojan request terminator is invalid")
        else .done destination ((trojanLead passwordHash).length + offset + 2) := by
  have hlength := length_trojanLead passwordHash
  have htake : (trojanLead passwordHash ++ rest).take passwordHash.length = passwordHash := by
    simp [trojanLead]
  have hcommand : (trojanLead passwordHash ++ rest)[passwordHash.length + 2]? = some 0x01 := by
    simp [trojanLead]
  unfold trojanAttempt
  rw [indexOf_trojanLead hhash]
  simp only [htake, hcommand, ne_eq, not_true_eq_false, if_false]
  rw [show passwordHash.length + 2 + 1 = (trojanLead passwordHash).length by omega, decodeSocksAddress_append]
  cases decodeSocksAddress node rest 0 with
  | error error => rfl
  | ok result =>
    obtain ⟨destination, offset⟩ := result
    simp only [Except.map]
    rw [Nat.add_assoc (trojanLead passwordHash).length offset 1, getElem?_append_length,
      getElem?_append_length, List.length_append]
    by_cases hshort : rest.length < offset + 2
    · rw [if_pos (by omega), if_pos hshort]
    · rw [if_neg (by omega), if_neg hshort]

/-- Only a request with the hash, the command and an address is read. -/
theorem exists_head_of_done {passwordHash data : Bytes} {destination : Destination} {consumed : Nat}
    (h : trojanAttempt node passwordHash data = .done destination consumed) :
    ∃ rest, data = trojanLead passwordHash ++ rest := by
  unfold trojanAttempt at h
  cases hline : Buffer.indexOf [13, 10] data with
  | none =>
    rw [hline] at h
    cases h
  | some lineEnd =>
    rw [hline] at h
    simp only [] at h
    split at h
    · cases h
    · next hhash =>
      rw [ne_eq, Decidable.not_not] at hhash
      have hsplit := Buffer.indexOf_spec hline
      rw [hhash] at hsplit
      have hle := Buffer.indexOf_le hline
      have hlength : passwordHash.length = lineEnd := by
        rw [← hhash, List.length_take]
        omega
      rw [← hlength] at h hsplit
      rcases hcommand : data[passwordHash.length + 2]? with _ | command
      · rw [hcommand] at h
        cases h
      · rw [hcommand] at h
        simp only [] at h
        split at h
        · cases h
        · next hone =>
          rw [ne_eq, Decidable.not_not] at hone
          have hdrop : data.drop (passwordHash.length + 2) = 0x01 :: data.drop (passwordHash.length + 3) := by
            obtain ⟨hlt, hget⟩ := List.getElem?_eq_some_iff.mp hcommand
            rw [List.drop_eq_getElem_cons hlt, hget, hone]
          refine ⟨data.drop (passwordHash.length + 3), hsplit.trans ?_⟩
          show passwordHash ++ [13, 10] ++ data.drop (passwordHash.length + 2) = _
          rw [hdrop]
          simp [trojanLead]

theorem trojan_reads {passwordHash : Bytes} (hhash : 13 ∉ passwordHash) :
    Reads (trojanAttempt node passwordHash)
      fun head destination => ∃ address : SocksAddress, head = trojanHead passwordHash address ∧
        destination = address.destination node where
  nonempty := by
    rintro head value ⟨address, rfl, -⟩
    simp [trojanHead]
  done_iff := by
    intro data value consumed
    constructor
    · intro h
      obtain ⟨rest, rfl⟩ := exists_head_of_done node h
      rw [trojanAttempt_lead node hhash] at h
      cases hdecode : decodeSocksAddress node rest 0 with
      | error error =>
        rw [hdecode] at h
        simp only [] at h
        split at h <;> cases h
      | ok result =>
        obtain ⟨address, more, rfl⟩ := exists_encode_of_ok node hdecode
        rw [decodeSocksAddress_encode] at h
        simp only [] at h
        split at h
        · cases h
        · split at h
          · cases h
          · next hshort hcrlf =>
            cases h
            rw [not_or, ne_eq, ne_eq, Decidable.not_not, Decidable.not_not] at hcrlf
            have hcr : more[0]? = some 13 := by
              rw [← getElem?_append_length address.encode more 0]
              exact hcrlf.1
            have hlf : more[1]? = some 10 := by
              rw [← getElem?_append_length address.encode more 1]
              exact hcrlf.2
            obtain ⟨payload, rfl⟩ : ∃ payload, more = 13 :: 10 :: payload := by
              match more with
              | [] => cases hcr
              | [b] => cases hlf
              | cr :: lf :: payload =>
                cases hcr
                cases hlf
                exact ⟨payload, rfl⟩
            refine ⟨_, ⟨address, rfl, rfl⟩, ⟨payload, ?_⟩, ?_⟩
            · simp [trojanHead]
            · simp only [trojanHead, List.length_append, List.length_cons, List.length_nil]
              omega
    · rintro ⟨head, ⟨address, rfl, rfl⟩, ⟨payload, rfl⟩, rfl⟩
      have hsplit : trojanHead passwordHash address ++ payload =
          trojanLead passwordHash ++ (address.encode ++ 13 :: 10 :: payload) := by
        simp [trojanHead]
      have hlength : ¬ (address.encode ++ 13 :: 10 :: payload).length < address.encode.length + 2 := by
        simp only [List.length_append, List.length_cons]
        omega
      have hcr : (address.encode ++ 13 :: 10 :: payload)[address.encode.length]? = some 13 :=
        getElem?_append_length address.encode (13 :: 10 :: payload) 0
      have hlf : (address.encode ++ 13 :: 10 :: payload)[address.encode.length + 1]? = some 10 :=
        getElem?_append_length address.encode (13 :: 10 :: payload) 1
      rw [hsplit, trojanAttempt_lead node hhash, decodeSocksAddress_encode]
      simp only [hcr, hlf]
      rw [if_neg hlength, if_neg (by simp)]
      simp only [trojanHead, List.length_append, List.length_cons, List.length_nil, Nat.add_assoc]

/-- A part of a Trojan request waits, but for two lengths: after the command, and after the
type of a domain. -/
theorem trojanAttempt_take {passwordHash : Bytes} (hhash : 13 ∉ passwordHash) (address : SocksAddress)
    {n : Nat} (h : n < (trojanHead passwordHash address).length) :
    trojanAttempt node passwordHash ((trojanHead passwordHash address).take n) = .wait ↔
      n ≠ passwordHash.length + 3 ∧ ¬ (n = passwordHash.length + 4 ∧ address.host.isDomain = true) := by
  have hlead := length_trojanLead passwordHash
  by_cases hn : n < (trojanLead passwordHash).length
  · have hwait : trojanAttempt node passwordHash ((trojanHead passwordHash address).take n) = .wait := by
      have hstart : (trojanHead passwordHash address).take n = (trojanLead passwordHash).take n :=
        List.take_append_of_le_length (by omega)
      rw [hstart]
      unfold trojanAttempt
      cases hline : Buffer.indexOf [13, 10] ((trojanLead passwordHash).take n) with
      | none => rfl
      | some lineEnd =>
        have hle := Buffer.indexOf_le hline
        have hmore := Buffer.indexOf_append hline ((trojanLead passwordHash).drop n)
        rw [List.take_append_drop, ← List.append_nil (trojanLead passwordHash), indexOf_trojanLead hhash] at hmore
        cases hmore
        have hcrlf : ([13, 10] : Bytes).length = 2 := rfl
        rw [List.length_take] at hle
        have htake : ((trojanLead passwordHash).take n).take passwordHash.length = passwordHash := by
          rw [List.take_take, Nat.min_eq_left (by omega)]
          simp [trojanLead]
        have hnone : ((trojanLead passwordHash).take n)[passwordHash.length + 2]? = none := by
          refine List.getElem?_eq_none ?_
          rw [List.length_take]
          omega
        simp only [htake, hnone, ne_eq, not_true_eq_false, if_false]
    have hleft : n ≠ passwordHash.length + 3 := by omega
    have hright : n ≠ passwordHash.length + 4 := by omega
    simp [hwait, hleft, hright]
  · obtain ⟨m, rfl⟩ : ∃ m, n = (trojanLead passwordHash).length + m := ⟨_, (Nat.add_sub_cancel' (by omega)).symm⟩
    have hm : m < address.encode.length + 2 := by
      simp only [trojanHead, List.length_append, List.length_cons, List.length_nil] at h
      omega
    have hstart : (trojanHead passwordHash address).take ((trojanLead passwordHash).length + m) =
        trojanLead passwordHash ++ (address.encode ++ [13, 10]).take m := by
      rw [trojanHead, List.take_append, List.take_of_length_le (by omega), Nat.add_sub_cancel_left]
    have hzero : (trojanLead passwordHash).length + m = passwordHash.length + 3 ↔ m = 0 := by omega
    have hone : (trojanLead passwordHash).length + m = passwordHash.length + 4 ↔ m = 1 := by omega
    rw [hstart, trojanAttempt_lead node hhash, ne_eq, hzero, hone]
    by_cases hpart : m < address.encode.length
    · obtain ⟨error, hdecode, htruncated⟩ := decodeSocksAddress_take node address hpart
      rw [List.take_append_of_le_length (by omega), hdecode, ← ne_eq, ← htruncated]
      simp only []
      split
      · next hyes => simp [hyes]
      · next hno => simp [hno]
    · -- the address is there, its CRLF not yet
      have hlong : 2 ≤ address.encode.length := by
        unfold SocksAddress.encode
        simp only [List.length_append, List.length_cons, List.length_nil]
        omega
      have hshort : ((address.encode ++ [13, 10]).take m).length < address.encode.length + 2 := by
        rw [List.length_take]
        omega
      have hsplit : (address.encode ++ [13, 10]).take m =
          address.encode ++ ([13, 10] : Bytes).take (m - address.encode.length) := by
        rw [List.take_append, List.take_of_length_le (by omega)]
      rw [hsplit] at hshort ⊢
      rw [decodeSocksAddress_encode]
      simp only [if_pos hshort, true_iff]
      exact ⟨by omega, fun hlast => by omega⟩

/-! ## Every split -/

/-- A chunk ends after so many bytes. -/
def EndsAt (chunks : List Bytes) (n : Nat) : Prop := ∃ k, 0 < k ∧ (upTo chunks k).length = n

/-- A chunk ends after the command of a Trojan request, or after the type of its domain. -/
def TrojanEarly (passwordHash : Bytes) (address : SocksAddress) (chunks : List Bytes) : Prop :=
  EndsAt chunks (passwordHash.length + 3) ∨
    (address.host.isDomain = true ∧ EndsAt chunks (passwordHash.length + 4))

/-- The first chunk is the type of a domain. -/
def ShadowsocksEarly (address : SocksAddress) (chunks : List Bytes) : Prop :=
  address.host.isDomain = true ∧ EndsAt chunks 1

theorem upTo_eq_take {head : Bytes} {chunks : List Bytes} (hstart : head <+: chunks.flatten) {k : Nat}
    (h : (upTo chunks k).length < head.length) : upTo chunks k = head.take (upTo chunks k).length := by
  have hpart : upTo chunks k <+: head :=
    List.prefix_of_prefix_length_le (upTo_start chunks k) hstart (by omega)
  exact List.prefix_iff_eq_take.mp hpart

theorem length_encode (address : SocksAddress) : 4 ≤ address.encode.length := by
  obtain ⟨host, high, low⟩ := address
  cases host with
  | ipv4 bytes h => simp [SocksAddress.encode, SocksHost.lead, SocksHost.bytes, h]
  | domain bytes h =>
    simp [SocksAddress.encode, SocksHost.lead, SocksHost.bytes]
  | ipv6 bytes h => simp [SocksAddress.encode, SocksHost.lead, SocksHost.bytes, h]

theorem trojan_waits_iff {passwordHash : Bytes} (hhash : 13 ∉ passwordHash) (address : SocksAddress)
    {chunks : List Bytes} (hstart : trojanHead passwordHash address <+: chunks.flatten) :
    WaitsBefore (trojanAttempt node passwordHash) (trojanHead passwordHash address).length chunks ↔
      ¬ TrojanEarly passwordHash address chunks := by
  have hlead := length_trojanLead passwordHash
  have hencode := length_encode address
  have hlength : (trojanHead passwordHash address).length =
      passwordHash.length + 3 + (address.encode.length + 2) := by
    simp [trojanHead, hlead]
  constructor
  · rintro hwaits (⟨k, hk, hends⟩ | ⟨hdomain, k, hk, hends⟩)
    · have hlt : (upTo chunks k).length < (trojanHead passwordHash address).length := by omega
      have hwait := hwaits k hk hlt
      rw [upTo_eq_take hstart hlt, trojanAttempt_take node hhash address hlt] at hwait
      exact hwait.1 hends
    · have hlt : (upTo chunks k).length < (trojanHead passwordHash address).length := by omega
      have hwait := hwaits k hk hlt
      rw [upTo_eq_take hstart hlt, trojanAttempt_take node hhash address hlt] at hwait
      exact hwait.2 ⟨hends, hdomain⟩
  · intro hearly k hk hlt
    rw [upTo_eq_take hstart hlt, trojanAttempt_take node hhash address hlt]
    refine ⟨fun hends => hearly (Or.inl ⟨k, hk, hends⟩), ?_⟩
    rintro ⟨hends, hdomain⟩
    exact hearly (Or.inr ⟨hdomain, k, hk, hends⟩)

theorem shadowsocks_waits_iff (address : SocksAddress) {chunks : List Bytes}
    (hstart : address.encode <+: chunks.flatten) (hchunks : ∀ chunk ∈ chunks, chunk ≠ []) :
    WaitsBefore (shadowsocksAttempt node) address.encode.length chunks ↔
      ¬ ShadowsocksEarly address chunks := by
  have hencode := length_encode address
  constructor
  · rintro hwaits ⟨hdomain, k, hk, hends⟩
    have hlt : (upTo chunks k).length < address.encode.length := by omega
    have hwait := hwaits k hk hlt
    rw [upTo_eq_take hstart hlt, shadowsocksAttempt_take node address hlt] at hwait
    exact hwait.2 ⟨hends, hdomain⟩
  · intro hearly k hk hlt
    rw [upTo_eq_take hstart hlt, shadowsocksAttempt_take node address hlt]
    refine ⟨?_, ?_⟩
    · intro hzero
      cases chunks with
      | nil =>
        have hle := hstart.length_le
        rw [List.flatten_nil, List.length_nil] at hle
        omega
      | cons chunk chunks =>
        have hone := length_upTo_mono (chunk :: chunks) (show 1 ≤ k by omega)
        have hfirst : upTo (chunk :: chunks) 1 = chunk := by simp [upTo]
        rw [hfirst, hzero] at hone
        exact hchunks chunk List.mem_cons_self (List.length_eq_zero_iff.mp (by omega))
    · rintro ⟨hends, hdomain⟩
      exact hearly ⟨hdomain, k, hk, hends⟩

/-- **The handshakes and the split into chunks.**  A complete request within the limit is
read from the chunks as it is from one, except when a chunk ends at one of the places
where an address to come is taken for a wrong one.  A sequence that one chunk refuses is
refused in any split; beyond the limit, unless a request is complete before it. -/
theorem handshakes_segmentation_iff {passwordHash : Bytes} (hhash : 13 ∉ passwordHash) (maxBytes : Nat)
    (chunks : List Bytes) (hne : chunks ≠ []) (hchunks : ∀ chunk ∈ chunks, chunk ≠ []) :
    ((∀ (address : SocksAddress) (payload : Bytes),
        chunks.flatten = trojanHead passwordHash address ++ payload → chunks.flatten.length ≤ maxBytes →
        readTrojanHandshake node passwordHash maxBytes [chunks.flatten] =
            .resolved (address.destination node) payload [] ∧
          ((∃ remainder unread, readTrojanHandshake node passwordHash maxBytes chunks =
              .resolved (address.destination node) remainder unread ∧
              remainder ++ unread.flatten = payload) ↔
            ¬ TrojanEarly passwordHash address chunks)) ∧
      ((∃ error, readTrojanHandshake node passwordHash maxBytes [chunks.flatten] = .rejected error) →
        ((∃ error, readTrojanHandshake node passwordHash maxBytes chunks = .rejected error) ↔
          chunks.flatten.length ≤ maxBytes ∨
            ¬ ∃ (address : SocksAddress) (k : Nat), trojanHead passwordHash address <+: upTo chunks k ∧
              (upTo chunks k).length ≤ maxBytes ∧ ¬ TrojanEarly passwordHash address chunks))) ∧
    ((∀ (address : SocksAddress) (payload : Bytes),
        chunks.flatten = address.encode ++ payload → chunks.flatten.length ≤ maxBytes →
        readAddress node maxBytes [chunks.flatten] = .resolved (address.destination node) payload [] ∧
          ((∃ remainder unread, readAddress node maxBytes chunks =
              .resolved (address.destination node) remainder unread ∧
              remainder ++ unread.flatten = payload) ↔
            ¬ ShadowsocksEarly address chunks)) ∧
      ((∃ error, readAddress node maxBytes [chunks.flatten] = .rejected error) →
        ((∃ error, readAddress node maxBytes chunks = .rejected error) ↔
          chunks.flatten.length ≤ maxBytes ∨
            ¬ ∃ (address : SocksAddress) (k : Nat), address.encode <+: upTo chunks k ∧
              (upTo chunks k).length ≤ maxBytes ∧ ¬ ShadowsocksEarly address chunks))) := by
  have htrojan := trojan_reads node hhash
  have hshadowsocks := shadowsocks_reads node
  refine ⟨⟨?_, ?_⟩, ?_, ?_⟩
  · intro address payload hwhole hlimit
    rw [hwhole] at hlimit
    rw [← trojan_waits_iff node hhash address (hwhole ▸ List.prefix_append _ _)]
    refine ⟨?_, htrojan.resolved_iff maxBytes _ ⟨address, rfl, rfl⟩ hwhole hlimit⟩
    rw [hwhole]
    exact htrojan.accumulate_singleton maxBytes _ ⟨address, rfl, rfl⟩ hlimit
  · rintro ⟨error, hone⟩
    by_cases hlimit : chunks.flatten.length ≤ maxBytes
    · simp only [hlimit, true_or, iff_true]
      exact htrojan.rejected maxBytes _ hne hone hlimit
    · simp only [hlimit, false_or]
      refine (htrojan.rejected_iff maxBytes _ hne (by omega)).trans (not_congr ⟨?_, ?_⟩)
      · rintro ⟨head, value, k, ⟨address, rfl, rfl⟩, hstart, hk, hwaits⟩
        exact ⟨address, k, hstart, hk,
          (trojan_waits_iff node hhash address (hstart.trans (upTo_start chunks k))).mp hwaits⟩
      · rintro ⟨address, k, hstart, hk, hearly⟩
        exact ⟨_, _, k, ⟨address, rfl, rfl⟩, hstart, hk,
          (trojan_waits_iff node hhash address (hstart.trans (upTo_start chunks k))).mpr hearly⟩
  · intro address payload hwhole hlimit
    rw [hwhole] at hlimit
    rw [← shadowsocks_waits_iff node address (hwhole ▸ List.prefix_append _ _) hchunks]
    refine ⟨?_, hshadowsocks.resolved_iff maxBytes _ ⟨address, rfl, rfl⟩ hwhole hlimit⟩
    rw [hwhole]
    exact hshadowsocks.accumulate_singleton maxBytes _ ⟨address, rfl, rfl⟩ hlimit
  · rintro ⟨error, hone⟩
    by_cases hlimit : chunks.flatten.length ≤ maxBytes
    · simp only [hlimit, true_or, iff_true]
      exact hshadowsocks.rejected maxBytes _ hne hone hlimit
    · simp only [hlimit, false_or]
      refine (hshadowsocks.rejected_iff maxBytes _ hne (by omega)).trans (not_congr ⟨?_, ?_⟩)
      · rintro ⟨head, value, k, ⟨address, rfl, rfl⟩, hstart, hk, hwaits⟩
        exact ⟨address, k, hstart, hk,
          (shadowsocks_waits_iff node address (hstart.trans (upTo_start chunks k)) hchunks).mp hwaits⟩
      · rintro ⟨address, k, hstart, hk, hearly⟩
        exact ⟨_, _, k, ⟨address, rfl, rfl⟩, hstart, hk,
          (shadowsocks_waits_iff node address (hstart.trans (upTo_start chunks k)) hchunks).mpr hearly⟩

/-- A Shadowsocks request for a domain whose type byte comes alone is refused. -/
theorem handshake_early_refused :
    ∃ (node : Node) (maxBytes : Nat) (chunks : List Bytes) (address : SocksAddress) (payload : Bytes),
      (∀ chunk ∈ chunks, chunk ≠ []) ∧ chunks.flatten = address.encode ++ payload ∧
        chunks.flatten.length ≤ maxBytes ∧
        readAddress node maxBytes [chunks.flatten] = .resolved (address.destination node) payload [] ∧
        readAddress node maxBytes chunks =
          .rejected (ProtocolError "invalid domain SOCKS address length") := by
  refine ⟨asciiNode, 8192, [[3], [1, 97, 0, 80, 7]], ⟨.domain [97] (by decide), 0, 80⟩, [7], ?_, ?_, ?_, ?_, ?_⟩
  · decide
  · decide
  · decide
  · rfl
  · rfl

/-- Chunks that end elsewhere. -/
theorem handshakes_segmentation_iff_domain :
    ∃ remainder unread, readAddress asciiNode 8192 [[3, 1], [97, 0], [80, 7], [8]] =
        .resolved (makeDestination asciiNode "a" 80) remainder unread ∧
      remainder ++ unread.flatten = [7, 8] := by
  refine (((@handshakes_segmentation_iff asciiNode [65, 66] (by decide) 8192
    [[3, 1], [97, 0], [80, 7], [8]] (by decide) (by decide)).2.1 ⟨.domain [97] (by decide), 0, 80⟩ [7, 8]
    (by decide) (by decide)).2).mpr ?_
  rintro ⟨-, k, hk, hends⟩
  have hmono := length_upTo_mono ([[3, 1], [97, 0], [80, 7], [8]] : List Bytes) (show 1 ≤ k by omega)
  have hfirst : (upTo ([[3, 1], [97, 0], [80, 7], [8]] : List Bytes) 1).length = 2 := rfl
  omega

end Sepigs
