import Sepigs.Inbound.Socks5

/-!
# SOCKS5 negotiation and the split into chunks

The negotiation over `BufferedSocketReader` is the negotiation over the bytes themselves,
whatever chunks they come in; and over the bytes, what was read can be told from the
result.
-/

namespace Sepigs

open Dialogue

/-- A reader that has all the bytes from the start. -/
structure ByteReader where
  content : Bytes
  ending : SepigsError
deriving DecidableEq, Repr

instance : ReadExact ByteReader SepigsError UInt8 where
  readExact reader n :=
    if n ≤ reader.content.length then
      .ok (reader.content.take n, { reader with content := reader.content.drop n })
    else .error reader.ending

instance : ReadExact BufferedSocketReader SepigsError UInt8 where
  readExact := BufferedSocketReader.readExact

/-- The bytes that a buffered reader will hand out, none of them beyond its limit. -/
structure Holds (reader : BufferedSocketReader) (bytes : ByteReader) : Prop where
  content : reader.content = bytes.content
  limit : reader.content.length ≤ reader.maxBytes
  ending : reader.socket.ending = bytes.ending

theorem holds_create {socket : ClientSocket} {maxBytes : Nat} (h : socket.unread.length ≤ maxBytes) :
    Holds (BufferedSocketReader.create socket maxBytes) ⟨socket.unread, socket.ending⟩ :=
  ⟨rfl, h, rfl⟩

theorem readExact_agree (reader : BufferedSocketReader) (bytes : ByteReader) (n : Nat)
    (h : Holds reader bytes) :
    Agree Holds (([] : List Bytes), ReadExact.readExact reader n) ([], ReadExact.readExact bytes n) := by
  have hspec := BufferedSocketReader.readExact_spec n h.limit
  show Agree Holds (([] : List Bytes), reader.readExact n) ([], if _ then _ else _)
  by_cases hn : n ≤ reader.content.length
  · rw [if_pos hn] at hspec
    obtain ⟨reader', hread, hcontent, hmax, hending⟩ := hspec
    rw [hread, if_pos (h.content ▸ hn), h.content]
    refine .ok [] _ ⟨?_, ?_, hending.trans h.ending⟩
    · rw [hcontent, h.content]
    · rw [hcontent, hmax, List.length_drop]
      have hlimit := h.limit
      omega
  · rw [if_neg hn] at hspec
    rw [hspec, if_neg (h.content ▸ hn), h.ending]
    exact .error [] _

section Simulation

variable (node : Node) (sent : Bytes → Except SepigsError Unit)

theorem read_simulates (n : Nat) :
    Simulates Holds (read n : Session BufferedSocketReader (List UInt8)) (read n) :=
  simulates_read readExact_agree n

theorem authenticateUserPass_simulates (auth : Socks5AuthConfig) :
    Simulates Holds (authenticateUserPass node sent auth) (authenticateUserPass node sent auth) := by
  unfold authenticateUserPass
  refine simulates_bind (read_simulates 2) fun versionBuffer => ?_
  split
  · split
    · exact simulates_fail _
    · refine simulates_bind (read_simulates _) fun username => ?_
      refine simulates_bind (read_simulates 1) fun passwordLengthBuffer => ?_
      split
      · refine simulates_bind (read_simulates _) fun password => ?_
        split
        · exact simulates_bind (simulates_reply sent _) fun _ => simulates_fail _
        · exact simulates_reply sent _
      · exact simulates_fail _
  · exact simulates_fail _

theorem negotiateAuth_simulates (auth : Option Socks5AuthConfig) :
    Simulates Holds (negotiateAuth node sent auth) (negotiateAuth node sent auth) := by
  unfold negotiateAuth
  refine simulates_bind (read_simulates 2) fun head => ?_
  split
  · split
    · exact simulates_fail _
    · refine simulates_bind (read_simulates _) fun methods => ?_
      split
      · split
        · exact simulates_bind (simulates_reply sent _) fun _ => simulates_fail _
        · exact simulates_bind (simulates_reply sent _) fun _ => authenticateUserPass_simulates node sent _
      · split
        · exact simulates_bind (simulates_reply sent _) fun _ => simulates_fail _
        · exact simulates_reply sent _
  · exact simulates_fail _

theorem readSocksAddress_simulates (addressType : UInt8) :
    Simulates Holds (readSocksAddress node addressType) (readSocksAddress node addressType) := by
  unfold readSocksAddress
  split
  · exact simulates_bind (read_simulates 4) fun bytes => simulates_pure _
  · split
    · refine simulates_bind (read_simulates 1) fun lengthBuffer => ?_
      split
      · split
        · exact simulates_fail _
        · exact simulates_bind (read_simulates _) fun bytes => simulates_pure _
      · exact simulates_fail _
    · split
      · exact simulates_bind (read_simulates 16) fun bytes => simulates_pure _
      · exact simulates_fail _

theorem readCommand_simulates : Simulates Holds (readCommand node) (readCommand node) := by
  unfold readCommand
  refine simulates_bind (read_simulates 4) fun head => ?_
  split
  · split
    · exact simulates_fail _
    · refine simulates_bind (readSocksAddress_simulates node _) fun host => ?_
      refine simulates_bind (read_simulates 2) fun portBuffer => ?_
      split
      · exact simulates_pure _
      · exact simulates_fail _
  · exact simulates_fail _

/-- The buffered negotiation is the one over the bytes. -/
theorem negotiate_simulates (auth : Option Socks5AuthConfig) :
    Simulates Holds (negotiate node sent auth) (negotiate node sent auth) :=
  simulates_bind (negotiateAuth_simulates node sent auth) fun _ => readCommand_simulates node

end Simulation

/-! ## What a successful negotiation has read -/

/-- The bytes that were read are those before what is left. -/
theorem succeeds_read {bytes bytes' : ByteReader} {n : Nat} {data : Bytes}
    (h : Succeeds (read n : Session ByteReader (List UInt8)) bytes data bytes') :
    bytes.content = data ++ bytes'.content ∧ data.length = n := by
  have hread : (if n ≤ bytes.content.length then
      .ok (bytes.content.take n, { bytes with content := bytes.content.drop n })
    else .error bytes.ending) = (.ok (data, bytes') : Except SepigsError (Bytes × ByteReader)) := h
  split at hread
  · next hn =>
    cases hread
    exact ⟨(List.take_append_drop n _).symm, List.length_take_of_le hn⟩
  · cases hread

theorem eq_singleton {data : Bytes} {a : UInt8} (h0 : data[0]? = some a) (h : data.length = 1) :
    data = [a] := by
  match data with
  | [] => cases h0
  | [b] =>
    cases h0
    rfl
  | _ :: _ :: _ => simp at h

theorem eq_pair {data : Bytes} {a b : UInt8} (h0 : data[0]? = some a) (h1 : data[1]? = some b)
    (h : data.length = 2) : data = [a, b] := by
  match data with
  | [] => cases h0
  | [_] => cases h1
  | [c, d] =>
    cases h0
    cases h1
    rfl
  | _ :: _ :: _ :: _ => simp at h

section Success

variable (node : Node) (sent : Bytes → Except SepigsError Unit)

/-- A username and a password, with their lengths. -/
def credentials (username password : Bytes) : Bytes :=
  [0x01, UInt8.ofNat username.length] ++ username ++ ([UInt8.ofNat password.length] ++ password)

/-- The text is the configured one. -/
theorem eq_of_safeEqual {left right : String} (h : safeEqual left right = true) : left = right := by
  have hbytes : left.toByteArray.data.toList = right.toByteArray.data.toList := of_decide_eq_true h
  exact String.toByteArray_inj.mp (ByteArray.ext (Array.toList_inj.mp hbytes))

theorem succeeds_authenticateUserPass {auth : Socks5AuthConfig} {bytes bytes' : ByteReader}
    (h : Succeeds (authenticateUserPass node sent auth) bytes () bytes') :
    ∃ username password : Bytes, username.length ≤ 255 ∧ password.length ≤ 255 ∧
      bytes.content = credentials username password ++ bytes'.content ∧
      node.utf8 username = auth.username ∧ node.utf8 password = auth.password := by
  unfold authenticateUserPass at h
  obtain ⟨versionBuffer, r1, h1, h⟩ := succeeds_bind h
  obtain ⟨hversion, hlength⟩ := succeeds_read h1
  split at h
  · next version usernameLength hv hu =>
    split at h
    · exact absurd h not_succeeds_fail
    · next hone =>
      rw [ne_eq, Decidable.not_not] at hone
      obtain ⟨username, r2, h2, h⟩ := succeeds_bind h
      obtain ⟨husername, hulength⟩ := succeeds_read h2
      obtain ⟨passwordLengthBuffer, r3, h3, h⟩ := succeeds_bind h
      obtain ⟨hplBuffer, hpllength⟩ := succeeds_read h3
      split at h
      · next passwordLength hp =>
        obtain ⟨password, r4, h4, h⟩ := succeeds_bind h
        obtain ⟨hpassword, hplength⟩ := succeeds_read h4
        split at h
        · obtain ⟨_, r5, -, h⟩ := succeeds_bind h
          exact absurd h not_succeeds_fail
        · next hequal =>
          rw [Bool.or_eq_true, not_or, Bool.not_eq_true', Bool.not_eq_true', Bool.not_eq_false,
            Bool.not_eq_false] at hequal
          obtain rfl := succeeds_reply h
          have hub := usernameLength.toNat_lt
          have hpb := passwordLength.toNat_lt
          refine ⟨username, password, by omega, by omega, ?_, eq_of_safeEqual hequal.1,
            eq_of_safeEqual hequal.2⟩
          rw [hversion, husername, hplBuffer, hpassword, eq_pair hv hu hlength, eq_singleton hp hpllength,
            hone]
          unfold credentials
          rw [hulength, hplength, UInt8.ofNat_toNat, UInt8.ofNat_toNat]
          simp
      · exact absurd h not_succeeds_fail
  · exact absurd h not_succeeds_fail

/-- What the client sent to be let in: the methods it offered, and its credentials where
they are asked for. -/
inductive Greeting (node : Node) (auth : Option Socks5AuthConfig) : Bytes → Prop
  | noAuth (methods : Bytes) (hcount : methods.length ≤ 255) (h : requiredAuth auth = none)
      (hoffered : METHOD_NO_AUTH ∈ methods) :
      Greeting node auth ([SOCKS_VERSION, UInt8.ofNat methods.length] ++ methods)
  | userPass (methods username password : Bytes) (required : Socks5AuthConfig)
      (hcount : methods.length ≤ 255) (hu : username.length ≤ 255) (hp : password.length ≤ 255)
      (h : requiredAuth auth = some required) (hoffered : METHOD_USERNAME_PASSWORD ∈ methods)
      (husername : node.utf8 username = required.username)
      (hpassword : node.utf8 password = required.password) :
      Greeting node auth
        ([SOCKS_VERSION, UInt8.ofNat methods.length] ++ methods ++ credentials username password)

theorem succeeds_negotiateAuth {auth : Option Socks5AuthConfig} {bytes bytes' : ByteReader}
    (h : Succeeds (negotiateAuth node sent auth) bytes () bytes') :
    ∃ greeting, Greeting node auth greeting ∧ bytes.content = greeting ++ bytes'.content := by
  unfold negotiateAuth at h
  obtain ⟨head, r1, h1, h⟩ := succeeds_bind h
  obtain ⟨hhead, hlength⟩ := succeeds_read h1
  split at h
  · next version methodCount hv hm =>
    split at h
    · exact absurd h not_succeeds_fail
    · next hversion =>
      rw [ne_eq, Decidable.not_not] at hversion
      obtain ⟨methods, r2, h2, h⟩ := succeeds_bind h
      obtain ⟨hmethods, hmlength⟩ := succeeds_read h2
      have hcount := methodCount.toNat_lt
      have hlead : head = [SOCKS_VERSION, UInt8.ofNat methods.length] := by
        rw [eq_pair hv hm hlength, hversion, hmlength, UInt8.ofNat_toNat]
      split at h
      · next required hrequired =>
        split at h
        · obtain ⟨_, r3, -, h⟩ := succeeds_bind h
          exact absurd h not_succeeds_fail
        · next hoffered =>
          rw [Decidable.not_not] at hoffered
          obtain ⟨_, r3, h3, h4⟩ := succeeds_bind h
          obtain rfl := succeeds_reply h3
          obtain ⟨username, password, hu, hp, hcontent, husername, hpassword⟩ :=
            succeeds_authenticateUserPass node sent h4
          refine ⟨_, .userPass methods username password required (by omega) hu hp hrequired hoffered
            husername hpassword, ?_⟩
          rw [hhead, hmethods, hcontent, hlead, List.append_assoc, List.append_assoc]
      · next hnone =>
        split at h
        · obtain ⟨_, r3, -, h⟩ := succeeds_bind h
          exact absurd h not_succeeds_fail
        · next hoffered =>
          rw [Decidable.not_not] at hoffered
          obtain rfl := succeeds_reply h
          refine ⟨_, .noAuth methods (by omega) hnone hoffered, ?_⟩
          rw [hhead, hmethods, hlead, List.append_assoc]
  · exact absurd h not_succeeds_fail

/-- An address whose host is of a type, as `readSocksAddress` takes it from the bytes. -/
theorem succeeds_readSocksAddress {addressType : UInt8} {host : String} {bytes bytes' : ByteReader}
    (h : Succeeds (readSocksAddress node addressType) bytes host bytes') :
    ∃ socksHost : SocksHost, host = socksHost.text node ∧
      addressType :: bytes.content = socksHost.lead ++ (socksHost.bytes ++ bytes'.content) := by
  unfold readSocksAddress at h
  split at h
  · next htype =>
    obtain ⟨data, r1, h1, h2⟩ := succeeds_bind h
    obtain ⟨hdata, hlength⟩ := succeeds_read h1
    obtain ⟨rfl, rfl⟩ := succeeds_pure h2
    refine ⟨.ipv4 data hlength, rfl, ?_⟩
    rw [htype, hdata]
    rfl
  · split at h
    · next htype =>
      obtain ⟨lengthBuffer, r1, h1, h2⟩ := succeeds_bind h
      obtain ⟨hbuffer, hblength⟩ := succeeds_read h1
      split at h2
      · next length hl =>
        split at h2
        · exact absurd h2 not_succeeds_fail
        · next hne =>
          obtain ⟨data, r2, h3, h4⟩ := succeeds_bind h2
          obtain ⟨hdata, hlength⟩ := succeeds_read h3
          obtain ⟨rfl, rfl⟩ := succeeds_pure h4
          have hlt := length.toNat_lt
          have hpos : 0 < length.toNat := by
            refine Nat.pos_of_ne_zero fun hzero => hne ?_
            exact UInt8.toNat_inj.mp hzero
          refine ⟨.domain data ⟨by omega, by omega⟩, rfl, ?_⟩
          rw [htype, hbuffer, hdata, eq_singleton hl hblength]
          show _ = [0x03, UInt8.ofNat data.length] ++ (data ++ bytes'.content)
          rw [hlength, UInt8.ofNat_toNat]
          rfl
      · exact absurd h2 not_succeeds_fail
    · split at h
      · next htype =>
        obtain ⟨data, r1, h1, h2⟩ := succeeds_bind h
        obtain ⟨hdata, hlength⟩ := succeeds_read h1
        obtain ⟨rfl, rfl⟩ := succeeds_pure h2
        refine ⟨.ipv6 data hlength, rfl, ?_⟩
        rw [htype, hdata]
        rfl
      · exact absurd h not_succeeds_fail

theorem eq_quadruple {data : Bytes} {a b c d : UInt8} (h0 : data[0]? = some a) (h1 : data[1]? = some b)
    (h2 : data[2]? = some c) (h3 : data[3]? = some d) (h : data.length = 4) : data = [a, b, c, d] := by
  match data with
  | [] => cases h0
  | [_] => cases h1
  | [_, _] => cases h2
  | [_, _, _] => cases h3
  | [_, _, _, _] =>
    cases h0
    cases h1
    cases h2
    cases h3
    rfl
  | _ :: _ :: _ :: _ :: _ :: _ => simp at h

/-- The bytes of a command. -/
def commandBytes (command : UInt8) (address : SocksAddress) : Bytes :=
  [SOCKS_VERSION, command, 0x00] ++ address.encode

theorem succeeds_readCommand {command : Socks5Command} {bytes bytes' : ByteReader}
    (h : Succeeds (readCommand node) bytes command bytes') :
    ∃ address : SocksAddress, command.destination = address.destination node ∧
      bytes.content = commandBytes command.command address ++ bytes'.content := by
  unfold readCommand at h
  obtain ⟨head, r1, h1, h2⟩ := succeeds_bind h
  obtain ⟨hhead, hlength⟩ := succeeds_read h1
  split at h2
  · next version commandByte reserved addressType hv hc hr ha =>
    split at h2
    · exact absurd h2 not_succeeds_fail
    · next hok =>
      rw [not_or, ne_eq, ne_eq, Decidable.not_not, Decidable.not_not] at hok
      obtain ⟨host, r2, h3, h4⟩ := succeeds_bind h2
      obtain ⟨socksHost, hhost, hcontent⟩ := succeeds_readSocksAddress node h3
      obtain ⟨portBuffer, r3, h5, h6⟩ := succeeds_bind h4
      obtain ⟨hport, hplength⟩ := succeeds_read h5
      split at h6
      · next high low hh hl =>
        obtain ⟨rfl, rfl⟩ := succeeds_pure h6
        refine ⟨⟨socksHost, high, low⟩, congrArg (fun host => makeDestination node host _) hhost, ?_⟩
        rw [hhead, eq_quadruple hv hc hr ha hlength, hok.1, hok.2]
        show SOCKS_VERSION :: commandByte :: 0x00 :: (addressType :: r1.content) = _
        rw [hcontent, hport, eq_pair hh hl hplength]
        simp [commandBytes, SocksAddress.encode]
      · exact absurd h6 not_succeeds_fail
  · exact absurd h2 not_succeeds_fail

theorem succeeds_negotiate {auth : Option Socks5AuthConfig} {command : Socks5Command}
    {bytes bytes' : ByteReader} (h : Succeeds (negotiate node sent auth) bytes command bytes') :
    ∃ (greeting : Bytes) (address : SocksAddress), Greeting node auth greeting ∧
      command.destination = address.destination node ∧
      bytes.content = greeting ++ commandBytes command.command address ++ bytes'.content := by
  obtain ⟨_, r1, h1, h2⟩ := succeeds_bind h
  obtain ⟨greeting, hgreeting, hcontent⟩ := succeeds_negotiateAuth node sent h1
  obtain ⟨address, hdestination, hcommand⟩ := succeeds_readCommand node h2
  refine ⟨greeting, address, hgreeting, hdestination, ?_⟩
  rw [hcontent, hcommand, List.append_assoc]

/-- The replies and the result, without the reader. -/
def outcome {ρ : Type} (result : List Bytes × Except SepigsError (Socks5Command × ρ)) :
    List Bytes × Except SepigsError Socks5Command :=
  (result.1, result.2.map Prod.fst)

theorem outcome_eq_of_agree {ρ ρ' : Type} {R : ρ → ρ' → Prop}
    {x : List Bytes × Except SepigsError (Socks5Command × ρ)}
    {y : List Bytes × Except SepigsError (Socks5Command × ρ')} (h : Agree R x y) :
    outcome x = outcome y := by
  cases h with
  | error replies error => rfl
  | ok replies a h => rfl

/-- **SOCKS5 negotiation is about the bytes, and lets in whom it should.**  For bytes within
the limit: in chunks, however they come, it writes the same replies and has the same
result as in one chunk; after a success what the reader gives back and what the socket
still holds are the bytes after the command; and when authentication is required, a client
that gets a command has offered the method and sent the configured name and password. -/
theorem negotiation_segmentation (auth : Option Socks5AuthConfig) (maxBytes : Nat) (socket : ClientSocket)
    (hlimit : socket.unread.length ≤ maxBytes) :
    outcome (negotiate node sent auth (BufferedSocketReader.create socket maxBytes)) =
        outcome (negotiate node sent auth
          (BufferedSocketReader.create ⟨[socket.unread], [], socket.ending⟩ maxBytes)) ∧
      ∀ command reader', Succeeds (negotiate node sent auth) (BufferedSocketReader.create socket maxBytes)
          command reader' →
        ∃ (greeting : Bytes) (address : SocksAddress),
          command.destination = address.destination node ∧
          socket.unread = greeting ++ commandBytes command.command address ++
            (reader'.releaseRemainder.1 ++ reader'.releaseRemainder.2.socket.unread) ∧
          Greeting node auth greeting ∧
          ∀ required, auth = some required → required.enabled = true →
            ∃ methods username password : Bytes,
              greeting = [SOCKS_VERSION, UInt8.ofNat methods.length] ++ methods ++
                credentials username password ∧
              METHOD_USERNAME_PASSWORD ∈ methods ∧ node.utf8 username = required.username ∧
              node.utf8 password = required.password := by
  have hchunks : Holds (BufferedSocketReader.create socket maxBytes) ⟨socket.unread, socket.ending⟩ :=
    holds_create hlimit
  have hsame : (ClientSocket.mk [socket.unread] [] socket.ending).unread = socket.unread := by
    simp [ClientSocket.unread]
  have hone : Holds (BufferedSocketReader.create ⟨[socket.unread], [], socket.ending⟩ maxBytes)
      ⟨socket.unread, socket.ending⟩ := by
    refine ⟨hsame, ?_, rfl⟩
    show (ClientSocket.mk [socket.unread] [] socket.ending).unread.length ≤ maxBytes
    rw [hsame]
    exact hlimit
  have hagree := negotiate_simulates node sent auth _ _ hchunks
  constructor
  · exact (outcome_eq_of_agree hagree).trans
      (outcome_eq_of_agree (negotiate_simulates node sent auth _ _ hone)).symm
  · intro command reader' hsucceeds
    obtain ⟨bytes', hbytes, hholds⟩ : ∃ bytes', Succeeds (negotiate node sent auth)
        (⟨socket.unread, socket.ending⟩ : ByteReader) command bytes' ∧ Holds reader' bytes' := by
      unfold Succeeds at hsucceeds ⊢
      rcases hx : negotiate node sent auth (BufferedSocketReader.create socket maxBytes) with ⟨replies, result⟩
      rcases hy : negotiate node sent auth (⟨socket.unread, socket.ending⟩ : ByteReader) with ⟨replies', result'⟩
      rw [hx, hy] at hagree
      rw [hx] at hsucceeds
      cases hsucceeds
      cases hagree with
      | ok _ _ h => exact ⟨_, rfl, h⟩
    obtain ⟨greeting, address, hgreeting, hdestination, hcontent⟩ := succeeds_negotiate node sent hbytes
    refine ⟨greeting, address, hdestination, ?_, hgreeting, ?_⟩
    · rw [← hholds.content] at hcontent
      exact hcontent
    · intro required hauth henabled
      have hrequired : requiredAuth auth = some required := by
        rw [hauth, requiredAuth, Option.filter_some, if_pos henabled]
      cases hgreeting with
      | noAuth methods hcount hnone hoffered =>
        rw [hrequired] at hnone
        cases hnone
      | userPass methods username password required' hcount hu hp hsome hoffered husername hpassword =>
        rw [hrequired] at hsome
        cases hsome
        exact ⟨methods, username, password, rfl, hoffered, husername, hpassword⟩

/-- Credentials and a command in five pieces. -/
theorem negotiation_segmentation_pieces :
    outcome (negotiate asciiNode (fun _ => .ok ()) (some ⟨true, "u", "p"⟩)
        (BufferedSocketReader.create ⟨[[5], [2, 0]], [[], [[2, 1, 1, 117]], [[1, 112, 5], [1, 0, 1, 1, 2]],
          [[3, 4, 0, 80, 9]]], ProtocolError "ended"⟩ 512)) =
      outcome (negotiate asciiNode (fun _ => .ok ()) (some ⟨true, "u", "p"⟩)
        (BufferedSocketReader.create ⟨[[5, 2, 0, 2, 1, 1, 117, 1, 112, 5, 1, 0, 1, 1, 2, 3, 4, 0, 80, 9]], [],
          ProtocolError "ended"⟩ 512)) :=
  (negotiation_segmentation asciiNode (fun _ => .ok ()) (some ⟨true, "u", "p"⟩) 512
    ⟨[[5], [2, 0]], [[], [[2, 1, 1, 117]], [[1, 112, 5], [1, 0, 1, 1, 2]], [[3, 4, 0, 80, 9]]],
      ProtocolError "ended"⟩ (by decide)).1

end Success

end Sepigs
