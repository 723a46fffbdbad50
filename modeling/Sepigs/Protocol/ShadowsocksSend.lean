import Mathlib.Data.Nat.Digits.Lemmas
import Sepigs.Protocol.Shadowsocks

/-!
# Sending on a Shadowsocks stream

The payloads are cut into parts, each sealed with the next two nonces.
-/

namespace Sepigs

/-! ## Nonces -/

def nonceValue (nonce : Bytes) : Nat := Nat.ofDigits 256 (nonce.map UInt8.toNat)

theorem nonceValue_cons (byte : UInt8) (rest : Bytes) :
    nonceValue (byte :: rest) = byte.toNat + 256 * nonceValue rest :=
  rfl

theorem nonceValue_lt (nonce : Bytes) : nonceValue nonce < 256 ^ nonce.length := by
  have hlt := Nat.ofDigits_lt_base_pow_length (b := 256) (l := nonce.map UInt8.toNat) (by decide) (by
    intro digit hdigit
    obtain ⟨byte, -, rfl⟩ := List.mem_map.mp hdigit
    exact byte.toNat_lt)
  rw [List.length_map] at hlt
  exact hlt

theorem nonceValue_inj {left right : Bytes} (hlength : left.length = right.length)
    (h : nonceValue left = nonceValue right) : left = right := by
  induction left generalizing right with
  | nil => exact (List.length_eq_zero_iff.mp hlength.symm).symm
  | cons byte rest ih =>
    cases right with
    | nil => cases hlength
    | cons byte' rest' =>
      rw [nonceValue_cons, nonceValue_cons] at h
      have hlt := byte.toNat_lt
      have hlt' := byte'.toNat_lt
      have hbyte : byte = byte' := UInt8.toNat_inj.mp (by omega)
      have hrest : rest = rest' := ih (Nat.succ.inj hlength) (by omega)
      rw [hbyte, hrest]

theorem length_incrementNonce (nonce : Bytes) : (incrementNonce nonce).length = nonce.length := by
  induction nonce with
  | nil => rfl
  | cons byte rest ih =>
    unfold incrementNonce
    split
    · rfl
    · rw [List.length_cons, ih, List.length_cons]

/-- The next number, from the start again after the last. -/
theorem nonceValue_incrementNonce (nonce : Bytes) :
    nonceValue (incrementNonce nonce) = (nonceValue nonce + 1) % 256 ^ nonce.length := by
  induction nonce with
  | nil => rfl
  | cons byte rest ih =>
    have hlt := nonceValue_lt rest
    have hbyte := byte.toNat_lt
    have hnext : (byte + 1).toNat = (byte.toNat + 1) % 256 := by simp
    have hpow : 256 ^ (byte :: rest).length = 256 * 256 ^ rest.length := by
      rw [List.length_cons, Nat.pow_succ, Nat.mul_comm]
    rw [hpow, nonceValue_cons]
    unfold incrementNonce
    by_cases hzero : byte + 1 = 0
    · rw [if_neg (by simpa using hzero), nonceValue_cons, ih]
      have hlast : byte.toNat = 255 := by
        rw [hzero] at hnext
        have hnone : (0 : UInt8).toNat = 0 := rfl
        omega
      rw [hzero, hlast, show 255 + 256 * nonceValue rest + 1 = 256 * (nonceValue rest + 1) by omega,
        Nat.mul_mod_mul_left]
      show 0 + _ = _
      omega
    · rw [if_pos hzero, nonceValue_cons, hnext]
      have hsmall : byte.toNat + 1 < 256 := by
        by_contra hlarge
        apply hzero
        apply UInt8.toNat_inj.mp
        rw [hnext]
        show _ = 0
        omega
      rw [Nat.mod_eq_of_lt hsmall, Nat.mod_eq_of_lt (by omega)]
      omega

/-- The nonce after a number of uses. -/
def nonceAfter (nonce : Bytes) (uses : Nat) : Bytes := incrementNonce^[uses] nonce

theorem nonceAfter_succ (nonce : Bytes) (uses : Nat) :
    nonceAfter nonce (uses + 1) = incrementNonce (nonceAfter nonce uses) :=
  Function.iterate_succ_apply' _ _ _

theorem nonceAfter_add (nonce : Bytes) (first more : Nat) :
    nonceAfter nonce (first + more) = nonceAfter (nonceAfter nonce first) more := by
  unfold nonceAfter
  rw [Nat.add_comm, Function.iterate_add_apply]

theorem length_nonceAfter (uses : Nat) : (nonceAfter zeroNonce uses).length = 12 := by
  induction uses with
  | zero => rfl
  | succ uses ih => rw [nonceAfter_succ, length_incrementNonce, ih]

theorem nonceValue_nonceAfter (uses : Nat) : nonceValue (nonceAfter zeroNonce uses) = uses % 256 ^ 12 := by
  induction uses with
  | zero => rfl
  | succ uses ih =>
    rw [nonceAfter_succ, nonceValue_incrementNonce, length_nonceAfter, ih, Nat.mod_add_mod]

/-- No nonce comes twice before all have come. -/
theorem nonceAfter_inj {first second : Nat} (hfirst : first < 256 ^ 12) (hsecond : second < 256 ^ 12)
    (h : nonceAfter zeroNonce first = nonceAfter zeroNonce second) : first = second := by
  have hvalue : nonceValue (nonceAfter zeroNonce first) = nonceValue (nonceAfter zeroNonce second) := by rw [h]
  rw [nonceValue_nonceAfter, nonceValue_nonceAfter, Nat.mod_eq_of_lt hfirst, Nat.mod_eq_of_lt hsecond] at hvalue
  exact hvalue

/-! ## Parts and frames -/

/-- The parts that a payload is cut into. -/
def payloadParts (payload : Bytes) : List Bytes :=
  if payload.length = 0 then [] else payload.take 0x3fff :: payloadParts (payload.drop 0x3fff)
termination_by payload.length
decreasing_by
  rw [List.length_drop]
  omega

theorem payloadParts_flatten (payload : Bytes) : (payloadParts payload).flatten = payload := by
  induction payload using payloadParts.induct with
  | case1 payload h =>
    unfold payloadParts
    rw [if_pos h, List.length_eq_zero_iff.mp h]
    rfl
  | case2 payload h ih =>
    unfold payloadParts
    rw [if_neg h, List.flatten_cons, ih, List.take_append_drop]

theorem payloadParts_size (payload : Bytes) :
    ∀ part ∈ payloadParts payload, 1 ≤ part.length ∧ part.length ≤ 0x3fff := by
  induction payload using payloadParts.induct with
  | case1 payload h =>
    unfold payloadParts
    rw [if_pos h]
    intro part hpart
    cases hpart
  | case2 payload h ih =>
    unfold payloadParts
    rw [if_neg h]
    intro part hpart
    rcases List.mem_cons.mp hpart with rfl | hrest
    · rw [List.length_take]
      omega
    · exact ih part hrest

section Sender

variable (crypto : Crypto) (context : ShadowsocksCryptoContext) (key : Bytes)

/-- The frames of some parts. -/
def sealParts : Bytes → List Bytes → List SealedFrame
  | _, [] => []
  | nonce, part :: parts => sealFrame crypto context key nonce part :: sealParts (nonceAfter nonce 2) parts

theorem length_sealParts (parts : List Bytes) : ∀ nonce, (sealParts crypto context key nonce parts).length =
    parts.length := by
  induction parts with
  | nil =>
    intro nonce
    rfl
  | cons part parts ih =>
    intro nonce
    unfold sealParts
    rw [List.length_cons, ih, List.length_cons]

theorem sealParts_append (first more : List Bytes) : ∀ nonce,
    sealParts crypto context key nonce (first ++ more) =
      sealParts crypto context key nonce first ++
        sealParts crypto context key (nonceAfter nonce (2 * first.length)) more := by
  induction first with
  | nil =>
    intro nonce
    rfl
  | cons part parts ih =>
    intro nonce
    have hnonce : nonceAfter nonce (2 * (part :: parts).length) =
        nonceAfter (nonceAfter nonce 2) (2 * parts.length) := by
      rw [← nonceAfter_add, List.length_cons, show 2 * (parts.length + 1) = 2 + 2 * parts.length by omega]
    rw [hnonce]
    show sealFrame crypto context key nonce part :: sealParts crypto context key (nonceAfter nonce 2) (parts ++ more) =
      sealFrame crypto context key nonce part :: (sealParts crypto context key (nonceAfter nonce 2) parts ++ _)
    rw [ih]

theorem encryptTcpPayload_eq (payload nonce : Bytes) :
    encryptTcpPayload crypto context key payload nonce =
      (sealParts crypto context key nonce (payloadParts payload),
        nonceAfter nonce (2 * (payloadParts payload).length)) := by
  induction payload, nonce using encryptTcpPayload.induct crypto context key with
  | case1 payload nonce h =>
    unfold encryptTcpPayload payloadParts
    rw [if_pos h, if_pos h]
    rfl
  | case2 payload nonce h ih =>
    have hnonce : incrementNonce (incrementNonce nonce) = nonceAfter nonce 2 := rfl
    unfold encryptTcpPayload payloadParts
    rw [if_neg h, if_neg h]
    simp only []
    rw [ih, hnonce, ← nonceAfter_add, List.length_cons,
      show 2 * ((payloadParts (payload.drop 0x3fff)).length + 1) =
        2 + 2 * (payloadParts (payload.drop 0x3fff)).length by omega]
    rfl

/-- The two calls for a part. -/
theorem sealed_iff (parts : List Bytes) : ∀ nonce, ∀ entry : Sealed,
    entry ∈ (sealParts crypto context key nonce parts).flatMap (fun frame => [frame.length, frame.payload]) ↔
      ∃ i part, parts[i]? = some part ∧
        (entry = sealWith crypto context key (nonceAfter nonce (2 * i)) (writeUInt16BE part.length) ∨
          entry = sealWith crypto context key (nonceAfter nonce (2 * i + 1)) part) := by
  induction parts with
  | nil =>
    intro nonce entry
    simp [sealParts]
  | cons part parts ih =>
    intro nonce entry
    unfold sealParts
    rw [List.flatMap_cons, List.mem_append, ih]
    have hshift : ∀ i, nonceAfter (nonceAfter nonce 2) i = nonceAfter nonce (2 + i) := fun i =>
      (nonceAfter_add nonce 2 i).symm
    constructor
    · rintro (hfirst | ⟨i, other, hother, hentry⟩)
      · refine ⟨0, part, rfl, ?_⟩
        rcases List.mem_cons.mp hfirst with hlength | hpayload
        · exact Or.inl hlength
        · exact Or.inr (List.mem_singleton.mp hpayload)
      · refine ⟨i + 1, other, hother, ?_⟩
        rw [hshift, hshift] at hentry
        rw [show 2 * (i + 1) = 2 + 2 * i by omega]
        exact hentry
    · rintro ⟨i, other, hother, hentry⟩
      cases i with
      | zero =>
        cases hother
        left
        rcases hentry with rfl | rfl
        · exact List.mem_cons_self
        · exact List.mem_cons_of_mem _ List.mem_cons_self
      | succ i =>
        right
        refine ⟨i, other, hother, ?_⟩
        rw [hshift, hshift]
        rw [show 2 * (i + 1) = 2 + 2 * i by omega] at hentry
        exact hentry

end Sender

namespace ShadowsocksTcpStream

variable (crypto : Crypto) (salt : Bytes)

def subkey (context : ShadowsocksCryptoContext) : Bytes :=
  deriveSubkey crypto context.masterKey salt context.spec.keyLength

/-- The salt is still to be sent, or it is sent before all frames. -/
inductive SaltFirst (stream : ShadowsocksTcpStream) : Prop where
  | unsent (key : stream.encryptKey = none) (sent : stream.sent = []) (frames : stream.frames = [])
  | sent (key : stream.encryptKey = some (subkey crypto salt stream.context))
      (sent : stream.sent.flatten = salt ++ stream.frames.flatMap SealedFrame.bytes)

/-- What a stream has sent. -/
structure Sends (stream : ShadowsocksTcpStream) (context : ShadowsocksCryptoContext) (parts : List Bytes) : Prop where
  context_eq : stream.context = context
  saltFirst : SaltFirst crypto salt stream
  frames : stream.frames = sealParts crypto context (subkey crypto salt context) zeroNonce parts
  nonce : stream.encryptNonce = nonceAfter zeroNonce (2 * parts.length)

theorem getEncryptKey_spec {stream : ShadowsocksTcpStream} (h : SaltFirst crypto salt stream) :
    ∃ next : ShadowsocksTcpStream,
      stream.getEncryptKey crypto salt = (next, .ok (subkey crypto salt stream.context)) ∧
      next.context = stream.context ∧ next.prefixSent = stream.prefixSent ∧
      next.prefixBytes = stream.prefixBytes ∧ next.frames = stream.frames ∧
      next.encryptNonce = stream.encryptNonce ∧
      next.encryptKey = some (subkey crypto salt stream.context) ∧
      next.sent.flatten = salt ++ stream.frames.flatMap SealedFrame.bytes := by
  unfold getEncryptKey
  cases h with
  | unsent hkey hsent hframes =>
    refine ⟨stream.sendSalt crypto salt, ?_, rfl, rfl, rfl, rfl, rfl, rfl, ?_⟩
    · rw [hkey]
      rfl
    · show (stream.sent ++ [salt]).flatten = _
      rw [hsent, hframes]
      simp
  | sent hkey hsent =>
    refine ⟨stream, ?_, rfl, rfl, rfl, rfl, rfl, hkey, hsent⟩
    rw [hkey]
    simp only [Option.isNone_some, Bool.false_eq_true, if_false, hkey]

/-- A write sends the parts of its payload. -/
theorem Sends.write {stream : ShadowsocksTcpStream} {context : ShadowsocksCryptoContext} {parts : List Bytes}
    (h : Sends crypto salt stream context parts) (chunk : Bytes) :
    Sends crypto salt (stream.write crypto salt chunk) context
        (parts ++ payloadParts (if stream.prefixSent then chunk else stream.prefixBytes ++ chunk)) ∧
      (stream.write crypto salt chunk).prefixSent = true ∧
      (stream.write crypto salt chunk).encryptKey = some (subkey crypto salt context) := by
  generalize hpayload : (if stream.prefixSent then chunk else stream.prefixBytes ++ chunk) = payload
  have hstarted : SaltFirst crypto salt { stream with prefixSent := true } := by
    cases h.saltFirst with
    | unsent hkey hsent hframes => exact .unsent hkey hsent hframes
    | sent hkey hsent => exact .sent hkey hsent
  obtain ⟨next, hget, hcontext, hbegun, -, hframes, hnonce, hkey, hsent⟩ := getEncryptKey_spec crypto salt hstarted
  unfold ShadowsocksTcpStream.write
  simp only [hpayload]
  rw [hget]
  simp only []
  have hcontext' : next.context = context := hcontext.trans h.context_eq
  have hnonce' : next.encryptNonce = nonceAfter zeroNonce (2 * parts.length) := hnonce.trans h.nonce
  have hframes' : next.frames = sealParts crypto context (subkey crypto salt context) zeroNonce parts :=
    hframes.trans h.frames
  have hsubkey : subkey crypto salt stream.context = subkey crypto salt context := by rw [h.context_eq]
  have hkey' : next.encryptKey = some (subkey crypto salt context) := hkey.trans (congrArg some hsubkey)
  have hencrypted : encryptTcpPayload crypto next.context (subkey crypto salt stream.context) payload next.encryptNonce =
      (sealParts crypto context (subkey crypto salt context) (nonceAfter zeroNonce (2 * parts.length))
          (payloadParts payload),
        nonceAfter zeroNonce (2 * (parts ++ payloadParts payload).length)) := by
    rw [encryptTcpPayload_eq, hnonce', hcontext', hsubkey, ← nonceAfter_add, List.length_append,
      Nat.mul_add]
  rw [hencrypted]
  refine ⟨⟨hcontext', ?_, ?_, rfl⟩, hbegun, hkey'⟩
  · refine .sent ?_ ?_
    · show next.encryptKey = some (subkey crypto salt next.context)
      rw [hkey', hcontext']
    · simp only [List.flatten_append, List.flatten_singleton, List.flatMap_append]
      rw [hsent, hframes, List.append_assoc]
  · show next.frames ++ _ = _
    rw [hframes', sealParts_append]

/-- The parts of some writes, the prefix with the first. -/
def writtenParts (prefixBytes : Bytes) : List Bytes → List Bytes
  | [] => []
  | chunk :: chunks => payloadParts (prefixBytes ++ chunk) ++ chunks.flatMap payloadParts

theorem Sends.writeAll {context : ShadowsocksCryptoContext} (chunks : List Bytes) :
    ∀ {stream : ShadowsocksTcpStream} {parts : List Bytes}, Sends crypto salt stream context parts →
      stream.prefixSent = true → stream.encryptKey = some (subkey crypto salt context) →
        Sends crypto salt (stream.writeAll crypto salt chunks) context (parts ++ chunks.flatMap payloadParts) ∧
          (stream.writeAll crypto salt chunks).encryptKey = some (subkey crypto salt context) := by
  induction chunks with
  | nil =>
    intro stream parts h hbegun hkey
    rw [List.flatMap_nil, List.append_nil]
    exact ⟨h, hkey⟩
  | cons chunk chunks ih =>
    intro stream parts h hbegun hkey
    obtain ⟨hwrite, hbegun', hkey'⟩ := h.write crypto salt chunk
    rw [hbegun] at hwrite
    have hrest := ih hwrite hbegun' hkey'
    rw [List.append_assoc] at hrest
    exact hrest

theorem create_sends (context : ShadowsocksCryptoContext) (prefixBytes : Bytes) (sendSaltOnCreate : Bool) :
    Sends crypto salt (create crypto salt context prefixBytes sendSaltOnCreate) context [] := by
  cases sendSaltOnCreate with
  | false => exact ⟨rfl, .unsent rfl rfl rfl, rfl, rfl⟩
  | true => exact ⟨rfl, .sent rfl (by simp [create, sendSalt]), rfl, rfl⟩

/-- **What is sent**: the salt, and the frames of the parts of the prefix and the writes. -/
theorem writeAll_create (context : ShadowsocksCryptoContext) (prefixBytes : Bytes) (sendSaltOnCreate : Bool)
    {chunks : List Bytes} (hne : chunks ≠ []) :
    Sends crypto salt ((create crypto salt context prefixBytes sendSaltOnCreate).writeAll crypto salt chunks) context
        (writtenParts prefixBytes chunks) ∧
      ((create crypto salt context prefixBytes sendSaltOnCreate).writeAll crypto salt chunks).sent.flatten =
        salt ++ ((create crypto salt context prefixBytes sendSaltOnCreate).writeAll crypto salt
          chunks).frames.flatMap SealedFrame.bytes := by
  cases chunks with
  | nil => exact absurd rfl hne
  | cons chunk chunks =>
    obtain ⟨hwrite, hbegun, hkey⟩ :=
      (create_sends crypto salt context prefixBytes sendSaltOnCreate).write crypto salt chunk
    have hfirst : (create crypto salt context prefixBytes sendSaltOnCreate).prefixSent = false ∧
        (create crypto salt context prefixBytes sendSaltOnCreate).prefixBytes = prefixBytes := by
      cases sendSaltOnCreate <;> exact ⟨rfl, rfl⟩
    rw [hfirst.1, hfirst.2] at hwrite
    obtain ⟨hsends, hkey'⟩ := hwrite.writeAll crypto salt chunks hbegun hkey
    refine ⟨hsends, ?_⟩
    cases hsends.saltFirst with
    | unsent hnone _ _ =>
      rw [hkey'] at hnone
      cases hnone
    | sent _ hsent => exact hsent

end ShadowsocksTcpStream

end Sepigs
