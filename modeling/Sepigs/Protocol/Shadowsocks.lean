import Sepigs.Protocol.Address
import Sepigs.Utils.BufferQueue

/-!
# Shadowsocks streams (`protocol/shadowsocks.ts`)

The digests and the AEAD are Node's (`Crypto`), and so are the random bytes of a salt.  A
stream keeps what it has done: the bytes it wrote to its socket, the frames it sealed and
the payloads it pushed to its reader.
-/

namespace Sepigs

inductive ShadowsocksCipher
  | aes128gcm
  | aes256gcm
  | chacha20ietfpoly1305
deriving DecidableEq, Repr

structure CipherSpec where
  keyLength : Nat
  saltLength : Nat
  nonceLength : Nat
  authTagLength : Nat
  nodeCipher : String
deriving DecidableEq, Repr

def CIPHERS : ShadowsocksCipher → CipherSpec
  | .aes128gcm => ⟨16, 16, 12, 16, "aes-128-gcm"⟩
  | .aes256gcm => ⟨32, 32, 12, 16, "aes-256-gcm"⟩
  | .chacha20ietfpoly1305 => ⟨32, 32, 12, 16, "chacha20-poly1305"⟩

theorem authTagLength_eq (method : ShadowsocksCipher) : (CIPHERS method).authTagLength = 16 := by
  cases method <;> rfl

theorem saltLength_pos (method : ShadowsocksCipher) : 0 < (CIPHERS method).saltLength := by
  cases method <;> decide

/-- `encrypt` gives what `update` and `final` give, and the tag; `decrypt` takes the tag and
the rest, and fails where `final` throws.  Both ciphers keep the length, with a tag of 16
bytes. -/
structure Crypto where
  md5 : Bytes → { digest : Bytes // digest.length = 16 }
  hkdfSha1 : (key salt info : Bytes) → (length : Nat) → Bytes
  encrypt : (nodeCipher : String) → (key nonce plaintext : Bytes) → Bytes × Bytes
  decrypt : (nodeCipher : String) → (key nonce tag ciphertext : Bytes) → Except SepigsError Bytes
  encrypt_length : ∀ nodeCipher key nonce plaintext,
    (encrypt nodeCipher key nonce plaintext).1.length = plaintext.length ∧
      (encrypt nodeCipher key nonce plaintext).2.length = 16

structure ShadowsocksCryptoContext where
  method : ShadowsocksCipher
  spec : CipherSpec
  masterKey : Bytes
  spec_eq : spec = CIPHERS method

section Primitives

variable (crypto : Crypto)

/-- The loop of `evpBytesToKey`, with the chunks in one. -/
def evpBytes (passwordBuffer : Bytes) (keyLength : Nat) (chunks previous : Bytes) : Bytes :=
  if chunks.length < keyLength then
    let digest := crypto.md5 (previous ++ passwordBuffer)
    evpBytes passwordBuffer keyLength (chunks ++ digest.1) digest.1
  else chunks
termination_by keyLength - chunks.length
decreasing_by
  rw [List.length_append, (crypto.md5 (previous ++ passwordBuffer)).2]
  omega

def evpBytesToKey (password : String) (keyLength : Nat) : Bytes :=
  (evpBytes crypto (utf8Bytes password) keyLength [] []).take keyLength

def createShadowsocksCryptoContext (method : ShadowsocksCipher) (password : String) : ShadowsocksCryptoContext where
  method := method
  spec := CIPHERS method
  masterKey := evpBytesToKey crypto password (CIPHERS method).keyLength
  spec_eq := rfl

def deriveSubkey (masterKey salt : Bytes) (keyLength : Nat) : Bytes :=
  crypto.hkdfSha1 masterKey salt (utf8Bytes "ss-subkey") keyLength

def aeadEncrypt (context : ShadowsocksCryptoContext) (key nonce plaintext : Bytes) : Bytes :=
  let (encrypted, tag) := crypto.encrypt context.spec.nodeCipher key nonce plaintext
  encrypted ++ tag

def aeadDecrypt (context : ShadowsocksCryptoContext) (key nonce ciphertextWithTag : Bytes) :
    Except SepigsError Bytes :=
  if ciphertextWithTag.length < context.spec.authTagLength then
    .error (ProtocolError "AEAD ciphertext is too short")
  else
    let split := ciphertextWithTag.length - context.spec.authTagLength
    crypto.decrypt context.spec.nodeCipher key nonce (ciphertextWithTag.drop split) (ciphertextWithTag.take split)

end Primitives

/-- Little endian, and back to zero at the end. -/
def incrementNonce : Bytes → Bytes
  | [] => []
  | byte :: rest => if byte + 1 ≠ 0 then (byte + 1) :: rest else (byte + 1) :: incrementNonce rest

/-- `Buffer.alloc(12)` -/
def zeroNonce : Bytes := List.replicate 12 0

def writeUInt16BE (n : Nat) : Bytes := [UInt8.ofNat (n / 256), UInt8.ofNat (n % 256)]

/-- `buffer.readUInt16BE(0)` -/
def readUInt16BE : Bytes → Except SepigsError Nat
  | high :: low :: _ => .ok (high.toNat * 256 + low.toNat)
  | _ => .error ⟨"ERR_BUFFER_OUT_OF_BOUNDS", "Attempt to access memory outside buffer bounds"⟩

/-- One call of `aeadEncrypt`. -/
structure Sealed where
  key : Bytes
  nonce : Bytes
  plaintext : Bytes
  ciphertext : Bytes
deriving DecidableEq, Repr

structure SealedFrame where
  length : Sealed
  payload : Sealed
deriving DecidableEq, Repr

def SealedFrame.bytes (frame : SealedFrame) : Bytes := frame.length.ciphertext ++ frame.payload.ciphertext

section Frames

variable (crypto : Crypto) (context : ShadowsocksCryptoContext) (key : Bytes)

def sealWith (nonce plaintext : Bytes) : Sealed :=
  ⟨key, nonce, plaintext, aeadEncrypt crypto context key nonce plaintext⟩

/-- The two calls for one part of the payload. -/
def sealFrame (nonce part : Bytes) : SealedFrame where
  length := sealWith crypto context key nonce (writeUInt16BE part.length)
  payload := sealWith crypto context key (incrementNonce nonce) part

/-- The frames, whose bytes are the source's result, and the nonce after them. -/
def encryptTcpPayload (payload nonce : Bytes) : List SealedFrame × Bytes :=
  if payload.length = 0 then ([], nonce)
  else
    let part := payload.take 0x3fff
    let next := encryptTcpPayload (payload.drop 0x3fff) (incrementNonce (incrementNonce nonce))
    (sealFrame crypto context key nonce part :: next.1, next.2)
termination_by payload.length
decreasing_by
  rw [List.length_drop]
  omega

end Frames

/-- The last five fields are what the stream has done; `opened` has the nonces that `aeadDecrypt`
was called with. -/
structure ShadowsocksTcpStream where
  context : ShadowsocksCryptoContext
  prefixBytes : Bytes
  encryptKey : Option Bytes
  encryptNonce : Bytes
  decryptNonce : Bytes
  decryptBuffer : BufferQueue
  decryptKey : Option Bytes
  prefixSent : Bool
  pendingPayloadLength : Option Nat
  sent : List Bytes
  frames : List SealedFrame
  opened : List Bytes
  pushed : List Bytes
  destroyed : Option SepigsError

namespace ShadowsocksTcpStream

variable (crypto : Crypto)

def destroy (stream : ShadowsocksTcpStream) (error : SepigsError) : ShadowsocksTcpStream :=
  { stream with destroyed := some error }

/-- `salt` is what `randomBytes` gives. -/
def sendSalt (salt : Bytes) (stream : ShadowsocksTcpStream) : ShadowsocksTcpStream :=
  { stream with
    encryptKey := some (deriveSubkey crypto stream.context.masterKey salt stream.context.spec.keyLength)
    sent := stream.sent ++ [salt] }

def create (salt : Bytes) (context : ShadowsocksCryptoContext) (prefixBytes : Bytes)
    (sendSaltOnCreate : Bool) : ShadowsocksTcpStream :=
  let stream : ShadowsocksTcpStream :=
    { context := context
      prefixBytes := prefixBytes
      encryptKey := none
      encryptNonce := zeroNonce
      decryptNonce := zeroNonce
      decryptBuffer := BufferQueue.empty
      decryptKey := none
      prefixSent := false
      pendingPayloadLength := none
      sent := []
      frames := []
      opened := []
      pushed := []
      destroyed := none }
  if sendSaltOnCreate then sendSalt crypto salt stream else stream

/-- The salt goes out first, where that was not done. -/
def getEncryptKey (salt : Bytes) (stream : ShadowsocksTcpStream) :
    ShadowsocksTcpStream × Except SepigsError Bytes :=
  let stream := if stream.encryptKey.isNone then sendSalt crypto salt stream else stream
  match stream.encryptKey with
  | none => (stream, .error (ProtocolError "failed to initialize Shadowsocks encrypt key"))
  | some key => (stream, .ok key)

/-- `_write`; an error ends the stream. -/
def write (salt : Bytes) (stream : ShadowsocksTcpStream) (chunk : Bytes) : ShadowsocksTcpStream :=
  let payload := if stream.prefixSent then chunk else stream.prefixBytes ++ chunk
  let stream := { stream with prefixSent := true }
  match stream.getEncryptKey crypto salt with
  | (stream, .error error) => stream.destroy error
  | (stream, .ok key) =>
    let encrypted := encryptTcpPayload crypto stream.context key payload stream.encryptNonce
    { stream with
      encryptNonce := encrypted.2
      frames := stream.frames ++ encrypted.1
      sent := stream.sent ++ [encrypted.1.flatMap SealedFrame.bytes] }

/-- `aeadDecrypt` with the next nonce and the next bytes. -/
def decryptNext (key : Bytes) (count : Nat) (stream : ShadowsocksTcpStream) :
    ShadowsocksTcpStream × Except SepigsError Bytes :=
  let nonce := stream.decryptNonce
  let stream := { stream with decryptNonce := incrementNonce nonce }
  match stream.decryptBuffer.read count with
  | .error error => (stream, .error error)
  | .ok (ciphertext, queue) =>
    ({ stream with decryptBuffer := queue, opened := stream.opened ++ [nonce] },
      aeadDecrypt crypto stream.context key nonce ciphertext)

/-- The first half of a turn of the loop; `none` leaves the loop. -/
def readPayloadLength (key : Bytes) (stream : ShadowsocksTcpStream) : ShadowsocksTcpStream × Option Nat :=
  match stream.pendingPayloadLength with
  | some length => (stream, some length)
  | none =>
    let lengthCipherBytes := 2 + stream.context.spec.authTagLength
    if stream.decryptBuffer.totalLength < lengthCipherBytes then (stream, none)
    else
      match stream.decryptNext crypto key lengthCipherBytes with
      | (stream, .error error) => (stream.destroy error, none)
      | (stream, .ok lengthPlain) =>
        match readUInt16BE lengthPlain with
        | .error error => (stream.destroy error, none)
        | .ok length => ({ stream with pendingPayloadLength := some length }, some length)

/-- The second half; `false` leaves the loop. -/
def readPayload (key : Bytes) (stream : ShadowsocksTcpStream) (length : Nat) : ShadowsocksTcpStream × Bool :=
  let payloadCipherBytes := length + stream.context.spec.authTagLength
  if stream.decryptBuffer.totalLength < payloadCipherBytes then (stream, false)
  else
    match stream.decryptNext crypto key payloadCipherBytes with
    | (stream, .error error) => (stream.destroy error, false)
    | (stream, .ok payload) =>
      ({ stream with
          pendingPayloadLength := none
          pushed := if 0 < payload.length then stream.pushed ++ [payload] else stream.pushed }, true)

def decryptFrame (key : Bytes) (stream : ShadowsocksTcpStream) : ShadowsocksTcpStream × Bool :=
  match stream.readPayloadLength crypto key with
  | (stream, none) => (stream, false)
  | (stream, some length) => stream.readPayload crypto key length

/-- What `decryptNext` does when the bytes are there. -/
theorem decryptNext_spec (key : Bytes) {count : Nat} (stream : ShadowsocksTcpStream)
    (hcount : count ≤ stream.decryptBuffer.totalLength) :
    ∃ queue, queue.content = stream.decryptBuffer.content.drop count ∧
      stream.decryptNext crypto key count =
        ({ stream with
            decryptNonce := incrementNonce stream.decryptNonce
            decryptBuffer := queue
            opened := stream.opened ++ [stream.decryptNonce] },
          aeadDecrypt crypto stream.context key stream.decryptNonce (stream.decryptBuffer.content.take count)) := by
  obtain ⟨queue, hread, hcontent⟩ := stream.decryptBuffer.read_spec hcount
  refine ⟨queue, hcontent, ?_⟩
  unfold decryptNext
  simp only []
  rw [hread]

/-- How far a stream is: a length that is pending counts for the turn that reads its payload. -/
def work (stream : ShadowsocksTcpStream) : Nat :=
  2 * stream.decryptBuffer.totalLength + if stream.pendingPayloadLength.isSome then 1 else 0

theorem readPayloadLength_work {key : Bytes} {stream next : ShadowsocksTcpStream} {length : Nat}
    (h : stream.readPayloadLength crypto key = (next, some length)) :
    next.pendingPayloadLength = some length ∧ next.work ≤ stream.work := by
  unfold readPayloadLength at h
  cases hpending : stream.pendingPayloadLength with
  | some pending =>
    rw [hpending] at h
    cases h
    exact ⟨hpending, Nat.le_refl _⟩
  | none =>
    rw [hpending] at h
    simp only [] at h
    by_cases hshort : stream.decryptBuffer.totalLength < 2 + stream.context.spec.authTagLength
    · rw [if_pos hshort] at h
      cases h
    · rw [if_neg hshort] at h
      obtain ⟨queue, hcontent, hnext⟩ := decryptNext_spec crypto key stream (Nat.le_of_not_lt hshort)
      rw [hnext] at h
      have hlength : queue.totalLength =
          stream.decryptBuffer.totalLength - (2 + stream.context.spec.authTagLength) := by
        rw [queue.totalLength_eq, hcontent, List.length_drop, stream.decryptBuffer.totalLength_eq]
      cases hopened : aeadDecrypt crypto stream.context key stream.decryptNonce
          (stream.decryptBuffer.content.take (2 + stream.context.spec.authTagLength)) with
      | error error =>
        rw [hopened] at h
        cases h
      | ok lengthPlain =>
        rw [hopened] at h
        cases hpayload : readUInt16BE lengthPlain with
        | error error =>
          simp only [hpayload] at h
          cases h
        | ok pending =>
          simp only [hpayload] at h
          cases h
          refine ⟨rfl, ?_⟩
          unfold work
          rw [hpending]
          simp only [Option.isSome_some, Option.isSome_none, if_true, Bool.false_eq_true, if_false]
          omega

theorem readPayload_work {key : Bytes} {stream next : ShadowsocksTcpStream} {length : Nat}
    (hpending : stream.pendingPayloadLength = some length)
    (h : stream.readPayload crypto key length = (next, true)) : next.work < stream.work := by
  unfold readPayload at h
  simp only [] at h
  by_cases hshort : stream.decryptBuffer.totalLength < length + stream.context.spec.authTagLength
  · rw [if_pos hshort] at h
    cases h
  · rw [if_neg hshort] at h
    obtain ⟨queue, hcontent, hnext⟩ := decryptNext_spec crypto key stream (Nat.le_of_not_lt hshort)
    rw [hnext] at h
    have hlength : queue.totalLength =
        stream.decryptBuffer.totalLength - (length + stream.context.spec.authTagLength) := by
      rw [queue.totalLength_eq, hcontent, List.length_drop, stream.decryptBuffer.totalLength_eq]
    cases hopened : aeadDecrypt crypto stream.context key stream.decryptNonce
        (stream.decryptBuffer.content.take (length + stream.context.spec.authTagLength)) with
    | error error =>
      rw [hopened] at h
      cases h
    | ok payload =>
      rw [hopened] at h
      cases h
      unfold work
      rw [hpending]
      simp only [Option.isSome_some, Option.isSome_none, if_true, Bool.false_eq_true, if_false]
      omega

theorem decryptFrame_work {key : Bytes} {stream next : ShadowsocksTcpStream}
    (h : stream.decryptFrame crypto key = (next, true)) : next.work < stream.work := by
  unfold decryptFrame at h
  split at h
  · cases h
  · next heq =>
    obtain ⟨hpending, hwork⟩ := readPayloadLength_work crypto heq
    have hless := readPayload_work crypto hpending h
    omega

/-- The loop of `handleEncryptedData`. -/
def decryptFrames (key : Bytes) (stream : ShadowsocksTcpStream) : ShadowsocksTcpStream :=
  match _h : stream.decryptFrame crypto key with
  | (next, true) => decryptFrames key next
  | (next, false) => next
termination_by stream.work
decreasing_by exact decryptFrame_work crypto _h

/-- `handleEncryptedData` on what is in the buffer: the salt, where it has not come, and the
frames. -/
def decryptBuffered (stream : ShadowsocksTcpStream) : ShadowsocksTcpStream :=
  match stream.decryptKey with
  | some key => stream.decryptFrames crypto key
  | none =>
    let saltLength := stream.context.spec.saltLength
    if stream.decryptBuffer.totalLength < saltLength then stream
    else
      match stream.decryptBuffer.read saltLength with
      | .error error => stream.destroy error
      | .ok (salt, queue) =>
        let key := deriveSubkey crypto stream.context.masterKey salt stream.context.spec.keyLength
        decryptFrames crypto key { stream with decryptBuffer := queue, decryptKey := some key }

def handleEncryptedData (stream : ShadowsocksTcpStream) (chunk : Bytes) : ShadowsocksTcpStream :=
  decryptBuffered crypto { stream with decryptBuffer := stream.decryptBuffer.push chunk }

/-- The `data` event; a stream that is destroyed has destroyed its socket. -/
def onData (stream : ShadowsocksTcpStream) (chunk : Bytes) : ShadowsocksTcpStream :=
  if stream.destroyed.isSome then stream else stream.handleEncryptedData crypto chunk

def writeAll (salt : Bytes) (stream : ShadowsocksTcpStream) (chunks : List Bytes) : ShadowsocksTcpStream :=
  chunks.foldl (write crypto salt) stream

def receiveAll (stream : ShadowsocksTcpStream) (chunks : List Bytes) : ShadowsocksTcpStream :=
  chunks.foldl (onData crypto) stream

end ShadowsocksTcpStream

end Sepigs
