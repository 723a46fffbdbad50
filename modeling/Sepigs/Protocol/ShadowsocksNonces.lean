import Sepigs.Protocol.ShadowsocksStream

/-!
# The nonces of a Shadowsocks stream

A stream opens with the nonces that `tracer` puts out: so they are the nonces from zero on, and
how the bytes are cut into chunks does not matter.
-/

namespace Sepigs

open Decoder ShadowsocksTcpStream

/-! ## The sequence of nonces -/

/-- A number of nonces from one on. -/
def noncesFrom (nonce : Bytes) (count : Nat) : List Bytes := (List.range count).map (nonceAfter nonce)

@[simp] theorem length_noncesFrom (nonce : Bytes) (count : Nat) : (noncesFrom nonce count).length = count := by
  simp [noncesFrom]

theorem noncesFrom_add (nonce : Bytes) (first more : Nat) :
    noncesFrom nonce (first + more) = noncesFrom nonce first ++ noncesFrom (nonceAfter nonce first) more := by
  unfold noncesFrom
  rw [List.range_add, List.map_append, List.map_map]
  congr 1
  apply List.map_congr_left
  intro k _
  exact nonceAfter_add nonce first k

theorem noncesFrom_succ (nonce : Bytes) (count : Nat) :
    noncesFrom nonce (count + 1) = noncesFrom nonce count ++ [nonceAfter nonce count] :=
  noncesFrom_add nonce count 1

theorem nodup_noncesFrom {count : Nat} (h : count ≤ 2 ^ 96) : (noncesFrom zeroNonce count).Nodup := by
  have hpow : (2 : Nat) ^ 96 = 256 ^ 12 := by norm_num
  rw [hpow] at h
  refine List.Nodup.map_on ?_ List.nodup_range
  intro i hi j hj heq
  have hlti := List.mem_range.mp hi
  have hltj := List.mem_range.mp hj
  exact nonceAfter_inj (by omega) (by omega) heq

section Sequence

variable {crypto : Crypto} {context : ShadowsocksCryptoContext}

/-- The calls of `aeadEncrypt` for some parts. -/
theorem sealParts_nonces (key : Bytes) (parts : List Bytes) : ∀ nonce,
    ((sealParts crypto context key nonce parts).flatMap fun frame => [frame.length, frame.payload]).map
        Sealed.nonce = noncesFrom nonce (2 * parts.length) := by
  induction parts with
  | nil =>
    intro nonce
    rfl
  | cons part parts ih =>
    intro nonce
    unfold sealParts
    rw [List.flatMap_cons, List.map_append, ih, List.length_cons,
      show 2 * (parts.length + 1) = 2 + 2 * parts.length by omega, noncesFrom_add]
    rfl

/-- Whatever comes, the nonces are used in their order. -/
theorem tracer_output (bytes : Bytes) :
    ((tracer crypto context).drain freshReception bytes).output =
      noncesFrom zeroNonce ((tracer crypto context).drain freshReception bytes).output.length := by
  have hstep : ∀ (s : Reception) (output : List Bytes) (piece : Bytes),
      (tracer crypto context).need s = some piece.length →
      (s.nonce = nonceAfter zeroNonce output.length ∧ output = noncesFrom zeroNonce output.length) →
      (((tracer crypto context).take s piece).1.nonce =
          nonceAfter zeroNonce (output ++ ((tracer crypto context).take s piece).2).length ∧
        output ++ ((tracer crypto context).take s piece).2 =
          noncesFrom zeroNonce (output ++ ((tracer crypto context).take s piece).2).length) := by
    rintro ⟨key, nonce, pending, stopped⟩ output piece - ⟨hnonce, houtput⟩
    simp only [] at hnonce
    cases key with
    | none =>
      show nonce = nonceAfter zeroNonce (output ++ []).length ∧ output ++ [] = noncesFrom _ (output ++ []).length
      rw [List.append_nil]
      exact ⟨hnonce, houtput⟩
    | some key =>
      have hnext : (Reception.take crypto context ⟨some key, nonce, pending, stopped⟩ piece).1.nonce =
          incrementNonce nonce := by
        unfold Reception.take Reception.opened
        simp only []
        cases aeadDecrypt crypto context key nonce piece with
        | error error => rfl
        | ok plaintext =>
          cases pending with
          | some length => rfl
          | none =>
            simp only []
            cases readUInt16BE plaintext with
            | error error => rfl
            | ok length => rfl
      show (Reception.take crypto context ⟨some key, nonce, pending, stopped⟩ piece).1.nonce =
          nonceAfter zeroNonce (output ++ [nonce]).length ∧
        output ++ [nonce] = noncesFrom zeroNonce (output ++ [nonce]).length
      rw [hnext, List.length_append, List.length_singleton, nonceAfter_succ, noncesFrom_succ, ← hnonce, ← houtput]
      exact ⟨rfl, rfl⟩
  exact (drain_keeps hstep freshReception bytes [] ⟨rfl, rfl⟩).2

/-- The frames of some parts use two nonces each. -/
theorem tracer_frames {key : Bytes} (parts : List Bytes) : ∀ nonce,
    (∀ part ∈ parts, 1 ≤ part.length ∧ part.length ≤ 0x3fff) →
    (∀ frame ∈ sealParts crypto context key nonce parts,
      Opens crypto context frame.length ∧ Opens crypto context frame.payload) →
    ((tracer crypto context).drain (betweenFrames key nonce)
        ((sealParts crypto context key nonce parts).flatMap SealedFrame.bytes)).output =
      noncesFrom nonce (2 * parts.length) := by
  induction parts with
  | nil =>
    intro nonce hsizes hopens
    show ((tracer crypto context).drain (betweenFrames key nonce) []).output = []
    rw [drain_nil]
  | cons part parts ih =>
    intro nonce hsizes hopens
    obtain ⟨hpos, hsmall⟩ := hsizes part List.mem_cons_self
    obtain ⟨hlength, hpayload⟩ := hopens _ List.mem_cons_self
    have hrest := ih (nonceAfter nonce 2) (fun other hother => hsizes other (List.mem_cons_of_mem _ hother))
      (fun frame hframe => hopens frame (List.mem_cons_of_mem _ hframe))
    have htake : (tracer crypto context).take (betweenFrames key nonce)
        (sealFrame crypto context key nonce part).length.ciphertext = (withinFrame key nonce part.length, [nonce]) := by
      show ((betweenFrames key nonce).take crypto context _ |>.1, [nonce]) = _
      rw [take_length hsmall hlength]
    have htake' : (tracer crypto context).take (withinFrame key nonce part.length)
        (sealFrame crypto context key nonce part).payload.ciphertext =
          (betweenFrames key (nonceAfter nonce 2), [incrementNonce nonce]) := by
      show ((withinFrame key nonce part.length).take crypto context _ |>.1, [incrementNonce nonce]) = _
      rw [take_payload hpos hpayload]
    unfold sealParts
    rw [List.flatMap_cons]
    show ((tracer crypto context).drain _ ((_ ++ _) ++ _)).output = _
    rw [List.append_assoc, drain_piece (need_length key nonce part), htake,
      drain_piece (need_payload key nonce part), htake', List.length_cons,
      show 2 * (parts.length + 1) = 2 + 2 * parts.length by omega, noncesFrom_add, ← hrest]
    rfl

theorem tracer_sent {salt : Bytes} (hsalt : salt.length = context.spec.saltLength) (parts : List Bytes)
    (hsizes : ∀ part ∈ parts, 1 ≤ part.length ∧ part.length ≤ 0x3fff)
    (hopens : ∀ frame ∈ sealParts crypto context (subkey crypto salt context) zeroNonce parts,
      Opens crypto context frame.length ∧ Opens crypto context frame.payload) :
    ((tracer crypto context).drain freshReception
        (salt ++ (sealParts crypto context (subkey crypto salt context) zeroNonce
          parts).flatMap SealedFrame.bytes)).output = noncesFrom zeroNonce (2 * parts.length) := by
  have hneed : (tracer crypto context).need freshReception = some salt.length := by
    rw [hsalt]
    rfl
  rw [drain_piece hneed]
  exact tracer_frames parts zeroNonce hsizes hopens

end Sequence

section Stream

variable {crypto : Crypto} {context : ShadowsocksCryptoContext} {salt prefixBytes : Bytes}
  {sendSaltOnCreate : Bool} {writes segments : List Bytes}

theorem peer_opened : (peer crypto context salt prefixBytes sendSaltOnCreate segments).opened =
    ((tracer crypto context).drain freshReception segments.flatten).output :=
  (create_receives salt context prefixBytes sendSaltOnCreate segments).2.2

/-- What some writes use, none of them included. -/
theorem sender_nonces :
    (sender crypto context salt prefixBytes sendSaltOnCreate writes).sealedEntries.map Sealed.nonce =
      noncesFrom zeroNonce (2 * (writtenParts prefixBytes writes).length) := by
  cases writes with
  | nil => cases sendSaltOnCreate <;> rfl
  | cons chunk chunks =>
    unfold sealedEntries
    rw [sender_frames crypto (List.cons_ne_nil chunk chunks)]
    exact sealParts_nonces _ _ _

theorem sender_opened {salt' prefixBytes' : Bytes} {sendSaltOnCreate' : Bool}
    (hsalt : salt.length = context.spec.saltLength)
    (hinverse : ∀ key nonce plaintext,
      aeadDecrypt crypto context key nonce (aeadEncrypt crypto context key nonce plaintext) = .ok plaintext)
    (hsegments : segments.flatten = (sender crypto context salt prefixBytes sendSaltOnCreate writes).sent.flatten) :
    (peer crypto context salt' prefixBytes' sendSaltOnCreate' segments).opened =
      noncesFrom zeroNonce (2 * (writtenParts prefixBytes writes).length) := by
  rw [peer_opened, hsegments]
  have hsizes := @writtenParts_size prefixBytes writes
  cases writes with
  | nil =>
    cases sendSaltOnCreate with
    | false =>
      show ((tracer crypto context).drain freshReception []).output = []
      rw [drain_nil]
    | true =>
      have hsent := @tracer_sent crypto context salt hsalt [] (fun part hpart => absurd hpart List.not_mem_nil)
        (fun frame hframe => absurd hframe List.not_mem_nil)
      exact hsent
  | cons chunk chunks =>
    obtain ⟨hsends, hsent⟩ :=
      writeAll_create crypto salt context prefixBytes sendSaltOnCreate (List.cons_ne_nil chunk chunks)
    unfold sender
    rw [hsent, hsends.frames]
    exact tracer_sent hsalt _ hsizes (opens_of_inverse crypto hinverse _ _)

end Stream

/-- **No nonce comes twice.**  `incrementNonce` counts in little endian; the calls of
`aeadEncrypt` of any writes have the nonces from zero on, all of them different below 2^96
calls; and the peer's calls of `aeadDecrypt` have the nonces from zero on too, as many as the
bytes say, and with the sender's bytes the sender's nonces. -/
theorem stream_nonces (crypto : Crypto) (method : ShadowsocksCipher) (password : String)
    (salt prefixBytes : Bytes) (sendSaltOnCreate : Bool) (writes : List Bytes)
    (salt' prefixBytes' : Bytes) (sendSaltOnCreate' : Bool) :
    (∀ nonce : Bytes, nonce.length = 12 → (incrementNonce nonce).length = 12 ∧
      nonceValue (incrementNonce nonce) = (nonceValue nonce + 1) % 2 ^ 96) ∧
    (let context := createShadowsocksCryptoContext crypto method password
     let sent := sender crypto context salt prefixBytes sendSaltOnCreate writes
     let used := sent.sealedEntries.map Sealed.nonce
     let received := peer crypto context salt' prefixBytes' sendSaltOnCreate'
     used = noncesFrom zeroNonce used.length ∧
     (used.length < 2 ^ 96 → used.Nodup) ∧
     (∀ segments : List Bytes,
       (received segments).opened = noncesFrom zeroNonce (received segments).opened.length ∧
       (received segments).opened = (received [segments.flatten]).opened) ∧
     (salt.length = context.spec.saltLength →
       (∀ key nonce plaintext,
         aeadDecrypt crypto context key nonce (aeadEncrypt crypto context key nonce plaintext) = .ok plaintext) →
       ∀ segments : List Bytes, segments.flatten = sent.sent.flatten → (received segments).opened = used)) := by
  refine ⟨fun nonce hlength => ⟨?_, ?_⟩, ?_⟩
  · rw [length_incrementNonce, hlength]
  · rw [nonceValue_incrementNonce, hlength, show (256 : Nat) ^ 12 = 2 ^ 96 by norm_num]
  · simp only []
    rw [sender_nonces, length_noncesFrom]
    refine ⟨rfl, fun hfew => nodup_noncesFrom (by omega), fun segments => ⟨?_, ?_⟩, ?_⟩
    · rw [peer_opened]
      exact tracer_output _
    · rw [peer_opened, peer_opened, List.flatten_singleton]
    · exact fun hsalt hinverse segments hsegments => sender_opened hsalt hinverse hsegments

/-- An AEAD that opens everything, three writes, and every byte in a chunk of its own. -/
theorem stream_nonces_plain :
    (peer (plainCrypto fun _ _ _ => true)
        (createShadowsocksCryptoContext (plainCrypto fun _ _ _ => true) .aes128gcm "") (List.replicate 16 1) []
        false ((sender (plainCrypto fun _ _ _ => true)
          (createShadowsocksCryptoContext (plainCrypto fun _ _ _ => true) .aes128gcm "") (List.replicate 16 0) [5]
          true [[6], [], [7]]).sent.flatten.map fun byte => [byte])).opened =
      (sender (plainCrypto fun _ _ _ => true)
        (createShadowsocksCryptoContext (plainCrypto fun _ _ _ => true) .aes128gcm "") (List.replicate 16 0) [5]
        true [[6], [], [7]]).sealedEntries.map Sealed.nonce := by
  refine (stream_nonces (plainCrypto fun _ _ _ => true) .aes128gcm "" (List.replicate 16 0) [5] true
    [[6], [], [7]] (List.replicate 16 1) [] false).2.2.2.2 rfl
      (fun key nonce plaintext => (plain_opens_iff _ _ _ _ _ _).mpr ⟨rfl, rfl⟩) _ ?_
  rw [← List.flatMap_def, List.flatMap_singleton']

end Sepigs
