import Sepigs.Protocol.ShadowsocksReceive
import Sepigs.Protocol.ShadowsocksSend

/-!
# From one Shadowsocks stream to another

What is sent is received, however the bytes are cut into chunks; and with an AEAD that
opens only what was sealed nothing else is received, as long as no nonce is used twice.
-/

namespace Sepigs

open Decoder

theorem length_aeadEncrypt (crypto : Crypto) (context : ShadowsocksCryptoContext) (key nonce plaintext : Bytes) :
    (aeadEncrypt crypto context key nonce plaintext).length = plaintext.length + context.spec.authTagLength := by
  have hlength := crypto.encrypt_length context.spec.nodeCipher key nonce plaintext
  unfold aeadEncrypt
  simp only []
  rw [List.length_append, hlength.1, hlength.2, context.spec_eq, authTagLength_eq]

theorem readUInt16BE_writeUInt16BE {n : Nat} (h : n < 65536) : readUInt16BE (writeUInt16BE n) = .ok n := by
  have hsize : UInt8.size = 256 := rfl
  have hhigh : (UInt8.ofNat (n / 256)).toNat = n / 256 := UInt8.toNat_ofNat_of_lt' (by omega)
  have hlow : (UInt8.ofNat (n % 256)).toNat = n % 256 := UInt8.toNat_ofNat_of_lt' (by omega)
  show Except.ok ((UInt8.ofNat (n / 256)).toNat * 256 + (UInt8.ofNat (n % 256)).toNat) = _
  rw [hhigh, hlow, Nat.div_add_mod']

section Roundtrip

variable (crypto : Crypto) (context : ShadowsocksCryptoContext)

/-- What was sealed opens again. -/
def Opens (entry : Sealed) : Prop :=
  aeadDecrypt crypto context entry.key entry.nonce entry.ciphertext = .ok entry.plaintext

/-- The state between two frames. -/
def betweenFrames (key nonce : Bytes) : Reception := ⟨some key, nonce, none, false⟩

variable {crypto context}

/-- The state between the two parts of a frame. -/
def withinFrame (key nonce : Bytes) (length : Nat) : Reception := ⟨some key, incrementNonce nonce, some length, false⟩

theorem need_length (key nonce part : Bytes) : (betweenFrames key nonce).need context =
    some (sealFrame crypto context key nonce part).length.ciphertext.length := by
  show some (2 + context.spec.authTagLength) = some (aeadEncrypt crypto context key nonce _).length
  rw [length_aeadEncrypt]
  rfl

theorem need_payload (key nonce part : Bytes) : (withinFrame key nonce part.length).need context =
    some (sealFrame crypto context key nonce part).payload.ciphertext.length := by
  show some (part.length + context.spec.authTagLength) = some (aeadEncrypt crypto context key _ part).length
  rw [length_aeadEncrypt]

theorem take_length {key nonce part : Bytes} (hsmall : part.length ≤ 0x3fff)
    (hlength : Opens crypto context (sealFrame crypto context key nonce part).length) :
    (betweenFrames key nonce).take crypto context (sealFrame crypto context key nonce part).length.ciphertext =
      (withinFrame key nonce part.length, []) := by
  show Reception.opened _ (aeadDecrypt crypto context key nonce _) = _
  rw [show aeadDecrypt crypto context key nonce _ = _ from hlength]
  show Reception.opened _ (.ok (writeUInt16BE part.length)) = _
  unfold Reception.opened betweenFrames
  simp only []
  rw [readUInt16BE_writeUInt16BE (by omega)]
  rfl

theorem take_payload {key nonce part : Bytes} (hpos : 1 ≤ part.length)
    (hpayload : Opens crypto context (sealFrame crypto context key nonce part).payload) :
    (withinFrame key nonce part.length).take crypto context
        (sealFrame crypto context key nonce part).payload.ciphertext =
      (betweenFrames key (nonceAfter nonce 2), [part]) := by
  show Reception.opened _ (aeadDecrypt crypto context key (incrementNonce nonce) _) = _
  rw [show aeadDecrypt crypto context key (incrementNonce nonce) _ = _ from hpayload]
  show (_, if 0 < part.length then [part] else []) = _
  rw [if_pos (by omega)]
  rfl

/-- One frame, when its two parts open. -/
theorem drain_frame {key nonce part : Bytes} (rest : Bytes) (hpos : 1 ≤ part.length) (hsmall : part.length ≤ 0x3fff)
    (hlength : Opens crypto context (sealFrame crypto context key nonce part).length)
    (hpayload : Opens crypto context (sealFrame crypto context key nonce part).payload) :
    (receiver crypto context).drain (betweenFrames key nonce)
        ((sealFrame crypto context key nonce part).bytes ++ rest) =
      ((receiver crypto context).drain (betweenFrames key (nonceAfter nonce 2)) rest).after [part] := by
  unfold SealedFrame.bytes
  rw [List.append_assoc, drain_piece (need_length key nonce part),
    show (receiver crypto context).take (betweenFrames key nonce) _ = _ from take_length hsmall hlength,
    drain_piece (need_payload key nonce part),
    show (receiver crypto context).take (withinFrame key nonce part.length) _ = _ from take_payload hpos hpayload,
    Drained.after_after]
  rfl

/-- All frames, from any state between two frames. -/
theorem drain_frames {key : Bytes} (rest : Bytes) (parts : List Bytes) : ∀ nonce,
    (∀ part ∈ parts, 1 ≤ part.length ∧ part.length ≤ 0x3fff) →
    (∀ frame ∈ sealParts crypto context key nonce parts,
      Opens crypto context frame.length ∧ Opens crypto context frame.payload) →
    (receiver crypto context).drain (betweenFrames key nonce)
        ((sealParts crypto context key nonce parts).flatMap SealedFrame.bytes ++ rest) =
      ((receiver crypto context).drain (betweenFrames key (nonceAfter nonce (2 * parts.length))) rest).after parts := by
  induction parts with
  | nil =>
    intro nonce hsizes hopens
    exact (Drained.after_nil _).symm
  | cons part parts ih =>
    intro nonce hsizes hopens
    obtain ⟨hpos, hsmall⟩ := hsizes part List.mem_cons_self
    obtain ⟨hlength, hpayload⟩ := hopens _ List.mem_cons_self
    have hrest := ih (nonceAfter nonce 2) (fun other hother => hsizes other (List.mem_cons_of_mem _ hother))
      (fun frame hframe => hopens frame (List.mem_cons_of_mem _ hframe))
    unfold sealParts
    rw [List.flatMap_cons, List.append_assoc, drain_frame _ hpos hsmall hlength hpayload, hrest,
      Drained.after_after, ← nonceAfter_add, List.length_cons,
      show 2 + 2 * parts.length = 2 * (parts.length + 1) by omega]
    rfl

/-- The salt and some frames, from the start. -/
theorem drain_sent {salt : Bytes} (hsalt : salt.length = context.spec.saltLength) (parts : List Bytes)
    (hsizes : ∀ part ∈ parts, 1 ≤ part.length ∧ part.length ≤ 0x3fff)
    (hopens : ∀ frame ∈ sealParts crypto context (ShadowsocksTcpStream.subkey crypto salt context) zeroNonce parts,
      Opens crypto context frame.length ∧ Opens crypto context frame.payload) :
    (receiver crypto context).drain ShadowsocksTcpStream.freshReception
        (salt ++ (sealParts crypto context (ShadowsocksTcpStream.subkey crypto salt context) zeroNonce
          parts).flatMap SealedFrame.bytes) =
      ⟨betweenFrames (ShadowsocksTcpStream.subkey crypto salt context)
        (nonceAfter zeroNonce (2 * parts.length)), [], parts⟩ := by
  have hneed : (receiver crypto context).need ShadowsocksTcpStream.freshReception = some salt.length := by
    rw [hsalt]
    rfl
  have hframes := drain_frames [] parts zeroNonce
    hsizes hopens
  rw [List.append_nil] at hframes
  rw [drain_piece hneed]
  show (Drained.after [] ((receiver crypto context).drain
    (betweenFrames (ShadowsocksTcpStream.subkey crypto salt context) zeroNonce) _)) = _
  rw [hframes, Drained.after_after, drain_nil]
  show Drained.mk _ _ (([] ++ parts) ++ []) = _
  rw [List.append_nil, List.nil_append]

end Roundtrip

section Integrity

variable (crypto : Crypto) (context : ShadowsocksCryptoContext)

/-- Only what is in the list opens. -/
def OpensOnly (entries : List Sealed) : Prop :=
  ∀ key nonce ciphertext plaintext,
    aeadDecrypt crypto context key nonce ciphertext = .ok plaintext →
      ⟨key, nonce, plaintext, ciphertext⟩ ∈ entries

/-- Some of the parts have been put out, and the next nonce is the one after theirs. -/
structure InStep (parts : List Bytes) (reception : Reception) (output : List Bytes) (k : Nat) : Prop where
  le : k ≤ parts.length
  output : output.flatten = (parts.take k).flatten
  next : reception.stopped = false →
    (reception.pending = none ∧ reception.nonce = nonceAfter zeroNonce (2 * k)) ∨
      (k < parts.length ∧ reception.pending.isSome ∧ reception.nonce = nonceAfter zeroNonce (2 * k + 1))

variable {crypto context}

/-- What opens with the nonce of a length is that length. -/
theorem opened_length {key sealKey ciphertext plaintext : Bytes} {parts : List Bytes} {k : Nat}
    (hideal : OpensOnly crypto context ((sealParts crypto context sealKey zeroNonce parts).flatMap
      fun frame => [frame.length, frame.payload]))
    (hfew : 2 * parts.length < 256 ^ 12) (hk : k ≤ parts.length)
    (h : aeadDecrypt crypto context key (nonceAfter zeroNonce (2 * k)) ciphertext = .ok plaintext) :
    k < parts.length := by
  obtain ⟨i, part, hpart, hentry⟩ := (sealed_iff crypto context sealKey parts zeroNonce _).mp (hideal _ _ _ _ h)
  obtain ⟨hi, -⟩ := List.getElem?_eq_some_iff.mp hpart
  rcases hentry with hentry | hentry
  · have hnonce : nonceAfter zeroNonce (2 * k) = nonceAfter zeroNonce (2 * i) := congrArg Sealed.nonce hentry
    have heq := nonceAfter_inj (by omega) (by omega) hnonce
    omega
  · have hnonce : nonceAfter zeroNonce (2 * k) = nonceAfter zeroNonce (2 * i + 1) := congrArg Sealed.nonce hentry
    have heq := nonceAfter_inj (by omega) (by omega) hnonce
    omega

/-- What opens with the nonce of a payload is that payload. -/
theorem opened_payload {key sealKey ciphertext plaintext : Bytes} {parts : List Bytes} {k : Nat}
    (hideal : OpensOnly crypto context ((sealParts crypto context sealKey zeroNonce parts).flatMap
      fun frame => [frame.length, frame.payload]))
    (hfew : 2 * parts.length < 256 ^ 12) (hk : k < parts.length)
    (h : aeadDecrypt crypto context key (nonceAfter zeroNonce (2 * k + 1)) ciphertext = .ok plaintext) :
    parts[k]? = some plaintext := by
  obtain ⟨i, part, hpart, hentry⟩ := (sealed_iff crypto context sealKey parts zeroNonce _).mp (hideal _ _ _ _ h)
  obtain ⟨hi, -⟩ := List.getElem?_eq_some_iff.mp hpart
  rcases hentry with hentry | hentry
  · have hnonce : nonceAfter zeroNonce (2 * k + 1) = nonceAfter zeroNonce (2 * i) := congrArg Sealed.nonce hentry
    have heq := nonceAfter_inj (by omega) (by omega) hnonce
    omega
  · have hnonce : nonceAfter zeroNonce (2 * k + 1) = nonceAfter zeroNonce (2 * i + 1) :=
      congrArg Sealed.nonce hentry
    have heq := nonceAfter_inj (by omega) (by omega) hnonce
    have hplaintext : plaintext = part := congrArg Sealed.plaintext hentry
    rw [hplaintext, show k = i by omega]
    exact hpart

/-- A step of the receiver stays in step. -/
theorem take_inStep {sealKey : Bytes} {parts : List Bytes}
    (hideal : OpensOnly crypto context ((sealParts crypto context sealKey zeroNonce parts).flatMap
      fun frame => [frame.length, frame.payload]))
    (hfew : 2 * parts.length < 256 ^ 12) (reception : Reception) (output : List Bytes) (piece : Bytes)
    (hneed : (receiver crypto context).need reception = some piece.length)
    (h : ∃ k, InStep parts reception output k) :
    ∃ k, InStep parts ((receiver crypto context).take reception piece).1
      (output ++ ((receiver crypto context).take reception piece).2) k := by
  obtain ⟨k, hle, houtput, hnext⟩ := h
  have hrunning : reception.stopped = false := by
    by_contra hstopped
    have hnone : reception.need context = none := by
      unfold Reception.need
      rw [if_pos (by simpa using hstopped)]
    have hneed' : reception.need context = some piece.length := hneed
    rw [hnone] at hneed'
    cases hneed'
  show ∃ k, InStep parts (reception.take crypto context piece).1
    (output ++ (reception.take crypto context piece).2) k
  unfold Reception.take
  cases hkey : reception.key with
  | none =>
    refine ⟨k, hle, ?_, hnext⟩
    rw [List.append_nil]
    exact houtput
  | some key =>
    simp only []
    cases hopened : aeadDecrypt crypto context key reception.nonce piece with
    | error error =>
      refine ⟨k, hle, ?_, fun hstopped => (nomatch hstopped)⟩
      show (output ++ []).flatten = _
      rw [List.append_nil]
      exact houtput
    | ok plaintext =>
      unfold Reception.opened
      simp only []
      rcases hnext hrunning with ⟨hpending, hnonce⟩ | ⟨hk, hpending, hnonce⟩
      · rw [hnonce] at hopened
        have hk := opened_length hideal hfew hle hopened
        rw [hpending]
        simp only []
        cases hlength : readUInt16BE plaintext with
        | error error =>
          refine ⟨k, hle, ?_, fun hstopped => (nomatch hstopped)⟩
          rw [List.append_nil]
          exact houtput
        | ok length =>
          refine ⟨k, hle, ?_, fun _ => Or.inr ⟨hk, rfl, ?_⟩⟩
          · rw [List.append_nil]
            exact houtput
          · rw [nonceAfter_succ, ← hnonce]
      · rw [hnonce] at hopened
        have hpart := opened_payload hideal hfew hk hopened
        obtain ⟨length, hlength⟩ := Option.isSome_iff_exists.mp hpending
        rw [hlength]
        refine ⟨k + 1, hk, ?_, fun _ => Or.inl ⟨rfl, ?_⟩⟩
        · have htake : parts.take (k + 1) = parts.take k ++ [plaintext] := by
            rw [List.take_add_one, hpart]
            rfl
          have hflat : (if 0 < plaintext.length then [plaintext] else []).flatten = plaintext := by
            by_cases hpos : 0 < plaintext.length
            · rw [if_pos hpos, List.flatten_singleton]
            · rw [if_neg hpos, List.length_eq_zero_iff.mp (show plaintext.length = 0 by omega)]
              rfl
          simp only []
          rw [List.flatten_append, houtput, hflat, htake, List.flatten_append, List.flatten_singleton]
        · show incrementNonce reception.nonce = _
          rw [hnonce, ← nonceAfter_succ]
          rfl

/-- Whatever comes, what is put out was sealed. -/
theorem drain_inStep {sealKey : Bytes} {parts : List Bytes}
    (hideal : OpensOnly crypto context ((sealParts crypto context sealKey zeroNonce parts).flatMap
      fun frame => [frame.length, frame.payload]))
    (hfew : 2 * parts.length < 256 ^ 12) (bytes : Bytes) :
    ((receiver crypto context).drain ShadowsocksTcpStream.freshReception bytes).output.flatten <+:
      parts.flatten := by
  have hstart : ∃ k, InStep parts ShadowsocksTcpStream.freshReception [] k :=
    ⟨0, Nat.zero_le _, rfl, fun _ => Or.inl ⟨rfl, rfl⟩⟩
  obtain ⟨k, -, houtput, -⟩ := drain_keeps (take_inStep hideal hfew) ShadowsocksTcpStream.freshReception bytes
    [] hstart
  rw [List.nil_append] at houtput
  rw [houtput]
  refine ⟨(parts.drop k).flatten, ?_⟩
  rw [← List.flatten_append, List.take_append_drop]

end Integrity

/-! ## Two streams -/

namespace ShadowsocksTcpStream

variable (crypto : Crypto) (context : ShadowsocksCryptoContext)

/-- The calls of `aeadEncrypt` a stream has made. -/
def sealedEntries (stream : ShadowsocksTcpStream) : List Sealed :=
  stream.frames.flatMap fun frame => [frame.length, frame.payload]

/-- What `createShadowsocksServerStream` or the outbound creates, and some writes to it. -/
def sender (salt prefixBytes : Bytes) (sendSaltOnCreate : Bool) (writes : List Bytes) : ShadowsocksTcpStream :=
  (create crypto salt context prefixBytes sendSaltOnCreate).writeAll crypto salt writes

/-- A stream that only receives; its own salt and prefix do not matter. -/
def peer (salt prefixBytes : Bytes) (sendSaltOnCreate : Bool) (segments : List Bytes) : ShadowsocksTcpStream :=
  (create crypto salt context prefixBytes sendSaltOnCreate).receiveAll crypto segments

end ShadowsocksTcpStream

/-- The nonce of the stream once the frame is sealed. -/
def SealedFrame.nextNonce (frame : SealedFrame) : Bytes := incrementNonce frame.payload.nonce

open ShadowsocksTcpStream

section Streams

variable (crypto : Crypto) {context : ShadowsocksCryptoContext} {salt prefixBytes : Bytes}
  {sendSaltOnCreate : Bool} {writes : List Bytes}

theorem writtenParts_flatten (hwrites : writes ≠ []) :
    (writtenParts prefixBytes writes).flatten = prefixBytes ++ writes.flatten := by
  cases writes with
  | nil => exact absurd rfl hwrites
  | cons chunk chunks =>
    have hrest : (chunks.flatMap payloadParts).flatten = chunks.flatten := by
      induction chunks with
      | nil => rfl
      | cons next chunks ih =>
        rw [List.flatMap_cons, List.flatten_append, payloadParts_flatten, ih (by simp), List.flatten_cons]
    unfold writtenParts
    rw [List.flatten_append, payloadParts_flatten, hrest, List.flatten_cons, List.append_assoc]

theorem writtenParts_size : ∀ part ∈ writtenParts prefixBytes writes, 1 ≤ part.length ∧ part.length ≤ 0x3fff := by
  intro part hpart
  cases writes with
  | nil => cases hpart
  | cons chunk chunks =>
    rcases List.mem_append.mp hpart with hfirst | hrest
    · exact payloadParts_size _ part hfirst
    · obtain ⟨other, -, hother⟩ := List.mem_flatMap.mp hrest
      exact payloadParts_size other part hother

theorem sender_frames (hwrites : writes ≠ []) :
    (sender crypto context salt prefixBytes sendSaltOnCreate writes).frames =
      sealParts crypto context (subkey crypto salt context) zeroNonce (writtenParts prefixBytes writes) :=
  (writeAll_create crypto salt context prefixBytes sendSaltOnCreate hwrites).1.frames

/-- Up to the end of a frame. -/
theorem sender_frames_upTo {before after : List SealedFrame} {frame : SealedFrame} (hwrites : writes ≠ [])
    (h : (sender crypto context salt prefixBytes sendSaltOnCreate writes).frames = before ++ frame :: after) :
    before ++ [frame] = sealParts crypto context (subkey crypto salt context) zeroNonce
        ((writtenParts prefixBytes writes).take (before.length + 1)) ∧
      ((writtenParts prefixBytes writes).take (before.length + 1)).length = before.length + 1 ∧
      frame.nextNonce = nonceAfter zeroNonce (2 * (before.length + 1)) := by
  rw [sender_frames crypto hwrites] at h
  generalize writtenParts prefixBytes writes = parts at h ⊢
  have hlength := length_sealParts crypto context (subkey crypto salt context) parts zeroNonce
  rw [h, List.length_append, List.length_cons] at hlength
  have htake : (parts.take (before.length + 1)).length = before.length + 1 := by
    rw [List.length_take]
    omega
  have hsplit : before ++ [frame] ++ after = sealParts crypto context (subkey crypto salt context) zeroNonce
      (parts.take (before.length + 1)) ++ sealParts crypto context (subkey crypto salt context)
        (nonceAfter zeroNonce (2 * (parts.take (before.length + 1)).length)) (parts.drop (before.length + 1)) := by
    rw [← sealParts_append, List.take_append_drop, h, List.append_assoc]
    rfl
  have hfirst : before ++ [frame] = sealParts crypto context (subkey crypto salt context) zeroNonce
      (parts.take (before.length + 1)) := by
    refine (List.append_inj hsplit ?_).1
    rw [length_sealParts, htake, List.length_append]
    rfl
  refine ⟨hfirst, htake, ?_⟩
  have hpart : parts.take (before.length + 1) = parts.take before.length ++ [parts[before.length]] :=
    (List.take_append_getElem (by omega)).symm
  rw [hpart, sealParts_append] at hfirst
  have hlast : frame = sealFrame crypto context (subkey crypto salt context)
      (nonceAfter zeroNonce (2 * (parts.take before.length).length)) parts[before.length] :=
    List.singleton_inj.mp (List.append_inj' hfirst rfl).2
  rw [hlast, List.length_take, Nat.min_eq_left (by omega),
    show 2 * (before.length + 1) = 2 * before.length + 1 + 1 by omega, nonceAfter_succ, nonceAfter_succ]
  rfl

/-- What the peer has once it has got the salt and the frames of some parts. -/
theorem peer_sent {salt' prefixBytes' : Bytes} {sendSaltOnCreate' : Bool} {segments : List Bytes}
    (hsalt : salt.length = context.spec.saltLength) (parts : List Bytes)
    (hsizes : ∀ part ∈ parts, 1 ≤ part.length ∧ part.length ≤ 0x3fff)
    (hopens : ∀ frame ∈ sealParts crypto context (subkey crypto salt context) zeroNonce parts,
      Opens crypto context frame.length ∧ Opens crypto context frame.payload)
    (hsegments : segments.flatten = salt ++ (sealParts crypto context (subkey crypto salt context) zeroNonce
      parts).flatMap SealedFrame.bytes) :
    (peer crypto context salt' prefixBytes' sendSaltOnCreate' segments).reception =
        betweenFrames (subkey crypto salt context) (nonceAfter zeroNonce (2 * parts.length)) ∧
      (peer crypto context salt' prefixBytes' sendSaltOnCreate' segments).pushed = parts := by
  obtain ⟨hreception, hpushed, -⟩ :=
    @create_receives crypto salt' context prefixBytes' sendSaltOnCreate' segments
  rw [hsegments, drain_sent hsalt parts hsizes hopens] at hreception hpushed
  exact ⟨hreception, hpushed⟩

/-- However the bytes on the wire are cut, the peer puts out what was given. -/
def RoundTrips (sender : ShadowsocksTcpStream) (peer : List Bytes → ShadowsocksTcpStream) (given : Bytes) : Prop :=
  ∀ segments : List Bytes, segments.flatten = sender.sent.flatten →
    (peer segments).destroyed = none ∧ (peer segments).pushed.flatten = given ∧
      (peer segments).decryptNonce = sender.encryptNonce

/-- At the end of every frame the two sides have the same nonce. -/
def NoncesAgree (sender : ShadowsocksTcpStream) (peer : List Bytes → ShadowsocksTcpStream) (salt : Bytes) : Prop :=
  ∀ (before after : List SealedFrame) (frame : SealedFrame) (segments : List Bytes),
    sender.frames = before ++ frame :: after →
    segments.flatten = salt ++ (before ++ [frame]).flatMap SealedFrame.bytes →
      (peer segments).pendingPayloadLength = none ∧ (peer segments).decryptNonce = frame.nextNonce

/-- The payload of a frame, in the range of its length. -/
def FramesInRange (sender : ShadowsocksTcpStream) : Prop :=
  ∀ frame ∈ sender.frames, 1 ≤ frame.payload.plaintext.length ∧ frame.payload.plaintext.length ≤ 0x3fff

/-- A frame of some parts has one of them as its payload. -/
theorem mem_sealParts {key : Bytes} {frame : SealedFrame} (parts : List Bytes) : ∀ nonce,
    frame ∈ sealParts crypto context key nonce parts →
      ∃ nonce' part, part ∈ parts ∧ frame = sealFrame crypto context key nonce' part := by
  induction parts with
  | nil =>
    intro nonce h
    cases h
  | cons part parts ih =>
    intro nonce h
    rcases List.mem_cons.mp h with rfl | hrest
    · exact ⟨nonce, part, List.mem_cons_self, rfl⟩
    · obtain ⟨nonce', other, hother, hframe⟩ := ih _ hrest
      exact ⟨nonce', other, List.mem_cons_of_mem _ hother, hframe⟩

theorem opens_of_inverse
    (hinverse : ∀ key nonce plaintext,
      aeadDecrypt crypto context key nonce (aeadEncrypt crypto context key nonce plaintext) = .ok plaintext)
    (key : Bytes) (parts : List Bytes) : ∀ frame ∈ sealParts crypto context key zeroNonce parts,
      Opens crypto context frame.length ∧ Opens crypto context frame.payload := by
  intro frame hframe
  obtain ⟨nonce, part, -, rfl⟩ := mem_sealParts crypto parts zeroNonce hframe
  exact ⟨hinverse key nonce _, hinverse key (incrementNonce nonce) part⟩

theorem framesInRange (hwrites : writes ≠ []) :
    FramesInRange (sender crypto context salt prefixBytes sendSaltOnCreate writes) := by
  intro frame hframe
  rw [sender_frames crypto hwrites] at hframe
  obtain ⟨nonce, part, hpart, rfl⟩ := mem_sealParts crypto _ _ hframe
  exact writtenParts_size part hpart

theorem roundTrips {salt' prefixBytes' : Bytes} {sendSaltOnCreate' : Bool} (hwrites : writes ≠ [])
    (hsalt : salt.length = context.spec.saltLength)
    (hinverse : ∀ key nonce plaintext,
      aeadDecrypt crypto context key nonce (aeadEncrypt crypto context key nonce plaintext) = .ok plaintext) :
    RoundTrips (sender crypto context salt prefixBytes sendSaltOnCreate writes)
      (peer crypto context salt' prefixBytes' sendSaltOnCreate') (prefixBytes ++ writes.flatten) := by
  intro segments hsegments
  obtain ⟨hsends, hsent⟩ := writeAll_create crypto salt context prefixBytes sendSaltOnCreate hwrites
  have hwire : segments.flatten = salt ++ (sealParts crypto context (subkey crypto salt context) zeroNonce
      (writtenParts prefixBytes writes)).flatMap SealedFrame.bytes := by
    rw [hsegments, ← hsends.frames]
    exact hsent
  obtain ⟨hreception, hpushed⟩ := @peer_sent crypto context salt salt' prefixBytes' sendSaltOnCreate' segments
    hsalt _ writtenParts_size (opens_of_inverse crypto hinverse _ _) hwire
  have hrunning := congrArg Reception.stopped hreception
  refine ⟨by simpa [reception, betweenFrames] using hrunning, ?_, ?_⟩
  · rw [hpushed, writtenParts_flatten hwrites]
  · exact (congrArg Reception.nonce hreception).trans hsends.nonce.symm

theorem noncesAgree {salt' prefixBytes' : Bytes} {sendSaltOnCreate' : Bool} (hwrites : writes ≠ [])
    (hsalt : salt.length = context.spec.saltLength)
    (hinverse : ∀ key nonce plaintext,
      aeadDecrypt crypto context key nonce (aeadEncrypt crypto context key nonce plaintext) = .ok plaintext) :
    NoncesAgree (sender crypto context salt prefixBytes sendSaltOnCreate writes)
      (peer crypto context salt' prefixBytes' sendSaltOnCreate') salt := by
  intro before after frame segments hframes hsegments
  obtain ⟨hupTo, hlength, hnonce⟩ := sender_frames_upTo crypto hwrites hframes
  rw [hupTo] at hsegments
  have hsizes : ∀ part ∈ (writtenParts prefixBytes writes).take (before.length + 1),
      1 ≤ part.length ∧ part.length ≤ 0x3fff := fun part hpart => writtenParts_size part (List.mem_of_mem_take hpart)
  obtain ⟨hreception, -⟩ := @peer_sent crypto context salt salt' prefixBytes' sendSaltOnCreate' segments
    hsalt _ hsizes (opens_of_inverse crypto hinverse _ _) hsegments
  rw [hlength, ← hnonce] at hreception
  exact ⟨congrArg Reception.pending hreception, congrArg Reception.nonce hreception⟩

theorem received_upTo {salt' prefixBytes' : Bytes} {sendSaltOnCreate' : Bool} (hwrites : writes ≠ [])
    (hideal : OpensOnly crypto context (sender crypto context salt prefixBytes sendSaltOnCreate writes).sealedEntries)
    (hfew : (sender crypto context salt prefixBytes sendSaltOnCreate writes).frames.length < 2 ^ 95)
    (segments : List Bytes) :
    (peer crypto context salt' prefixBytes' sendSaltOnCreate' segments).pushed.flatten <+:
      prefixBytes ++ writes.flatten := by
  unfold sealedEntries at hideal
  rw [sender_frames crypto hwrites] at hideal hfew
  rw [length_sealParts] at hfew
  have hpow : (256 : Nat) ^ 12 = 2 * 2 ^ 95 := by norm_num
  rw [← writtenParts_flatten hwrites]
  obtain ⟨-, hpushed, -⟩ := @create_receives crypto salt' context prefixBytes' sendSaltOnCreate' segments
  unfold peer
  rw [hpushed]
  exact drain_inStep hideal (by omega) _

/-- **A Shadowsocks stream is received as it was sent**, and nothing else is received: with an
AEAD that opens only what was sealed this holds as long as the nonces do not start again. -/
theorem shadowsocks_streams (method : ShadowsocksCipher) (password : String)
    (hcontext : context = createShadowsocksCryptoContext crypto method password)
    (hsalt : salt.length = (CIPHERS method).saltLength) (hwrites : writes ≠ [])
    (salt' prefixBytes' : Bytes) (sendSaltOnCreate' : Bool) :
    (sender crypto context salt prefixBytes sendSaltOnCreate writes).sent.flatten = salt ++
      (sender crypto context salt prefixBytes sendSaltOnCreate writes).frames.flatMap SealedFrame.bytes ∧
    FramesInRange (sender crypto context salt prefixBytes sendSaltOnCreate writes) ∧
    ((∀ key nonce plaintext,
        aeadDecrypt crypto context key nonce (aeadEncrypt crypto context key nonce plaintext) = .ok plaintext) →
      RoundTrips (sender crypto context salt prefixBytes sendSaltOnCreate writes)
        (peer crypto context salt' prefixBytes' sendSaltOnCreate') (prefixBytes ++ writes.flatten) ∧
      NoncesAgree (sender crypto context salt prefixBytes sendSaltOnCreate writes)
        (peer crypto context salt' prefixBytes' sendSaltOnCreate') salt) ∧
    (OpensOnly crypto context (sender crypto context salt prefixBytes sendSaltOnCreate writes).sealedEntries →
      (sender crypto context salt prefixBytes sendSaltOnCreate writes).frames.length < 2 ^ 95 →
      ∀ segments : List Bytes,
        (peer crypto context salt' prefixBytes' sendSaltOnCreate' segments).pushed.flatten <+:
          prefixBytes ++ writes.flatten) := by
  have hsalt' : salt.length = context.spec.saltLength := by
    rw [hsalt, hcontext]
    rfl
  obtain ⟨-, hsent⟩ := writeAll_create crypto salt context prefixBytes sendSaltOnCreate hwrites
  refine ⟨hsent, framesInRange crypto hwrites, fun hinverse => ⟨?_, ?_⟩, ?_⟩
  · exact roundTrips crypto hwrites hsalt' hinverse
  · exact noncesAgree crypto hwrites hsalt' hinverse
  · exact fun hideal hfew segments => received_upTo crypto hwrites hideal hfew segments

end Streams

/-! ## An AEAD without a cipher -/

/-- The text itself and a tag of zeros; it opens what it is allowed to. -/
def plainCrypto (allows : Bytes → Bytes → Bytes → Bool) : Crypto where
  md5 _ := ⟨List.replicate 16 0, rfl⟩
  hkdfSha1 _ _ _ _ := []
  encrypt _ _ _ plaintext := (plaintext, List.replicate 16 0)
  decrypt _ key nonce tag ciphertext :=
    if tag = List.replicate 16 0 ∧ allows key nonce ciphertext then .ok ciphertext
    else .error ⟨"", "Unsupported state or unable to authenticate data"⟩
  encrypt_length _ _ _ _ := ⟨rfl, rfl⟩

theorem plain_opens_iff (allows : Bytes → Bytes → Bytes → Bool) (context : ShadowsocksCryptoContext)
    (key nonce ciphertext plaintext : Bytes) :
    aeadDecrypt (plainCrypto allows) context key nonce ciphertext = .ok plaintext ↔
      ciphertext = plaintext ++ List.replicate 16 0 ∧ allows key nonce plaintext = true := by
  have htag : context.spec.authTagLength = 16 := by rw [context.spec_eq, authTagLength_eq]
  unfold aeadDecrypt plainCrypto
  rw [htag]
  simp only []
  constructor
  · intro h
    split at h
    · cases h
    · split at h
      · next hall =>
        obtain ⟨hzeros, hallows⟩ := hall
        cases h
        refine ⟨?_, hallows⟩
        rw [← hzeros, List.take_append_drop]
      · cases h
  · rintro ⟨rfl, hallows⟩
    rw [List.length_append, List.length_replicate, if_neg (by omega), Nat.add_sub_cancel, List.drop_left,
      List.take_left, if_pos ⟨rfl, hallows⟩]

theorem writtenParts_replicate (n : Nat) :
    writtenParts [] (List.replicate n [0]) = List.replicate n [0] := by
  have hpart : payloadParts [0] = [[0]] := by
    unfold payloadParts
    rw [if_neg (by decide)]
    have hrest : payloadParts (List.drop 0x3fff [0]) = [] := by
      unfold payloadParts
      rfl
    rw [hrest]
    rfl
  have hall : ∀ m, (List.replicate m [0]).flatMap payloadParts = List.replicate m [0] := by
    intro m
    induction m with
    | zero => rfl
    | succ m ih =>
      rw [List.replicate_succ, List.flatMap_cons, ih, hpart]
      rfl
  cases n with
  | zero => rfl
  | succ n =>
    show payloadParts [0] ++ (List.replicate n [0]).flatMap payloadParts = _
    rw [hpart, hall, List.replicate_succ]
    rfl

/-- Only the first length of one and the first zero byte. -/
def oneByteCrypto : Crypto :=
  plainCrypto fun key nonce text => key = [] ∧
    ((nonce = zeroNonce ∧ text = [0, 1]) ∨ (nonce = incrementNonce zeroNonce ∧ text = [0]))

theorem oneByte_opensOnly :
    OpensOnly oneByteCrypto (createShadowsocksCryptoContext oneByteCrypto .aes128gcm "")
      (sender oneByteCrypto (createShadowsocksCryptoContext oneByteCrypto .aes128gcm "") (List.replicate 16 0) []
        true (List.replicate 1 [0])).sealedEntries := by
  intro key nonce ciphertext plaintext hopened
  obtain ⟨hciphertext, hallows⟩ := (plain_opens_iff _ _ _ _ _ _).mp hopened
  obtain ⟨hkey, hentry⟩ := of_decide_eq_true hallows
  unfold sealedEntries
  rw [sender_frames oneByteCrypto (by decide), writtenParts_replicate, hciphertext, hkey]
  rcases hentry with ⟨rfl, rfl⟩ | ⟨rfl, rfl⟩
  · exact List.mem_cons_self
  · exact List.mem_cons_of_mem _ List.mem_cons_self

/-- A prefix and three writes, and an AEAD that opens everything; one write, and an AEAD that
opens nothing else. -/
theorem shadowsocks_streams_plain :
    RoundTrips
        (sender (plainCrypto fun _ _ _ => true)
          (createShadowsocksCryptoContext (plainCrypto fun _ _ _ => true) .aes128gcm "") (List.replicate 16 0) [5]
          true [[6], [], [7]])
        (peer (plainCrypto fun _ _ _ => true)
          (createShadowsocksCryptoContext (plainCrypto fun _ _ _ => true) .aes128gcm "") (List.replicate 16 1) []
          false)
        [5, 6, 7] ∧
      ∀ segments : List Bytes,
        (peer oneByteCrypto (createShadowsocksCryptoContext oneByteCrypto .aes128gcm "") (List.replicate 16 1) []
          false segments).pushed.flatten <+: [0] := by
  constructor
  · exact ((shadowsocks_streams (plainCrypto fun _ _ _ => true) .aes128gcm "" rfl rfl (by decide)
      (List.replicate 16 1) [] false).2.2.1 fun key nonce plaintext => (plain_opens_iff _ _ _ _ _ _).mpr ⟨rfl, rfl⟩).1
  · refine (shadowsocks_streams oneByteCrypto .aes128gcm "" rfl rfl (by decide) (List.replicate 16 1) []
      false).2.2.2 oneByte_opensOnly ?_
    rw [sender_frames oneByteCrypto (by decide), length_sealParts, writtenParts_replicate]
    decide

/-! ## When the nonces start again -/

/-- The length of one byte, or that byte. -/
def replayPlaintext (nonce : Bytes) : Bytes := if nonceValue nonce % 2 = 0 then [0, 1] else [0]

/-- With every nonce, one text only. -/
def replayCrypto : Crypto :=
  plainCrypto fun key nonce text => key = [] ∧ nonce.length = 12 ∧ text = replayPlaintext nonce

def replayContext : ShadowsocksCryptoContext := createShadowsocksCryptoContext replayCrypto .aes128gcm ""

theorem replay_opens {nonce : Bytes} (hlength : nonce.length = 12) :
    Opens replayCrypto replayContext (sealWith replayCrypto replayContext [] nonce (replayPlaintext nonce)) := by
  exact (plain_opens_iff _ _ _ _ _ _).mpr ⟨rfl, decide_eq_true ⟨rfl, hlength, rfl⟩⟩

theorem replay_opensOnly {key nonce ciphertext plaintext : Bytes}
    (h : aeadDecrypt replayCrypto replayContext key nonce ciphertext = .ok plaintext) :
    nonce.length = 12 ∧ (⟨key, nonce, plaintext, ciphertext⟩ : Sealed) =
      sealWith replayCrypto replayContext [] nonce (replayPlaintext nonce) := by
  obtain ⟨hciphertext, hallows⟩ := (plain_opens_iff _ _ _ _ _ _).mp h
  obtain ⟨hkey, hlength, hplaintext⟩ := of_decide_eq_true hallows
  refine ⟨hlength, ?_⟩
  rw [hciphertext, hkey, hplaintext]
  rfl

theorem replayPlaintext_nonceAfter (uses : Nat) :
    replayPlaintext (nonceAfter zeroNonce uses) = if uses % 2 = 0 then [0, 1] else [0] := by
  unfold replayPlaintext
  rw [nonceValue_nonceAfter, Nat.mod_mod_of_dvd uses (by decide)]

/-- Each call for a one-byte part seals the text that its nonce opens. -/
theorem replay_sealed {parts : List Bytes} (hparts : ∀ part ∈ parts, part = [0]) {entry : Sealed}
    (hentry : entry ∈ (sealParts replayCrypto replayContext [] zeroNonce parts).flatMap
      fun frame => [frame.length, frame.payload]) :
    entry = sealWith replayCrypto replayContext [] entry.nonce (replayPlaintext entry.nonce) ∧
      entry.nonce.length = 12 := by
  obtain ⟨i, part, hpart, hentry⟩ := (sealed_iff replayCrypto replayContext [] parts zeroNonce entry).mp hentry
  have hzero := hparts part (List.mem_of_getElem? hpart)
  rcases hentry with rfl | rfl
  · refine ⟨?_, length_nonceAfter _⟩
    show sealWith _ _ _ _ _ = sealWith _ _ _ (nonceAfter zeroNonce (2 * i)) (replayPlaintext (nonceAfter zeroNonce (2 * i)))
    rw [replayPlaintext_nonceAfter, if_pos (by omega), hzero]
    rfl
  · refine ⟨?_, length_nonceAfter _⟩
    show sealWith _ _ _ _ _ =
      sealWith _ _ _ (nonceAfter zeroNonce (2 * i + 1)) (replayPlaintext (nonceAfter zeroNonce (2 * i + 1)))
    rw [replayPlaintext_nonceAfter, if_neg (by omega), hzero]

/-- When every nonce has come once, every text that opens was sealed. -/
theorem replay_complete {n : Nat} (hn : 2 * n = 256 ^ 12) :
    OpensOnly replayCrypto replayContext
      ((sealParts replayCrypto replayContext [] zeroNonce (List.replicate n [0])).flatMap
        fun frame => [frame.length, frame.payload]) := by
  intro key nonce ciphertext plaintext hopened
  obtain ⟨hlength, hentry⟩ := replay_opensOnly hopened
  rw [hentry]
  have hlt := nonceValue_lt nonce
  rw [hlength] at hlt
  have hnonce : nonce = nonceAfter zeroNonce (nonceValue nonce) := by
    apply nonceValue_inj
    · rw [hlength, length_nonceAfter]
    · rw [nonceValue_nonceAfter, Nat.mod_eq_of_lt hlt]
  generalize nonceValue nonce = uses at hnonce hlt
  subst hnonce
  rw [replayPlaintext_nonceAfter]
  refine (sealed_iff replayCrypto replayContext [] _ zeroNonce _).mpr ⟨uses / 2, [0], ?_, ?_⟩
  · rw [List.getElem?_replicate, if_pos (by omega)]
  · by_cases heven : uses % 2 = 0
    · left
      rw [if_pos heven, show 2 * (uses / 2) = uses by omega]
      rfl
    · right
      rw [if_neg heven, show 2 * (uses / 2) + 1 = uses by omega]

/-- One frame more than there are nonces for: the peer takes the first one twice. -/
theorem replayed {n : Nat} (hn : 2 * n = 256 ^ 12) (salt : Bytes) (hsalt : salt.length = 16) :
    List.replicate n ([0] : Bytes) ≠ [] ∧
      OpensOnly replayCrypto replayContext
        (sender replayCrypto replayContext salt [] true (List.replicate n [0])).sealedEntries ∧
      (∀ entry ∈ (sender replayCrypto replayContext salt [] true (List.replicate n [0])).sealedEntries,
        Opens replayCrypto replayContext entry) ∧
      ∃ segments, ¬ (peer replayCrypto replayContext salt [] false segments).pushed.flatten <+:
        [] ++ (List.replicate n [0]).flatten := by
  have hwrites : List.replicate n ([0] : Bytes) ≠ [] := by
    intro hnil
    have hzero := congrArg List.length hnil
    rw [List.length_replicate] at hzero
    rw [show n = 0 from hzero] at hn
    cases hn
  have hframes := @sender_frames replayCrypto replayContext salt [] true _ hwrites
  rw [writtenParts_replicate] at hframes
  have hkey : subkey replayCrypto salt replayContext = [] := rfl
  rw [hkey] at hframes
  have hall : ∀ m, ∀ part ∈ List.replicate m ([0] : Bytes), part = [0] := fun m part hpart =>
    List.eq_of_mem_replicate hpart
  have hopens : ∀ m, ∀ entry ∈ (sealParts replayCrypto replayContext [] zeroNonce (List.replicate m [0])).flatMap
      (fun frame => [frame.length, frame.payload]), Opens replayCrypto replayContext entry := by
    intro m entry hentry
    obtain ⟨heq, hlength⟩ := replay_sealed (hall m) hentry
    rw [heq]
    exact replay_opens hlength
  unfold sealedEntries
  rw [hframes]
  refine ⟨hwrites, replay_complete hn, hopens n, [salt ++ (sealParts replayCrypto replayContext
    (subkey replayCrypto salt replayContext) zeroNonce (List.replicate (n + 1) [0])).flatMap SealedFrame.bytes], ?_⟩
  obtain ⟨-, hpushed⟩ := @peer_sent replayCrypto replayContext salt salt [] false
    [salt ++ (sealParts replayCrypto replayContext (subkey replayCrypto salt replayContext) zeroNonce
      (List.replicate (n + 1) [0])).flatMap SealedFrame.bytes] hsalt (List.replicate (n + 1) [0])
    (fun part hpart => by rw [hall _ part hpart]; decide)
    (fun frame hframe => by
      have hmem : ∀ entry ∈ [frame.length, frame.payload], Opens replayCrypto replayContext entry :=
        fun entry hentry => hopens (n + 1) entry (List.mem_flatMap.mpr ⟨frame, hframe, hentry⟩)
      exact ⟨hmem _ List.mem_cons_self, hmem _ (List.mem_cons_of_mem _ List.mem_cons_self)⟩)
    (by rw [List.flatten_singleton])
  rw [hpushed]
  intro hshort
  have hlength := hshort.length_le
  simp only [List.length_append, List.length_flatten, List.map_replicate, List.length_singleton,
    List.sum_replicate_nat, List.length_nil] at hlength
  omega

/-- The nonces start again after `2 ^ 95` frames: then the first one is taken once more. -/
theorem shadowsocks_frame_replayed :
    ∃ (crypto : Crypto) (method : ShadowsocksCipher) (password : String) (salt prefixBytes : Bytes)
      (sendSaltOnCreate : Bool) (writes segments : List Bytes),
      salt.length = (CIPHERS method).saltLength ∧ writes ≠ [] ∧
      OpensOnly crypto (createShadowsocksCryptoContext crypto method password)
        (sender crypto (createShadowsocksCryptoContext crypto method password) salt prefixBytes sendSaltOnCreate
          writes).sealedEntries ∧
      (∀ entry ∈ (sender crypto (createShadowsocksCryptoContext crypto method password) salt prefixBytes
          sendSaltOnCreate writes).sealedEntries,
        Opens crypto (createShadowsocksCryptoContext crypto method password) entry) ∧
      ¬ (peer crypto (createShadowsocksCryptoContext crypto method password) salt [] false segments).pushed.flatten
          <+: prefixBytes ++ writes.flatten := by
  obtain ⟨hwrites, hideal, hopens, segments, hreplayed⟩ :=
    replayed (show 2 * 2 ^ 95 = 256 ^ 12 by norm_num) (List.replicate 16 0) rfl
  exact ⟨replayCrypto, .aes128gcm, "", List.replicate 16 0, [], true, List.replicate (2 ^ 95) [0], segments,
    rfl, hwrites, hideal, hopens, hreplayed⟩

end Sepigs
