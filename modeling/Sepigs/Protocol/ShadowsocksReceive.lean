import Sepigs.Lib.Decoder
import Sepigs.Protocol.Shadowsocks

/-!
# Receiving from a Shadowsocks stream

The receiving side of a stream is a decoder that reads by given lengths: the salt, then a
sealed length and a sealed payload in turn.  `tracer` goes through the same states and puts out
the nonces that are used on the way.
-/

namespace Sepigs

open Decoder

/-- What decides how the next bytes are taken. -/
structure Reception where
  key : Option Bytes
  nonce : Bytes
  pending : Option Nat
  stopped : Bool
deriving DecidableEq, Repr

namespace Reception

variable (crypto : Crypto) (context : ShadowsocksCryptoContext)

def need (reception : Reception) : Option Nat :=
  if reception.stopped then none
  else
    match reception.key, reception.pending with
    | none, _ => some context.spec.saltLength
    | some _, none => some (2 + context.spec.authTagLength)
    | some _, some length => some (length + context.spec.authTagLength)

/-- A length or a payload that was opened. -/
def opened (reception : Reception) : Except SepigsError Bytes → Reception × List Bytes
  | .error _ => ({ reception with stopped := true }, [])
  | .ok plaintext =>
    match reception.pending with
    | some _ => ({ reception with pending := none }, if 0 < plaintext.length then [plaintext] else [])
    | none =>
      match readUInt16BE plaintext with
      | .error _ => ({ reception with stopped := true }, [])
      | .ok length => ({ reception with pending := some length }, [])

def take (reception : Reception) (piece : Bytes) : Reception × List Bytes :=
  match reception.key with
  | none =>
    ({ reception with key := some (deriveSubkey crypto context.masterKey piece context.spec.keyLength) }, [])
  | some key =>
    opened { reception with nonce := incrementNonce reception.nonce }
      (aeadDecrypt crypto context key reception.nonce piece)

/-- The nonces that a step opens with. -/
def nonces (reception : Reception) : List Bytes := if reception.key.isSome then [reception.nonce] else []

theorem need_pos (reception : Reception) (n : Nat) (h : reception.need context = some n) : 0 < n := by
  unfold need at h
  have htag := authTagLength_eq context.method
  have hsalt := saltLength_pos context.method
  rw [← context.spec_eq] at htag hsalt
  split at h
  · cases h
  · split at h
    · cases h
      exact hsalt
    · cases h
      omega
    · cases h
      omega

end Reception

def receiver (crypto : Crypto) (context : ShadowsocksCryptoContext) : Decoder Reception UInt8 Bytes where
  need := Reception.need context
  take := Reception.take crypto context
  need_pos := Reception.need_pos context

/-- It takes what `receiver` takes, and puts out the nonces. -/
def tracer (crypto : Crypto) (context : ShadowsocksCryptoContext) : Decoder Reception UInt8 Bytes where
  need := Reception.need context
  take reception piece := ((reception.take crypto context piece).1, reception.nonces)
  need_pos := Reception.need_pos context

namespace ShadowsocksTcpStream

def reception (stream : ShadowsocksTcpStream) : Reception :=
  ⟨stream.decryptKey, stream.decryptNonce, stream.pendingPayloadLength, stream.destroyed.isSome⟩

/-- The bytes that wait for more; a stream that is destroyed waits for nothing. -/
def waiting (stream : ShadowsocksTcpStream) : Bytes :=
  if stream.destroyed.isSome then [] else stream.decryptBuffer.content

variable (crypto : Crypto)

def drained (stream : ShadowsocksTcpStream) : Drained Reception UInt8 Bytes :=
  (receiver crypto stream.context).drain stream.reception stream.waiting

def traced (stream : ShadowsocksTcpStream) : Drained Reception UInt8 Bytes :=
  (tracer crypto stream.context).drain stream.reception stream.waiting

/-- What is pushed on the way is what the decoder puts out, and so are the nonces. -/
structure Advances (stream next : ShadowsocksTcpStream) : Prop where
  context : next.context = stream.context
  output : ∃ output, next.pushed = stream.pushed ++ output ∧
    stream.drained crypto = (next.drained crypto).after output
  nonces : ∃ used, next.opened = stream.opened ++ used ∧
    stream.traced crypto = (next.traced crypto).after used

/-- Nothing more can be read. -/
def Settled (stream : ShadowsocksTcpStream) : Prop :=
  stream.drained crypto = ⟨stream.reception, stream.waiting, []⟩

variable {crypto}

theorem Advances.refl (stream : ShadowsocksTcpStream) : Advances crypto stream stream :=
  ⟨rfl, ⟨[], (List.append_nil _).symm, rfl⟩, ⟨[], (List.append_nil _).symm, rfl⟩⟩

theorem Advances.trans {first second third : ShadowsocksTcpStream} (h : Advances crypto first second)
    (h' : Advances crypto second third) : Advances crypto first third := by
  obtain ⟨output, hpushed, hdrained⟩ := h.output
  obtain ⟨output', hpushed', hdrained'⟩ := h'.output
  obtain ⟨used, hopened, htraced⟩ := h.nonces
  obtain ⟨used', hopened', htraced'⟩ := h'.nonces
  refine ⟨h'.context.trans h.context, ⟨output ++ output', ?_, ?_⟩, ⟨used ++ used', ?_, ?_⟩⟩
  · rw [hpushed', hpushed, List.append_assoc]
  · rw [hdrained, hdrained', Drained.after_after]
  · rw [hopened', hopened, List.append_assoc]
  · rw [htraced, htraced', Drained.after_after]

theorem waiting_alive {stream : ShadowsocksTcpStream} (halive : stream.destroyed = none) :
    stream.waiting = stream.decryptBuffer.content := by
  unfold waiting
  rw [halive]
  rfl

theorem settled_destroy (stream : ShadowsocksTcpStream) (error : SepigsError) :
    (stream.destroy error).Settled crypto :=
  drain_stopped rfl []

theorem settled_short {stream : ShadowsocksTcpStream} {n : Nat} (halive : stream.destroyed = none)
    (hneed : stream.reception.need stream.context = some n) (hshort : stream.decryptBuffer.totalLength < n) :
    stream.Settled crypto := by
  refine drain_short hneed ?_
  rw [waiting_alive halive, ← stream.decryptBuffer.totalLength_eq]
  exact hshort

/-- With the key, the next bytes are opened with the next nonce. -/
theorem take_opened {stream : ShadowsocksTcpStream} {key : Bytes} (hkey : stream.decryptKey = some key)
    (piece : Bytes) :
    stream.reception.take crypto stream.context piece =
      Reception.opened { stream.reception with nonce := incrementNonce stream.decryptNonce }
        (aeadDecrypt crypto stream.context key stream.decryptNonce piece) := by
  unfold Reception.take
  split
  · next hnone =>
    have hreception : stream.decryptKey = none := hnone
    rw [hkey] at hreception
    cases hreception
  · next other hsome =>
    have hreception : stream.decryptKey = some other := hsome
    rw [hkey] at hreception
    cases hreception
    rfl

theorem nonces_of_key {stream : ShadowsocksTcpStream} {key : Bytes} (hkey : stream.decryptKey = some key) :
    stream.reception.nonces = [stream.decryptNonce] := by
  unfold Reception.nonces reception
  rw [hkey]
  rfl

/-- A step that takes the bytes a decoder takes. -/
theorem drain_of_take {ω : Type} {d : Decoder Reception UInt8 ω} {stream next : ShadowsocksTcpStream} {n : Nat}
    {output : List ω} (hd : d.need = Reception.need stream.context) (halive : stream.destroyed = none)
    (hneed : stream.reception.need stream.context = some n) (hlong : n ≤ stream.decryptBuffer.totalLength)
    (hwaiting : next.destroyed = none → next.decryptBuffer.content = stream.decryptBuffer.content.drop n)
    (htake : d.take stream.reception (stream.decryptBuffer.content.take n) = (next.reception, output)) :
    d.drain stream.reception stream.waiting = (d.drain next.reception next.waiting).after output := by
  rw [stream.decryptBuffer.totalLength_eq] at hlong
  rw [waiting_alive halive, drain_take (by rw [hd, hneed]) hlong, htake]
  cases hdestroyed : next.destroyed with
  | none => rw [waiting_alive hdestroyed, hwaiting hdestroyed]
  | some error =>
    have hstopped : d.need next.reception = none := by
      rw [hd]
      unfold Reception.need reception
      rw [hdestroyed]
      rfl
    rw [drain_stopped hstopped, drain_stopped hstopped]

theorem advances_of_take {stream next : ShadowsocksTcpStream} {n : Nat} {output : List Bytes}
    (halive : stream.destroyed = none) (hneed : stream.reception.need stream.context = some n)
    (hlong : n ≤ stream.decryptBuffer.totalLength) (hcontext : next.context = stream.context)
    (hpushed : next.pushed = stream.pushed ++ output)
    (hopened : next.opened = stream.opened ++ stream.reception.nonces)
    (hwaiting : next.destroyed = none → next.decryptBuffer.content = stream.decryptBuffer.content.drop n)
    (htake : stream.reception.take crypto stream.context (stream.decryptBuffer.content.take n) =
      (next.reception, output)) : Advances crypto stream next := by
  refine ⟨hcontext, ⟨output, hpushed, ?_⟩, ⟨_, hopened, ?_⟩⟩
  · unfold drained
    rw [hcontext]
    exact drain_of_take rfl halive hneed hlong hwaiting htake
  · unfold traced
    rw [hcontext]
    refine drain_of_take rfl halive hneed hlong hwaiting ?_
    show ((stream.reception.take crypto stream.context _).1, stream.reception.nonces) = _
    rw [htake]

/-- A length: it is there already, or it is read, or the loop ends. -/
theorem readPayloadLength_advances {key : Bytes} {stream next : ShadowsocksTcpStream} {result : Option Nat}
    (halive : stream.destroyed = none) (hkey : stream.decryptKey = some key)
    (h : stream.readPayloadLength crypto key = (next, result)) :
    Advances crypto stream next ∧ (result = none → next.Settled crypto) ∧
      ∀ length, result = some length →
        next.destroyed = none ∧ next.decryptKey = some key ∧ next.pendingPayloadLength = some length := by
  unfold readPayloadLength at h
  cases hpending : stream.pendingPayloadLength with
  | some pending =>
    rw [hpending] at h
    cases h
    refine ⟨Advances.refl stream, fun hnone => (nomatch hnone), fun length hlength => ?_⟩
    cases hlength
    exact ⟨halive, hkey, hpending⟩
  | none =>
    have hneed : stream.reception.need stream.context = some (2 + stream.context.spec.authTagLength) := by
      unfold Reception.need reception
      rw [halive, hkey, hpending]
      rfl
    rw [hpending] at h
    simp only [] at h
    by_cases hshort : stream.decryptBuffer.totalLength < 2 + stream.context.spec.authTagLength
    · rw [if_pos hshort] at h
      cases h
      exact ⟨Advances.refl stream, fun _ => settled_short halive hneed hshort, fun _ hlength => (nomatch hlength)⟩
    · rw [if_neg hshort] at h
      have hlong : 2 + stream.context.spec.authTagLength ≤ stream.decryptBuffer.totalLength := by omega
      obtain ⟨queue, hcontent, hnext⟩ := decryptNext_spec crypto key stream hlong
      rw [hnext] at h
      have hused := (congrArg (stream.opened ++ ·) (nonces_of_key hkey)).symm
      cases hopened : aeadDecrypt crypto stream.context key stream.decryptNonce
          (stream.decryptBuffer.content.take (2 + stream.context.spec.authTagLength)) with
      | error error =>
        rw [hopened] at h
        cases h
        refine ⟨advances_of_take halive hneed hlong rfl (List.append_nil _).symm hused (fun h => (nomatch h)) ?_,
          fun _ => settled_destroy _ _, fun _ hlength => (nomatch hlength)⟩
        rw [take_opened hkey, hopened]
        rfl
      | ok lengthPlain =>
        rw [hopened] at h
        cases hpayload : readUInt16BE lengthPlain with
        | error error =>
          simp only [hpayload] at h
          cases h
          refine ⟨advances_of_take halive hneed hlong rfl (List.append_nil _).symm hused (fun h => (nomatch h)) ?_,
            fun _ => settled_destroy _ _, fun _ hlength => (nomatch hlength)⟩
          rw [take_opened hkey, hopened]
          unfold Reception.opened reception
          simp only [hpending, hpayload]
          rfl
        | ok pending =>
          simp only [hpayload] at h
          cases h
          refine ⟨advances_of_take halive hneed hlong rfl (List.append_nil _).symm hused (fun _ => hcontent) ?_,
            fun hnone => (nomatch hnone), fun length hlength => ?_⟩
          · rw [take_opened hkey, hopened]
            unfold Reception.opened reception
            simp only [hpending, hpayload]
          · cases hlength
            exact ⟨halive, hkey, rfl⟩

/-- The payload of a length that is pending. -/
theorem readPayload_advances {key : Bytes} {stream next : ShadowsocksTcpStream} {length : Nat} {again : Bool}
    (halive : stream.destroyed = none) (hkey : stream.decryptKey = some key)
    (hpending : stream.pendingPayloadLength = some length)
    (h : stream.readPayload crypto key length = (next, again)) :
    Advances crypto stream next ∧ (again = false → next.Settled crypto) ∧
      (again = true → next.destroyed = none ∧ next.decryptKey = some key) := by
  have hneed : stream.reception.need stream.context = some (length + stream.context.spec.authTagLength) := by
    unfold Reception.need reception
    rw [halive, hkey, hpending]
    rfl
  unfold readPayload at h
  simp only [] at h
  by_cases hshort : stream.decryptBuffer.totalLength < length + stream.context.spec.authTagLength
  · rw [if_pos hshort] at h
    cases h
    exact ⟨Advances.refl stream, fun _ => settled_short halive hneed hshort, fun hagain => (nomatch hagain)⟩
  · rw [if_neg hshort] at h
    have hlong : length + stream.context.spec.authTagLength ≤ stream.decryptBuffer.totalLength := by omega
    obtain ⟨queue, hcontent, hnext⟩ := decryptNext_spec crypto key stream hlong
    rw [hnext] at h
    have hused := (congrArg (stream.opened ++ ·) (nonces_of_key hkey)).symm
    cases hopened : aeadDecrypt crypto stream.context key stream.decryptNonce
        (stream.decryptBuffer.content.take (length + stream.context.spec.authTagLength)) with
    | error error =>
      rw [hopened] at h
      cases h
      refine ⟨advances_of_take halive hneed hlong rfl (List.append_nil _).symm hused (fun h => (nomatch h)) ?_,
        fun _ => settled_destroy _ _, fun hagain => (nomatch hagain)⟩
      rw [take_opened hkey, hopened]
      rfl
    | ok payload =>
      rw [hopened] at h
      cases h
      have hpushed : (if 0 < payload.length then stream.pushed ++ [payload] else stream.pushed) =
          stream.pushed ++ if 0 < payload.length then [payload] else [] := by
        by_cases hpos : 0 < payload.length
        · rw [if_pos hpos, if_pos hpos]
        · rw [if_neg hpos, if_neg hpos, List.append_nil]
      refine ⟨advances_of_take halive hneed hlong rfl hpushed hused (fun _ => hcontent) ?_,
        fun hagain => (nomatch hagain), fun _ => ⟨halive, hkey⟩⟩
      rw [take_opened hkey, hopened]
      unfold Reception.opened reception
      simp only [hpending]

theorem decryptFrame_advances {key : Bytes} {stream next : ShadowsocksTcpStream} {again : Bool}
    (halive : stream.destroyed = none) (hkey : stream.decryptKey = some key)
    (h : stream.decryptFrame crypto key = (next, again)) :
    Advances crypto stream next ∧ (again = false → next.Settled crypto) ∧
      (again = true → next.destroyed = none ∧ next.decryptKey = some key) := by
  unfold decryptFrame at h
  split at h
  · next middle heq =>
    cases h
    obtain ⟨hadvances, hsettled, -⟩ := readPayloadLength_advances halive hkey heq
    exact ⟨hadvances, fun _ => hsettled rfl, fun hagain => (nomatch hagain)⟩
  · next middle length heq =>
    obtain ⟨hadvances, -, hlength⟩ := readPayloadLength_advances halive hkey heq
    obtain ⟨halive', hkey', hpending⟩ := hlength length rfl
    obtain ⟨hadvances', hsettled, hagain⟩ := readPayload_advances halive' hkey' hpending h
    exact ⟨hadvances.trans hadvances', hsettled, hagain⟩

theorem decryptFrames_advances (key : Bytes) (stream : ShadowsocksTcpStream)
    (halive : stream.destroyed = none) (hkey : stream.decryptKey = some key) :
    Advances crypto stream (stream.decryptFrames crypto key) ∧ (stream.decryptFrames crypto key).Settled crypto := by
  induction stream using decryptFrames.induct crypto key with
  | case1 stream next h ih =>
    obtain ⟨hadvances, -, hagain⟩ := decryptFrame_advances halive hkey h
    obtain ⟨halive', hkey'⟩ := hagain rfl
    obtain ⟨hrest, hsettled⟩ := ih halive' hkey'
    have hunfold : stream.decryptFrames crypto key = next.decryptFrames crypto key := by
      conv => lhs; unfold decryptFrames
      split
      · next heq =>
        rw [h] at heq
        cases heq
        rfl
      · next heq =>
        rw [h] at heq
        cases heq
    rw [hunfold]
    exact ⟨hadvances.trans hrest, hsettled⟩
  | case2 stream next h =>
    obtain ⟨hadvances, hsettled, -⟩ := decryptFrame_advances halive hkey h
    have hunfold : stream.decryptFrames crypto key = next := by
      unfold decryptFrames
      split
      · next heq =>
        rw [h] at heq
        cases heq
      · next heq =>
        rw [h] at heq
        cases heq
        rfl
    rw [hunfold]
    exact ⟨hadvances, hsettled rfl⟩

theorem decryptBuffered_advances (stream : ShadowsocksTcpStream) (halive : stream.destroyed = none) :
    Advances crypto stream (stream.decryptBuffered crypto) ∧ (stream.decryptBuffered crypto).Settled crypto := by
  unfold decryptBuffered
  cases hkey : stream.decryptKey with
  | some key => exact decryptFrames_advances key stream halive hkey
  | none =>
    simp only []
    have hneed : stream.reception.need stream.context = some stream.context.spec.saltLength := by
      unfold Reception.need reception
      rw [halive, hkey]
      rfl
    by_cases hshort : stream.decryptBuffer.totalLength < stream.context.spec.saltLength
    · rw [if_pos hshort]
      exact ⟨Advances.refl stream, settled_short halive hneed hshort⟩
    · rw [if_neg hshort]
      have hlong : stream.context.spec.saltLength ≤ stream.decryptBuffer.totalLength := by omega
      obtain ⟨queue, hread, hcontent⟩ := stream.decryptBuffer.read_spec hlong
      rw [hread]
      simp only []
      generalize hsubkey : deriveSubkey crypto stream.context.masterKey
        (stream.decryptBuffer.content.take stream.context.spec.saltLength) stream.context.spec.keyLength = key
      have htake : stream.reception.take crypto stream.context
          (stream.decryptBuffer.content.take stream.context.spec.saltLength) =
            ({ stream.reception with key := some key }, []) := by
        rw [← hsubkey]
        unfold Reception.take reception
        rw [hkey]
      have hnone : stream.opened = stream.opened ++ stream.reception.nonces := by
        unfold Reception.nonces reception
        rw [hkey]
        exact (List.append_nil _).symm
      have hsalt : Advances crypto stream { stream with decryptBuffer := queue, decryptKey := some key } :=
        advances_of_take halive hneed hlong rfl (List.append_nil _).symm hnone (fun _ => hcontent) htake
      obtain ⟨hframes, hsettled⟩ := decryptFrames_advances key
        { stream with decryptBuffer := queue, decryptKey := some key } halive rfl
      exact ⟨hsalt.trans hframes, hsettled⟩

/-- The bytes received so far have these outputs, and leave the stream like this. -/
structure Drains (stream next : ShadowsocksTcpStream) (received : Drained Reception UInt8 Bytes)
    (traced : Drained Reception UInt8 Bytes) : Prop where
  context : next.context = stream.context
  output : ∃ output, next.pushed = stream.pushed ++ output ∧ received = ⟨next.reception, next.waiting, output⟩
  nonces : ∃ used, next.opened = stream.opened ++ used ∧ traced = ⟨next.reception, next.waiting, used⟩

theorem onData_drain (stream : ShadowsocksTcpStream) (chunk : Bytes) :
    Drains stream (stream.onData crypto chunk)
      ((receiver crypto stream.context).drain stream.reception (stream.waiting ++ chunk))
      ((tracer crypto stream.context).drain stream.reception (stream.waiting ++ chunk)) := by
  unfold onData
  cases halive : stream.destroyed with
  | some error =>
    have hstopped : stream.reception.need stream.context = none := by
      unfold Reception.need reception
      rw [halive]
      rfl
    have hwaiting : stream.waiting = [] := by
      unfold waiting
      rw [halive]
      rfl
    simp only [Option.isSome_some, if_true]
    refine ⟨rfl, ⟨[], (List.append_nil _).symm, ?_⟩, ⟨[], (List.append_nil _).symm, ?_⟩⟩
    · rw [@drain_stopped _ _ _ (receiver crypto stream.context) _ hstopped, hwaiting]
    · rw [@drain_stopped _ _ _ (tracer crypto stream.context) _ hstopped, hwaiting]
  | none =>
    have hpush : ∃ buffered : ShadowsocksTcpStream, buffered.destroyed = none ∧
        buffered.context = stream.context ∧ buffered.pushed = stream.pushed ∧
        buffered.opened = stream.opened ∧ buffered.reception = stream.reception ∧
        buffered.waiting = stream.waiting ++ chunk ∧
        stream.handleEncryptedData crypto chunk = buffered.decryptBuffered crypto := by
      refine ⟨{ stream with decryptBuffer := stream.decryptBuffer.push chunk },
        halive, rfl, rfl, rfl, rfl, ?_, rfl⟩
      rw [waiting_alive halive, ← stream.decryptBuffer.push_content chunk]
      exact waiting_alive halive
    obtain ⟨buffered, halive', hcontext, hpushed, hopened, hreception, hwaiting, hhandle⟩ := hpush
    obtain ⟨⟨hcontext', ⟨output, hpushed', hdrained⟩, ⟨used, hopened', htraced⟩⟩, hsettled⟩ :=
      decryptBuffered_advances buffered halive'
    simp only [Option.isSome_none, Bool.false_eq_true, if_false]
    rw [hhandle, ← hreception, ← hwaiting, ← hcontext]
    refine ⟨hcontext'.trans hcontext, ⟨output, hpushed ▸ hpushed', ?_⟩, ⟨used, hopened ▸ hopened', ?_⟩⟩
    · have hrest : (buffered.decryptBuffered crypto).drained crypto = ⟨_, _, []⟩ := hsettled
      rw [hrest] at hdrained
      rw [← List.append_nil output]
      exact hdrained
    · have hneed : (tracer crypto (buffered.decryptBuffered crypto).context).need =
          (receiver crypto (buffered.decryptBuffered crypto).context).need := rfl
      have hrest : (buffered.decryptBuffered crypto).traced crypto = ⟨_, _, []⟩ :=
        drain_settled_congr hneed hsettled
      rw [hrest] at htraced
      rw [← List.append_nil used]
      exact htraced

/-- **The received bytes decide**, however they are cut into chunks. -/
theorem receiveAll_drain (chunks : List Bytes) : ∀ stream : ShadowsocksTcpStream,
    Drains stream (stream.receiveAll crypto chunks)
      ((receiver crypto stream.context).feed stream.reception stream.waiting chunks)
      ((tracer crypto stream.context).feed stream.reception stream.waiting chunks) := by
  induction chunks with
  | nil =>
    intro stream
    exact ⟨rfl, ⟨[], (List.append_nil _).symm, rfl⟩, ⟨[], (List.append_nil _).symm, rfl⟩⟩
  | cons chunk chunks ih =>
    intro stream
    obtain ⟨hcontext, ⟨output, hpushed, hdrain⟩, ⟨used, hopened, htrace⟩⟩ :=
      @onData_drain crypto stream chunk
    obtain ⟨hcontext', ⟨output', hpushed', hfeed⟩, ⟨used', hopened', hfeed'⟩⟩ := ih (stream.onData crypto chunk)
    have hrest : stream.receiveAll crypto (chunk :: chunks) =
        (stream.onData crypto chunk).receiveAll crypto chunks := rfl
    rw [hcontext] at hfeed hfeed'
    rw [hrest]
    refine ⟨hcontext'.trans hcontext, ⟨output ++ output', ?_, ?_⟩, ⟨used ++ used', ?_, ?_⟩⟩
    · rw [hpushed', hpushed, List.append_assoc]
    · unfold Decoder.feed
      rw [hdrain]
      simp only []
      rw [hfeed]
      rfl
    · rw [hopened', hopened, List.append_assoc]
    · unfold Decoder.feed
      rw [htrace]
      simp only []
      rw [hfeed']
      rfl

/-- A stream that has received nothing. -/
def freshReception : Reception := ⟨none, zeroNonce, none, false⟩

theorem create_receives (salt : Bytes) (context : ShadowsocksCryptoContext) (prefixBytes : Bytes)
    (sendSaltOnCreate : Bool) (chunks : List Bytes) :
    (receiveAll crypto (create crypto salt context prefixBytes sendSaltOnCreate) chunks).reception =
        ((receiver crypto context).drain freshReception chunks.flatten).state ∧
      (receiveAll crypto (create crypto salt context prefixBytes sendSaltOnCreate) chunks).pushed =
        ((receiver crypto context).drain freshReception chunks.flatten).output ∧
      (receiveAll crypto (create crypto salt context prefixBytes sendSaltOnCreate) chunks).opened =
        ((tracer crypto context).drain freshReception chunks.flatten).output := by
  generalize hcreate : create crypto salt context prefixBytes sendSaltOnCreate = stream
  have hfresh : stream.context = context ∧ stream.reception = freshReception ∧ stream.waiting = [] ∧
      stream.pushed = [] ∧ stream.opened = [] := by
    rw [← hcreate]
    cases sendSaltOnCreate <;> exact ⟨rfl, rfl, rfl, rfl, rfl⟩
  obtain ⟨hcontext, hreception, hwaiting, hnothing, hunused⟩ := hfresh
  obtain ⟨-, ⟨output, hpushed, hfeed⟩, ⟨used, hopened, htrace⟩⟩ := @receiveAll_drain crypto chunks stream
  rw [hcontext, hreception, hwaiting, feed_eq_drain _ _ _ _ (drain_nil _), List.nil_append] at hfeed htrace
  rw [hfeed, htrace, hpushed, hopened, hnothing, hunused]
  exact ⟨rfl, rfl, rfl⟩

end ShadowsocksTcpStream

end Sepigs
