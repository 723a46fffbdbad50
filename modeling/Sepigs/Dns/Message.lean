import Sepigs.Dns.Resolver
import Sepigs.Lib.Reading

/-!
# DNS messages (`dns/resolver.ts`, `dns/doh.ts`)

The query for the A records of a host, and the reading of a response.  A read outside a
message gives 0, so that no read is outside is not seen from the answer: every position that
is read is part of the computation.

The two files have the functions word for word.
-/

namespace Sepigs

def networkError (message : String) : DnsError := ⟨"NetworkError", message⟩

namespace DnsMessage

/-! ## The response -/

/-- `message[offset] ?? 0` -/
def byteAt (message : Bytes) (offset : Nat) : Reading DnsError Nat where
  reads := [offset]
  result := .ok ((message[offset]?.map UInt8.toNat).getD 0)

/-- `((message[offset] ?? 0) << 8) + (message[offset + 1] ?? 0)` -/
def twoBytesAt (message : Bytes) (offset : Nat) : Reading DnsError Nat := do
  let high ← byteAt message offset
  let low ← byteAt message (offset + 1)
  pure ((high <<< 8) + low)

/-- `message.readUInt32BE(offset)` throws where the four bytes do not lie in the message. -/
def readUInt32BE (message : Bytes) (offset : Nat) : Reading DnsError Nat :=
  if offset + 4 ≤ message.length then do
    let first ← byteAt message offset
    let second ← byteAt message (offset + 1)
    let third ← byteAt message (offset + 2)
    let last ← byteAt message (offset + 3)
    pure (first * 2 ^ 24 + second * 2 ^ 16 + third * 2 ^ 8 + last)
  else .fail ⟨"RangeError", "Attempt to access memory outside buffer bounds"⟩

def skipDnsName (message : Bytes) (cursor : Nat) : Reading DnsError Nat :=
  if cursor < message.length then do
    let length ← byteAt message cursor
    if length &&& 0xc0 = 0xc0 then pure (cursor + 2)
    else if length = 0 then pure (cursor + 1)
    else skipDnsName message (cursor + 1 + length)
  else .fail (networkError "truncated DNS name")
termination_by message.length - cursor

/-- The loop over the answers, with the number of those that are left. -/
def decodeAnswers (message : Bytes) : Nat → Nat → Reading DnsError DnsAResult
  | 0, _ => .fail (networkError "DNS response did not contain an A record")
  | answers + 1, offset => do
    let offset ← skipDnsName message offset
    if offset + 10 > message.length then .fail (networkError "truncated DNS answer")
    else
      let type ← twoBytesAt message offset
      let klass ← twoBytesAt message (offset + 2)
      let ttl ← readUInt32BE message (offset + 4)
      let length ← twoBytesAt message (offset + 8)
      let offset := offset + 10
      if offset + length > message.length then .fail (networkError "truncated DNS rdata")
      else if type = 1 ∧ klass = 1 ∧ length = 4 then do
        let a ← byteAt message offset
        let b ← byteAt message (offset + 1)
        let c ← byteAt message (offset + 2)
        let d ← byteAt message (offset + 3)
        pure { address := s!"{a}.{b}.{c}.{d}", ttlMs := max 1000 (ttl * 1000) }
      else decodeAnswers message answers (offset + length)

def decodeDnsAResponse (message : Bytes) (expectedId : Nat) : Reading DnsError DnsAResult :=
  if message.length < 12 then .fail (networkError "invalid DNS response")
  else do
    let id ← twoBytesAt message 0
    if id ≠ expectedId then .fail (networkError "DNS response id mismatch")
    else
      let answerCount ← twoBytesAt message 6
      let offset ← skipDnsName message 12
      decodeAnswers message answerCount (offset + 4)

end DnsMessage

/-- The copies in `dns/doh.ts`. -/
def Doh.skipDnsName := DnsMessage.skipDnsName

def Doh.decodeDnsAResponse := DnsMessage.decodeDnsAResponse

namespace DnsMessage

/-! ## Safety -/

def IsNetworkError (error : DnsError) : Prop := error.name = "NetworkError"

section Safety

variable {message : Bytes} {offset : Nat}

theorem byteAt_safe (h : offset < message.length) :
    (byteAt message offset).Safe message.length IsNetworkError fun _ => True where
  reads := by
    intro i hi
    rw [List.mem_singleton.mp hi]
    exact h
  ok := fun _ _ => trivial
  error := by
    intro e he
    cases he

theorem twoBytesAt_safe (h : offset + 1 < message.length) :
    (twoBytesAt message offset).Safe message.length IsNetworkError fun _ => True :=
  (byteAt_safe (by omega)).bind fun _ _ => (byteAt_safe h).bind fun _ _ => Reading.safe_pure trivial

theorem readUInt32BE_safe (h : offset + 4 ≤ message.length) :
    (readUInt32BE message offset).Safe message.length IsNetworkError fun _ => True := by
  unfold readUInt32BE
  rw [if_pos h]
  refine (byteAt_safe (by omega)).bind fun _ _ => ?_
  refine (byteAt_safe (by omega)).bind fun _ _ => ?_
  refine (byteAt_safe (by omega)).bind fun _ _ => ?_
  refine (byteAt_safe (by omega)).bind fun _ _ => ?_
  exact Reading.safe_pure trivial

theorem skipDnsName_safe (message : Bytes) (cursor : Nat) :
    (skipDnsName message cursor).Safe message.length IsNetworkError fun _ => True := by
  fun_induction skipDnsName message cursor with
  | case1 cursor hlt ih =>
    refine (byteAt_safe hlt).bind fun length _ => ?_
    by_cases hpointer : length &&& 0xc0 = 0xc0
    · rw [if_pos hpointer]
      exact Reading.safe_pure trivial
    · rw [if_neg hpointer]
      by_cases hroot : length = 0
      · rw [if_pos hroot]
        exact Reading.safe_pure trivial
      · rw [if_neg hroot]
        exact ih length
  | case2 cursor hle => exact Reading.safe_fail rfl

theorem decodeAnswers_safe (message : Bytes) (answers : Nat) :
    ∀ offset, (decodeAnswers message answers offset).Safe message.length IsNetworkError
      fun _ => True := by
  induction answers with
  | zero => exact fun _ => Reading.safe_fail rfl
  | succ answers ih =>
    intro start
    refine (skipDnsName_safe message start).bind fun offset _ => ?_
    by_cases hheader : offset + 10 > message.length
    · rw [if_pos hheader]
      exact Reading.safe_fail rfl
    · rw [if_neg hheader]
      refine (twoBytesAt_safe (by omega)).bind fun type _ => ?_
      refine (twoBytesAt_safe (by omega)).bind fun klass _ => ?_
      refine (readUInt32BE_safe (by omega)).bind fun ttl _ => ?_
      refine (twoBytesAt_safe (by omega)).bind fun length _ => ?_
      by_cases hdata : offset + 10 + length > message.length
      · rw [if_pos hdata]
        exact Reading.safe_fail rfl
      · rw [if_neg hdata]
        by_cases haddress : type = 1 ∧ klass = 1 ∧ length = 4
        · rw [if_pos haddress]
          refine (byteAt_safe (by omega)).bind fun _ _ => ?_
          refine (byteAt_safe (by omega)).bind fun _ _ => ?_
          refine (byteAt_safe (by omega)).bind fun _ _ => ?_
          refine (byteAt_safe (by omega)).bind fun _ _ => ?_
          exact Reading.safe_pure trivial
        · rw [if_neg haddress]
          exact ih _

theorem decodeDnsAResponse_safe (message : Bytes) (expectedId : Nat) :
    (decodeDnsAResponse message expectedId).Safe message.length IsNetworkError
      fun _ => True := by
  unfold decodeDnsAResponse
  by_cases hshort : message.length < 12
  · rw [if_pos hshort]
    exact Reading.safe_fail rfl
  · rw [if_neg hshort]
    refine (twoBytesAt_safe (by omega)).bind fun id _ => ?_
    by_cases hid : id ≠ expectedId
    · rw [if_pos hid]
      exact Reading.safe_fail rfl
    · rw [if_neg hid]
      refine (twoBytesAt_safe (by omega)).bind fun answerCount _ => ?_
      refine (skipDnsName_safe message 12).bind fun offset _ => ?_
      exact decodeAnswers_safe message answerCount (offset + 4)

end Safety

end DnsMessage

end Sepigs
