import Sepigs.Dns.Message
import Sepigs.Lib.Buffer
import Sepigs.Protocol.AddressCodec

/-!
# Well-formed responses

A response with one question, as its sender means it: names are labels that end in the root
or in a compression pointer.  The decoder answers with the first IN A record.
-/

namespace Sepigs

namespace DnsMessage

open SocksCodec (twoBytes)

/-- A label of a name on the wire. -/
structure Label where
  bytes : Bytes
  size : 0 < bytes.length ∧ bytes.length ≤ 63

/-- How a name ends: a compression pointer has its two high bits set. -/
inductive NameEnd
  | root
  | pointer (high low : UInt8) (h : high.toNat &&& 0xc0 = 0xc0)

structure Name where
  labels : List Label
  ending : NameEnd

structure Question where
  name : Name
  type : UInt16
  klass : UInt16

structure AnswerRecord where
  name : Name
  type : UInt16
  klass : UInt16
  ttl : UInt32
  rdata : Bytes
  size : rdata.length < 65536

/-- `rest` is the authority and the additional section. -/
structure Response where
  id : UInt16
  flags : UInt16
  question : Question
  answers : List AnswerRecord
  count : answers.length < 65536
  authorityCount : UInt16
  additionalCount : UInt16
  rest : Bytes

def Label.encode (label : Label) : Bytes := UInt8.ofNat label.bytes.length :: label.bytes

def NameEnd.encode : NameEnd → Bytes
  | .root => [0]
  | .pointer high low _ => [high, low]

def Name.encode (name : Name) : Bytes := name.labels.flatMap Label.encode ++ name.ending.encode

def Question.encode (question : Question) : Bytes :=
  question.name.encode ++ twoBytes question.type.toNat ++ twoBytes question.klass.toNat

/-- Four bytes, the high one first. -/
def fourBytes (n : Nat) : Bytes := twoBytes (n / 65536) ++ twoBytes (n % 65536)

def AnswerRecord.encode (answer : AnswerRecord) : Bytes :=
  answer.name.encode ++ twoBytes answer.type.toNat ++ twoBytes answer.klass.toNat ++
    fourBytes answer.ttl.toNat ++ twoBytes answer.rdata.length ++ answer.rdata

def Response.encode (response : Response) : Bytes :=
  twoBytes response.id.toNat ++ twoBytes response.flags.toNat ++ twoBytes 1 ++
    twoBytes response.answers.length ++ twoBytes response.authorityCount.toNat ++
    twoBytes response.additionalCount.toNat ++ response.question.encode ++
    response.answers.flatMap AnswerRecord.encode ++ response.rest

/-- An IN A record with an address of four bytes. -/
def AnswerRecord.IsAddress (answer : AnswerRecord) : Prop :=
  answer.type = 1 ∧ answer.klass = 1 ∧ answer.rdata.length = 4

instance (answer : AnswerRecord) : Decidable answer.IsAddress :=
  inferInstanceAs (Decidable (_ ∧ _ ∧ _))

/-- The address that a list of records gives: the first one's that is an IN A record. -/
def answerOf (answers : List AnswerRecord) : Except DnsError DnsAResult :=
  match answers.find? fun answer => decide answer.IsAddress with
  | some answer =>
    .ok { address := dottedBytes answer.rdata, ttlMs := max 1000 (answer.ttl.toNat * 1000) }
  | none => .error (networkError "DNS response did not contain an A record")

/-! ## Reading at a known place -/

open Buffer (At)

section Places

variable {message : Bytes} {offset : Nat}

theorem byteAt_eq {b : UInt8} {rest : Bytes} (h : At message offset (b :: rest)) :
    (byteAt message offset).result = .ok b.toNat := by
  show Except.ok ((message[offset]?.map UInt8.toNat).getD 0) = _
  rw [h.getElem?]
  rfl

theorem twoBytesAt_eq {n : Nat} (hn : n < 65536) (h : At message offset (twoBytes n)) :
    (twoBytesAt message offset).result = .ok n := by
  unfold twoBytesAt
  rw [Reading.result_bind (byteAt_eq h), Reading.result_bind (byteAt_eq h.tail),
    Reading.result_pure]
  exact congrArg Except.ok (SocksCodec.uint16_twoBytes hn)

theorem fourBytes_value {a b c d n : Nat} (hhigh : a * 2 ^ 8 + b = n / 65536)
    (hlow : c * 2 ^ 8 + d = n % 65536) : a * 2 ^ 24 + b * 2 ^ 16 + c * 2 ^ 8 + d = n := by
  have hparts := Nat.div_add_mod n 65536
  rw [← hhigh, ← hlow] at hparts
  have h24 : 2 ^ 24 = 65536 * 2 ^ 8 := rfl
  have h16 : 2 ^ 16 = 65536 := rfl
  rw [← hparts, h24, h16, Nat.mul_add, Nat.mul_comm a, Nat.mul_comm a, ← Nat.mul_assoc,
    ← Nat.add_assoc, Nat.mul_comm b]

theorem readUInt32BE_eq {n : Nat} (hn : n < 2 ^ 32) (h : At message offset (fourBytes n)) :
    (readUInt32BE message offset).result = .ok n := by
  have hle : offset + 4 ≤ message.length := h.le
  obtain ⟨hhigh, hlow⟩ := h.append
  have hlow : At message (offset + 2) (twoBytes (n % 65536)) := hlow
  have hword := SocksCodec.uint16_twoBytes (show n / 65536 < 65536 by omega)
  have hword' := SocksCodec.uint16_twoBytes (show n % 65536 < 65536 by omega)
  unfold uint16 at hword hword'
  rw [Nat.shiftLeft_eq] at hword hword'
  unfold readUInt32BE
  rw [if_pos hle, Reading.result_bind (byteAt_eq hhigh),
    Reading.result_bind (byteAt_eq hhigh.tail), Reading.result_bind (byteAt_eq hlow),
    Reading.result_bind (byteAt_eq hlow.tail), Reading.result_pure]
  exact congrArg Except.ok (fourBytes_value hword hword')

/-- A length byte below 64 is no pointer. -/
theorem length_not_pointer {n : Nat} (h : n < 64) : n &&& 0xc0 ≠ 0xc0 := by
  revert n
  decide

/-- The walk goes past a label. -/
theorem skipDnsName_label {label : Label} (h : At message offset label.encode) :
    (skipDnsName message offset).result =
      (skipDnsName message (offset + label.encode.length)).result := by
  have hsize := label.size
  have hle := h.le
  have hlength : (UInt8.ofNat label.bytes.length).toNat = label.bytes.length := by
    rw [UInt8.toNat_ofNat']
    omega
  have hnext : offset + label.encode.length = offset + 1 + label.bytes.length := by
    show offset + (label.bytes.length + 1) = _
    omega
  rw [skipDnsName, if_pos (by omega), Reading.result_bind (byteAt_eq h), hlength,
    if_neg (length_not_pointer (by omega)), if_neg (by omega), hnext]

theorem skipDnsName_end {ending : NameEnd} (h : At message offset ending.encode) :
    (skipDnsName message offset).result = .ok (offset + ending.encode.length) := by
  have hle := h.le
  cases ending with
  | root =>
    have hlt : offset < message.length := hle
    rw [skipDnsName, if_pos hlt, Reading.result_bind (byteAt_eq h)]
    rfl
  | pointer high low hhigh =>
    have hlt : offset + 2 ≤ message.length := hle
    rw [skipDnsName, if_pos (by omega), Reading.result_bind (byteAt_eq h), if_pos hhigh]
    rfl

theorem skipDnsName_labels (ending : NameEnd) (labels : List Label) :
    ∀ offset, At message offset (labels.flatMap Label.encode ++ ending.encode) →
      (skipDnsName message offset).result =
        .ok (offset + (labels.flatMap Label.encode ++ ending.encode).length) := by
  induction labels with
  | nil => exact fun offset h => skipDnsName_end h
  | cons label labels ih =>
    intro offset h
    rw [List.flatMap_cons, List.append_assoc] at h ⊢
    obtain ⟨hlabel, hrest⟩ := h.append
    rw [skipDnsName_label hlabel, ih _ hrest, @List.length_append _ label.encode,
      Nat.add_assoc]

theorem skipDnsName_eq {name : Name} (h : At message offset name.encode) :
    (skipDnsName message offset).result = .ok (offset + name.encode.length) :=
  skipDnsName_labels name.ending name.labels offset h

theorem interpolate_eq_dottedBytes (a b c d : UInt8) :
    s!"{a.toNat}.{b.toNat}.{c.toNat}.{d.toNat}" = dottedBytes [a, b, c, d] := by
  apply String.toList_injective
  simp [dottedBytes, JsString.join, String.toList_append, toString]

/-- An answer with its header: the loop reads its fields, and either takes its address or
goes past it. -/
theorem decodeAnswers_cons {answer : AnswerRecord} (answers : Nat)
    (h : At message offset answer.encode) :
    (decodeAnswers message (answers + 1) offset).result =
      if answer.IsAddress then
        .ok { address := dottedBytes answer.rdata, ttlMs := max 1000 (answer.ttl.toNat * 1000) }
      else (decodeAnswers message answers (offset + answer.encode.length)).result := by
  have hsize := answer.size
  have hle := h.le
  unfold AnswerRecord.encode at h
  simp only [List.append_assoc] at h
  obtain ⟨hname, h⟩ := h.append
  obtain ⟨htype, h⟩ := h.append
  obtain ⟨hklass, h⟩ := h.append
  obtain ⟨httl, h⟩ := h.append
  obtain ⟨hlength, hrdata⟩ := h.append
  have hnext : offset + answer.encode.length =
      offset + answer.name.encode.length + 10 + answer.rdata.length := by
    unfold AnswerRecord.encode
    simp only [List.length_append]
    show _ + (_ + 2 + 2 + 4 + 2 + _) = _
    omega
  rw [hnext] at hle
  have hklass : At message (offset + answer.name.encode.length + 2) _ := hklass
  have httl : At message (offset + answer.name.encode.length + 4) _ := httl
  have hlength : At message (offset + answer.name.encode.length + 8) _ := hlength
  have hrdata : At message (offset + answer.name.encode.length + 10) answer.rdata := hrdata
  rw [hnext, decodeAnswers, Reading.result_bind (skipDnsName_eq hname), if_neg (by omega),
    Reading.result_bind (twoBytesAt_eq answer.type.toNat_lt htype),
    Reading.result_bind (twoBytesAt_eq answer.klass.toNat_lt hklass),
    Reading.result_bind (readUInt32BE_eq answer.ttl.toNat_lt httl),
    Reading.result_bind (twoBytesAt_eq hsize hlength)]
  show (if offset + answer.name.encode.length + 10 + answer.rdata.length > message.length then _
    else _ : Reading DnsError DnsAResult).result = _
  rw [if_neg (by omega)]
  have hiff : (answer.type.toNat = 1 ∧ answer.klass.toNat = 1 ∧ answer.rdata.length = 4) ↔
      answer.IsAddress := by
    unfold AnswerRecord.IsAddress
    rw [← UInt16.toNat_inj, ← UInt16.toNat_inj]
    rfl
  by_cases haddress : answer.IsAddress
  · rw [if_pos (hiff.mpr haddress), if_pos haddress]
    obtain ⟨a, b, c, d, hbytes⟩ : ∃ a b c d, answer.rdata = [a, b, c, d] := by
      have hfour := haddress.2.2
      match answer.rdata, hfour with
      | [a, b, c, d], _ => exact ⟨a, b, c, d, rfl⟩
    rw [hbytes] at hrdata ⊢
    rw [Reading.result_bind (byteAt_eq hrdata), Reading.result_bind (byteAt_eq hrdata.tail),
      Reading.result_bind (byteAt_eq hrdata.tail.tail),
      Reading.result_bind (byteAt_eq hrdata.tail.tail.tail), Reading.result_pure,
      interpolate_eq_dottedBytes]
  · rw [if_neg fun hread => haddress (hiff.mp hread), if_neg haddress]

theorem decodeAnswers_eq (answers : List AnswerRecord) :
    ∀ offset, At message offset (answers.flatMap AnswerRecord.encode) →
      (decodeAnswers message answers.length offset).result = answerOf answers := by
  induction answers with
  | nil => exact fun _ _ => rfl
  | cons answer answers ih =>
    intro offset h
    rw [List.flatMap_cons] at h
    obtain ⟨hanswer, hrest⟩ := h.append
    rw [List.length_cons, decodeAnswers_cons answers.length hanswer]
    unfold answerOf
    by_cases haddress : answer.IsAddress
    · rw [if_pos haddress, List.find?_cons_of_pos (by simpa using haddress)]
    · rw [if_neg haddress, List.find?_cons_of_neg (by simpa using haddress)]
      exact ih _ hrest

end Places

/-- The decoder reads a well-formed response as it is meant. -/
theorem decodeDnsAResponse_encode (response : Response) :
    (decodeDnsAResponse response.encode response.id.toNat).result = answerOf response.answers := by
  have h : At response.encode 0 response.encode := ⟨[], [], by simp, rfl⟩
  nth_rewrite 2 [Response.encode] at h
  simp only [List.append_assoc] at h
  obtain ⟨hid, h⟩ := h.append
  obtain ⟨hflags, h⟩ := h.append
  obtain ⟨hquestions, h⟩ := h.append
  obtain ⟨hcount, h⟩ := h.append
  obtain ⟨hauthority, h⟩ := h.append
  obtain ⟨hadditional, h⟩ := h.append
  obtain ⟨hquestion, h⟩ := h.append
  obtain ⟨hanswers, hrest⟩ := h.append
  have hcount : At response.encode 6 (twoBytes response.answers.length) := hcount
  have hquestion : At response.encode 12 response.question.encode := hquestion
  have hlong : 12 + response.question.encode.length ≤ response.encode.length := hquestion.le
  have hlength : response.question.encode.length = response.question.name.encode.length + 4 := by
    unfold Question.encode
    rw [List.length_append, List.length_append]
    rfl
  have hanswers : At response.encode (12 + response.question.encode.length)
      (response.answers.flatMap AnswerRecord.encode) := hanswers
  have hname : At response.encode 12 response.question.name.encode := by
    unfold Question.encode at hquestion
    rw [List.append_assoc] at hquestion
    exact hquestion.append.1
  rw [hlength, ← Nat.add_assoc] at hanswers
  unfold decodeDnsAResponse
  rw [if_neg (by omega), Reading.result_bind (twoBytesAt_eq response.id.toNat_lt hid),
    if_neg (fun hne => hne rfl), Reading.result_bind (twoBytesAt_eq response.count hcount),
    Reading.result_bind (skipDnsName_eq hname)]
  exact decodeAnswers_eq response.answers _ hanswers

/-- What a decoder of responses is to do: read inside the message only, answer or throw a
`NetworkError`, and answer a well-formed response with the first IN A record in it. -/
structure Decodes (decode : Bytes → Nat → Reading DnsError DnsAResult) : Prop where
  inside : ∀ message expectedId, ∀ i ∈ (decode message expectedId).reads, i < message.length
  outcome : ∀ message expectedId,
    (∃ answer, (decode message expectedId).result = .ok answer) ∨
      ∃ error, (decode message expectedId).result = .error error ∧ error.name = "NetworkError"
  answer : ∀ response : Response,
    (decode response.encode response.id.toNat).result = answerOf response.answers

theorem decodes : Decodes decodeDnsAResponse where
  inside := fun message expectedId => (decodeDnsAResponse_safe message expectedId).reads
  outcome := by
    intro message expectedId
    rcases (decodeDnsAResponse_safe message expectedId).cases with ⟨answer, h, -⟩ | ⟨error, h, he⟩
    · exact .inl ⟨answer, h⟩
    · exact .inr ⟨error, h, he⟩
  answer := decodeDnsAResponse_encode

end DnsMessage

/-- The decoder of the UDP resolver and the copy of the DoH client. -/
theorem responses_decoded :
    DnsMessage.Decodes DnsMessage.decodeDnsAResponse ∧ DnsMessage.Decodes Doh.decodeDnsAResponse :=
  ⟨DnsMessage.decodes, DnsMessage.decodes⟩

end Sepigs
