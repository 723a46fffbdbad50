import Sepigs.Dns.Response

/-!
# Queries

The length byte of a label is computed from its UTF-8 form, and its bytes are the low bytes
of its UTF-16 code units.  A query carries the name of the host exactly where the labels of
the host are ASCII, not empty and no longer than 63 characters.
-/

namespace Sepigs

namespace DnsMessage

/-- The UTF-16 code units of a character. -/
def utf16Units (c : Char) : List Nat :=
  if c.toNat < 0x10000 then [c.toNat]
  else [0xd800 + (c.toNat - 0x10000) / 0x400, 0xdc00 + (c.toNat - 0x10000) % 0x400]

/-- `Buffer.from(text, "ascii")` writes the low byte of every code unit. -/
def asciiBytes (text : String) : Bytes :=
  text.toList.flatMap fun c => (utf16Units c).map UInt8.ofNat

/-- `[Buffer.from([Buffer.byteLength(label)]), Buffer.from(label, "ascii")]` -/
def questionPart (label : String) : Bytes :=
  UInt8.ofNat (utf8Bytes label).length :: asciiBytes label

/-- The id, the flags and the four counts. -/
def queryHeader (id : Nat) : Bytes :=
  [UInt8.ofNat ((id >>> 8) &&& 0xff), UInt8.ofNat (id &&& 0xff),
    0x01, 0x00, 0x00, 0x01, 0x00, 0x00, 0x00, 0x00, 0x00, 0x00]

def encodeDnsQuery (id : Nat) (host : String) : Bytes :=
  queryHeader id ++ ((JsString.split host '.').flatMap questionPart ++ [0x00, 0x00, 0x01, 0x00, 0x01])

end DnsMessage

/-- The copy in `dns/doh.ts`. -/
def Doh.encodeDnsQuery := DnsMessage.encodeDnsQuery

namespace DnsMessage

open Buffer (At)

/-! ## The name a query asks for -/

/-- The labels that the walk of `skipDnsName` goes past, and where it ends; a name that goes on
elsewhere is none. -/
def readName (message : Bytes) (cursor : Nat) : Option (List Bytes × Nat) :=
  if cursor < message.length then
    let length := (message[cursor]?.map UInt8.toNat).getD 0
    if length &&& 0xc0 = 0xc0 then none
    else if length = 0 then some ([], cursor + 1)
    else
      (readName message (cursor + 1 + length)).map fun rest =>
        ((message.drop (cursor + 1)).take length :: rest.1, rest.2)
  else none
termination_by message.length - cursor

theorem skipDnsName_of_readName (message : Bytes) (cursor : Nat) :
    ∀ labels stop, readName message cursor = some (labels, stop) →
      (skipDnsName message cursor).result = .ok stop := by
  fun_induction readName message cursor with
  | case1 cursor hlt length hpointer => exact fun labels stop h => nomatch h
  | case2 cursor hlt length hpointer hroot =>
    intro labels stop h
    cases h
    rw [skipDnsName, if_pos hlt]
    show (if length &&& 0xc0 = 0xc0 then _ else if length = 0 then _ else _ :
      Reading DnsError Nat).result = _
    rw [if_neg hpointer, if_pos hroot]
    rfl
  | case3 cursor hlt length hpointer hroot ih =>
    intro labels stop h
    obtain ⟨⟨labels', stop'⟩, hrest, heq⟩ := Option.map_eq_some_iff.mp h
    cases heq
    rw [skipDnsName, if_pos hlt]
    show (if length &&& 0xc0 = 0xc0 then _ else if length = 0 then _
      else skipDnsName message (cursor + 1 + length) : Reading DnsError Nat).result = _
    rw [if_neg hpointer, if_neg hroot]
    exact ih labels' stop' hrest
  | case4 cursor hle => exact fun labels stop h => nomatch h

theorem readName_lt {message : Bytes} {cursor : Nat} {name : List Bytes × Nat}
    (h : readName message cursor = some name) : cursor < message.length := by
  by_contra hle
  rw [readName, if_neg hle] at h
  cases h

/-- One character a byte. -/
def labelText (bytes : Bytes) : String := String.ofList (bytes.map fun b => Char.ofNat b.toNat)

/-- The labels of a host without the empty one of a root dot. -/
def dropRoot (labels : List String) : List String :=
  if labels.getLast? = some "" then labels.dropLast else labels

def hostLabels (host : String) : List String := dropRoot (JsString.split host '.')

/-- A well-formed query for the A records of the host. -/
structure AsksFor (packet : Bytes) (id : Nat) (host : String) : Prop where
  header : packet.take 12 = queryHeader id
  name : ∃ labels, readName packet 12 = some (labels, packet.length - 4) ∧
    (∀ label ∈ labels, 1 ≤ label.length ∧ label.length ≤ 63) ∧
    labels.map labelText = hostLabels host
  typeAndClass : packet.drop (packet.length - 4) = [0x00, 0x01, 0x00, 0x01]

/-- A label that DNS can carry as it is. -/
structure PlainLabel (label : String) : Prop where
  nonempty : label ≠ ""
  ascii : ∀ c ∈ label.toList, c.toNat < 128
  short : label.toList.length ≤ 63

/-! ## Lengths -/

theorem utf8Bytes_eq (text : String) : utf8Bytes text = text.toList.flatMap String.utf8EncodeChar := by
  unfold utf8Bytes
  rw [← String.utf8Encode_toList, List.utf8Encode]
  simp

theorem length_utf8Bytes (text : String) :
    (utf8Bytes text).length = (text.toList.map Char.utf8Size).sum := by
  rw [utf8Bytes_eq, List.length_flatMap]
  simp

theorem utf8Size_of_lt {c : Char} (h : c.toNat < 128) : c.utf8Size = 1 :=
  Char.utf8Size_eq_one_iff.mpr (by
    rw [UInt32.le_iff_toNat_le]
    exact Nat.le_of_lt_succ h)

theorem lt_of_utf8Size {c : Char} (h : c.utf8Size = 1) : c.toNat < 128 := by
  have hle := Char.utf8Size_eq_one_iff.mp h
  rw [UInt32.le_iff_toNat_le] at hle
  exact Nat.lt_succ_of_le hle

theorem utf8Size_le_two {c : Char} (h : c.toNat < 256) : c.utf8Size ≤ 2 := by
  by_cases hsmall : c.toNat < 128
  · rw [utf8Size_of_lt hsmall]
    omega
  · have htwo : c.utf8Size = 2 := by
      rw [Char.utf8Size_eq_two_iff, UInt32.lt_iff_toNat_lt, UInt32.le_iff_toNat_le]
      exact ⟨Nat.lt_of_not_le fun hle => hsmall (Nat.lt_succ_of_le hle),
        Nat.le_trans (Nat.le_of_lt h) (by decide)⟩
    omega

theorem length_utf8Bytes_ascii {label : String} (h : ∀ c ∈ label.toList, c.toNat < 128) :
    (utf8Bytes label).length = label.toList.length := by
  rw [length_utf8Bytes]
  generalize label.toList = chars at h ⊢
  induction chars with
  | nil => rfl
  | cons c chars ih =>
    rw [List.map_cons, List.sum_cons, utf8Size_of_lt (h c List.mem_cons_self),
      ih fun d hd => h d (List.mem_cons_of_mem c hd), List.length_cons, Nat.add_comm]

/-- Bytes as many as characters: every character is one byte. -/
theorem ascii_of_length {chars : List Char}
    (h : (chars.map Char.utf8Size).sum ≤ chars.length) : ∀ c ∈ chars, c.toNat < 128 := by
  have hle : ∀ l : List Char, l.length ≤ (l.map Char.utf8Size).sum := by
    intro l
    induction l with
    | nil => exact Nat.le_refl 0
    | cons c l ih =>
      have hpos := Char.utf8Size_pos c
      rw [List.map_cons, List.sum_cons, List.length_cons]
      omega
  induction chars with
  | nil => exact fun c hc => absurd hc List.not_mem_nil
  | cons d chars ih =>
    rw [List.map_cons, List.sum_cons, List.length_cons] at h
    have hpos := Char.utf8Size_pos d
    have hrest := hle chars
    intro c hc
    rcases List.mem_cons.mp hc with rfl | hc
    · exact lt_of_utf8Size (by omega)
    · exact ih (by omega) c hc

theorem length_utf8Bytes_le {label : String} (h : ∀ c ∈ label.toList, c.toNat < 256) :
    (utf8Bytes label).length ≤ 2 * label.toList.length := by
  rw [length_utf8Bytes]
  generalize label.toList = chars at h ⊢
  induction chars with
  | nil => exact Nat.le_refl 0
  | cons c chars ih =>
    have hc := utf8Size_le_two (h c List.mem_cons_self)
    have hrest := ih fun d hd => h d (List.mem_cons_of_mem c hd)
    rw [List.map_cons, List.sum_cons, List.length_cons]
    omega

theorem asciiBytes_eq {label : String} (h : ∀ c ∈ label.toList, c.toNat < 128) :
    asciiBytes label = label.toList.map fun c => UInt8.ofNat c.toNat := by
  unfold asciiBytes
  generalize label.toList = chars at h ⊢
  induction chars with
  | nil => rfl
  | cons c chars ih =>
    have hc : utf16Units c = [c.toNat] := by
      have hlt := h c List.mem_cons_self
      exact if_pos (by omega)
    rw [List.flatMap_cons, hc, ih fun d hd => h d (List.mem_cons_of_mem c hd)]
    rfl

theorem labelText_asciiBytes {label : String} (h : ∀ c ∈ label.toList, c.toNat < 128) :
    labelText (asciiBytes label) = label := by
  unfold labelText
  rw [asciiBytes_eq h, List.map_map]
  have hsame : label.toList.map ((fun b => Char.ofNat b.toNat) ∘ fun c => UInt8.ofNat c.toNat) =
      label.toList := by
    refine (List.map_congr_left ?_).trans (List.map_id _)
    intro c hc
    have hlt := h c hc
    show Char.ofNat (UInt8.ofNat c.toNat).toNat = c
    rw [UInt8.toNat_ofNat', Nat.mod_eq_of_lt (by omega), Char.ofNat_toNat]
  rw [hsame, String.ofList_toList]

theorem lt_of_mem_labelText (bytes : Bytes) : ∀ c ∈ (labelText bytes).toList, c.toNat < 256 := by
  unfold labelText
  rw [String.toList_ofList]
  intro c hc
  obtain ⟨b, -, rfl⟩ := List.mem_map.mp hc
  have hlt := b.toNat_lt
  have hvalid : b.toNat.isValidChar := Or.inl (by omega)
  have hchar : (Char.ofNat b.toNat).toNat = b.toNat := by
    unfold Char.ofNat
    rw [dif_pos hvalid]
    rfl
  omega

theorem length_labelText (bytes : Bytes) : (labelText bytes).toList.length = bytes.length := by
  unfold labelText
  rw [String.toList_ofList, List.length_map]

/-! ## The walk over a query -/

/-- The bytes after the labels: the root, the type and the class. -/
def footer : Bytes := [0x00, 0x00, 0x01, 0x00, 0x01]

theorem readName_root {message rest : Bytes} {cursor : Nat} (h : At message cursor (0 :: rest)) :
    readName message cursor = some ([], cursor + 1) := by
  have hle := h.le
  rw [List.length_cons] at hle
  rw [readName, if_pos (by omega), h.getElem?]
  rfl

theorem take_of_at {message part : Bytes} {cursor : Nat} (h : At message cursor part) :
    (message.drop cursor).take part.length = part := by
  obtain ⟨pre, post, rfl, rfl⟩ := h
  simp

/-- A length byte that is right, and the walk past its label. -/
theorem readName_label {message part rest : Bytes} {b : UInt8} {cursor : Nat}
    (h : At message cursor (b :: part ++ rest)) (hb : b.toNat = part.length)
    (hsize : 0 < part.length ∧ part.length ≤ 63) :
    readName message cursor =
      (readName message (cursor + 1 + part.length)).map fun name => (part :: name.1, name.2) := by
  have hle := h.le
  rw [List.length_append, List.length_cons] at hle
  have hpart : At message (cursor + 1) part := by
    exact (Buffer.At.tail (h : At message cursor (b :: (part ++ rest)))).append.1
  rw [readName, if_pos (by omega), Buffer.At.getElem? (h : At message cursor (b :: (part ++ rest)))]
  simp only [Option.map_some, Option.getD_some, hb, take_of_at hpart]
  rw [if_neg (length_not_pointer (by omega)), if_neg (by omega)]

section Walk

variable {message : Bytes}

/-- The walk over plain labels, up to the type and the class. -/
theorem readName_plain (parts : List String) (hplain : ∀ part ∈ parts, PlainLabel part) :
    ∀ cursor, At message cursor (parts.flatMap questionPart ++ footer) →
      readName message cursor =
        some (parts.map asciiBytes, cursor + (parts.flatMap questionPart).length + 1) := by
  induction parts with
  | nil => exact fun cursor h => readName_root h
  | cons part parts ih =>
    intro cursor h
    have hpart := hplain part List.mem_cons_self
    have hbytes : (asciiBytes part).length = part.toList.length := by
      rw [asciiBytes_eq hpart.ascii, List.length_map]
    have hpos : 0 < part.toList.length := by
      rw [List.length_pos_iff, Ne, String.toList_eq_nil_iff]
      exact hpart.nonempty
    have hlength : (UInt8.ofNat (utf8Bytes part).length).toNat = (asciiBytes part).length := by
      have hshort := hpart.short
      rw [UInt8.toNat_ofNat', length_utf8Bytes_ascii hpart.ascii, hbytes]
      omega
    rw [List.flatMap_cons, List.append_assoc] at h
    have hrest : At message (cursor + 1 + (asciiBytes part).length)
        (parts.flatMap questionPart ++ footer) := by
      have := h.append.2
      rwa [show cursor + (questionPart part).length = cursor + 1 + (asciiBytes part).length by
        show cursor + ((asciiBytes part).length + 1) = _
        omega] at this
    have hshort := hpart.short
    rw [readName_label h hlength (by omega), ih (fun p hp => hplain p (List.mem_cons_of_mem _ hp)) _ hrest,
      List.flatMap_cons, List.length_append, List.map_cons]
    show some _ = some (_, cursor + (((asciiBytes part).length + 1) + _) + 1)
    refine congrArg some (Prod.ext rfl ?_)
    show cursor + 1 + (asciiBytes part).length + (parts.flatMap questionPart).length + 1 =
      cursor + (((asciiBytes part).length + 1) + (parts.flatMap questionPart).length) + 1
    omega

theorem dropRoot_cons {part : String} {parts : List String} {text : String} {texts : List String}
    (h : text :: texts = dropRoot (part :: parts)) : text = part ∧ texts = dropRoot parts := by
  cases parts with
  | nil =>
    unfold dropRoot at h
    by_cases hpart : part = ""
    · subst hpart
      cases h
    · rw [if_neg (by simpa using hpart)] at h
      cases h
      exact ⟨rfl, rfl⟩
  | cons next parts =>
    unfold dropRoot at h ⊢
    rw [List.getLast?_cons_cons] at h
    by_cases hlast : (next :: parts).getLast? = some ""
    · rw [if_pos hlast] at h ⊢
      rw [List.dropLast_cons_cons] at h
      cases h
      exact ⟨rfl, rfl⟩
    · rw [if_neg hlast] at h ⊢
      cases h
      exact ⟨rfl, rfl⟩

/-- A label that the walk reads back is plain: its characters are bytes, so its UTF-8 form is
at most twice as long and the length byte does not wrap. -/
theorem plainLabel_of_read {part : String} {bytes : Bytes}
    (hbytes : bytes.length = (utf8Bytes part).length % 256)
    (hsize : 1 ≤ bytes.length ∧ bytes.length ≤ 63) (htext : labelText bytes = part) :
    PlainLabel part := by
  have hlt := lt_of_mem_labelText bytes
  have hlength := length_labelText bytes
  rw [htext] at hlt hlength
  have hle := length_utf8Bytes_le hlt
  rw [Nat.mod_eq_of_lt (by omega)] at hbytes
  refine ⟨?_, ?_, by omega⟩
  · rintro rfl
    rw [← hlength] at hsize
    exact absurd hsize.1 (by decide)
  · apply ascii_of_length
    rw [← length_utf8Bytes]
    omega

/-- What the walk reads back as the labels of the host was plain. -/
theorem plain_of_readName (parts : List String) :
    ∀ cursor labels, At message cursor (parts.flatMap questionPart ++ footer) →
      cursor + (parts.flatMap questionPart ++ footer).length = message.length →
      readName message cursor = some (labels, message.length - 4) →
      (∀ label ∈ labels, 1 ≤ label.length ∧ label.length ≤ 63) →
      labels.map labelText = dropRoot parts → ∀ part ∈ parts, PlainLabel part := by
  induction parts with
  | nil => exact fun _ _ _ _ _ _ _ part hpart => absurd hpart List.not_mem_nil
  | cons part parts ih =>
    intro cursor labels h hend hread hsize htexts
    have hmessage : message.length =
        cursor + 1 + (asciiBytes part).length + (parts.flatMap questionPart).length + 5 := by
      rw [← hend, List.flatMap_cons, List.append_assoc, List.length_append, List.length_append]
      show cursor + ((asciiBytes part).length + 1 + (_ + 5)) = _
      omega
    rw [List.flatMap_cons, List.append_assoc] at h
    have hfirst : message[cursor]? = some (UInt8.ofNat (utf8Bytes part).length) :=
      Buffer.At.getElem? h
    rw [readName, if_pos (by omega), hfirst] at hread
    generalize hvalue : ((some (UInt8.ofNat (utf8Bytes part).length)).map UInt8.toNat).getD 0 =
      length at hread
    have hlength : length = (utf8Bytes part).length % 256 := by
      rw [← hvalue]
      exact UInt8.toNat_ofNat'
    simp only at hread
    by_cases hpointer : length &&& 0xc0 = 0xc0
    · rw [if_pos hpointer] at hread
      cases hread
    rw [if_neg hpointer] at hread
    by_cases hroot : length = 0
    · -- The walk ends at an empty label, before the last five bytes.
      rw [if_pos hroot] at hread
      have hstop := congrArg Prod.snd (Option.some.inj hread)
      simp only at hstop
      omega
    rw [if_neg hroot] at hread
    obtain ⟨⟨rest, stop⟩, hrest, heq⟩ := Option.map_eq_some_iff.mp hread
    cases heq
    have hinside := readName_lt hrest
    obtain ⟨htext, htexts⟩ := dropRoot_cons htexts
    have hbytes : ((message.drop (cursor + 1)).take length).length = length := by
      rw [List.length_take, List.length_drop]
      omega
    have hplain : PlainLabel part :=
      plainLabel_of_read (hbytes.trans hlength) (hsize _ List.mem_cons_self) htext
    have hnext : length = (asciiBytes part).length := by
      have hshort := hplain.short
      rw [hlength, asciiBytes_eq hplain.ascii, List.length_map, length_utf8Bytes_ascii hplain.ascii]
      omega
    have hat : At message (cursor + 1 + length) (parts.flatMap questionPart ++ footer) := by
      have := h.append.2
      rwa [show cursor + (questionPart part).length = cursor + 1 + length by
        rw [hnext]
        show cursor + ((asciiBytes part).length + 1) = _
        omega] at this
    have hparts := ih (cursor + 1 + length) rest hat
      (by
        rw [List.length_append, hmessage, hnext]
        show _ + (_ + 5) = _
        omega)
      hrest (fun label hlabel => hsize label (List.mem_cons_of_mem _ hlabel)) htexts
    intro other hother
    rcases List.mem_cons.mp hother with rfl | hother
    · exact hplain
    · exact hparts other hother

end Walk

end DnsMessage

namespace DnsMessage

open Buffer (At)

theorem encodeDnsQuery_eq (id : Nat) (host : String) :
    encodeDnsQuery id host =
      queryHeader id ++ ((JsString.split host '.').flatMap questionPart ++ footer) := rfl

theorem hostLabels_of_plain {host : String}
    (h : ∀ label ∈ JsString.split host '.', PlainLabel label) :
    hostLabels host = JsString.split host '.' := by
  unfold hostLabels dropRoot
  rw [if_neg]
  intro hlast
  exact (h "" (List.mem_of_getLast? hlast)).nonempty rfl

theorem asksFor_iff (id : Nat) (host : String) :
    AsksFor (encodeDnsQuery id host) id host ↔
      ∀ label ∈ JsString.split host '.', PlainLabel label := by
  have hat : At (encodeDnsQuery id host) 12
      ((JsString.split host '.').flatMap questionPart ++ footer) :=
    ⟨queryHeader id, [], by rw [encodeDnsQuery_eq, List.append_nil], rfl⟩
  have hend : 12 + ((JsString.split host '.').flatMap questionPart ++ footer).length =
      (encodeDnsQuery id host).length := by
    rw [encodeDnsQuery_eq, @List.length_append _ (queryHeader id)]
    rfl
  constructor
  · rintro ⟨-, ⟨labels, hread, hsize, htexts⟩, -⟩
    exact plain_of_readName _ 12 labels hat hend hread hsize htexts
  · intro hplain
    have hlength : (encodeDnsQuery id host).length - 4 =
        12 + ((JsString.split host '.').flatMap questionPart).length + 1 := by
      rw [← hend, List.length_append]
      show 12 + (_ + 5) - 4 = _
      omega
    refine ⟨rfl, ⟨(JsString.split host '.').map asciiBytes, ?_, ?_, ?_⟩, ?_⟩
    · rw [hlength]
      exact readName_plain _ hplain 12 hat
    · intro bytes hbytes
      obtain ⟨label, hlabel, rfl⟩ := List.mem_map.mp hbytes
      have h := hplain label hlabel
      have hpos : 0 < label.toList.length := by
        rw [List.length_pos_iff, Ne, String.toList_eq_nil_iff]
        exact h.nonempty
      rw [asciiBytes_eq h.ascii, List.length_map]
      exact ⟨hpos, h.short⟩
    · rw [hostLabels_of_plain hplain, List.map_map]
      refine (List.map_congr_left ?_).trans (List.map_id _)
      intro label hlabel
      exact labelText_asciiBytes (hplain label hlabel).ascii
    · have hsplit : encodeDnsQuery id host =
          (queryHeader id ++ ((JsString.split host '.').flatMap questionPart ++ [0x00])) ++
            [0x00, 0x01, 0x00, 0x01] := by
        rw [encodeDnsQuery_eq]
        simp [footer]
      rw [hlength, hsplit]
      apply List.drop_left'
      rw [List.length_append, List.length_append]
      show 12 + (_ + 1) = _
      omega

end DnsMessage

/-- Both copies ask for the host exactly where its labels are plain. -/
theorem query_asks_for_iff (id : Nat) (host : String) :
    (DnsMessage.AsksFor (DnsMessage.encodeDnsQuery id host) id host ↔
        ∀ label ∈ JsString.split host '.', DnsMessage.PlainLabel label) ∧
      (DnsMessage.AsksFor (Doh.encodeDnsQuery id host) id host ↔
        ∀ label ∈ JsString.split host '.', DnsMessage.PlainLabel label) :=
  ⟨DnsMessage.asksFor_iff id host, DnsMessage.asksFor_iff id host⟩

/-- A host with a root dot: the walk ends at the empty label, one byte before the root. -/
theorem root_dot_not_asked_for :
    ¬ DnsMessage.AsksFor (DnsMessage.encodeDnsQuery 1 "example.com.") 1 "example.com." := by
  intro h
  have hplain := (DnsMessage.asksFor_iff 1 "example.com.").mp h "" (by decide)
  exact hplain.nonempty rfl

end Sepigs
