import Sepigs.Lib.IpValue
import Sepigs.Lib.JsNumber
import Sepigs.Protocol.AddressCodec

/-!
# Addresses in a CIDR (`CidrMatcher` in `router/matcher.ts`)

The parser finds the bits that a spelling stands for, with either version and wherever
`::` or a dotted quad stands (`parseIpToBigInt_of_addressOf`), and takes no zone.  So an
address is matched when its first bits are those of the network, however the two are
spelled (`cidr_matches_iff`).
-/

namespace Sepigs

open IpText (HexGroup Quad Ipv6 partChars partWords)

/-! ## Reading groups -/

/-- A loop that shifts in small enough groups reads a number in base `2 ^ width`. -/
theorem foldlM_shiftIn {width : Nat} {groups : List Nat} (h : ∀ group ∈ groups, group < 2 ^ width)
    (output : Nat) : groups.foldlM (shiftIn width) output =
      some (output * (2 ^ width) ^ groups.length + Nat.ofDigits (2 ^ width) groups.reverse) := by
  induction groups generalizing output with
  | nil => simp
  | cons group groups ih =>
    have hgroup := h group List.mem_cons_self
    have hshift : shiftIn width output group = some (output * 2 ^ width + group) := by
      unfold shiftIn
      rw [if_neg (Nat.not_le.mpr hgroup), Nat.shiftLeft_eq]
    rw [List.foldlM_cons, hshift]
    refine (ih (fun other hmem => h other (List.mem_cons_of_mem _ hmem)) _).trans ?_
    rw [Nat.ofDigits_reverse_cons, List.length_cons, Nat.pow_succ]
    congr 1
    ring

theorem isDecimalGroup_byte (byte : UInt8) : isDecimalGroup (toString byte.toNat) = true ∧
    Nat.ofDigitChars 10 (toString byte.toNat).toList 0 = byte.toNat := by
  have hall : ∀ n < 256, isDecimalGroup (toString n) = true := by decide +kernel
  refine ⟨hall _ byte.toNat_lt, ?_⟩
  rw [show (toString byte.toNat).toList = Nat.toDigits 10 byte.toNat from Nat.toList_repr,
    Nat.ofDigitChars_ten_toDigits]

theorem parseIpv4ToBigInt_quad (quad : Quad) : parseIpv4ToBigInt quad.text = some quad.value := by
  have hsplit : JsString.split quad.text '.' = quad.bytes.map fun byte => toString byte.toNat := by
    refine JsString.split_join (by simp [Quad.bytes]) fun part hmem => ?_
    obtain ⟨byte, -, rfl⟩ := List.mem_map.mp hmem
    exact JsString.notMem_toString_of_not_isDigit (by decide) byte.toNat
  have hstep (output : Nat) (byte : UInt8) :
      (if !isDecimalGroup (toString byte.toNat) then none
        else shiftIn 8 output (Nat.ofDigitChars 10 (toString byte.toNat).toList 0)) =
      shiftIn 8 output byte.toNat := by
    obtain ⟨hgroup, hvalue⟩ := isDecimalGroup_byte byte
    rw [hgroup, hvalue]
    rfl
  have hbytes : ∀ n ∈ quad.bytes.map UInt8.toNat, n < 2 ^ 8 := by
    intro n hmem
    obtain ⟨byte, -, rfl⟩ := List.mem_map.mp hmem
    exact byte.toNat_lt
  have hfold := foldlM_shiftIn hbytes 0
  rw [Nat.zero_mul, Nat.zero_add] at hfold
  unfold parseIpv4ToBigInt
  simp only [hsplit]
  rw [if_neg (by simp [Quad.bytes]), List.foldlM_map]
  simp only [hstep]
  rw [← List.foldlM_map]
  exact hfold

/-! ## Reading an IPv6 spelling -/

theorem parseIpv6Part_group (group : HexGroup) :
    parseIpv6Part (String.ofList group.chars) = some [group.value] := by
  unfold parseIpv6Part
  rw [String.toList_ofList, if_neg, SocksCodec.hexGroup_chars]
  · rfl
  · rw [List.contains_iff_mem]
    exact HexGroup.notMem IpText.hexDigit_dot

theorem parseIpv6Part_quad (quad : Quad) : parseIpv6Part quad.text = some quad.words := by
  have hvalue : quad.value = ((quad.a.toNat * 256 + quad.b.toNat) * 256 + quad.c.toNat) * 256 +
      quad.d.toNat := by
    simp only [Quad.value, Quad.bytes, List.map_cons, List.map_nil, List.reverse_cons, List.reverse_nil,
      List.nil_append, List.cons_append, Nat.ofDigits_cons, Nat.ofDigits_nil]
    push_cast
    ring
  have ha := quad.a.toNat_lt
  have hb := quad.b.toNat_lt
  have hc := quad.c.toNat_lt
  have hd := quad.d.toNat_lt
  have hhigh : (quad.value >>> 16) &&& 0xffff = quad.a.toNat * 256 + quad.b.toNat := by
    rw [show (0xffff : Nat) = 2 ^ 16 - 1 from rfl, Nat.and_two_pow_sub_one_eq_mod,
      Nat.shiftRight_eq_div_pow, hvalue]
    omega
  have hlow : quad.value &&& 0xffff = quad.c.toNat * 256 + quad.d.toNat := by
    rw [show (0xffff : Nat) = 2 ^ 16 - 1 from rfl, Nat.and_two_pow_sub_one_eq_mod, hvalue]
    omega
  unfold parseIpv6Part
  rw [if_pos (List.contains_iff_mem.mpr quad.dot_mem), parseIpv4ToBigInt_quad, Option.map_some, hhigh,
    hlow]
  rfl

theorem mapM_parseIpv6Part (groups : List HexGroup) (quad : Option Quad) :
    (((groups.map HexGroup.chars ++ (quad.map fun q => q.text.toList).toList).map
      String.ofList).mapM parseIpv6Part).map List.flatten = some (partWords groups quad) := by
  induction groups with
  | nil =>
    cases quad with
    | none => rfl
    | some quad =>
      show ((([String.ofList quad.text.toList]).mapM parseIpv6Part).map List.flatten) = _
      rw [String.ofList_toList, List.mapM_cons, parseIpv6Part_quad]
      show some (List.flatten [quad.words]) = some ([] ++ quad.words)
      rw [List.flatten_singleton, List.nil_append]
  | cons group groups ih =>
    obtain ⟨words, hwords, hflat⟩ := Option.map_eq_some_iff.mp ih
    rw [List.map_cons, List.cons_append, List.map_cons, List.mapM_cons, parseIpv6Part_group, hwords]
    show some (List.flatten ([group.value] :: words)) = _
    rw [List.flatten_cons, hflat]
    rfl

theorem parseIpv6Groups_part (groups : List HexGroup) (quad : Option Quad) :
    parseIpv6Groups (String.ofList (partChars groups quad)) = some (partWords groups quad) := by
  unfold parseIpv6Groups
  rw [String.toList_ofList]
  by_cases hne : groups.map HexGroup.chars ++ (quad.map fun q => q.text.toList).toList ≠ []
  · obtain ⟨hempty, hsplit⟩ := SocksCodec.split_partChars hne
    rw [hempty, hsplit, if_neg Bool.false_ne_true, mapM_parseIpv6Part]
  · obtain ⟨hgroups, hquad⟩ := List.append_eq_nil_iff.mp (Decidable.not_not.mp hne)
    obtain rfl := List.map_eq_nil_iff.mp hgroups
    cases quad with
    | none => rfl
    | some quad => cases hquad

theorem groupsToBigInt_words (address : Ipv6) : groupsToBigInt address.words = some address.value := by
  have hfold := @foldlM_shiftIn 16 address.words (SocksCodec.words_lt address) 0
  rw [Nat.zero_mul, Nat.zero_add] at hfold
  unfold groupsToBigInt
  rw [if_neg (fun hne => hne (SocksCodec.length_words address))]
  exact hfold

section Parse

variable {node : Node}

theorem parseIpv6ToBigInt_chars {host : String} {address : Ipv6}
    (h : (node.toLowerCase host).toList = address.chars) :
    parseIpv6ToBigInt node host = some address.value := by
  have hwords := groupsToBigInt_words address
  unfold parseIpv6ToBigInt
  simp only [h]
  cases address with
  | full groups quad hlength =>
    simp only [Ipv6.chars, SocksCodec.splitDoubleColon_full, List.map_cons, List.map_nil,
      List.length_singleton, List.getElem?_cons_zero, Option.getD_some, parseIpv6Groups_part]
    exact hwords
  | compressed head tail quad hlength =>
    simp only [Ipv6.chars, SocksCodec.splitDoubleColon_compressed, List.map_cons, List.map_nil,
      List.length_cons, List.length_nil, List.getElem?_cons_zero, List.getElem?_cons_succ,
      Option.getD_some, parseIpv6Groups_part, SocksCodec.partWords_none, List.length_map]
    rw [if_neg (by omega), if_pos trivial, if_neg (by omega)]
    exact hwords

/-! ## No zone -/

theorem mem_of_foldlM_isSome {α β : Type} {step : β → α → Option β} {P : α → Prop}
    (hstep : ∀ b a b', step b a = some b' → P a) {items : List α} {b b' : β}
    (h : items.foldlM step b = some b') : ∀ a ∈ items, P a := by
  induction items generalizing b with
  | nil => exact fun a hmem => nomatch hmem
  | cons item items ih =>
    rw [List.foldlM_cons] at h
    obtain ⟨next, hnext, hrest⟩ := Option.bind_eq_some_iff.mp h
    intro a hmem
    rcases List.mem_cons.mp hmem with rfl | hmem
    · exact hstep _ _ _ hnext
    · exact ih hrest a hmem

theorem mem_of_mapM_isSome {α β : Type} {f : α → Option β} {items : List α} {results : List β}
    (h : items.mapM f = some results) : ∀ a ∈ items, (f a).isSome = true := by
  induction items generalizing results with
  | nil => exact fun a hmem => nomatch hmem
  | cons item items ih =>
    rw [List.mapM_cons] at h
    obtain ⟨result, hresult, hrest⟩ := Option.bind_eq_some_iff.mp h
    obtain ⟨results', hresults, -⟩ := Option.bind_eq_some_iff.mp hrest
    intro a hmem
    rcases List.mem_cons.mp hmem with rfl | hmem
    · rw [hresult]
      rfl
    · exact ih hresults a hmem

theorem parseIpv4ToBigInt_digits {input : String} (h : (parseIpv4ToBigInt input).isSome = true)
    {c : Char} (hc : c ∈ input.toList) (hne : c ≠ '.') : c.isDigit = true := by
  obtain ⟨value, hvalue⟩ := Option.isSome_iff_exists.mp h
  obtain ⟨part, hpart, hmem⟩ := SocksCodec.mem_split hc hne
  simp only [parseIpv4ToBigInt] at hvalue
  split at hvalue
  · cases hvalue
  · have hgroups := mem_of_foldlM_isSome (P := fun part => isDecimalGroup part = true) (by
      intro output part output' hstep
      split at hstep
      · cases hstep
      · next hgroup => simpa using hgroup) hvalue part hpart
    unfold isDecimalGroup at hgroups
    rw [Bool.and_eq_true, List.all_eq_true] at hgroups
    exact hgroups.2 c hmem

/-- The parser takes no other characters than those of addresses. -/
theorem parseIpv6Groups_chars {input : String} (h : (parseIpv6Groups input).isSome = true) {c : Char}
    (hc : c ∈ input.toList) : (IpText.hexDigit c).isSome = true ∨ c = ':' ∨ c = '.' := by
  by_cases hcolon : c = ':'
  · exact Or.inr (Or.inl hcolon)
  by_cases hdot : c = '.'
  · exact Or.inr (Or.inr hdot)
  refine Or.inl ?_
  unfold parseIpv6Groups at h
  split at h
  · next hempty =>
    rw [List.isEmpty_iff.mp hempty] at hc
    cases hc
  · rw [Option.isSome_map] at h
    obtain ⟨groups, hgroups⟩ := Option.isSome_iff_exists.mp h
    obtain ⟨part, hpart, hmem⟩ := SocksCodec.mem_split hc hcolon
    have hparsed := mem_of_mapM_isSome hgroups part hpart
    unfold parseIpv6Part at hparsed
    split at hparsed
    · rw [Option.isSome_map] at hparsed
      have hdigit := parseIpv4ToBigInt_digits hparsed hmem hdot
      unfold IpText.hexDigit
      rw [if_pos hdigit]
      rfl
    · rw [Option.isSome_map] at hparsed
      unfold hexGroup at hparsed
      split at hparsed
      · obtain ⟨number, hnumber⟩ := Option.isSome_iff_exists.mp hparsed
        exact IpText.hexNumberFrom_isSome hnumber c hmem
      · cases hparsed

theorem parseIpv6ToBigInt_percent {host : String} (h : '%' ∈ (node.toLowerCase host).toList) :
    parseIpv6ToBigInt node host = none := by
  by_contra hsome
  obtain ⟨value, hvalue⟩ := Option.ne_none_iff_exists'.mp hsome
  obtain ⟨part, hpart, hmem⟩ := SocksCodec.mem_splitDoubleColon h (by decide)
  have hbad : ¬ ((IpText.hexDigit '%').isSome = true ∨ '%' = ':' ∨ '%' = '.') := by decide
  refine hbad ?_
  simp only [parseIpv6ToBigInt] at hvalue
  generalize splitDoubleColon (node.toLowerCase host).toList = parts at hpart hvalue
  rw [List.length_map] at hvalue
  split at hvalue
  · cases hvalue
  · next hlength =>
    split at hvalue
    · next head tail hhead htail =>
      obtain ⟨i, hi, hget⟩ := List.mem_iff_getElem.mp hpart
      have hget' : (parts.map String.ofList)[i]? = some (String.ofList part) := by
        rw [List.getElem?_map, List.getElem?_eq_getElem hi, hget]
        rfl
      have hchars : '%' ∈ (String.ofList part).toList := by
        rw [String.toList_ofList]
        exact hmem
      obtain rfl | rfl : i = 0 ∨ i = 1 := by omega
      · rw [hget', Option.getD_some] at hhead
        exact parseIpv6Groups_chars (by rw [hhead]; rfl) hchars
      · rw [hget', Option.getD_some] at htail
        exact parseIpv6Groups_chars (by rw [htail]; rfl) hchars
    · cases hvalue

/-! ## Addresses and their bits -/

/-- The version and the bits of an address without a zone, by its spelling. -/
inductive AddressOf : String → IpVersion → Nat → Prop
  | v4 (quad : Quad) : AddressOf quad.text .v4 quad.value
  | v6 {host : String} (address : Ipv6) (h : host.toList = address.chars) :
    AddressOf host .v6 address.value

/-- ASCII letters are lowered, and nothing else in ASCII text. -/
def LowersAscii (toLowerCase : String → String) : Prop :=
  ∀ text, (∀ c ∈ text.toList, c.toNat < 128) → (toLowerCase text).toList = text.toList.map Char.toLower

theorem ascii_of_address {c : Char} (h : (IpText.hexDigit c).isSome = true ∨ c = ':' ∨ c = '.') :
    c.toNat < 128 := by
  rcases h with h | rfl | rfl
  · exact IpText.ascii_of_hexDigit h
  · decide
  · decide

theorem ascii_of_zone {c : Char} (h : IpText.isZoneChar c = true) : c.toNat < 128 := by
  unfold IpText.isZoneChar at h
  simp only [Bool.or_eq_true, decide_eq_true_eq] at h
  rcases h with ((h | rfl) | rfl) | rfl
  · have hbounds := JsString.alphanum_bounds h
    omega
  · decide
  · decide
  · decide

theorem parseIpToBigInt_v4 {host : String} {value : Nat} (hfour : node.isIP host = 4)
    (h : parseIpv4ToBigInt host = some value) :
    parseIpToBigInt node host = some ⟨.v4, value, parseIpv4ToBigInt_lt h⟩ := by
  unfold parseIpToBigInt
  simp [hfour, h]

theorem parseIpToBigInt_v6 {host : String} {value : Nat} (hsix : node.isIP host = 6)
    (h : parseIpv6ToBigInt node host = some value) :
    parseIpToBigInt node host = some ⟨.v6, value, parseIpv6ToBigInt_lt h⟩ := by
  unfold parseIpToBigInt
  simp [hsix, h]

section Bits

variable (hversions : IpText.Versions node.isIP) (hlower : LowersAscii node.toLowerCase)

include hversions hlower

/-- **The parser finds the bits of every spelling.** -/
theorem parseIpToBigInt_of_addressOf {host : String} {version : IpVersion} {value : Nat}
    (h : AddressOf host version value) : ∃ ip, parseIpToBigInt node host = some ip ∧
      ip.version = version ∧ ip.value = value := by
  cases h with
  | v4 quad =>
    have hfour : node.isIP quad.text = 4 := (hversions.v4 _).mpr ⟨quad, rfl⟩
    exact ⟨_, parseIpToBigInt_v4 hfour (parseIpv4ToBigInt_quad quad), rfl, rfl⟩
  | v6 address hchars =>
    have hsix : node.isIP host = 6 :=
      (hversions.v6 _).mpr ⟨address, [], Or.inl rfl, hchars.trans (List.append_nil _).symm⟩
    have hascii : ∀ c ∈ host.toList, c.toNat < 128 := by
      intro c hmem
      rw [hchars] at hmem
      exact ascii_of_address (Ipv6.mem_chars hmem)
    have hlowered : (node.toLowerCase host).toList = address.lower.chars := by
      rw [hlower host hascii, hchars, address.chars_lower]
    have hparsed := parseIpv6ToBigInt_chars hlowered
    rw [address.value_lower] at hparsed
    exact ⟨_, parseIpToBigInt_v6 hsix hparsed, rfl, rfl⟩

/-- Only addresses without a zone are parsed. -/
theorem addressOf_of_parse {host : String} {ip : ParsedIp} (h : parseIpToBigInt node host = some ip) :
    AddressOf host ip.version ip.value := by
  have hself {version : IpVersion} {value : Nat} (haddress : AddressOf host version value) :
      AddressOf host ip.version ip.value := by
    obtain ⟨ip', hip, rfl, rfl⟩ := parseIpToBigInt_of_addressOf hversions hlower haddress
    cases h.symm.trans hip
    exact haddress
  by_cases hfour : node.isIP host = 4
  · obtain ⟨quad, rfl⟩ := (hversions.v4 host).mp hfour
    exact hself (.v4 quad)
  by_cases hsix : node.isIP host = 6
  · obtain ⟨address, zone, hend, hchars⟩ := (hversions.v6 host).mp hsix
    rcases hend with rfl | ⟨zone, -, hzone, rfl⟩
    · exact hself (.v6 address (hchars.trans (List.append_nil _)))
    · exfalso
      have hascii : ∀ c ∈ host.toList, c.toNat < 128 := by
        intro c hmem
        rw [hchars] at hmem
        rcases List.mem_append.mp hmem with hmem | hmem
        · exact ascii_of_address (Ipv6.mem_chars hmem)
        · rcases List.mem_cons.mp hmem with rfl | hmem
          · decide
          · exact ascii_of_zone (hzone c hmem)
      have hpercent : '%' ∈ (node.toLowerCase host).toList := by
        rw [hlower host hascii, hchars, List.map_append]
        exact List.mem_append_right _ List.mem_cons_self
      have hnone := parseIpv6ToBigInt_percent hpercent
      unfold parseIpToBigInt at h
      simp [hsix, hnone] at h
  · exfalso
    unfold parseIpToBigInt at h
    split at h
    · next heq => exact hfour heq
    · next heq => exact hsix heq
    · cases h

theorem AddressOf.unique {host : String} {version version' : IpVersion} {value value' : Nat}
    (h : AddressOf host version value) (h' : AddressOf host version' value') :
    version = version' ∧ value = value' := by
  obtain ⟨ip, hip, rfl, rfl⟩ := parseIpToBigInt_of_addressOf hversions hlower h
  obtain ⟨ip', hip', rfl, rfl⟩ := parseIpToBigInt_of_addressOf hversions hlower h'
  cases hip.symm.trans hip'
  exact ⟨rfl, rfl⟩

omit hlower in
theorem exists_addressOf {host : String} (hip : node.isIP host = 4 ∨ node.isIP host = 6)
    (hzone : '%' ∉ host.toList) : ∃ version value, AddressOf host version value := by
  rcases hip with hfour | hsix
  · obtain ⟨quad, rfl⟩ := (hversions.v4 host).mp hfour
    exact ⟨_, _, .v4 quad⟩
  · obtain ⟨address, zone, hend, hchars⟩ := (hversions.v6 host).mp hsix
    rcases hend with rfl | ⟨zone, -, -, rfl⟩
    · exact ⟨_, _, .v6 address (hchars.trans (List.append_nil _))⟩
    · refine absurd ?_ hzone
      rw [hchars]
      exact List.mem_append_right _ List.mem_cons_self

end Bits

end Parse

/-! ## Matching -/

/-- The first `length` of so many bits are the same. -/
def SameFirstBits (bits length value value' : Nat) : Prop :=
  ∀ i, i < length → value.testBit (bits - 1 - i) = value'.testBit (bits - 1 - i)

/-- What a text that is taken for a CIDR says. -/
theorem CidrMatcher.create_spec {node : Node} {cidr : String} {matcher : CidrMatcher}
    (h : CidrMatcher.create node cidr = .ok matcher) : ∃ address length ip,
      JsString.split cidr '/' = [address, length] ∧ parseIpToBigInt node address = some ip ∧
      node.number length = some (matcher.prefixLength : Int) ∧ matcher.version = ip.version ∧
      matcher.network = ip.value := by
  unfold CidrMatcher.create at h
  split at h
  · next address length hsplit =>
    split at h
    · cases h
    · next ip hip =>
      split at h
      · cases h
      · next number hnumber =>
        split at h
        · cases h
        · next hnonneg =>
          split at h
          · cases h
            refine ⟨address, length, ip, hsplit, hip, ?_, rfl, rfl⟩
            rw [hnumber, Int.toNat_of_nonneg (Int.not_lt.mp hnonneg)]
          · cases h
  · cases h

/-- **Matching a CIDR is containment of the first bits**, however the network and the
address are spelled. -/
theorem cidr_matches_iff {node : Node} (hversions : IpText.Versions node.isIP)
    (hlower : LowersAscii node.toLowerCase) {cidr : String} {matcher : CidrMatcher}
    (hcreate : CidrMatcher.create node cidr = .ok matcher) :
    ∃ address length version network, JsString.split cidr '/' = [address, length] ∧
      AddressOf address version network ∧
      node.number length = some (matcher.prefixLength : Int) ∧ matcher.prefixLength ≤ version.bits ∧
      (∀ host version' value, AddressOf host version' value →
        (matcher.matchesHost node host = true ↔ version' = version ∧
          SameFirstBits version.bits matcher.prefixLength value network)) ∧
      (∀ host, node.isIP host = 4 ∨ node.isIP host = 6 → '%' ∉ host.toList →
        ∃ version' value, AddressOf host version' value) ∧
      ∀ host, ¬ (node.isIP host = 4 ∨ node.isIP host = 6) → matcher.matchesHost node host = false := by
  obtain ⟨address, length, ip, hsplit, hip, hnumber, hversion, hnetwork⟩ :=
    CidrMatcher.create_spec hcreate
  refine ⟨address, length, ip.version, ip.value, hsplit,
    addressOf_of_parse hversions hlower hip, hnumber, hversion ▸ matcher.prefixLength_le, ?_,
    fun host => exists_addressOf hversions, fun host hno => ?_⟩
  · intro host version' value haddress
    obtain ⟨ip', hip', rfl, rfl⟩ := parseIpToBigInt_of_addressOf hversions hlower haddress
    rw [matcher.matchesHost_iff]
    unfold CidrMatcher.Contains SameFirstBits
    rw [hip', hversion, hnetwork]
    constructor
    · rintro ⟨_, heq, hsame, hbits⟩
      cases heq
      exact ⟨hsame, hbits⟩
    · rintro ⟨hsame, hbits⟩
      exact ⟨ip', rfl, hsame, hbits⟩
  · rw [← Bool.not_eq_true, matcher.matchesHost_iff]
    rintro ⟨ip', hip', -, -⟩
    have haddress := addressOf_of_parse hversions hlower hip'
    refine hno ?_
    generalize ip'.version = version' at haddress
    generalize ip'.value = value at haddress
    cases haddress with
    | v4 quad => exact Or.inl ((hversions.v4 _).mpr ⟨quad, rfl⟩)
    | v6 spelling hchars =>
      exact Or.inr ((hversions.v6 _).mpr ⟨spelling, [], Or.inl rfl,
        hchars.trans (List.append_nil _).symm⟩)

theorem lowersAscii_toLower : LowersAscii String.toLower := fun _ _ => String.toList_map

def groupFFFF : HexGroup := ⟨['F', 'F', 'F', 'F'], 65535, by decide, by decide, by decide⟩

/-- The network of the addresses that carry IPv4, written out, and one of its addresses. -/
theorem cidr_matches_iff_mapped : ∃ matcher,
    CidrMatcher.create SocksCodec.codecNode "0:0:0:0:0:FFFF:0:0/96" = .ok matcher ∧
      matcher.matchesHost SocksCodec.codecNode "::FFFF:1.2.3.4" = true ∧
      matcher.matchesHost SocksCodec.codecNode "1.2.3.4" = false := by
  have hnetwork : AddressOf "0:0:0:0:0:FFFF:0:0" .v6 (65535 * 2 ^ 32) := by
    refine .v6 (.full (List.replicate 5 IpText.zeroGroup ++
      [groupFFFF, IpText.zeroGroup, IpText.zeroGroup]) none rfl) ?_
    decide +kernel
  have hhost : AddressOf "::FFFF:1.2.3.4" .v6 (65535 * 2 ^ 32 + 0x01020304) :=
    .v6 (.compressed [] [groupFFFF] (some ⟨1, 2, 3, 4⟩) (by decide)) (by decide +kernel)
  have hquad : AddressOf "1.2.3.4" .v4 (Quad.value ⟨1, 2, 3, 4⟩) := .v4 ⟨1, 2, 3, 4⟩
  obtain ⟨ip, hip, hversion, hvalue⟩ := @parseIpToBigInt_of_addressOf SocksCodec.codecNode
    IpText.versions lowersAscii_toLower _ _ _ hnetwork
  have hcreate : ∃ matcher, CidrMatcher.create SocksCodec.codecNode "0:0:0:0:0:FFFF:0:0/96" =
      .ok matcher ∧ matcher.prefixLength = 96 := by
    have hsplit : JsString.split "0:0:0:0:0:FFFF:0:0/96" '/' = ["0:0:0:0:0:FFFF:0:0", "96"] := by
      decide +kernel
    have hnumber : SocksCodec.codecNode.number "96" = some 96 := by decide +kernel
    have hbits : (96 : Int).toNat ≤ ip.version.bits := by
      rw [hversion]
      decide
    refine ⟨⟨ip.version, ip.value, 96, ip.value_lt, hbits⟩, ?_, rfl⟩
    unfold CidrMatcher.create
    rw [hsplit]
    dsimp only
    rw [hip, hnumber]
    dsimp only
    rw [if_neg (by decide), dif_pos hbits]
    rfl
  obtain ⟨matcher, hcreate, hbits96⟩ := hcreate
  obtain ⟨address, length, version, network, hsplit, haddress, -, -, hmatches, -⟩ :=
    cidr_matches_iff IpText.versions lowersAscii_toLower hcreate
  have hsplit' : JsString.split "0:0:0:0:0:FFFF:0:0/96" '/' = ["0:0:0:0:0:FFFF:0:0", "96"] := by
    decide +kernel
  cases hsplit.symm.trans hsplit'
  obtain ⟨rfl, rfl⟩ := @AddressOf.unique SocksCodec.codecNode IpText.versions lowersAscii_toLower
    _ _ _ _ _ hnetwork haddress
  refine ⟨matcher, hcreate, (hmatches _ _ _ hhost).mpr ⟨rfl, ?_⟩, ?_⟩
  · rw [hbits96]
    unfold SameFirstBits
    decide +kernel
  · rw [← Bool.not_eq_true, hmatches _ _ _ hquad]
    exact fun h => nomatch h.1

/-! ## The texts of CIDRs -/

/-- What `net.isIP` says of an address. -/
def IpVersion.number : IpVersion → Nat
  | v4 => 4
  | v6 => 6

section Grammar

variable (node : Node)

def IsAddress (version : IpVersion) (text : String) : Prop :=
  node.isIP text = version.number ∧ '%' ∉ text.toList

/-- At least one decimal digit, and nothing else. -/
def IsDecimal (text : String) : Prop := text ≠ "" ∧ ∀ c ∈ text.toList, c.isDigit = true

/-- An address, a slash, and how many of its bits, in decimal digits. -/
def IsCidr (cidr : String) : Prop :=
  ∃ address length version, cidr = address ++ "/" ++ length ∧ IsAddress node version address ∧
    IsDecimal length ∧ Nat.ofDigitChars 10 length.toList 0 ≤ version.bits

/-- An address, a slash, and a text that is no decimal number, but that `Number` takes for a
number of its bits: a blank one, one between white space, one with a sign, a fraction or an
exponent, a hexadecimal one. -/
def HasMisreadLength (cidr : String) : Prop :=
  ∃ address length version, JsString.split cidr '/' = [address, length] ∧
    IsAddress node version address ∧ ¬ IsDecimal length ∧
    ∃ n : Nat, JsNumber.number length = some (n : Int) ∧ n ≤ version.bits

end Grammar

section Grammar

variable {node : Node}

theorem slash_notMem {text : String} {version : IpVersion} {value : Nat}
    (h : AddressOf text version value) : '/' ∉ text.toList := by
  intro hmem
  cases h with
  | v4 quad =>
    rcases Quad.mem_text hmem with hdigit | hdot
    · cases hdigit
    · cases hdot
  | v6 address hchars =>
    rw [hchars] at hmem
    exact absurd (Ipv6.mem_chars hmem) (by decide)

theorem slash_notMem_decimal {text : String} (h : IsDecimal text) : '/' ∉ text.toList := by
  intro hmem
  cases h.2 '/' hmem

theorem split_slash {address length : String} (haddress : '/' ∉ address.toList)
    (hlength : '/' ∉ length.toList) :
    JsString.split (address ++ "/" ++ length) '/' = [address, length] := by
  have hjoin : JsString.join [address, length] '/' = address ++ "/" ++ length := by
    refine String.toList_inj.mp ?_
    unfold JsString.join
    rw [String.toList_ofList, String.toList_append, String.toList_append]
    simp
  rw [← hjoin]
  refine JsString.split_join (by simp) fun part hmem => ?_
  rcases List.mem_cons.mp hmem with rfl | hmem
  · exact haddress
  · obtain rfl := List.mem_singleton.mp hmem
    exact hlength

theorem eq_append_of_split {text first second : String}
    (h : JsString.split text '/' = [first, second]) : text = first ++ "/" ++ second := by
  have hjoin : List.intercalate ['/'] (text.toList.splitOn '/') = text.toList :=
    List.intercalate_splitOn '/'
  have hparts : text.toList.splitOn '/' = [first.toList, second.toList] := by
    have hmap := congrArg (List.map String.toList) h
    unfold JsString.split at hmap
    rw [List.map_map] at hmap
    exact ((List.map_congr_left fun chars _ => String.toList_ofList).trans (List.map_id _)).symm.trans
      hmap
  rw [hparts] at hjoin
  refine String.toList_inj.mp ?_
  rw [← hjoin, String.toList_append, String.toList_append]
  simp

variable (hversions : IpText.Versions node.isIP) (hlower : LowersAscii node.toLowerCase)

include hversions in
theorem isAddress_iff {version : IpVersion} {text : String} :
    IsAddress node version text ↔ ∃ value, AddressOf text version value := by
  constructor
  · rintro ⟨hip, hzone⟩
    have hkind : node.isIP text = 4 ∨ node.isIP text = 6 := by
      cases version with
      | v4 => exact Or.inl hip
      | v6 => exact Or.inr hip
    obtain ⟨version', value, h⟩ := exists_addressOf hversions hkind hzone
    cases h with
    | v4 quad =>
      have hfour : node.isIP quad.text = 4 := (hversions.v4 _).mpr ⟨quad, rfl⟩
      cases version with
      | v4 => exact ⟨_, .v4 quad⟩
      | v6 => cases hfour.symm.trans hip
    | v6 address hchars =>
      have hsix : node.isIP text = 6 :=
        (hversions.v6 _).mpr ⟨address, [], Or.inl rfl, hchars.trans (List.append_nil _).symm⟩
      cases version with
      | v4 => cases hsix.symm.trans hip
      | v6 => exact ⟨_, .v6 address hchars⟩
  · rintro ⟨value, h⟩
    cases h with
    | v4 quad =>
      refine ⟨(hversions.v4 _).mpr ⟨quad, rfl⟩, fun hmem => ?_⟩
      rcases Quad.mem_text hmem with hdigit | hdot
      · cases hdigit
      · cases hdot
    | v6 address hchars =>
      refine ⟨(hversions.v6 _).mpr ⟨address, [], Or.inl rfl, hchars.trans (List.append_nil _).symm⟩,
        fun hmem => ?_⟩
      rw [hchars] at hmem
      exact absurd (Ipv6.mem_chars hmem) (by decide)

include hversions hlower

/-- What the constructor takes: an address, a slash, and what `Number` takes for a number of
its bits. -/
theorem create_isOk_iff (hnumber : ∀ text, node.number text = JsNumber.number text) {cidr : String} :
    isValidCidr node cidr = true ↔ ∃ address length version,
      JsString.split cidr '/' = [address, length] ∧ IsAddress node version address ∧
      ∃ n : Nat, JsNumber.number length = some (n : Int) ∧ n ≤ version.bits := by
  constructor
  · intro h
    unfold isValidCidr at h
    split at h
    · next matcher hcreate =>
      obtain ⟨address, length, ip, hsplit, hip, hlength, hversion, -⟩ :=
        CidrMatcher.create_spec hcreate
      rw [hnumber] at hlength
      refine ⟨address, length, ip.version, hsplit, (isAddress_iff hversions).mpr
        ⟨_, addressOf_of_parse hversions hlower hip⟩, _, hlength, ?_⟩
      rw [← hversion]
      exact matcher.prefixLength_le
    · cases h
  · rintro ⟨address, length, version, hsplit, haddress, n, hn, hle⟩
    obtain ⟨value, hvalue⟩ := (isAddress_iff hversions).mp haddress
    obtain ⟨ip, hip, rfl, -⟩ := parseIpToBigInt_of_addressOf hversions hlower hvalue
    have hcreate : CidrMatcher.create node cidr =
        .ok ⟨ip.version, ip.value, (n : Int).toNat, ip.value_lt, by simpa using hle⟩ := by
      unfold CidrMatcher.create
      rw [hsplit]
      dsimp only
      rw [hip, hnumber, hn]
      dsimp only
      rw [if_neg (by omega), dif_pos (by simpa using hle)]
    unfold isValidCidr
    rw [hcreate]

/-- **A CIDR is accepted by its grammar**, unless its length is misread. -/
theorem cidr_grammar_iff (hnumber : ∀ text, node.number text = JsNumber.number text) (cidr : String) :
    ((∃ matcher, CidrMatcher.create node cidr = .ok matcher) ↔ isValidCidr node cidr = true) ∧
      ((isValidCidr node cidr = true ↔ IsCidr node cidr) ↔ ¬ HasMisreadLength node cidr) := by
  have hbits : ∀ version : IpVersion, version.bits < 2 ^ 53 := by
    intro version
    cases version <;> decide
  have hgrammar : IsCidr node cidr → isValidCidr node cidr = true ∧ ¬ HasMisreadLength node cidr := by
    rintro ⟨address, length, version, rfl, haddress, hdecimal, hle⟩
    obtain ⟨value, hvalue⟩ := (isAddress_iff hversions).mp haddress
    have hsplit := split_slash (slash_notMem hvalue) (slash_notMem_decimal hdecimal)
    have hread := (JsNumber.number_digits hdecimal.1 hdecimal.2
      (Nat.lt_of_le_of_lt hle (hbits version))).mpr rfl
    constructor
    · exact (create_isOk_iff hversions hlower hnumber).mpr
        ⟨address, length, version, hsplit, haddress, _, hread, hle⟩
    · rintro ⟨address', length', version', hsplit', -, hnot, -⟩
      cases hsplit.symm.trans hsplit'
      exact hnot hdecimal
  refine ⟨?_, ?_, ?_⟩
  · unfold isValidCidr
    constructor
    · rintro ⟨matcher, hcreate⟩
      rw [hcreate]
    · intro h
      split at h
      · next matcher hcreate => exact ⟨matcher, hcreate⟩
      · cases h
  · -- A misread length is accepted, and is not in the grammar.
    rintro hiff hmisread
    obtain ⟨address, length, version, hsplit, haddress, -, hn⟩ := id hmisread
    have hvalid := (create_isOk_iff hversions hlower hnumber).mpr
      ⟨address, length, version, hsplit, haddress, hn⟩
    exact (hgrammar (hiff.mp hvalid)).2 hmisread
  · intro hread
    refine ⟨fun hvalid => ?_, fun hcidr => (hgrammar hcidr).1⟩
    obtain ⟨address, length, version, hsplit, haddress, n, hn, hle⟩ :=
      (create_isOk_iff hversions hlower hnumber).mp hvalid
    have hdecimal : IsDecimal length := by
      by_contra hnot
      exact hread ⟨address, length, version, hsplit, haddress, hnot, n, hn, hle⟩
    refine ⟨address, length, version, eq_append_of_split hsplit, haddress, hdecimal, ?_⟩
    rw [(JsNumber.number_digits hdecimal.1 hdecimal.2 (Nat.lt_of_le_of_lt hle (hbits version))).mp hn]
    exact hle

end Grammar

/-- The built-ins on texts of addresses and of numbers. -/
noncomputable def cidrNode : Node :=
  { asciiNode with isIP := IpText.version, number := JsNumber.number }

theorem cidr_grammar_iff_written : isValidCidr cidrNode "10.0.0.0/8" = true ∧
    IsCidr cidrNode "10.0.0.0/8" := by
  have hfour : cidrNode.isIP "10.0.0.0" = 4 := (IpText.versions.v4 _).mpr ⟨⟨10, 0, 0, 0⟩, by decide +kernel⟩
  have haddress : IsAddress cidrNode .v4 "10.0.0.0" := ⟨hfour, by decide⟩
  have hcidr : IsCidr cidrNode "10.0.0.0/8" :=
    ⟨"10.0.0.0", "8", .v4, by decide, haddress, ⟨by decide, List.all_eq_true.mp rfl⟩, by decide⟩
  have hsplit : JsString.split "10.0.0.0/8" '/' = ["10.0.0.0", "8"] := by decide +kernel
  refine ⟨((@cidr_grammar_iff cidrNode IpText.versions lowersAscii_toLower (fun _ => rfl) _).2.mpr
    ?_).mpr hcidr, hcidr⟩
  rintro ⟨address, length, version, hsplit', -, hnot, -⟩
  cases hsplit.symm.trans hsplit'
  exact hnot ⟨by decide, List.all_eq_true.mp rfl⟩

/-- A length that is missing is read as 0: the CIDR of every IPv4 address. -/
theorem missing_length_accepted : isValidCidr cidrNode "10.0.0.1/" = true ∧
    ¬ IsCidr cidrNode "10.0.0.1/" ∧
    ∃ matcher, CidrMatcher.create cidrNode "10.0.0.1/" = .ok matcher ∧ matcher.prefixLength = 0 := by
  have hfour : cidrNode.isIP "10.0.0.1" = 4 := (IpText.versions.v4 _).mpr ⟨⟨10, 0, 0, 1⟩, by decide +kernel⟩
  have hsplit : JsString.split "10.0.0.1/" '/' = ["10.0.0.1", ""] := by decide +kernel
  have hnumber : JsNumber.number "" = some 0 := by decide +kernel
  have hvalid : isValidCidr cidrNode "10.0.0.1/" = true :=
    (create_isOk_iff IpText.versions lowersAscii_toLower fun _ => rfl).mpr
      ⟨"10.0.0.1", "", .v4, hsplit, ⟨hfour, by decide⟩, 0, hnumber, Nat.zero_le _⟩
  refine ⟨hvalid, ?_, ?_⟩
  · rintro ⟨address, length, version, heq, haddress, hdecimal, -⟩
    obtain ⟨value, hvalue⟩ := (isAddress_iff IpText.versions).mp haddress
    have hsplit' := split_slash (slash_notMem hvalue) (slash_notMem_decimal hdecimal)
    rw [← heq, hsplit] at hsplit'
    cases hsplit'
    exact hdecimal.1 rfl
  · unfold isValidCidr at hvalid
    split at hvalid
    · next matcher hcreate =>
      refine ⟨matcher, hcreate, ?_⟩
      obtain ⟨address, length, ip, hsplit', -, hlength, -⟩ := CidrMatcher.create_spec hcreate
      cases hsplit.symm.trans hsplit'
      have hzero : (0 : Int) = matcher.prefixLength := Option.some.inj (hnumber.symm.trans hlength)
      omega
    · cases hvalid

end Sepigs
