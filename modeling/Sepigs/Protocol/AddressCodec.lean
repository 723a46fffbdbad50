import Sepigs.Lib.IpText
import Sepigs.Router.Matcher

/-!
# Encoding SOCKS addresses (`encodeSocksAddress` in `protocol/address.ts`)

A destination is written by the type of its host and read back by `decodeSocksAddress`.
IPv6 is parsed group by group, so a spelling with a dotted quad or a zone is turned away.
-/

namespace Sepigs

namespace SocksCodec

variable (node : Node)

/-- `[(n >> 8) & 0xff, n & 0xff]` -/
def twoBytes (n : Nat) : Bytes := [UInt8.ofNat ((n >>> 8) &&& 0xff), UInt8.ofNat (n &&& 0xff)]

/-- The test of a group lets through what `hexGroup` reads, and no other check fails then. -/
def parseIpv6Group (part : String) : Except SepigsError Nat :=
  match hexGroup part with
  | some value => .ok value
  | none => .error (ProtocolError s!"invalid IPv6 group \"{part}\"")

def parseIpv6Groups (input : String) : Except SepigsError (List Nat) :=
  if input.toList.isEmpty then .ok []
  else (JsString.split input ':').mapM parseIpv6Group

def invalidIpv6 (host : String) : SepigsError := ProtocolError s!"invalid IPv6 address \"{host}\""

/-- The groups with the zeros that `::` stands for. -/
def joinGroups (host : String) (split : Bool) (head tail : List Nat) : Except SepigsError Bytes :=
  let missing : Int := 8 - head.length - tail.length
  let groups := if split then head ++ List.replicate missing.toNat 0 ++ tail else head
  if groups.length ≠ 8 ∨ missing < 0 then .error (invalidIpv6 host)
  else .ok (groups.flatMap twoBytes)

def ipv6ToBytes (host : String) : Except SepigsError Bytes :=
  let parts := (splitDoubleColon host.toList).map String.ofList
  if 2 < parts.length then .error (invalidIpv6 host)
  else do
    let head ← parseIpv6Groups (parts[0]?.getD "")
    let tail ← parseIpv6Groups (parts[1]?.getD "")
    joinGroups host (decide (parts.length = 2)) head tail

def ipv4ToBytes (host : String) : Except SepigsError Bytes :=
  let parts := (JsString.split host '.').map node.number
  if parts.length ≠ 4 ∨ parts.any (fun part => !isByte part) then
    .error (ProtocolError s!"invalid IPv4 address \"{host}\"")
  else .ok (parts.map fun part => UInt8.ofNat (part.getD 0).toNat)

def encodeSocksAddress (destination : Destination) : Except SepigsError Bytes :=
  let port := twoBytes destination.port
  match destination.addressType with
  | .ipv4 => do
    let bytes ← ipv4ToBytes node destination.host
    pure (0x01 :: bytes ++ port)
  | .ipv6 => do
    let bytes ← ipv6ToBytes destination.host
    pure (0x04 :: bytes ++ port)
  | .domain =>
    let host := utf8Bytes destination.host
    if 255 < host.length then
      .error (ProtocolError
        s!"domain name is too long for SOCKS address: \"{destination.host}\"")
    else .ok (0x03 :: UInt8.ofNat host.length :: host ++ port)

/-! ## Splitting at the double colon -/

/-- The first part, longer by these characters. -/
def prependTo (chars : List Char) : List (List Char) → List (List Char)
  | part :: parts => (chars ++ part) :: parts
  | [] => [chars]

theorem splitDoubleColon_ne_nil (chars : List Char) : splitDoubleColon chars ≠ [] := by
  fun_induction splitDoubleColon chars <;> simp

theorem mem_split {text : String} {c separator : Char} (h : c ∈ text.toList) (hne : c ≠ separator) :
    ∃ part ∈ JsString.split text separator, c ∈ part.toList := by
  have hjoin : List.intercalate [separator] (text.toList.splitOn separator) = text.toList :=
    List.intercalate_splitOn separator
  rw [← hjoin] at h
  rcases IpText.mem_intercalate_iff.mp h with ⟨part, hpart, hc⟩ | ⟨heq, -⟩
  · refine ⟨String.ofList part, List.mem_map_of_mem hpart, ?_⟩
    rw [String.toList_ofList]
    exact hc
  · exact absurd heq hne

theorem mem_splitDoubleColon {chars : List Char} {c : Char} (h : c ∈ chars) (hne : c ≠ ':') :
    ∃ part ∈ splitDoubleColon chars, c ∈ part := by
  fun_induction splitDoubleColon chars with
  | case1 rest ih =>
    rcases List.mem_cons.mp h with heq | h
    · exact absurd heq hne
    rcases List.mem_cons.mp h with heq | h
    · exact absurd heq hne
    obtain ⟨part, hpart, hc⟩ := ih h
    exact ⟨part, List.mem_cons_of_mem _ hpart, hc⟩
  | case2 first rest hnot part parts hsplit ih =>
    rcases List.mem_cons.mp h with rfl | h
    · exact ⟨_, List.mem_cons_self, List.mem_cons_self⟩
    obtain ⟨other, hother, hc⟩ := ih h
    rw [hsplit] at hother
    rcases List.mem_cons.mp hother with rfl | hother
    · exact ⟨_, List.mem_cons_self, List.mem_cons_of_mem _ hc⟩
    · exact ⟨other, List.mem_cons_of_mem _ hother, hc⟩
  | case3 first rest hnot hsplit ih =>
    exact absurd hsplit (splitDoubleColon_ne_nil rest)
  | case4 => cases h

theorem splitDoubleColon_cons {c : Char} {rest : List Char} (h : c ≠ ':' ∨ rest.head? ≠ some ':') :
    splitDoubleColon (c :: rest) = prependTo [c] (splitDoubleColon rest) := by
  have hne := splitDoubleColon_ne_nil rest
  rw [splitDoubleColon]
  · cases hsplit : splitDoubleColon rest with
    | nil => exact absurd hsplit hne
    | cons part parts => rfl
  · rintro rest' rfl rfl
    rcases h with h | h
    · exact h rfl
    · exact h rfl

theorem splitDoubleColon_append {word rest : List Char} (h : ':' ∉ word) :
    splitDoubleColon (word ++ rest) = prependTo word (splitDoubleColon rest) := by
  induction word with
  | nil =>
    rw [List.nil_append]
    cases hsplit : splitDoubleColon rest with
    | nil => exact absurd hsplit (splitDoubleColon_ne_nil rest)
    | cons part parts => rfl
  | cons c word ih =>
    rw [List.mem_cons, not_or] at h
    rw [List.cons_append, splitDoubleColon_cons (Or.inl (Ne.symm h.1)), ih h.2]
    cases splitDoubleColon rest with
    | nil => rfl
    | cons part parts => rfl

/-- Words between single colons stay in one part. -/
theorem splitDoubleColon_intercalate {words : List (List Char)} {rest : List Char}
    (h : ∀ word ∈ words, word ≠ [] ∧ ':' ∉ word) :
    splitDoubleColon (List.intercalate [':'] words ++ rest) =
      prependTo (List.intercalate [':'] words) (splitDoubleColon rest) := by
  induction words with
  | nil =>
    rw [List.intercalate_nil]
    exact splitDoubleColon_append (List.not_mem_nil)
  | cons word words ih =>
    have hword := h word List.mem_cons_self
    have hrest := ih fun other hmem => h other (List.mem_cons_of_mem _ hmem)
    cases words with
    | nil =>
      rw [List.intercalate_singleton]
      exact splitDoubleColon_append hword.2
    | cons next words =>
      have hnext := h next (List.mem_cons_of_mem _ List.mem_cons_self)
      have hhead : (List.intercalate [':'] (next :: words) ++ rest).head? ≠ some ':' := by
        obtain ⟨c, cs, rfl⟩ := List.exists_cons_of_ne_nil hnext.1
        have hc : c ≠ ':' := fun heq => hnext.2 (heq ▸ List.mem_cons_self)
        cases words with
        | nil => simpa using hc
        | cons other words => simpa [List.intercalate_cons_cons] using hc
      rw [List.intercalate_cons_cons, List.append_assoc, List.append_assoc,
        splitDoubleColon_append hword.2, List.singleton_append,
        splitDoubleColon_cons (Or.inr hhead), hrest]
      cases splitDoubleColon rest with
      | nil => simp [prependTo]
      | cons part parts => simp [prependTo]

/-! ## Parsing a spelling -/

open IpText (HexGroup Quad Ipv6 partChars partWords)

theorem Except.mem_of_mapM_ok {α β ε : Type} {f : α → Except ε β} {items : List α} {results : List β}
    (h : items.mapM f = .ok results) : ∀ a ∈ items, ∃ b, f a = .ok b := by
  induction items generalizing results with
  | nil => exact fun a hmem => nomatch hmem
  | cons item items ih =>
    rw [List.mapM_cons] at h
    cases hitem : f item with
    | error error =>
      rw [hitem] at h
      cases h
    | ok result =>
      cases hitems : items.mapM f with
      | error error =>
        rw [hitem, hitems] at h
        cases h
      | ok results' =>
        intro a hmem
        rcases List.mem_cons.mp hmem with rfl | hmem
        · exact ⟨result, hitem⟩
        · exact ih hitems a hmem

theorem pieces_colonless (groups : List HexGroup) (quad : Option Quad) :
    ∀ word ∈ groups.map HexGroup.chars ++ (quad.map fun q => q.text.toList).toList,
      word ≠ [] ∧ ':' ∉ word := by
  intro word hmem
  rcases List.mem_append.mp hmem with hmem | hmem
  · obtain ⟨group, -, rfl⟩ := List.mem_map.mp hmem
    refine ⟨?_, HexGroup.notMem IpText.hexDigit_colon⟩
    intro hnil
    have hpos := group.length_pos
    rw [hnil] at hpos
    cases hpos
  · cases quad with
    | none => cases hmem
    | some quad =>
      have hword : word = quad.text.toList := List.mem_singleton.mp hmem
      subst hword
      constructor
      · intro hnil
        have hdot := quad.dot_mem
        rw [hnil] at hdot
        cases hdot
      · intro hcolon
        rcases Quad.mem_text hcolon with hdigit | hdot
        · cases hdigit
        · cases hdot

theorem hexGroup_chars (group : HexGroup) :
    hexGroup (String.ofList group.chars) = some group.value := by
  unfold hexGroup
  rw [String.toList_ofList, if_pos ⟨group.length_pos, group.length_le⟩, group.value_eq]

/-- The parts of a part, unless it is empty. -/
theorem split_partChars {groups : List HexGroup} {quad : Option Quad}
    (hne : groups.map HexGroup.chars ++ (quad.map fun q => q.text.toList).toList ≠ []) :
    (partChars groups quad).isEmpty = false ∧
      JsString.split (String.ofList (partChars groups quad)) ':' =
        (groups.map HexGroup.chars ++ (quad.map fun q => q.text.toList).toList).map
          String.ofList := by
  have hpieces := pieces_colonless groups quad
  constructor
  · obtain ⟨piece, pieces, heq⟩ := List.exists_cons_of_ne_nil hne
    have hpiece := hpieces piece (heq ▸ List.mem_cons_self)
    obtain ⟨c, cs, rfl⟩ := List.exists_cons_of_ne_nil hpiece.1
    have hmem : c ∈ partChars groups quad := by
      refine IpText.mem_intercalate_iff.mpr (Or.inl ⟨c :: cs, ?_, List.mem_cons_self⟩)
      rw [heq]
      exact List.mem_cons_self
    rw [← Bool.not_eq_true, List.isEmpty_iff]
    exact List.ne_nil_of_mem hmem
  · unfold JsString.split partChars
    rw [String.toList_ofList, List.splitOn_intercalate ':' (fun piece hmem => (hpieces piece hmem).2)
      hne]

theorem mapM_parseIpv6Group (groups : List HexGroup) :
    ((groups.map HexGroup.chars).map String.ofList).mapM parseIpv6Group =
      .ok (groups.map HexGroup.value) := by
  induction groups with
  | nil => rfl
  | cons group groups ih =>
    rw [List.map_cons, List.map_cons, List.mapM_cons, ih]
    unfold parseIpv6Group
    rw [hexGroup_chars]
    rfl

theorem parseIpv6Groups_groups (groups : List HexGroup) :
    parseIpv6Groups (String.ofList (partChars groups none)) = .ok (groups.map HexGroup.value) := by
  unfold parseIpv6Groups
  rw [String.toList_ofList]
  cases groups with
  | nil => rfl
  | cons group groups =>
    obtain ⟨hempty, hsplit⟩ := @split_partChars (group :: groups) none (List.cons_ne_nil _ _)
    rw [hempty, hsplit, if_neg Bool.false_ne_true, Option.map_none, Option.toList_none,
      List.append_nil, mapM_parseIpv6Group]

theorem splitDoubleColon_full (groups : List HexGroup) (quad : Option Quad) :
    splitDoubleColon (partChars groups quad) = [partChars groups quad] := by
  have happend := @splitDoubleColon_intercalate _ [] (pieces_colonless groups quad)
  rw [List.append_nil] at happend
  show splitDoubleColon (List.intercalate _ _) = _
  rw [happend]
  simp [splitDoubleColon, prependTo, partChars]

theorem splitDoubleColon_compressed (head tail : List HexGroup) (quad : Option Quad) :
    splitDoubleColon (partChars head none ++ ':' :: ':' :: partChars tail quad) =
      [partChars head none, partChars tail quad] := by
  have happend := @splitDoubleColon_intercalate _ (':' :: ':' :: partChars tail quad)
    (pieces_colonless head none)
  show splitDoubleColon (List.intercalate _ _ ++ _) = _
  rw [happend, splitDoubleColon, splitDoubleColon_full]
  simp [prependTo, partChars]

theorem partWords_none (groups : List HexGroup) :
    partWords groups none = groups.map HexGroup.value :=
  List.append_nil _

/-- The bytes of a spelling without a dotted quad. -/
theorem ipv6ToBytes_groups {host : String} {address : Ipv6} (h : host.toList = address.chars)
    (hquad : address.quad = none) : ipv6ToBytes host = .ok (address.words.flatMap twoBytes) := by
  cases address with
  | full groups quad hwords =>
    obtain rfl : quad = none := hquad
    rw [partWords_none] at hwords
    have hlength : (groups.map HexGroup.value).length = 8 := hwords
    unfold ipv6ToBytes
    simp only [h, Ipv6.chars, splitDoubleColon_full, List.map_cons, List.map_nil,
      List.length_singleton]
    show (parseIpv6Groups (String.ofList (partChars groups none)) >>= fun head =>
      parseIpv6Groups "" >>= fun tail => joinGroups host false head tail) = _
    rw [parseIpv6Groups_groups]
    show joinGroups host false (groups.map HexGroup.value) [] = _
    unfold joinGroups
    simp only [Bool.false_eq_true, if_false]
    rw [if_neg]
    · show Except.ok ((groups.map HexGroup.value).flatMap twoBytes) =
        .ok ((partWords groups none).flatMap twoBytes)
      rw [partWords_none]
    · rw [hlength]
      decide
  | compressed head tail quad hwords =>
    obtain rfl : quad = none := hquad
    rw [partWords_none, List.length_map] at hwords
    unfold ipv6ToBytes
    simp only [h, Ipv6.chars, splitDoubleColon_compressed, List.map_cons, List.map_nil,
      List.length_cons, List.length_nil]
    show (parseIpv6Groups (String.ofList (partChars head none)) >>= fun headGroups =>
      parseIpv6Groups (String.ofList (partChars tail none)) >>= fun tailGroups =>
        joinGroups host true headGroups tailGroups) = _
    rw [parseIpv6Groups_groups, parseIpv6Groups_groups]
    show joinGroups host true (head.map HexGroup.value) (tail.map HexGroup.value) = _
    unfold joinGroups
    simp only [List.length_map, if_true]
    have hmissing : ((8 : Int) - head.length - tail.length).toNat = 8 - head.length - tail.length := by
      omega
    rw [if_neg]
    · rw [hmissing]
      show _ = Except.ok ((head.map HexGroup.value ++
        List.replicate (8 - head.length - (partWords tail none).length) 0 ++
          partWords tail none).flatMap twoBytes)
      rw [partWords_none, List.length_map]
    · rw [hmissing, List.length_append, List.length_append, List.length_replicate, List.length_map,
        List.length_map]
      omega

/-- Only hexadecimal digits and colons are taken. -/
theorem parseIpv6Groups_chars {input : String} {groups : List Nat}
    (h : parseIpv6Groups input = .ok groups) {c : Char} (hc : c ∈ input.toList) (hne : c ≠ ':') :
    (IpText.hexDigit c).isSome = true := by
  unfold parseIpv6Groups at h
  split at h
  · next hempty =>
    rw [List.isEmpty_iff.mp hempty] at hc
    cases hc
  · obtain ⟨part, hpart, hmem⟩ := mem_split hc hne
    obtain ⟨value, hvalue⟩ := Except.mem_of_mapM_ok h part hpart
    unfold parseIpv6Group at hvalue
    split at hvalue
    · next number hgroup =>
      unfold hexGroup at hgroup
      split at hgroup
      · exact IpText.hexNumberFrom_isSome hgroup c hmem
      · cases hgroup
    · cases hvalue

/-- So a spelling with a dotted quad or a zone is turned away. -/
theorem ipv6ToBytes_chars {host : String} {bytes : Bytes} (h : ipv6ToBytes host = .ok bytes) {c : Char}
    (hc : c ∈ host.toList) (hne : c ≠ ':') : (IpText.hexDigit c).isSome = true := by
  obtain ⟨part, hpart, hmem⟩ := mem_splitDoubleColon hc hne
  obtain ⟨i, hi, hget⟩ := List.mem_iff_getElem.mp hpart
  have hpart' : ((splitDoubleColon host.toList).map String.ofList)[i]?.getD "" = String.ofList part := by
    rw [List.getElem?_map, List.getElem?_eq_getElem hi, hget]
    rfl
  have hchars : c ∈ (String.ofList part).toList := by
    rw [String.toList_ofList]
    exact hmem
  unfold ipv6ToBytes at h
  simp only [List.length_map] at h
  split at h
  · cases h
  · next hlength =>
    cases hhead : parseIpv6Groups (((splitDoubleColon host.toList).map String.ofList)[0]?.getD "") with
    | error error =>
      rw [hhead] at h
      cases h
    | ok head =>
      cases htail : parseIpv6Groups (((splitDoubleColon host.toList).map String.ofList)[1]?.getD "") with
      | error error =>
        rw [hhead, htail] at h
        cases h
      | ok tail =>
        obtain rfl | rfl : i = 0 ∨ i = 1 := by omega
        · rw [hpart'] at hhead
          exact parseIpv6Groups_chars hhead hchars hne
        · rw [hpart'] at htail
          exact parseIpv6Groups_chars htail hchars hne

/-- A dotted quad is where a spelling has a dot. -/
theorem dot_mem_iff (address : Ipv6) : '.' ∈ address.chars ↔ address.quad ≠ none := by
  have hpart (groups : List HexGroup) (quad : Option Quad) :
      '.' ∈ partChars groups quad ↔ quad ≠ none := by
    constructor
    · intro hmem
      rcases IpText.mem_intercalate_iff.mp hmem with ⟨piece, hpiece, hdot⟩ | ⟨hdot, -⟩
      · rcases List.mem_append.mp hpiece with hpiece | hpiece
        · obtain ⟨group, -, rfl⟩ := List.mem_map.mp hpiece
          exact absurd hdot (HexGroup.notMem IpText.hexDigit_dot)
        · rintro rfl
          cases hpiece
      · cases hdot
    · intro hne
      obtain ⟨q, rfl⟩ := Option.ne_none_iff_exists'.mp hne
      refine IpText.mem_intercalate_iff.mpr (Or.inl ⟨q.text.toList, ?_, q.dot_mem⟩)
      exact List.mem_append_right _ (List.mem_singleton.mpr rfl)
  cases address with
  | full groups quad hwords => exact hpart groups quad
  | compressed head tail quad hwords =>
    show '.' ∈ partChars head none ++ ([':', ':'] ++ partChars tail quad) ↔ _
    rw [List.mem_append, List.mem_append, hpart, hpart]
    simp [Ipv6.quad]

/-! ## Words and their bytes -/

theorem uint16_twoBytes {n : Nat} (h : n < 65536) :
    uint16 (UInt8.ofNat ((n >>> 8) &&& 0xff)) (UInt8.ofNat (n &&& 0xff)) = n := by
  unfold uint16
  have hhigh : (n >>> 8) &&& 0xff = n / 256 := by
    have hmask := Nat.and_two_pow_sub_one_eq_mod (n >>> 8) 8
    rw [Nat.shiftRight_eq_div_pow] at hmask ⊢
    rw [show (0xff : Nat) = 2 ^ 8 - 1 from rfl, hmask]
    omega
  have hlow : n &&& 0xff = n % 256 := Nat.and_two_pow_sub_one_eq_mod n 8
  rw [hhigh, hlow, UInt8.toNat_ofNat', UInt8.toNat_ofNat', Nat.shiftLeft_eq]
  omega

theorem ipv6Groups_twoBytes {words : List Nat} (h : ∀ word ∈ words, word < 65536) :
    ipv6Groups (words.flatMap twoBytes) = words.map toHex := by
  induction words with
  | nil => rfl
  | cons word words ih =>
    have hword := uint16_twoBytes (h word List.mem_cons_self)
    have hrest := ih fun other hmem => h other (List.mem_cons_of_mem _ hmem)
    rw [List.flatMap_cons, List.map_cons, ← hrest]
    show toHex (uint16 _ _) :: ipv6Groups (words.flatMap twoBytes) = _
    rw [hword]

theorem length_twoBytes (words : List Nat) :
    (words.flatMap twoBytes).length = 2 * words.length := by
  induction words with
  | nil => rfl
  | cons word words ih =>
    rw [List.flatMap_cons, List.length_append, ih, List.length_cons]
    show 2 + _ = _
    omega

/-- Equal bytes are bytes of equal words. -/
theorem flatMap_twoBytes_inj {words words' : List Nat} (h : ∀ word ∈ words, word < 65536)
    (h' : ∀ word ∈ words', word < 65536)
    (heq : words.flatMap twoBytes = words'.flatMap twoBytes) : words = words' := by
  induction words generalizing words' with
  | nil =>
    cases words' with
    | nil => rfl
    | cons word' words' => cases heq
  | cons word words ih =>
    cases words' with
    | nil => cases heq
    | cons word' words' =>
      have hword := uint16_twoBytes (h word List.mem_cons_self)
      have hword' := uint16_twoBytes (h' word' List.mem_cons_self)
      rw [List.flatMap_cons, List.flatMap_cons] at heq
      have hcons : twoBytes word = twoBytes word' ∧
          words.flatMap twoBytes = words'.flatMap twoBytes := List.append_inj heq rfl
      obtain ⟨hbytes, hrest⟩ := hcons
      have hhigh := (List.cons.inj hbytes).1
      have hlow := (List.cons.inj (List.cons.inj hbytes).2).1
      rw [← hword, ← hword', hhigh, hlow]
      congr 1
      exact ih (fun other hmem => h other (List.mem_cons_of_mem _ hmem))
        (fun other hmem => h' other (List.mem_cons_of_mem _ hmem)) hrest

theorem partWords_lt (groups : List HexGroup) (quad : Option Quad) :
    ∀ word ∈ partWords groups quad, word < 65536 := by
  intro word hmem
  rcases List.mem_append.mp hmem with hmem | hmem
  · obtain ⟨group, -, rfl⟩ := List.mem_map.mp hmem
    exact group.value_lt
  · cases quad with
    | none => cases hmem
    | some quad =>
      have ha := quad.a.toNat_lt
      have hb := quad.b.toNat_lt
      have hc := quad.c.toNat_lt
      have hd := quad.d.toNat_lt
      simp only [Option.map_some, Option.getD_some, Quad.words, List.mem_cons, List.not_mem_nil,
        or_false] at hmem
      omega

theorem words_lt (address : Ipv6) : ∀ word ∈ address.words, word < 65536 := by
  cases address with
  | full groups quad hwords => exact partWords_lt groups quad
  | compressed head tail quad hwords =>
    intro word hmem
    rcases List.mem_append.mp hmem with hmem | hmem
    · rcases List.mem_append.mp hmem with hmem | hmem
      · obtain ⟨group, -, rfl⟩ := List.mem_map.mp hmem
        exact group.value_lt
      · rw [(List.mem_replicate.mp hmem).2]
        decide
    · exact partWords_lt tail quad word hmem

theorem length_words (address : Ipv6) : address.words.length = 8 := by
  cases address with
  | full groups quad hwords => exact hwords
  | compressed head tail quad hwords =>
    simp only [Ipv6.words, List.length_append, List.length_replicate, List.length_map]
    omega

/-- The eight words as a spelling of their own, in full. -/
def fullAddress (words : List Nat) (hlt : ∀ word ∈ words, word < 65536)
    (hlength : words.length = 8) : Ipv6 :=
  .full (words.attach.map fun word => IpText.wordGroup word.1 (hlt word.1 word.2)) none (by
    rw [partWords_none, List.length_map, List.length_map, List.length_attach, hlength])

theorem fullAddress_words {words : List Nat} (hlt : ∀ word ∈ words, word < 65536)
    (hlength : words.length = 8) : (fullAddress words hlt hlength).words = words := by
  show partWords _ none = words
  rw [partWords_none, List.map_map]
  show words.attach.map (fun word => id word.1) = words
  rw [List.attach_map_val, List.map_id]

theorem fullAddress_chars {words : List Nat} (hlt : ∀ word ∈ words, word < 65536)
    (hlength : words.length = 8) :
    (fullAddress words hlt hlength).chars = (JsString.join (words.map toHex) ':').toList := by
  show List.intercalate [':'] _ = _
  unfold JsString.join
  rw [String.toList_ofList, Option.map_none, Option.toList_none, List.append_nil, List.map_map,
    List.map_map]
  refine congrArg _ ?_
  show words.attach.map (fun word => Nat.toDigits 16 word.1) = _
  rw [List.attach_map_val]
  exact List.map_congr_left fun word _ => (String.toList_ofList).symm

/-! ## The round trip -/

/-- The words that every spelling of the host has. -/
def Denotes (host : String) (words : List Nat) : Prop :=
  (∃ address : Ipv6, host.toList = address.chars) ∧
    ∀ address : Ipv6, host.toList = address.chars → address.words = words

/-- Domains and IPv4 addresses are the same text, IPv6 addresses the same 128 bits. -/
def SameHost (addressType : AddressType) (host host' : String) : Prop :=
  match addressType with
  | .ipv6 => ∃ words, Denotes host words ∧ Denotes host' words
  | _ => host = host'

/-- Written anywhere in a buffer, the destination is read back with the place after it. -/
def RoundTrips (destination : Destination) : Prop :=
  ∃ bytes, encodeSocksAddress node destination = .ok bytes ∧ ∀ before after : Bytes, ∃ decoded,
    decodeSocksAddress node (before ++ (bytes ++ after)) before.length =
      .ok (decoded, before.length + bytes.length) ∧
    decoded.addressType = destination.addressType ∧
    SameHost destination.addressType destination.host decoded.host ∧
    decoded.port = destination.port

theorem denotes_of_chars {host : String} {address : Ipv6} (h : host.toList = address.chars)
    (hdot : '.' ∉ host.toList) : Denotes host address.words := by
  have hnone {other : Ipv6} (hother : host.toList = other.chars) : other.quad = none := by
    by_contra hne
    exact hdot (hother ▸ (dot_mem_iff other).mpr hne)
  refine ⟨⟨address, h⟩, fun other hother => ?_⟩
  have hbytes := ipv6ToBytes_groups h (hnone h)
  rw [ipv6ToBytes_groups hother (hnone hother)] at hbytes
  exact flatMap_twoBytes_inj (words_lt other) (words_lt address) (Except.ok.inj hbytes)

/-- An address with known fields is read back wherever it stands. -/
theorem decode_address (address : SocksAddress) (before after : Bytes) :
    decodeSocksAddress node (before ++ (address.encode ++ after)) before.length =
      .ok (address.destination node, before.length + address.encode.length) := by
  rw [decodeSocksAddress_append, decodeSocksAddress_encode]
  rfl

section Hosts

variable {node} {host : String} {port : Nat}

theorem roundTrips_ipv6 (hversions : IpText.Versions node.isIP) (hport : port ≤ 65535)
    {address : Ipv6} (hchars : host.toList = address.chars) (hsix : node.isIP host = 6)
    (hdot : '.' ∉ host.toList) : RoundTrips node (makeDestination node host port) := by
  have hnone : address.quad = none := by
    by_contra hne
    exact hdot (hchars ▸ (dot_mem_iff address).mpr hne)
  have htype : (makeDestination node host port).addressType = .ipv6 := by
    simp [makeDestination, detectAddressType, hsix]
  have hbytes := ipv6ToBytes_groups hchars hnone
  have hlength : (address.words.flatMap twoBytes).length = 16 := by
    rw [length_twoBytes, length_words]
  let socks : SocksAddress := ⟨.ipv6 (address.words.flatMap twoBytes) hlength,
    UInt8.ofNat ((port >>> 8) &&& 0xff), UInt8.ofNat (port &&& 0xff)⟩
  have hencode : encodeSocksAddress node (makeDestination node host port) = .ok socks.encode := by
    unfold encodeSocksAddress
    rw [htype]
    show (ipv6ToBytes host >>= fun bytes => pure (0x04 :: bytes ++ twoBytes port)) = _
    rw [hbytes]
    rfl
  refine ⟨socks.encode, hencode, fun before after => ?_⟩
  refine ⟨socks.destination node, decode_address node socks before after, ?_, ?_, ?_⟩
  all_goals
    have hhost : (socks.destination node).host = JsString.join (address.words.map toHex) ':' := by
      show JsString.join (ipv6Groups (address.words.flatMap twoBytes)) ':' = _
      rw [ipv6Groups_twoBytes (words_lt address)]
    have hfull : (socks.destination node).host.toList =
        (fullAddress address.words (words_lt address) (length_words address)).chars := by
      rw [hhost, fullAddress_chars]
  · have hdecoded : node.isIP (socks.destination node).host = 6 :=
      (hversions.v6 _).mpr ⟨_, [], Or.inl rfl, hfull.trans (List.append_nil _).symm⟩
    rw [htype]
    show detectAddressType node (socks.destination node).host = .ipv6
    simp [detectAddressType, hdecoded]
  · rw [htype]
    have hdecodedDot : '.' ∉ (socks.destination node).host.toList := by
      rw [hfull, dot_mem_iff]
      exact fun hne => hne rfl
    have hdenotes := denotes_of_chars hfull hdecodedDot
    rw [fullAddress_words] at hdenotes
    exact ⟨address.words, denotes_of_chars hchars hdot, hdenotes⟩
  · exact uint16_twoBytes (by omega)

theorem roundTrips_ipv4 (hversions : IpText.Versions node.isIP)
    (hnumber : ∀ n : Nat, n ≤ 255 → node.number (toString n) = some (n : Int)) (hport : port ≤ 65535)
    (hfour : node.isIP host = 4) : RoundTrips node (makeDestination node host port) := by
  obtain ⟨quad, hquad⟩ := (hversions.v4 host).mp hfour
  have htype : (makeDestination node host port).addressType = .ipv4 := by
    simp [makeDestination, detectAddressType, hfour]
  let socks : SocksAddress := ⟨.ipv4 quad.bytes rfl,
    UInt8.ofNat ((port >>> 8) &&& 0xff), UInt8.ofNat (port &&& 0xff)⟩
  have hsplit : JsString.split host '.' = quad.bytes.map fun byte => toString byte.toNat := by
    rw [← hquad]
    refine JsString.split_join (by simp [Quad.bytes]) fun part hmem => ?_
    obtain ⟨byte, -, rfl⟩ := List.mem_map.mp hmem
    exact JsString.notMem_toString_of_not_isDigit (by decide) byte.toNat
  have hparts : (JsString.split host '.').map node.number =
      quad.bytes.map fun byte => some (byte.toNat : Int) := by
    rw [hsplit, List.map_map]
    exact List.map_congr_left fun byte _ => hnumber byte.toNat (Nat.le_of_lt_succ byte.toNat_lt)
  have hbytes : ipv4ToBytes node host = .ok quad.bytes := by
    unfold ipv4ToBytes
    simp only [hparts]
    rw [if_neg]
    · rw [List.map_map]
      refine congrArg Except.ok ((List.map_congr_left fun byte _ => ?_).trans (List.map_id _))
      show UInt8.ofNat (byte.toNat : Int).toNat = byte
      rw [Int.toNat_natCast, UInt8.ofNat_toNat]
    · rintro (hlength | hany)
      · exact hlength (by rw [List.length_map]; rfl)
      · obtain ⟨part, hpart, hbad⟩ := List.any_eq_true.mp hany
        obtain ⟨byte, -, rfl⟩ := List.mem_map.mp hpart
        have hlt := byte.toNat_lt
        have hok : isByte (some (byte.toNat : Int)) = true := by
          unfold isByte
          exact decide_eq_true ⟨by omega, by omega⟩
        rw [hok] at hbad
        cases hbad
  have hencode : encodeSocksAddress node (makeDestination node host port) = .ok socks.encode := by
    unfold encodeSocksAddress
    rw [htype]
    show (ipv4ToBytes node host >>= fun bytes => pure (0x01 :: bytes ++ twoBytes port)) = _
    rw [hbytes]
    rfl
  refine ⟨socks.encode, hencode, fun before after => ?_⟩
  have hhost : (socks.destination node).host = host := hquad
  refine ⟨socks.destination node, decode_address node socks before after, ?_, ?_, ?_⟩
  · show detectAddressType node (socks.destination node).host = _
    rw [hhost]
    rfl
  · rw [htype]
    exact hhost.symm
  · exact uint16_twoBytes (by omega)

theorem roundTrips_domain (hutf8 : ∀ text, node.utf8 (utf8Bytes text) = text)
    (hport : port ≤ 65535) (hne : host ≠ "") (hlength : (utf8Bytes host).length ≤ 255)
    (hfour : node.isIP host ≠ 4) (hsix : node.isIP host ≠ 6) :
    RoundTrips node (makeDestination node host port) := by
  have htype : (makeDestination node host port).addressType = .domain := by
    show detectAddressType node host = _
    unfold detectAddressType
    split
    · next h => exact absurd h hfour
    · next h => exact absurd h hsix
    · rfl
  have hpos : 0 < (utf8Bytes host).length := by
    refine Nat.pos_of_ne_zero fun hzero => hne ?_
    have hnil : utf8Bytes host = utf8Bytes "" := List.length_eq_zero_iff.mp hzero
    rw [← hutf8 host, hnil, hutf8]
  let socks : SocksAddress := ⟨.domain (utf8Bytes host) ⟨hpos, hlength⟩,
    UInt8.ofNat ((port >>> 8) &&& 0xff), UInt8.ofNat (port &&& 0xff)⟩
  have hencode : encodeSocksAddress node (makeDestination node host port) = .ok socks.encode := by
    unfold encodeSocksAddress
    rw [htype]
    show (if 255 < (utf8Bytes host).length then _ else _) = _
    rw [if_neg (by omega)]
    rfl
  refine ⟨socks.encode, hencode, fun before after => ?_⟩
  have hhost : (socks.destination node).host = host := hutf8 host
  refine ⟨socks.destination node, decode_address node socks before after, ?_, ?_, ?_⟩
  · show detectAddressType node (socks.destination node).host = _
    rw [hhost]
    rfl
  · rw [htype]
    exact hhost.symm
  · exact uint16_twoBytes (by omega)

/-- No character but hexadecimal digits and colons may stand in an IPv6 host. -/
theorem not_roundTrips_char (hsix : node.isIP host = 6) {c : Char} (hc : c ∈ host.toList) (hne : c ≠ ':')
    (hdigit : IpText.hexDigit c = none) : ¬ RoundTrips node (makeDestination node host port) := by
  rintro ⟨bytes, hencode, -⟩
  have htype : (makeDestination node host port).addressType = .ipv6 := by
    simp [makeDestination, detectAddressType, hsix]
  unfold encodeSocksAddress at hencode
  rw [htype] at hencode
  have hbind : (ipv6ToBytes host >>= fun bytes => pure (0x04 :: bytes ++ twoBytes port)) =
      .ok bytes := hencode
  cases hbytes : ipv6ToBytes host with
  | error error =>
    rw [hbytes] at hbind
    cases hbind
  | ok bytes' =>
    have hsome := ipv6ToBytes_chars hbytes hc hne
    rw [hdigit] at hsome
    cases hsome

/-- An IPv6 spelling without a zone. -/
theorem exists_address (hversions : IpText.Versions node.isIP) (hsix : node.isIP host = 6)
    (hzone : '%' ∉ host.toList) : ∃ address : Ipv6, host.toList = address.chars := by
  obtain ⟨address, zone, hend, hchars⟩ := (hversions.v6 host).mp hsix
  rcases hend with rfl | ⟨rest, -, -, rfl⟩
  · exact ⟨address, by rw [hchars, List.append_nil]⟩
  · refine absurd ?_ hzone
    rw [hchars]
    exact List.mem_append_right _ List.mem_cons_self

/-- Every destination round trips but for the IPv6 hosts with a dotted quad or a zone. -/
theorem codec_round_trips_iff (node : Node) (hversions : IpText.Versions node.isIP)
    (hutf8 : ∀ text, node.utf8 (utf8Bytes text) = text)
    (hnumber : ∀ n : Nat, n ≤ 255 → node.number (toString n) = some (n : Int)) (host : String) (port : Nat)
    (hport : port ≤ 65535) (hne : host ≠ "") (hlength : (utf8Bytes host).length ≤ 255) :
    RoundTrips node (makeDestination node host port) ↔
      ¬ (node.isIP host = 6 ∧ ('.' ∈ host.toList ∨ '%' ∈ host.toList)) := by
  by_cases hsix : node.isIP host = 6
  · constructor
    · rintro htrips ⟨-, hdot | hzone⟩
      · exact not_roundTrips_char hsix hdot (by decide) (by decide) htrips
      · exact not_roundTrips_char hsix hzone (by decide) (by decide) htrips
    · intro h
      have hplain : '.' ∉ host.toList ∧ '%' ∉ host.toList :=
        not_or.mp fun hbad => h ⟨hsix, hbad⟩
      obtain ⟨address, hchars⟩ := exists_address hversions hsix hplain.2
      exact roundTrips_ipv6 hversions hport hchars hsix hplain.1
  · refine iff_of_true ?_ fun h => hsix h.1
    by_cases hfour : node.isIP host = 4
    · exact roundTrips_ipv4 hversions hnumber hport hfour
    · exact roundTrips_domain hutf8 hport hne hlength hfour hsix

end Hosts

/-! ## An address that carries IPv4 -/

/-- The built-ins on texts of addresses, of decimal numbers and of UTF-8. -/
noncomputable def codecNode : Node :=
  { asciiNode with
    isIP := IpText.version
    utf8 := fun bytes => (String.fromUTF8? ⟨bytes.toArray⟩).getD "" }

theorem codecNode_utf8 (text : String) : codecNode.utf8 (utf8Bytes text) = text := by
  show (String.fromUTF8? ⟨text.toByteArray.data.toList.toArray⟩).getD "" = text
  rw [Array.toArray_toList]
  unfold String.fromUTF8?
  rw [dif_pos text.isValidUTF8]
  rfl

theorem codec_round_trips_loopback :
    RoundTrips codecNode (makeDestination codecNode "::1" 443) :=
  (codec_round_trips_iff codecNode IpText.versions codecNode_utf8
    (fun n _ => JsString.decimalNumber_toString n) "::1" 443 (by decide) (by decide)
    (by decide +kernel)).mpr fun h => absurd h.2 (by decide)

def mappedGroup : HexGroup := ⟨['f', 'f', 'f', 'f'], 65535, by decide, by decide, by decide⟩

/-- A host that `net.isIP` takes for IPv6 is not encoded. -/
theorem mapped_address_rejected : codecNode.isIP "::ffff:1.2.3.4" = 6 ∧
    (∃ error, encodeSocksAddress codecNode (makeDestination codecNode "::ffff:1.2.3.4" 443) =
      .error error) ∧
    ¬ RoundTrips codecNode (makeDestination codecNode "::ffff:1.2.3.4" 443) := by
  have hchars : "::ffff:1.2.3.4".toList =
      Ipv6.chars (.compressed [] [mappedGroup] (some ⟨1, 2, 3, 4⟩) (by decide)) := by
    decide +kernel
  have hsix : codecNode.isIP "::ffff:1.2.3.4" = 6 :=
    (IpText.versions.v6 _).mpr ⟨_, [], Or.inl rfl, hchars.trans (List.append_nil _).symm⟩
  refine ⟨hsix, ?_, not_roundTrips_char hsix (show '.' ∈ _ by decide) (by decide) (by decide)⟩
  have htype : (makeDestination codecNode "::ffff:1.2.3.4" 443).addressType = .ipv6 := by
    simp [makeDestination, detectAddressType, hsix]
  unfold encodeSocksAddress
  rw [htype]
  show ∃ error, (ipv6ToBytes "::ffff:1.2.3.4" >>= fun bytes => pure (0x04 :: bytes ++ twoBytes 443)) = _
  cases hbytes : ipv6ToBytes "::ffff:1.2.3.4" with
  | error error => exact ⟨error, rfl⟩
  | ok bytes => exact absurd (ipv6ToBytes_chars hbytes (show '.' ∈ _ by decide) (by decide)) (by decide)

end SocksCodec

end Sepigs
