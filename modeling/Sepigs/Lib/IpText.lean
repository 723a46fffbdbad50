import Sepigs.Lib.JsString

/-!
# The spellings of IP addresses

Dotted decimal, and the groups of an IPv6 address: all eight of them, or with `::` for at
least one group of zeros, the last two perhaps in dotted decimal.
-/

namespace IpText

def hexDigit (c : Char) : Option Nat :=
  if c.isDigit then some (c.toNat - '0'.toNat)
  else if 'a' ≤ c ∧ c ≤ 'f' then some (c.toNat - 'a'.toNat + 10)
  else if 'A' ≤ c ∧ c ≤ 'F' then some (c.toNat - 'A'.toNat + 10)
  else none

/-- The number that hexadecimal digits write, after the digits of `value`. -/
def hexNumberFrom : Nat → List Char → Option Nat
  | value, [] => some value
  | value, c :: cs =>
    match hexDigit c with
    | some digit => hexNumberFrom (value * 16 + digit) cs
    | none => none

def hexNumber (digits : List Char) : Option Nat := hexNumberFrom 0 digits

/-- One to four hexadecimal digits. -/
structure HexGroup where
  chars : List Char
  value : Nat
  length_pos : 1 ≤ chars.length
  length_le : chars.length ≤ 4
  value_eq : hexNumber chars = some value

/-- Four bytes in dotted decimal. -/
structure Quad where
  a : UInt8
  b : UInt8
  c : UInt8
  d : UInt8

namespace Quad

def bytes (quad : Quad) : List UInt8 := [quad.a, quad.b, quad.c, quad.d]

def text (quad : Quad) : String :=
  JsString.join (quad.bytes.map fun byte => toString byte.toNat) '.'

def words (quad : Quad) : List Nat :=
  [quad.a.toNat * 256 + quad.b.toNat, quad.c.toNat * 256 + quad.d.toNat]

end Quad

/-- Groups and a last dotted quad, between colons. -/
def partChars (groups : List HexGroup) (quad : Option Quad) : List Char :=
  List.intercalate [':'] (groups.map HexGroup.chars ++ (quad.map fun q => q.text.toList).toList)

def partWords (groups : List HexGroup) (quad : Option Quad) : List Nat :=
  groups.map HexGroup.value ++ (quad.map Quad.words).getD []

/-- An IPv6 address as it is written, without a zone. -/
inductive Ipv6 where
  | full (groups : List HexGroup) (quad : Option Quad)
      (h : (partWords groups quad).length = 8)
  | compressed (head tail : List HexGroup) (quad : Option Quad)
      (h : head.length + (partWords tail quad).length ≤ 7)

namespace Ipv6

def chars : Ipv6 → List Char
  | full groups quad _ => partChars groups quad
  | compressed head tail quad _ => partChars head none ++ ':' :: ':' :: partChars tail quad

/-- The eight words of the address. -/
def words : Ipv6 → List Nat
  | full groups quad _ => partWords groups quad
  | compressed head tail quad _ =>
    head.map HexGroup.value ++
      List.replicate (8 - head.length - (partWords tail quad).length) 0 ++ partWords tail quad

/-- The dotted quad at the end. -/
def quad : Ipv6 → Option Quad
  | full _ quad _ => quad
  | compressed _ _ quad _ => quad

end Ipv6

/-- What may name a zone. -/
def isZoneChar (c : Char) : Bool := c.isAlphanum || c = '-' || c = '.' || c = ':'

/-- A zone after a percent sign, or nothing. -/
def ZoneEnd (chars : List Char) : Prop :=
  chars = [] ∨ ∃ zone, zone ≠ [] ∧ (∀ c ∈ zone, isZoneChar c = true) ∧ chars = '%' :: zone

/-- The text of an IPv6 address, which may have a zone. -/
def IsIpv6 (host : String) : Prop :=
  ∃ (address : Ipv6) (zone : List Char), ZoneEnd zone ∧ host.toList = address.chars ++ zone

def IsIpv4 (host : String) : Prop := ∃ quad : Quad, quad.text = host

/-- A function gives the version of the texts that are addresses. -/
structure Versions (version : String → Nat) : Prop where
  v4 : ∀ host, version host = 4 ↔ IsIpv4 host
  v6 : ∀ host, version host = 6 ↔ IsIpv6 host

/-! ## Digits -/

theorem hexDigit_colon : hexDigit ':' = none := by decide

theorem hexDigit_dot : hexDigit '.' = none := by decide

theorem hexDigit_lt {c : Char} {digit : Nat} (h : hexDigit c = some digit) : digit < 16 := by
  unfold hexDigit at h
  split at h
  · next hdigit =>
    cases h
    have hle := (Char.isDigit_iff_toNat.mp hdigit).2
    have h9 : '9'.toNat = 57 := rfl
    have h0 : '0'.toNat = 48 := rfl
    omega
  · split at h
    · next hlower =>
      cases h
      have hle : c.toNat ≤ 'f'.toNat := hlower.2
      have hf : 'f'.toNat = 102 := rfl
      have ha : 'a'.toNat = 97 := rfl
      omega
    · split at h
      · next hupper =>
        cases h
        have hle : c.toNat ≤ 'F'.toNat := hupper.2
        have hf : 'F'.toNat = 70 := rfl
        have ha : 'A'.toNat = 65 := rfl
        omega
      · cases h

theorem hexNumberFrom_append {value : Nat} (left right : List Char) :
    hexNumberFrom value (left ++ right) =
      (hexNumberFrom value left).bind fun number => hexNumberFrom number right := by
  induction left generalizing value with
  | nil => rfl
  | cons c left ih =>
    rw [List.cons_append, hexNumberFrom, hexNumberFrom]
    cases hexDigit c with
    | none => rfl
    | some digit => exact ih

theorem hexNumberFrom_isSome {value : Nat} {digits : List Char} {number : Nat}
    (h : hexNumberFrom value digits = some number) : ∀ c ∈ digits, (hexDigit c).isSome = true := by
  induction digits generalizing value with
  | nil => exact fun c hmem => nomatch hmem
  | cons c digits ih =>
    rw [hexNumberFrom] at h
    cases hdigit : hexDigit c with
    | none =>
      rw [hdigit] at h
      cases h
    | some digit =>
      rw [hdigit] at h
      intro other hmem
      rcases List.mem_cons.mp hmem with rfl | hmem
      · rw [hdigit]
        rfl
      · exact ih h other hmem

theorem HexGroup.hexDigit_isSome (group : HexGroup) :
    ∀ c ∈ group.chars, (hexDigit c).isSome = true :=
  hexNumberFrom_isSome group.value_eq

theorem HexGroup.notMem {group : HexGroup} {c : Char} (h : hexDigit c = none) :
    c ∉ group.chars := by
  intro hmem
  have hsome := group.hexDigit_isSome c hmem
  rw [h] at hsome
  cases hsome

theorem hexDigit_digitChar {digit : Nat} (h : digit < 16) :
    hexDigit (Nat.digitChar digit) = some digit := by
  revert digit
  decide

/-- Hexadecimal digits are read as the number they were written for. -/
theorem hexNumber_toDigits (n : Nat) : hexNumber (Nat.toDigits 16 n) = some n := by
  induction n using Nat.strongRecOn with
  | ind n ih =>
    rw [Nat.toDigits_eq_if (by decide)]
    split
    · next hlt =>
      show (match hexDigit (Nat.digitChar n) with | some digit => _ | none => _) = _
      rw [hexDigit_digitChar hlt]
      show some (0 * 16 + n) = some n
      rw [Nat.zero_mul, Nat.zero_add]
    · next hge =>
      have hdiv : n / 16 < n := Nat.div_lt_self (by omega) (by decide)
      have hrest := ih (n / 16) hdiv
      have hmod : n % 16 < 16 := Nat.mod_lt n (by decide)
      unfold hexNumber at hrest ⊢
      rw [hexNumberFrom_append, hrest]
      show (match hexDigit (Nat.digitChar (n % 16)) with | some digit => _ | none => _) = _
      rw [hexDigit_digitChar hmod]
      show some (n / 16 * 16 + n % 16) = some n
      rw [Nat.div_add_mod' n 16]

/-- A word as a group of as few digits as it takes. -/
def wordGroup (word : Nat) (h : word < 65536) : HexGroup where
  chars := Nat.toDigits 16 word
  value := word
  length_pos := Nat.length_toDigits_pos
  length_le := (Nat.length_toDigits_le_iff (by decide) (by decide)).mpr h
  value_eq := hexNumber_toDigits word

def zeroGroup : HexGroup := ⟨['0'], 0, by decide, by decide, by decide⟩

theorem hexNumberFrom_lt {value number : Nat} {digits : List Char}
    (h : hexNumberFrom value digits = some number) :
    number < (value + 1) * 16 ^ digits.length := by
  induction digits generalizing value with
  | nil =>
    cases h
    simp
  | cons c digits ih =>
    rw [hexNumberFrom] at h
    cases hdigit : hexDigit c with
    | none =>
      rw [hdigit] at h
      cases h
    | some digit =>
      rw [hdigit] at h
      have hlt := ih h
      have hdigitLt := hexDigit_lt hdigit
      have hle : (value * 16 + digit + 1) * 16 ^ digits.length ≤
          ((value + 1) * 16) * 16 ^ digits.length := Nat.mul_le_mul_right _ (by omega)
      rw [List.length_cons, Nat.pow_succ, Nat.mul_comm (16 ^ digits.length) 16, ← Nat.mul_assoc]
      omega

theorem HexGroup.value_lt (group : HexGroup) : group.value < 65536 := by
  have hlt := hexNumberFrom_lt group.value_eq
  have hle : 16 ^ group.chars.length ≤ 16 ^ 4 := Nat.pow_le_pow_right (by decide) group.length_le
  rw [Nat.zero_add, Nat.one_mul] at hlt
  have h4 : 16 ^ 4 = 65536 := rfl
  omega

/-! ## All zeros -/

theorem hexDigit_eq_zero {c : Char} (h : hexDigit c = some 0) : c = '0' := by
  unfold hexDigit at h
  split at h
  · next hdigit =>
    have hbounds := Char.isDigit_iff_toNat.mp hdigit
    have h0 : '0'.toNat = 48 := rfl
    have hzero : c.toNat - 48 = 0 := Option.some.inj h
    have heq : c.toNat = '0'.toNat := by omega
    exact Char.toNat_inj.mp heq
  · split at h
    · have hsucc : c.toNat - 'a'.toNat + 10 = 0 := Option.some.inj h
      omega
    · split at h
      · have hsucc : c.toNat - 'A'.toNat + 10 = 0 := Option.some.inj h
        omega
      · cases h

/-- Digits write zero when all of them are zero. -/
theorem hexNumberFrom_eq_zero_iff {value : Nat} {digits : List Char} {number : Nat}
    (h : hexNumberFrom value digits = some number) :
    number = 0 ↔ value = 0 ∧ ∀ c ∈ digits, c = '0' := by
  induction digits generalizing value with
  | nil =>
    cases h
    simp
  | cons c digits ih =>
    rw [hexNumberFrom] at h
    cases hdigit : hexDigit c with
    | none =>
      rw [hdigit] at h
      cases h
    | some digit =>
      rw [hdigit] at h
      rw [ih h, List.forall_mem_cons, ← and_assoc]
      refine and_congr_left fun _ => ?_
      constructor
      · intro hsum
        have hzero : digit = 0 := by omega
        rw [hzero] at hdigit
        exact ⟨by omega, hexDigit_eq_zero hdigit⟩
      · rintro ⟨rfl, rfl⟩
        have h0 : hexDigit '0' = some 0 := by decide
        rw [h0] at hdigit
        cases hdigit
        rfl

theorem HexGroup.value_eq_zero_iff (group : HexGroup) :
    group.value = 0 ↔ ∀ c ∈ group.chars, c = '0' := by
  rw [hexNumberFrom_eq_zero_iff group.value_eq]
  simp

theorem mem_intercalate_iff {α : Type} {separator a : α} {parts : List (List α)} :
    a ∈ List.intercalate [separator] parts ↔
      (∃ part ∈ parts, a ∈ part) ∨ a = separator ∧ 2 ≤ parts.length := by
  induction parts with
  | nil => simp
  | cons part parts ih =>
    cases parts with
    | nil => simp
    | cons next parts =>
      rw [List.intercalate_cons_cons, List.mem_append, List.mem_append, List.mem_singleton, ih]
      simp only [List.exists_mem_cons_iff, List.length_cons]
      constructor
      · rintro ((hpart | hsep) | hrest | ⟨hsep, -⟩)
        · exact Or.inl (Or.inl hpart)
        · exact Or.inr ⟨hsep, by omega⟩
        · exact Or.inl (Or.inr hrest)
        · exact Or.inr ⟨hsep, by omega⟩
      · rintro ((hpart | hrest) | ⟨hsep, -⟩)
        · exact Or.inl (Or.inl hpart)
        · exact Or.inr (Or.inl hrest)
        · exact Or.inl (Or.inr hsep)

/-- The characters of an address that is all zeros. -/
def isZeroChar (c : Char) : Prop := c = '0' ∨ c = ':' ∨ c = '.'

/-- The characters of a number in decimal. -/
theorem chars_toDigits (n : Nat) :
    (∀ c ∈ Nat.toDigits 10 n, c.isDigit = true) ∧
      ((∀ c ∈ Nat.toDigits 10 n, c = '0') ↔ n = 0) := by
  refine ⟨fun c hc => Nat.isDigit_of_mem_toDigits (by decide) (by decide) hc, ?_, ?_⟩
  · intro hzero
    have hvalue := Nat.ofDigitChars_toDigits (b := 10) (n := n) (by decide) (by decide)
    rw [List.eq_replicate_of_mem hzero, Nat.ofDigitChars_replicate_zero, Nat.mul_zero] at hvalue
    exact hvalue.symm
  · rintro rfl c hc
    rw [Nat.toDigits_zero] at hc
    exact List.mem_singleton.mp hc

theorem Quad.toList_text (quad : Quad) : quad.text.toList =
    List.intercalate ['.'] (quad.bytes.map fun byte => Nat.toDigits 10 byte.toNat) := by
  unfold Quad.text JsString.join
  rw [String.toList_ofList, List.map_map]
  exact congrArg _ (List.map_congr_left fun byte _ => Nat.toList_repr)

theorem Quad.mem_text {quad : Quad} {c : Char} (h : c ∈ quad.text.toList) :
    c.isDigit = true ∨ c = '.' := by
  rw [quad.toList_text, mem_intercalate_iff] at h
  rcases h with ⟨digits, hdigits, hmem⟩ | ⟨rfl, -⟩
  · obtain ⟨byte, -, rfl⟩ := List.mem_map.mp hdigits
    exact Or.inl ((chars_toDigits byte.toNat).1 c hmem)
  · exact Or.inr rfl

theorem Quad.dot_mem (quad : Quad) : '.' ∈ quad.text.toList := by
  rw [quad.toList_text]
  refine mem_intercalate_iff.mpr (Or.inr ⟨rfl, ?_⟩)
  rw [List.length_map]
  show 2 ≤ 4
  decide

theorem Quad.words_zero_iff (quad : Quad) :
    (∀ word ∈ quad.words, word = 0) ↔ ∀ byte ∈ quad.bytes, byte.toNat = 0 := by
  unfold Quad.words Quad.bytes
  simp only [List.forall_mem_cons, List.not_mem_nil, false_imp_iff, implies_true, and_true]
  omega

theorem Quad.zero_iff (quad : Quad) :
    (∀ byte ∈ quad.bytes, byte.toNat = 0) ↔ ∀ c ∈ quad.text.toList, isZeroChar c := by
  rw [quad.toList_text]
  constructor
  · intro h c hmem
    rcases mem_intercalate_iff.mp hmem with ⟨digits, hdigits, hc⟩ | ⟨rfl, -⟩
    · obtain ⟨byte, hbyte, rfl⟩ := List.mem_map.mp hdigits
      exact Or.inl (((chars_toDigits byte.toNat).2.mpr (h byte hbyte)) c hc)
    · exact Or.inr (Or.inr rfl)
  · intro h byte hbyte
    have hdigits := chars_toDigits byte.toNat
    refine hdigits.2.mp fun c hc => ?_
    have hdigit := hdigits.1 c hc
    have hzero := h c (mem_intercalate_iff.mpr (Or.inl ⟨_, List.mem_map_of_mem hbyte, hc⟩))
    rcases hzero with rfl | rfl | rfl
    · rfl
    · cases hdigit
    · cases hdigit

theorem mem_partChars {groups : List HexGroup} {quad : Option Quad} {c : Char}
    (h : c ∈ partChars groups quad) : (hexDigit c).isSome = true ∨ c = ':' ∨ c = '.' := by
  rcases mem_intercalate_iff.mp h with ⟨part, hpart, hc⟩ | ⟨rfl, -⟩
  · rcases List.mem_append.mp hpart with hpart | hpart
    · obtain ⟨group, -, rfl⟩ := List.mem_map.mp hpart
      exact Or.inl (group.hexDigit_isSome c hc)
    · cases quad with
      | none => cases hpart
      | some quad =>
        obtain rfl := List.mem_singleton.mp hpart
        rcases Quad.mem_text hc with hdigit | hdot
        · refine Or.inl ?_
          unfold hexDigit
          rw [if_pos hdigit]
          rfl
        · exact Or.inr (Or.inr hdot)
  · exact Or.inr (Or.inl rfl)

theorem Ipv6.mem_chars {address : Ipv6} {c : Char} (h : c ∈ address.chars) :
    (hexDigit c).isSome = true ∨ c = ':' ∨ c = '.' := by
  cases address with
  | full groups quad hwords => exact mem_partChars h
  | compressed head tail quad hwords =>
    rcases List.mem_append.mp h with h | h
    · exact mem_partChars h
    · rcases List.mem_cons.mp h with rfl | h
      · exact Or.inr (Or.inl rfl)
      · rcases List.mem_cons.mp h with rfl | h
        · exact Or.inr (Or.inl rfl)
        · exact mem_partChars h

theorem partWords_zero_iff (groups : List HexGroup) (quad : Option Quad) :
    (∀ word ∈ partWords groups quad, word = 0) ↔
      ∀ c ∈ partChars groups quad, isZeroChar c := by
  have hgroup (group : HexGroup) : group.value = 0 ↔ ∀ c ∈ group.chars, isZeroChar c := by
    rw [group.value_eq_zero_iff]
    refine forall₂_congr fun c hc => ⟨Or.inl, ?_⟩
    rintro (rfl | rfl | rfl)
    · rfl
    · exact absurd hc (HexGroup.notMem hexDigit_colon)
    · exact absurd hc (HexGroup.notMem hexDigit_dot)
  have hparts : (∀ word ∈ partWords groups quad, word = 0) ↔
      ∀ part ∈ groups.map HexGroup.chars ++ (quad.map fun q => q.text.toList).toList,
        ∀ c ∈ part, isZeroChar c := by
    unfold partWords
    rw [List.forall_mem_append, List.forall_mem_append, List.forall_mem_map, List.forall_mem_map]
    refine and_congr (forall₂_congr fun group _ => hgroup group) ?_
    cases quad with
    | none => simp
    | some quad =>
      rw [Option.map_some, Option.getD_some, quad.words_zero_iff, quad.zero_iff]
      simp
  rw [hparts]
  constructor
  · intro h c hc
    rcases mem_intercalate_iff.mp hc with ⟨part, hpart, hc⟩ | ⟨rfl, -⟩
    · exact h part hpart c hc
    · exact Or.inr (Or.inl rfl)
  · intro h part hpart c hc
    exact h c (mem_intercalate_iff.mpr (Or.inl ⟨part, hpart, hc⟩))

/-- An IPv6 address is all zeros when its text has no other digit than zero. -/
theorem Ipv6.words_zero_iff (address : Ipv6) :
    (∀ word ∈ address.words, word = 0) ↔ ∀ c ∈ address.chars, isZeroChar c := by
  cases address with
  | full groups quad h => exact partWords_zero_iff groups quad
  | compressed head tail quad h =>
    have hhead := partWords_zero_iff head none
    have htail := partWords_zero_iff tail quad
    have hcolons : ∀ c ∈ [':', ':'], isZeroChar c := by
      intro c hc
      simp only [List.mem_cons, List.not_mem_nil, or_false, or_self] at hc
      exact Or.inr (Or.inl hc)
    simp only [partWords, Option.map_none, Option.getD_none, List.append_nil] at hhead
    show (∀ word ∈ head.map HexGroup.value ++ List.replicate _ 0 ++ partWords tail quad, word = 0) ↔
      ∀ c ∈ partChars head none ++ ([':', ':'] ++ partChars tail quad), isZeroChar c
    rw [List.forall_mem_append, List.forall_mem_append, List.forall_mem_append,
      List.forall_mem_append, hhead, htail]
    constructor
    · rintro ⟨⟨hh, -⟩, ht⟩
      exact ⟨hh, hcolons, ht⟩
    · rintro ⟨hh, -, ht⟩
      exact ⟨⟨hh, fun word hword => (List.mem_replicate.mp hword).2⟩, ht⟩

/-! ## The version of a text -/

theorem count_intercalate {separator : Char} (parts : List (List Char)) :
    parts.length ≤ (List.intercalate [separator] parts).count separator + 1 := by
  induction parts with
  | nil => exact Nat.zero_le _
  | cons part parts ih =>
    cases parts with
    | nil =>
      rw [List.length_singleton]
      omega
    | cons next parts =>
      rw [List.intercalate_cons_cons, List.count_append, List.count_append, List.count_singleton_self]
      rw [List.length_cons]
      omega

/-- An address has at least two colons. -/
theorem Ipv6.two_le_count_colon (address : Ipv6) : 2 ≤ address.chars.count ':' := by
  cases address with
  | full groups quad h =>
    have hparts := @count_intercalate ':'
      (groups.map HexGroup.chars ++ (quad.map fun q => q.text.toList).toList)
    rw [List.length_append, List.length_map] at hparts
    show 2 ≤ (partChars groups quad).count ':'
    unfold partChars
    simp only [partWords, List.length_append, List.length_map] at h
    cases quad with
    | none =>
      simp only [Option.map_none, Option.getD_none, List.length_nil] at h
      omega
    | some quad =>
      simp only [Option.map_some, Option.getD_some, Quad.words, List.length_cons,
        List.length_nil] at h
      omega
  | compressed head tail quad h =>
    show 2 ≤ (partChars head none ++ ':' :: ':' :: partChars tail quad).count ':'
    rw [List.count_append, List.count_cons_self, List.count_cons_self]
    omega

theorem Ipv6.colon_mem (address : Ipv6) : ':' ∈ address.chars := by
  have hcount := address.two_le_count_colon
  exact List.count_pos_iff.mp (by omega)

theorem IsIpv6.two_le_count_colon {host : String} (h : IsIpv6 host) : 2 ≤ host.toList.count ':' := by
  obtain ⟨address, zone, -, hchars⟩ := h
  have hcount := address.two_le_count_colon
  rw [hchars, List.count_append]
  omega

theorem IsIpv6.mem_chars {host : String} (h : IsIpv6 host) {c : Char} (hc : c ∈ host.toList) :
    (hexDigit c).isSome = true ∨ c = ':' ∨ c = '.' ∨ c = '%' ∨ isZoneChar c = true := by
  obtain ⟨address, zone, hzone, hchars⟩ := h
  rw [hchars] at hc
  rcases List.mem_append.mp hc with hc | hc
  · rcases address.mem_chars hc with hhex | hcolon | hdot
    · exact .inl hhex
    · exact .inr (.inl hcolon)
    · exact .inr (.inr (.inl hdot))
  · rcases hzone with rfl | ⟨name, -, hname, rfl⟩
    · cases hc
    · rcases List.mem_cons.mp hc with hpercent | hc
      · exact .inr (.inr (.inr (.inl hpercent)))
      · exact .inr (.inr (.inr (.inr (hname c hc))))

theorem not_isIpv6_of_isIpv4 {host : String} (h : IsIpv4 host) : ¬ IsIpv6 host := by
  rintro ⟨address, zone, -, hchars⟩
  obtain ⟨quad, rfl⟩ := h
  have hmem : ':' ∈ quad.text.toList := by
    rw [hchars]
    exact List.mem_append_left _ address.colon_mem
  rcases Quad.mem_text hmem with hdigit | hdot
  · cases hdigit
  · cases hdot

open Classical in
/-- 4 or 6 for the text of an address, 0 for any other text. -/
noncomputable def version (host : String) : Nat :=
  if IsIpv4 host then 4 else if IsIpv6 host then 6 else 0

theorem versions : Versions version where
  v4 host := by
    unfold version
    split
    · simpa
    · split <;> simpa
  v6 host := by
    unfold version
    split
    · next h4 => simpa using not_isIpv6_of_isIpv4 h4
    · split
      · simpa
      · simpa

end IpText
