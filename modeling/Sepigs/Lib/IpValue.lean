import Mathlib.Data.Nat.Digits.Defs
import Sepigs.Lib.IpText

/-!
# The value of an IP address

The 32 or 128 bits that a spelling stands for, the first byte or word the most
significant.  The value does not depend on the case of hexadecimal digits
(`Ipv6.value_lower`).
-/

namespace IpText

def Quad.value (quad : Quad) : Nat := Nat.ofDigits 256 (quad.bytes.map UInt8.toNat).reverse

def Ipv6.value (address : Ipv6) : Nat := Nat.ofDigits 65536 address.words.reverse

/-! ## Lower case -/

theorem isDigit_toLower {c : Char} (h : c.isDigit = true) : c.toLower = c := by
  have hbounds := Char.isDigit_iff_toNat.mp h
  unfold Char.toLower
  rw [dif_neg]
  rintro ⟨hupper, -⟩
  have hA : 'A'.toNat ≤ c.toNat := hupper
  have hcode : 'A'.toNat = 65 := rfl
  have h9 : '9'.toNat = 57 := rfl
  omega

theorem ascii_of_hexDigit {c : Char} (h : (hexDigit c).isSome = true) : c.toNat < 128 := by
  unfold hexDigit at h
  split at h
  · next hdigit =>
    have hbounds := Char.isDigit_iff_toNat.mp hdigit
    have h9 : '9'.toNat = 57 := rfl
    omega
  · split at h
    · next hlower =>
      have hle : c.toNat ≤ 'f'.toNat := hlower.2
      have hf : 'f'.toNat = 102 := rfl
      omega
    · split at h
      · next hupper =>
        have hle : c.toNat ≤ 'F'.toNat := hupper.2
        have hF : 'F'.toNat = 70 := rfl
        omega
      · cases h

/-- A hexadecimal digit has the same value in lower case. -/
theorem hexDigit_toLower {c : Char} {digit : Nat} (h : hexDigit c = some digit) :
    hexDigit c.toLower = some digit := by
  have hsmall : ∀ n < 128, ∀ digit < 16, hexDigit (Char.ofNat n) = some digit →
      hexDigit (Char.ofNat n).toLower = some digit := by decide +kernel
  have hcode : c.toNat < 128 := ascii_of_hexDigit (Option.isSome_of_eq_some h)
  have hlower := hsmall c.toNat hcode digit (hexDigit_lt h)
  rw [Char.ofNat_toNat] at hlower
  exact hlower h

theorem hexNumberFrom_toLower {value number : Nat} {digits : List Char}
    (h : hexNumberFrom value digits = some number) :
    hexNumberFrom value (digits.map Char.toLower) = some number := by
  induction digits generalizing value with
  | nil => exact h
  | cons c digits ih =>
    rw [hexNumberFrom] at h
    cases hdigit : hexDigit c with
    | none =>
      rw [hdigit] at h
      cases h
    | some digit =>
      rw [hdigit] at h
      rw [List.map_cons, hexNumberFrom, hexDigit_toLower hdigit]
      exact ih h

def HexGroup.lower (group : HexGroup) : HexGroup where
  chars := group.chars.map Char.toLower
  value := group.value
  length_pos := by
    rw [List.length_map]
    exact group.length_pos
  length_le := by
    rw [List.length_map]
    exact group.length_le
  value_eq := hexNumberFrom_toLower group.value_eq

theorem Quad.toLower_text (quad : Quad) : quad.text.toList.map Char.toLower = quad.text.toList := by
  refine (List.map_congr_left fun c hmem => ?_).trans (List.map_id _)
  rcases Quad.mem_text hmem with hdigit | rfl
  · exact isDigit_toLower hdigit
  · rfl

theorem map_toLower_intercalate (parts : List (List Char)) {separator : Char}
    (h : separator.toLower = separator) :
    (List.intercalate [separator] parts).map Char.toLower =
      List.intercalate [separator] (parts.map (List.map Char.toLower)) := by
  induction parts with
  | nil => rfl
  | cons part parts ih =>
    cases parts with
    | nil => simp
    | cons next parts =>
      rw [List.intercalate_cons_cons, List.map_append, List.map_append, ih, List.map_singleton, h,
        List.map_cons, List.map_cons, List.map_cons, List.intercalate_cons_cons]

theorem partChars_lower (groups : List HexGroup) (quad : Option Quad) :
    partChars (groups.map HexGroup.lower) quad = (partChars groups quad).map Char.toLower := by
  unfold partChars
  rw [map_toLower_intercalate _ rfl, List.map_append, List.map_map, List.map_map]
  congr 2
  cases quad with
  | none => rfl
  | some quad => exact congrArg (fun chars => [chars]) quad.toLower_text.symm

theorem partWords_lower (groups : List HexGroup) (quad : Option Quad) :
    partWords (groups.map HexGroup.lower) quad = partWords groups quad := by
  unfold partWords
  rw [List.map_map]
  rfl

/-- The same address in lower case. -/
def Ipv6.lower : Ipv6 → Ipv6
  | full groups quad h => full (groups.map HexGroup.lower) quad (by rw [partWords_lower, h])
  | compressed head tail quad h =>
    compressed (head.map HexGroup.lower) (tail.map HexGroup.lower) quad (by
      rw [List.length_map, partWords_lower]
      exact h)

theorem Ipv6.chars_lower (address : Ipv6) :
    address.lower.chars = address.chars.map Char.toLower := by
  cases address with
  | full groups quad h => exact partChars_lower groups quad
  | compressed head tail quad h =>
    show partChars (head.map HexGroup.lower) none ++ ':' :: ':' ::
      partChars (tail.map HexGroup.lower) quad = _
    rw [partChars_lower, partChars_lower]
    show _ = (partChars head none ++ ':' :: ':' :: partChars tail quad).map Char.toLower
    rw [List.map_append]
    rfl

theorem Ipv6.words_lower (address : Ipv6) : address.lower.words = address.words := by
  cases address with
  | full groups quad h => exact partWords_lower groups quad
  | compressed head tail quad h =>
    show (head.map HexGroup.lower).map HexGroup.value ++
      List.replicate (8 - (head.map HexGroup.lower).length -
        (partWords (tail.map HexGroup.lower) quad).length) 0 ++
      partWords (tail.map HexGroup.lower) quad = _
    rw [partWords_lower, List.map_map, List.length_map]
    rfl

theorem Ipv6.value_lower (address : Ipv6) : address.lower.value = address.value := by
  unfold Ipv6.value
  rw [address.words_lower]

end IpText
