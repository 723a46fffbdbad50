import Mathlib.Data.Nat.Bitwise

/-!
# The bitwise operators of JavaScript

They work on the 32 bits of an integer.  The value of `<<`, `&` and `|` has a sign, the value
of `>>>` has none.
-/

namespace JsBits

/-- The 32 bits of an integer. -/
def bits (z : Int) : BitVec 32 := BitVec.ofInt 32 z

/-- `z << k` -/
def shl (z : Int) (k : Nat) : Int := (bits z <<< (k % 32)).toInt

/-- `y & z` -/
def and (y z : Int) : Int := (bits y &&& bits z).toInt

/-- `y | z` -/
def or (y z : Int) : Int := (bits y ||| bits z).toInt

/-- `z >>> k` -/
def ushr (z : Int) (k : Nat) : Nat := (bits z >>> (k % 32)).toNat

@[simp] theorem bits_shl (z : Int) (k : Nat) : bits (shl z k) = bits z <<< (k % 32) :=
  BitVec.ofInt_toInt

@[simp] theorem bits_and (y z : Int) : bits (and y z) = bits y &&& bits z := BitVec.ofInt_toInt

@[simp] theorem bits_or (y z : Int) : bits (or y z) = bits y ||| bits z := BitVec.ofInt_toInt

theorem bits_add (y z : Int) : bits (y + z) = bits y + bits z := BitVec.ofInt_add y z

@[simp] theorem bits_natCast (n : Nat) : bits n = BitVec.ofNat 32 n := BitVec.ofInt_natCast 32 n

theorem toNat_bits {n : Nat} (h : n < 2 ^ 32) : (bits n).toNat = n := by
  rw [bits_natCast, BitVec.toNat_ofNat, Nat.mod_eq_of_lt h]

theorem ushr_lt (z : Int) (k : Nat) : ushr z k < 2 ^ 32 := (bits z >>> (k % 32)).isLt

/-- `z >>> 0`: the sign goes. -/
theorem ushr_zero (z : Int) : ushr z 0 = (bits z).toNat := rfl

/-- An integer that has no more bits is shifted as it is. -/
theorem ushr_natCast {n k : Nat} (hn : n < 2 ^ 32) (hk : k < 32) : ushr n k = n / 2 ^ k := by
  unfold ushr
  rw [BitVec.toNat_ushiftRight, toNat_bits hn, Nat.mod_eq_of_lt hk, Nat.shiftRight_eq_div_pow]

/-- The low byte has no sign. -/
theorem and_byte {n : Nat} (h : n < 2 ^ 32) : and n (0xff : Nat) = ((n &&& 0xff : Nat) : Int) := by
  have hvalue : (bits n &&& bits (0xff : Nat)).toNat = n &&& 0xff := by
    rw [BitVec.toNat_and, toNat_bits h, toNat_bits (by decide)]
  have hle : n &&& 0xff ≤ 0xff := Nat.and_le_right
  unfold and
  rw [BitVec.toInt_eq_toNat_of_lt (by omega), hvalue]

end JsBits
