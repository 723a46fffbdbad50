import Mathlib.Algebra.Order.Floor.Semiring
import Mathlib.Data.Rat.Floor
import Mathlib.Tactic.FieldSimp
import Mathlib.Tactic.Ring
import Sepigs.Lib.IpText

/-!
# Numbers as texts (`Number(text)`)

White space at the ends of the text is dropped.  Then no text is zero, and any other text is a
decimal literal, with a sign, a fraction and an exponent if it likes, or an unsigned hexadecimal,
octal or binary integer.  The literal's value is rounded to the nearest double, half to even.

`number` is the value where it is an integer; `number_digits`: it reads decimal digits exactly up
to `2 ^ 53`, and not as less than that beyond.
-/

namespace JsNumber

/-! ## Literals -/

/-- The integer that digits in a base write; there is at least one. -/
def integer (base : Nat) (digits : List Char) : Option Nat :=
  if digits.isEmpty then none
  else
    digits.foldlM
      (fun value c =>
        match IpText.hexDigit c with
        | some digit => if digit < base then some (value * base + digit) else none
        | none => none)
      0

/-- `+` or `-`, or nothing. -/
def signed : List Char → Bool × List Char
  | '+' :: rest => (false, rest)
  | '-' :: rest => (true, rest)
  | rest => (false, rest)

/-- The part before the first of some characters, and the part after it if there is one. -/
def cut (marks : List Char) (chars : List Char) : List Char × Option (List Char) :=
  match chars.dropWhile (fun c => !marks.contains c) with
  | [] => (chars, none)
  | _ :: rest => (chars.takeWhile (fun c => !marks.contains c), some rest)

/-- The power of ten; a literal without one has the power 0. -/
def exponent : Option (List Char) → Option Int
  | none => some 0
  | some chars =>
    let (negative, digits) := signed chars
    (integer 10 digits).map fun value => if negative then -value else value

/-- Digits with a point before, among or after them, or none. -/
def mantissa (chars : List Char) : Option Rat :=
  let (whole, fraction) := cut ['.'] chars
  let fraction := fraction.getD []
  (integer 10 (whole ++ fraction)).map fun value => value / 10 ^ fraction.length

/-- A finite decimal literal; there is no integer that `Infinity` could stand for. -/
def decimal (chars : List Char) : Option Rat := do
  let (negative, unsigned) := signed chars
  let (digits, power) := cut ['e', 'E'] unsigned
  let value ← mantissa digits
  let power ← exponent power
  let value := value * (10 : Rat) ^ power
  return if negative then -value else value

def literal : List Char → Option Rat
  | [] => some 0
  | '0' :: 'x' :: digits | '0' :: 'X' :: digits => (integer 16 digits).map fun value => (value : Rat)
  | '0' :: 'o' :: digits | '0' :: 'O' :: digits => (integer 8 digits).map fun value => (value : Rat)
  | '0' :: 'b' :: digits | '0' :: 'B' :: digits => (integer 2 digits).map fun value => (value : Rat)
  | chars => decimal chars

/-! ## Doubles -/

/-- The nearest integer, the even one of two. -/
def roundEven (q : Rat) : Int :=
  let rest := q - q.floor
  if rest < 1 / 2 then q.floor
  else if 1 / 2 < rest then q.floor + 1
  else if q.floor % 2 = 0 then q.floor
  else q.floor + 1

/-- The power of two that a positive fraction lies above. -/
def floorLog2 (num den : Nat) : Int :=
  let power : Int := num.log2 - den.log2
  if den * 2 ^ power.toNat ≤ num * 2 ^ (-power).toNat then power else power - 1

/-- The distance of doubles next to a number: 53 bits, and none below `2 ^ -1074`. -/
def spacing (q : Rat) : Rat := 2 ^ max (floorLog2 q.num.natAbs q.den - 52) (-1074)

/-- The nearest double, where that is finite. -/
def toDouble (q : Rat) : Option Rat :=
  if q = 0 then some 0
  else
    let rounded := roundEven (q / spacing q) * spacing q
    if |rounded| < 2 ^ 1024 then some rounded else none

/-- `Number(text)`, where that is an integer. -/
def number (text : String) : Option Int := do
  let value ← literal (JsString.trim text).toList
  let rounded ← toDouble value
  if rounded.den = 1 then some rounded.num else none

/-! ## Decimal digits -/

theorem integer_digits {digits : List Char} (hne : digits ≠ []) (h : ∀ c ∈ digits, c.isDigit = true) :
    integer 10 digits = some (Nat.ofDigitChars 10 digits 0) := by
  have hfold : ∀ (digits : List Char) (value : Nat), (∀ c ∈ digits, c.isDigit = true) →
      digits.foldlM (fun value c =>
        match IpText.hexDigit c with
        | some digit => if digit < 10 then some (value * 10 + digit) else none
        | none => none) value = some (Nat.ofDigitChars 10 digits value) := by
    intro digits
    induction digits with
    | nil => exact fun value _ => rfl
    | cons c digits ih =>
      intro value h
      have hc := h c List.mem_cons_self
      have hbounds := Char.isDigit_iff_toNat.mp hc
      have h0 : '0'.toNat = 48 := rfl
      have h9 : '9'.toNat = 57 := rfl
      have hdigit : IpText.hexDigit c = some (c.toNat - '0'.toNat) := by
        unfold IpText.hexDigit
        rw [if_pos hc]
      rw [List.foldlM_cons, hdigit]
      dsimp only
      rw [if_pos (by omega), Nat.ofDigitChars_cons, Nat.mul_comm 10 value]
      exact ih _ fun other hmem => h other (List.mem_cons_of_mem _ hmem)
  unfold integer
  rw [if_neg (by rwa [List.isEmpty_iff])]
  exact hfold digits 0 h

theorem cut_of_notMem {marks chars : List Char} (h : ∀ c ∈ chars, c ∉ marks) :
    cut marks chars = (chars, none) := by
  have hall : ∀ c ∈ chars, (!marks.contains c) = true := by
    intro c hc
    simpa using h c hc
  unfold cut
  rw [List.dropWhile_eq_nil_iff.mpr hall]

theorem signed_digits {digits : List Char} (h : ∀ c ∈ digits, c.isDigit = true) :
    signed digits = (false, digits) := by
  unfold signed
  split
  · next rest =>
    have hplus := h '+' List.mem_cons_self
    cases hplus
  · next rest =>
    have hminus := h '-' List.mem_cons_self
    cases hminus
  · rfl

theorem decimal_digits {digits : List Char} (hne : digits ≠ []) (h : ∀ c ∈ digits, c.isDigit = true) :
    decimal digits = some (Nat.ofDigitChars 10 digits 0 : Rat) := by
  have hmarks : ∀ marks : List Char, (∀ c ∈ marks, c.isDigit = false) → ∀ c ∈ digits, c ∉ marks := by
    intro marks hmarks c hc hmem
    have hdigit := h c hc
    rw [hmarks c hmem] at hdigit
    cases hdigit
  unfold decimal mantissa
  rw [signed_digits h]
  dsimp only
  rw [cut_of_notMem (hmarks ['e', 'E'] (List.forall_mem_cons.mpr ⟨rfl, List.forall_mem_singleton.mpr rfl⟩))]
  dsimp only
  rw [cut_of_notMem (hmarks ['.'] (List.forall_mem_singleton.mpr rfl))]
  dsimp only
  rw [Option.getD_none, List.append_nil, integer_digits hne h]
  simp [exponent]

theorem literal_digits {digits : List Char} (hne : digits ≠ []) (h : ∀ c ∈ digits, c.isDigit = true) :
    literal digits = some (Nat.ofDigitChars 10 digits 0 : Rat) := by
  have hsecond : ∀ (first second : Char) (rest : List Char), digits = first :: second :: rest →
      second.isDigit = true := by
    rintro first second rest rfl
    exact h second (List.mem_cons_of_mem _ List.mem_cons_self)
  unfold literal
  split
  · exact absurd rfl hne
  all_goals first
    | exact decimal_digits hne h
    | exact absurd (hsecond _ _ _ rfl) (by decide)

theorem trim_digits {text : String} (h : ∀ c ∈ text.toList, c.isDigit = true) :
    JsString.trim text = text := by
  apply JsString.trim_of_plain
  intro c hc
  have hbounds := Char.isDigit_iff_toNat.mp (h c hc)
  have h0 : '0'.toNat = 48 := rfl
  have h9 : '9'.toNat = 57 := rfl
  unfold JsString.isWhitespace
  simp only [Bool.or_eq_false_iff, Bool.and_eq_false_iff, decide_eq_false_iff_not]
  omega

/-! ## Integers as doubles -/

theorem roundEven_intCast (n : Int) : roundEven (n : Rat) = n := by
  unfold roundEven
  rw [Rat.floor_intCast, sub_self, if_pos (by norm_num)]

theorem floor_le_roundEven (q : Rat) : q.floor ≤ roundEven q := by
  unfold roundEven
  dsimp only
  split
  · exact Int.le_refl _
  · split
    · omega
    · split
      · exact Int.le_refl _
      · omega

theorem floorLog2_natCast {n : Nat} (h : n ≠ 0) : floorLog2 n 1 = n.log2 := by
  have hone : Nat.log2 1 = 0 := by decide
  have hle := Nat.log2_self_le h
  unfold floorLog2
  rw [hone]
  simp only [Nat.cast_zero, sub_zero, Int.toNat_natCast, Nat.one_mul]
  have hneg : (-(n.log2 : Int)).toNat = 0 := by omega
  rw [hneg, pow_zero, Nat.mul_one, if_pos hle]

/-- Small integers are doubles. -/
theorem toDouble_natCast {n : Nat} (h : n < 2 ^ 53) : toDouble (n : Rat) = some (n : Rat) := by
  by_cases hzero : n = 0
  · subst hzero
    rfl
  have hlog : n.log2 ≤ 52 := by
    have hlt := (Nat.log2_lt hzero).mpr h
    omega
  have hspacing : spacing (n : Rat) = (2 ^ (52 - n.log2) : Rat)⁻¹ := by
    unfold spacing
    rw [Rat.num_natCast, Rat.den_natCast, Int.natAbs_natCast, floorLog2_natCast hzero]
    have hmax : max ((n.log2 : Int) - 52) (-1074) = -((52 - n.log2 : Nat) : Int) := by omega
    rw [hmax, zpow_neg, zpow_natCast]
  have hquotient : (n : Rat) / spacing n = ((n * 2 ^ (52 - n.log2) : Nat) : Int) := by
    rw [hspacing, div_inv_eq_mul]
    push_cast
    rfl
  have hrounded : (roundEven ((n : Rat) / spacing n) : Rat) * spacing n = n := by
    rw [hquotient, roundEven_intCast, hspacing]
    push_cast
    field_simp
  have hsmall : |(n : Rat)| < 2 ^ 1024 := by
    rw [abs_of_nonneg (Nat.cast_nonneg n)]
    have hcast : (n : Rat) < ((2 ^ 53 : Nat) : Rat) := Nat.cast_lt.mpr h
    rw [Nat.cast_pow] at hcast
    exact lt_trans hcast (pow_lt_pow_right₀ (by norm_num) (by norm_num))
  unfold toDouble
  rw [if_neg (Nat.cast_ne_zero.mpr hzero)]
  dsimp only
  rw [hrounded, if_pos hsmall]

/-- Large integers are rounded to large ones. -/
theorem le_of_toDouble {n : Nat} (h : 2 ^ 53 ≤ n) {q : Rat} (hq : toDouble (n : Rat) = some q) :
    2 ^ 53 ≤ q := by
  have hzero : n ≠ 0 := by
    rintro rfl
    exact absurd h (by decide)
  have hlog : 53 ≤ n.log2 := (Nat.le_log2 hzero).mpr h
  have hspacing : spacing (n : Rat) = 2 ^ (n.log2 - 52) := by
    unfold spacing
    rw [Rat.num_natCast, Rat.den_natCast, Int.natAbs_natCast, floorLog2_natCast hzero]
    have hmax : max ((n.log2 : Int) - 52) (-1074) = ((n.log2 - 52 : Nat) : Int) := by omega
    rw [hmax, zpow_natCast]
  have hpos : (0 : Rat) < spacing n := by
    rw [hspacing]
    positivity
  have htwo : (2 : Rat) ≤ spacing n := by
    rw [hspacing]
    calc (2 : Rat) = 2 ^ 1 := (pow_one 2).symm
      _ ≤ 2 ^ (n.log2 - 52) := pow_le_pow_right₀ (by norm_num) (by omega)
  have hfloor : (2 ^ 52 : Int) ≤ ((n : Rat) / spacing n).floor := by
    rw [Rat.le_floor_iff, le_div_iff₀ hpos, hspacing]
    have hle : ((2 ^ n.log2 : Nat) : Rat) ≤ n := Nat.cast_le.mpr (Nat.log2_self_le hzero)
    have hexp : n.log2 = 52 + (n.log2 - 52) := by omega
    rw [Nat.cast_pow, hexp, pow_add] at hle
    refine le_trans (le_of_eq ?_) hle
    norm_num
  have hround : (2 ^ 52 : Int) ≤ roundEven ((n : Rat) / spacing n) :=
    le_trans hfloor (floor_le_roundEven _)
  have hcast : (2 ^ 52 : Rat) ≤ (roundEven ((n : Rat) / spacing n) : Rat) := by
    have hle := Int.cast_le (R := Rat).mpr hround
    push_cast at hle
    exact hle
  unfold toDouble at hq
  rw [if_neg (Nat.cast_ne_zero.mpr hzero)] at hq
  dsimp only at hq
  split at hq
  · cases hq
    calc (2 ^ 53 : Rat) = 2 ^ 52 * 2 := by norm_num
      _ ≤ roundEven ((n : Rat) / spacing n) * spacing n :=
        mul_le_mul hcast htwo (by norm_num) (le_trans (by norm_num) hcast)
  · cases hq

/-- **Decimal digits are read as what they write**, up to the integers that are exact. -/
theorem number_digits {text : String} (hne : text ≠ "") (h : ∀ c ∈ text.toList, c.isDigit = true)
    {n : Nat} (hn : n < 2 ^ 53) :
    number text = some (n : Int) ↔ Nat.ofDigitChars 10 text.toList 0 = n := by
  have hnil : text.toList ≠ [] := by
    intro hnil
    exact hne (String.toList_inj.mp (hnil.trans rfl))
  generalize hvalue : Nat.ofDigitChars 10 text.toList 0 = value
  have hnumber : number text = (toDouble (value : Rat)).bind fun rounded =>
      if rounded.den = 1 then some rounded.num else none := by
    unfold number
    rw [trim_digits h, literal_digits hnil h, hvalue]
    rfl
  rw [hnumber]
  by_cases hsmall : value < 2 ^ 53
  · rw [toDouble_natCast hsmall, Option.bind_some, Rat.den_natCast, if_pos rfl, Rat.num_natCast]
    simp
  · constructor
    · intro hread
      exfalso
      obtain ⟨q, hq, hint⟩ := Option.bind_eq_some_iff.mp hread
      have hlarge := le_of_toDouble (Nat.not_lt.mp hsmall) hq
      split at hint
      · next hden =>
        have hnum : q.num = (n : Int) := Option.some.inj hint
        have hq' : q = (n : Rat) := by
          rw [← Rat.coe_int_num_of_den_eq_one hden, hnum]
          rfl
        rw [hq'] at hlarge
        have hcast : ((2 ^ 53 : Nat) : Rat) ≤ n := by
          push_cast
          exact hlarge
        have hle := Nat.cast_le.mp hcast
        omega
      · cases hint
    · rintro rfl
      exact absurd hn hsmall

/-- An exact integer is read back from its text. -/
theorem number_toString {n : Nat} (h : n < 2 ^ 53) : number (toString n) = some (n : Int) := by
  have hchars : (toString n).toList = Nat.toDigits 10 n := Nat.toList_repr
  have hdigits : ∀ c ∈ (toString n).toList, c.isDigit = true := by
    intro c hc
    by_contra hdigit
    exact JsString.notMem_toString_of_not_isDigit (Bool.eq_false_iff.mpr hdigit) n hc
  have hne : toString n ≠ "" := by
    intro hempty
    have hnil : Nat.toDigits 10 n = [] := by
      rw [← hchars, hempty]
      rfl
    exact Nat.toDigits_ne_nil hnil
  rw [number_digits hne hdigits h, hchars, Nat.ofDigitChars_ten_toDigits]

example : ["", " \t", "024", " 24", "0x18", "24.0", "2.4e1", "+24", "240e-1", ".24e2", "1e-999"].map number =
    [some 0, some 0, some 24, some 24, some 24, some 24, some 24, some 24, some 24, some 24, some 0] := by
  decide +kernel

example : ["-", "24 5", "0x", "1e", ".", "2.5", "twenty", "Infinity"].map number =
    [none, none, none, none, none, none, none, none] := by decide +kernel

end JsNumber
