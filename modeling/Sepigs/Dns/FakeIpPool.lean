import Sepigs.Lib.JsBits
import Sepigs.Lib.JsString
import Mathlib.Data.List.Nodup
import Mathlib.Data.Nat.Bitwise

/-!
# The pool of fake addresses (`dns/fakeIpPool.ts`)

The usable addresses of an IPv4 range, handed out by a cyclic cursor.  `Number(text)`
is a parameter, with its value where it is an integer.  The operators are those of
`JsBits`, signs included; `packed_eq`, `numberToIpv4_eq` and `firstAddress_eq` have the
exact integers that they compute.
-/

namespace Sepigs

open JsBits

structure ConfigError where
  message : String
deriving DecidableEq, Repr

section Addresses

variable (number : String → Option Int)

def invalidAddress (address : String) : ConfigError := ⟨s!"invalid IPv4 address \"{address}\""⟩

def isByte : Option Int → Bool
  | none => false
  | some part => decide (0 ≤ part ∧ part ≤ 255)

/-- Four parts in one number; without the last `>>>` it has a sign. -/
def packed (parts : List (Option Int)) : Nat :=
  let part (i : Nat) : Int := (parts[i]?.join).getD 0
  ushr (or (or (or (shl (part 0) 24) (shl (part 1) 16)) (shl (part 2) 8)) (part 3)) 0

def ipv4ToNumber (address : String) : Except ConfigError Nat :=
  let parts := (JsString.split address '.').map number
  if parts.length ≠ 4 ∨ parts.any (fun part => !isByte part) then .error (invalidAddress address)
  else .ok (packed parts)

def numberToIpv4 (value : Nat) : String :=
  let parts : List Int :=
    [ushr value 24, and (ushr value 16) (0xff : Nat), and (ushr value 8) (0xff : Nat), and value (0xff : Nat)]
  JsString.join (parts.map toString) '.'

end Addresses

structure FakeIpPool where
  first : Nat
  capacity : Nat
  cursor : Nat
deriving DecidableEq, Repr

namespace FakeIpPool

def mask (bits : Nat) : Nat := ushr (shl (0xffffffff : Nat) (32 - bits)) 0

/-- It has a sign. -/
def network (base bits : Nat) : Int := and base (mask bits)

def firstAddress (base bits : Nat) : Nat := ushr (network base bits + 1) 0

section Create

variable (number : String → Option Int)

/-- The base address and the prefix length of a range in CIDR notation. -/
def parseRange (range : String) : Except ConfigError (Nat × Nat) :=
  let invalid : ConfigError := ⟨s!"fake-ip range must be an IPv4 CIDR with prefix 1..30: \"{range}\""⟩
  match JsString.split range '/' with
  | address :: prefixRaw :: _ =>
    match number prefixRaw with
    | some bits =>
      if bits < 1 ∨ 30 < bits then .error invalid
      else (ipv4ToNumber number address).map fun base => (base, bits.toNat)
    | none => .error invalid
  | _ => .error invalid

/-- The constructor. -/
def create (range : String) (requestedSize : Nat) : Except ConfigError FakeIpPool :=
  match parseRange number range with
  | .error error => .error error
  | .ok (base, bits) =>
    let available := 2 ^ (32 - bits) - 2
    let capacity := min requestedSize available
    if capacity < 1 then .error ⟨s!"fake-ip range has no usable addresses: \"{range}\""⟩
    else .ok { first := firstAddress base bits, capacity := capacity, cursor := 0 }

def contains (pool : FakeIpPool) (address : String) : Except ConfigError Bool :=
  (ipv4ToNumber number address).map fun value =>
    decide (pool.first ≤ value ∧ value < pool.first + pool.capacity)

end Create

def candidate (pool : FakeIpPool) (cursor : Nat) : String :=
  numberToIpv4 (ushr (pool.first + cursor : Nat) 0)

section Next

variable {σ : Type} (isUsed : String → σ → Bool × σ)

/-- The loop of `next` with the attempts that are left. -/
def probe : Nat → FakeIpPool → σ → Except ConfigError String × FakeIpPool × σ
  | 0, pool, s => (.error ⟨"fake-ip pool is exhausted"⟩, pool, s)
  | attempts + 1, pool, s =>
    let candidate := pool.candidate pool.cursor
    let pool := { pool with cursor := (pool.cursor + 1) % pool.capacity }
    match isUsed candidate s with
    | (false, s) => (.ok candidate, pool, s)
    | (true, s) => probe attempts pool s

def next (pool : FakeIpPool) (s : σ) : Except ConfigError String × FakeIpPool × σ :=
  probe isUsed pool.capacity pool s

end Next

end FakeIpPool

/-! ## Reading back an address -/

def octets (value : Nat) : List Nat := [value / 2 ^ 24, value / 2 ^ 16 % 256, value / 2 ^ 8 % 256, value % 256]

/-- The address as exact integers have it. -/
def dotted (value : Nat) : String := JsString.join ((octets value).map toString) '.'

theorem octets_le {value : Nat} (h : value < 2 ^ 32) : ∀ n ∈ octets value, n ≤ 255 := by
  intro n hn
  unfold octets at hn
  simp only [List.mem_cons, List.not_mem_nil, or_false] at hn
  omega

theorem toNat_shl_byte {n k : Nat} (hn : n ≤ 255) (hk : k ≤ 24) : (JsBits.bits n <<< k).toNat = n <<< k := by
  have hle : n <<< k < 2 ^ 32 := by
    calc n <<< k = n * 2 ^ k := Nat.shiftLeft_eq n k
      _ < 2 ^ 8 * 2 ^ k := Nat.mul_lt_mul_of_pos_right (by omega) (Nat.two_pow_pos k)
      _ = 2 ^ (8 + k) := (Nat.pow_add 2 8 k).symm
      _ ≤ 2 ^ 32 := Nat.pow_le_pow_right (by decide) (by omega)
  rw [BitVec.toNat_shiftLeft, toNat_bits (by omega), Nat.mod_eq_of_lt hle]

theorem byte_part {parts : List (Option Int)} (h : ∀ part ∈ parts, isByte part = true) (i : Nat) :
    ∃ n : Nat, n ≤ 255 ∧ (parts[i]?.join).getD 0 = (n : Int) := by
  cases hget : parts[i]? with
  | none => exact ⟨0, by omega, rfl⟩
  | some part =>
    have hbyte := h part (List.mem_of_getElem? hget)
    cases part with
    | none => exact ⟨0, by omega, rfl⟩
    | some z =>
      have hz : 0 ≤ z ∧ z ≤ 255 := of_decide_eq_true hbyte
      refine ⟨z.toNat, by omega, ?_⟩
      simp only [Option.join_some, Option.getD_some]
      omega

/-- The signs of `<<` and `|` are gone in the end. -/
theorem packed_eq {parts : List (Option Int)} (h : ∀ part ∈ parts, isByte part = true) :
    packed parts =
      ((parts[0]?.join).getD 0).toNat <<< 24 ||| ((parts[1]?.join).getD 0).toNat <<< 16 |||
        ((parts[2]?.join).getD 0).toNat <<< 8 ||| ((parts[3]?.join).getD 0).toNat := by
  obtain ⟨a, ha, hfirst⟩ := byte_part h 0
  obtain ⟨b, hb, hsecond⟩ := byte_part h 1
  obtain ⟨c, hc, hthird⟩ := byte_part h 2
  obtain ⟨d, hd, hfourth⟩ := byte_part h 3
  unfold packed
  simp only [hfirst, hsecond, hthird, hfourth, Int.toNat_natCast, ushr_zero, bits_or, bits_shl,
    BitVec.toNat_or]
  rw [toNat_shl_byte ha (by omega), toNat_shl_byte hb (by omega), toNat_shl_byte hc (by omega),
    toNat_bits (by omega)]

/-- Eight more bits below those that are there. -/
theorem shift_or_byte (value k : Nat) :
    (value >>> (k + 8)) <<< (k + 8) ||| ((value >>> k) &&& 0xff) <<< k = (value >>> k) <<< k := by
  apply Nat.eq_of_testBit_eq
  intro i
  have hmask (j : Nat) : Nat.testBit 0xff j = decide (j < 8) := Nat.testBit_two_pow_sub_one 8 j
  simp only [Nat.testBit_or, Nat.testBit_shiftLeft, Nat.testBit_shiftRight, Nat.testBit_and, hmask]
  by_cases hk : k ≤ i
  · by_cases h8 : k + 8 ≤ i
    · have hbit : k + 8 + (i - (k + 8)) = k + (i - k) := by omega
      simp only [hk, h8, hbit, decide_true, Bool.true_and]
      cases value.testBit (k + (i - k)) <;> simp
    · have hlow : i - k < 8 := by omega
      simp [hk, h8, hlow]
  · have h8 : ¬ k + 8 ≤ i := by omega
    simp [hk, h8]

theorem bytes_eq (value : Nat) :
    (value >>> 24) <<< 24 ||| ((value >>> 16) &&& 0xff) <<< 16 ||| ((value >>> 8) &&& 0xff) <<< 8 |||
      (value &&& 0xff) = value := by
  have h16 := shift_or_byte value 16
  have h8 := shift_or_byte value 8
  have h0 := shift_or_byte value 0
  simp only [Nat.shiftRight_zero, Nat.shiftLeft_zero, Nat.zero_add] at h0
  rw [h16, h8, h0]

/-- A number of 32 bits is written as its four bytes. -/
theorem numberToIpv4_eq {value : Nat} (h : value < 2 ^ 32) : numberToIpv4 value = dotted value := by
  have hshift (k : Nat) (hk : k < 32) : ushr value k = value / 2 ^ k := ushr_natCast h hk
  have hlt (k : Nat) : value / 2 ^ k < 2 ^ 32 := Nat.lt_of_le_of_lt (Nat.div_le_self _ _) h
  have hbyte (n : Nat) : n &&& 0xff = n % 256 := Nat.and_two_pow_sub_one_eq_mod n 8
  unfold numberToIpv4 dotted octets
  simp only [hshift 24 (by omega), hshift 16 (by omega), hshift 8 (by omega), and_byte (hlt 16),
    and_byte (hlt 8), and_byte h, hbyte, List.map_cons, List.map_nil]
  rfl

/-- An address that was written is read back. -/
theorem ipv4ToNumber_numberToIpv4 (number : String → Option Int)
    (hnumber : ∀ n : Nat, n ≤ 255 → number (toString n) = some (n : Int)) {value : Nat} (h : value < 2 ^ 32) :
    ipv4ToNumber number (numberToIpv4 value) = .ok value := by
  have hsplit : JsString.split (numberToIpv4 value) '.' = (octets value).map toString := by
    rw [numberToIpv4_eq h]
    refine JsString.split_join (by simp [octets]) ?_
    intro part hpart
    obtain ⟨n, -, rfl⟩ := List.mem_map.mp hpart
    exact JsString.notMem_toString_of_not_isDigit (by decide) n
  have hparts : (JsString.split (numberToIpv4 value) '.').map number =
      (octets value).map (fun n : Nat => some (n : Int)) := by
    rw [hsplit, List.map_map]
    exact List.map_congr_left fun n hn => hnumber n (octets_le h n hn)
  have hbytes : ∀ part ∈ (octets value).map (fun n : Nat => some (n : Int)), isByte part = true := by
    intro part hpart
    obtain ⟨n, hn, rfl⟩ := List.mem_map.mp hpart
    have hle := octets_le h n hn
    refine decide_eq_true ?_
    omega
  have hbyte (n : Nat) : n % 256 = n &&& 0xff := (Nat.and_two_pow_sub_one_eq_mod n 8).symm
  unfold ipv4ToNumber
  simp only [hparts]
  rw [if_neg, packed_eq hbytes]
  · simp only [octets, List.map_cons, List.getElem?_cons_zero, List.getElem?_cons_succ, Option.join_some,
      Option.getD_some, Int.toNat_natCast, hbyte, ← Nat.shiftRight_eq_div_pow]
    rw [bytes_eq value]
  · rintro (hlength | hany)
    · exact hlength rfl
    · obtain ⟨part, hpart, hbad⟩ := List.any_eq_true.mp hany
      rw [hbytes part hpart] at hbad
      cases hbad

theorem numberToIpv4_injective (number : String → Option Int)
    (hnumber : ∀ n : Nat, n ≤ 255 → number (toString n) = some (n : Int)) {m n : Nat} (hm : m < 2 ^ 32)
    (hn : n < 2 ^ 32) (h : numberToIpv4 m = numberToIpv4 n) : m = n := by
  have hread := ipv4ToNumber_numberToIpv4 number hnumber hm
  rw [h, ipv4ToNumber_numberToIpv4 number hnumber hn] at hread
  cases hread
  rfl

theorem ipv4ToNumber_lt (number : String → Option Int) {address : String} {value : Nat}
    (h : ipv4ToNumber number address = .ok value) : value < 2 ^ 32 := by
  unfold ipv4ToNumber at h
  simp only [] at h
  split at h
  · cases h
  · cases h
    exact ushr_lt _ _

/-! ## The addresses of a range -/

/-- The first address of the range of `2 ^ (32 - bits)` addresses around `base`. -/
def networkAddress (base bits : Nat) : Nat := base / 2 ^ (32 - bits) * 2 ^ (32 - bits)

/-- The last one. -/
def broadcastAddress (base bits : Nat) : Nat := networkAddress base bits + (2 ^ (32 - bits) - 1)

def usableAddresses (bits : Nat) : Nat := 2 ^ (32 - bits) - 2

theorem and_ones_eq {base bits : Nat} (hbase : base < 2 ^ 32) :
    base &&& (0xffffffff <<< (32 - bits)) % 2 ^ 32 = networkAddress base bits := by
  apply Nat.eq_of_testBit_eq
  intro i
  have hmask (j : Nat) : Nat.testBit 0xffffffff j = decide (j < 32) :=
    Nat.testBit_two_pow_sub_one 32 j
  unfold networkAddress
  simp only [Nat.testBit_and, Nat.testBit_mod_two_pow, Nat.testBit_shiftLeft, hmask,
    Nat.testBit_mul_two_pow, Nat.testBit_div_two_pow]
  by_cases hi : i < 32
  · by_cases hk : 32 - bits ≤ i
    · have hlow : i - (32 - bits) < 32 := by omega
      have hbit : i - (32 - bits) + (32 - bits) = i := by omega
      simp [hi, hk, hlow, hbit]
    · simp [hk]
  · have hzero : base.testBit i = false :=
      Nat.testBit_lt_two_pow (Nat.lt_of_lt_of_le hbase (Nat.pow_le_pow_right (by decide) (by omega)))
    have hzero' : ∀ j, i ≤ j → base.testBit j = false := fun j hj =>
      Nat.testBit_lt_two_pow (Nat.lt_of_lt_of_le hbase (Nat.pow_le_pow_right (by decide) (by omega)))
    simp only [hzero, Bool.false_and]
    rw [hzero' _ (by omega), Bool.and_false]

theorem broadcastAddress_lt {base : Nat} (bits : Nat) (hbase : base < 2 ^ 32) :
    broadcastAddress base bits < 2 ^ 32 := by
  have hsplit : (2 : Nat) ^ 32 = 2 ^ (32 - (32 - bits)) * 2 ^ (32 - bits) := by
    rw [← Nat.pow_add]
    congr 1
    omega
  have hdiv : base / 2 ^ (32 - bits) < 2 ^ (32 - (32 - bits)) := by
    rw [Nat.div_lt_iff_lt_mul (Nat.two_pow_pos _), ← hsplit]
    exact hbase
  have hpos : 0 < 2 ^ (32 - bits) := Nat.two_pow_pos _
  have hmul : (base / 2 ^ (32 - bits) + 1) * 2 ^ (32 - bits) ≤ 2 ^ 32 := by
    rw [hsplit]
    exact Nat.mul_le_mul_right _ hdiv
  rw [Nat.succ_mul] at hmul
  unfold broadcastAddress networkAddress
  omega

namespace FakeIpPool

/-- The ones of the mask. -/
theorem mask_ones {bits : Nat} (h : 1 ≤ bits) : mask bits = (0xffffffff <<< (32 - bits)) % 2 ^ 32 := by
  unfold mask
  rw [ushr_zero, bits_shl, Nat.mod_eq_of_lt (by omega), BitVec.toNat_shiftLeft, toNat_bits (by decide)]

theorem mask_eq {bits : Nat} (h : 1 ≤ bits) : mask bits = 2 ^ 32 - 2 ^ (32 - bits) := by
  have hpos := Nat.two_pow_pos (32 - bits)
  have hle : 2 ^ (32 - bits) ≤ 2 ^ 32 := Nat.pow_le_pow_right (by decide) (by omega)
  rw [mask_ones h, Nat.shiftLeft_eq]
  omega

theorem bits_network {base bits : Nat} (hbase : base < 2 ^ 32) (h : 1 ≤ bits) :
    (JsBits.bits (network base bits)).toNat = networkAddress base bits := by
  unfold network
  rw [bits_and, BitVec.toNat_and, toNat_bits hbase, toNat_bits (show mask bits < 2 ^ 32 from ushr_lt _ _),
    mask_ones h, and_ones_eq hbase]

theorem firstAddress_eq {base bits : Nat} (hbase : base < 2 ^ 32) (h : 1 ≤ bits) (h30 : bits ≤ 30) :
    firstAddress base bits = networkAddress base bits + 1 := by
  have hlast := broadcastAddress_lt bits hbase
  have hfour : 2 ^ 2 ≤ 2 ^ (32 - bits) := Nat.pow_le_pow_right (by decide) (by omega)
  unfold broadcastAddress at hlast
  unfold firstAddress
  rw [ushr_zero, bits_add, BitVec.toNat_add, bits_network hbase h, show (JsBits.bits 1).toNat = 1 from rfl,
    Nat.mod_eq_of_lt (by omega)]

end FakeIpPool

/-- The pool hands out addresses between the network and the broadcast address. -/
structure FakeIpPool.Covers (pool : FakeIpPool) (base bits size : Nat) : Prop where
  first : pool.first = networkAddress base bits + 1
  capacity : pool.capacity = min size (usableAddresses bits)
  pos : 0 < pool.capacity
  cursor : pool.cursor < pool.capacity
  base : base < 2 ^ 32

theorem FakeIpPool.parseRange_spec (number : String → Option Int) {range : String} {base bits : Nat}
    (h : parseRange number range = .ok (base, bits)) : base < 2 ^ 32 ∧ 1 ≤ bits ∧ bits ≤ 30 := by
  unfold parseRange at h
  simp only [] at h
  split at h
  · next address prefixRaw rest hsplit =>
    split at h
    · next z hz =>
      split at h
      · cases h
      · next hbits =>
        cases hbase : ipv4ToNumber number address with
        | error error =>
          rw [hbase] at h
          cases h
        | ok value =>
          rw [hbase] at h
          cases h
          exact ⟨ipv4ToNumber_lt number hbase, by omega, by omega⟩
    · cases h
  · cases h

theorem FakeIpPool.create_spec (number : String → Option Int) {range : String} {size : Nat}
    {pool : FakeIpPool} (h : create number range size = .ok pool) :
    ∃ base bits, parseRange number range = .ok (base, bits) ∧ pool.Covers base bits size := by
  unfold create at h
  cases hrange : parseRange number range with
  | error error =>
    rw [hrange] at h
    cases h
  | ok parsed =>
    obtain ⟨base, bits⟩ := parsed
    obtain ⟨hbase, hone, hthirty⟩ := parseRange_spec number hrange
    rw [hrange] at h
    simp only [] at h
    split at h
    · cases h
    · next hcapacity =>
      cases h
      have hpos : 0 < min size (2 ^ (32 - bits) - 2) := Nat.not_lt.mp hcapacity
      exact ⟨base, bits, rfl, firstAddress_eq hbase hone hthirty, rfl, hpos, hpos, hbase⟩

namespace FakeIpPool

section Covers

variable {pool : FakeIpPool} {base bits size : Nat}

theorem Covers.address_lt (h : pool.Covers base bits size) {i : Nat} (hi : i < pool.capacity) :
    networkAddress base bits < pool.first + i ∧ pool.first + i < broadcastAddress base bits ∧
      pool.first + i < 2 ^ 32 := by
  have hlast := broadcastAddress_lt bits h.base
  have hfirst := h.first
  have hcapacity := h.capacity
  unfold usableAddresses at hcapacity
  unfold broadcastAddress at hlast ⊢
  omega

theorem Covers.candidate_eq (h : pool.Covers base bits size) {i : Nat} (hi : i < pool.capacity) :
    pool.candidate i = numberToIpv4 (pool.first + i) := by
  unfold candidate
  rw [ushr_zero, toNat_bits (h.address_lt hi).2.2]

variable (number : String → Option Int)
  (hnumber : ∀ n : Nat, n ≤ 255 → number (toString n) = some (n : Int))

include hnumber

theorem Covers.ipv4ToNumber_candidate (h : pool.Covers base bits size) {i : Nat}
    (hi : i < pool.capacity) : ipv4ToNumber number (pool.candidate i) = .ok (pool.first + i) := by
  rw [h.candidate_eq hi]
  exact ipv4ToNumber_numberToIpv4 number hnumber (h.address_lt hi).2.2

theorem Covers.contains_candidate (h : pool.Covers base bits size) {i : Nat}
    (hi : i < pool.capacity) : pool.contains number (pool.candidate i) = .ok true := by
  unfold contains
  rw [h.ipv4ToNumber_candidate number hnumber hi]
  exact congrArg Except.ok (decide_eq_true ⟨by omega, by omega⟩)

end Covers

/-! ## Probing -/

section Probe

variable {σ : Type} {isUsed : String → σ → Bool × σ}

/-- What a test keeps and what it tells: `Used` is about the state it leaves, and a test
that finds its address used frees none. -/
structure Tests (isUsed : String → σ → Bool × σ) (P : σ → Prop) (Used : String → σ → Prop) : Prop where
  keeps : ∀ a s, P s → P (isUsed a s).2
  used : ∀ a s, P s → (isUsed a s).1 = true → Used a (isUsed a s).2
  unused : ∀ a s, P s → (isUsed a s).1 = false → ¬ Used a (isUsed a s).2
  others : ∀ a b s, P s → (isUsed a s).1 = true → Used b s → Used b (isUsed a s).2

/-- What the loop leaves: the address it found is free, or all that were tried are used. -/
structure Probed (Used : String → σ → Prop) (attempts : Nat) (pool : FakeIpPool)
    (outcome : Except ConfigError String × FakeIpPool × σ) : Prop where
  first : outcome.2.1.first = pool.first
  capacity : outcome.2.1.capacity = pool.capacity
  cursor : outcome.2.1.cursor < pool.capacity
  free : ∀ a, outcome.1 = .ok a →
    (∃ i, i < pool.capacity ∧ a = pool.candidate i) ∧ ¬ Used a outcome.2.2
  exhausted : ∀ error, outcome.1 = .error error → ∀ j, j < attempts →
    Used (pool.candidate ((pool.cursor + j) % pool.capacity)) outcome.2.2

theorem probe_spec {P : σ → Prop} {Used : String → σ → Prop} (htests : Tests isUsed P Used)
    (attempts : Nat) :
    ∀ (pool : FakeIpPool) (s : σ), P s → pool.cursor < pool.capacity →
      P (probe isUsed attempts pool s).2.2 ∧
        (∀ b, Used b s → ∀ error, (probe isUsed attempts pool s).1 = .error error →
          Used b (probe isUsed attempts pool s).2.2) ∧
        Probed Used attempts pool (probe isUsed attempts pool s) := by
  induction attempts with
  | zero =>
    intro pool s hP hcursor
    refine ⟨hP, fun b hb _ _ => hb, rfl, rfl, hcursor, fun a h => ?_, fun error _ j hj => ?_⟩
    · cases h
    · omega
  | succ attempts ih =>
    intro pool s hP hcursor
    have hpos : 0 < pool.capacity := by omega
    have hnext : (pool.cursor + 1) % pool.capacity < pool.capacity := Nat.mod_lt _ hpos
    have hkeeps := htests.keeps (pool.candidate pool.cursor) s hP
    have hused := htests.used (pool.candidate pool.cursor) s hP
    have hunused := htests.unused (pool.candidate pool.cursor) s hP
    have hothers := fun b => htests.others (pool.candidate pool.cursor) b s hP
    unfold probe
    simp only []
    rcases htest : isUsed (pool.candidate pool.cursor) s with ⟨answer, s'⟩
    rw [htest] at hkeeps hused hunused hothers
    cases answer with
    | false =>
      refine ⟨hkeeps, fun b _ error herror => ?_, rfl, rfl, hnext, fun a h => ?_, fun error h => ?_⟩
      · cases herror
      · cases h
        exact ⟨⟨pool.cursor, hcursor, rfl⟩, hunused rfl⟩
      · cases h
    | true =>
      obtain ⟨hP', hstill, hfirst, hcapacity, hcur, hfree, hexhausted⟩ :=
        ih { pool with cursor := (pool.cursor + 1) % pool.capacity } s' hkeeps hnext
      refine ⟨hP', fun b hb error herror => hstill b (hothers b rfl hb) error herror, hfirst,
        hcapacity, hcur, hfree, fun error h j hj => ?_⟩
      cases j with
      | zero =>
        rw [Nat.add_zero, Nat.mod_eq_of_lt hcursor]
        exact hstill _ (hused rfl) error h
      | succ j =>
        have hlater := hexhausted error h j (by omega)
        have hindex : ((pool.cursor + 1) % pool.capacity + j) % pool.capacity =
            (pool.cursor + (j + 1)) % pool.capacity := by
          rw [Nat.mod_add_mod]
          congr 1
          omega
        simp only [hindex] at hlater
        exact hlater

/-- After an exhausted round every address of the pool is used. -/
theorem Probed.all_used {Used : String → σ → Prop} {pool : FakeIpPool}
    {outcome : Except ConfigError String × FakeIpPool × σ} {error : ConfigError}
    (h : Probed Used pool.capacity pool outcome) (herror : outcome.1 = .error error)
    (hcursor : pool.cursor < pool.capacity) {i : Nat} (hi : i < pool.capacity) :
    Used (pool.candidate i) outcome.2.2 := by
  have hindex : (pool.cursor + (i + pool.capacity - pool.cursor) % pool.capacity) % pool.capacity = i := by
    rw [Nat.add_mod_mod]
    have hsum : pool.cursor + (i + pool.capacity - pool.cursor) = i + pool.capacity := by omega
    rw [hsum, Nat.add_mod_right, Nat.mod_eq_of_lt hi]
  have hlt : (i + pool.capacity - pool.cursor) % pool.capacity < pool.capacity :=
    Nat.mod_lt _ (by omega)
  have hused := h.exhausted error herror _ hlt
  rw [hindex] at hused
  exact hused

end Probe

end FakeIpPool

end Sepigs
