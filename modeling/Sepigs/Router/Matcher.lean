import Sepigs.Dns.FakeIpPool
import Sepigs.Lib.IpText
import Sepigs.Protocol.Address
import Mathlib.Data.Nat.Bitwise

/-!
# Matching hosts (`router/matcher.ts`)

Domains are compared trimmed and in lower case.  An address lies in a CIDR when it is of
the version of the network and starts with the same bits.
-/

namespace Sepigs

/-! ## Domains -/

section Domains

variable (node : Node)

def normalizeDomain (domain : String) : String := node.toLowerCase (JsString.trim domain)

def matchesExactDomain (host : String) (domains : List String) : Bool :=
  domains.contains (normalizeDomain node host)

/-- The suffix without the dot it may start with. -/
def normalizeSuffix (suffix : String) : String :=
  let normalized := normalizeDomain node suffix
  if JsString.startsWith normalized "." then JsString.sliceFrom normalized 1 else normalized

def matchesDomainSuffix (host : String) (suffixes : List String) : Bool :=
  let normalizedHost := normalizeDomain node host
  suffixes.any fun suffix =>
    let normalizedSuffix := normalizeSuffix node suffix
    decide (normalizedHost = normalizedSuffix) ||
      JsString.endsWith normalizedHost ("." ++ normalizedSuffix)

/-- The host is the domain, or one of its subdomains. -/
def InsideDomain (host domain : String) : Prop :=
  normalizeDomain node host = normalizeSuffix node domain ∨
    ∃ labels, (normalizeDomain node host).toList =
      labels ++ '.' :: (normalizeSuffix node domain).toList

theorem matchesExactDomain_iff (host : String) (domains : List String) :
    matchesExactDomain node host (domains.map (normalizeDomain node)) = true ↔
      ∃ domain ∈ domains, normalizeDomain node domain = normalizeDomain node host := by
  unfold matchesExactDomain
  rw [List.contains_iff_mem, List.mem_map]

theorem matchesDomainSuffix_iff (host : String) (suffixes : List String) :
    matchesDomainSuffix node host suffixes = true ↔
      ∃ suffix ∈ suffixes, InsideDomain node host suffix := by
  have hends (text stop : String) : JsString.endsWith text ("." ++ stop) = true ↔
      ∃ labels, text.toList = labels ++ '.' :: stop.toList := by
    unfold JsString.endsWith
    rw [List.isSuffixOf_iff_suffix, String.toList_append]
    constructor
    · rintro ⟨labels, hlabels⟩
      exact ⟨labels, hlabels.symm⟩
    · rintro ⟨labels, hlabels⟩
      exact ⟨labels, hlabels.symm⟩
  unfold matchesDomainSuffix InsideDomain
  rw [List.any_eq_true]
  refine exists_congr fun suffix => and_congr_right fun _ => ?_
  rw [Bool.or_eq_true, decide_eq_true_eq, hends]

end Domains

/-! ## Addresses -/

/-- `/^\d{1,3}$/u` -/
def isDecimalGroup (part : String) : Bool :=
  decide (1 ≤ part.toList.length ∧ part.toList.length ≤ 3) && part.toList.all Char.isDigit

/-- One pass of a loop `output = (output << width) + group`, with the bound it checks. -/
def shiftIn (width : Nat) (output group : Nat) : Option Nat :=
  if 2 ^ width ≤ group then none else some ((output <<< width) + group)

def parseIpv4ToBigInt (input : String) : Option Nat :=
  let parts := JsString.split input '.'
  if parts.length ≠ 4 then none
  else
    parts.foldlM
      (fun output part =>
        if !isDecimalGroup part then none
        else shiftIn 8 output (Nat.ofDigitChars 10 part.toList 0))
      0

/-- `Number.parseInt(part, 16)` where `part` is one to four hexadecimal digits. -/
def hexGroup (part : String) : Option Nat :=
  if 1 ≤ part.toList.length ∧ part.toList.length ≤ 4 then
    IpText.hexNumber part.toList
  else none

def parseIpv6Part (part : String) : Option (List Nat) :=
  if part.toList.contains '.' then
    (parseIpv4ToBigInt part).map fun ipv4 => [(ipv4 >>> 16) &&& 0xffff, ipv4 &&& 0xffff]
  else (hexGroup part).map fun group => [group]

def parseIpv6Groups (input : String) : Option (List Nat) :=
  if input.toList.isEmpty then some []
  else ((JsString.split input ':').mapM parseIpv6Part).map List.flatten

/-- `text.split("::")` -/
def splitDoubleColon : List Char → List (List Char)
  | ':' :: ':' :: rest => [] :: splitDoubleColon rest
  | c :: rest =>
    match splitDoubleColon rest with
    | part :: parts => (c :: part) :: parts
    | [] => [[c]]
  | [] => [[]]

def groupsToBigInt (groups : List Nat) : Option Nat :=
  if groups.length ≠ 8 then none else groups.foldlM (shiftIn 16) 0

def parseIpv6ToBigInt (node : Node) (input : String) : Option Nat :=
  let doubleColonParts := (splitDoubleColon (node.toLowerCase input).toList).map String.ofList
  if 2 < doubleColonParts.length then none
  else
    match parseIpv6Groups (doubleColonParts[0]?.getD ""),
      parseIpv6Groups (doubleColonParts[1]?.getD "") with
    | some head, some tail =>
      if doubleColonParts.length = 2 then
        if 8 - (head.length : Int) - tail.length < 1 then none
        else groupsToBigInt (head ++ List.replicate (8 - head.length - tail.length) 0 ++ tail)
      else groupsToBigInt head
    | _, _ => none

inductive IpVersion where
  | v4
  | v6
deriving DecidableEq, Repr

def IpVersion.bits : IpVersion → Nat
  | v4 => 32
  | v6 => 128

structure ParsedIp where
  version : IpVersion
  value : Nat
  value_lt : value < 2 ^ version.bits
deriving DecidableEq, Repr

theorem shiftIn_lt {width bits output group value : Nat} (houtput : output < 2 ^ bits)
    (h : shiftIn width output group = some value) : value < 2 ^ (bits + width) := by
  unfold shiftIn at h
  split at h
  · cases h
  · next hgroup =>
    cases h
    have hle : (output + 1) * 2 ^ width ≤ 2 ^ bits * 2 ^ width := Nat.mul_le_mul_right _ houtput
    rw [Nat.shiftLeft_eq, pow_add]
    rw [Nat.add_mul] at hle
    omega

/-- A loop that shifts in groups of one width has a value of as many bits. -/
theorem foldlM_lt {α : Type} {step : Nat → α → Option Nat} (width : Nat)
    (hstep : ∀ output a value bits, output < 2 ^ bits → step output a = some value →
      value < 2 ^ (bits + width))
    (items : List α) (output bits value : Nat) (houtput : output < 2 ^ bits)
    (h : items.foldlM step output = some value) : value < 2 ^ (bits + width * items.length) := by
  induction items generalizing output bits with
  | nil =>
    cases h
    exact houtput
  | cons item items ih =>
    rw [List.foldlM_cons] at h
    obtain ⟨next, hnext, hrest⟩ := Option.bind_eq_some_iff.mp h
    have hlt := ih next (bits + width) (hstep output item next bits houtput hnext) hrest
    have hexp : bits + width + width * items.length = bits + width * (item :: items).length := by
      rw [List.length_cons, Nat.mul_succ]
      omega
    rwa [hexp] at hlt

theorem parseIpv4ToBigInt_lt {input : String} {value : Nat}
    (h : parseIpv4ToBigInt input = some value) : value < 2 ^ 32 := by
  simp only [parseIpv4ToBigInt] at h
  split at h
  · cases h
  · next hlength =>
    have hlt := foldlM_lt 8 ?_ _ 0 0 value (by decide) h
    · rwa [Decidable.not_not.mp hlength] at hlt
    · intro output part value' bits houtput hstep
      split at hstep
      · cases hstep
      · exact shiftIn_lt houtput hstep

theorem groupsToBigInt_lt {groups : List Nat} {value : Nat}
    (h : groupsToBigInt groups = some value) : value < 2 ^ 128 := by
  unfold groupsToBigInt at h
  split at h
  · cases h
  · next hlength =>
    have hlt := foldlM_lt 16 ?_ groups 0 0 value (by decide) h
    · rwa [Decidable.not_not.mp hlength] at hlt
    · intro output group value' bits houtput hstep
      exact shiftIn_lt houtput hstep

section Cidr

variable (node : Node)

theorem parseIpv6ToBigInt_lt {node : Node} {input : String} {value : Nat}
    (h : parseIpv6ToBigInt node input = some value) : value < 2 ^ 128 := by
  simp only [parseIpv6ToBigInt] at h
  split at h
  · cases h
  · split at h
    · split at h
      · split at h
        · cases h
        · exact groupsToBigInt_lt h
      · exact groupsToBigInt_lt h
    · cases h

def parseIpToBigInt (input : String) : Option ParsedIp :=
  match node.isIP input with
  | 4 => (parseIpv4ToBigInt input).attach.map fun value =>
      ⟨.v4, value.1, parseIpv4ToBigInt_lt value.2⟩
  | 6 => (parseIpv6ToBigInt node input).attach.map fun value =>
      ⟨.v6, value.1, parseIpv6ToBigInt_lt value.2⟩
  | _ => none

/-- `prefixLength` is `prefix`, and `bits` is the one of the version. -/
structure CidrMatcher where
  version : IpVersion
  network : Nat
  prefixLength : Nat
  network_lt : network < 2 ^ version.bits
  prefixLength_le : prefixLength ≤ version.bits
deriving DecidableEq, Repr

namespace CidrMatcher

def create (cidr : String) : Except ConfigError CidrMatcher :=
  match JsString.split cidr '/' with
  | [address, prefixText] =>
    match parseIpToBigInt node address with
    | none => .error ⟨s!"invalid CIDR address \"{cidr}\""⟩
    | some parsed =>
      match node.number prefixText with
      | none => .error ⟨s!"invalid CIDR prefix \"{cidr}\""⟩
      | some length =>
        if length < 0 then .error ⟨s!"invalid CIDR prefix \"{cidr}\""⟩
        else if h : length.toNat ≤ parsed.version.bits then
          .ok ⟨parsed.version, parsed.value, length.toNat, parsed.value_lt, h⟩
        else .error ⟨s!"invalid CIDR prefix \"{cidr}\""⟩
  | _ => .error ⟨s!"invalid CIDR \"{cidr}\""⟩

def matchesHost (matcher : CidrMatcher) (host : String) : Bool :=
  match parseIpToBigInt node host with
  | none => false
  | some parsed =>
    if parsed.version ≠ matcher.version then false
    else if matcher.prefixLength = 0 then true
    else
      let shift := matcher.version.bits - matcher.prefixLength
      decide (parsed.value >>> shift = matcher.network >>> shift)

/-- The host is an address of the version of the network, and the first `prefixLength` bits
are those of the network. -/
def Contains (matcher : CidrMatcher) (host : String) : Prop :=
  ∃ ip, parseIpToBigInt node host = some ip ∧ ip.version = matcher.version ∧
    ∀ i, i < matcher.prefixLength → ip.value.testBit (matcher.version.bits - 1 - i) =
      matcher.network.testBit (matcher.version.bits - 1 - i)

end CidrMatcher

def isValidCidr (cidr : String) : Bool :=
  match CidrMatcher.create node cidr with
  | .ok _ => true
  | .error _ => false

/-- Numbers of so many bits agree above a shift when they agree in the bits above it. -/
theorem shiftRight_eq_iff {bits length m n : Nat} (hm : m < 2 ^ bits) (hn : n < 2 ^ bits)
    (hle : length ≤ bits) : m >>> (bits - length) = n >>> (bits - length) ↔
      ∀ i, i < length → m.testBit (bits - 1 - i) = n.testBit (bits - 1 - i) := by
  constructor
  · intro h i hi
    have hbit := congrArg (fun value => value.testBit (length - 1 - i)) h
    have hplace : bits - length + (length - 1 - i) = bits - 1 - i := by omega
    simpa only [Nat.testBit_shiftRight, hplace] using hbit
  · intro h
    refine Nat.eq_of_testBit_eq fun i => ?_
    rw [Nat.testBit_shiftRight, Nat.testBit_shiftRight]
    by_cases hi : i < length
    · have hplace : bits - 1 - (length - 1 - i) = bits - length + i := by omega
      have hbit := h (length - 1 - i) (by omega)
      rwa [hplace] at hbit
    · -- the places above the numbers hold no bit
      have hpow : 2 ^ bits ≤ 2 ^ (bits - length + i) := Nat.pow_le_pow_right (by decide) (by omega)
      rw [Nat.testBit_lt_two_pow (Nat.lt_of_lt_of_le hm hpow),
        Nat.testBit_lt_two_pow (Nat.lt_of_lt_of_le hn hpow)]

theorem CidrMatcher.matchesHost_iff (matcher : CidrMatcher) (host : String) :
    matcher.matchesHost node host = true ↔ matcher.Contains node host := by
  unfold CidrMatcher.matchesHost CidrMatcher.Contains
  cases hparsed : parseIpToBigInt node host with
  | none => simp
  | some parsed =>
    by_cases hversion : parsed.version = matcher.version
    · have hvalue : parsed.value < 2 ^ matcher.version.bits := hversion ▸ parsed.value_lt
      have hiff := shiftRight_eq_iff hvalue matcher.network_lt matcher.prefixLength_le
      by_cases hzero : matcher.prefixLength = 0
      · simp [hversion, hzero]
      · simp [hversion, hzero, hiff]
    · simp [hversion]

end Cidr

end Sepigs
