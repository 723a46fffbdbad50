import Sepigs.Lib.CyclicSearch
import Sepigs.Lib.JsNumber
import Sepigs.Dns.FakeIpPool

/-!
# The search of the pool of fake addresses (`dns/fakeIpPool.ts`)

One call of `next` is one round of `CyclicSearch` over the addresses that the exact integers
give, `dotted`, from every cursor that earlier calls leave.  `Number` is `JsNumber.number`.
-/

namespace Sepigs

theorem ipv4ToNumber_dotted {value : Nat} (h : value < 2 ^ 32) :
    ipv4ToNumber JsNumber.number (dotted value) = .ok value := by
  rw [← numberToIpv4_eq h]
  exact ipv4ToNumber_numberToIpv4 JsNumber.number (fun _ hn => JsNumber.number_toString (by omega)) h

theorem dotted_injective {m n : Nat} (hm : m < 2 ^ 32) (hn : n < 2 ^ 32) (h : dotted m = dotted n) : m = n := by
  rw [← numberToIpv4_eq hm, ← numberToIpv4_eq hn] at h
  exact numberToIpv4_injective JsNumber.number (fun _ hle => JsNumber.number_toString (by omega)) hm hn h

namespace FakeIpPool

section Round

variable {pool : FakeIpPool} {base bits size : Nat}

theorem Covers.candidate_dotted (h : pool.Covers base bits size) {i : Nat} (hi : i < pool.capacity) :
    pool.candidate i = dotted (networkAddress base bits + 1 + i) := by
  rw [h.candidate_eq hi, numberToIpv4_eq (h.address_lt hi).2.2, h.first]

/-- A predicate, and the addresses it is asked about. -/
def asked (isUsed : String → Bool) (address : String) (log : List String) : Bool × List String :=
  (isUsed address, log ++ [address])

def outcome (found : Option String) : Except ConfigError String :=
  match found with
  | some address => .ok address
  | none => .error ⟨"fake-ip pool is exhausted"⟩

theorem outcome_eq_ok_iff {found : Option String} {address : String} :
    outcome found = .ok address ↔ found = some address := by
  cases found <;> simp [outcome]

theorem outcome_eq_error_iff {found : Option String} :
    (∃ error, outcome found = .error error) ↔ found = none := by
  cases found <;> simp [outcome]

theorem probe_eq (isUsed : String → Bool) (attempts : Nat) :
    ∀ (pool : FakeIpPool) (log : List String), pool.Covers base bits size →
      let searched := CyclicSearch.search (fun i => dotted (networkAddress base bits + 1 + i)) pool.capacity
        isUsed attempts pool.cursor
      probe (asked isUsed) attempts pool log =
        (outcome searched.found, { pool with cursor := searched.cursor }, log ++ searched.asked) := by
  induction attempts with
  | zero =>
    intro pool log _
    simp only [probe, CyclicSearch.search, List.append_nil]
    rfl
  | succ attempts ih =>
    intro pool log h
    have hnext : ({ pool with cursor := (pool.cursor + 1) % pool.capacity } : FakeIpPool).Covers base bits size :=
      ⟨h.first, h.capacity, h.pos, Nat.mod_lt _ h.pos, h.base⟩
    have hrest := ih _ (log ++ [dotted (networkAddress base bits + 1 + pool.cursor)]) hnext
    simp only [probe, CyclicSearch.search, h.candidate_dotted h.cursor, asked]
    by_cases hused : isUsed (dotted (networkAddress base bits + 1 + pool.cursor)) = true
    · rw [if_pos hused, hused]
      simp only [hrest, List.append_assoc, List.cons_append, List.nil_append]
    · rw [if_neg hused, Bool.eq_false_iff.mpr hused]
      rfl

theorem next_eq (isUsed : String → Bool) (h : pool.Covers base bits size) :
    let round := CyclicSearch.round (fun i => dotted (networkAddress base bits + 1 + i)) pool.capacity
      isUsed pool.cursor
    next (asked isUsed) pool [] = (outcome round.found, { pool with cursor := round.cursor }, round.asked) :=
  probe_eq isUsed pool.capacity pool [] h

/-- Earlier calls, each with a predicate of its own. -/
def nexts (earlier : List (String → Bool)) (pool : FakeIpPool) : FakeIpPool :=
  earlier.foldl (fun pool isUsed => (next (asked isUsed) pool []).2.1) pool

theorem nexts_covers (earlier : List (String → Bool)) (h : pool.Covers base bits size) :
    (nexts earlier pool).Covers base bits size := by
  induction earlier generalizing pool with
  | nil => exact h
  | cons isUsed earlier ih =>
    have hnext : (next (asked isUsed) pool []).2.1.Covers base bits size := by
      rw [next_eq isUsed h]
      exact ⟨h.first, h.capacity, h.pos, CyclicSearch.round_cursor h.cursor, h.base⟩
    exact ih hnext

theorem contains_eq (h : pool.Covers base bits size) {address : String} {value : Nat}
    (hvalue : ipv4ToNumber JsNumber.number address = .ok value) :
    ∃ inside, contains JsNumber.number pool address = .ok inside ∧
      (inside = true ↔ ∃ i, i < pool.capacity ∧ value = networkAddress base bits + 1 + i) := by
  unfold contains
  rw [hvalue]
  refine ⟨_, rfl, ?_⟩
  rw [decide_eq_true_iff, h.first]
  constructor
  · intro hin
    exact ⟨value - (networkAddress base bits + 1), by omega, by omega⟩
  · rintro ⟨i, hi, rfl⟩
    omega

end Round

/-- **`next` is a bounded cyclic search**, from every cursor that earlier calls leave, over the
addresses after the network address; `contains` is about the same addresses, and the operators
with their signs agree with the exact integers. -/
theorem next_searches {range : String} {size : Nat} {pool : FakeIpPool}
    (hcreate : create JsNumber.number range size = .ok pool) (earlier : List (String → Bool))
    (isUsed : String → Bool) :
    ∃ base bits, parseRange JsNumber.number range = .ok (base, bits) ∧
      (base < 2 ^ 32 ∧ 1 ≤ bits ∧ bits ≤ 30) ∧
      (let block (i : Nat) : Nat := base / 2 ^ (32 - bits) * 2 ^ (32 - bits) + 1 + i
       let count := min size (2 ^ (32 - bits) - 2)
       let called := next (asked isUsed) (nexts earlier pool) []
       (∀ address, called.1 = .ok address →
          isUsed address = false ∧ ∃ i, i < count ∧ address = dotted (block i)) ∧
       called.2.2.Nodup ∧
       (∀ address ∈ called.2.2, ∃ i, i < count ∧ address = dotted (block i)) ∧
       ((∃ error, called.1 = .error error) ↔ ∀ i, i < count → isUsed (dotted (block i)) = true) ∧
       (∀ address value, ipv4ToNumber JsNumber.number address = .ok value →
          ∃ inside, contains JsNumber.number (nexts earlier pool) address = .ok inside ∧
            (inside = true ↔ ∃ i, i < count ∧ value = block i))) ∧
      (∀ value, value < 2 ^ 32 →
        numberToIpv4 value = dotted value ∧ ipv4ToNumber JsNumber.number (dotted value) = .ok value) ∧
      (∀ base bits, base < 2 ^ 32 → 1 ≤ bits → bits ≤ 30 →
        mask bits = 2 ^ 32 - 2 ^ (32 - bits) ∧
        JsBits.ushr (network base bits) 0 = base / 2 ^ (32 - bits) * 2 ^ (32 - bits) ∧
        firstAddress base bits = base / 2 ^ (32 - bits) * 2 ^ (32 - bits) + 1) := by
  obtain ⟨base, bits, hrange, hcovers⟩ := create_spec JsNumber.number hcreate
  have hbits := parseRange_spec JsNumber.number hrange
  have hreached := nexts_covers earlier hcovers
  have hcapacity := hreached.capacity
  unfold usableAddresses at hcapacity
  refine ⟨base, bits, hrange, hbits, ?_, fun value hvalue => ?_, fun base bits hbase h1 h30 => ?_⟩
  · simp only []
    rw [next_eq isUsed hreached, ← hcapacity]
    refine ⟨fun address hfound => ?_, ?_, fun address hasked => ?_, ?_, fun address value hvalue => ?_⟩
    · exact CyclicSearch.round_some hreached.cursor (outcome_eq_ok_iff.mp hfound)
    · refine CyclicSearch.round_nodup hreached.cursor fun i j hi hj heq => ?_
      have hlti := (hreached.address_lt hi).2.2
      have hltj := (hreached.address_lt hj).2.2
      rw [hreached.first] at hlti hltj
      have hsame := dotted_injective hlti hltj heq
      omega
    · exact CyclicSearch.round_asked hreached.cursor hasked
    · rw [outcome_eq_error_iff]
      exact CyclicSearch.round_none_iff hreached.cursor
    · exact contains_eq hreached hvalue
  · exact ⟨by rw [numberToIpv4_eq hvalue], ipv4ToNumber_dotted hvalue⟩
  · refine ⟨mask_eq h1, ?_, firstAddress_eq hbase h1 h30⟩
    rw [JsBits.ushr_zero]
    exact bits_network hbase h1

/-- The last addresses there are: the third is tried after the second. -/
theorem next_searches_top :
    ∃ pool, create JsNumber.number "255.255.255.248/29" 10 = .ok pool ∧ pool.first = 2 ^ 32 - 7 ∧
      (next (asked fun address => address == "255.255.255.250")
        (nexts [fun _ => false] pool) []).2.2.Nodup := by
  have hcreate : create JsNumber.number "255.255.255.248/29" 10 = .ok ⟨4294967289, 6, 0⟩ := by decide +kernel
  obtain ⟨base, bits, -, -, hcalled, -⟩ :=
    next_searches hcreate [fun _ => false] fun address => address == "255.255.255.250"
  exact ⟨_, hcreate, rfl, hcalled.2.1⟩

end FakeIpPool

end Sepigs
