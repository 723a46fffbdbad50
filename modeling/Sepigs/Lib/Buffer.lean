import Mathlib.Data.List.Infix

/-!
# Byte strings

Where a pattern first occurs, and that this is known from any prefix that has it.
-/

namespace Buffer

universe u

variable {α : Type u} [DecidableEq α]

/-- `bytes.indexOf(pattern)`, with `none` for -1. -/
def indexOf (pattern : List α) : List α → Option Nat
  | [] => if pattern = [] then some 0 else none
  | b :: bytes => if pattern.isPrefixOf (b :: bytes) then some 0 else (indexOf pattern bytes).map (· + 1)

/-- The parts between the occurrences of a pattern, for a number of them. -/
def splitLoop (pattern : List α) : Nat → List α → List (List α)
  | 0, bytes => [bytes]
  | parts + 1, bytes =>
    match indexOf pattern bytes with
    | none => [bytes]
    | some i => bytes.take i :: splitLoop pattern parts (bytes.drop (i + pattern.length))

/-- `bytes.split(pattern)` -/
def split (pattern bytes : List α) : List (List α) := splitLoop pattern bytes.length bytes

theorem indexOf_eq_zero {pattern bytes : List α} (h : pattern <+: bytes) :
    indexOf pattern bytes = some 0 := by
  cases bytes with
  | nil =>
    unfold indexOf
    rw [if_pos (List.prefix_nil.mp h)]
  | cons b bytes =>
    unfold indexOf
    rw [if_pos (List.isPrefixOf_iff_prefix.mpr h)]

theorem indexOf_cons {pattern bytes : List α} {b : α} (h : ¬ pattern <+: b :: bytes) :
    indexOf pattern (b :: bytes) = (indexOf pattern bytes).map (· + 1) := by
  show (if pattern.isPrefixOf (b :: bytes) then _ else _) = _
  rw [if_neg]
  intro hstart
  exact h (List.isPrefixOf_iff_prefix.mp hstart)

/-- The pattern stands at the index, and the bytes up to its end are a prefix. -/
theorem indexOf_spec {pattern bytes : List α} {i : Nat} (h : indexOf pattern bytes = some i) :
    bytes = bytes.take i ++ pattern ++ bytes.drop (i + pattern.length) := by
  induction bytes generalizing i with
  | nil =>
    unfold indexOf at h
    split at h
    · next hnil =>
      cases h
      simp [hnil]
    · cases h
  | cons b bytes ih =>
    by_cases hstart : pattern <+: b :: bytes
    · rw [indexOf_eq_zero hstart] at h
      cases h
      obtain ⟨rest, hrest⟩ := hstart
      rw [← hrest]
      simp
    · rw [indexOf_cons hstart] at h
      obtain ⟨j, hj, rfl⟩ := Option.map_eq_some_iff.mp h
      have hbytes := ih hj
      rw [show j + 1 + pattern.length = j + pattern.length + 1 by omega]
      simp only [List.take_succ_cons, List.drop_succ_cons, List.cons_append]
      rw [← hbytes]

theorem indexOf_le {pattern bytes : List α} {i : Nat} (h : indexOf pattern bytes = some i) :
    i + pattern.length ≤ bytes.length := by
  have hlength := congrArg List.length (indexOf_spec h)
  simp only [List.length_append, List.length_take, List.length_drop] at hlength
  by_contra hlt
  have hmin : min i bytes.length ≤ bytes.length := Nat.min_le_right _ _
  by_cases hi : i ≤ bytes.length
  · rw [Nat.min_eq_left hi] at hlength
    omega
  · rw [Nat.min_eq_right (by omega)] at hlength
    have hzero : pattern.length = 0 := by omega
    obtain rfl := List.length_eq_zero_iff.mp hzero
    rw [indexOf_eq_zero (List.nil_prefix)] at h
    cases h
    omega

/-- More bytes after a first occurrence do not move it. -/
theorem indexOf_append {pattern bytes : List α} {i : Nat} (h : indexOf pattern bytes = some i)
    (more : List α) : indexOf pattern (bytes ++ more) = some i := by
  induction bytes generalizing i with
  | nil =>
    unfold indexOf at h
    split at h
    · next hnil =>
      cases h
      exact indexOf_eq_zero (hnil ▸ List.nil_prefix)
    · cases h
  | cons b bytes ih =>
    by_cases hstart : pattern <+: b :: bytes
    · rw [indexOf_eq_zero hstart] at h
      rw [indexOf_eq_zero (hstart.trans (List.prefix_append _ _))]
      exact h
    · have hle := indexOf_le h
      rw [indexOf_cons hstart] at h
      obtain ⟨j, hj, rfl⟩ := Option.map_eq_some_iff.mp h
      have hlong : ¬ pattern <+: b :: (bytes ++ more) := by
        intro hstart'
        refine hstart (List.prefix_of_prefix_length_le hstart' (List.prefix_append (b :: bytes) more) ?_)
        omega
      rw [List.cons_append, indexOf_cons hlong, ih hj]
      rfl

theorem splitLoop_ne_nil (pattern : List α) (parts : Nat) (bytes : List α) :
    splitLoop pattern parts bytes ≠ [] := by
  cases parts with
  | zero => simp [splitLoop]
  | succ parts =>
    unfold splitLoop
    cases indexOf pattern bytes <;> simp

/-- Joining undoes splitting. -/
theorem intercalate_splitLoop (pattern : List α) (parts : Nat) (bytes : List α) :
    List.intercalate pattern (splitLoop pattern parts bytes) = bytes := by
  induction parts generalizing bytes with
  | zero => simp [splitLoop]
  | succ parts ih =>
    unfold splitLoop
    cases hindex : indexOf pattern bytes with
    | none => simp
    | some i =>
      have hrest := ih (bytes.drop (i + pattern.length))
      obtain ⟨part, more, hsplit⟩ := List.exists_cons_of_ne_nil
        (splitLoop_ne_nil pattern parts (bytes.drop (i + pattern.length)))
      simp only []
      rw [hsplit] at hrest ⊢
      rw [List.intercalate_cons_cons, hrest]
      exact (indexOf_spec hindex).symm

/-- A first occurrence is found from what is before its end, and from no less. -/
theorem indexOf_eq_none_iff {pattern bytes : List α} : indexOf pattern bytes = none ↔ ¬ pattern <:+: bytes := by
  induction bytes with
  | nil =>
    unfold indexOf
    rw [List.infix_nil]
    split
    · next hnil => simp [hnil]
    · next hne => simp [hne]
  | cons b bytes ih =>
    rw [List.infix_cons_iff, not_or, ← ih]
    by_cases hstart : pattern <+: b :: bytes
    · rw [indexOf_eq_zero hstart]
      simp [hstart]
    · rw [indexOf_cons hstart, Option.map_eq_none_iff]
      simp [hstart]

theorem not_infix_take {pattern bytes : List α} {i k : Nat} (h : indexOf pattern bytes = some i)
    (hk : k < i + pattern.length) : ¬ pattern <:+: bytes.take k := by
  intro hinfix
  have hsome : indexOf pattern (bytes.take k) ≠ none := fun hnone => indexOf_eq_none_iff.mp hnone hinfix
  obtain ⟨j, hj⟩ := Option.ne_none_iff_exists'.mp hsome
  have hle := indexOf_le hj
  rw [List.length_take] at hle
  have hfirst := indexOf_append hj (bytes.drop k)
  rw [List.take_append_drop, h] at hfirst
  cases hfirst
  omega

/-- No part holds the pattern that is split at. -/
theorem not_infix_of_mem_splitLoop {pattern : List α} (hpattern : pattern ≠ []) {parts : Nat} {bytes : List α}
    (hparts : bytes.length ≤ parts) : ∀ part ∈ splitLoop pattern parts bytes, ¬ pattern <:+: part := by
  induction parts generalizing bytes with
  | zero =>
    intro part hpart
    obtain rfl := List.length_eq_zero_iff.mp (Nat.le_zero.mp hparts)
    obtain rfl := List.mem_singleton.mp hpart
    rwa [List.infix_nil]
  | succ parts ih =>
    intro part hpart
    have hpos := List.length_pos_iff.mpr hpattern
    unfold splitLoop at hpart
    cases hindex : indexOf pattern bytes with
    | none =>
      rw [hindex] at hpart
      obtain rfl := List.mem_singleton.mp hpart
      exact indexOf_eq_none_iff.mp hindex
    | some i =>
      rw [hindex] at hpart
      rcases List.mem_cons.mp hpart with rfl | hrest
      · exact not_infix_take hindex (by omega)
      · refine ih ?_ part hrest
        rw [List.length_drop]
        omega

theorem not_infix_of_mem_split {pattern bytes part : List α} (hpattern : pattern ≠ [])
    (hpart : part ∈ split pattern bytes) : ¬ pattern <:+: part :=
  not_infix_of_mem_splitLoop hpattern (Nat.le_refl _) part hpart

/-- Joining undoes splitting. -/
theorem intercalate_split (pattern bytes : List α) : List.intercalate pattern (split pattern bytes) = bytes :=
  intercalate_splitLoop pattern bytes.length bytes

section Map

variable {β : Type u} [DecidableEq β] {f : α → β} (hf : Function.Injective f)

include hf

theorem indexOf_map (pattern bytes : List α) :
    indexOf (pattern.map f) (bytes.map f) = indexOf pattern bytes := by
  induction bytes with
  | nil => simp [indexOf]
  | cons b bytes ih =>
    have hiff : pattern.map f <+: (b :: bytes).map f ↔ pattern <+: b :: bytes :=
      List.prefix_map_iff_of_injective hf
    by_cases hstart : pattern <+: b :: bytes
    · rw [indexOf_eq_zero hstart, indexOf_eq_zero (hiff.mpr hstart)]
    · rw [indexOf_cons hstart, List.map_cons, indexOf_cons (mt hiff.mp hstart), ih]

theorem splitLoop_map (pattern : List α) (parts : Nat) (bytes : List α) :
    splitLoop (pattern.map f) parts (bytes.map f) = (splitLoop pattern parts bytes).map (List.map f) := by
  induction parts generalizing bytes with
  | zero => rfl
  | succ parts ih =>
    unfold splitLoop
    rw [indexOf_map hf, List.length_map]
    cases indexOf pattern bytes with
    | none => rfl
    | some i =>
      dsimp only
      rw [List.map_cons, ← List.map_take, ← List.map_drop, ih]

theorem split_map (pattern bytes : List α) :
    split (pattern.map f) (bytes.map f) = (split pattern bytes).map (List.map f) := by
  unfold split
  rw [List.length_map, splitLoop_map hf]

theorem splitOn_map (a : α) (bytes : List α) :
    (bytes.map f).splitOn (f a) = (bytes.splitOn a).map (List.map f) := by
  induction bytes with
  | nil => rfl
  | cons b bytes ih =>
    rw [List.map_cons, List.splitOn_cons_eq_if_modifyHead, List.splitOn_cons_eq_if_modifyHead, ih]
    by_cases hsame : b = a
    · rw [hsame, if_pos (beq_self_eq_true _), if_pos (beq_self_eq_true _)]
      rfl
    · rw [if_neg (by simpa using fun h => hsame (hf h)), if_neg (by simpa using hsame)]
      cases bytes.splitOn a with
      | nil => rfl
      | cons part parts => rfl

end Map

/-! ## Lines -/

section Lines

omit [DecidableEq α]

theorem infix_intercalate {separator part : List α} {parts : List (List α)} (h : part ∈ parts) :
    part <:+: List.intercalate separator parts := by
  obtain ⟨before, after, rfl⟩ := List.append_of_mem h
  clear h
  induction before with
  | nil =>
    cases after with
    | nil => simp
    | cons next after =>
      rw [List.nil_append, List.intercalate_cons_cons, List.append_assoc]
      exact (List.prefix_append _ _).isInfix
  | cons first before ih =>
    rw [List.cons_append, List.intercalate_cons_of_ne_nil (by simp)]
    exact ih.trans (List.suffix_append _ _).isInfix

/-- Each part followed by the separator. -/
theorem intercalate_append {separator : List α} {parts : List (List α)} (h : parts ≠ []) :
    List.intercalate separator parts ++ separator = parts.flatMap (· ++ separator) := by
  induction parts with
  | nil => exact absurd rfl h
  | cons part parts ih =>
    by_cases hnil : parts = []
    · subst hnil
      simp
    · rw [List.intercalate_cons_of_ne_nil hnil, List.append_assoc, ih hnil, List.flatMap_cons]

/-- A pair does not arise across an element that is neither of the two. -/
theorem pair_not_infix_append {x y a : α} (hx : a ≠ x) (hy : a ≠ y) {left right : List α}
    (hleft : ¬ [x, y] <:+: left) (hright : ¬ [x, y] <:+: right) : ¬ [x, y] <:+: left ++ a :: right := by
  induction left with
  | nil =>
    rw [List.nil_append, List.infix_cons_iff]
    rintro (hstart | hinfix)
    · exact hx (List.cons_prefix_cons.mp hstart).1.symm
    · exact hright hinfix
  | cons b left ih =>
    rw [List.infix_cons_iff, not_or] at hleft
    rw [List.cons_append, List.infix_cons_iff]
    rintro (hstart | hinfix)
    · obtain ⟨rfl, hnext⟩ := List.cons_prefix_cons.mp hstart
      cases left with
      | nil => exact hy (List.cons_prefix_cons.mp hnext).1.symm
      | cons c left =>
        obtain ⟨rfl, -⟩ := List.cons_prefix_cons.mp hnext
        exact hleft.1 (List.cons_prefix_cons.mpr ⟨rfl, List.cons_prefix_cons.mpr ⟨rfl, List.nil_prefix⟩⟩)
    · exact ih hleft.2 hinfix

end Lines

/-! ## Parts at a place -/

omit [DecidableEq α]

/-- `part` stands in the bytes at `offset`. -/
def At (bytes : List α) (offset : Nat) (part : List α) : Prop :=
  ∃ pre post, bytes = pre ++ part ++ post ∧ pre.length = offset

theorem At.append {bytes first second : List α} {offset : Nat}
    (h : At bytes offset (first ++ second)) :
    At bytes offset first ∧ At bytes (offset + first.length) second := by
  obtain ⟨pre, post, rfl, rfl⟩ := h
  constructor
  · exact ⟨pre, second ++ post, by simp, rfl⟩
  · exact ⟨pre ++ first, post, by simp, by simp⟩

theorem At.tail {bytes rest : List α} {b : α} {offset : Nat} (h : At bytes offset (b :: rest)) :
    At bytes (offset + 1) rest :=
  (@At.append α bytes [b] rest offset h).2

theorem At.le {bytes part : List α} {offset : Nat} (h : At bytes offset part) :
    offset + part.length ≤ bytes.length := by
  obtain ⟨pre, post, rfl, rfl⟩ := h
  simp

theorem At.getElem? {bytes rest : List α} {b : α} {offset : Nat}
    (h : At bytes offset (b :: rest)) : bytes[offset]? = some b := by
  obtain ⟨pre, post, rfl, rfl⟩ := h
  simp

end Buffer
