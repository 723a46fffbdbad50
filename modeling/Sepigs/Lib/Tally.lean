import Mathlib.Algebra.BigOperators.Group.List.Basic
import Mathlib.Algebra.GroupWithZero.Nat

/-!
# Totals over the items of a list

What a list comes to when an item is added to it or replaced in it.  In a `Ledger` the entries of a
list are counted twice, in the account each belongs to and all together.
-/

namespace Tally

universe u v

variable {α : Type u} {β : Type v}

/-- Replacing an item replaces what it is mapped to, and nothing else. -/
theorem filterMap_set (f : α → Option β) {items : List α} {index : Nat} {old : α} (new : α)
    (hget : items[index]? = some old) :
    ∃ before after, items.filterMap f = before ++ (f old).toList ++ after ∧
      (items.set index new).filterMap f = before ++ (f new).toList ++ after := by
  obtain ⟨hlt, hold⟩ := List.getElem?_eq_some_iff.mp hget
  have hsplit : items = items.take index ++ old :: items.drop (index + 1) := by
    rw [← hold, ← List.drop_eq_getElem_cons hlt, List.take_append_drop]
  refine ⟨(items.take index).filterMap f, (items.drop (index + 1)).filterMap f, ?_, ?_⟩
  · conv_lhs => rw [hsplit]
    rw [List.filterMap_append, List.append_assoc]
    cases hf : f old with
    | none => rw [List.filterMap_cons_none hf]; rfl
    | some b => rw [List.filterMap_cons_some hf]; rfl
  · rw [List.set_eq_take_append_cons_drop, if_pos hlt, List.filterMap_append, List.append_assoc]
    cases hf : f new with
    | none => rw [List.filterMap_cons_none hf]; rfl
    | some b => rw [List.filterMap_cons_some hf]; rfl

/-- A replacement that looks the same under `f`. -/
theorem map_set_same (f : α → β) {items : List α} {index : Nat} {old new : α}
    (hget : items[index]? = some old) (hsame : f new = f old) :
    (items.set index new).map f = items.map f := by
  have hmap (l : List α) : l.map f = l.filterMap fun a => some (f a) := by simp
  obtain ⟨before, after, hold, hset⟩ := filterMap_set (fun a => some (f a)) new hget
  rw [hmap, hmap, hset, hold, hsame]

theorem sum_map_set (f : α → Nat) {items : List α} {index more : Nat} {old new : α}
    (hget : items[index]? = some old) (hnew : f new = f old + more) :
    ((items.set index new).map f).sum = (items.map f).sum + more := by
  obtain ⟨before, after, hold, hset⟩ := filterMap_set (fun a => some (f a)) new hget
  have hmap (l : List α) : l.map f = l.filterMap fun a => some (f a) := by simp
  rw [hmap, hmap, hset, hold]
  simp only [Option.toList_some, List.sum_append, List.sum_singleton, hnew]
  omega

/-- How many of the items count, and what they come to. -/
def tally (f : α → Option Nat) (items : List α) : Nat × Nat :=
  ((items.filterMap f).length, (items.filterMap f).sum)

def plus (counted : Option Nat) (total : Nat × Nat) : Nat × Nat :=
  (total.1 + counted.toList.length, total.2 + counted.toList.sum)

@[simp] theorem plus_none (total : Nat × Nat) : plus none total = total := rfl

@[simp] theorem plus_some (amount : Nat) (total : Nat × Nat) :
    plus (some amount) total = (total.1 + 1, total.2 + amount) := by
  simp [plus]

theorem tally_append (f : α → Option Nat) (items : List α) (a : α) :
    tally f (items ++ [a]) = plus (f a) (tally f items) := by
  unfold tally plus
  rw [List.filterMap_append, List.length_append, List.sum_append]
  cases hf : f a with
  | none => simp [hf]
  | some amount => simp [hf]

/-- An item that did not count is replaced. -/
theorem tally_set (f : α → Option Nat) {items : List α} {index : Nat} {old new : α}
    (hget : items[index]? = some old) (hold : f old = none) :
    tally f (items.set index new) = plus (f new) (tally f items) := by
  obtain ⟨before, after, heq, hset⟩ := filterMap_set f new hget
  unfold tally plus
  rw [hset, heq, hold]
  cases hf : f new with
  | none => simp
  | some amount =>
    simp
    omega

/-- An item is replaced by one that counts the same. -/
theorem tally_set_same (f : α → Option Nat) {items : List α} {index : Nat} {old new : α}
    (hget : items[index]? = some old) (hsame : f new = f old) :
    tally f (items.set index new) = tally f items := by
  obtain ⟨before, after, heq, hset⟩ := filterMap_set f new hget
  unfold tally
  rw [hset, heq, hsame]

theorem tally_eq_zero (f : α → Option Nat) {items : List α} (h : ∀ a ∈ items, f a = none) :
    tally f items = (0, 0) := by
  unfold tally
  rw [List.filterMap_eq_nil_iff.mpr h]
  rfl

/-- What only the entries of one account count for. -/
def ofPlace (place : α → Nat) (index : Nat) (measure : α → Option Nat) (entry : α) : Option Nat :=
  if place entry = index then measure entry else none

/-- The accounts and the total agree with the entries. -/
structure Ledger (place : α → Nat) (measure : α → Option Nat) (count : β → Nat × Nat) (accounts : List β)
    (entries : List α) (total : Nat × Nat) : Prop where
  placed : ∀ entry ∈ entries, place entry < accounts.length
  each : ∀ index account, accounts[index]? = some account →
    count account = tally (ofPlace place index measure) entries
  all : total = tally measure entries

namespace Ledger

variable {place : α → Nat} {measure : α → Option Nat} {count : β → Nat × Nat} {accounts : List β}
  {entries : List α} {total : Nat × Nat}

theorem nil : Ledger place measure count ([] : List β) [] (0, 0) := by
  refine ⟨fun entry hmem => absurd hmem List.not_mem_nil, fun index account hget => ?_, rfl⟩
  cases hget

/-- Nothing is in a new account. -/
theorem opens (h : Ledger place measure count accounts entries total) {account : β}
    (hzero : count account = (0, 0)) : Ledger place measure count (accounts ++ [account]) entries total := by
  refine ⟨fun entry hmem => ?_, fun index other hget => ?_, h.all⟩
  · have hplaced := h.placed entry hmem
    rw [List.length_append]
    omega
  · by_cases hlt : index < accounts.length
    · rw [List.getElem?_append_left hlt] at hget
      exact h.each index other hget
    · rw [List.getElem?_append_right (Nat.le_of_not_lt hlt)] at hget
      rw [List.mem_singleton.mp (List.mem_of_getElem? hget), hzero]
      refine (tally_eq_zero _ fun entry hmem => ?_).symm
      have hplaced := h.placed entry hmem
      exact if_neg (by omega)

/-- An account changes, but not what it counts. -/
theorem recounts (h : Ledger place measure count accounts entries total) {index : Nat} {old : β}
    (hget : accounts[index]? = some old) (new : β) (hcount : count new = count old) :
    Ledger place measure count (accounts.set index new) entries total := by
  refine ⟨fun entry hmem => ?_, fun other account hat => ?_, h.all⟩
  · rw [List.length_set]
    exact h.placed entry hmem
  · rw [List.getElem?_set] at hat
    split at hat
    · next heq =>
      subst heq
      split at hat
      · cases hat
        rw [hcount]
        exact h.each index old hget
      · cases hat
    · exact h.each other account hat

/-- An entry is added that counts for nothing. -/
theorem skips (h : Ledger place measure count accounts entries total) (entry : α)
    (hplace : place entry < accounts.length) (hnone : measure entry = none) :
    Ledger place measure count accounts (entries ++ [entry]) total := by
  refine ⟨fun other hmem => ?_, fun index account hget => ?_, ?_⟩
  · rcases List.mem_append.mp hmem with hmem | hmem
    · exact h.placed other hmem
    · rw [List.mem_singleton.mp hmem]
      exact hplace
  · have hat : ofPlace place index measure entry = none := by
      unfold ofPlace
      rw [hnone]
      exact ite_self _
    rw [tally_append, hat, plus_none]
    exact h.each index account hget
  · rw [tally_append, hnone, plus_none]
    exact h.all

/-- An account and the total have grown by what one of its entries counts for. -/
theorem grows (h : Ledger place measure count accounts entries total) {entries' : List α} {entry : α}
    {old new : β} (hget : accounts[place entry]? = some old)
    (hcount : count new = plus (measure entry) (count old))
    (hplaced : ∀ other ∈ entries', place other < accounts.length)
    (heach : ∀ index, tally (ofPlace place index measure) entries' =
      plus (ofPlace place index measure entry) (tally (ofPlace place index measure) entries))
    (hall : tally measure entries' = plus (measure entry) (tally measure entries)) :
    Ledger place measure count (accounts.set (place entry) new) entries' (plus (measure entry) total) := by
  refine ⟨fun other hmem => ?_, fun index account hat => ?_, ?_⟩
  · rw [List.length_set]
    exact hplaced other hmem
  · rw [List.getElem?_set] at hat
    rw [heach]
    unfold ofPlace
    split at hat
    · next heq =>
      split at hat
      · cases hat
        rw [if_pos heq, hcount, ← heq]
        exact congrArg (plus _) (h.each _ old hget)
      · cases hat
    · next hne =>
      rw [if_neg hne, plus_none]
      exact h.each index account hat
  · rw [hall, h.all]

/-- An entry is added to its account. -/
theorem appends (h : Ledger place measure count accounts entries total) (entry : α) {old : β} (new : β)
    (hget : accounts[place entry]? = some old) (hcount : count new = plus (measure entry) (count old)) :
    Ledger place measure count (accounts.set (place entry) new) (entries ++ [entry])
      (plus (measure entry) total) := by
  refine h.grows hget hcount (fun other hmem => ?_) (fun index => tally_append _ _ _) (tally_append _ _ _)
  rcases List.mem_append.mp hmem with hmem | hmem
  · exact h.placed other hmem
  · rw [List.mem_singleton.mp hmem]
    exact (List.getElem?_eq_some_iff.mp hget).1

/-- An entry that did not count is replaced by one that may. -/
theorem settles (h : Ledger place measure count accounts entries total) {index : Nat} {entry : α}
    (hentry : entries[index]? = some entry) (hnone : measure entry = none) (entry' : α)
    (hplace : place entry' = place entry) {old : β} (new : β) (hget : accounts[place entry']? = some old)
    (hcount : count new = plus (measure entry') (count old)) :
    Ledger place measure count (accounts.set (place entry') new) (entries.set index entry')
      (plus (measure entry') total) := by
  refine h.grows hget hcount (fun other hmem => ?_) (fun other => ?_) (tally_set _ hentry hnone)
  · rcases List.mem_or_eq_of_mem_set hmem with hmem | rfl
    · exact h.placed other hmem
    · exact (List.getElem?_eq_some_iff.mp hget).1
  · refine tally_set _ hentry ?_
    unfold ofPlace
    rw [hnone]
    exact ite_self _

/-- An entry is replaced by one that counts the same. -/
theorem amends (h : Ledger place measure count accounts entries total) {index : Nat} {entry entry' : α}
    (hentry : entries[index]? = some entry) (hsame : measure entry' = measure entry)
    (hplace : place entry' = place entry) :
    Ledger place measure count accounts (entries.set index entry') total := by
  refine ⟨fun other hmem => ?_, fun other account hat => ?_, ?_⟩
  · rcases List.mem_or_eq_of_mem_set hmem with hmem | rfl
    · exact h.placed other hmem
    · rw [hplace]
      exact h.placed entry (List.mem_of_getElem? hentry)
  · rw [tally_set_same _ hentry]
    · exact h.each other account hat
    · unfold ofPlace
      rw [hplace, hsame]
  · rw [tally_set_same _ hentry hsame]
    exact h.all

end Ledger

end Tally
