import Mathlib.Data.List.Dedup
import Mathlib.Data.List.Induction
import Mathlib.Data.List.Perm.Subperm
import Sepigs.Lib.JsMap

/-!
# Maps made from a list

Items are written under a key of theirs, one after the other, so the last one of a key
wins.  Two maps made from one list by two keys are inverse to each other exactly when the
items that win in one also win in the other.
-/

universe u v

namespace JsMap

variable {α : Type v} {κ : Type u} [DecidableEq κ]

def indexBy (key : α → κ) (items : List α) : JsMap κ α :=
  items.foldl (fun m a => m.set (key a) a) ∅

/-- No later item has the key of this one. -/
def LastOf (key : α → κ) (a : α) (later : List α) : Prop := ∀ b ∈ later, key b ≠ key a

instance (key : α → κ) (a : α) (later : List α) : Decidable (LastOf key a later) :=
  inferInstanceAs (Decidable (∀ b ∈ later, _))

variable {key : α → κ} {items : List α}

theorem indexBy_append_singleton (items : List α) (a : α) :
    indexBy key (items ++ [a]) = (indexBy key items).set (key a) a := by
  unfold indexBy
  rw [List.foldl_append]
  rfl

theorem mem_keys_indexBy (k : κ) : k ∈ (indexBy key items).keys ↔ k ∈ items.map key := by
  induction items using List.reverseRecOn with
  | nil => exact Iff.rfl
  | append_singleton items a ih =>
    rw [indexBy_append_singleton, mem_keys_set, ih, List.map_append, List.mem_append, List.map_singleton,
      List.mem_singleton, or_comm]

/-- The item of a key is the last that has it. -/
theorem get_indexBy_eq_some_iff (k : κ) (a : α) : (indexBy key items).get k = some a ↔
    key a = k ∧ ∃ before later, items = before ++ a :: later ∧ LastOf key a later := by
  induction items using List.reverseRecOn with
  | nil =>
    constructor
    · intro h
      cases h
    · rintro ⟨-, before, later, h, -⟩
      simp at h
  | append_singleton items last ih =>
    rw [indexBy_append_singleton, get_set]
    constructor
    · intro h
      split at h
      · next hk =>
        cases h
        exact ⟨hk.symm, items, [], rfl, by simp [LastOf]⟩
      · next hk =>
        obtain ⟨hkey, before, later, rfl, hlast⟩ := ih.mp h
        refine ⟨hkey, before, later ++ [last], by simp, ?_⟩
        intro b hb
        rcases List.mem_append.mp hb with hb | hb
        · exact hlast b hb
        · rw [List.mem_singleton.mp hb, hkey]
          exact fun heq => hk heq.symm
    · rintro ⟨hkey, before, later, heq, hlast⟩
      by_cases hnil : later = []
      · subst hnil
        obtain ⟨-, heq⟩ := List.append_inj' heq rfl
        cases heq
        rw [if_pos hkey.symm]
      · obtain ⟨later', c, rfl⟩ := List.eq_nil_or_concat later |>.resolve_left hnil
        rw [List.concat_eq_append] at hlast heq
        rw [← List.cons_append, ← List.append_assoc] at heq
        obtain ⟨rfl, hc⟩ := List.append_inj' heq rfl
        cases hc
        rw [if_neg]
        · refine ih.mpr ⟨hkey, before, later', rfl, fun b hb => hlast b ?_⟩
          exact List.mem_append_left _ hb
        · rw [← hkey]
          exact Ne.symm (hlast last (List.mem_append_right _ List.mem_cons_self))

theorem size_indexBy : (indexBy key items).size = (items.map key).dedup.length := by
  have hperm : (indexBy key items).keys.Perm (items.map key).dedup := by
    refine (List.perm_ext_iff_of_nodup (indexBy key items).nodup (List.nodup_dedup _)).mpr fun k => ?_
    rw [List.mem_dedup]
    exact mem_keys_indexBy k
  rw [← length_keys]
  exact hperm.length_eq

/-- With distinct keys the entries are the items, in their order. -/
theorem entries_indexBy (h : (items.map key).Nodup) :
    (indexBy key items).entries = items.map fun a => (key a, a) := by
  induction items using List.reverseRecOn with
  | nil => rfl
  | append_singleton items a ih =>
    rw [List.map_append, List.nodup_append] at h
    have hout : key a ∉ (indexBy key items).keys := by
      rw [mem_keys_indexBy]
      exact fun hmem => h.2.2 _ hmem _ List.mem_cons_self rfl
    rw [indexBy_append_singleton, entries_set_of_notMem _ _ hout, ih h.1, List.map_append]
    rfl

/-! ## Two keys -/

section Inverse

variable {κ' : Type u} [DecidableEq κ'] {key' : α → κ'}

/-- An item that wins by one key and has the value of the other leads back to itself. -/
theorem lastOf_of_inverse (h : ∀ k k', (∃ a, (indexBy key items).get k = some a ∧ key' a = k') →
      ∃ a, (indexBy key' items).get k' = some a ∧ key a = k)
    {before later : List α} {a : α} (hitems : items = before ++ a :: later) (hlast : LastOf key a later) :
    LastOf key' a later := by
  have hget := (get_indexBy_eq_some_iff (key a) a).mpr ⟨rfl, before, later, hitems, hlast⟩
  obtain ⟨b, hb, hkey⟩ := h _ _ ⟨a, hget, rfl⟩
  obtain ⟨hkey', before', later', hitems', hlast'⟩ := (get_indexBy_eq_some_iff (key' a) b).mp hb
  rw [hitems] at hitems'
  rcases List.append_eq_append_iff.mp hitems' with ⟨middle, rfl, hrest⟩ | ⟨middle, rfl, hrest⟩
  · cases middle with
    | nil =>
      cases hrest
      exact hlast'
    | cons c middle =>
      cases hrest
      exact absurd hkey (hlast b (List.mem_append_right _ List.mem_cons_self))
  · cases middle with
    | nil =>
      cases hrest
      exact hlast'
    | cons c middle =>
      cases hrest
      exact absurd hkey'.symm (hlast' a (List.mem_append_right _ List.mem_cons_self))

theorem inverse_of_lastOf (h : ∀ before a later, items = before ++ a :: later → LastOf key a later →
      LastOf key' a later) (k : κ) (k' : κ') :
    (∃ a, (indexBy key items).get k = some a ∧ key' a = k') →
      ∃ a, (indexBy key' items).get k' = some a ∧ key a = k := by
  rintro ⟨a, hget, hkey'⟩
  obtain ⟨hkey, before, later, hitems, hlast⟩ := (get_indexBy_eq_some_iff k a).mp hget
  exact ⟨a, (get_indexBy_eq_some_iff k' a).mpr
    ⟨hkey', before, later, hitems, h before a later hitems hlast⟩, hkey⟩

/-- **The two maps are inverse exactly when the same items win in both.** -/
theorem inverse_indexBy_iff :
    (∀ k k', (∃ a, (indexBy key items).get k = some a ∧ key' a = k') ↔
        ∃ a, (indexBy key' items).get k' = some a ∧ key a = k) ↔
      ∀ before a later, items = before ++ a :: later → (LastOf key a later ↔ LastOf key' a later) := by
  constructor
  · intro h before a later hitems
    constructor
    · exact lastOf_of_inverse (fun k k' => (h k k').mp) hitems
    · exact lastOf_of_inverse (fun k' k => (h k k').mpr) hitems
  · intro h k k'
    constructor
    · exact inverse_of_lastOf (fun before a later hitems => (h before a later hitems).mp) k k'
    · exact inverse_of_lastOf (fun before a later hitems => (h before a later hitems).mpr) k' k

/-- A map that leads back to keys of another is no larger. -/
theorem size_le_of_inverse {m : JsMap κ α} {m' : JsMap κ' α}
    (h : ∀ k k', (∃ a, m'.get k' = some a ∧ key a = k) → ∃ a, m.get k = some a ∧ key' a = k') :
    m'.size ≤ m.size := by
  have hback : ∀ entry ∈ m'.entries, ∃ a, m.get (key entry.2) = some a ∧ key' a = entry.1 :=
    fun entry hentry => h _ _ ⟨entry.2, (m'.get_eq_some_iff _ _).mpr hentry, rfl⟩
  have hnodup : (m'.entries.map fun entry => key entry.2).Nodup := by
    refine List.Nodup.map_on ?_ (List.Nodup.of_map _ m'.nodup)
    intro entry hentry other hother heq
    obtain ⟨a, ha, hkey⟩ := hback entry hentry
    obtain ⟨b, hb, hkey'⟩ := hback other hother
    rw [heq, hb] at ha
    cases ha
    exact List.inj_on_of_nodup_map m'.nodup hentry hother (hkey.symm.trans hkey')
  have hsubset : (m'.entries.map fun entry => key entry.2) ⊆ m.keys := by
    intro k hk
    obtain ⟨entry, hentry, rfl⟩ := List.mem_map.mp hk
    obtain ⟨a, ha, -⟩ := hback entry hentry
    exact List.mem_map.mpr ⟨_, (m.get_eq_some_iff _ _).mp ha, rfl⟩
  have hle := (List.subperm_of_subset hnodup hsubset).length_le
  rwa [List.length_map, length_keys] at hle

end Inverse

end JsMap
