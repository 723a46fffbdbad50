import Mathlib.Data.List.Basic

/-!
# Values read with complaints

A reader goes on after a complaint, so that all of them are reported at once; a result
counts only when there are none.
-/

universe u v

structure Checked (α : Type u) where
  value : α
  errors : List String

namespace Checked

instance : Monad Checked where
  pure a := ⟨a, []⟩
  bind x f := ⟨(f x.value).value, x.errors ++ (f x.value).errors⟩

/-- `errors.push(error)` -/
def push (error : String) : Checked PUnit := ⟨⟨⟩, [error]⟩

/-- `if (bad) errors.push(error)` -/
def pushIf (bad : Bool) (error : String) : Checked PUnit := if bad then push error else pure ⟨⟩

/-- Nothing was complained about. -/
def Clean {α : Type u} (x : Checked α) : Prop := x.errors = []

instance {α : Type u} (x : Checked α) : Decidable x.Clean :=
  inferInstanceAs (Decidable (x.errors = []))

section Readers

variable {α β : Type u}

@[simp] theorem value_pure (a : α) : (pure a : Checked α).value = a := rfl

@[simp] theorem clean_pure (a : α) : (pure a : Checked α).Clean := rfl

@[simp] theorem not_clean_push (error : String) : ¬ (push error : Checked PUnit.{u + 1}).Clean := by
  intro h
  cases h

@[simp] theorem clean_pushIf (bad : Bool) (error : String) :
    (pushIf bad error : Checked PUnit.{u + 1}).Clean ↔ bad = false := by
  unfold pushIf
  cases bad
  · simp
  · simp

@[simp] theorem value_bind (x : Checked α) (f : α → Checked β) :
    (x >>= f).value = (f x.value).value := rfl

@[simp] theorem clean_bind (x : Checked α) (f : α → Checked β) :
    (x >>= f).Clean ↔ x.Clean ∧ (f x.value).Clean := List.append_eq_nil_iff

theorem eq_pure_of_clean {x : Checked α} (h : x.Clean) : x = pure x.value := by
  cases x
  cases h
  rfl

end Readers

section Laws

variable {α β γ : Type u}

theorem pure_bind (a : α) (f : α → Checked β) : (pure a >>= f) = f a :=
  congrArg (Checked.mk (f a).value) (List.nil_append (f a).errors)

theorem bind_pure (x : Checked α) : x >>= pure = x :=
  congrArg (Checked.mk x.value) (List.append_nil x.errors)

theorem bind_assoc (x : Checked α) (f : α → Checked β) (g : β → Checked γ) :
    (x >>= f) >>= g = x >>= fun a => f a >>= g :=
  congrArg (Checked.mk (g (f x.value).value).value)
    (List.append_assoc x.errors (f x.value).errors (g (f x.value).value).errors)

end Laws

section Lists

variable {α : Type v} {β : Type u}

/-- What is read of each item, and of the place it stands at. -/
def collectFrom (f : Nat → α → Checked (List β)) : Nat → List α → Checked (List β)
  | _, [] => pure []
  | index, item :: items => do
    let first ← f index item
    let rest ← collectFrom f (index + 1) items
    pure (first ++ rest)

/-- `items.forEach((item, index) => …)`, with what it adds to the output. -/
def collect (f : Nat → α → Checked (List β)) (items : List α) : Checked (List β) :=
  collectFrom f 0 items

theorem collectFrom_clean (f : Nat → α → Checked (List β)) (index : Nat) (items : List α)
    (h : (collectFrom f index items).Clean) : ∀ item ∈ items, ∃ i, (f i item).Clean := by
  induction items generalizing index with
  | nil =>
    intro item hmem
    cases hmem
  | cons item items ih =>
    rw [collectFrom, clean_bind, clean_bind] at h
    obtain ⟨hfirst, hrest, -⟩ := h
    intro other hmem
    rcases List.mem_cons.mp hmem with rfl | hmem
    · exact ⟨index, hfirst⟩
    · exact ih (index + 1) hrest other hmem

theorem mem_collectFrom (f : Nat → α → Checked (List β)) (index : Nat) (items : List α)
    (h : (collectFrom f index items).Clean) {b : β} (hb : b ∈ (collectFrom f index items).value) :
    ∃ i, ∃ item ∈ items, (f i item).Clean ∧ b ∈ (f i item).value := by
  induction items generalizing index with
  | nil => cases hb
  | cons item items ih =>
    rw [collectFrom, clean_bind, clean_bind] at h
    obtain ⟨hfirst, hrest, -⟩ := h
    rw [collectFrom, value_bind, value_bind, value_pure, List.mem_append] at hb
    rcases hb with hb | hb
    · exact ⟨index, item, List.mem_cons_self, hfirst, hb⟩
    · obtain ⟨i, other, hmem, hclean, hvalue⟩ := ih (index + 1) hrest hb
      exact ⟨i, other, List.mem_cons_of_mem _ hmem, hclean, hvalue⟩

theorem value_collectFrom (f : Nat → α → Checked (List β)) (g : α → List β)
    (hf : ∀ i item, (f i item).Clean → (f i item).value = g item) (index : Nat) (items : List α)
    (h : (collectFrom f index items).Clean) :
    (collectFrom f index items).value = items.flatMap g := by
  induction items generalizing index with
  | nil => rfl
  | cons item items ih =>
    rw [collectFrom, clean_bind, clean_bind] at h
    obtain ⟨hfirst, hrest, -⟩ := h
    rw [collectFrom, value_bind, value_bind, value_pure, hf index item hfirst,
      ih (index + 1) hrest, List.flatMap_cons]

theorem collectFrom_of_pure {f : Nat → α → Checked (List β)} {g : α → List β} (index : Nat)
    {items : List α} (h : ∀ i, ∀ item ∈ items, f i item = pure (g item)) :
    collectFrom f index items = pure (items.flatMap g) := by
  induction items generalizing index with
  | nil => rfl
  | cons item items ih =>
    rw [collectFrom, h index item List.mem_cons_self,
      ih (index + 1) fun i other hmem => h i other (List.mem_cons_of_mem _ hmem)]
    rfl

theorem collectFrom_append (f : Nat → α → Checked (List β)) (index : Nat) (items more : List α) :
    collectFrom f index (items ++ more) = (do
      let first ← collectFrom f index items
      let rest ← collectFrom f (index + items.length) more
      pure (first ++ rest)) := by
  induction items generalizing index with
  | nil => exact (bind_pure _).symm
  | cons item items ih =>
    rw [List.cons_append, collectFrom, ih, collectFrom, List.length_cons,
      show index + (items.length + 1) = index + 1 + items.length by omega]
    simp only [bind_assoc, pure_bind, List.append_assoc]

/-- Items that are read without a complaint, wherever they stand. -/
theorem collect_of_pure {f : Nat → α → Checked (List β)} {g : α → List β} {items : List α}
    (h : ∀ i, ∀ item ∈ items, f i item = pure (g item)) : collect f items = pure (items.flatMap g) :=
  collectFrom_of_pure 0 h

/-- Items after which come some that are read without a complaint. -/
theorem collect_append_of_pure (f : Nat → α → Checked (List β)) {g : α → List β} (items : List α)
    {more : List α} (h : ∀ i, ∀ item ∈ more, f i item = pure (g item)) :
    collect f (items ++ more) = (do
      let first ← collect f items
      pure (first ++ more.flatMap g)) := by
  unfold collect
  rw [collectFrom_append, collectFrom_of_pure _ h]
  rfl

/-- Without a complaint every item was read without one. -/
theorem collect_clean {f : Nat → α → Checked (List β)} {items : List α}
    (h : (collect f items).Clean) : ∀ item ∈ items, ∃ i, (f i item).Clean :=
  collectFrom_clean f 0 items h

/-- What was read came from an item that was read without a complaint. -/
theorem mem_collect {f : Nat → α → Checked (List β)} {items : List α}
    (h : (collect f items).Clean) {b : β} (hb : b ∈ (collect f items).value) :
    ∃ i, ∃ item ∈ items, (f i item).Clean ∧ b ∈ (f i item).value :=
  mem_collectFrom f 0 items h hb

/-- What was read without a complaint does not depend on the places. -/
theorem value_collect {f : Nat → α → Checked (List β)} {g : α → List β} {items : List α}
    (hf : ∀ i item, (f i item).Clean → (f i item).value = g item) (h : (collect f items).Clean) :
    (collect f items).value = items.flatMap g :=
  value_collectFrom f g hf 0 items h

end Lists

end Checked

/-- A loop of checks passes if each of them does. -/
theorem Except.forM_ok {α ε : Type} {f : α → Except ε Unit} (items : List α)
    (h : ∀ item ∈ items, f item = .ok ()) : items.forM f = .ok () := by
  induction items with
  | nil => rfl
  | cons item items ih =>
    show (f item >>= fun _ => items.forM f) = .ok ()
    rw [h item List.mem_cons_self]
    exact ih fun other hmem => h other (List.mem_cons_of_mem _ hmem)
