import Mathlib.Data.List.Basic

/-!
# Computations that read a buffer

A computation returns or throws, and the positions it read are part of it.  `Safe`
is its specification: which positions it may read, what it may return, and what it
may throw.
-/

universe u v

structure Reading (ε : Type u) (α : Type v) where
  reads : List Nat
  result : Except ε α

namespace Reading

variable {ε : Type u} {α β : Type v}

def bind (x : Reading ε α) (f : α → Reading ε β) : Reading ε β :=
  match x.result with
  | .ok a => ⟨x.reads ++ (f a).reads, (f a).result⟩
  | .error e => ⟨x.reads, .error e⟩

instance : Monad (Reading ε) where
  pure a := ⟨[], .ok a⟩
  bind := bind

def fail (e : ε) : Reading ε α := ⟨[], .error e⟩

@[simp] theorem result_pure (a : α) : (pure a : Reading ε α).result = .ok a := rfl

theorem result_bind {x : Reading ε α} {a : α} (h : x.result = .ok a) (f : α → Reading ε β) :
    (x >>= f).result = (f a).result := by
  show (bind x f).result = _
  unfold bind
  rw [h]

/-- Reads below `n` only; a result has `P` and an error has `E`. -/
structure Safe (n : Nat) (E : ε → Prop) (P : α → Prop) (x : Reading ε α) : Prop where
  reads : ∀ i ∈ x.reads, i < n
  ok : ∀ a, x.result = .ok a → P a
  error : ∀ e, x.result = .error e → E e

variable {n : Nat} {E : ε → Prop}

theorem safe_pure {P : α → Prop} {a : α} (h : P a) : Safe n E P (pure a) where
  reads := fun _ hi => absurd hi List.not_mem_nil
  ok := by
    intro b hb
    cases hb
    exact h
  error := by
    intro e he
    cases he

theorem safe_fail {P : α → Prop} {e : ε} (h : E e) : Safe n E P (fail e) where
  reads := fun _ hi => absurd hi List.not_mem_nil
  ok := by
    intro b hb
    cases hb
  error := by
    intro e he
    cases he
    exact h

theorem Safe.bind {P : α → Prop} {Q : β → Prop} {x : Reading ε α} {f : α → Reading ε β}
    (hx : Safe n E P x) (hf : ∀ a, P a → Safe n E Q (f a)) : Safe n E Q (x >>= f) := by
  show Safe n E Q (Reading.bind x f)
  unfold Reading.bind
  cases hresult : x.result with
  | error e =>
    refine ⟨hx.reads, ?_, ?_⟩
    · intro b hb
      cases hb
    · intro e' he'
      cases he'
      exact hx.error e hresult
  | ok a =>
    have hfa := hf a (hx.ok a hresult)
    refine ⟨?_, hfa.ok, hfa.error⟩
    intro i hi
    rcases List.mem_append.mp hi with hi | hi
    · exact hx.reads i hi
    · exact hfa.reads i hi

/-- A safe computation returns or throws as specified. -/
theorem Safe.cases {P : α → Prop} {x : Reading ε α} (h : Safe n E P x) :
    (∃ a, x.result = .ok a ∧ P a) ∨ (∃ e, x.result = .error e ∧ E e) := by
  cases hresult : x.result with
  | ok a => exact .inl ⟨a, rfl, h.ok a hresult⟩
  | error e => exact .inr ⟨e, rfl, h.error e hresult⟩

end Reading
