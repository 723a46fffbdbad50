import Mathlib.Data.List.Basic

/-!
# Dialogues

Programs that read exact numbers of items from a reader, write replies and may fail; the
replies written before a failure stay written.  `Simulates` compares the same program over
two readers: it is kept by every way to build programs, so two readers that answer alike
lead to the same replies and the same result.
-/

/-- A reader that hands out exact numbers of items. -/
class ReadExact (ρ : Type) (ε : outParam Type) (β : outParam Type) where
  readExact : ρ → Nat → Except ε (List β × ρ)

/-- From a reader: the replies, and a value with the reader after it or an error. -/
def Dialogue (ρ ω ε α : Type) : Type := ρ → List ω × Except ε (α × ρ)

namespace Dialogue

variable {ρ ρ' ω ε α α' β : Type}

protected def pure (a : α) : Dialogue ρ ω ε α := fun r => ([], .ok (a, r))

protected def bind (x : Dialogue ρ ω ε α) (f : α → Dialogue ρ ω ε α') : Dialogue ρ ω ε α' := fun r =>
  match x r with
  | (replies, .error error) => (replies, .error error)
  | (replies, .ok (a, r)) =>
    match f a r with
    | (more, result) => (replies ++ more, result)

instance : Monad (Dialogue ρ ω ε) where
  pure := Dialogue.pure
  bind := Dialogue.bind

def fail (error : ε) : Dialogue ρ ω ε α := fun _ => ([], .error error)

/-- `sent` tells whether the write of a reply succeeds. -/
def reply (sent : ω → Except ε Unit) (data : ω) : Dialogue ρ ω ε Unit := fun r =>
  ([data], (sent data).map fun _ => ((), r))

def read [ReadExact ρ ε β] (n : Nat) : Dialogue ρ ω ε (List β) := fun r =>
  ([], ReadExact.readExact r n)

/-! ## Success -/

/-- The dialogue ends well with a value and a reader. -/
def Succeeds (x : Dialogue ρ ω ε α) (r : ρ) (a : α) (r' : ρ) : Prop := (x r).2 = .ok (a, r')

theorem succeeds_pure {a b : α} {r r' : ρ} (h : Succeeds (pure a : Dialogue ρ ω ε α) r b r') :
    b = a ∧ r' = r := by
  cases h
  exact ⟨rfl, rfl⟩

theorem not_succeeds_fail {error : ε} {a : α} {r r' : ρ} :
    ¬ Succeeds (fail error : Dialogue ρ ω ε α) r a r' := by
  intro h
  cases h

theorem succeeds_reply {sent : ω → Except ε Unit} {data : ω} {a : Unit} {r r' : ρ}
    (h : Succeeds (reply sent data) r a r') : r' = r := by
  unfold Succeeds reply at h
  cases hsent : sent data with
  | error error =>
    rw [hsent] at h
    cases h
  | ok _ =>
    rw [hsent] at h
    cases h
    rfl

/-- A sequence that succeeds succeeds in both parts. -/
theorem succeeds_bind {x : Dialogue ρ ω ε α} {f : α → Dialogue ρ ω ε α'} {b : α'} {r r' : ρ}
    (h : Succeeds (x >>= f) r b r') : ∃ a s, Succeeds x r a s ∧ Succeeds (f a) s b r' := by
  have hbind : (Dialogue.bind x f r).2 = .ok (b, r') := h
  unfold Dialogue.bind at hbind
  rcases hx : x r with ⟨replies, result⟩
  rw [hx] at hbind
  cases result with
  | error error => cases hbind
  | ok result =>
    obtain ⟨a, s⟩ := result
    exact ⟨a, s, by rw [Succeeds, hx], hbind⟩

/-- Both parts one after the other. -/
theorem Succeeds.bind {x : Dialogue ρ ω ε α} {f : α → Dialogue ρ ω ε α'} {a : α} {b : α'} {r s r' : ρ}
    (hx : Succeeds x r a s) (hf : Succeeds (f a) s b r') : Succeeds (x >>= f) r b r' := by
  show (Dialogue.bind x f r).2 = .ok (b, r')
  unfold Dialogue.bind
  rcases hxr : x r with ⟨replies, result⟩
  have hresult : result = .ok (a, s) := by
    unfold Succeeds at hx
    rw [hxr] at hx
    exact hx
  subst hresult
  exact hf

/-! ## Simulation -/

/-- The same replies, and the same value with related readers or the same error. -/
inductive Agree (R : ρ → ρ' → Prop) : List ω × Except ε (α × ρ) → List ω × Except ε (α × ρ') → Prop
  | error (replies : List ω) (error : ε) : Agree R (replies, .error error) (replies, .error error)
  | ok (replies : List ω) (a : α) {r : ρ} {r' : ρ'} (h : R r r') :
      Agree R (replies, .ok (a, r)) (replies, .ok (a, r'))

def Simulates (R : ρ → ρ' → Prop) (x : Dialogue ρ ω ε α) (y : Dialogue ρ' ω ε α) : Prop :=
  ∀ r r', R r r' → Agree R (x r) (y r')

section Simulates

variable {R : ρ → ρ' → Prop}

theorem simulates_pure (a : α) :
    Simulates R (pure a : Dialogue ρ ω ε α) (pure a : Dialogue ρ' ω ε α) :=
  fun _ _ h => .ok [] a h

theorem simulates_fail (error : ε) :
    Simulates R (fail error : Dialogue ρ ω ε α) (fail error : Dialogue ρ' ω ε α) :=
  fun _ _ _ => .error [] error

theorem simulates_reply (sent : ω → Except ε Unit) (data : ω) :
    Simulates R (reply sent data) (reply sent data) := by
  intro r r' h
  unfold reply
  cases sent data with
  | error error => exact .error [data] error
  | ok _ => exact .ok [data] () h

theorem simulates_bind {x : Dialogue ρ ω ε α} {y : Dialogue ρ' ω ε α} {f : α → Dialogue ρ ω ε α'}
    {g : α → Dialogue ρ' ω ε α'} (hx : Simulates R x y) (hf : ∀ a, Simulates R (f a) (g a)) :
    Simulates R (x >>= f) (y >>= g) := by
  intro r r' h
  show Agree R (Dialogue.bind x f r) (Dialogue.bind y g r')
  unfold Dialogue.bind
  have hagree := hx r r' h
  rcases hxr : x r with ⟨replies, result⟩
  rcases hyr : y r' with ⟨replies', result'⟩
  rw [hxr, hyr] at hagree
  cases hagree with
  | error _ error => exact .error replies error
  | ok _ a hs =>
    simp only []
    have hnext := hf a _ _ hs
    rename_i s s'
    rcases hfs : f a s with ⟨more, result⟩
    rcases hgs : g a s' with ⟨more', result'⟩
    rw [hfs, hgs] at hnext
    cases hnext with
    | error _ error => exact .error _ error
    | ok _ b ht => exact .ok _ b ht

theorem simulates_read [ReadExact ρ ε β] [ReadExact ρ' ε β]
    (hread : ∀ (r : ρ) (r' : ρ') n, R r r' →
      Agree R (([] : List ω), ReadExact.readExact r n) ([], ReadExact.readExact r' n)) (n : Nat) :
    Simulates R (read n : Dialogue ρ ω ε (List β)) (read n : Dialogue ρ' ω ε (List β)) :=
  fun r r' h => hread r r' n h

end Simulates

end Dialogue
