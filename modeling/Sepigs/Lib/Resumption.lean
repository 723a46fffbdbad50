import Mathlib.Logic.Basic

/-!
# Resumptions and rely-guarantee preconditions

An asynchronous program is a tree of calls: it stops at each `call`, and goes on
with the reply.  Between two of its calls other parties may move.

* `run`: the program alone, against a handler that answers every call.
* `wp R E I p Q s`: from `s`, whatever the other parties do while the program awaits
  a call `i` (`R i`), and whatever the calls answer (`E i s r s'`: call `i` in `s` may
  answer `r` and leave `s'`), every state in which the program awaits `i` satisfies
  `I i`, and every end of the program satisfies `Q`.
* `wp_steps`: the precondition holds along every interleaving (`Steps`).
-/

/-- A program over the calls `ι`, the call `i` being answered by a `ρ i`. -/
inductive Resumption (ι : Type) (ρ : ι → Type) (α : Type) : Type
  | done (a : α)
  | call (i : ι) (k : ρ i → Resumption ι ρ α)

namespace Resumption

variable {ι : Type} {ρ : ι → Type} {α β γ σ : Type}

protected def bind : Resumption ι ρ α → (α → Resumption ι ρ β) → Resumption ι ρ β
  | done a, f => f a
  | call i k, f => call i fun r => (k r).bind f

instance : Monad (Resumption ι ρ) where
  pure := done
  bind := Resumption.bind

/-- The program that makes one call. -/
def perform (i : ι) : Resumption ι ρ (ρ i) :=
  call i done

@[simp] theorem pure_eq (a : α) : (pure a : Resumption ι ρ α) = done a := rfl

@[simp] theorem done_bind (a : α) (f : α → Resumption ι ρ β) : (done a >>= f) = f a := rfl

@[simp] theorem call_bind (i : ι) (k : ρ i → Resumption ι ρ α) (f : α → Resumption ι ρ β) :
    (call i k >>= f) = call i fun r => k r >>= f := rfl

/-- The same program over other calls. -/
def translate {ι' : Type} {ρ' : ι' → Type} (g : ι → ι') (h : (i : ι) → ρ' (g i) → ρ i) :
    Resumption ι ρ α → Resumption ι' ρ' α
  | done a => done a
  | call i k => call (g i) fun r => (k (h i r)).translate g h

/-! ## The program alone -/

/-- The result and the last state, when `answer` answers every call. -/
def run (answer : (i : ι) → σ → ρ i × σ) : Resumption ι ρ α → σ → α × σ
  | done a, s => (a, s)
  | call i k, s => (k (answer i s).1).run answer (answer i s).2

theorem run_bind (answer : (i : ι) → σ → ρ i × σ) (p : Resumption ι ρ α)
    (f : α → Resumption ι ρ β) (s : σ) :
    (p >>= f).run answer s = (f (p.run answer s).1).run answer (p.run answer s).2 := by
  induction p generalizing s with
  | done a => rfl
  | call i k ih => exact ih _ _

/-! ## Rely-guarantee preconditions -/

/-- The call a program awaits. -/
def awaited : Resumption ι ρ α → Option ι
  | done _ => none
  | call i _ => some i

section Wp

variable (R : ι → σ → σ → Prop) (E : (i : ι) → σ → ρ i → σ → Prop) (I : ι → σ → Prop)

def wp : Resumption ι ρ α → (α → σ → Prop) → σ → Prop
  | done a, Q, s => Q a s
  | call i k, Q, s => ∀ s', R i s s' → I i s' ∧ ∀ r s'', E i s' r s'' → (k r).wp Q s''

variable {R E I}

theorem wp_mono {Q Q' : α → σ → Prop} (h : ∀ a s, Q a s → Q' a s) {p : Resumption ι ρ α} {s : σ}
    (hp : wp R E I p Q s) : wp R E I p Q' s := by
  induction p generalizing s with
  | done a => exact h a s hp
  | call i k ih => exact fun s' hs => ⟨(hp s' hs).1, fun r s'' he => ih r ((hp s' hs).2 r s'' he)⟩

/-- What is watched may say less. -/
theorem wp_watch {I' : ι → σ → Prop} (h : ∀ i s, I i s → I' i s) {p : Resumption ι ρ α}
    {Q : α → σ → Prop} {s : σ} (hp : wp R E I p Q s) : wp R E I' p Q s := by
  induction p generalizing s with
  | done a => exact hp
  | call i k ih =>
    exact fun s' hs => ⟨h i s' (hp s' hs).1, fun r s'' he => ih r ((hp s' hs).2 r s'' he)⟩

/-- **Sequencing.** -/
theorem wp_bind {p : Resumption ι ρ α} {f : α → Resumption ι ρ β} {Q : β → σ → Prop} {s : σ}
    (h : wp R E I p (fun a => wp R E I (f a) Q) s) : wp R E I (p >>= f) Q s := by
  induction p generalizing s with
  | done a => exact h
  | call i k ih => exact fun s' hs => ⟨(h s' hs).1, fun r s'' he => ih r ((h s' hs).2 r s'' he)⟩

/-- **Stability.**  While the program awaits a call, the others keep its precondition. -/
theorem wp_rely (htrans : ∀ i s t u, R i s t → R i t u → R i s u) {i : ι}
    {k : ρ i → Resumption ι ρ α} {Q : α → σ → Prop} {s t : σ} (hr : R i s t)
    (h : wp R E I (call i k) Q s) : wp R E I (call i k) Q t :=
  fun u hu => h u (htrans i s t u hr hu)

/-- **Preservation.**  A call of the program leads to the precondition of the rest. -/
theorem wp_call (hrefl : ∀ i s, R i s s) {i : ι} {k : ρ i → Resumption ι ρ α} {Q : α → σ → Prop}
    {s s' : σ} {r : ρ i} (h : wp R E I (call i k) Q s) (he : E i s r s') : wp R E I (k r) Q s' :=
  (h s (hrefl i s)).2 r s' he

theorem wp_invariant (hrefl : ∀ i s, R i s s) {p : Resumption ι ρ α} {Q : α → σ → Prop} {s : σ}
    (h : wp R E I p Q s) {i : ι} (hi : p.awaited = some i) : I i s := by
  cases p with
  | done a => cases hi
  | call j k =>
    obtain rfl : j = i := Option.some.inj hi
    exact (h s (hrefl j s)).1

/-- The precondition of a translated program, call by call. -/
theorem wp_translate {ι' : Type} {ρ' : ι' → Type} {R' : ι' → σ → σ → Prop}
    {E' : (i : ι') → σ → ρ' i → σ → Prop} {I' : ι' → σ → Prop} {g : ι → ι'}
    {h : (i : ι) → ρ' (g i) → ρ i} {p : Resumption ι ρ α} {Q : α → σ → Prop} {s : σ}
    (hR : ∀ i s s', R' (g i) s s' → R i s s') (hE : ∀ i s r s', E' (g i) s r s' → E i s (h i r) s')
    (hI : ∀ i s, I i s → I' (g i) s) (hp : wp R E I p Q s) : wp R' E' I' (p.translate g h) Q s := by
  induction p generalizing s with
  | done a => exact hp
  | call i k ih =>
    exact fun s' hs => ⟨hI i s' (hp s' (hR i s s' hs)).1,
      fun r s'' he => ih _ ((hp s' (hR i s s' hs)).2 _ _ (hE i s' r s'' he))⟩

end Wp

/-! ## Interleavings -/

/-- The program and the others taking steps in any order; `R` is what the others may
do while the program awaits a call, and when it has ended. -/
inductive Steps (R : Option ι → σ → σ → Prop) (E : (i : ι) → σ → ρ i → σ → Prop) :
    Resumption ι ρ α → σ → Resumption ι ρ α → σ → Prop
  | refl (p : Resumption ι ρ α) (s : σ) : Steps R E p s p s
  | other {p q : Resumption ι ρ α} {s s' t : σ} (hr : R p.awaited s s') (h : Steps R E p s' q t) :
    Steps R E p s q t
  | call {i : ι} {k : ρ i → Resumption ι ρ α} {q : Resumption ι ρ α} {s s' t : σ} {r : ρ i}
    (he : E i s r s') (h : Steps R E (k r) s' q t) : Steps R E (.call i k) s q t

theorem Steps.mono {R R' : Option ι → σ → σ → Prop} {E : (i : ι) → σ → ρ i → σ → Prop}
    (h : ∀ i s t, R i s t → R' i s t) {p q : Resumption ι ρ α} {s t : σ} (hs : Steps R E p s q t) :
    Steps R' E p s q t := by
  induction hs with
  | refl p s => exact .refl p s
  | other hr _ ih => exact .other (h _ _ _ hr) ih
  | call he _ ih => exact .call he ih

/-- The same interleaving, with an account kept of the answers. -/
theorem Steps.account {β : Type} {R : Option ι → σ → σ → Prop} {E : (i : ι) → σ → ρ i → σ → Prop}
    (note : (i : ι) → β → ρ i → β) {p q : Resumption ι ρ α} {s t : σ} (hs : Steps R E p s q t)
    (b : β) : ∃ b', Steps (fun i x y => R i x.1 y.1 ∧ y.2 = x.2)
      (fun i x r y => E i x.1 r y.1 ∧ y.2 = note i x.2 r) p (s, b) q (t, b') := by
  induction hs generalizing b with
  | refl p s => exact ⟨b, .refl p (s, b)⟩
  | @other p q s s' t hr _ ih =>
    obtain ⟨b', h⟩ := ih b
    refine ⟨b', .other ?_ h⟩
    exact ⟨hr, rfl⟩
  | @call i k q s s' t r he _ ih =>
    obtain ⟨b', h⟩ := ih (note i b r)
    refine ⟨b', .call ?_ h⟩
    exact ⟨he, rfl⟩

/-- The same interleaving, of which only an image is seen. -/
theorem Steps.image {τ : Type} {R : Option ι → σ → σ → Prop} {E : (i : ι) → σ → ρ i → σ → Prop}
    {R' : Option ι → τ → τ → Prop} {E' : (i : ι) → τ → ρ i → τ → Prop} (f : σ → τ)
    (hR : ∀ i s t, R i s t → R' i (f s) (f t)) (hE : ∀ i s r t, E i s r t → E' i (f s) r (f t))
    {p q : Resumption ι ρ α} {s t : σ} (hs : Steps R E p s q t) : Steps R' E' p (f s) q (f t) := by
  induction hs with
  | refl p s => exact .refl p (f s)
  | other hr _ ih => exact .other (hR _ _ _ hr) ih
  | call he _ ih => exact .call (hE _ _ _ _ he) ih

/-- A run alone is an interleaving. -/
theorem steps_run (R : Option ι → σ → σ → Prop) {E : (i : ι) → σ → ρ i → σ → Prop}
    (answer : (i : ι) → σ → ρ i × σ) (hE : ∀ i s, E i s (answer i s).1 (answer i s).2)
    (p : Resumption ι ρ α) (s : σ) :
    Steps R E p s (.done (p.run answer s).1) (p.run answer s).2 := by
  induction p generalizing s with
  | done a => exact .refl _ _
  | call i k ih => exact .call (hE i s) (ih _ _)

section Steps

variable {R : Option ι → σ → σ → Prop} {E : (i : ι) → σ → ρ i → σ → Prop} {I : ι → σ → Prop}
  {p q : Resumption ι ρ α} {Q : α → σ → Prop} {s t : σ}

/-- A move of the others, with a postcondition they keep. -/
theorem wp_other (htrans : ∀ i s t u, R i s t → R i t u → R i s u)
    (hQ : ∀ a s t, R none s t → Q a s → Q a t) (h : wp (fun i => R (some i)) E I p Q s)
    (hr : R p.awaited s t) : wp (fun i => R (some i)) E I p Q t := by
  cases p with
  | done a => exact hQ a s t hr h
  | call i k => exact wp_rely (fun i => htrans (some i)) hr h

theorem wp_steps (hrefl : ∀ i s, R i s s) (htrans : ∀ i s t u, R i s t → R i t u → R i s u)
    (hQ : ∀ a s t, R none s t → Q a s → Q a t) (h : wp (fun i => R (some i)) E I p Q s)
    (hs : Steps R E p s q t) : wp (fun i => R (some i)) E I q Q t := by
  induction hs with
  | refl p s => exact h
  | other hr _ ih => exact ih (wp_other htrans hQ h hr)
  | call he _ ih => exact ih (wp_call (fun i => hrefl (some i)) h he)

end Steps

end Resumption
