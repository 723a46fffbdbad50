import Sepigs.Lib.Resumption

/-!
# Asynchronous methods

A method of an object reads and writes the fields of its object (`S`), awaits
calls of the outside world, and returns or throws.  The fields keep what was
written when the method throws.

The precondition of a method (`wp`) is that of its resumption; its
postcondition is about how the method ended, the fields and the world.
-/

/-- A method over the fields `S` that throws an `ε` or returns an `α`. -/
def AsyncMethod (ι : Type) (ρ : ι → Type) (S ε α : Type) : Type :=
  S → Resumption ι ρ (Except ε α × S)

namespace AsyncMethod

variable {ι : Type} {ρ : ι → Type} {S ε α β σ : Type}

protected def pure (a : α) : AsyncMethod ι ρ S ε α :=
  fun fields => .done (.ok a, fields)

protected def bind (p : AsyncMethod ι ρ S ε α) (f : α → AsyncMethod ι ρ S ε β) :
    AsyncMethod ι ρ S ε β :=
  fun fields => p fields >>= fun ended =>
    match ended with
    | (.ok a, fields) => f a fields
    | (.error e, fields) => .done (.error e, fields)

instance : Monad (AsyncMethod ι ρ S ε) where
  pure := AsyncMethod.pure
  bind := AsyncMethod.bind

def throw (e : ε) : AsyncMethod ι ρ S ε α :=
  fun fields => .done (.error e, fields)

def get : AsyncMethod ι ρ S ε S :=
  fun fields => .done (.ok fields, fields)

def modify (f : S → S) : AsyncMethod ι ρ S ε Unit :=
  fun fields => .done (.ok (), f fields)

/-- Awaiting one call. -/
def await (i : ι) : AsyncMethod ι ρ S ε (ρ i) :=
  fun fields => .call i fun r => .done (.ok r, fields)

/-- A promise that has settled. -/
def settle : Except ε α → AsyncMethod ι ρ S ε α
  | .ok a => pure a
  | .error e => throw e

/-- `try { p } catch (error) { handler(error) }` -/
def tryCatch (p : AsyncMethod ι ρ S ε α) (handler : ε → AsyncMethod ι ρ S ε α) :
    AsyncMethod ι ρ S ε α :=
  fun fields => p fields >>= fun ended =>
    match ended with
    | (.ok a, fields) => .done (.ok a, fields)
    | (.error e, fields) => handler e fields

/-- `try { p } finally { last }` -/
def tryFinally (p : AsyncMethod ι ρ S ε α) (last : AsyncMethod ι ρ S ε Unit) :
    AsyncMethod ι ρ S ε α :=
  fun fields => p fields >>= fun ended => (last >>= fun _ => settle ended.1) ended.2

theorem get_bind (f : S → AsyncMethod ι ρ S ε β) (fields : S) :
    (get >>= f) fields = f fields fields := rfl

theorem modify_bind (g : S → S) (f : Unit → AsyncMethod ι ρ S ε β) (fields : S) :
    (modify g >>= f) fields = f () (g fields) := rfl

theorem bind_of_ok {p : AsyncMethod ι ρ S ε α} {f : α → AsyncMethod ι ρ S ε β} {fields fields' : S}
    {a : α} (h : p fields = .done (.ok a, fields')) : (p >>= f) fields = f a fields' := by
  show (p fields >>= _) = _
  rw [h]
  rfl

theorem bind_of_error {p : AsyncMethod ι ρ S ε α} {f : α → AsyncMethod ι ρ S ε β}
    {fields fields' : S} {e : ε} (h : p fields = .done (.error e, fields')) :
    (p >>= f) fields = .done (.error e, fields') := by
  show (p fields >>= _) = _
  rw [h]
  rfl

/-! ## Runs -/

section Run

variable (answer : (i : ι) → σ → ρ i × σ) (fields : S) (s : σ)

/-- How the method ends alone: the result, the fields and the world. -/
def run (p : AsyncMethod ι ρ S ε α) (fields : S) (s : σ) : (Except ε α × S) × σ :=
  Resumption.run answer (p fields) s

@[simp] theorem run_pure (a : α) :
    run answer (pure a : AsyncMethod ι ρ S ε α) fields s = ((.ok a, fields), s) := rfl

@[simp] theorem run_throw (e : ε) :
    run answer (throw e : AsyncMethod ι ρ S ε α) fields s = ((.error e, fields), s) := rfl

@[simp] theorem run_get :
    run answer (get : AsyncMethod ι ρ S ε S) fields s = ((.ok fields, fields), s) := rfl

@[simp] theorem run_modify (f : S → S) :
    run answer (modify f : AsyncMethod ι ρ S ε Unit) fields s = ((.ok (), f fields), s) := rfl

@[simp] theorem run_await (i : ι) :
    run answer (await i : AsyncMethod ι ρ S ε (ρ i)) fields s =
      ((.ok (answer i s).1, fields), (answer i s).2) := rfl

@[simp] theorem run_settle (ended : Except ε α) :
    run answer (settle ended : AsyncMethod ι ρ S ε α) fields s = ((ended, fields), s) := by
  cases ended with
  | ok a => rfl
  | error e => rfl

theorem run_bind (p : AsyncMethod ι ρ S ε α) (f : α → AsyncMethod ι ρ S ε β) :
    run answer (p >>= f) fields s =
      match run answer p fields s with
      | ((.ok a, fields'), s') => run answer (f a) fields' s'
      | ((.error e, fields'), s') => ((.error e, fields'), s') := by
  refine (Resumption.run_bind answer (p fields) _ s).trans ?_
  unfold run
  generalize Resumption.run answer (p fields) s = last
  obtain ⟨⟨ended, fields'⟩, s'⟩ := last
  cases ended with
  | ok a => rfl
  | error e => rfl

theorem run_tryCatch (p : AsyncMethod ι ρ S ε α) (handler : ε → AsyncMethod ι ρ S ε α) :
    run answer (tryCatch p handler) fields s =
      match run answer p fields s with
      | ((.ok a, fields'), s') => ((.ok a, fields'), s')
      | ((.error e, fields'), s') => run answer (handler e) fields' s' := by
  refine (Resumption.run_bind answer (p fields) _ s).trans ?_
  unfold run
  generalize Resumption.run answer (p fields) s = last
  obtain ⟨⟨ended, fields'⟩, s'⟩ := last
  cases ended with
  | ok a => rfl
  | error e => rfl

theorem run_tryFinally (p : AsyncMethod ι ρ S ε α) (last : AsyncMethod ι ρ S ε Unit) :
    run answer (tryFinally p last) fields s =
      run answer (last >>= fun _ => settle (run answer p fields s).1.1) (run answer p fields s).1.2
        (run answer p fields s).2 :=
  Resumption.run_bind answer (p fields) _ s

end Run

/-! ## Preconditions -/

section Wp

variable (R : ι → σ → σ → Prop) (E : (i : ι) → σ → ρ i → σ → Prop) (I : ι → σ → Prop)

def wp (p : AsyncMethod ι ρ S ε α) (Q : Except ε α → S → σ → Prop) (fields : S) (s : σ) : Prop :=
  (p fields).wp R E I (fun ended => Q ended.1 ended.2) s

variable {R E I} {fields : S} {s : σ}

theorem wp_mono {p : AsyncMethod ι ρ S ε α} {Q Q' : Except ε α → S → σ → Prop}
    (h : ∀ ended fields s, Q ended fields s → Q' ended fields s) (hp : wp R E I p Q fields s) :
    wp R E I p Q' fields s :=
  Resumption.wp_mono (fun (ended : Except ε α × S) s => h ended.1 ended.2 s) hp

theorem wp_bind {p : AsyncMethod ι ρ S ε α}
    {f : α → AsyncMethod ι ρ S ε β} {Q : Except ε β → S → σ → Prop}
    (h : wp R E I p (fun ended fields s =>
      match ended with
      | .ok a => wp R E I (f a) Q fields s
      | .error e => Q (.error e) fields s) fields s) :
    wp R E I (p >>= f) Q fields s := by
  refine Resumption.wp_bind (Resumption.wp_mono ?_ h)
  rintro ⟨ended, fields'⟩ s' h'
  cases ended with
  | ok a => exact h'
  | error e => exact h'

theorem wp_tryCatch {p : AsyncMethod ι ρ S ε α}
    {handler : ε → AsyncMethod ι ρ S ε α} {Q : Except ε α → S → σ → Prop}
    (h : wp R E I p (fun ended fields s =>
      match ended with
      | .ok a => Q (.ok a) fields s
      | .error e => wp R E I (handler e) Q fields s) fields s) :
    wp R E I (tryCatch p handler) Q fields s := by
  refine Resumption.wp_bind (Resumption.wp_mono ?_ h)
  rintro ⟨ended, fields'⟩ s' h'
  cases ended with
  | ok a => exact h'
  | error e => exact h'

theorem wp_tryFinally {p : AsyncMethod ι ρ S ε α}
    {last : AsyncMethod ι ρ S ε Unit} {Q : Except ε α → S → σ → Prop}
    (h : wp R E I p (fun ended fields s =>
      wp R E I (last >>= fun _ => settle ended) Q fields s) fields s) :
    wp R E I (tryFinally p last) Q fields s :=
  Resumption.wp_bind h

end Wp

end AsyncMethod
