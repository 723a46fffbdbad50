import Mathlib.Order.Basic

/-!
# Runs of a labelled transition system

A system is a partial step function: `step s a = none` when the label `a` is not
enabled in `s`.  A run is a list of labels, so a run can be evaluated.

* `run_invariant`: what every step keeps, every run keeps.  The steps may be
  restricted by a guard `G` (a condition on the state before a step and its
  label) that holds along the run.
* `run_relation`: the same for a reflexive and transitive relation between the
  two ends of a run.
-/

namespace Runs

universe u v

/-- A deterministic labelled transition system. -/
structure System (σ : Type u) (ℓ : Type v) where
  step : σ → ℓ → Option σ

variable {σ : Type u} {ℓ : Type v}

/-- The state a list of labels leads to, if every one of them is enabled. -/
def System.run (S : System σ ℓ) : σ → List ℓ → Option σ
  | s, [] => some s
  | s, a :: as => (S.step s a).bind fun s' => S.run s' as

/-- `G` holds at every step of the run. -/
def System.Along (S : System σ ℓ) (G : σ → ℓ → Prop) : σ → List ℓ → Prop
  | _, [] => True
  | s, a :: as => G s a ∧ ∀ s', S.step s a = some s' → S.Along G s' as

/-- `P` holds in every state of the run. -/
def System.Throughout (S : System σ ℓ) (P : σ → Prop) : σ → List ℓ → Prop
  | s, [] => P s
  | s, a :: as => P s ∧ ∀ s', S.step s a = some s' → S.Throughout P s' as

@[simp] theorem System.run_nil (S : System σ ℓ) (s : σ) : S.run s [] = some s := rfl

@[simp] theorem System.along_nil (S : System σ ℓ) (G : σ → ℓ → Prop) (s : σ) :
    S.Along G s [] := trivial

theorem System.run_cons_eq_some (S : System σ ℓ) (s t : σ) (a : ℓ) (as : List ℓ) :
    S.run s (a :: as) = some t ↔ ∃ s', S.step s a = some s' ∧ S.run s' as = some t := by
  simp only [System.run, Option.bind_eq_some_iff]

theorem System.run_append (S : System σ ℓ) (s : σ) (as bs : List ℓ) :
    S.run s (as ++ bs) = (S.run s as).bind fun s' => S.run s' bs := by
  induction as generalizing s with
  | nil => rfl
  | cons a as ih =>
    simp only [List.cons_append, System.run, Option.bind_assoc]
    exact congrArg _ (funext fun s' => ih s')

theorem System.along_append (S : System σ ℓ) (G : σ → ℓ → Prop) (s : σ) (as bs : List ℓ) :
    S.Along G s (as ++ bs) ↔
      S.Along G s as ∧ ∀ s', S.run s as = some s' → S.Along G s' bs := by
  induction as generalizing s with
  | nil => simp
  | cons a as ih =>
    simp only [List.cons_append, System.Along, ih, System.run_cons_eq_some]
    constructor
    · rintro ⟨h1, h2⟩
      refine ⟨⟨h1, fun s' hs => (h2 s' hs).1⟩, ?_⟩
      rintro t ⟨s', hs, ht⟩
      exact (h2 s' hs).2 t ht
    · rintro ⟨⟨h1, h2⟩, h3⟩
      exact ⟨h1, fun s' hs => ⟨h2 s' hs, fun t ht => h3 t ⟨s', hs, ht⟩⟩⟩

/-- A guard along a run is about every step of it. -/
theorem System.along_iff (S : System σ ℓ) (G : σ → ℓ → Prop) (s : σ) (as : List ℓ) :
    S.Along G s as ↔ ∀ pre a post s', as = pre ++ a :: post → S.run s pre = some s' → G s' a := by
  induction as generalizing s with
  | nil =>
    refine ⟨fun _ pre a post s' h _ => ?_, fun _ => trivial⟩
    cases pre <;> cases h
  | cons a as ih =>
    constructor
    · rintro ⟨hg, has⟩ pre b post t heq hrun
      cases pre with
      | nil =>
        cases heq
        cases hrun
        exact hg
      | cons c pre =>
        cases heq
        obtain ⟨s', hstep, hrun⟩ := (S.run_cons_eq_some s t _ pre).mp hrun
        exact (ih s').mp (has s' hstep) pre b post t rfl hrun
    · intro h
      refine ⟨h [] a as s rfl rfl, fun s' hstep => (ih s').mpr fun pre b post t heq hrun => ?_⟩
      refine h (a :: pre) b post t (by rw [heq]; rfl) ?_
      exact (S.run_cons_eq_some s t a pre).mpr ⟨s', hstep, hrun⟩

theorem System.Along.mono {S : System σ ℓ} {G G' : σ → ℓ → Prop} (h : ∀ s a, G s a → G' s a) :
    ∀ {as : List ℓ} {s : σ}, S.Along G s as → S.Along G' s as
  | [], _, _ => trivial
  | _ :: _, _, h1 => ⟨h _ _ h1.1, fun s' hs => (h1.2 s' hs).mono h⟩

theorem System.Along.and {S : System σ ℓ} {G G' : σ → ℓ → Prop} :
    ∀ {as : List ℓ} {s : σ}, S.Along G s as → S.Along G' s as →
      S.Along (fun s a => G s a ∧ G' s a) s as
  | [], _, _, _ => trivial
  | _ :: _, _, h, h' => ⟨⟨h.1, h'.1⟩, fun s' hs => (h.2 s' hs).and (h'.2 s' hs)⟩

theorem System.along_replicate (S : System σ ℓ) {G : σ → ℓ → Prop} {a : ℓ} (h : ∀ s, G s a)
    (n : Nat) (s : σ) : S.Along G s (List.replicate n a) := by
  induction n generalizing s with
  | zero => trivial
  | succ n ih => exact ⟨h s, fun s' _ => ih s'⟩

theorem System.along_true (S : System σ ℓ) (s : σ) (as : List ℓ) :
    S.Along (fun _ _ => True) s as := by
  induction as generalizing s with
  | nil => trivial
  | cons a as ih => exact ⟨trivial, fun s' _ => ih s'⟩

/-- **Relation rule.**  A reflexive and transitive relation that every step with
`G` respects, from states with `P`, holds between the two ends of a run. -/
theorem System.run_relation (S : System σ ℓ) (G : σ → ℓ → Prop) (P : σ → Prop)
    (R : σ → σ → Prop) (hrefl : ∀ s, R s s) (htrans : ∀ s t u, R s t → R t u → R s u)
    (hstep : ∀ s a s', P s → G s a → S.step s a = some s' → P s' ∧ R s s') :
    ∀ (as : List ℓ) (s t : σ), P s → S.Along G s as → S.run s as = some t → P t ∧ R s t := by
  intro as
  induction as with
  | nil =>
    intro s t hs _ hr
    cases hr
    exact ⟨hs, hrefl s⟩
  | cons a as ih =>
    intro s t hs hg hr
    obtain ⟨s', h1, h2⟩ := (S.run_cons_eq_some s t a as).mp hr
    obtain ⟨h3, h4⟩ := hstep s a s' hs hg.1 h1
    obtain ⟨h5, h6⟩ := ih s' t h3 (hg.2 s' h1) h2
    exact ⟨h5, htrans s s' t h4 h6⟩

/-- What holds throughout a run holds in every state it reaches. -/
theorem System.throughout_iff (S : System σ ℓ) (P : σ → Prop) (s : σ) (as : List ℓ) :
    S.Throughout P s as ↔ ∀ pre post t, as = pre ++ post → S.run s pre = some t → P t := by
  induction as generalizing s with
  | nil =>
    constructor
    · intro h pre post t heq hrun
      obtain ⟨rfl, -⟩ := List.append_eq_nil_iff.mp heq.symm
      cases hrun
      exact h
    · intro h
      exact h [] [] s rfl rfl
  | cons a as ih =>
    constructor
    · rintro ⟨hs, hrest⟩ pre post t heq hrun
      cases pre with
      | nil =>
        cases hrun
        exact hs
      | cons b pre =>
        cases heq
        obtain ⟨s', hstep, hrun'⟩ := (S.run_cons_eq_some s t _ pre).mp hrun
        exact (ih s').mp (hrest s' hstep) pre post t rfl hrun'
    · intro h
      refine ⟨h [] (a :: as) s rfl rfl, fun s' hstep => (ih s').mpr fun pre post t heq hrun => ?_⟩
      refine h (a :: pre) post t (by rw [heq]; rfl) ?_
      exact (S.run_cons_eq_some s t a pre).mpr ⟨s', hstep, hrun⟩

/-- A property that every step keeps holds throughout. -/
theorem System.throughout_of_kept (S : System σ ℓ) (P : σ → Prop)
    (hstep : ∀ s a s', P s → S.step s a = some s' → P s') (as : List ℓ) :
    ∀ s, P s → S.Throughout P s as := by
  induction as with
  | nil =>
    intro s hs
    exact hs
  | cons a as ih =>
    intro s hs
    exact ⟨hs, fun s' h => ih s' (hstep s a s' hs h)⟩

theorem System.Throughout.mono {S : System σ ℓ} {P Q : σ → Prop} (h : ∀ s, P s → Q s) :
    ∀ {as : List ℓ} {s : σ}, S.Throughout P s as → S.Throughout Q s as
  | [], _, hs => h _ hs
  | _ :: _, _, hs => ⟨h _ hs.1, fun s' hstep => (hs.2 s' hstep).mono h⟩

/-- **Invariant rule.**  What every step with `G` keeps, every run with `G` keeps. -/
theorem System.run_invariant (S : System σ ℓ) (G : σ → ℓ → Prop) (P : σ → Prop)
    (hstep : ∀ s a s', P s → G s a → S.step s a = some s' → P s') (as : List ℓ) (s t : σ)
    (hs : P s) (hg : S.Along G s as) (hr : S.run s as = some t) : P t :=
  (S.run_relation G P (fun _ _ => True) (fun _ => trivial) (fun _ _ _ _ _ => trivial)
    (fun s a s' h1 h2 h3 => ⟨hstep s a s' h1 h2 h3, trivial⟩) as s t hs hg hr).1

/-- What follows from an invariant at each step holds along the run. -/
theorem System.Along.of_invariant {S : System σ ℓ} {G Q : σ → ℓ → Prop} {as : List ℓ} {s : σ}
    (hg : S.Along G s as) (P : σ → Prop)
    (hstep : ∀ s a s', P s → G s a → S.step s a = some s' → P s')
    (hQ : ∀ s a, P s → G s a → Q s a) (hs : P s) : S.Along Q s as := by
  induction as generalizing s with
  | nil => trivial
  | cons a as ih =>
    exact ⟨hQ s a hs hg.1, fun s' h => ih (hg.2 s' h) (hstep s a s' hs hg.1 h)⟩

/-- Two guards that agree at every step from states with `I` agree along a run, when `I` is
kept by the steps with one of them. -/
theorem System.along_iff_along (S : System σ ℓ) {P G : σ → ℓ → Prop} (I : σ → Prop)
    (hiff : ∀ s a s', I s → S.step s a = some s' → (P s a ↔ G s a))
    (hkept : ∀ s a s', I s → G s a → S.step s a = some s' → I s') (as : List ℓ) :
    ∀ s t, I s → S.run s as = some t → (S.Along P s as ↔ S.Along G s as) := by
  induction as with
  | nil =>
    intro s t _ _
    exact Iff.rfl
  | cons a as ih =>
    intro s t hs hrun
    obtain ⟨s', hstep, hrest⟩ := (S.run_cons_eq_some s t a as).mp hrun
    have hhere := hiff s a s' hs hstep
    constructor
    · rintro ⟨hP, hlater⟩
      have hG := hhere.mp hP
      refine ⟨hG, ?_⟩
      intro s'' hstep''
      obtain rfl := Option.some.inj (hstep.symm.trans hstep'')
      exact (ih s' t (hkept s a s' hs hG hstep) hrest).mp (hlater s' hstep)
    · rintro ⟨hG, hlater⟩
      refine ⟨hhere.mpr hG, ?_⟩
      intro s'' hstep''
      obtain rfl := Option.some.inj (hstep.symm.trans hstep'')
      exact (ih s' t (hkept s a s' hs hG hstep) hrest).mpr (hlater s' hstep)

/-- A property that each step keeps exactly if it meets a condition holds throughout a run
exactly if every step meets it. -/
theorem System.throughout_iff_along (S : System σ ℓ) {P I : σ → Prop} {G C : σ → ℓ → Prop}
    (hkept : ∀ s a s', I s → G s a → S.step s a = some s' → I s')
    (hiff : ∀ s a s', I s → P s → G s a → S.step s a = some s' → (P s' ↔ C s a)) (as : List ℓ) :
    ∀ s t, I s → P s → S.Along G s as → S.run s as = some t →
      (S.Throughout P s as ↔ S.Along C s as) := by
  induction as with
  | nil =>
    intro s t _ hP _ _
    exact iff_of_true hP trivial
  | cons a as ih =>
    intro s t hI hP hG hrun
    obtain ⟨s', hstep, hrest⟩ := (S.run_cons_eq_some s t a as).mp hrun
    have hhere := hiff s a s' hI hP hG.1 hstep
    have hI' := hkept s a s' hI hG.1 hstep
    have hG' := hG.2 s' hstep
    have hthroughout : S.Throughout P s' as → P s' := by
      intro h
      cases as with
      | nil => exact h
      | cons b as => exact h.1
    constructor
    · rintro ⟨-, hlater⟩
      have hlater' := hlater s' hstep
      refine ⟨hhere.mp (hthroughout hlater'), ?_⟩
      intro s'' hstep''
      obtain rfl := Option.some.inj (hstep.symm.trans hstep'')
      exact (ih s' t hI' (hthroughout hlater') hG' hrest).mp hlater'
    · rintro ⟨hC, hlater⟩
      refine ⟨hP, ?_⟩
      intro s'' hstep''
      obtain rfl := Option.some.inj (hstep.symm.trans hstep'')
      exact (ih s' t hI' (hhere.mpr hC) hG' hrest).mpr (hlater s' hstep)

/-- A guard that can be decided can be decided along a run. -/
instance System.decidableAlong (S : System σ ℓ) (G : σ → ℓ → Prop) [∀ s a, Decidable (G s a)] :
    ∀ (s : σ) (as : List ℓ), Decidable (S.Along G s as)
  | _, [] => isTrue trivial
  | s, a :: as =>
    match h : S.step s a with
    | none => decidable_of_iff (G s a) ⟨fun hg => ⟨hg, by simp [h]⟩, And.left⟩
    | some s' =>
      have := System.decidableAlong S G s' as
      decidable_of_iff (G s a ∧ S.Along G s' as)
        ⟨fun hg => ⟨hg.1, by simpa [h] using hg.2⟩, fun hg => ⟨hg.1, hg.2 s' h⟩⟩

end Runs
