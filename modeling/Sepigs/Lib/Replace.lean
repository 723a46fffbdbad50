import Mathlib.Data.List.Infix

/-!
# Replacing every match of a pattern

A pattern says how much it matches at the start of a text, and what is written for it: pieces of
the match, and other text.  Texts are lists of cells, each with a unit that the pattern looks at,
so that a cell can also carry where it comes from.
-/

namespace Replace

universe u v w

/-- A part of the match that is copied, or text that is written. -/
inductive Piece (α : Type u) where
  | copy (start length : Nat)
  | text (units : List α)

structure Edit (α : Type u) where
  length : Nat
  pieces : List (Piece α)

/-- The match at the start of a text. -/
abbrev Pattern (α : Type u) := List α → Option (Edit α)

/-- No match is empty. -/
def Positive {α : Type u} (pattern : Pattern α) : Prop := ∀ text edit, pattern text = some edit → 0 < edit.length

section Cells

variable {α : Type u} {β : Type v} (unit : β → α) (cell : α → β)

def Piece.apply (cells : List β) : Piece α → List β
  | copy start length => (cells.drop start).take length
  | text units => units.map cell

def Edit.apply (edit : Edit α) (cells : List β) : List β := edit.pieces.flatMap (Piece.apply cell cells)

/-- `cells.replaceAll(pattern, …)`, for a number of steps. -/
def replaceLoop (pattern : Pattern α) : Nat → List β → List β
  | 0, cells => cells
  | steps + 1, cells =>
    match cells with
    | [] => []
    | c :: rest =>
      match pattern ((c :: rest).map unit) with
      | some edit => edit.apply cell (c :: rest) ++ replaceLoop pattern steps ((c :: rest).drop edit.length)
      | none => c :: replaceLoop pattern steps rest

def replaceAll (pattern : Pattern α) (cells : List β) : List β :=
  replaceLoop unit cell pattern cells.length cells

variable {unit cell} {pattern : Pattern α}

theorem replaceLoop_keep {c : β} {rest : List β} (hmatch : pattern ((c :: rest).map unit) = none) (steps : Nat) :
    replaceLoop unit cell pattern (steps + 1) (c :: rest) = c :: replaceLoop unit cell pattern steps rest := by
  show (match pattern ((c :: rest).map unit) with
    | some edit => edit.apply cell (c :: rest) ++ replaceLoop unit cell pattern steps ((c :: rest).drop edit.length)
    | none => c :: replaceLoop unit cell pattern steps rest) = _
  rw [hmatch]

theorem replaceLoop_edit {c : β} {rest : List β} {edit : Edit α} (hmatch : pattern ((c :: rest).map unit) = some edit)
    (steps : Nat) : replaceLoop unit cell pattern (steps + 1) (c :: rest) =
      edit.apply cell (c :: rest) ++ replaceLoop unit cell pattern steps ((c :: rest).drop edit.length) := by
  show (match pattern ((c :: rest).map unit) with
    | some edit => edit.apply cell (c :: rest) ++ replaceLoop unit cell pattern steps ((c :: rest).drop edit.length)
    | none => c :: replaceLoop unit cell pattern steps rest) = _
  rw [hmatch]

/-- What is left after a match has no more cells than what is left after one cell. -/
theorem length_drop_le {c : β} {rest : List β} {edit : Edit α} (hpositive : Positive pattern)
    (hmatch : pattern ((c :: rest).map unit) = some edit) : ((c :: rest).drop edit.length).length ≤ rest.length := by
  have hpos := hpositive _ _ hmatch
  rw [List.length_drop, List.length_cons]
  omega

/-- More steps than cells change nothing. -/
theorem replaceLoop_eq (hpositive : Positive pattern) {steps : Nat} {cells : List β}
    (hsteps : cells.length ≤ steps) :
    replaceLoop unit cell pattern steps cells = replaceAll unit cell pattern cells := by
  unfold replaceAll
  induction hlength : cells.length using Nat.strong_induction_on generalizing cells steps with
  | _ n ih =>
    subst hlength
    cases cells with
    | nil =>
      cases steps with
      | zero => rfl
      | succ steps => rfl
    | cons c rest =>
      obtain ⟨steps, rfl⟩ : ∃ m, steps = m + 1 := ⟨steps - 1, by simp at hsteps; omega⟩
      have hrest : rest.length ≤ steps := Nat.le_of_succ_le_succ hsteps
      rw [List.length_cons]
      cases hmatch : pattern ((c :: rest).map unit) with
      | none =>
        rw [replaceLoop_keep hmatch, replaceLoop_keep hmatch, ih _ (Nat.lt_succ_self _) hrest rfl]
      | some edit =>
        have hle := length_drop_le hpositive hmatch
        have hlt : ((c :: rest).drop edit.length).length < (c :: rest).length := Nat.lt_succ_of_le hle
        rw [replaceLoop_edit hmatch, replaceLoop_edit hmatch, ih _ hlt (Nat.le_trans hle hrest) rfl, ih _ hlt hle rfl]

theorem replaceAll_keep (hpositive : Positive pattern) {c : β} {rest : List β}
    (hmatch : pattern ((c :: rest).map unit) = none) :
    replaceAll unit cell pattern (c :: rest) = c :: replaceAll unit cell pattern rest := by
  rw [← replaceLoop_eq hpositive (Nat.le_refl (c :: rest).length), List.length_cons, replaceLoop_keep hmatch,
    replaceLoop_eq hpositive (Nat.le_refl _)]

theorem replaceAll_edit (hpositive : Positive pattern) {cells : List β} {edit : Edit α} (hne : cells ≠ [])
    (hmatch : pattern (cells.map unit) = some edit) :
    replaceAll unit cell pattern cells =
      edit.apply cell cells ++ replaceAll unit cell pattern (cells.drop edit.length) := by
  obtain ⟨c, rest, rfl⟩ := List.exists_cons_of_ne_nil hne
  rw [← replaceLoop_eq hpositive (Nat.le_refl (c :: rest).length), List.length_cons, replaceLoop_edit hmatch,
    replaceLoop_eq hpositive (length_drop_le hpositive hmatch)]

variable (unit) in
/-- What follows from a pass over the cells: nothing, one cell that is kept, or a match. -/
theorem replaceAll_induction (hpositive : Positive pattern) {motive : List β → Prop} (hnil : motive [])
    (hkeep : ∀ c rest, pattern ((c :: rest).map unit) = none → motive rest → motive (c :: rest))
    (hedit : ∀ cells edit, cells ≠ [] → pattern (cells.map unit) = some edit → motive (cells.drop edit.length) →
      motive cells) (cells : List β) : motive cells := by
  induction hlength : cells.length using Nat.strong_induction_on generalizing cells with
  | _ n ih =>
    cases cells with
    | nil => exact hnil
    | cons c rest =>
      subst hlength
      cases hmatch : pattern ((c :: rest).map unit) with
      | none => exact hkeep c rest hmatch (ih _ (Nat.lt_succ_self _) rest rfl)
      | some edit =>
        exact hedit _ edit (List.cons_ne_nil _ _) hmatch
          (ih _ (Nat.lt_succ_of_le (length_drop_le hpositive hmatch)) _ rfl)

/-- Cells may be mapped before or after, where their units stay. -/
theorem map_replaceAll {γ : Type w} (unit' : γ → α) (cell' : α → γ) (f : β → γ) (hpositive : Positive pattern)
    (hunit : ∀ b, unit' (f b) = unit b) (hcell : ∀ a, f (cell a) = cell' a) (cells : List β) :
    (replaceAll unit cell pattern cells).map f = replaceAll unit' cell' pattern (cells.map f) := by
  have hunits : ∀ cells : List β, (cells.map f).map unit' = cells.map unit := by
    intro cells
    rw [List.map_map]
    exact List.map_congr_left fun b _ => hunit b
  have happly : ∀ (edit : Edit α) (cells : List β),
      (edit.apply cell cells).map f = edit.apply cell' (cells.map f) := by
    intro edit cells
    unfold Edit.apply
    rw [List.map_flatMap]
    refine List.flatMap_congr fun piece _ => ?_
    cases piece with
    | copy start length =>
      show ((cells.drop start).take length).map f = ((cells.map f).drop start).take length
      rw [List.map_take, List.map_drop]
    | text units =>
      show (units.map cell).map f = units.map cell'
      rw [List.map_map]
      exact List.map_congr_left fun a _ => hcell a
  induction cells using replaceAll_induction unit hpositive with
  | hnil => rfl
  | hkeep c rest hmatch ih =>
    have hmatch' : pattern ((f c :: rest.map f).map unit') = none := by
      rw [← List.map_cons, hunits]
      exact hmatch
    rw [replaceAll_keep hpositive hmatch, List.map_cons, List.map_cons, ih, replaceAll_keep hpositive hmatch']
  | hedit cells edit hne hmatch ih =>
    have hmatch' : pattern ((cells.map f).map unit') = some edit := by
      rw [hunits]
      exact hmatch
    rw [replaceAll_edit hpositive hne hmatch, List.map_append, ih, happly,
      replaceAll_edit hpositive (by simpa using hne) hmatch', List.map_drop]

end Cells

/-- Two patterns that write the same for the same matches. -/
theorem replaceAll_congr {α : Type u} {first second : Pattern α} (hfirst : Positive first)
    (hsecond : Positive second)
    (h : ∀ text, (first text = none ∧ second text = none) ∨ ∃ edit edit', first text = some edit ∧
      second text = some edit' ∧ edit.length = edit'.length ∧ edit.apply id text = edit'.apply id text)
    (text : List α) : replaceAll id id first text = replaceAll id id second text := by
  induction text using replaceAll_induction id hfirst with
  | hnil => rfl
  | hkeep c rest hmatch ih =>
    rw [List.map_id] at hmatch
    rcases h (c :: rest) with ⟨-, hnone⟩ | ⟨edit, -, hsome, -⟩
    · rw [replaceAll_keep hfirst (by rwa [List.map_id]), replaceAll_keep hsecond (by rwa [List.map_id]), ih]
    · rw [hmatch] at hsome
      cases hsome
  | hedit text edit hne hmatch ih =>
    rw [List.map_id] at hmatch
    rcases h text with ⟨hnone, -⟩ | ⟨edit', edit'', hsome, hsome', hlength, hsame⟩
    · rw [hmatch] at hnone
      cases hnone
    · rw [hmatch] at hsome
      cases hsome
      rw [replaceAll_edit hfirst hne (by rwa [List.map_id]), replaceAll_edit hsecond hne (by rwa [List.map_id]), ih,
        hsame, hlength]

end Replace
