import Mathlib.Data.List.Basic

/-!
# First in, first out

A queue of items of any type: what its calls answer, and that nothing is lost, doubled or
moved over any list of calls (`received_append`).  A machine whose every call answers as
the queue does answers as the queue on every list of calls (`run_refines`).
-/

namespace Fifo

universe u v w x

/-- A read that does not ask for a number of items asks for `none`. -/
inductive Call (α : Type u) where
  | push (items : List α)
  | read (count : Option Nat)

inductive Answer (α : Type u) where
  | pushed
  | refused
  | given (items : List α)

variable {α : Type u}

def call (waiting : List α) : Call α → Answer α × List α
  | .push items => (.pushed, waiting ++ items)
  | .read none => (.refused, waiting)
  | .read (some count) =>
    if count ≤ waiting.length then (.given (waiting.take count), waiting.drop count)
    else (.refused, waiting)

def run : List α → List (Call α) → List (Answer α) × List α
  | waiting, [] => ([], waiting)
  | waiting, c :: calls =>
    let next := call waiting c
    let last := run next.2 calls
    (next.1 :: last.1, last.2)

def Call.items : Call α → List α
  | .push items => items
  | .read _ => []

def Answer.items : Answer α → List α
  | .given items => items
  | .pushed => []
  | .refused => []

def pushed (calls : List (Call α)) : List α := calls.flatMap Call.items

def received (answers : List (Answer α)) : List α := answers.flatMap Answer.items

theorem call_items (waiting : List α) (c : Call α) :
    (call waiting c).1.items ++ (call waiting c).2 = waiting ++ c.items := by
  rcases c with items | count | count
  · rfl
  · exact (List.append_nil waiting).symm
  · rw [show (Call.read (some count) : Call α).items = [] from rfl, List.append_nil]
    by_cases hle : count ≤ waiting.length
    · simp [call, hle, Answer.items]
    · simp [call, hle, Answer.items]

/-- **Conservation.**  What was received, then what waits, is what waited first and what was pushed. -/
theorem received_append (waiting : List α) (calls : List (Call α)) :
    received (run waiting calls).1 ++ (run waiting calls).2 = waiting ++ pushed calls := by
  induction calls generalizing waiting with
  | nil => simp [run, received, pushed]
  | cons c calls ih =>
    have hfirst := call_items waiting c
    have hrest := ih (call waiting c).2
    simp only [run, received, pushed, List.flatMap_cons, List.append_assoc] at hrest ⊢
    rw [hrest, ← List.append_assoc, hfirst, List.append_assoc]

section Machine

variable {σ : Type v} {γ : Type w} {β : Type x} (step : σ → γ → Option (β × σ))

/-- The calls of a machine, one after the other. -/
def runMachine : σ → List γ → Option (List β × σ)
  | s, [] => some ([], s)
  | s, c :: calls =>
    (step s c).bind fun next =>
      (runMachine next.2 calls).map fun last => (next.1 :: last.1, last.2)

/-- The invariant may depend on how many calls are left. -/
theorem run_refines {step : σ → γ → Option (β × σ)} {Inv : Nat → σ → Prop} {waiting : σ → List α}
    {callOf : γ → Call α} {answerOf : β → Answer α}
    (hstep : ∀ n s c, Inv (n + 1) s → ∃ answer s', step s c = some (answer, s') ∧ Inv n s' ∧
      call (waiting s) (callOf c) = (answerOf answer, waiting s'))
    (calls : List γ) (s : σ) (n : Nat) (h : Inv (n + calls.length) s) :
    ∃ answers s', runMachine step s calls = some (answers, s') ∧ Inv n s' ∧
      run (waiting s) (calls.map callOf) = (answers.map answerOf, waiting s') := by
  induction calls generalizing s with
  | nil => exact ⟨[], s, rfl, h, rfl⟩
  | cons c calls ih =>
    obtain ⟨answer, s₁, hfirst, hinv, hcall⟩ := hstep (n + calls.length) s c h
    obtain ⟨answers, s₂, hrest, hlast, hrun⟩ := ih s₁ hinv
    refine ⟨answer :: answers, s₂, ?_, hlast, ?_⟩
    · simp [runMachine, hfirst, hrest]
    · simp only [List.map_cons, run, hcall, hrun]

end Machine

end Fifo
