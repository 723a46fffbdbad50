import Mathlib.Data.List.Basic

/-!
# Decoders that read by given lengths

In each state the decoder knows how many bytes it must have for its next step.  What has
come and is too short waits for more.
-/

universe u v w

/-- `need` is `none` in a state that takes nothing more. -/
structure Decoder (σ : Type u) (β : Type v) (ω : Type w) where
  need : σ → Option Nat
  take : σ → List β → σ × List ω
  need_pos : ∀ s n, need s = some n → 0 < n

namespace Decoder

variable {σ : Type u} {β : Type v} {ω : Type w}

/-- The state after some bytes, those that wait, and the output. -/
structure Drained (σ : Type u) (β : Type v) (ω : Type w) where
  state : σ
  rest : List β
  output : List ω

/-- With what was put out before. -/
def Drained.after (output : List ω) (drained : Drained σ β ω) : Drained σ β ω :=
  ⟨drained.state, drained.rest, output ++ drained.output⟩

theorem Drained.after_after (first second : List ω) (drained : Drained σ β ω) :
    (drained.after second).after first = drained.after (first ++ second) := by
  unfold Drained.after
  rw [List.append_assoc]

theorem Drained.after_nil (drained : Drained σ β ω) : drained.after [] = drained := rfl

variable (d : Decoder σ β ω)

def drain (s : σ) (bytes : List β) : Drained σ β ω :=
  match _h : d.need s with
  | none => ⟨s, [], []⟩
  | some n =>
    if bytes.length < n then ⟨s, bytes, []⟩
    else
      let next := d.take s (bytes.take n)
      (drain next.1 (bytes.drop n)).after next.2
termination_by bytes.length
decreasing_by
  have hpos := d.need_pos s n _h
  rw [List.length_drop]
  omega

variable {d}

theorem drain_stopped {s : σ} (h : d.need s = none) (bytes : List β) : d.drain s bytes = ⟨s, [], []⟩ := by
  unfold drain
  split
  · rfl
  · next heq =>
    rw [h] at heq
    cases heq

theorem drain_short {s : σ} {n : Nat} {bytes : List β} (h : d.need s = some n) (hlt : bytes.length < n) :
    d.drain s bytes = ⟨s, bytes, []⟩ := by
  unfold drain
  split
  · next heq =>
    rw [h] at heq
    cases heq
  · next heq =>
    rw [h] at heq
    cases heq
    rw [if_pos hlt]

theorem drain_take {s : σ} {n : Nat} {bytes : List β} (h : d.need s = some n) (hle : n ≤ bytes.length) :
    d.drain s bytes =
      (d.drain (d.take s (bytes.take n)).1 (bytes.drop n)).after (d.take s (bytes.take n)).2 := by
  conv => lhs; unfold drain
  split
  · next heq =>
    rw [h] at heq
    cases heq
  · next heq =>
    rw [h] at heq
    cases heq
    rw [if_neg (by omega)]

/-- A piece of the right length is taken at once. -/
theorem drain_piece {s : σ} {piece rest : List β} (h : d.need s = some piece.length) :
    d.drain s (piece ++ rest) = (d.drain (d.take s piece).1 rest).after (d.take s piece).2 := by
  rw [drain_take h (by rw [List.length_append]; omega), List.take_left, List.drop_left]

theorem drain_nil (s : σ) : d.drain s [] = ⟨s, [], []⟩ := by
  cases h : d.need s with
  | none => exact drain_stopped h []
  | some n => exact drain_short h (d.need_pos s n h)

/-- What waited is tried again with what comes. -/
theorem drain_append (s : σ) (first more : List β) :
    d.drain s (first ++ more) =
      (d.drain (d.drain s first).state ((d.drain s first).rest ++ more)).after (d.drain s first).output := by
  induction s, first using drain.induct d with
  | case1 s first h =>
    rw [drain_stopped h, drain_stopped h first]
    show _ = (d.drain s ([] ++ more)).after []
    rw [drain_stopped h]
    rfl
  | case2 s first n h hlt =>
    rw [drain_short h hlt]
    rfl
  | case3 s first n h hlt next ih =>
    have hle : n ≤ first.length := by omega
    have hlong : n ≤ (first ++ more).length := by
      rw [List.length_append]
      omega
    rw [drain_take h hlong, drain_take h hle, List.take_append_of_le_length hle,
      List.drop_append_of_le_length hle]
    show (d.drain next.1 (first.drop n ++ more)).after next.2 = _
    rw [ih, Drained.after_after]
    rfl

/-- What waits, waits until more comes. -/
theorem drain_rest (s : σ) (bytes : List β) :
    d.drain (d.drain s bytes).state (d.drain s bytes).rest =
      ⟨(d.drain s bytes).state, (d.drain s bytes).rest, []⟩ := by
  induction s, bytes using drain.induct d with
  | case1 s bytes h =>
    rw [drain_stopped h, drain_stopped h]
  | case2 s bytes n h hlt =>
    rw [drain_short h hlt, drain_short h hlt]
  | case3 s bytes n h hlt next ih =>
    rw [drain_take h (by omega)]
    exact ih

theorem length_drain_rest (s : σ) (bytes : List β) : (d.drain s bytes).rest.length ≤ bytes.length := by
  induction s, bytes using drain.induct d with
  | case1 s bytes h =>
    rw [drain_stopped h]
    exact Nat.zero_le _
  | case2 s bytes n h hlt =>
    simp only [drain_short h hlt, Nat.le_refl]
  | case3 s bytes n h hlt next ih =>
    rw [drain_take h (by omega)]
    show (d.drain next.1 (bytes.drop n)).rest.length ≤ bytes.length
    rw [List.length_drop] at ih
    omega

/-- Whether what has come is too short depends on what is needed alone. -/
theorem drain_settled_congr {ω' : Type*} {d' : Decoder σ β ω'} (hneed : d'.need = d.need) {s : σ}
    {bytes : List β} (h : d.drain s bytes = ⟨s, bytes, []⟩) : d'.drain s bytes = ⟨s, bytes, []⟩ := by
  cases hn : d.need s with
  | none =>
    rw [drain_stopped hn] at h
    have hnil : bytes = [] := (congrArg Drained.rest h).symm
    rw [drain_stopped (by rw [hneed, hn]), hnil]
  | some n =>
    by_cases hlt : bytes.length < n
    · exact drain_short (by rw [hneed, hn]) hlt
    · have hpos := d.need_pos s n hn
      have hrest := congrArg (fun drained => drained.rest.length) h
      have hle := @length_drain_rest _ _ _ d (d.take s (bytes.take n)).1 (bytes.drop n)
      rw [drain_take hn (by omega)] at hrest
      simp only [Drained.after] at hrest
      rw [List.length_drop] at hle
      omega

variable (d)

/-- One chunk after the other, each tried with what waits. -/
def feed : σ → List β → List (List β) → Drained σ β ω
  | s, rest, [] => ⟨s, rest, []⟩
  | s, rest, chunk :: chunks =>
    let now := d.drain s (rest ++ chunk)
    (feed now.state now.rest chunks).after now.output

/-- **How the bytes are cut into chunks does not matter.** -/
theorem feed_eq_drain (s : σ) (rest : List β) (chunks : List (List β))
    (h : d.drain s rest = ⟨s, rest, []⟩) : d.feed s rest chunks = d.drain s (rest ++ chunks.flatten) := by
  induction chunks generalizing s rest with
  | nil =>
    rw [List.flatten_nil, List.append_nil, h]
    rfl
  | cons chunk chunks ih =>
    have hlater := ih (d.drain s (rest ++ chunk)).state (d.drain s (rest ++ chunk)).rest (drain_rest s _)
    rw [List.flatten_cons, ← List.append_assoc, drain_append s (rest ++ chunk), ← hlater]
    rfl

variable {d}

/-- What every step keeps, a whole run keeps. -/
theorem drain_keeps {Keeps : σ → List ω → Prop}
    (hstep : ∀ s output piece, d.need s = some piece.length → Keeps s output →
      Keeps (d.take s piece).1 (output ++ (d.take s piece).2))
    (s : σ) (bytes : List β) :
    ∀ output, Keeps s output → Keeps (d.drain s bytes).state (output ++ (d.drain s bytes).output) := by
  induction s, bytes using drain.induct d with
  | case1 s bytes hneed =>
    intro output h
    rw [drain_stopped hneed, List.append_nil]
    exact h
  | case2 s bytes n hneed hlt =>
    intro output h
    rw [drain_short hneed hlt, List.append_nil]
    exact h
  | case3 s bytes n hneed hlt next ih =>
    intro output h
    have hlength : (bytes.take n).length = n := by
      rw [List.length_take]
      omega
    have hnext : Keeps next.1 (output ++ next.2) :=
      hstep s output (bytes.take n) (by rw [hlength, hneed]) h
    rw [drain_take hneed (by omega)]
    show Keeps (d.drain next.1 (bytes.drop n)).state
      (output ++ (next.2 ++ (d.drain next.1 (bytes.drop n)).output))
    rw [← List.append_assoc]
    exact ih _ hnext

end Decoder
