import Mathlib.Data.List.Basic

/-!
# Duplex streams

A stream is read from a peer and written to it.  What is written waits until it is flushed;
`destroy` gives up what still waits.  The functions `on…` are what the stream does by
itself, and `none` where it cannot.

`taken` and `delivered` are ghosts: everything that came from the peer, and everything the
peer was given.
-/

/-- `readableEnded`: the peer has sent its last.  `writableEnded`: nothing more is written. -/
structure NodeStream (β : Type) where
  allowHalfOpen : Bool
  readableEnded : Bool
  writableEnded : Bool
  waiting : List (List β)
  destroyed : Bool
  closed : Bool
  taken : List β
  delivered : List β
deriving DecidableEq, Repr

namespace NodeStream

variable {β : Type}

def create (allowHalfOpen : Bool) : NodeStream β :=
  ⟨allowHalfOpen, false, false, [], false, false, [], []⟩

/-- A write is possible. -/
def writable (s : NodeStream β) : Bool := !s.writableEnded && !s.destroyed

def write (s : NodeStream β) (chunk : List β) : NodeStream β :=
  { s with waiting := s.waiting ++ [chunk] }

/-- `end()`: what waits is still flushed. -/
def endWrites (s : NodeStream β) : NodeStream β := { s with writableEnded := true }

def destroy (s : NodeStream β) : NodeStream β := { s with destroyed := true }

/-- `data`, with a chunk that is not empty. -/
def onData (s : NodeStream β) (chunk : List β) : Option (NodeStream β) :=
  if chunk.isEmpty || s.readableEnded || s.destroyed then none
  else some { s with taken := s.taken ++ chunk }

/-- `end`: a stream that may not be half open ends its writes as well. -/
def onEnd (s : NodeStream β) : Option (NodeStream β) :=
  if s.readableEnded || s.destroyed then none
  else some { s with
    readableEnded := true
    writableEnded := s.writableEnded || !s.allowHalfOpen }

/-- The peer takes the first chunk that waits. -/
def onFlush (s : NodeStream β) : Option (NodeStream β) :=
  if s.destroyed then none
  else
    match s.waiting with
    | [] => none
    | chunk :: waiting => some { s with waiting := waiting, delivered := s.delivered ++ chunk }

/-- `close`: once, when both directions are over or the stream was destroyed. -/
def onClose (s : NodeStream β) : Option (NodeStream β) :=
  if s.closed then none
  else if s.destroyed || (s.readableEnded && s.writableEnded && s.waiting.isEmpty) then
    some { s with destroyed := true, closed := true }
  else none

/-- Everything that was written. -/
def written (s : NodeStream β) : List β := s.delivered ++ s.waiting.flatten

section Written

variable {s t : NodeStream β} {chunk : List β}

@[simp] theorem written_write : (s.write chunk).written = s.written ++ chunk := by
  simp [written, write]

@[simp] theorem written_endWrites : s.endWrites.written = s.written := rfl

@[simp] theorem written_destroy : s.destroy.written = s.written := rfl

theorem written_of_drained (h : s.waiting = []) : s.written = s.delivered := by
  simp [written, h]

end Written

/-! ## One lemma for each thing a stream does by itself -/

section Steps

variable {s t : NodeStream β} {chunk : List β}

theorem onData_spec (h : s.onData chunk = some t) :
    s.destroyed = false ∧ t = { s with taken := s.taken ++ chunk } := by
  unfold onData at h
  split at h
  · cases h
  · next hopen =>
    simp only [Bool.or_eq_true, not_or, Bool.not_eq_true] at hopen
    exact ⟨hopen.2, (Option.some.inj h).symm⟩

theorem onEnd_spec (h : s.onEnd = some t) :
    s.destroyed = false ∧
      t = { s with
        readableEnded := true
        writableEnded := s.writableEnded || !s.allowHalfOpen } := by
  unfold onEnd at h
  split at h
  · cases h
  · next hopen =>
    simp only [Bool.or_eq_true, not_or, Bool.not_eq_true] at hopen
    exact ⟨hopen.2, (Option.some.inj h).symm⟩

theorem onFlush_spec (h : s.onFlush = some t) :
    s.destroyed = false ∧ ∃ chunk waiting, s.waiting = chunk :: waiting ∧
      t = { s with waiting := waiting, delivered := s.delivered ++ chunk } := by
  unfold onFlush at h
  split at h
  · cases h
  · next hopen =>
    split at h
    · cases h
    · next chunk waiting hwaiting =>
      exact ⟨Bool.not_eq_true _ ▸ hopen, chunk, waiting, hwaiting, (Option.some.inj h).symm⟩

/-- A stream that closes by itself has nothing left to flush. -/
theorem onClose_spec (h : s.onClose = some t) :
    (s.destroyed = false → s.waiting = []) ∧ t = { s with destroyed := true, closed := true } := by
  unfold onClose at h
  split at h
  · cases h
  · split at h
    · next hover =>
      refine ⟨fun hlive => ?_, (Option.some.inj h).symm⟩
      simp only [hlive, Bool.false_or, Bool.and_eq_true, List.isEmpty_iff] at hover
      exact hover.2
    · cases h

theorem written_onFlush (h : s.onFlush = some t) : t.written = s.written := by
  obtain ⟨-, chunk, waiting, hwaiting, rfl⟩ := onFlush_spec h
  simp [written, hwaiting]

theorem onFlush_eq (hlive : s.destroyed = false) {waiting : List (List β)}
    (hwaiting : s.waiting = chunk :: waiting) :
    s.onFlush = some { s with waiting := waiting, delivered := s.delivered ++ chunk } := by
  unfold onFlush
  rw [hlive, hwaiting]
  rfl

end Steps

end NodeStream
