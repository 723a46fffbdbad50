import Sepigs.Utils.BufferedSocketReader

/-!
# A queue of chunks (`utils/bufferQueue.ts`)
-/

namespace Sepigs

namespace BufferQueue

/-- No chunk is empty, and the first is not read to its end. -/
def Aligned : List Bytes → Nat → Prop
  | [], headOffset => headOffset = 0
  | first :: rest, headOffset => headOffset < first.length ∧ ∀ chunk ∈ rest, chunk ≠ []

def unread (chunks : List Bytes) (headOffset : Nat) : Bytes := chunks.flatten.drop headOffset

end BufferQueue

/-- `headOffset` bytes of the first chunk have been read. -/
structure BufferQueue where
  chunks : List Bytes
  headOffset : Nat
  totalLength : Nat
  aligned : BufferQueue.Aligned chunks headOffset
  length_eq : totalLength = (BufferQueue.unread chunks headOffset).length

namespace BufferQueue

def empty : BufferQueue := ⟨[], 0, 0, rfl, rfl⟩

/-- The bytes that have not been read. -/
def content (queue : BufferQueue) : Bytes := unread queue.chunks queue.headOffset

theorem unread_push {chunks : List Bytes} {headOffset : Nat} (h : Aligned chunks headOffset) (chunk : Bytes) :
    unread (chunks ++ [chunk]) headOffset = unread chunks headOffset ++ chunk := by
  unfold unread
  rw [List.flatten_append, List.flatten_singleton, List.drop_append_of_le_length]
  cases chunks with
  | nil =>
    have hzero : headOffset = 0 := h
    omega
  | cons first rest =>
    have hlt := h.1
    rw [List.flatten_cons, List.length_append]
    omega

theorem Aligned.push {chunks : List Bytes} {headOffset : Nat} (h : Aligned chunks headOffset) {chunk : Bytes}
    (hne : chunk ≠ []) : Aligned (chunks ++ [chunk]) headOffset := by
  cases chunks with
  | nil =>
    have hzero : headOffset = 0 := h
    have hpos := List.length_pos_iff.mpr hne
    exact ⟨by omega, fun _ hmem => absurd hmem List.not_mem_nil⟩
  | cons first rest =>
    refine ⟨h.1, fun other hother => ?_⟩
    rcases List.mem_append.mp hother with hrest | hlast
    · exact h.2 other hrest
    · rw [List.mem_singleton.mp hlast]
      exact hne

def push (queue : BufferQueue) (chunk : Bytes) : BufferQueue :=
  if hzero : chunk.length = 0 then queue
  else
    { chunks := queue.chunks ++ [chunk]
      headOffset := queue.headOffset
      totalLength := queue.totalLength + chunk.length
      aligned := queue.aligned.push fun hnil => hzero (List.length_eq_zero_iff.mpr hnil)
      length_eq := by rw [unread_push queue.aligned, List.length_append, queue.length_eq] }

theorem push_content (queue : BufferQueue) (chunk : Bytes) :
    (queue.push chunk).content = queue.content ++ chunk := by
  unfold push
  split
  · next hzero =>
    rw [List.length_eq_zero_iff.mp hzero, List.append_nil]
  · exact unread_push queue.aligned chunk

/-- The loop of `read`.  A chunk that is not read to its end has what is still needed. -/
def gather : List Bytes → Nat → Nat → Bytes → Except SepigsError (Bytes × List Bytes × Nat)
  | chunks, headOffset, 0, output => .ok (output, chunks, headOffset)
  | [], _, _ + 1, _ => .error ⟨"", "buffer queue is empty"⟩
  | chunk :: rest, headOffset, missing + 1, output =>
    let available := chunk.length - headOffset
    let count := min available (missing + 1)
    let output := output ++ (chunk.drop headOffset).take count
    if headOffset + count = chunk.length then gather rest 0 (missing + 1 - count) output
    else .ok (output, chunk :: rest, headOffset + count)

/-- What `read` gives, and the chunks and the offset after it. -/
def readChunks (chunks : List Bytes) (headOffset length : Nat) : Except SepigsError (Bytes × List Bytes × Nat) :=
  match chunks with
  | [] => gather [] headOffset length []
  | first :: rest =>
    if length ≤ first.length - headOffset then
      let output := (first.drop headOffset).take length
      if headOffset + length = first.length then .ok (output, rest, 0)
      else .ok (output, first :: rest, headOffset + length)
    else gather (first :: rest) headOffset length []

/-- `read` takes the first bytes and leaves the others. -/
def Takes (chunks : List Bytes) (headOffset length : Nat) (output : Bytes)
    (result : Except SepigsError (Bytes × List Bytes × Nat)) : Prop :=
  ∃ chunks' headOffset', result = .ok (output ++ (unread chunks headOffset).take length, chunks', headOffset') ∧
    Aligned chunks' headOffset' ∧ unread chunks' headOffset' = (unread chunks headOffset).drop length

theorem Aligned.shift {first : Bytes} {rest : List Bytes} {headOffset : Nat}
    (h : Aligned (first :: rest) headOffset) : Aligned rest 0 := by
  cases rest with
  | nil => rfl
  | cons second others =>
    refine ⟨List.length_pos_iff.mpr (h.2 second List.mem_cons_self), fun chunk hchunk => ?_⟩
    exact h.2 chunk (List.mem_cons_of_mem second hchunk)

theorem unread_cons {first : Bytes} {rest : List Bytes} {headOffset : Nat}
    (h : Aligned (first :: rest) headOffset) :
    unread (first :: rest) headOffset = first.drop headOffset ++ rest.flatten := by
  have hlt := h.1
  unfold unread
  rw [List.flatten_cons, List.drop_append_of_le_length (by omega)]

/-- Inside the first chunk. -/
theorem takes_first {first : Bytes} {rest : List Bytes} {headOffset length : Nat} (output : Bytes)
    (h : Aligned (first :: rest) headOffset) (hlt : headOffset + length < first.length) :
    Takes (first :: rest) headOffset length output
      (.ok (output ++ (first.drop headOffset).take length, first :: rest, headOffset + length)) := by
  have hlength : length ≤ (first.drop headOffset).length := by
    rw [List.length_drop]
    omega
  have hnext : Aligned (first :: rest) (headOffset + length) := ⟨hlt, h.2⟩
  refine ⟨first :: rest, headOffset + length, ?_, hnext, ?_⟩
  · rw [unread_cons h, List.take_append_of_le_length hlength]
  · rw [unread_cons h, unread_cons hnext, List.drop_append_of_le_length hlength, List.drop_drop]

/-- To the end of the first chunk, and on. -/
theorem takes_rest {first : Bytes} {rest : List Bytes} {headOffset length count : Nat} {output : Bytes}
    {result : Except SepigsError (Bytes × List Bytes × Nat)} (h : Aligned (first :: rest) headOffset)
    (hend : headOffset + count = first.length) (hle : count ≤ length)
    (hrest : Takes rest 0 (length - count) (output ++ (first.drop headOffset).take count) result) :
    Takes (first :: rest) headOffset length output result := by
  obtain ⟨chunks', headOffset', hresult, haligned, hunread⟩ := hrest
  have hlength : (first.drop headOffset).length = count := by
    rw [List.length_drop]
    omega
  have hall : (first.drop headOffset).take count = first.drop headOffset :=
    List.take_of_length_le (by omega)
  have hfirst : (first.drop headOffset).take length = first.drop headOffset :=
    List.take_of_length_le (show (first.drop headOffset).length ≤ length by omega)
  have hnone : (first.drop headOffset).drop length = [] :=
    List.drop_of_length_le (show (first.drop headOffset).length ≤ length by omega)
  have hzero : unread rest 0 = rest.flatten := rfl
  refine ⟨chunks', headOffset', ?_, haligned, ?_⟩
  · rw [hresult, unread_cons h, hall, hzero, List.append_assoc, List.take_append, hlength, hfirst]
  · rw [hunread, unread_cons h, hzero, List.drop_append, hlength, hnone, List.nil_append]

theorem gather_takes (chunks : List Bytes) : ∀ (headOffset length : Nat) (output : Bytes),
    Aligned chunks headOffset → length ≤ (unread chunks headOffset).length →
      Takes chunks headOffset length output (gather chunks headOffset length output) := by
  induction chunks with
  | nil =>
    intro headOffset length output h hle
    have hzero : length = 0 := by
      have hnil : unread [] headOffset = [] := List.drop_nil
      rw [hnil] at hle
      exact Nat.le_zero.mp hle
    subst hzero
    exact ⟨[], headOffset, by simp [gather], h, rfl⟩
  | cons chunk rest ih =>
    intro headOffset length output h hle
    cases length with
    | zero => exact ⟨chunk :: rest, headOffset, by simp [gather], h, rfl⟩
    | succ missing =>
      have hlt := h.1
      unfold gather
      simp only []
      rw [unread_cons h, List.length_append, List.length_drop] at hle
      by_cases hend : headOffset + min (chunk.length - headOffset) (missing + 1) = chunk.length
      · rw [if_pos hend]
        refine takes_rest h hend (by omega) (ih _ _ _ h.shift ?_)
        show _ ≤ rest.flatten.length
        omega
      · rw [if_neg hend]
        have hcount : min (chunk.length - headOffset) (missing + 1) = missing + 1 := by omega
        rw [hcount]
        exact takes_first output h (by omega)

theorem readChunks_takes {chunks : List Bytes} {headOffset : Nat} (length : Nat)
    (h : Aligned chunks headOffset) (hle : length ≤ (unread chunks headOffset).length) :
    Takes chunks headOffset length [] (readChunks chunks headOffset length) := by
  cases chunks with
  | nil => exact gather_takes [] headOffset length [] h hle
  | cons first rest =>
    have hlt := h.1
    unfold readChunks
    simp only []
    by_cases hshort : length ≤ first.length - headOffset
    · rw [if_pos hshort]
      by_cases hend : headOffset + length = first.length
      · rw [if_pos hend]
        refine takes_rest h hend (Nat.le_refl _) ⟨rest, 0, ?_, h.shift, ?_⟩
        · rw [Nat.sub_self, List.take_zero, List.append_nil, List.nil_append]
        · rw [Nat.sub_self, List.drop_zero]
      · rw [if_neg hend]
        exact takes_first [] h (by omega)
    · rw [if_neg hshort]
      exact gather_takes (first :: rest) headOffset length [] h hle

def read (queue : BufferQueue) (length : Nat) : Except SepigsError (Bytes × BufferQueue) :=
  if hlong : queue.totalLength < length then .error ⟨"", "buffer queue read exceeds available bytes"⟩
  else if length = 0 then .ok ([], queue)
  else
    match hread : readChunks queue.chunks queue.headOffset length with
    | .error error => .error error
    | .ok (output, chunks, headOffset) =>
      have htakes : Aligned chunks headOffset ∧
          unread chunks headOffset = (unread queue.chunks queue.headOffset).drop length := by
        have hlength := queue.length_eq
        obtain ⟨chunks', headOffset', hresult, haligned, hunread⟩ :=
          readChunks_takes length queue.aligned (by omega)
        rw [hread] at hresult
        cases hresult
        exact ⟨haligned, hunread⟩
      .ok (output,
        { chunks := chunks
          headOffset := headOffset
          totalLength := queue.totalLength - length
          aligned := htakes.1
          length_eq := by rw [htakes.2, List.length_drop, queue.length_eq] })

theorem totalLength_eq (queue : BufferQueue) : queue.totalLength = queue.content.length := queue.length_eq

/-- **The queue is the bytes in it**: `read` takes the first ones. -/
theorem read_spec (queue : BufferQueue) {length : Nat} (hle : length ≤ queue.totalLength) :
    ∃ queue', queue.read length = .ok (queue.content.take length, queue') ∧
      queue'.content = queue.content.drop length := by
  unfold read
  rw [dif_neg (by omega)]
  by_cases hzero : length = 0
  · rw [if_pos hzero, hzero]
    exact ⟨queue, rfl, rfl⟩
  · rw [if_neg hzero]
    have hlength := queue.length_eq
    obtain ⟨chunks', headOffset', hresult, -, hunread⟩ :=
      readChunks_takes length queue.aligned (by omega)
    split
    · next heq =>
      rw [heq] at hresult
      cases hresult
    · next heq =>
      rw [heq] at hresult
      cases hresult
      exact ⟨_, rfl, hunread⟩

end BufferQueue

end Sepigs
