import Sepigs.Lib.Fifo
import Sepigs.Utils.BufferQueue

/-!
# The queue of chunks is a FIFO of bytes (`utils/bufferQueue.ts`)

`QueueFields` has the fields as they are, `read` takes any number, and its loop runs body by
body and writes into memory that was not cleared.  `push_fields` and `readLoop_gather` say
that this is the queue the decoders use, and over any calls it answers as `Fifo` does.
-/

namespace Sepigs

namespace BufferQueue

/-- A number of JavaScript. -/
inductive ReadLength where
  | finite (value : Rat)
  | infinite (negative : Bool)
  | nan

def ReadLength.isInteger : ReadLength → Bool
  | .finite value => value.den == 1
  | .infinite _ => false
  | .nan => false

/-- The number of bytes, if it is one. -/
def ReadLength.natural : ReadLength → Option Nat
  | .finite value => if value.den = 1 ∧ 0 ≤ value.num then some value.num.toNat else none
  | .infinite _ => none
  | .nan => none

/-- `Buffer.allocUnsafe`: whatever the memory holds. -/
def allocUnsafe (memory : Nat → UInt8) (length : Nat) : Bytes := (List.range length).map memory

/-- `source.copy(target, start)` -/
def copy (source target : Bytes) (start : Nat) : Bytes :=
  target.take start ++ source ++ target.drop (start + source.length)

def tooLong : SepigsError := ⟨"", "buffer queue read exceeds available bytes"⟩

def queueIsEmpty : SepigsError := ⟨"", "buffer queue is empty"⟩

end BufferQueue

structure QueueFields where
  chunks : List Bytes
  headOffset : Nat
  totalLength : Nat
deriving DecidableEq, Repr

namespace QueueFields

open BufferQueue

def empty : QueueFields := ⟨[], 0, 0⟩

def length (queue : QueueFields) : Nat := queue.totalLength

/-- The bytes still queued. -/
def content (queue : QueueFields) : Bytes := unread queue.chunks queue.headOffset

def push (queue : QueueFields) (chunk : Bytes) : QueueFields :=
  if chunk.length = 0 then queue
  else { queue with chunks := queue.chunks ++ [chunk], totalLength := queue.totalLength + chunk.length }

/-- `count` bytes of the first chunk are read, and a chunk read to its end goes. -/
def consume (queue : QueueFields) (chunk : Bytes) (count : Nat) : QueueFields :=
  let queue :=
    { queue with headOffset := queue.headOffset + count, totalLength := queue.totalLength - count }
  if queue.headOffset = chunk.length then { queue with chunks := queue.chunks.tail, headOffset := 0 }
  else queue

/-- `while (written < length)`, with `none` when so many bodies do not suffice. -/
def readLoop (length bodies : Nat) (queue : QueueFields) (written : Nat) (output : Bytes) :
    Option (Except SepigsError Bytes × QueueFields) :=
  if written < length then
    match bodies with
    | 0 => none
    | bodies + 1 =>
      match queue.chunks with
      | [] => some (.error queueIsEmpty, queue)
      | chunk :: _ =>
        let available := chunk.length - queue.headOffset
        let count := min available (length - written)
        readLoop length bodies (queue.consume chunk count) (written + count)
          (copy ((chunk.drop queue.headOffset).take count) output written)
  else some (.ok output, queue)

/-- `read` of a number of bytes that are there. -/
def readAvailable (memory : Nat → UInt8) (bodies : Nat) (queue : QueueFields) (length : Nat) :
    Option (Except SepigsError Bytes × QueueFields) :=
  if length = 0 then some (.ok [], queue)
  else
    let slow := readLoop length bodies queue 0 (allocUnsafe memory length)
    match queue.chunks with
    | [] => slow
    | first :: _ =>
      if length ≤ first.length - queue.headOffset then
        some (.ok ((first.drop queue.headOffset).take length), queue.consume first length)
      else slow

def read (memory : Nat → UInt8) (bodies : Nat) (queue : QueueFields) (length : ReadLength) :
    Option (Except SepigsError Bytes × QueueFields) :=
  match length with
  | .finite value =>
    if !length.isInteger ∨ value < 0 ∨ (queue.totalLength : Rat) < value then
      some (.error tooLong, queue)
    else readAvailable memory bodies queue value.num.toNat
  | .infinite _ => some (.error tooLong, queue)
  | .nan => some (.error tooLong, queue)

theorem readLoop_done {length written : Nat} (bodies : Nat) (queue : QueueFields) (output : Bytes)
    (h : length ≤ written) : readLoop length bodies queue written output = some (.ok output, queue) := by
  unfold readLoop
  rw [if_neg (by omega)]

theorem readLoop_body {length written bodies : Nat} {queue : QueueFields} {chunk : Bytes}
    {rest : List Bytes} (output : Bytes) (h : written < length) (hchunks : queue.chunks = chunk :: rest) :
    readLoop length (bodies + 1) queue written output =
      readLoop length bodies
        (queue.consume chunk (min (chunk.length - queue.headOffset) (length - written)))
        (written + min (chunk.length - queue.headOffset) (length - written))
        (copy ((chunk.drop queue.headOffset).take (min (chunk.length - queue.headOffset) (length - written)))
          output written) := by
  obtain ⟨chunks, headOffset, totalLength⟩ := queue
  obtain rfl : chunks = chunk :: rest := hchunks
  rw [readLoop, if_pos h]

theorem consume_all {chunk : Bytes} {rest : List Bytes} {headOffset totalLength count : Nat}
    (h : headOffset + count = chunk.length) :
    consume ⟨chunk :: rest, headOffset, totalLength⟩ chunk count = ⟨rest, 0, totalLength - count⟩ := by
  unfold consume
  simp only [h, if_pos, List.tail_cons]

theorem consume_part {chunk : Bytes} {rest : List Bytes} {headOffset totalLength count : Nat}
    (h : headOffset + count ≠ chunk.length) :
    consume ⟨chunk :: rest, headOffset, totalLength⟩ chunk count =
      ⟨chunk :: rest, headOffset + count, totalLength - count⟩ := by
  unfold consume
  simp only [h, if_false]

theorem length_copy {source target : Bytes} {start : Nat} (h : start + source.length ≤ target.length) :
    (copy source target start).length = target.length := by
  unfold copy
  simp only [List.length_append, List.length_take, List.length_drop]
  omega

/-- What was written, up to the end of the last copy. -/
theorem take_copy {source target : Bytes} {start : Nat} (h : start + source.length ≤ target.length) :
    (copy source target start).take (start + source.length) = target.take start ++ source := by
  have hlength : (target.take start ++ source).length = start + source.length := by
    rw [List.length_append, List.length_take]
    omega
  unfold copy
  rw [← hlength, List.take_left]

/-- The loop runs once for each chunk it needs, and gives what `gather` gathers, whatever the
memory held. -/
theorem readLoop_gather (chunks : List Bytes) :
    ∀ (headOffset totalLength written length bodies : Nat) (output gathered : Bytes)
      (chunks' : List Bytes) (headOffset' : Nat),
      Aligned chunks headOffset → chunks.length ≤ bodies → output.length = length → written ≤ length →
      gather chunks headOffset (length - written) (output.take written) =
        .ok (gathered, chunks', headOffset') →
      readLoop length bodies ⟨chunks, headOffset, totalLength⟩ written output =
        some (.ok gathered, ⟨chunks', headOffset', totalLength - (length - written)⟩) := by
  have hdone : ∀ (chunks chunks' : List Bytes)
      (headOffset headOffset' totalLength written length bodies : Nat) (output gathered : Bytes),
      output.length = length → length - written = 0 →
      gather chunks headOffset (length - written) (output.take written) =
        .ok (gathered, chunks', headOffset') →
      readLoop length bodies ⟨chunks, headOffset, totalLength⟩ written output =
        some (.ok gathered, ⟨chunks', headOffset', totalLength - (length - written)⟩) := by
    intro chunks chunks' headOffset headOffset' totalLength written length bodies output gathered
      hlength hzero h
    rw [hzero, gather, List.take_of_length_le (by omega)] at h
    cases h
    rw [readLoop_done bodies _ output (by omega), hzero, Nat.sub_zero]
  induction chunks with
  | nil =>
    intro headOffset totalLength written length bodies output gathered chunks' headOffset'
      _ _ hlength _ h
    by_cases hzero : length - written = 0
    · exact hdone _ _ _ _ _ _ _ _ _ _ hlength hzero h
    · obtain ⟨missing, hmissing⟩ := Nat.exists_eq_succ_of_ne_zero hzero
      rw [hmissing] at h
      simp [gather] at h
  | cons chunk rest ih =>
    intro headOffset totalLength written length bodies output gathered chunks' headOffset'
      haligned hbodies hlength hwritten h
    by_cases hzero : length - written = 0
    · exact hdone _ _ _ _ _ _ _ _ _ _ hlength hzero h
    · obtain ⟨missing, hmissing⟩ := Nat.exists_eq_succ_of_ne_zero hzero
      have hlt := haligned.1
      obtain ⟨bodies, rfl⟩ : ∃ k, bodies = k + 1 := ⟨bodies - 1, by
        rw [List.length_cons] at hbodies
        omega⟩
      rw [readLoop_body output (by omega) rfl]
      rw [hmissing] at h ⊢
      unfold gather at h
      simp only [] at h ⊢
      generalize hcount : min (chunk.length - headOffset) (missing + 1) = count at h ⊢
      have hslice : ((chunk.drop headOffset).take count).length = count := by
        rw [List.length_take, List.length_drop]
        omega
      have hfits : written + ((chunk.drop headOffset).take count).length ≤ output.length := by omega
      have htake := take_copy hfits
      rw [hslice] at htake
      by_cases hend : headOffset + count = chunk.length
      · rw [if_pos hend, ← htake, show missing + 1 - count = length - (written + count) by omega] at h
        rw [consume_all hend, ih 0 (totalLength - count) (written + count) length bodies _ gathered
          chunks' headOffset' haligned.shift ?_ ?_ (by omega) h]
        · rw [show totalLength - count - (length - (written + count)) = totalLength - (missing + 1) by omega]
        · rw [List.length_cons] at hbodies
          omega
        · rw [length_copy hfits, hlength]
      · rw [if_neg hend, ← htake] at h
        have hall : written + count = length := by omega
        rw [consume_part hend, readLoop_done bodies _ _ (by omega)]
        rw [hall, List.take_of_length_le (by rw [length_copy hfits]; omega)] at h
        cases h
        rw [show totalLength - count = totalLength - (missing + 1) by omega]

end QueueFields

namespace BufferQueue

open QueueFields

def fields (queue : BufferQueue) : QueueFields := ⟨queue.chunks, queue.headOffset, queue.totalLength⟩

@[simp] theorem fields_chunks (queue : BufferQueue) : queue.fields.chunks = queue.chunks := rfl

@[simp] theorem fields_content (queue : BufferQueue) : queue.fields.content = queue.content := rfl

@[simp] theorem fields_length (queue : BufferQueue) : queue.fields.length = queue.content.length :=
  queue.totalLength_eq

theorem push_fields (queue : BufferQueue) (chunk : Bytes) :
    queue.fields.push chunk = (queue.push chunk).fields := by
  unfold QueueFields.push BufferQueue.push
  by_cases hzero : chunk.length = 0
  · rw [if_pos hzero, dif_pos hzero]
  · rw [if_neg hzero, dif_neg hzero]
    rfl

theorem push_chunks_le (queue : BufferQueue) (chunk : Bytes) :
    (queue.push chunk).chunks.length ≤ queue.chunks.length + 1 := by
  unfold push
  split
  · omega
  · simp

theorem gather_chunks_le {chunks chunks' : List Bytes} {headOffset headOffset' length : Nat}
    {output gathered : Bytes} (h : gather chunks headOffset length output = .ok (gathered, chunks', headOffset')) :
    chunks'.length ≤ chunks.length := by
  induction chunks generalizing headOffset length output with
  | nil =>
    unfold gather at h
    split at h
    · cases h
      exact Nat.le_refl _
    · cases h
    · simp_all
  | cons chunk rest ih =>
    by_cases hzero : length = 0
    · rw [hzero, gather] at h
      cases h
      exact Nat.le_refl _
    · obtain ⟨missing, rfl⟩ := Nat.exists_eq_succ_of_ne_zero hzero
      unfold gather at h
      simp only [] at h
      split at h
      · have hle := ih h
        rw [List.length_cons]
        omega
      · cases h
        exact Nat.le_refl _

/-- The fields after a read that took something. -/
theorem read_readChunks {queue queue' : BufferQueue} {length : Nat} {output : Bytes} (hpos : length ≠ 0)
    (hread : queue.read length = .ok (output, queue')) :
    readChunks queue.chunks queue.headOffset length = .ok (output, queue'.chunks, queue'.headOffset) ∧
      queue'.totalLength = queue.totalLength - length := by
  unfold read at hread
  by_cases hlong : queue.totalLength < length
  · rw [dif_pos hlong] at hread
    cases hread
  · rw [dif_neg hlong, if_neg hpos] at hread
    split at hread
    · cases hread
    · next heq =>
      cases hread
      exact ⟨heq, rfl⟩

theorem readAvailable_readChunks (memory : Nat → UInt8) {bodies length : Nat} {queue : BufferQueue}
    {output : Bytes} {chunks' : List Bytes} {headOffset' : Nat} (hpos : length ≠ 0)
    (hbodies : queue.chunks.length ≤ bodies)
    (h : readChunks queue.chunks queue.headOffset length = .ok (output, chunks', headOffset')) :
    queue.fields.readAvailable memory bodies length =
        some (.ok output, ⟨chunks', headOffset', queue.totalLength - length⟩) ∧
      chunks'.length ≤ queue.chunks.length := by
  have hslow : gather queue.chunks queue.headOffset length [] = .ok (output, chunks', headOffset') →
      readLoop length bodies queue.fields 0 (allocUnsafe memory length) =
        some (.ok output, ⟨chunks', headOffset', queue.totalLength - length⟩) := by
    intro hgather
    have hlength : (allocUnsafe memory length).length = length := by simp [allocUnsafe]
    exact readLoop_gather queue.chunks queue.headOffset queue.totalLength 0 length bodies _ output
      chunks' headOffset' queue.aligned hbodies hlength (Nat.zero_le _) hgather
  have haligned := queue.aligned
  unfold QueueFields.readAvailable
  rw [if_neg hpos, fields_chunks]
  simp only []
  generalize hchunks : queue.chunks = chunks at h hslow haligned ⊢
  cases chunks with
  | nil => exact ⟨hslow h, gather_chunks_le h⟩
  | cons first rest =>
    unfold readChunks at h
    simp only [] at h ⊢
    by_cases hshort : length ≤ first.length - queue.headOffset
    · have hlt := haligned.1
      rw [if_pos hshort] at h
      rw [if_pos (show length ≤ first.length - queue.fields.headOffset from hshort)]
      have hfields : queue.fields = ⟨first :: rest, queue.headOffset, queue.totalLength⟩ := by
        rw [← hchunks]
        rfl
      rw [hfields]
      by_cases hend : queue.headOffset + length = first.length
      · rw [if_pos hend] at h
        rw [consume_all hend]
        cases h
        exact ⟨rfl, by simp⟩
      · rw [if_neg hend] at h
        rw [consume_part hend]
        cases h
        exact ⟨rfl, Nat.le_refl _⟩
    · rw [if_neg hshort] at h
      rw [if_neg (show ¬ length ≤ first.length - queue.fields.headOffset from hshort)]
      exact ⟨hslow h, gather_chunks_le h⟩

/-- A read of bytes that are there: the fields hold what `read` of the queue gives. -/
theorem readAvailable_spec (memory : Nat → UInt8) {bodies length : Nat} (queue : BufferQueue)
    (hbodies : queue.chunks.length ≤ bodies) (hle : length ≤ queue.totalLength) :
    ∃ queue' : BufferQueue, queue.read length = .ok (queue.content.take length, queue') ∧
      queue.fields.readAvailable memory bodies length =
        some (.ok (queue.content.take length), queue'.fields) ∧
      queue'.content = queue.content.drop length ∧ queue'.chunks.length ≤ queue.chunks.length := by
  by_cases hzero : length = 0
  · subst hzero
    refine ⟨queue, ?_, rfl, rfl, Nat.le_refl _⟩
    rw [read, dif_neg (Nat.not_lt_zero _), if_pos rfl]
    rfl
  · obtain ⟨queue', hread, hcontent⟩ := queue.read_spec hle
    obtain ⟨hchunks, htotal⟩ := read_readChunks hzero hread
    obtain ⟨havailable, hle'⟩ := readAvailable_readChunks memory hzero hbodies hchunks
    refine ⟨queue', hread, ?_, hcontent, hle'⟩
    rw [havailable, ← htotal]
    rfl

theorem ReadLength.natural_eq_some {length : ReadLength} {k : Nat} :
    length.natural = some k ↔ length = .finite k := by
  rcases length with value | negative | _
  · constructor
    · intro h
      unfold natural at h
      simp only [] at h
      split at h
      · next hvalue =>
        cases h
        have hnum : (value.num.toNat : Int) = value.num := Int.toNat_of_nonneg hvalue.2
        rw [ReadLength.finite.injEq]
        apply Rat.ext
        · rw [Rat.num_natCast, hnum]
        · rw [Rat.den_natCast, hvalue.1]
      · cases h
    · intro h
      cases h
      simp [natural]
  · simp [natural]
  · simp [natural]

theorem read_of_natural {length : ReadLength} {k : Nat} (memory : Nat → UInt8) (bodies : Nat)
    (queue : QueueFields) (hlength : length.natural = some k) (hle : k ≤ queue.totalLength) :
    queue.read memory bodies length = queue.readAvailable memory bodies k := by
  obtain rfl := ReadLength.natural_eq_some.mp hlength
  unfold QueueFields.read
  simp only []
  rw [if_neg, Rat.num_natCast, Int.toNat_natCast]
  rintro (hinteger | hneg | hlong)
  · simp [ReadLength.isInteger] at hinteger
  · exact Rat.not_lt.mpr (by exact_mod_cast Nat.zero_le k) hneg
  · exact Rat.not_lt.mpr (by exact_mod_cast hle) hlong

theorem read_tooLong {length : ReadLength} (memory : Nat → UInt8) (bodies : Nat) (queue : QueueFields)
    (h : ∀ k, length.natural = some k → queue.totalLength < k) :
    queue.read memory bodies length = some (.error tooLong, queue) := by
  rcases length with value | negative | _
  · unfold QueueFields.read
    simp only []
    rw [if_pos]
    by_cases hden : value.den = 1
    · by_cases hnum : 0 ≤ value.num
      · right
        right
        have hlt := h value.num.toNat (by simp [ReadLength.natural, hden, hnum])
        have hvalue : value = ((value.num.toNat : Nat) : Rat) :=
          ReadLength.finite.inj (ReadLength.natural_eq_some.mp (by simp [ReadLength.natural, hden, hnum]))
        rw [hvalue]
        exact_mod_cast hlt
      · right
        left
        exact Rat.not_le.mp fun hle => hnum (Rat.num_nonneg.mpr hle)
    · left
      simp [ReadLength.isInteger, hden]
  · rfl
  · rfl

theorem read_eq_tooLong_iff {length : ReadLength} (queue : QueueFields) :
    (∀ k, length.natural = some k → queue.totalLength < k) ↔
      ∀ k : Nat, length = .finite k → queue.length < k := by
  constructor
  · intro h k hk
    exact h k (ReadLength.natural_eq_some.mpr hk)
  · intro h k hk
    exact h k (ReadLength.natural_eq_some.mp hk)

/-- The memory that `allocUnsafe` finds may be another at each read. -/
inductive QueueCall where
  | push (chunk : Bytes)
  | read (length : ReadLength) (memory : Nat → UInt8)

inductive QueueAnswer where
  | pushed
  | read (result : Except SepigsError Bytes)

def step (bodies : Nat) (queue : QueueFields) : QueueCall → Option (QueueAnswer × QueueFields)
  | .push chunk => some (.pushed, queue.push chunk)
  | .read length memory =>
    (queue.read memory bodies length).map fun next => (.read next.1, next.2)

def run (bodies : Nat) : QueueFields → List QueueCall → Option (List QueueAnswer × QueueFields) :=
  Fifo.runMachine (step bodies)

def QueueCall.fifo : QueueCall → Fifo.Call UInt8
  | .push chunk => .push chunk
  | .read length _ => .read length.natural

def QueueAnswer.fifo : QueueAnswer → Fifo.Answer UInt8
  | .pushed => .pushed
  | .read (.ok output) => .given output
  | .read (.error _) => .refused

/-- The bytes of the pushes. -/
def pushed (calls : List QueueCall) : Bytes := Fifo.pushed (calls.map QueueCall.fifo)

/-- The bytes of the successful reads. -/
def received (answers : List QueueAnswer) : Bytes := Fifo.received (answers.map QueueAnswer.fifo)

/-- The fields of a queue whose chunks and the calls to come are no more than the loop's bodies. -/
def Within (bodies calls : Nat) (queue : QueueFields) : Prop :=
  ∃ chunked : BufferQueue, chunked.fields = queue ∧ chunked.chunks.length + calls ≤ bodies

/-- A read answers as the FIFO does, and only `tooLong` is thrown. -/
theorem read_within {bodies calls : Nat} {queue : QueueFields} (h : Within bodies calls queue)
    (length : ReadLength) (memory : Nat → UInt8) :
    (∃ k queue', length.natural = some k ∧ k ≤ queue.length ∧
      queue.read memory bodies length = some (.ok (queue.content.take k), queue') ∧
      queue'.content = queue.content.drop k ∧ Within bodies calls queue') ∨
    (∀ k, length.natural = some k → queue.length < k) ∧
      queue.read memory bodies length = some (.error tooLong, queue) := by
  obtain ⟨chunked, rfl, hbodies⟩ := h
  by_cases hlong : ∀ k, length.natural = some k → chunked.fields.length < k
  · right
    exact ⟨hlong, read_tooLong memory bodies chunked.fields hlong⟩
  · left
    obtain ⟨k, hk, hle⟩ : ∃ k, length.natural = some k ∧ k ≤ chunked.fields.length := by
      by_contra hnone
      apply hlong
      intro k hk
      by_contra hlt
      exact hnone ⟨k, hk, by omega⟩
    obtain ⟨chunked', -, havailable, hcontent, hchunks⟩ :=
      @readAvailable_spec memory bodies k chunked (by omega) hle
    refine ⟨k, chunked'.fields, hk, hle, ?_, hcontent, chunked', rfl, by omega⟩
    rw [read_of_natural memory bodies chunked.fields hk hle, havailable]
    rfl

theorem step_within {bodies calls : Nat} {queue : QueueFields} (call : QueueCall)
    (h : Within bodies (calls + 1) queue) :
    ∃ answer queue', step bodies queue call = some (answer, queue') ∧ Within bodies calls queue' ∧
      Fifo.call queue.content call.fifo = (answer.fifo, queue'.content) := by
  rcases call with chunk | ⟨length, memory⟩
  · obtain ⟨chunked, rfl, hbodies⟩ := h
    have hchunks := chunked.push_chunks_le chunk
    refine ⟨.pushed, _, rfl, ⟨chunked.push chunk, (push_fields chunked chunk).symm, by omega⟩, ?_⟩
    rw [push_fields, fields_content, fields_content, push_content]
    rfl
  · have hlength : queue.length = queue.content.length := by
      obtain ⟨chunked, rfl, -⟩ := h
      exact fields_length chunked
    rcases read_within h length memory with ⟨k, queue', hk, hle, hread, hcontent, hwithin⟩ | ⟨hlong, hread⟩
    · obtain ⟨chunked', hfields, hbodies⟩ := hwithin
      refine ⟨.read (.ok (queue.content.take k)), queue', ?_, ⟨chunked', hfields, by omega⟩, ?_⟩
      · simp [step, hread]
      · rw [hlength] at hle
        simp [QueueCall.fifo, hk, Fifo.call, hle, QueueAnswer.fifo, hcontent]
    · obtain ⟨chunked, hfields, hbodies⟩ := h
      refine ⟨.read (.error tooLong), queue, ?_, ⟨chunked, hfields, by omega⟩, ?_⟩
      · simp [step, hread]
      · cases hnatural : length.natural with
        | none => simp [QueueCall.fifo, hnatural, Fifo.call, QueueAnswer.fifo]
        | some k =>
          have hlt := hlong k hnatural
          rw [hlength] at hlt
          simp [QueueCall.fifo, hnatural, Fifo.call, QueueAnswer.fifo, hlt]

/-- **The queue is a FIFO of bytes.**  Over any calls every loop ends, within as many bodies as
there are calls, and the answers are the FIFO's.  Then a read of any number throws, and leaves
the queue as it is, exactly if no so many bytes are queued. -/
theorem run_fifo (calls : List QueueCall) (more : Nat) :
    ∃ answers queue, run (calls.length + more) .empty calls = some (answers, queue) ∧
      Fifo.run [] (calls.map QueueCall.fifo) = (answers.map QueueAnswer.fifo, queue.content) ∧
      received answers ++ queue.content = pushed calls ∧
      queue.length = queue.content.length ∧
      ∀ length memory, ∃ result queue',
        queue.read memory (calls.length + more) length = some (result, queue') ∧
        ((∃ error, result = .error error) ↔ ∀ k : Nat, length = .finite k → queue.length < k) ∧
        (∀ error, result = .error error → error = tooLong ∧ queue' = queue) ∧
        (∀ output, result = .ok output → ∃ k : Nat, length = .finite k ∧
          output = queue.content.take k ∧ queue'.content = queue.content.drop k) := by
  have hstart : Within (calls.length + more) (0 + calls.length) .empty := ⟨.empty, rfl, by
    show 0 + (0 + calls.length) ≤ calls.length + more
    omega⟩
  obtain ⟨answers, queue, hrun, hwithin, hfifo⟩ :=
    Fifo.run_refines (fun _ _ call h => step_within call h) calls QueueFields.empty 0 hstart
  refine ⟨answers, queue, hrun, hfifo, ?_, ?_, fun length memory => ?_⟩
  · have hall := Fifo.received_append [] (calls.map QueueCall.fifo)
    rw [show QueueFields.empty.content = [] from rfl] at hfifo
    rw [hfifo] at hall
    exact hall
  · obtain ⟨chunked, rfl, -⟩ := hwithin
    exact fields_length chunked
  · rcases read_within hwithin length memory with ⟨k, queue', hk, hle, hread, hcontent, -⟩ | ⟨hlong, hread⟩
    · have hlength := ReadLength.natural_eq_some.mp hk
      refine ⟨_, queue', hread, ⟨?_, ?_⟩, ?_, ?_⟩
      · rintro ⟨error, herror⟩
        cases herror
      · intro hlt
        exact absurd (hlt k hlength) (Nat.not_lt.mpr hle)
      · intro error herror
        cases herror
      · intro output houtput
        cases houtput
        exact ⟨k, hlength, rfl, hcontent⟩
    · refine ⟨_, queue, hread, ⟨fun _ => ?_, fun _ => ⟨tooLong, rfl⟩⟩, ?_, ?_⟩
      · exact (read_eq_tooLong_iff queue).mp hlong
      · intro error herror
        cases herror
        exact ⟨rfl, rfl⟩
      · intro output houtput
        cases houtput

/-- "ab" and "cdef", and reads of 3, `NaN` and 3. -/
example : (run 5 .empty [.push [97, 98], .push [99, 100, 101, 102], .read (.finite 3) fun _ => 7,
      .read .nan fun _ => 7, .read (.finite 3) fun _ => 7]).map Prod.fst =
    some [.pushed, .pushed, .read (.ok [97, 98, 99]), .read (.error tooLong),
      .read (.ok [100, 101, 102])] := by
  rfl

end BufferQueue

end Sepigs
