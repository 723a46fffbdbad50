import Mathlib.Data.List.Basic

/-!
# Reading from a paused socket (`utils/net.ts`)

`BufferedSocketReader` over a socket whose bytes come in chunks.  When chunks become
readable is up to the network: each look of the reader finds those that came since the
one before, none, one or several.
-/

namespace Sepigs

abbrev Bytes := List UInt8

structure SepigsError where
  code : String
  message : String
deriving DecidableEq, Repr

def ProtocolError (message : String) : SepigsError := ⟨"PROTOCOL_ERROR", message⟩

def errorCode (error : SepigsError) : String := error.code

/-- `readable` is what `read()` returns, chunk by chunk; `incoming` is what has come at
each later look; `ending` is what `waitForReadable` rejects with when nothing more comes. -/
structure ClientSocket where
  readable : List Bytes
  incoming : List (List Bytes)
  ending : SepigsError
deriving DecidableEq, Repr

namespace ClientSocket

/-- What has come in the meantime is readable. -/
def look (socket : ClientSocket) : ClientSocket :=
  match socket.incoming with
  | [] => socket
  | chunks :: incoming => { socket with readable := socket.readable ++ chunks, incoming := incoming }

def read (socket : ClientSocket) : Option Bytes × ClientSocket :=
  match socket.readable with
  | [] => (none, socket)
  | chunk :: readable => (some chunk, { socket with readable := readable })

/-- `waitForReadable`, and what is readable then. -/
def waitForReadable (socket : ClientSocket) : Except SepigsError ClientSocket :=
  match socket.incoming with
  | [] => .error socket.ending
  | _ :: _ => .ok socket.look

/-- The bytes that `read()` has not returned, in order. -/
def unread (socket : ClientSocket) : Bytes :=
  socket.readable.flatten ++ socket.incoming.flatten.flatten

end ClientSocket

structure BufferedSocketReader where
  buffer : Bytes
  socket : ClientSocket
  maxBytes : Nat
deriving DecidableEq, Repr

namespace BufferedSocketReader

def create (socket : ClientSocket) (maxBytes : Nat) : BufferedSocketReader :=
  { buffer := [], socket := socket, maxBytes := maxBytes }

def append (reader : BufferedSocketReader) (chunk : Bytes) : Except SepigsError BufferedSocketReader :=
  let nextLength := reader.buffer.length + chunk.length
  if reader.maxBytes < nextLength then
    .error (ProtocolError s!"protocol data exceeded {reader.maxBytes} bytes")
  else .ok { reader with buffer := reader.buffer ++ chunk }

def appendAll (reader : BufferedSocketReader) : List Bytes → Except SepigsError BufferedSocketReader
  | [] => .ok reader
  | chunk :: chunks =>
    match reader.append chunk with
    | .error error => .error error
    | .ok reader => reader.appendAll chunks

/-- All that is readable, or else one chunk after waiting. -/
def pull (reader : BufferedSocketReader) : Except SepigsError BufferedSocketReader :=
  let socket := reader.socket.look
  if socket.readable ≠ [] then
    { reader with socket := { socket with readable := [] } }.appendAll socket.readable
  else
    match socket.waitForReadable with
    | .error error => .error error
    | .ok socket =>
      match socket.read with
      | (none, socket) => .ok { reader with socket := socket }
      | (some chunk, socket) => { reader with socket := socket }.append chunk

/-- The loop of `readExact` and `readUntil`, for a number of rounds. -/
def pullLoop (ready : Bytes → Bool) : Nat → BufferedSocketReader → Except SepigsError BufferedSocketReader
  | rounds, reader =>
    if ready reader.buffer then .ok reader
    else
      match reader.pull with
      | .error error => .error error
      | .ok reader =>
        match rounds with
        | 0 => .error reader.socket.ending
        | rounds + 1 => pullLoop ready rounds reader

/-- Every round takes a list from `incoming` or empties `readable`. -/
def rounds (reader : BufferedSocketReader) : Nat :=
  reader.socket.incoming.length + if reader.socket.readable = [] then 0 else 1

def pullUntil (reader : BufferedSocketReader) (ready : Bytes → Bool) : Except SepigsError BufferedSocketReader :=
  pullLoop ready reader.rounds reader

def readExact (reader : BufferedSocketReader) (length : Nat) :
    Except SepigsError (Bytes × BufferedSocketReader) :=
  (reader.pullUntil fun buffer => decide (length ≤ buffer.length)).map fun reader =>
    (reader.buffer.take length, { reader with buffer := reader.buffer.drop length })

def readUntil (reader : BufferedSocketReader) (predicate : Bytes → Bool) :
    Except SepigsError (Bytes × BufferedSocketReader) :=
  (reader.pullUntil predicate).map fun reader => (reader.buffer, { reader with buffer := [] })

def releaseRemainder (reader : BufferedSocketReader) : Bytes × BufferedSocketReader :=
  (reader.buffer, { reader with buffer := [] })

/-- The bytes still to be read, buffered ones first. -/
def content (reader : BufferedSocketReader) : Bytes := reader.buffer ++ reader.socket.unread

/-- What each round adds to the buffer, as long as the network brings something. -/
def deliveriesFrom : List Bytes → List (List Bytes) → List Bytes
  | [], [] => []
  | chunk :: readable, [] => [(chunk :: readable).flatten]
  | chunk :: readable, chunks :: incoming =>
    (chunk :: readable ++ chunks).flatten :: deliveriesFrom [] incoming
  | [], (chunk :: chunks) :: incoming => (chunk :: chunks).flatten :: deliveriesFrom [] incoming
  | [], [[]] => []
  | [], [] :: [] :: incoming => [] :: deliveriesFrom [] incoming
  | [], [] :: (chunk :: chunks) :: incoming => chunk :: deliveriesFrom chunks incoming

def deliveries (reader : BufferedSocketReader) : List Bytes :=
  deliveriesFrom reader.socket.readable reader.socket.incoming

/-! ## What a round does -/

theorem append_spec {reader reader' : BufferedSocketReader} {chunk : Bytes}
    (h : reader.append chunk = .ok reader') :
    reader' = { reader with buffer := reader.buffer ++ chunk } := by
  unfold append at h
  simp only [] at h
  split at h
  · cases h
  · cases h
    rfl

theorem appendAll_spec {chunks : List Bytes} {reader reader' : BufferedSocketReader}
    (h : reader.appendAll chunks = .ok reader') :
    reader' = { reader with buffer := reader.buffer ++ chunks.flatten } := by
  induction chunks generalizing reader with
  | nil =>
    cases h
    simp
  | cons chunk chunks ih =>
    unfold appendAll at h
    cases happend : reader.append chunk with
    | error error =>
      rw [happend] at h
      cases h
    | ok next =>
      rw [happend] at h
      obtain rfl := append_spec happend
      rw [ih h]
      simp

/-- Below the limit nothing is refused. -/
theorem append_of_le {reader : BufferedSocketReader} {chunk : Bytes}
    (h : reader.buffer.length + chunk.length ≤ reader.maxBytes) :
    reader.append chunk = .ok { reader with buffer := reader.buffer ++ chunk } := by
  unfold append
  simp only []
  rw [if_neg]
  omega

theorem appendAll_of_le {chunks : List Bytes} {reader : BufferedSocketReader}
    (h : reader.buffer.length + chunks.flatten.length ≤ reader.maxBytes) :
    reader.appendAll chunks = .ok { reader with buffer := reader.buffer ++ chunks.flatten } := by
  induction chunks generalizing reader with
  | nil => simp [appendAll]
  | cons chunk chunks ih =>
    rw [List.flatten_cons, List.length_append] at h
    unfold appendAll
    rw [append_of_le (by omega)]
    simp only []
    rw [ih (by simp only [List.length_append]; omega)]
    simp

theorem deliveriesFrom_flatten (readable : List Bytes) (incoming : List (List Bytes)) :
    (deliveriesFrom readable incoming).flatten = readable.flatten ++ incoming.flatten.flatten := by
  induction readable, incoming using deliveriesFrom.induct with
  | case1 => rfl
  | case2 chunk readable => simp [deliveriesFrom]
  | case3 chunk readable chunks incoming ih => simp [deliveriesFrom, ih]
  | case4 chunk chunks incoming ih => simp [deliveriesFrom, ih]
  | case5 => rfl
  | case6 incoming ih => simp [deliveriesFrom, ih]
  | case7 chunk chunks incoming ih => simp [deliveriesFrom, ih]

theorem deliveries_flatten (reader : BufferedSocketReader) :
    reader.deliveries.flatten = reader.socket.unread := deliveriesFrom_flatten _ _

/-- A round appends chunks, which make one delivery, in a reader that took them from the socket. -/
structure Offers (reader : BufferedSocketReader) (chunks : List Bytes) (rest : BufferedSocketReader) :
    Prop where
  pull : reader.pull = rest.appendAll chunks
  deliveries : reader.deliveries = chunks.flatten :: rest.deliveries
  rounds : rest.rounds < reader.rounds
  buffer : rest.buffer = reader.buffer
  maxBytes : rest.maxBytes = reader.maxBytes
  ending : rest.socket.ending = reader.socket.ending

theorem appendAll_singleton (reader : BufferedSocketReader) (chunk : Bytes) :
    reader.appendAll [chunk] = reader.append chunk := by
  unfold appendAll
  cases reader.append chunk <;> rfl

/-- A round takes one delivery, or there is none. -/
theorem pull_cases (reader : BufferedSocketReader) :
    (reader.deliveries = [] ∧ reader.pull = .error reader.socket.ending) ∨
      ∃ chunks rest, reader.Offers chunks rest := by
  obtain ⟨buffer, ⟨readable, incoming, ending⟩, maxBytes⟩ := reader
  cases readable with
  | nil =>
    cases incoming with
    | nil => exact Or.inl ⟨rfl, rfl⟩
    | cons chunks incoming =>
      cases chunks with
      | cons chunk chunks =>
        refine Or.inr ⟨chunk :: chunks, ⟨buffer, ⟨[], incoming, ending⟩, maxBytes⟩, rfl, rfl, ?_, rfl, rfl, rfl⟩
        simp [rounds]
      | nil =>
        cases incoming with
        | nil => exact Or.inl ⟨rfl, rfl⟩
        | cons chunks incoming =>
          cases chunks with
          | nil =>
            refine Or.inr ⟨[], ⟨buffer, ⟨[], incoming, ending⟩, maxBytes⟩, rfl, rfl, ?_, rfl, rfl, rfl⟩
            simp [rounds]
          | cons chunk chunks =>
            refine Or.inr ⟨[chunk], ⟨buffer, ⟨chunks, incoming, ending⟩, maxBytes⟩, ?_, ?_, ?_, rfl, rfl, rfl⟩
            · rw [appendAll_singleton]
              rfl
            · show chunk :: deliveriesFrom chunks incoming = [chunk].flatten :: deliveriesFrom chunks incoming
              simp
            · simp only [rounds, List.length_cons]
              split <;> split <;> omega
  | cons chunk readable =>
    cases incoming with
    | nil =>
      refine Or.inr ⟨chunk :: readable, ⟨buffer, ⟨[], [], ending⟩, maxBytes⟩, rfl, rfl, ?_, rfl, rfl, rfl⟩
      simp [rounds]
    | cons chunks incoming =>
      refine Or.inr ⟨chunk :: readable ++ chunks, ⟨buffer, ⟨[], incoming, ending⟩, maxBytes⟩, rfl, rfl, ?_, rfl, rfl, rfl⟩
      show incoming.length + 0 < (chunks :: incoming).length + 1
      rw [List.length_cons]
      omega

/-- Rounds that brought some deliveries. -/
structure Pulled (reader : BufferedSocketReader) (added : List Bytes) (reader' : BufferedSocketReader) :
    Prop where
  buffer : reader'.buffer = reader.buffer ++ added.flatten
  deliveries : reader.deliveries = added ++ reader'.deliveries
  maxBytes : reader'.maxBytes = reader.maxBytes
  ending : reader'.socket.ending = reader.socket.ending

theorem Pulled.refl (reader : BufferedSocketReader) : Pulled reader [] reader :=
  ⟨by simp, rfl, rfl, rfl⟩

theorem Pulled.trans {r s t : BufferedSocketReader} {added more : List Bytes} (h : Pulled r added s)
    (h' : Pulled s more t) : Pulled r (added ++ more) t where
  buffer := by
    rw [h'.buffer, h.buffer, List.flatten_append, List.append_assoc]
  deliveries := by
    rw [h.deliveries, h'.deliveries, List.append_assoc]
  maxBytes := h'.maxBytes.trans h.maxBytes
  ending := h'.ending.trans h.ending

/-- No byte is lost or taken twice. -/
theorem Pulled.content {r s : BufferedSocketReader} {added : List Bytes} (h : Pulled r added s) :
    s.content = r.content := by
  unfold BufferedSocketReader.content
  rw [← deliveries_flatten, ← deliveries_flatten, h.deliveries, h.buffer, List.flatten_append,
    List.append_assoc]

theorem pull_spec {reader reader' : BufferedSocketReader} (h : reader.pull = .ok reader') :
    (∃ delivery, Pulled reader [delivery] reader') ∧ reader'.rounds < reader.rounds := by
  rcases pull_cases reader with ⟨-, hpull⟩ | ⟨chunks, rest, hoffers⟩
  · rw [hpull] at h
    cases h
  · rw [hoffers.pull] at h
    obtain rfl := appendAll_spec h
    refine ⟨⟨chunks.flatten, ?_, ?_, hoffers.maxBytes, hoffers.ending⟩, hoffers.rounds⟩
    · simp [hoffers.buffer]
    · exact hoffers.deliveries

/-- Within the limit a round fails only when the socket has ended. -/
theorem pull_error {reader : BufferedSocketReader} {error : SepigsError}
    (hlimit : reader.content.length ≤ reader.maxBytes) (h : reader.pull = .error error) :
    reader.deliveries = [] ∧ error = reader.socket.ending := by
  rcases pull_cases reader with ⟨hnone, hpull⟩ | ⟨chunks, rest, hoffers⟩
  · rw [hpull] at h
    cases h
    exact ⟨hnone, rfl⟩
  · have hle : rest.buffer.length + chunks.flatten.length ≤ rest.maxBytes := by
      unfold content at hlimit
      rw [← deliveries_flatten, hoffers.deliveries, List.flatten_cons, List.length_append,
        List.length_append] at hlimit
      rw [hoffers.buffer, hoffers.maxBytes]
      omega
    rw [hoffers.pull, appendAll_of_le hle] at h
    cases h

/-! ## The loop -/

theorem pull_of_rounds_zero {reader : BufferedSocketReader} (h : reader.rounds = 0) :
    ∃ error, reader.pull = .error error := by
  cases hpull : reader.pull with
  | error error => exact ⟨error, rfl⟩
  | ok reader' =>
    have hlt := (pull_spec hpull).2
    omega

theorem pullLoop_succ (ready : Bytes → Bool) (rounds : Nat) (reader : BufferedSocketReader) :
    pullLoop ready (rounds + 1) reader =
      if ready reader.buffer then .ok reader
      else
        match reader.pull with
        | .error error => .error error
        | .ok reader => pullLoop ready rounds reader := by
  rw [pullLoop]

theorem pullLoop_of_error (ready : Bytes → Bool) (n : Nat) {reader : BufferedSocketReader}
    {error : SepigsError} (h : reader.pull = .error error) :
    pullLoop ready n reader = if ready reader.buffer then .ok reader else .error error := by
  unfold pullLoop
  rw [h]

/-- Rounds beyond those there can be change nothing. -/
theorem pullLoop_congr (ready : Bytes → Bool) :
    ∀ (m n : Nat) (reader : BufferedSocketReader), reader.rounds ≤ m → reader.rounds ≤ n →
      pullLoop ready m reader = pullLoop ready n reader := by
  intro m
  induction m with
  | zero =>
    intro n reader hm hn
    obtain ⟨error, hpull⟩ := pull_of_rounds_zero (Nat.le_zero.mp hm)
    rw [pullLoop_of_error ready 0 hpull, pullLoop_of_error ready n hpull]
  | succ m ih =>
    intro n reader hm hn
    cases hpull : reader.pull with
    | error error => rw [pullLoop_of_error ready _ hpull, pullLoop_of_error ready n hpull]
    | ok reader' =>
      have hlt := (pull_spec hpull).2
      cases n with
      | zero => omega
      | succ n =>
        rw [pullLoop_succ, pullLoop_succ, hpull]
        simp only []
        rw [ih n reader' (by omega) (by omega)]

/-- The loop, one round at a time. -/
theorem pullUntil_eq (reader : BufferedSocketReader) (ready : Bytes → Bool) :
    reader.pullUntil ready =
      if ready reader.buffer then .ok reader
      else
        match reader.pull with
        | .error error => .error error
        | .ok reader => reader.pullUntil ready := by
  unfold pullUntil
  cases hpull : reader.pull with
  | error error => exact pullLoop_of_error ready _ hpull
  | ok reader' =>
    have hlt := (pull_spec hpull).2
    cases hrounds : reader.rounds with
    | zero => omega
    | succ n =>
      rw [pullLoop_succ, hpull]
      simp only []
      rw [pullLoop_congr ready n reader'.rounds reader' (by omega) (Nat.le_refl _)]

/-- The loop ends at the first delivery that makes the buffer ready. -/
theorem pullUntil_spec {ready : Bytes → Bool} :
    ∀ (n : Nat) {reader reader' : BufferedSocketReader}, reader.rounds ≤ n →
      reader.pullUntil ready = .ok reader' →
      ∃ added, Pulled reader added reader' ∧ ready reader'.buffer = true ∧
        ∀ k, k < added.length → ready (reader.buffer ++ (added.take k).flatten) = false := by
  intro n
  induction n with
  | zero =>
    intro reader reader' hn h
    obtain ⟨error, hpull⟩ := pull_of_rounds_zero (Nat.le_zero.mp hn)
    rw [pullUntil_eq, hpull] at h
    split at h
    · next hready =>
      cases h
      exact ⟨[], Pulled.refl reader, hready, fun k hk => absurd hk (Nat.not_lt_zero k)⟩
    · cases h
  | succ n ih =>
    intro reader reader' hn h
    rw [pullUntil_eq] at h
    split at h
    · next hready =>
      cases h
      exact ⟨[], Pulled.refl reader, hready, fun k hk => absurd hk (Nat.not_lt_zero k)⟩
    · next hready =>
      cases hpull : reader.pull with
      | error error =>
        rw [hpull] at h
        cases h
      | ok next =>
        rw [hpull] at h
        obtain ⟨⟨delivery, hpulled⟩, hlt⟩ := pull_spec hpull
        obtain ⟨added, hadded, hend, hbefore⟩ := ih (by omega) h
        refine ⟨delivery :: added, hpulled.trans hadded, hend, fun k hk => ?_⟩
        cases k with
        | zero => simpa using hready
        | succ k =>
          have hk' := hbefore k (by simpa using hk)
          rw [hpulled.buffer] at hk'
          simpa using hk'

/-- Within the limit the loop fails only when all the bytes have come without making the
buffer ready. -/
theorem pullUntil_error {ready : Bytes → Bool} :
    ∀ (n : Nat) {reader : BufferedSocketReader} {error : SepigsError}, reader.rounds ≤ n →
      reader.content.length ≤ reader.maxBytes → reader.pullUntil ready = .error error →
      error = reader.socket.ending ∧ ready reader.content = false := by
  intro n
  induction n with
  | zero =>
    intro reader error hn hlimit h
    obtain ⟨error', hpull⟩ := pull_of_rounds_zero (Nat.le_zero.mp hn)
    obtain ⟨hnone, rfl⟩ := pull_error hlimit hpull
    rw [pullUntil_eq, hpull] at h
    split at h
    · cases h
    · next hready =>
      cases h
      refine ⟨rfl, ?_⟩
      unfold content
      rw [← deliveries_flatten, hnone]
      simpa using hready
  | succ n ih =>
    intro reader error hn hlimit h
    rw [pullUntil_eq] at h
    split at h
    · cases h
    · next hready =>
      cases hpull : reader.pull with
      | error error' =>
        obtain ⟨hnone, rfl⟩ := pull_error hlimit hpull
        rw [hpull] at h
        cases h
        refine ⟨rfl, ?_⟩
        unfold content
        rw [← deliveries_flatten, hnone]
        simpa using hready
      | ok next =>
        rw [hpull] at h
        obtain ⟨⟨delivery, hpulled⟩, hlt⟩ := pull_spec hpull
        obtain ⟨herror, hcontent⟩ := ih (by omega) (by rw [hpulled.content, hpulled.maxBytes]; exact hlimit) h
        rw [hpulled.content] at hcontent
        rw [hpulled.ending] at herror
        exact ⟨herror, hcontent⟩

/-- `readExact` is about the bytes that come, not about when they come. -/
theorem readExact_spec {reader : BufferedSocketReader} (n : Nat)
    (hlimit : reader.content.length ≤ reader.maxBytes) :
    if n ≤ reader.content.length then
      ∃ reader', reader.readExact n = .ok (reader.content.take n, reader') ∧
        reader'.content = reader.content.drop n ∧ reader'.maxBytes = reader.maxBytes ∧
        reader'.socket.ending = reader.socket.ending
    else reader.readExact n = .error reader.socket.ending := by
  unfold readExact
  cases hpull : reader.pullUntil fun buffer => decide (n ≤ buffer.length) with
  | error error =>
    obtain ⟨rfl, hready⟩ := pullUntil_error reader.rounds (Nat.le_refl _) hlimit hpull
    rw [if_neg (of_decide_eq_false hready)]
    rfl
  | ok next =>
    obtain ⟨added, hpulled, hready, -⟩ := pullUntil_spec reader.rounds (Nat.le_refl _) hpull
    have hlength : n ≤ next.buffer.length := of_decide_eq_true hready
    have hcontent : reader.content = next.buffer ++ next.socket.unread := hpulled.content.symm
    rw [if_pos]
    · refine ⟨{ next with buffer := next.buffer.drop n }, ?_, ?_, hpulled.maxBytes, hpulled.ending⟩
      · rw [hcontent, List.take_append_of_le_length hlength]
        rfl
      · rw [hcontent, List.drop_append_of_le_length hlength]
        rfl
    · rw [hcontent, List.length_append]
      omega

end BufferedSocketReader

end Sepigs
