import Sepigs.Lib.JsMap

/-!
# Single flight (`dns/singleFlight.ts`)

A table of flights under their scoped keys: a call of `run` joins the flight that is there
or starts one.  The flights of a table are kept in the order in which they were started, the
settled ones too, so that a flight is known by its number.

`tracks` of `Sound` is what the removal in the `finally` of a flight rests on: it deletes by
key, and the key leads to the flight itself.
-/

namespace Sepigs

/-- An error of a lookup: its class and its message. -/
structure DnsError where
  name : String
  message : String
deriving DecidableEq, Repr

/-- One call of `run` that started an operation. -/
structure Flight (ω ν : Type) where
  scopedKey : String
  operation : ω
  timeoutMs : Option Nat
  /-- `controller.signal.aborted` -/
  aborted : Bool
  /-- How the race of the operation, the abort and the timer ended. -/
  outcome : Option (Except DnsError ν)
  /-- The `finally` of the race has run. -/
  settled : Bool
deriving Repr

namespace Flight

variable {ω ν : Type}

/-- The first candidate of the race to end decides it. -/
def conclude (flight : Flight ω ν) (outcome : Except DnsError ν) : Flight ω ν :=
  { flight with outcome := flight.outcome <|> some outcome }

/-- `controller.abort()`, with the listener `onAbort`. -/
def abort (generationId : String) (flight : Flight ω ν) : Flight ω ν :=
  { flight.conclude (.error ⟨"NetworkError",
      s!"DNS single-flight aborted for generation \"{generationId}\""⟩) with aborted := true }

/-- The timer of the flight fires. -/
def timeout (generationId : String) (timeoutMs : Nat) (flight : Flight ω ν) : Flight ω ν :=
  (flight.conclude (.error ⟨"TimeoutError",
    s!"DNS single-flight timeout after {timeoutMs}ms"⟩)).abort generationId

/-- A later state of the same flight. -/
structure Later (flight flight' : Flight ω ν) : Prop where
  scopedKey : flight'.scopedKey = flight.scopedKey
  outcome : ∀ outcome, flight.outcome = some outcome → flight'.outcome = some outcome
  settled : flight.settled = true → flight'.settled = true

theorem Later.refl (flight : Flight ω ν) : flight.Later flight :=
  ⟨rfl, fun _ h => h, fun h => h⟩

theorem Later.trans {a b c : Flight ω ν} (h : a.Later b) (h' : b.Later c) : a.Later c where
  scopedKey := h'.scopedKey.trans h.scopedKey
  outcome := fun outcome houtcome => h'.outcome outcome (h.outcome outcome houtcome)
  settled := fun hsettled => h'.settled (h.settled hsettled)

theorem later_conclude (flight : Flight ω ν) (outcome : Except DnsError ν) :
    flight.Later (flight.conclude outcome) := by
  refine ⟨rfl, ?_, fun h => h⟩
  intro earlier h
  show (flight.outcome <|> some outcome) = some earlier
  rw [h]
  rfl

theorem later_abort (generationId : String) (flight : Flight ω ν) :
    flight.Later (flight.abort generationId) := by
  have h := flight.later_conclude (.error ⟨"NetworkError",
    s!"DNS single-flight aborted for generation \"{generationId}\""⟩)
  exact ⟨h.scopedKey, h.outcome, h.settled⟩

theorem later_timeout (generationId : String) (timeoutMs : Nat) (flight : Flight ω ν) :
    flight.Later (flight.timeout generationId timeoutMs) :=
  (flight.later_conclude _).trans (later_abort generationId _)

end Flight

/-- `entries` leads from a scoped key to the number of its flight. -/
structure GenerationSingleFlight (ω ν : Type) where
  generationId : String
  entries : JsMap String Nat
  flights : List (Flight ω ν)

namespace GenerationSingleFlight

variable {ω ν : Type}

/-- The constructor. -/
def create (generationId : String) : GenerationSingleFlight ω ν := ⟨generationId, ∅, []⟩

def scopedKey (table : GenerationSingleFlight ω ν) (key : String) : String :=
  s!"{table.generationId}:{key}"

/-- `run`: the number of the flight whose promise is returned. -/
def run (table : GenerationSingleFlight ω ν) (key : String) (operation : ω)
    (timeoutMs : Option Nat) : Nat × GenerationSingleFlight ω ν :=
  match table.entries.get (table.scopedKey key) with
  | some existing => (existing, table)
  | none =>
    (table.flights.length, { table with
      entries := table.entries.set (table.scopedKey key) table.flights.length
      flights := table.flights ++ [{
        scopedKey := table.scopedKey key
        operation := operation
        timeoutMs := timeoutMs
        aborted := false
        outcome := none
        settled := false }] })

def size (table : GenerationSingleFlight ω ν) : Nat := table.entries.size

/-- A change of one flight. -/
def update (table : GenerationSingleFlight ω ν) (i : Nat) (f : Flight ω ν → Flight ω ν) :
    GenerationSingleFlight ω ν :=
  match table.flights[i]? with
  | none => table
  | some flight => { table with flights := table.flights.set i (f flight) }

def abortAll (table : GenerationSingleFlight ω ν) : GenerationSingleFlight ω ν :=
  table.entries.values.foldl (fun table i => table.update i (Flight.abort table.generationId)) table

/-- The `finally` of the race of a flight. -/
def settle (table : GenerationSingleFlight ω ν) (i : Nat) : GenerationSingleFlight ω ν :=
  match table.flights[i]? with
  | none => table
  | some flight =>
    { (table.update i fun flight => { flight with settled := true }) with
      entries := table.entries.delete flight.scopedKey }

/-- The number of flights that have not settled. -/
def unsettled (table : GenerationSingleFlight ω ν) : Nat :=
  table.flights.countP fun flight => !flight.settled

/-! ## One flight at a time -/

/-- The table holds the flights that have not settled, each under its key. -/
structure Sound (table : GenerationSingleFlight ω ν) : Prop where
  tracks : ∀ key i, table.entries.get key = some i ↔
    ∃ flight : Flight ω ν, table.flights[i]? = some flight ∧ flight.scopedKey = key ∧
      flight.settled = false
  counts : table.size = table.unsettled
  decided : ∀ (i : Nat) (flight : Flight ω ν), table.flights[i]? = some flight → flight.settled = true →
    flight.outcome.isSome = true

theorem Sound.one_unsettled {table : GenerationSingleFlight ω ν} (h : table.Sound) {i j : Nat}
    {flight flight' : Flight ω ν} (hi : table.flights[i]? = some flight)
    (hj : table.flights[j]? = some flight') (hunsettled : flight.settled = false)
    (hunsettled' : flight'.settled = false) (hkey : flight.scopedKey = flight'.scopedKey) :
    i = j := by
  have hget := (h.tracks flight'.scopedKey i).mpr ⟨flight, hi, hkey, hunsettled⟩
  have hget' := (h.tracks flight'.scopedKey j).mpr ⟨flight', hj, rfl, hunsettled'⟩
  exact Option.some.inj (hget.symm.trans hget')

/-- Every flight of a table is still there, in a later state; only those that `settling`
lists may have settled, and new ones are there only if `starting`. -/
structure Since (settling : Nat → Prop) (starting : Prop) (table table' : GenerationSingleFlight ω ν) :
    Prop where
  flights : ∀ (i : Nat) (flight : Flight ω ν), table.flights[i]? = some flight →
    ∃ flight', table'.flights[i]? = some flight' ∧ flight.Later flight' ∧
      (flight'.settled = flight.settled ∨ settling i)
  started : table'.flights.length = table.flights.length ∨ starting

namespace Since

variable {settling settling' : Nat → Prop} {starting starting' : Prop}
  {a b c : GenerationSingleFlight ω ν}

theorem refl (table : GenerationSingleFlight ω ν) : Since settling starting table table :=
  ⟨fun _ flight h => ⟨flight, h, Flight.Later.refl flight, Or.inl rfl⟩, Or.inl rfl⟩

theorem trans (h : Since settling starting a b) (h' : Since settling starting b c) :
    Since settling starting a c where
  flights := by
    intro i flight hi
    obtain ⟨flight', hi', hlater, hsettled⟩ := h.flights i flight hi
    obtain ⟨flight'', hi'', hlater', hsettled'⟩ := h'.flights i flight' hi'
    refine ⟨flight'', hi'', hlater.trans hlater', ?_⟩
    rcases hsettled' with heq | hsettling
    · rw [heq]
      exact hsettled
    · exact Or.inr hsettling
  started := by
    rcases h.started with heq | hstarting
    · rcases h'.started with heq' | hstarting
      · exact Or.inl (heq'.trans heq)
      · exact Or.inr hstarting
    · exact Or.inr hstarting

theorem mono (h : Since settling starting a b) (hsettling : ∀ i, settling i → settling' i)
    (hstarting : starting → starting') : Since settling' starting' a b where
  flights := by
    intro i flight hi
    obtain ⟨flight', hi', hlater, hsettled⟩ := h.flights i flight hi
    exact ⟨flight', hi', hlater, hsettled.imp_right (hsettling i)⟩
  started := h.started.imp_right hstarting

end Since

theorem sound_create (generationId : String) :
    (create generationId : GenerationSingleFlight ω ν).Sound where
  tracks := by
    intro key i
    constructor
    · intro h
      cases h
    · rintro ⟨flight, h, -⟩
      cases h
  counts := rfl
  decided := by
    intro i flight h
    cases h

section Update

variable {table : GenerationSingleFlight ω ν} {i : Nat} {f : Flight ω ν → Flight ω ν}

theorem flights_update (j : Nat) :
    (table.update i f).flights[j]? = if i = j then table.flights[j]?.map f else table.flights[j]? := by
  unfold update
  cases hflight : table.flights[i]? with
  | none =>
    show table.flights[j]? = _
    split
    · next heq =>
      subst heq
      rw [hflight]
      rfl
    · rfl
  | some flight =>
    show (table.flights.set i (f flight))[j]? = _
    rw [List.getElem?_set]
    split
    · next heq =>
      subst heq
      have hlt : i < table.flights.length := (List.getElem?_eq_some_iff.mp hflight).1
      rw [if_pos hlt, hflight]
      rfl
    · rfl

theorem entries_update : (table.update i f).entries = table.entries := by
  unfold update
  split <;> rfl

theorem generationId_update : (table.update i f).generationId = table.generationId := by
  unfold update
  split <;> rfl

theorem length_flights_update : (table.update i f).flights.length = table.flights.length := by
  unfold update
  split
  · rfl
  · exact List.length_set

theorem since_update {settling : Nat → Prop} {starting : Prop}
    (hf : ∀ flight, flight.Later (f flight) ∧ (f flight).settled = flight.settled) :
    Since settling starting table (table.update i f) where
  flights := by
    intro j flight hj
    rw [flights_update]
    by_cases heq : i = j
    · subst heq
      rw [if_pos rfl, hj]
      exact ⟨f flight, rfl, (hf flight).1, Or.inl (hf flight).2⟩
    · rw [if_neg heq]
      exact ⟨flight, hj, Flight.Later.refl flight, Or.inl rfl⟩
  started := Or.inl length_flights_update

theorem unsettled_update (hf : ∀ flight, (f flight).settled = flight.settled) :
    (table.update i f).unsettled = table.unsettled := by
  unfold update
  cases hflight : table.flights[i]? with
  | none => rfl
  | some flight =>
    obtain ⟨hlt, hget⟩ := List.getElem?_eq_some_iff.mp hflight
    show (table.flights.set i (f flight)).countP _ = table.flights.countP _
    rw [List.countP_set hlt, hget, hf flight]
    have hle : (if (!flight.settled) = true then 1 else 0) ≤
        table.flights.countP fun flight => !flight.settled := by
      split
      · next hunsettled =>
        exact List.countP_pos_iff.mpr ⟨flight, List.mem_of_getElem? hflight, hunsettled⟩
      · omega
    omega

/-- A change that leaves a flight its key and its place in the table keeps the table sound. -/
theorem Sound.update (h : table.Sound)
    (hf : ∀ flight, flight.Later (f flight) ∧ (f flight).settled = flight.settled) :
    (table.update i f).Sound where
  tracks := by
    intro key j
    rw [entries_update, h.tracks key j, flights_update]
    by_cases heq : i = j
    · subst heq
      rw [if_pos rfl]
      constructor
      · rintro ⟨flight, hflight, hkey, hunsettled⟩
        refine ⟨f flight, by rw [hflight]; rfl, ?_, ?_⟩
        · rw [(hf flight).1.scopedKey, hkey]
        · rw [(hf flight).2, hunsettled]
      · rintro ⟨flight', hflight', hkey, hunsettled⟩
        obtain ⟨flight, hflight, rfl⟩ := Option.map_eq_some_iff.mp hflight'
        refine ⟨flight, hflight, ?_, ?_⟩
        · rw [← (hf flight).1.scopedKey, hkey]
        · rw [← (hf flight).2, hunsettled]
    · rw [if_neg heq]
  counts := by
    rw [unsettled_update fun flight => (hf flight).2, ← h.counts]
    unfold size
    rw [entries_update]
  decided := by
    intro j flight' hflight' hsettled
    rw [flights_update] at hflight'
    by_cases heq : i = j
    · subst heq
      rw [if_pos rfl] at hflight'
      obtain ⟨flight, hflight, rfl⟩ := Option.map_eq_some_iff.mp hflight'
      have hbefore := h.decided i flight hflight ((hf flight).2.symm.trans hsettled)
      obtain ⟨outcome, houtcome⟩ := Option.isSome_iff_exists.mp hbefore
      rw [(hf flight).1.outcome outcome houtcome]
      rfl
    · rw [if_neg heq] at hflight'
      exact h.decided j flight' hflight' hsettled

end Update

/-! ### Calls of `run` -/

section Run

variable {table : GenerationSingleFlight ω ν} (key : String) (operation : ω) (timeoutMs : Option Nat)

/-- What `run` does: it joins the unsettled flight of the key, or starts one and leaves the
others alone. -/
theorem run_cases :
    (∃ i, table.entries.get (table.scopedKey key) = some i ∧
      table.run key operation timeoutMs = (i, table)) ∨
    table.entries.get (table.scopedKey key) = none ∧
      table.run key operation timeoutMs = (table.flights.length, { table with
        entries := table.entries.set (table.scopedKey key) table.flights.length
        flights := table.flights ++
          [⟨table.scopedKey key, operation, timeoutMs, false, none, false⟩] }) := by
  unfold run
  cases hget : table.entries.get (table.scopedKey key) with
  | some i => exact Or.inl ⟨i, rfl, rfl⟩
  | none => exact Or.inr ⟨rfl, rfl⟩

theorem since_run {settling : Nat → Prop} {starting : Prop} (hstarting : starting) :
    Since settling starting table (table.run key operation timeoutMs).2 := by
  rcases table.run_cases key operation timeoutMs with ⟨i, -, hrun⟩ | ⟨-, hrun⟩
  · rw [hrun]
    exact Since.refl table
  · rw [hrun]
    refine ⟨?_, Or.inr hstarting⟩
    intro i flight hflight
    have hlt : i < table.flights.length := (List.getElem?_eq_some_iff.mp hflight).1
    refine ⟨flight, ?_, Flight.Later.refl flight, Or.inl rfl⟩
    show (table.flights ++ _)[i]? = some flight
    rw [List.getElem?_append_left hlt, hflight]

theorem Sound.run (h : table.Sound) : (table.run key operation timeoutMs).2.Sound := by
  rcases table.run_cases key operation timeoutMs with ⟨i, -, hrun⟩ | ⟨hget, hrun⟩
  · rw [hrun]
    exact h
  · rw [hrun]
    have hfree : table.scopedKey key ∉ table.entries.keys := (JsMap.get_eq_none_iff _ _).mp hget
    refine ⟨?_, ?_, ?_⟩
    · intro k i
      show (table.entries.set _ _).get k = some i ↔
        ∃ flight, (table.flights ++ _)[i]? = some flight ∧ _
      rw [JsMap.get_set]
      rcases Nat.lt_trichotomy i table.flights.length with hlt | heq | hgt
      · -- an older flight: not the new key, since that key was free
        rw [List.getElem?_append_left hlt, ← h.tracks k i]
        by_cases hk : k = table.scopedKey key
        · rw [if_pos hk, hk, hget]
          constructor
          · intro heq
            have hlast : table.flights.length = i := Option.some.inj heq
            omega
          · intro hnone
            cases hnone
        · rw [if_neg hk]
      · subst heq
        have hlast : table.entries.get k ≠ some table.flights.length := by
          intro hsome
          obtain ⟨flight, hflight, -⟩ := (h.tracks k _).mp hsome
          rw [List.getElem?_eq_none (Nat.le_refl _)] at hflight
          cases hflight
        rw [List.getElem?_concat_length]
        by_cases hk : k = table.scopedKey key
        · rw [if_pos hk]
          refine ⟨fun _ => ⟨_, rfl, hk.symm, rfl⟩, fun _ => rfl⟩
        · rw [if_neg hk]
          constructor
          · intro hsome
            exact absurd hsome hlast
          · rintro ⟨flight, hflight, hkey, -⟩
            obtain rfl := Option.some.inj hflight
            exact absurd hkey.symm hk
      · have hnone : (table.flights ++
            [⟨table.scopedKey key, operation, timeoutMs, false, none, false⟩])[i]? = none := by
          rw [List.getElem?_eq_none]
          rw [List.length_append, List.length_singleton]
          omega
        have hfar : table.entries.get k ≠ some i := by
          intro hsome
          obtain ⟨flight, hflight, -⟩ := (h.tracks k i).mp hsome
          rw [List.getElem?_eq_none (by omega)] at hflight
          cases hflight
        rw [hnone]
        constructor
        · intro hsome
          split at hsome
          · have hlast : table.flights.length = i := Option.some.inj hsome
            omega
          · exact absurd hsome hfar
        · rintro ⟨flight, hflight, -⟩
          cases hflight
    · show (table.entries.set _ _).size = (table.flights ++ _).countP _
      rw [JsMap.size_set_of_notMem _ _ hfree, List.countP_append]
      have hcounts : table.entries.size = table.flights.countP fun flight => !flight.settled :=
        h.counts
      rw [hcounts]
      rfl
    · intro i flight hflight hsettled
      rcases List.mem_append.mp (List.mem_of_getElem? hflight) with hold | hnew
      · obtain ⟨j, hj⟩ := List.getElem?_of_mem hold
        exact h.decided j flight hj hsettled
      · obtain rfl := List.mem_singleton.mp hnew
        cases hsettled

/-- The flight that `run` answers with is in the table, under the key of the call. -/
theorem Sound.joined (h : table.Sound) :
    ∃ flight, (table.run key operation timeoutMs).2.flights[(table.run key operation timeoutMs).1]? =
        some flight ∧ flight.scopedKey = table.scopedKey key ∧ flight.settled = false := by
  rcases table.run_cases key operation timeoutMs with ⟨i, hget, hrun⟩ | ⟨-, hrun⟩
  · rw [hrun]
    exact (h.tracks _ i).mp hget
  · rw [hrun]
    exact ⟨_, List.getElem?_concat_length, rfl, rfl⟩

end Run

/-! ### The end of a flight -/

section Settle

variable {table : GenerationSingleFlight ω ν} {i : Nat} {flight : Flight ω ν}

theorem settle_eq (hflight : table.flights[i]? = some flight) :
    table.settle i = { table with
      entries := table.entries.delete flight.scopedKey
      flights := table.flights.set i { flight with settled := true } } := by
  unfold settle update
  rw [hflight]

theorem generationId_settle : (table.settle i).generationId = table.generationId := by
  cases hflight : table.flights[i]? with
  | none =>
    unfold settle
    rw [hflight]
  | some flight => rw [settle_eq hflight]

theorem flights_settle (j : Nat) : (table.settle i).flights[j]? =
    if i = j then table.flights[j]?.map fun flight => { flight with settled := true }
    else table.flights[j]? := by
  rw [← flights_update]
  unfold settle update
  cases table.flights[i]? with
  | none => rfl
  | some flight => rfl

theorem since_settle {settling : Nat → Prop} {starting : Prop} (hsettling : settling i) :
    Since settling starting table (table.settle i) where
  flights := by
    intro j flight hflight
    rw [flights_settle]
    split
    · next heq =>
      subst heq
      exact ⟨{ flight with settled := true }, by rw [hflight]; rfl,
        ⟨rfl, fun _ h => h, fun _ => rfl⟩, Or.inr hsettling⟩
    · exact ⟨flight, hflight, Flight.Later.refl flight, Or.inl rfl⟩
  started := by
    unfold settle
    split
    · exact Or.inl rfl
    · exact Or.inl length_flights_update

/-- The removal hits the flight that settles, and no other. -/
theorem Sound.entries_settle (h : table.Sound) (hflight : table.flights[i]? = some flight)
    (hunsettled : flight.settled = false) (key : String) (j : Nat) :
    (table.settle i).entries.get key = some j ↔ table.entries.get key = some j ∧ j ≠ i := by
  have hself := (h.tracks flight.scopedKey i).mpr ⟨flight, hflight, rfl, hunsettled⟩
  rw [settle_eq hflight]
  show (table.entries.delete _).get key = some j ↔ _
  rw [JsMap.get_delete]
  by_cases hkey : key = flight.scopedKey
  · rw [if_pos hkey, hkey, hself]
    constructor
    · intro hnone
      cases hnone
    · rintro ⟨heq, hne⟩
      exact absurd (Option.some.inj heq).symm hne
  · rw [if_neg hkey]
    refine ⟨fun hget => ⟨hget, ?_⟩, And.left⟩
    rintro rfl
    obtain ⟨flight', hflight', hkey', -⟩ := (h.tracks key j).mp hget
    rw [hflight] at hflight'
    obtain rfl := Option.some.inj hflight'
    exact hkey hkey'.symm

theorem Sound.settle (h : table.Sound) (hflight : table.flights[i]? = some flight)
    (hunsettled : flight.settled = false) (houtcome : flight.outcome.isSome = true) :
    (table.settle i).Sound where
  tracks := by
    intro key j
    rw [h.entries_settle hflight hunsettled, h.tracks key j, flights_settle]
    by_cases heq : i = j
    · subst heq
      rw [if_pos rfl, hflight]
      constructor
      · rintro ⟨-, hne⟩
        exact absurd rfl hne
      · rintro ⟨flight', hflight', -, hunsettled'⟩
        obtain rfl := Option.some.inj hflight'
        cases hunsettled'
    · rw [if_neg heq]
      exact ⟨And.left, fun hmem => ⟨hmem, fun hji => heq hji.symm⟩⟩
  counts := by
    have hself := (h.tracks flight.scopedKey i).mpr ⟨flight, hflight, rfl, hunsettled⟩
    obtain ⟨hlt, hget⟩ := List.getElem?_eq_some_iff.mp hflight
    have hmem : flight.scopedKey ∈ table.entries.keys := by
      rw [← JsMap.has_eq_true_iff, JsMap.has, hself]
      rfl
    have hcounts : table.entries.size = table.flights.countP fun flight => !flight.settled := h.counts
    have hdelete := JsMap.size_delete_of_mem table.entries hmem
    rw [settle_eq hflight]
    show (table.entries.delete flight.scopedKey).size = (table.flights.set i _).countP _
    rw [List.countP_set hlt, hget, hunsettled, ← hcounts]
    simp only [Bool.not_false, Bool.not_true, if_true, Bool.false_eq_true, if_false]
    omega
  decided := by
    intro j flight' hflight' hsettled
    rw [flights_settle] at hflight'
    by_cases heq : i = j
    · subst heq
      rw [if_pos rfl, hflight] at hflight'
      obtain rfl := Option.some.inj hflight'
      exact houtcome
    · rw [if_neg heq] at hflight'
      exact h.decided j flight' hflight' hsettled

end Settle

/-! ### Aborting -/

/-- What `abortAll` keeps: it only aborts flights, one after the other. -/
theorem abortAll_spec (P : GenerationSingleFlight ω ν → Prop) (table : GenerationSingleFlight ω ν)
    (hstep : ∀ table i, P table → P (table.update i (Flight.abort table.generationId)))
    (h : P table) : P table.abortAll := by
  unfold abortAll
  generalize table.entries.values = numbers
  induction numbers generalizing table with
  | nil => exact h
  | cons i rest ih => exact ih _ (hstep table i h)

theorem since_abortAll {settling : Nat → Prop} {starting : Prop} (table : GenerationSingleFlight ω ν) :
    Since settling starting table table.abortAll :=
  abortAll_spec (Since settling starting table) table
    (fun later _ hsince =>
      hsince.trans (since_update fun flight => ⟨flight.later_abort later.generationId, rfl⟩))
    (Since.refl table)

end GenerationSingleFlight

end Sepigs
