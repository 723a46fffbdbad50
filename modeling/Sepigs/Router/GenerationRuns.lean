import Mathlib.Data.List.Basic
import Sepigs.Lib.Runs
import Sepigs.Router.Generation

/-!
# Runs of one routing runtime

Any order of the public operations.  A call that throws changes nothing, so a step
is total.  `made` collects every pair that was active once; the ids of candidates are
dated (`IdOrigin`).

`Permits` are the runs considered; `Accounted`, `LeavesUnused` and `RollbackApart` are
what they should satisfy; `Sound` says which steps keep that.
-/

namespace Sepigs

def RoutingGenerationPair.ids (generation : RoutingGenerationPair) : String × String :=
  (generation.router.id, generation.policy.id)

theorem pairKey_congr {g g' : RoutingGenerationPair} (h : g.ids = g'.ids) :
    pairKey g = pairKey g' := by
  obtain ⟨hr, hp⟩ := Prod.mk.inj h
  unfold pairKey
  rw [hr, hp]

/-- Router ids without a colon give different pairs different keys. -/
theorem ids_eq_of_pairKey_eq {g g' : RoutingGenerationPair} (h : pairKey g = pairKey g')
    (hg : ':' ∉ g.router.id.toList) (hg' : ':' ∉ g'.router.id.toList) : g.ids = g'.ids := by
  have hkey (g : RoutingGenerationPair) :
      (pairKey g).toList = g.router.id.toList ++ ':' :: g.policy.id.toList := by
    show (g.router.id ++ ":" ++ g.policy.id).toList = _
    rw [String.toList_append, String.toList_append, List.append_assoc]
    rfl
  have hlists : g.router.id.toList ++ ':' :: g.policy.id.toList =
      g'.router.id.toList ++ ':' :: g'.policy.id.toList := by
    rw [← hkey, ← hkey, h]
  -- a router id is what stands before the first colon
  have hprefix (l m : List Char) (hl : ':' ∉ l) : (l ++ ':' :: m).takeWhile (· ≠ ':') = l := by
    have hne : ∀ c ∈ l, decide (c ≠ ':') = true := by
      intro c hc
      exact decide_eq_true fun heq => hl (heq ▸ hc)
    rw [List.takeWhile_append_of_pos hne]
    simp
  have hr : g.router.id.toList = g'.router.id.toList := by
    rw [← hprefix _ g.policy.id.toList hg, hlists, hprefix _ _ hg']
  rw [hr, List.append_cancel_left_eq, List.cons.injEq] at hlists
  unfold RoutingGenerationPair.ids
  rw [String.toList_injective hr, String.toList_injective hlists.2]

structure RoutingGenerationHandle where
  generation : RoutingGenerationPair
  released : Bool
deriving DecidableEq, Repr

/-- Who brought an id in, and when; the constructor and `replaceLegacy` are no transaction. -/
structure IdOrigin where
  owner : Option String
  time : Nat
deriving DecidableEq, Repr

/-- The runtime and the handles it gave out.  The rest are ghosts: the number of steps,
when each transaction began, where the ids come from, the pairs that were active once
and those a transaction published. -/
structure UsageState where
  runtime : RoutingGenerationRuntime
  handles : List RoutingGenerationHandle
  clock : Nat
  begun : KeyMap String Nat
  routers : KeyMap String IdOrigin
  policies : KeyMap String IdOrigin
  made : List RoutingGenerationPair
  publications : List (String × RoutingGenerationPair)

inductive RoutingOperation
  | acquire
  | release (index : Nat)
  | replaceLegacy (next : RoutingGenerationPair)
  | begin (transactionId : String) (expected : List RoutingComponent)
  | stageRouter (transactionId : String) (candidate : RouterGeneration)
  | stagePolicy (transactionId : String) (candidate : PolicyGeneration)
  | commit (transactionId : String) (component : RoutingComponent)
  | rollback (transactionId : String)
  | cleanup (transactionId : String)

/-- The first origin of an id counts. -/
def noteOrigin (origins : KeyMap String IdOrigin) (id : String) (origin : IdOrigin) :
    KeyMap String IdOrigin :=
  if origins.has id then origins else origins.set id origin

namespace RoutingGenerationRuntime

/-- The checks of `commit`, and the transaction with the component added. -/
def committed (runtime : RoutingGenerationRuntime) (transactionId : String)
    (component : RoutingComponent) : Except String RoutingTransaction := do
  let transaction ← runtime.requireTransaction transactionId
  if component ∉ transaction.expected then
    throw s!"routing transaction did not expect component \"{component.text}\""
  if component = .router ∧ transaction.routerCandidate = none then
    throw "routing transaction has no router candidate"
  if component = .policy ∧ transaction.policyCandidate = none then
    throw "routing transaction has no policy candidate"
  return { transaction with committed := component :: transaction.committed }

/-- The transaction that a commit completes. -/
def completes (runtime : RoutingGenerationRuntime) (transactionId : String)
    (component : RoutingComponent) : Option RoutingTransaction :=
  match runtime.committed transactionId component with
  | .error _ => none
  | .ok transaction => if complete transaction then some transaction else none

theorem commit_eq_committed (runtime : RoutingGenerationRuntime) (transactionId : String)
    (component : RoutingComponent) :
    runtime.commit transactionId component =
      match runtime.committed transactionId component with
      | .error message => .error message
      | .ok transaction =>
        if complete transaction then .ok (runtime.publish transactionId transaction)
        else .ok (runtime.setTransaction transactionId transaction) := by
  unfold commit committed
  cases runtime.requireTransaction transactionId with
  | error message => rfl
  | ok transaction =>
    simp only [bind, Except.bind, pure, Except.pure]
    split
    · rfl
    split
    · rfl
    split
    · rfl
    rfl

theorem committed_cases {runtime : RoutingGenerationRuntime} {transactionId : String}
    {component : RoutingComponent} {transaction : RoutingTransaction}
    (h : runtime.committed transactionId component = .ok transaction) :
    ∃ old, runtime.transactions.get transactionId = some old ∧
      transaction = { old with committed := component :: old.committed } := by
  unfold committed requireTransaction at h
  cases hget : runtime.transactions.get transactionId with
  | none =>
    rw [hget] at h
    cases h
  | some old =>
    rw [hget] at h
    simp only [bind, Except.bind, pure, Except.pure, throw, throwThe, MonadExceptOf.throw] at h
    split at h
    · cases h
    split at h
    · cases h
    split at h
    · cases h
    exact ⟨old, rfl, (Except.ok.inj h).symm⟩

theorem begin_cases {runtime next : RoutingGenerationRuntime} {transactionId : String}
    {expected : List RoutingComponent} (h : runtime.begin transactionId expected = .ok next) :
    runtime.transactions.has transactionId = true ∧ next = runtime ∨
      runtime.transactions.get transactionId = none ∧
        next = runtime.setTransaction transactionId
          ⟨runtime.activeGeneration, expected, [], none, none, false⟩ := by
  unfold begin at h
  cases hget : runtime.transactions.get transactionId with
  | some transaction =>
    rw [hget] at h
    exact Or.inl ⟨(KeyMap.has_eq_true _ _).mpr ⟨transaction, hget⟩, (Except.ok.inj h).symm⟩
  | none =>
    rw [hget] at h
    dsimp only at h
    split at h
    · cases h
    · exact Or.inr ⟨rfl, (Except.ok.inj h).symm⟩

theorem stageRouter_cases {runtime next : RoutingGenerationRuntime} {transactionId : String}
    {candidate : RouterGeneration} (h : runtime.stageRouter transactionId candidate = .ok next) :
    ∃ transaction, runtime.transactions.get transactionId = some transaction ∧
      next = runtime.setTransaction transactionId
        { transaction with routerCandidate := some candidate } := by
  unfold stageRouter requireTransaction at h
  cases hget : runtime.transactions.get transactionId with
  | none =>
    rw [hget] at h
    cases h
  | some transaction =>
    rw [hget] at h
    exact ⟨transaction, rfl, (Except.ok.inj h).symm⟩

theorem stagePolicy_cases {runtime next : RoutingGenerationRuntime} {transactionId : String}
    {candidate : PolicyGeneration} (h : runtime.stagePolicy transactionId candidate = .ok next) :
    ∃ transaction, runtime.transactions.get transactionId = some transaction ∧
      next = runtime.setTransaction transactionId
        { transaction with policyCandidate := some candidate } := by
  unfold stagePolicy requireTransaction at h
  cases hget : runtime.transactions.get transactionId with
  | none =>
    rw [hget] at h
    cases h
  | some transaction =>
    rw [hget] at h
    exact ⟨transaction, rfl, (Except.ok.inj h).symm⟩

/-- A commit that succeeds completes its transaction or only writes it down. -/
theorem commit_cases {runtime next : RoutingGenerationRuntime} {transactionId : String}
    {component : RoutingComponent} (h : runtime.commit transactionId component = .ok next) :
    ∃ old, runtime.transactions.get transactionId = some old ∧
      (runtime.completes transactionId component =
          some { old with committed := component :: old.committed } ∧
        next = runtime.publish transactionId
          { old with committed := component :: old.committed } ∨
      runtime.completes transactionId component = none ∧
        next = runtime.setTransaction transactionId
          { old with committed := component :: old.committed }) := by
  rw [commit_eq_committed] at h
  unfold completes
  cases hcommitted : runtime.committed transactionId component with
  | error message =>
    rw [hcommitted] at h
    cases h
  | ok transaction =>
    obtain ⟨old, hget, rfl⟩ := committed_cases hcommitted
    rw [hcommitted] at h
    refine ⟨old, hget, ?_⟩
    dsimp only at h
    split at h
    · next hcomplete => exact Or.inl ⟨if_pos hcomplete, (Except.ok.inj h).symm⟩
    · next hcomplete => exact Or.inr ⟨if_neg hcomplete, (Except.ok.inj h).symm⟩

theorem rollback_cases (runtime : RoutingGenerationRuntime) (transactionId : String) :
    runtime.rollback transactionId = runtime ∨
      ∃ transaction, runtime.transactions.get transactionId = some transaction ∧
        transaction.published = true ∧
        runtime.rollback transactionId =
          { runtime.setTransaction transactionId { transaction with published := false } with
            activeGeneration := transaction.oldGeneration
            draining := (runtime.draining.delete (pairKey transaction.oldGeneration)).delete
              (pairKey runtime.activeGeneration) } := by
  unfold rollback
  cases hget : runtime.transactions.get transactionId with
  | none => exact Or.inl rfl
  | some transaction =>
    by_cases hpublished : transaction.published = true
    · exact Or.inr ⟨transaction, rfl, hpublished, if_pos hpublished⟩
    · exact Or.inl (if_neg hpublished)

end RoutingGenerationRuntime

namespace UsageState

open RoutingGenerationRuntime

/-- A new runtime. -/
def start (initial : RoutingGenerationPair) : UsageState where
  runtime := ⟨initial, ∅, ∅, ∅, initial.policyManager + 1⟩
  handles := []
  clock := 1
  begun := ∅
  routers := KeyMap.set ∅ initial.router.id ⟨none, 0⟩
  policies := KeyMap.set ∅ initial.policy.id ⟨none, 0⟩
  made := [initial]
  publications := []

abbrev active (s : UsageState) : RoutingGenerationPair := s.runtime.activeGeneration

/-- A commit that completes its transaction adds to what was published. -/
def published (s : UsageState) (transactionId : String) (component : RoutingComponent) :
    List RoutingGenerationPair :=
  match s.runtime.completes transactionId component with
  | none => []
  | some transaction => [transaction.next s.runtime.nextManager]

def apply (s : UsageState) : RoutingOperation → UsageState
  | .acquire =>
    { s with
      runtime := s.runtime.acquire.2
      handles := s.handles ++ [⟨s.runtime.acquire.1, false⟩] }
  | .release index =>
    match s.handles[index]? with
    | none => s
    | some handle =>
      if handle.released then s
      else { s with
        runtime := s.runtime.release handle.generation
        handles := s.handles.set index { handle with released := true } }
  | .replaceLegacy next =>
    { s with
      runtime := s.runtime.replaceLegacy next
      routers := noteOrigin s.routers next.router.id ⟨none, s.clock⟩
      policies := noteOrigin s.policies next.policy.id ⟨none, s.clock⟩
      made := next :: s.made }
  | .begin transactionId expected =>
    match s.runtime.begin transactionId expected with
    | .error _ => s
    | .ok runtime => { s with
        runtime := runtime
        begun :=
          if s.runtime.transactions.has transactionId then s.begun
          else s.begun.set transactionId s.clock }
  | .stageRouter transactionId candidate =>
    match s.runtime.stageRouter transactionId candidate with
    | .error _ => s
    | .ok runtime => { s with
        runtime := runtime
        routers := noteOrigin s.routers candidate.id ⟨some transactionId, s.clock⟩ }
  | .stagePolicy transactionId candidate =>
    match s.runtime.stagePolicy transactionId candidate with
    | .error _ => s
    | .ok runtime => { s with
        runtime := runtime
        policies := noteOrigin s.policies candidate.id ⟨some transactionId, s.clock⟩ }
  | .commit transactionId component =>
    match s.runtime.commit transactionId component with
    | .error _ => s
    | .ok runtime => { s with
        runtime := runtime
        made := s.published transactionId component ++ s.made
        publications :=
          (s.published transactionId component).map (transactionId, ·) ++ s.publications }
  | .rollback transactionId => { s with runtime := s.runtime.rollback transactionId }
  | .cleanup transactionId => { s with runtime := s.runtime.cleanup transactionId }

def after (s : UsageState) (op : RoutingOperation) : UsageState :=
  { s.apply op with clock := s.clock + 1 }

def system : Runs.System UsageState RoutingOperation where
  step s op := some (s.after op)

/-! ## What a step does -/

section Steps

variable (s : UsageState) (transactionId : String)

abbrev tick (s : UsageState) : UsageState := { s with clock := s.clock + 1 }

theorem after_begin (expected : List RoutingComponent) :
    s.after (.begin transactionId expected) = s.tick ∨
      s.runtime.transactions.get transactionId = none ∧
        s.after (.begin transactionId expected) = { s.tick with
          runtime := s.runtime.setTransaction transactionId
            ⟨s.active, expected, [], none, none, false⟩
          begun := s.begun.set transactionId s.clock } := by
  unfold after
  simp only [apply]
  cases hbegin : s.runtime.begin transactionId expected with
  | error message => exact Or.inl rfl
  | ok next =>
    rcases begin_cases hbegin with ⟨hhas, rfl⟩ | ⟨hget, rfl⟩
    · rw [if_pos hhas]
      exact Or.inl rfl
    · refine Or.inr ⟨hget, ?_⟩
      rw [if_neg (Bool.eq_false_iff.mp ((KeyMap.has_eq_false _ _).mpr hget))]

theorem after_stageRouter (candidate : RouterGeneration) :
    s.after (.stageRouter transactionId candidate) = s.tick ∨
      ∃ transaction, s.runtime.transactions.get transactionId = some transaction ∧
        s.after (.stageRouter transactionId candidate) = { s.tick with
          runtime := s.runtime.setTransaction transactionId
            { transaction with routerCandidate := some candidate }
          routers := noteOrigin s.routers candidate.id ⟨some transactionId, s.clock⟩ } := by
  unfold after
  simp only [apply]
  cases hstage : s.runtime.stageRouter transactionId candidate with
  | error message => exact Or.inl rfl
  | ok next =>
    obtain ⟨transaction, hget, rfl⟩ := stageRouter_cases hstage
    exact Or.inr ⟨transaction, hget, rfl⟩

theorem after_stagePolicy (candidate : PolicyGeneration) :
    s.after (.stagePolicy transactionId candidate) = s.tick ∨
      ∃ transaction, s.runtime.transactions.get transactionId = some transaction ∧
        s.after (.stagePolicy transactionId candidate) = { s.tick with
          runtime := s.runtime.setTransaction transactionId
            { transaction with policyCandidate := some candidate }
          policies := noteOrigin s.policies candidate.id ⟨some transactionId, s.clock⟩ } := by
  unfold after
  simp only [apply]
  cases hstage : s.runtime.stagePolicy transactionId candidate with
  | error message => exact Or.inl rfl
  | ok next =>
    obtain ⟨transaction, hget, rfl⟩ := stagePolicy_cases hstage
    exact Or.inr ⟨transaction, hget, rfl⟩

/-- A commit throws, completes its transaction `old` or only writes it down. -/
theorem after_commit (component : RoutingComponent) :
    s.after (.commit transactionId component) = s.tick ∨
      ∃ old transaction, s.runtime.transactions.get transactionId = some old ∧
        transaction = { old with committed := component :: old.committed } ∧
        (s.runtime.completes transactionId component = some transaction ∧
          s.after (.commit transactionId component) = { s.tick with
            runtime := s.runtime.publish transactionId transaction
            made := transaction.next s.runtime.nextManager :: s.made
            publications :=
              (transactionId, transaction.next s.runtime.nextManager) :: s.publications } ∨
        s.after (.commit transactionId component) = { s.tick with
          runtime := s.runtime.setTransaction transactionId transaction }) := by
  unfold after
  simp only [apply]
  cases hcommit : s.runtime.commit transactionId component with
  | error message => exact Or.inl rfl
  | ok next =>
    obtain ⟨old, hget, hcase⟩ := commit_cases hcommit
    refine Or.inr ⟨old, _, hget, rfl, ?_⟩
    simp only [published]
    rcases hcase with ⟨hcompletes, rfl⟩ | ⟨hcompletes, rfl⟩
    · simp only [hcompletes]
      exact Or.inl ⟨trivial, rfl⟩
    · simp only [hcompletes]
      exact Or.inr rfl

theorem after_rollback :
    s.after (.rollback transactionId) = s.tick ∨
      ∃ transaction, s.runtime.transactions.get transactionId = some transaction ∧
        transaction.published = true ∧
        s.after (.rollback transactionId) = { s.tick with
          runtime := { s.runtime.setTransaction transactionId
              { transaction with published := false } with
            activeGeneration := transaction.oldGeneration
            draining := (s.runtime.draining.delete (pairKey transaction.oldGeneration)).delete
              (pairKey s.active) } } := by
  unfold after
  simp only [apply]
  rcases s.runtime.rollback_cases transactionId with
    hsame | ⟨transaction, hget, hpublished, hrollback⟩
  · rw [hsame]
    exact Or.inl rfl
  · exact Or.inr ⟨transaction, hget, hpublished, by rw [hrollback]⟩

theorem after_release (index : Nat) :
    s.after (.release index) = s.tick ∨
      ∃ handle, s.handles[index]? = some handle ∧ handle.released = false ∧
        s.after (.release index) = { s.tick with
          runtime := s.runtime.release handle.generation
          handles := s.handles.set index { handle with released := true } } := by
  unfold after
  simp only [apply]
  cases hindex : s.handles[index]? with
  | none => exact Or.inl rfl
  | some handle =>
    cases hout : handle.released with
    | true =>
      dsimp only
      rw [if_pos hout]
      exact Or.inl rfl
    | false =>
      dsimp only
      rw [if_neg (Bool.eq_false_iff.mp hout)]
      exact Or.inr ⟨handle, rfl, hout, rfl⟩

end Steps

/-- The outstanding handles of a pair. -/
def outstanding (s : UsageState) (generation : RoutingGenerationPair) : Nat :=
  s.handles.countP fun handle => !handle.released && handle.generation.ids = generation.ids

/-- The pair is listed as draining. -/
def Draining (s : UsageState) (generation : RoutingGenerationPair) : Prop :=
  ∃ g, s.runtime.draining.get (pairKey generation) = some g ∧ g.ids = generation.ids

/-! ## The runs and their properties -/

/-- Transactions have distinct ids, and so have the candidates of two transactions. -/
def Permits (s : UsageState) : RoutingOperation → Prop
  | .begin transactionId _ =>
    s.runtime.transactions.has transactionId ∨ s.begun.get transactionId = none
  | .stageRouter transactionId candidate =>
    ∀ origin, s.routers.get candidate.id = some origin → origin.owner = some transactionId
  | .stagePolicy transactionId candidate =>
    ∀ origin, s.policies.get candidate.id = some origin → origin.owner = some transactionId
  | _ => True

/-- The usage counts are those of the handles, and every pair in use can be found. -/
structure Accounted (s : UsageState) : Prop where
  usage : ∀ generation ∈ s.made,
    (s.runtime.usage.get (pairKey generation)).getD 0 = s.outstanding generation
  found : ∀ generation ∈ s.made, 0 < s.outstanding generation →
    generation.ids = s.active.ids ∨ s.Draining generation

/-- A pair that leaves the draining list has no handle, or is active. -/
def LeavesUnused (s : UsageState) (op : RoutingOperation) : Prop :=
  ∀ generation, s.Draining generation → ¬(s.after op).Draining generation →
    ((s.after op).runtime.usage.get (pairKey generation)).getD 0 = 0 ∨
      generation.ids = (s.after op).active.ids

/-- A rollback leaves active what another transaction published. -/
def RollbackApart (s : UsageState) : RoutingOperation → Prop
  | .rollback transactionId => ∀ entry ∈ s.publications, entry.1 ≠ transactionId →
      entry.2.ids = s.active.ids → entry.2.ids = (s.after (.rollback transactionId)).active.ids
  | _ => True

/-- No pair that was active has the key of this one, with other ids. -/
def Apart (s : UsageState) (generation : RoutingGenerationPair) : Prop :=
  ∀ g ∈ s.made, pairKey g = pairKey generation → g.ids = generation.ids

/-- Neither half of the pair was ever a candidate. -/
def Unstaged (s : UsageState) (generation : RoutingGenerationPair) : Prop :=
  (∀ origin, s.routers.get generation.router.id = some origin → origin.owner = none) ∧
    ∀ origin, s.policies.get generation.policy.id = some origin → origin.owner = none

/-- A pair becomes active under a key of its own and, when a transaction publishes it,
with a candidate.  A rollback that changes the active pair finds it without handles,
and published by the same transaction or made of no candidates. -/
def Sound (s : UsageState) : RoutingOperation → Prop
  | .replaceLegacy next => s.Apart next
  | .commit transactionId component =>
    ∀ transaction, s.runtime.completes transactionId component = some transaction →
      s.Apart (transaction.next s.runtime.nextManager) ∧
        (transaction.routerCandidate ≠ none ∨ transaction.policyCandidate ≠ none)
  | .rollback transactionId =>
    ∀ transaction, s.runtime.transactions.get transactionId = some transaction →
      transaction.published = true → s.active.ids ≠ transaction.oldGeneration.ids →
      s.outstanding s.active = 0 ∧
        ((∃ entry ∈ s.publications, entry.1 = transactionId ∧ entry.2.ids = s.active.ids) ∨
          s.Unstaged s.active)
  | _ => True

end UsageState

end Sepigs
