import Sepigs.Core.Dispatch
import Sepigs.Lib.Tally
import Sepigs.Router.PolicyOrder

/-!
# Failover (`openTcp` and `sendUdp` of `core/engine.ts` over `router/policy.ts`)

A request selects candidates and calls them one after the other; what comes of an attempt is
recorded with the policy manager, and the next selections of any request go by the records.
Requests overlap: a step is a request up to its first `await`, the answer to one that waits, a
probe, or a look at the snapshots.  The clock is read once a step.

`recorded` and the two fields of a request that say when it selected are ghosts.
-/

namespace Sepigs

/-- What the engine has under a tag when a request comes to it. -/
inductive OutboundFound where
  | missing
  | withoutUdp
  | usable

inductive RequestProgress where
  | awaiting (tag : String) (rest : List String)
  | returned (tag : String)
  | thrown (error : String)

/-- `seen` is how much had been recorded when the request selected; `failed` are the candidates
it has passed. -/
structure RoutedRequest where
  kind : RequestKind
  target : String
  selectedAt : Int
  seen : Nat
  candidates : List String
  failed : List String
  progress : RequestProgress

/-- The request has called the outbound, or passed it. -/
def RoutedRequest.Reached (request : RoutedRequest) (tag : String) : Prop :=
  tag ∈ request.failed ∨ (∃ rest, request.progress = .awaiting tag rest) ∨ request.progress = .returned tag

/-- A call of `recordFailure`, with its clock, or of `recordSuccess`, with the latency. -/
structure RecordedAttempt where
  tag : String
  outcome : Except Int Rat

structure FailoverEngine where
  policyManager : RoutingPolicyManager
  routeMatchesTotal : Nat
  outboundFailuresTotal : Nat
  requests : List RoutedRequest
  recorded : List RecordedAttempt

/-- Why a candidate is passed without a call. -/
def OutboundFound.unusable (kind : RequestKind) (tag : String) : OutboundFound → Option String
  | missing => some s!"route selected missing outbound \"{tag}\""
  | withoutUdp =>
    match kind with
    | .openTcp => none
    | .sendUdp => some s!"outbound \"{tag}\" does not support UDP"
  | usable => none

def RequestKind.noneUsable (target : String) : RequestKind → String
  | openTcp => s!"route selected no usable outbound for \"{target}\""
  | sendUdp => s!"route selected no usable UDP outbound for \"{target}\""

/-- `recordSuccess` or `recordFailure`. -/
def RoutingPolicyManager.recordOutcome (manager : RoutingPolicyManager) (tag : String) : Except Int Rat → RoutingPolicyManager
  | .error now => manager.recordFailure now tag
  | .ok latencyMs => manager.recordSuccess tag latencyMs

namespace FailoverEngine

def new (policies : List RoutingPolicyConfig) (initialHealth : List OutboundHealth) : FailoverEngine :=
  ⟨.create policies initialHealth, 0, 0, [], []⟩

def record (tag : String) (outcome : Except Int Rat) (s : FailoverEngine) : FailoverEngine :=
  { s with
    policyManager := s.policyManager.recordOutcome tag outcome
    recorded := s.recorded ++ [⟨tag, outcome⟩] }

def attemptFailed (tag : String) (now : Int) (s : FailoverEngine) : FailoverEngine :=
  { s.record tag (.error now) with outboundFailuresTotal := s.outboundFailuresTotal + 1 }

/-- The loop over the candidates, up to its next `await` or its end. -/
def tryCandidates (kind : RequestKind) (target : String) (find : String → OutboundFound) (now : Int) :
    List String → List String → Option String → FailoverEngine →
      (List String × RequestProgress) × FailoverEngine
  | [], failed, lastError, s => ((failed, .thrown (lastError.getD (kind.noneUsable target))), s)
  | tag :: rest, failed, lastError, s =>
    match (find tag).unusable kind tag with
    | some error =>
      tryCandidates kind target find now rest (failed ++ [tag]) (some error) (s.attemptFailed tag now)
    | none => ((failed, .awaiting tag rest), s)

inductive Label where
  | request (kind : RequestKind) (target : String) (now : Int) (random : Rat)
    (find : String → OutboundFound)
  | answer (index : Nat) (now : Int) (outcome : Except (Option String) Rat) (find : String → OutboundFound)
  | probe (tag : String) (outcome : Except Int Rat)
  | snapshot (now : Int)

/-- `target` is what the route selected. -/
def request (kind : RequestKind) (target : String) (now : Int) (random : Rat)
    (find : String → OutboundFound) (s : FailoverEngine) : FailoverEngine :=
  let selected := s.policyManager.select now random target
  let tried := tryCandidates kind target find now selected.1.candidates [] none
    { s with policyManager := selected.2, routeMatchesTotal := s.routeMatchesTotal + 1 }
  { tried.2 with
    requests := s.requests ++
      [⟨kind, target, now, s.recorded.length, selected.1.candidates, tried.1.1, tried.1.2⟩] }

def answer (index : Nat) (request : RoutedRequest) (tag : String) (rest : List String) (now : Int)
    (outcome : Except (Option String) Rat) (find : String → OutboundFound) (s : FailoverEngine) : FailoverEngine :=
  match outcome with
  | .ok latencyMs =>
    { s.record tag (.ok latencyMs) with
      requests := s.requests.set index { request with progress := .returned tag } }
  | .error error =>
    let tried := tryCandidates request.kind request.target find now rest (request.failed ++ [tag])
      error (s.attemptFailed tag now)
    { tried.2 with
      requests := s.requests.set index { request with failed := tried.1.1, progress := tried.1.2 } }

def step (s : FailoverEngine) : Label → Option FailoverEngine
  | .request kind target now random find => some (s.request kind target now random find)
  | .answer index now outcome find =>
    match s.requests[index]? with
    | some request =>
      match request.progress with
      | .awaiting tag rest => some (s.answer index request tag rest now outcome find)
      | _ => none
    | none => none
  | .probe tag outcome => some (s.record tag outcome)
  | .snapshot now => some { s with policyManager := (s.policyManager.getPolicySnapshots now).2 }

def system : Runs.System FailoverEngine Label := ⟨step⟩

end FailoverEngine

/-! ## What the records say -/

def outcomesOf (tag : String) (recorded : List RecordedAttempt) : List (Except Int Rat) :=
  (recorded.filter fun attempt => attempt.tag = tag).map RecordedAttempt.outcome

def failedOutcome : Except Int Rat → Bool
  | .error _ => true
  | .ok _ => false

/-- The failures since the last success, those of `initial` included where there was none. -/
def streak (initial : OutboundHealth) (outcomes : List (Except Int Rat)) : Nat :=
  if outcomes.all failedOutcome then initial.failures + outcomes.length
  else (outcomes.reverse.takeWhile failedOutcome).length

/-- When the last attempt failed, if it did. -/
def lastFailure (initial : OutboundHealth) (outcomes : List (Except Int Rat)) : Option Int :=
  match outcomes.getLast? with
  | none => initial.lastFailureAt
  | some (.error now) => some now
  | some (.ok _) => none

/-- The outbound has failed too often, and too short a time ago. -/
def Tripped (policy : RoutingPolicyConfig) (now : Int) (initial : OutboundHealth)
    (outcomes : List (Except Int Rat)) : Prop :=
  policy.unhealthyAfterFailures ≤ streak initial outcomes ∧
    ∃ failedAt, lastFailure initial outcomes = some failedAt ∧ now - failedAt < policy.recoverAfterMs

theorem outcomesOf_append (tag : String) (recorded : List RecordedAttempt) (attempt : RecordedAttempt) :
    outcomesOf tag (recorded ++ [attempt]) =
      outcomesOf tag recorded ++ if tag = attempt.tag then [attempt.outcome] else [] := by
  unfold outcomesOf
  rw [List.filter_append, List.map_append]
  by_cases h : tag = attempt.tag
  · simp [h]
  · simp [h, Ne.symm h]

theorem streak_append (initial : OutboundHealth) (outcomes : List (Except Int Rat))
    (outcome : Except Int Rat) :
    streak initial (outcomes ++ [outcome]) =
      match outcome with
      | .error _ => streak initial outcomes + 1
      | .ok _ => 0 := by
  unfold streak
  rw [List.all_append, List.reverse_append]
  cases outcome with
  | ok latencyMs => simp [failedOutcome]
  | error now =>
    by_cases h : outcomes.all failedOutcome = true
    · rw [h]
      simp [failedOutcome, Nat.add_assoc]
    · rw [Bool.not_eq_true] at h
      rw [h, Bool.false_and, if_neg Bool.false_ne_true, if_neg Bool.false_ne_true]
      show (List.takeWhile failedOutcome (.error now :: outcomes.reverse)).length = _
      rw [List.takeWhile_cons_of_pos rfl, List.length_cons]

theorem lastFailure_append (initial : OutboundHealth) (outcomes : List (Except Int Rat))
    (outcome : Except Int Rat) :
    lastFailure initial (outcomes ++ [outcome]) =
      match outcome with
      | .error now => some now
      | .ok _ => none := by
  unfold lastFailure
  rw [List.getLast?_append, List.getLast?_singleton]
  cases outcome <;> rfl

/-! ## The manager goes by the records -/

namespace RoutingPolicyManager

theorem recordOutcome_policies (manager : RoutingPolicyManager) (tag : String) (outcome : Except Int Rat) :
    (manager.recordOutcome tag outcome).policies = manager.policies := by
  cases outcome with
  | error now => exact (getHealth_reads manager tag).policies
  | ok latencyMs => exact (getHealth_reads manager tag).policies

theorem healthOf_set (manager : RoutingPolicyManager) (tag t : String) (health : OutboundHealth) :
    healthOf { (manager.getHealth tag).2 with
        health := (manager.getHealth tag).2.health.set tag health } t =
      if t = tag then health else manager.healthOf t := by
  have hreads := congrFun (getHealth_reads manager tag).healthOf t
  unfold healthOf at hreads ⊢
  simp only [JsMap.get_set]
  by_cases ht : t = tag
  · rw [if_pos ht, if_pos ht]
    rfl
  · rw [if_neg ht, if_neg ht]
    exact hreads

theorem recordOutcome_healthOf (manager : RoutingPolicyManager) (tag t : String)
    (outcome : Except Int Rat) :
    ((manager.recordOutcome tag outcome).healthOf t).failures =
        (if t = tag then
          match outcome with
          | .error _ => (manager.healthOf t).failures + 1
          | .ok _ => 0
        else (manager.healthOf t).failures) ∧
      ((manager.recordOutcome tag outcome).healthOf t).lastFailureAt =
        (if t = tag then
          match outcome with
          | .error now => some now
          | .ok _ => none
        else (manager.healthOf t).lastFailureAt) := by
  cases outcome with
  | error now =>
    unfold recordOutcome recordFailure
    simp only [getHealth_fst, healthOf_set]
    by_cases ht : t = tag
    · subst ht
      simp
    · simp [ht]
  | ok latencyMs =>
    unfold recordOutcome recordSuccess
    simp only [getHealth_fst, healthOf_set]
    by_cases ht : t = tag
    · simp [ht]
    · simp [ht]

end RoutingPolicyManager

namespace FailoverEngine

variable {initial : RoutingPolicyManager} {s s' : FailoverEngine}

/-- The outbounds' health is what `recorded` makes of the initial one. -/
structure Recorded (initial : RoutingPolicyManager) (manager : RoutingPolicyManager)
    (recorded : List RecordedAttempt) : Prop where
  policies : manager.policies = initial.policies
  failures : ∀ tag, (manager.healthOf tag).failures =
    streak (initial.healthOf tag) (outcomesOf tag recorded)
  lastFailureAt : ∀ tag, (manager.healthOf tag).lastFailureAt =
    lastFailure (initial.healthOf tag) (outcomesOf tag recorded)

theorem recorded_initial (initial : RoutingPolicyManager) : Recorded initial initial [] :=
  ⟨rfl, fun _ => rfl, fun _ => rfl⟩

theorem Recorded.selects {manager manager' : RoutingPolicyManager} {recorded : List RecordedAttempt}
    (h : Recorded initial manager recorded) (hpolicies : manager'.policies = manager.policies)
    (hhealth : manager'.healthOf = manager.healthOf) : Recorded initial manager' recorded := by
  refine ⟨hpolicies.trans h.policies, fun tag => ?_, fun tag => ?_⟩
  · rw [hhealth]
    exact h.failures tag
  · rw [hhealth]
    exact h.lastFailureAt tag

theorem Recorded.healthy_iff {manager : RoutingPolicyManager} {recorded : List RecordedAttempt}
    (h : Recorded initial manager recorded) (policy : RoutingPolicyConfig) (now : Int) (tag : String) :
    manager.healthy policy now tag = true ↔
      ¬ Tripped policy now (initial.healthOf tag) (outcomesOf tag recorded) := by
  unfold RoutingPolicyManager.healthy OutboundHealth.isHealthy Tripped
  rw [h.failures, h.lastFailureAt]
  by_cases hfew : streak (initial.healthOf tag) (outcomesOf tag recorded) < policy.unhealthyAfterFailures
  · rw [if_pos hfew]
    exact iff_of_true rfl fun htripped => absurd htripped.1 (by omega)
  · rw [if_neg hfew]
    cases hlast : lastFailure (initial.healthOf tag) (outcomesOf tag recorded) with
    | none => simp
    | some failedAt => simp [Nat.le_of_not_lt hfew]

theorem Recorded.record (h : Recorded initial s.policyManager s.recorded) (tag : String)
    (outcome : Except Int Rat) :
    Recorded initial (s.record tag outcome).policyManager (s.record tag outcome).recorded := by
  have hhealth := fun t => s.policyManager.recordOutcome_healthOf tag t outcome
  have houtcomes := fun t => outcomesOf_append t s.recorded ⟨tag, outcome⟩
  refine ⟨(s.policyManager.recordOutcome_policies tag outcome).trans h.policies, fun t => ?_, fun t => ?_⟩
  · show ((s.policyManager.recordOutcome tag outcome).healthOf t).failures =
      streak _ (outcomesOf t (s.recorded ++ [⟨tag, outcome⟩]))
    rw [(hhealth t).1, houtcomes, h.failures]
    by_cases ht : t = tag
    · rw [if_pos ht, if_pos ht, streak_append]
    · rw [if_neg ht, if_neg ht, List.append_nil]
  · show ((s.policyManager.recordOutcome tag outcome).healthOf t).lastFailureAt =
      lastFailure _ (outcomesOf t (s.recorded ++ [⟨tag, outcome⟩]))
    rw [(hhealth t).2, houtcomes, h.lastFailureAt]
    by_cases ht : t = tag
    · rw [if_pos ht, if_pos ht, lastFailure_append]
    · rw [if_neg ht, if_neg ht, List.append_nil]

/-! ## Requests -/

/-- The candidates it has passed and where it is. -/
def Progresses (candidates failed : List String) : RequestProgress → Prop
  | .awaiting tag rest => candidates = failed ++ tag :: rest
  | .returned tag => ∃ rest, candidates = failed ++ tag :: rest
  | .thrown _ => candidates = failed

/-- What the loop does from a candidate on. -/
structure Passes (initial : RoutingPolicyManager) (s s' : FailoverEngine) (passed : Nat) : Prop where
  recorded : Recorded initial s'.policyManager s'.recorded
  later : s.recorded <+: s'.recorded
  requests : s'.requests = s.requests
  routeMatches : s'.routeMatchesTotal = s.routeMatchesTotal
  failures : s'.outboundFailuresTotal = s.outboundFailuresTotal + passed

theorem tryCandidates_spec (kind : RequestKind) (target : String) (find : String → OutboundFound) (now : Int)
    (candidates : List String) :
    ∀ (failed : List String) (lastError : Option String) (s : FailoverEngine),
      Recorded initial s.policyManager s.recorded →
      ∃ passed, (tryCandidates kind target find now candidates failed lastError s).1.1 = failed ++ passed ∧
        Progresses (failed ++ candidates) (failed ++ passed)
          (tryCandidates kind target find now candidates failed lastError s).1.2 ∧
        Passes initial s (tryCandidates kind target find now candidates failed lastError s).2 passed.length := by
  induction candidates with
  | nil =>
    intro failed lastError s h
    exact ⟨[], (List.append_nil _).symm, rfl, h, List.prefix_refl _, rfl, rfl, rfl⟩
  | cons tag rest ih =>
    intro failed lastError s h
    unfold tryCandidates
    cases hfound : (find tag).unusable kind tag with
    | none =>
      refine ⟨[], (List.append_nil _).symm, ?_, h, List.prefix_refl _, rfl, rfl, rfl⟩
      show failed ++ tag :: rest = failed ++ [] ++ tag :: rest
      rw [List.append_nil]
    | some error =>
      obtain ⟨passed, hfailed, hprogress, hrecorded, hlater, hrequests, hmatches, hfailures⟩ :=
        ih (failed ++ [tag]) (some error) (s.attemptFailed tag now) (h.record tag (.error now))
      refine ⟨tag :: passed, ?_, ?_, hrecorded, ?_, hrequests, hmatches, ?_⟩
      · rw [← List.append_cons] at hfailed
        exact hfailed
      · rw [← List.append_cons, ← List.append_cons] at hprogress
        exact hprogress
      · exact (List.prefix_append s.recorded _).trans hlater
      · rw [List.length_cons]
        refine hfailures.trans ?_
        show s.outboundFailuresTotal + 1 + passed.length = _
        omega

/-- The outbound was tripped when the request selected. -/
def TrippedFor (initial : RoutingPolicyManager) (recorded : List RecordedAttempt) (request : RoutedRequest)
    (policy : RoutingPolicyConfig) (tag : String) : Prop :=
  Tripped policy request.selectedAt (initial.healthOf tag) (outcomesOf tag (recorded.take request.seen))

structure Routed (initial : RoutingPolicyManager) (recorded : List RecordedAttempt)
    (request : RoutedRequest) : Prop where
  seen_le : request.seen ≤ recorded.length
  progress : Progresses request.candidates request.failed request.progress
  alone : initial.policies.get request.target = none → request.candidates = [request.target]
  order : ∀ policy, initial.policies.get request.target = some policy → policy.outbounds.Nodup →
    request.candidates.Perm policy.outbounds ∧
      request.candidates.Pairwise fun a b => ¬ TrippedFor initial recorded request policy b →
        ¬ TrippedFor initial recorded request policy a

theorem Routed.later {recorded recorded' : List RecordedAttempt} {request : RoutedRequest}
    (h : Routed initial recorded request) (hlater : recorded <+: recorded') : Routed initial recorded' request := by
  obtain ⟨more, rfl⟩ := hlater
  have htake : (recorded ++ more).take request.seen = recorded.take request.seen :=
    List.take_append_of_le_length h.seen_le
  refine ⟨?_, h.progress, h.alone, fun policy hget hnodup => ?_⟩
  · rw [List.length_append]
    exact Nat.le_add_right_of_le h.seen_le
  · unfold TrippedFor
    rw [htake]
    exact h.order policy hget hnodup

/-- Every request is in order, and the two counters count what they say. -/
structure InOrder (initial : RoutingPolicyManager) (s : FailoverEngine) : Prop where
  keyed : initial.Keyed
  recorded : Recorded initial s.policyManager s.recorded
  requests : ∀ request ∈ s.requests, Routed initial s.recorded request
  routeMatches : s.routeMatchesTotal = s.requests.length
  failures : s.outboundFailuresTotal = (s.requests.map fun request => request.failed.length).sum

theorem InOrder.keyedNow (h : InOrder initial s) : s.policyManager.Keyed := by
  intro tag policy hget
  rw [h.recorded.policies] at hget
  exact h.keyed tag policy hget

theorem request_inOrder (h : InOrder initial s) (kind : RequestKind) (target : String) (now : Int)
    (random : Rat) (find : String → OutboundFound) :
    InOrder initial (s.request kind target now random find) := by
  have hselects := RoutingPolicyManager.select_selects h.keyedNow now random target
  have hrecorded : Recorded initial (s.policyManager.select now random target).2 s.recorded :=
    h.recorded.selects hselects.policies hselects.healthOf
  obtain ⟨passed, hfailed, hprogress, hpasses⟩ := tryCandidates_spec kind target find now
    (s.policyManager.select now random target).1.candidates [] none
    { s with
      policyManager := (s.policyManager.select now random target).2
      routeMatchesTotal := s.routeMatchesTotal + 1 } hrecorded
  rw [List.nil_append] at hfailed hprogress
  rw [List.nil_append] at hprogress
  refine ⟨h.keyed, hpasses.recorded, fun request hmem => ?_, ?_, ?_⟩
  · rcases List.mem_append.mp hmem with hmem | hmem
    · exact (h.requests request hmem).later hpasses.later
    · rw [List.mem_singleton.mp hmem]
      refine Routed.later ?_ hpasses.later
      refine ⟨Nat.le_refl _, ?_, fun hget => ?_, fun policy hget hnodup => ?_⟩
      · show Progresses _ (tryCandidates _ _ _ _ _ _ _ _).1.1 _
        rw [hfailed]
        exact hprogress
      · rw [← h.recorded.policies] at hget
        show (s.policyManager.select now random target).1.candidates = [target]
        unfold RoutingPolicyManager.select
        rw [hget]
      · have hget' : s.policyManager.policies.get target = some policy := by
          rw [h.recorded.policies]
          exact hget
        have horder := RoutingPolicyManager.select_order hget' hnodup now random
        refine ⟨horder.perm, horder.good_first.imp fun {a b} hfirst => ?_⟩
        unfold TrippedFor
        simp only []
        rw [List.take_length, ← h.recorded.healthy_iff, ← h.recorded.healthy_iff]
        exact hfirst
  · show (tryCandidates _ _ _ _ _ _ _ _).2.routeMatchesTotal = (s.requests ++ [_]).length
    rw [hpasses.routeMatches, List.length_append, ← h.routeMatches]
    rfl
  · show (tryCandidates _ _ _ _ _ _ _ _).2.outboundFailuresTotal = ((s.requests ++ [_]).map _).sum
    rw [hpasses.failures, List.map_append, List.sum_append, ← h.failures]
    simp only [List.map_singleton, List.sum_singleton, hfailed]

/-- One request has gone on. -/
theorem InOrder.set (h : InOrder initial s) {index passed : Nat} {request request' : RoutedRequest}
    (hget : s.requests[index]? = some request) (hpasses : Passes initial s s' passed)
    (hrouted : Routed initial s'.recorded request')
    (hfailed : request'.failed.length = request.failed.length + passed) :
    InOrder initial { s' with requests := s.requests.set index request' } := by
  refine ⟨h.keyed, hpasses.recorded, fun other hmem => ?_, ?_, ?_⟩
  · rcases List.mem_or_eq_of_mem_set hmem with hmem | rfl
    · exact (h.requests other hmem).later hpasses.later
    · exact hrouted
  · show s'.routeMatchesTotal = (s.requests.set index request').length
    rw [hpasses.routeMatches, List.length_set, h.routeMatches]
  · show s'.outboundFailuresTotal = ((s.requests.set index request').map _).sum
    rw [hpasses.failures, Tally.sum_map_set _ hget hfailed, h.failures]

theorem answer_inOrder (h : InOrder initial s) {index : Nat} {request : RoutedRequest} {tag : String}
    {rest : List String} (hget : s.requests[index]? = some request)
    (hawaiting : request.progress = .awaiting tag rest) (now : Int) (outcome : Except (Option String) Rat)
    (find : String → OutboundFound) :
    InOrder initial (s.answer index request tag rest now outcome find) := by
  have hrouted := h.requests request (List.mem_of_getElem? hget)
  have hcandidates : request.candidates = request.failed ++ tag :: rest := by
    have hprogress := hrouted.progress
    rw [hawaiting] at hprogress
    exact hprogress
  cases outcome with
  | ok latencyMs =>
    have hpasses : Passes initial s (s.record tag (.ok latencyMs)) 0 :=
      ⟨h.recorded.record tag _, List.prefix_append _ _, rfl, rfl, rfl⟩
    have hlater := hrouted.later hpasses.later
    exact h.set hget hpasses ⟨hlater.seen_le, ⟨rest, hcandidates⟩, hlater.alone, hlater.order⟩ rfl
  | error error =>
    obtain ⟨passed, hfailed, hprogress, htried⟩ := tryCandidates_spec request.kind request.target find now rest
      (request.failed ++ [tag]) error (s.attemptFailed tag now) (h.recorded.record tag (.error now))
    have hpasses : Passes initial s (tryCandidates request.kind request.target find now rest
        (request.failed ++ [tag]) error (s.attemptFailed tag now)).2 (passed.length + 1) := by
      refine ⟨htried.recorded, (List.prefix_append _ _).trans htried.later, htried.requests,
        htried.routeMatches, htried.failures.trans ?_⟩
      show s.outboundFailuresTotal + 1 + passed.length = _
      omega
    have hlater := hrouted.later hpasses.later
    refine h.set hget hpasses ⟨hlater.seen_le, ?_, hlater.alone, hlater.order⟩ ?_
    · show Progresses request.candidates (tryCandidates _ _ _ _ _ _ _ _).1.1 _
      rw [hfailed, hcandidates, List.append_cons]
      exact hprogress
    · show (tryCandidates _ _ _ _ _ _ _ _).1.1.length = _
      rw [hfailed, List.length_append, List.length_append, List.length_singleton]
      omega

theorem step_inOrder (h : InOrder initial s) {a : Label} (hstep : step s a = some s') :
    InOrder initial s' := by
  cases a with
  | request kind target now random find =>
    cases hstep
    exact request_inOrder h kind target now random find
  | answer index now outcome find =>
    simp only [step] at hstep
    split at hstep
    · next request hget =>
      split at hstep
      · next tag rest hawaiting =>
        cases hstep
        exact answer_inOrder h hget hawaiting now outcome find
      · cases hstep
    · cases hstep
  | probe tag outcome =>
    cases hstep
    have hrecorded := h.recorded.record tag outcome
    exact ⟨h.keyed, hrecorded, fun request hmem => (h.requests request hmem).later (List.prefix_append _ _),
      h.routeMatches, h.failures⟩
  | snapshot now =>
    cases hstep
    have hreads := RoutingPolicyManager.getPolicySnapshotsOf_reads now s.policyManager.policies.values
      s.policyManager
    exact ⟨h.keyed, h.recorded.selects hreads.policies hreads.healthOf, h.requests, h.routeMatches, h.failures⟩

/-- A tripped outbound is called only when all others of its policy have failed. -/
theorem Routed.tripped_last {recorded : List RecordedAttempt} {request : RoutedRequest}
    (h : Routed initial recorded request) {policy : RoutingPolicyConfig}
    (hget : initial.policies.get request.target = some policy) (hnodup : policy.outbounds.Nodup)
    {a b : String} (ha : a ∈ policy.outbounds) (hb : b ∈ policy.outbounds)
    (hgood : ¬ TrippedFor initial recorded request policy a)
    (htripped : TrippedFor initial recorded request policy b) {before after : List String}
    (hat : request.candidates = before ++ b :: after) : a ∈ before := by
  obtain ⟨hperm, hfirst⟩ := h.order policy hget hnodup
  have hmem : a ∈ before ++ b :: after := by
    rw [← hat]
    exact hperm.mem_iff.mpr ha
  rcases List.mem_append.mp hmem with hmem | hmem
  · exact hmem
  · rcases List.mem_cons.mp hmem with rfl | hmem
    · exact absurd htripped hgood
    · rw [hat] at hfirst
      have hlater := (List.pairwise_cons.mp (List.pairwise_append.mp hfirst).2.1).1 a hmem
      exact absurd htripped (hlater hgood)

theorem Routed.reached {recorded : List RecordedAttempt} {request : RoutedRequest}
    (h : Routed initial recorded request) {tag : String} (hreached : request.Reached tag) :
    ∃ before after, request.candidates = before ++ tag :: after ∧ before ⊆ request.failed := by
  have hprogress := h.progress
  rcases hreached with hmem | ⟨rest, hawaiting⟩ | hreturned
  · obtain ⟨before, after, hfailed⟩ := List.append_of_mem hmem
    have hbefore : before ⊆ request.failed := by
      rw [hfailed]
      exact List.subset_append_left _ _
    cases hat : request.progress with
    | awaiting next rest =>
      rw [hat] at hprogress
      refine ⟨before, after ++ next :: rest, ?_, hbefore⟩
      rw [show request.candidates = request.failed ++ next :: rest from hprogress, hfailed]
      simp
    | returned next =>
      rw [hat] at hprogress
      obtain ⟨rest, hcandidates⟩ := hprogress
      refine ⟨before, after ++ next :: rest, ?_, hbefore⟩
      rw [hcandidates, hfailed]
      simp
    | thrown error =>
      rw [hat] at hprogress
      exact ⟨before, after, (show request.candidates = request.failed from hprogress).trans hfailed, hbefore⟩
  · rw [hawaiting] at hprogress
    exact ⟨request.failed, rest, hprogress, List.Subset.refl _⟩
  · rw [hreturned] at hprogress
    obtain ⟨rest, hcandidates⟩ := hprogress
    exact ⟨request.failed, rest, hcandidates, List.Subset.refl _⟩

theorem run_inOrder (policies : List RoutingPolicyConfig) (initialHealth : List OutboundHealth)
    {history : List Label} (hrun : system.run (new policies initialHealth) history = some s) :
    InOrder (.create policies initialHealth) s := by
  refine system.run_invariant (fun _ _ => True) (InOrder (.create policies initialHealth)) ?_ history _ s ?_
    (system.along_true _ history) hrun
  · intro before label after hbefore _ hstep
    exact step_inOrder hbefore hstep
  · exact ⟨RoutingPolicyManager.create_keyed policies initialHealth, recorded_initial _, by simp [new], rfl, rfl⟩

/-- However requests, answers and probes overlap: a request goes through its policy's outbounds, each
once if none is repeated, and stops at the first that answers or when all have failed; and what it
reaches of the tripped ones it reaches when all the others have failed it. -/
theorem failover_run (policies : List RoutingPolicyConfig) (initialHealth : List OutboundHealth)
    (history : List Label) (s : FailoverEngine)
    (hrun : system.run (new policies initialHealth) history = some s) :
    (∀ request ∈ s.requests,
      Progresses request.candidates request.failed request.progress ∧
      ((RoutingPolicyManager.create policies initialHealth).policies.get request.target = none →
        request.candidates = [request.target]) ∧
      ∀ policy, (RoutingPolicyManager.create policies initialHealth).policies.get request.target = some policy →
        policy.outbounds.Nodup →
        request.candidates.Perm policy.outbounds ∧
        ∀ a ∈ policy.outbounds, ∀ b ∈ policy.outbounds,
          ¬ TrippedFor (.create policies initialHealth) s.recorded request policy a →
          TrippedFor (.create policies initialHealth) s.recorded request policy b →
          request.Reached b → a ∈ request.failed) ∧
    s.routeMatchesTotal = s.requests.length ∧
    s.outboundFailuresTotal = (s.requests.map fun request => request.failed.length).sum := by
  have horder := run_inOrder policies initialHealth hrun
  refine ⟨fun request hmem => ?_, horder.routeMatches, horder.failures⟩
  have hrouted := horder.requests request hmem
  refine ⟨hrouted.progress, hrouted.alone, fun policy hget hnodup => ⟨(hrouted.order policy hget hnodup).1, ?_⟩⟩
  intro a ha b hb hgood htripped hreached
  obtain ⟨before, after, hat, hbefore⟩ := hrouted.reached hreached
  exact hbefore (hrouted.tripped_last hget hnodup ha hb hgood htripped hat)

/-- The first of three has failed; a request finds the second missing, and the third refuses. -/
theorem failover_run_auto :
    ∃ s request, system.run (new [⟨"auto", .failover, ["a", "b", "c"], .roundRobin, 1, 10000⟩] [])
        [.probe "a" (.error 5),
          .request .openTcp "auto" 6 0 fun tag => if tag = "b" then .missing else .usable,
          .answer 0 7 (.error (some "refused")) fun _ => .usable,
          .answer 0 8 (.ok 3) fun _ => .usable] = some s ∧
      request ∈ s.requests ∧ request.progress = .returned "a" ∧
      "b" ∈ request.failed ∧ s.outboundFailuresTotal = 2 := by
  obtain ⟨hrequests, -, hfailures⟩ := failover_run
    [⟨"auto", .failover, ["a", "b", "c"], .roundRobin, 1, 10000⟩] []
    [.probe "a" (.error 5),
      .request .openTcp "auto" 6 0 fun tag => if tag = "b" then .missing else .usable,
      .answer 0 7 (.error (some "refused")) fun _ => .usable,
      .answer 0 8 (.ok 3) fun _ => .usable] _ rfl
  refine ⟨_, _, rfl, .head _, rfl, ?_, hfailures⟩
  refine ((hrequests _ (.head _)).2.2 _ rfl (by decide)).2 "b" (by decide) "a" (by decide) ?_ ?_ (.inr (.inr rfl))
  · rintro ⟨htwice, -⟩
    exact absurd htwice (by decide)
  · exact ⟨by decide, 5, rfl, by decide⟩

end FailoverEngine

end Sepigs
