import Sepigs.Lib.Preference
import Sepigs.Router.Policy

/-!
# The candidates of a policy

Selections read the health records and move the rotation cursor; nothing else
changes (`Reads`).  So a selection is a function of the health of the outbounds
and of the cursor, and its candidates are an order of preference of the policy's
outbounds.
-/

namespace Sepigs

namespace RoutingPolicyManager

/-- The health of an outbound, whether a record of it exists or not. -/
def healthOf (manager : RoutingPolicyManager) (tag : String) : OutboundHealth :=
  (manager.health.get tag).getD (.fresh tag)

/-- Policies, cursors and the health of every outbound are those of `manager`. -/
structure Reads (manager manager' : RoutingPolicyManager) : Prop where
  policies : manager'.policies = manager.policies
  roundRobinIndex : manager'.roundRobinIndex = manager.roundRobinIndex
  healthOf : manager'.healthOf = manager.healthOf

theorem Reads.refl (manager : RoutingPolicyManager) : Reads manager manager := ⟨rfl, rfl, rfl⟩

theorem Reads.trans {m m' m'' : RoutingPolicyManager} (h : Reads m m') (h' : Reads m' m'') :
    Reads m m'' :=
  ⟨h'.1.trans h.1, h'.2.trans h.2, h'.3.trans h.3⟩

@[simp] theorem getHealth_fst (manager : RoutingPolicyManager) (tag : String) :
    (manager.getHealth tag).1 = manager.healthOf tag := by
  unfold getHealth healthOf
  cases manager.health.get tag <;> rfl

theorem getHealth_reads (manager : RoutingPolicyManager) (tag : String) :
    Reads manager (manager.getHealth tag).2 := by
  unfold getHealth
  cases h : manager.health.get tag with
  | some existing => exact .refl manager
  | none =>
    refine ⟨rfl, rfl, ?_⟩
    funext t
    unfold healthOf
    rw [JsMap.get_set]
    by_cases ht : t = tag
    · rw [if_pos ht, ht, h]
      rfl
    · rw [if_neg ht]

theorem getHealths_reads (tags : List String) :
    ∀ manager : RoutingPolicyManager, Reads manager (getHealths manager tags) := by
  induction tags with
  | nil => exact Reads.refl
  | cons tag tags ih => exact fun manager => (getHealth_reads manager tag).trans (ih _)

/-- `isHealthy`, as a reader of the manager. -/
def healthy (manager : RoutingPolicyManager) (policy : RoutingPolicyConfig) (now : Int)
    (tag : String) : Bool :=
  (manager.healthOf tag).isHealthy policy now

theorem filterHealthy_spec (policy : RoutingPolicyConfig) (now : Int) (outbounds : List String) :
    ∀ manager : RoutingPolicyManager,
      (filterHealthy policy now manager outbounds).1 =
          outbounds.filter (manager.healthy policy now) ∧
        Reads manager (filterHealthy policy now manager outbounds).2 := by
  induction outbounds with
  | nil => exact fun manager => ⟨rfl, .refl manager⟩
  | cons tag outbounds ih =>
    intro manager
    have hreads := getHealth_reads manager tag
    obtain ⟨hrest, hreads'⟩ := ih (manager.getHealth tag).2
    have hsame : (manager.getHealth tag).2.healthy policy now = manager.healthy policy now := by
      funext t
      unfold healthy
      rw [hreads.healthOf]
    refine ⟨?_, hreads.trans hreads'⟩
    show (if (manager.getHealth tag).1.isHealthy policy now then
      tag :: (filterHealthy policy now (manager.getHealth tag).2 outbounds).1
      else (filterHealthy policy now (manager.getHealth tag).2 outbounds).1) = _
    rw [hrest, hsame, getHealth_fst, List.filter_cons]
    rfl

theorem has_getHealth (manager : RoutingPolicyManager) (tag t : String)
    (h : t = tag ∨ manager.health.has t = true) :
    (manager.getHealth tag).2.health.has t = true := by
  unfold getHealth
  cases hget : manager.health.get tag with
  | some existing =>
    rcases h with rfl | h
    · simp [JsMap.has, hget]
    · exact h
  | none =>
    show ((manager.health.set tag (.fresh tag)).get t).isSome = true
    rw [JsMap.get_set]
    by_cases ht : t = tag
    · simp [ht]
    · rw [if_neg ht]
      exact h.resolve_left ht

theorem has_filterHealthy (policy : RoutingPolicyConfig) (now : Int) (t : String)
    (outbounds : List String) :
    ∀ manager : RoutingPolicyManager, t ∈ outbounds ∨ manager.health.has t = true →
      (filterHealthy policy now manager outbounds).2.health.has t = true := by
  induction outbounds with
  | nil => exact fun manager h => h.resolve_left List.not_mem_nil
  | cons tag outbounds ih =>
    intro manager h
    apply ih
    rw [List.mem_cons] at h
    by_cases ht : t ∈ outbounds
    · exact .inl ht
    · refine .inr (has_getHealth manager tag t ?_)
      tauto

/-- The comparator of `leastLatency` creates no record. -/
theorem getHealth_of_filterHealthy (manager : RoutingPolicyManager)
    (policy : RoutingPolicyConfig) (now : Int) {tag : String} (h : tag ∈ policy.outbounds) :
    ((filterHealthy policy now manager policy.outbounds).2.getHealth tag).2 =
      (filterHealthy policy now manager policy.outbounds).2 := by
  have hhas := has_filterHealthy policy now tag policy.outbounds manager (.inl h)
  obtain ⟨existing, hget⟩ := Option.isSome_iff_exists.mp hhas
  unfold getHealth
  rw [hget]

/-! ## The head of a load-balanced selection -/

/-- The members among which the head is chosen. -/
def eligible (manager : RoutingPolicyManager) (policy : RoutingPolicyConfig) (now : Int) :
    List String :=
  let healthy := policy.outbounds.filter (manager.healthy policy now)
  if healthy.length > 0 then healthy else policy.outbounds

/-- The latency of an outbound; an unknown one is the largest. -/
def latency (manager : RoutingPolicyManager) (tag : String) : WithTop Rat :=
  match (manager.healthOf tag).latencyEwmaMs with
  | none => ⊤
  | some latencyEwmaMs => (latencyEwmaMs : WithTop Rat)

theorem latencyScore_eq (manager : RoutingPolicyManager) (tag : String) :
    manager.latencyScore tag = manager.latency tag := by
  unfold latencyScore latency
  cases hlatency : (manager.healthOf tag).latencyEwmaMs <;> simp only [getHealth_fst, hlatency]

/-- The rotation cursor of a policy. -/
def cursor (manager : RoutingPolicyManager) (tag : String) : Nat :=
  (manager.roundRobinIndex.get tag).getD 0

theorem getD_or_head_mem {pool : List String} (hne : pool ≠ []) (i : Nat) :
    (pool[i]? <|> pool[0]?).getD "" ∈ pool := by
  by_cases hi : i < pool.length
  · rw [List.getElem?_eq_getElem hi]
    exact List.getElem_mem hi
  · have hpos : 0 < pool.length := List.length_pos_iff.mpr hne
    rw [List.getElem?_eq_none (by omega), List.getElem?_eq_getElem hpos]
    exact List.getElem_mem hpos

theorem head_mergeSort_le {α : Type} (score : α → WithTop Rat) {pool : List α}
    (hne : pool ≠ []) :
    ∃ first, (pool.mergeSort fun a b => decide (score a ≤ score b))[0]? = some first ∧
      first ∈ pool ∧ ∀ member ∈ pool, score first ≤ score member := by
  have hpairwise := @List.pairwise_mergeSort α (fun a b => decide (score a ≤ score b))
    (by simpa using fun a b c => le_trans) (by simpa using fun a b => le_total _ _) pool
  have hperm := List.mergeSort_perm pool fun a b => decide (score a ≤ score b)
  cases hsorted : pool.mergeSort fun a b => decide (score a ≤ score b) with
  | nil =>
    rw [hsorted] at hperm
    exact absurd hperm.symm.eq_nil hne
  | cons first rest =>
    rw [hsorted] at hperm hpairwise
    refine ⟨first, rfl, hperm.mem_iff.mp List.mem_cons_self, fun member hmember => ?_⟩
    rcases List.mem_cons.mp (hperm.mem_iff.mpr hmember) with rfl | hmember
    · exact le_rfl
    · simpa using List.rel_of_pairwise_cons hpairwise hmember

theorem pickLoadBalanceFirst_mem (manager : RoutingPolicyManager) (policy : RoutingPolicyConfig)
    (random : Rat) {pool : List String} (hne : pool ≠ []) :
    (manager.pickLoadBalanceFirst policy random pool).1 ∈ pool := by
  unfold pickLoadBalanceFirst
  cases policy.strategy with
  | roundRobin => exact getD_or_head_mem hne _
  | random => exact getD_or_head_mem hne _
  | leastLatency =>
    obtain ⟨first, hfirst, hmem, -⟩ := head_mergeSort_le manager.latencyScore hne
    show (((pool.mergeSort _)[0]? <|> pool[0]?) <|> policy.outbounds[0]?).getD "" ∈ pool
    rw [hfirst]
    exact hmem

theorem pickLoadBalanceFirst_leastLatency (manager : RoutingPolicyManager)
    {policy : RoutingPolicyConfig} (hstrategy : policy.strategy = .leastLatency) (random : Rat)
    {pool : List String} {member : String} (hmember : member ∈ pool) :
    manager.latency (manager.pickLoadBalanceFirst policy random pool).1 ≤
      manager.latency member := by
  obtain ⟨first, hfirst, -, hle⟩ :=
    head_mergeSort_le manager.latencyScore (List.ne_nil_of_mem hmember)
  unfold pickLoadBalanceFirst
  rw [hstrategy]
  show manager.latency ((((pool.mergeSort _)[0]? <|> pool[0]?) <|> policy.outbounds[0]?).getD "") ≤ _
  rw [hfirst, ← latencyScore_eq, ← latencyScore_eq]
  exact hle member hmember

theorem pickLoadBalanceFirst_roundRobin (manager : RoutingPolicyManager)
    {policy : RoutingPolicyConfig} (hstrategy : policy.strategy = .roundRobin) (random : Rat)
    {pool : List String} (hne : pool ≠ []) :
    some (manager.pickLoadBalanceFirst policy random pool).1 =
      pool[manager.cursor policy.tag % pool.length]? := by
  have hlt : manager.cursor policy.tag % pool.length < pool.length :=
    Nat.mod_lt _ (List.length_pos_iff.mpr hne)
  unfold pickLoadBalanceFirst
  rw [hstrategy]
  show some ((pool[manager.cursor policy.tag % pool.length]? <|> pool[0]?).getD "") = _
  rw [List.getElem?_eq_getElem hlt]
  rfl

/-! ## Candidates -/

theorem not_contains_filter (good : String → Bool) (outbounds : List String) :
    (outbounds.filter fun tag => !(outbounds.filter good).contains tag) =
      outbounds.filter fun tag => !good tag := by
  apply List.filter_congr
  intro tag htag
  cases hgood : good tag <;> simp [htag, hgood]

theorem selectFailover_fst (manager : RoutingPolicyManager) (policy : RoutingPolicyConfig)
    (now : Int) :
    (manager.selectFailover policy now).1 =
      policy.outbounds.filter (manager.healthy policy now) ++
        policy.outbounds.filter fun tag => !manager.healthy policy now tag := by
  obtain ⟨hhealthy, -⟩ := filterHealthy_spec policy now policy.outbounds manager
  show (filterHealthy policy now manager policy.outbounds).1 ++ policy.outbounds.filter (fun tag =>
    !(filterHealthy policy now manager policy.outbounds).1.contains tag) = _
  rw [hhealthy, not_contains_filter]

theorem eligible_eq_nil_iff (manager : RoutingPolicyManager) (policy : RoutingPolicyConfig)
    (now : Int) : manager.eligible policy now = [] ↔ policy.outbounds = [] := by
  unfold eligible
  by_cases h : (policy.outbounds.filter (manager.healthy policy now)).length > 0
  · have hne := List.length_pos_iff.mp h
    simp only [h, if_true, hne, false_iff]
    intro hnil
    rw [hnil] at hne
    exact hne rfl
  · simp only [h, if_false]

/-- A load-balanced selection: the head is chosen in the state `filterHealthy` leaves. -/
theorem selectLoadBalance_of_ne_nil (manager : RoutingPolicyManager)
    (policy : RoutingPolicyConfig) (now : Int) (random : Rat) (hne : policy.outbounds ≠ []) :
    ∃ read, Reads manager read ∧
      manager.selectLoadBalance policy now random =
        ((read.pickLoadBalanceFirst policy random (manager.eligible policy now)).1 ::
            (manager.eligible policy now).filter (fun tag =>
              tag ≠ (read.pickLoadBalanceFirst policy random (manager.eligible policy now)).1) ++
            policy.outbounds.filter (fun tag => !(manager.eligible policy now).contains tag),
          (read.pickLoadBalanceFirst policy random (manager.eligible policy now)).2) := by
  obtain ⟨hhealthy, hreads⟩ := filterHealthy_spec policy now policy.outbounds manager
  refine ⟨(filterHealthy policy now manager policy.outbounds).2, hreads, ?_⟩
  have hpool : (manager.eligible policy now).length ≠ 0 := by
    rw [Ne, List.length_eq_zero_iff, eligible_eq_nil_iff]
    exact hne
  unfold selectLoadBalance
  simp only [hhealthy]
  exact if_neg hpool

theorem selectLoadBalance_of_nil (manager : RoutingPolicyManager)
    {policy : RoutingPolicyConfig} (now : Int) (random : Rat) (hnil : policy.outbounds = []) :
    manager.selectLoadBalance policy now random = ([], manager) := by
  unfold selectLoadBalance
  rw [hnil]
  rfl

/-- The head of a load-balanced selection is the head of the eligible members, or it is chosen
from them as `pickLoadBalanceFirst` says; the others follow, healthy ones first. -/
theorem selectLoadBalance_order (manager : RoutingPolicyManager) {policy : RoutingPolicyConfig}
    (now : Int) (random : Rat) (hnodup : policy.outbounds.Nodup) :
    Preference.Order (manager.healthy policy now) policy.outbounds
      (manager.selectLoadBalance policy now random).1 := by
  by_cases hne : policy.outbounds = []
  · rw [selectLoadBalance_of_nil manager now random hne, hne]
    exact Preference.order_partition _ []
  · obtain ⟨read, -, heq⟩ := selectLoadBalance_of_ne_nil manager policy now random hne
    have hpool : manager.eligible policy now ≠ [] := by
      rw [Ne, eligible_eq_nil_iff]
      exact hne
    have hmem := pickLoadBalanceFirst_mem read policy random hpool
    rw [heq]
    generalize (read.pickLoadBalanceFirst policy random (manager.eligible policy now)).1 = first
      at hmem
    by_cases h : (policy.outbounds.filter (manager.healthy policy now)).length > 0
    · have heligible : manager.eligible policy now =
          policy.outbounds.filter (manager.healthy policy now) := if_pos h
      rw [heligible] at hmem ⊢
      rw [not_contains_filter]
      exact Preference.order_chosen hnodup hmem
    · have heligible : manager.eligible policy now = policy.outbounds := if_neg h
      have hnone : ∀ tag ∈ policy.outbounds, manager.healthy policy now tag = false := by
        have hnil := List.eq_nil_of_length_eq_zero (Nat.eq_zero_of_not_pos h)
        simpa using hnil
      rw [heligible] at hmem ⊢
      have hrest : (policy.outbounds.filter fun tag => !policy.outbounds.contains tag) = [] := by
        simp
      rw [hrest, List.append_nil]
      exact Preference.order_chosen_of_none_good hnodup hmem hnone

theorem select_policy {manager : RoutingPolicyManager} {tag : String}
    {policy : RoutingPolicyConfig} (hget : manager.policies.get tag = some policy) (now : Int)
    (random : Rat) :
    (manager.select now random tag).1.candidates =
      (match policy.type with
      | .failover => manager.selectFailover policy now
      | .loadBalance => manager.selectLoadBalance policy now random).1 := by
  unfold select
  cases htype : policy.type <;> simp only [hget, htype]

theorem select_order {manager : RoutingPolicyManager} {tag : String}
    {policy : RoutingPolicyConfig} (hget : manager.policies.get tag = some policy)
    (hnodup : policy.outbounds.Nodup) (now : Int) (random : Rat) :
    Preference.Order (manager.healthy policy now) policy.outbounds
      (manager.select now random tag).1.candidates := by
  rw [select_policy hget]
  cases policy.type with
  | failover =>
    show Preference.Order _ _ (manager.selectFailover policy now).1
    rw [selectFailover_fst]
    exact Preference.order_partition _ _
  | loadBalance => exact selectLoadBalance_order manager now random hnodup

theorem select_leastLatency {manager : RoutingPolicyManager} {tag : String}
    {policy : RoutingPolicyConfig} (hget : manager.policies.get tag = some policy)
    (htype : policy.type = .loadBalance) (hstrategy : policy.strategy = .leastLatency)
    (now : Int) (random : Rat) {head : String}
    (hhead : (manager.select now random tag).1.candidates.head? = some head) :
    head ∈ manager.eligible policy now ∧
      ∀ member ∈ manager.eligible policy now, manager.latency head ≤ manager.latency member := by
  rw [select_policy hget, htype] at hhead
  by_cases hne : policy.outbounds = []
  · simp only [selectLoadBalance_of_nil manager now random hne] at hhead
    cases hhead
  · obtain ⟨read, hreads, heq⟩ := selectLoadBalance_of_ne_nil manager policy now random hne
    have hpool : manager.eligible policy now ≠ [] := by
      rw [Ne, eligible_eq_nil_iff]
      exact hne
    simp only [heq] at hhead
    obtain rfl := Option.some.inj hhead
    refine ⟨pickLoadBalanceFirst_mem read policy random hpool, fun member hmember => ?_⟩
    have hlatency : read.latency = manager.latency := by
      funext t
      unfold latency
      rw [hreads.healthOf]
    rw [← hlatency]
    exact pickLoadBalanceFirst_leastLatency read hstrategy random hmember

/-! ## Rotation -/

theorem cursor_set (manager : RoutingPolicyManager) (cursors : JsMap String Nat) (tag t : String)
    (n : Nat) :
    cursor { manager with roundRobinIndex := cursors.set tag n } t =
      if t = tag then n else (cursors.get t).getD 0 := by
  unfold cursor
  rw [JsMap.get_set]
  by_cases h : t = tag
  · rw [if_pos h, if_pos h]
    rfl
  · rw [if_neg h, if_neg h]

/-- What a pick does to the manager: it keeps all but the cursor of the policy. -/
theorem pickLoadBalanceFirst_keeps (manager : RoutingPolicyManager)
    (policy : RoutingPolicyConfig) (random : Rat) (pool : List String) :
    (manager.pickLoadBalanceFirst policy random pool).2.policies = manager.policies ∧
      (manager.pickLoadBalanceFirst policy random pool).2.health = manager.health ∧
      ∀ t, t ≠ policy.tag →
        (manager.pickLoadBalanceFirst policy random pool).2.cursor t = manager.cursor t := by
  unfold pickLoadBalanceFirst
  cases policy.strategy with
  | leastLatency => exact ⟨rfl, rfl, fun _ _ => rfl⟩
  | random => exact ⟨rfl, rfl, fun _ _ => rfl⟩
  | roundRobin =>
    refine ⟨rfl, rfl, fun t ht => ?_⟩
    show cursor { manager with roundRobinIndex := manager.roundRobinIndex.set _ _ } t = _
    rw [cursor_set, if_neg ht]
    rfl

/-- What a selection does to the manager. -/
structure Selects (tag : String) (manager manager' : RoutingPolicyManager) : Prop where
  policies : manager'.policies = manager.policies
  healthOf : manager'.healthOf = manager.healthOf
  cursor : ∀ t, t ≠ tag → manager'.cursor t = manager.cursor t

theorem Reads.cursor {manager manager' : RoutingPolicyManager} (h : Reads manager manager')
    (t : String) : manager'.cursor t = manager.cursor t := by
  unfold RoutingPolicyManager.cursor
  rw [h.roundRobinIndex]

theorem Reads.selects {manager manager' : RoutingPolicyManager} (h : Reads manager manager')
    (tag : String) : Selects tag manager manager' :=
  ⟨h.policies, h.healthOf, fun t _ => h.cursor t⟩

theorem selectLoadBalance_selects (manager : RoutingPolicyManager) (policy : RoutingPolicyConfig)
    (now : Int) (random : Rat) :
    Selects policy.tag manager (manager.selectLoadBalance policy now random).2 := by
  by_cases hne : policy.outbounds = []
  · rw [selectLoadBalance_of_nil manager now random hne]
    exact (Reads.refl manager).selects _
  · obtain ⟨read, hreads, heq⟩ := selectLoadBalance_of_ne_nil manager policy now random hne
    rw [heq]
    obtain ⟨hpolicies, hhealth, hcursor⟩ :=
      pickLoadBalanceFirst_keeps read policy random (manager.eligible policy now)
    refine ⟨hpolicies.trans hreads.policies, ?_, fun t ht => (hcursor t ht).trans (hreads.cursor t)⟩
    rw [← hreads.healthOf]
    funext t
    unfold healthOf
    rw [hhealth]

/-- Every policy stands under its own tag. -/
def Keyed (manager : RoutingPolicyManager) : Prop :=
  ∀ tag policy, manager.policies.get tag = some policy → policy.tag = tag

theorem select_selects {manager : RoutingPolicyManager} (hkeyed : manager.Keyed) (now : Int)
    (random : Rat) (tag : String) : Selects tag manager (manager.select now random tag).2 := by
  unfold select
  cases hget : manager.policies.get tag with
  | none => exact (Reads.refl manager).selects tag
  | some policy =>
    have htag := hkeyed tag policy hget
    show Selects tag manager (match policy.type with
      | .failover => manager.selectFailover policy now
      | .loadBalance => manager.selectLoadBalance policy now random).2
    cases policy.type with
    | failover => exact (filterHealthy_spec policy now policy.outbounds manager).2.selects tag
    | loadBalance =>
      rw [← htag]
      exact selectLoadBalance_selects manager policy now random

theorem select_roundRobin {manager : RoutingPolicyManager} (hkeyed : manager.Keyed)
    {tag : String} {policy : RoutingPolicyConfig} (hget : manager.policies.get tag = some policy)
    (htype : policy.type = .loadBalance) (hstrategy : policy.strategy = .roundRobin)
    (hne : policy.outbounds ≠ []) (now : Int) (random : Rat) :
    (manager.select now random tag).1.candidates.head? =
        (manager.eligible policy now)[
          manager.cursor tag % (manager.eligible policy now).length]? ∧
      (manager.select now random tag).2.cursor tag = manager.cursor tag + 1 := by
  have htag := hkeyed tag policy hget
  obtain ⟨read, hreads, heq⟩ := selectLoadBalance_of_ne_nil manager policy now random hne
  have hpool : manager.eligible policy now ≠ [] := by
    rw [Ne, eligible_eq_nil_iff]
    exact hne
  have hpick := pickLoadBalanceFirst_roundRobin read hstrategy random hpool
  have hselect : manager.select now random tag =
      (⟨tag, some policy.tag, (manager.selectLoadBalance policy now random).1⟩,
        (manager.selectLoadBalance policy now random).2) := by
    unfold select
    rw [hget]
    simp only [htype]
  rw [hselect, heq]
  constructor
  · rw [← hreads.cursor, ← htag]
    exact hpick
  · rw [← hreads.cursor]
    unfold pickLoadBalanceFirst
    rw [hstrategy, ← htag]
    show cursor { read with roundRobinIndex := read.roundRobinIndex.set _ _ } policy.tag = _
    rw [cursor_set, if_pos rfl]
    rfl

theorem keyed_foldl (policies : List RoutingPolicyConfig) :
    ∀ map : JsMap String RoutingPolicyConfig,
      (∀ tag policy, map.get tag = some policy → policy.tag = tag) →
      ∀ tag policy, (policies.foldl (fun map policy => map.set policy.tag policy) map).get tag =
        some policy → policy.tag = tag := by
  induction policies with
  | nil => exact fun map h => h
  | cons added policies ih =>
    intro map h
    apply ih
    intro tag policy hget
    rw [JsMap.get_set] at hget
    by_cases htag : tag = added.tag
    · rw [if_pos htag] at hget
      rw [htag, Option.some.inj hget]
    · rw [if_neg htag] at hget
      exact h tag policy hget

theorem reload_keyed (manager : RoutingPolicyManager) (policies : List RoutingPolicyConfig) :
    (manager.reload policies).Keyed := by
  unfold Keyed reload
  rw [(getHealths_reads _ _).policies]
  apply keyed_foldl
  intro tag policy hget
  cases hget

theorem create_keyed (policies : List RoutingPolicyConfig) (initialHealth : List OutboundHealth) :
    (create policies initialHealth).Keyed :=
  reload_keyed _ policies

theorem getPolicySnapshotsOf_reads (now : Int) (policies : List RoutingPolicyConfig) :
    ∀ manager : RoutingPolicyManager,
      Reads manager (getPolicySnapshotsOf now manager policies).2 := by
  induction policies with
  | nil => exact Reads.refl
  | cons policy policies ih =>
    exact fun manager =>
      (filterHealthy_spec policy now policy.outbounds manager).2.trans (ih _)

/-- Only a reload changes the policies. -/
theorem perform_policies {manager : RoutingPolicyManager} (hkeyed : manager.Keyed)
    (call : PolicyCall) :
    (∃ policies, call = .reload policies) ∨ (manager.perform call).policies = manager.policies := by
  cases call with
  | select now random tag => exact .inr (select_selects hkeyed now random tag).policies
  | recordSuccess outboundTag latencyMs => exact .inr (getHealth_reads manager outboundTag).policies
  | recordFailure now outboundTag => exact .inr (getHealth_reads manager outboundTag).policies
  | getPolicySnapshots now => exact .inr (getPolicySnapshotsOf_reads now _ manager).policies
  | reload policies => exact .inl ⟨policies, rfl⟩

theorem perform_keyed {manager : RoutingPolicyManager} (hkeyed : manager.Keyed)
    (call : PolicyCall) : (manager.perform call).Keyed := by
  rcases perform_policies hkeyed call with ⟨policies, rfl⟩ | h
  · exact reload_keyed manager policies
  · unfold Keyed
    rw [h]
    exact hkeyed

/-- Only the selections of a policy move its cursor. -/
theorem perform_cursor {manager : RoutingPolicyManager} (hkeyed : manager.Keyed) {tag : String}
    {call : PolicyCall} (h : ∀ now random, call ≠ .select now random tag) :
    (manager.perform call).cursor tag = manager.cursor tag := by
  cases call with
  | select now random t =>
    apply (select_selects hkeyed now random t).cursor
    rintro rfl
    exact h now random rfl
  | recordSuccess outboundTag latencyMs => exact (getHealth_reads manager outboundTag).cursor tag
  | recordFailure now outboundTag => exact (getHealth_reads manager outboundTag).cursor tag
  | getPolicySnapshots now => exact (getPolicySnapshotsOf_reads now _ manager).cursor tag
  | reload policies => exact (getHealths_reads _ _).cursor tag

/-- The first candidates of the selections of `tag` among a list of calls. -/
def firsts (tag : String) : RoutingPolicyManager → List PolicyCall → List (Option String)
  | _, [] => []
  | manager, call :: rest =>
    match call with
    | .select now random t =>
      if t = tag then
        (manager.select now random t).1.candidates.head? :: firsts tag (manager.perform call) rest
      else firsts tag (manager.perform call) rest
    | _ => firsts tag (manager.perform call) rest

/-- A selection of `tag` is by rotation, over `pool`. -/
def Rotates (tag : String) (pool : List String) (manager : RoutingPolicyManager) :
    PolicyCall → Prop
  | .select now _ t =>
    t = tag → ∃ policy, manager.policies.get tag = some policy ∧ policy.type = .loadBalance ∧
      policy.strategy = .roundRobin ∧ manager.eligible policy now = pool
  | _ => True

theorem firsts_eq {tag : String} {pool : List String} (hne : pool ≠ [])
    (callList : List PolicyCall) :
    ∀ manager : RoutingPolicyManager, manager.Keyed →
      calls.Along (Rotates tag pool) manager callList →
      firsts tag manager callList =
        (List.range (firsts tag manager callList).length).map fun i =>
          pool[(manager.cursor tag + i) % pool.length]? := by
  induction callList with
  | nil => exact fun manager _ _ => rfl
  | cons call rest ih =>
    intro manager hkeyed halong
    have ih' := ih _ (perform_keyed hkeyed call) (halong.2 _ rfl)
    by_cases hcall : ∃ now random, call = .select now random tag
    · obtain ⟨now, random, rfl⟩ := hcall
      obtain ⟨policy, hget, htype, hstrategy, hpool⟩ := halong.1 rfl
      have houtbounds : policy.outbounds ≠ [] := by
        rw [Ne, ← eligible_eq_nil_iff manager policy now, hpool]
        exact hne
      obtain ⟨hhead, hcursor⟩ :=
        select_roundRobin hkeyed hget htype hstrategy houtbounds now random
      have hcons : firsts tag manager (.select now random tag :: rest) =
          (manager.select now random tag).1.candidates.head? ::
            firsts tag (manager.select now random tag).2 rest := if_pos rfl
      rw [hcons, hhead, hpool, List.length_cons, List.range_succ_eq_map, List.map_cons,
        List.map_map]
      refine congrArg₂ List.cons rfl (ih'.trans ?_)
      apply List.map_congr_left
      intro i _
      show pool[((manager.select now random tag).2.cursor tag + i) % pool.length]? =
        pool[(manager.cursor tag + (i + 1)) % pool.length]?
      rw [hcursor, Nat.add_assoc, Nat.add_comm 1 i]
    · have hother : ∀ now random, call ≠ .select now random tag :=
        fun now random h => hcall ⟨now, random, h⟩
      have hskip : firsts tag manager (call :: rest) = firsts tag (manager.perform call) rest := by
        cases call with
        | select now random t =>
          exact if_neg fun ht => hother now random (by rw [ht])
        | _ => rfl
      rw [hskip, ← perform_cursor hkeyed hother]
      exact ih'

/-- One turn of the rotation puts every member of the pool first once. -/
theorem firsts_perm {tag : String} {pool : List String} {callList : List PolicyCall}
    {manager : RoutingPolicyManager} (hkeyed : manager.Keyed)
    (halong : calls.Along (Rotates tag pool) manager callList)
    (hturn : (firsts tag manager callList).length = pool.length) :
    (firsts tag manager callList).Perm (pool.map some) := by
  by_cases hne : pool = []
  · subst hne
    rw [List.eq_nil_of_length_eq_zero hturn]
    rfl
  · rw [firsts_eq hne callList manager hkeyed halong, hturn]
    exact Preference.turn_perm pool _

theorem run_keyed (policies : List RoutingPolicyConfig) (initialHealth : List OutboundHealth)
    {history : List PolicyCall} {manager : RoutingPolicyManager}
    (hrun : calls.run (create policies initialHealth) history = some manager) :
    manager.Keyed := by
  refine calls.run_invariant (fun _ _ => True) Keyed ?_ history _ manager
    (create_keyed policies initialHealth) (calls.along_true _ history) hrun
  intro before call after hkeyed _ hstep
  cases hstep
  exact perform_keyed hkeyed call

end RoutingPolicyManager

open RoutingPolicyManager in
/-- The candidates of a policy with distinct outbounds, in every state of a manager: none is lost
or repeated, healthy ones first, and behind the head the configured order is kept.  With
`leastLatency` the head has the least latency of the eligible members; with `roundRobin` a turn of
selections over one pool puts every member of it first once. -/
theorem select_candidates_in_order (policies : List RoutingPolicyConfig)
    (initialHealth : List OutboundHealth) (history : List PolicyCall)
    (manager : RoutingPolicyManager)
    (hrun : calls.run (create policies initialHealth) history = some manager)
    (tag : String) (policy : RoutingPolicyConfig)
    (hget : manager.policies.get tag = some policy) (hnodup : policy.outbounds.Nodup) :
    (∀ (now : Int) (random : Rat),
      let candidates := (manager.select now random tag).1.candidates
      let healthy := manager.healthy policy now
      candidates.Perm policy.outbounds ∧
        (policy.outbounds ≠ [] → candidates ≠ []) ∧
        (candidates.Pairwise fun a b => healthy b = true → healthy a = true) ∧
        (candidates.tail.filter healthy).Sublist policy.outbounds ∧
        (candidates.tail.filter fun a => !healthy a).Sublist policy.outbounds ∧
        (policy.type = .loadBalance → policy.strategy = .leastLatency →
          ∀ head, candidates.head? = some head →
            head ∈ manager.eligible policy now ∧
              ∀ member ∈ manager.eligible policy now,
                manager.latency head ≤ manager.latency member)) ∧
      (policy.type = .loadBalance → policy.strategy = .roundRobin →
        ∀ (pool : List String) (callList : List PolicyCall),
          calls.Along (Rotates tag pool) manager callList →
          (firsts tag manager callList).length = pool.length →
          (firsts tag manager callList).Perm (pool.map some)) := by
  constructor
  · intro now random
    have horder := select_order hget hnodup now random
    refine ⟨horder.perm, horder.ne_nil, horder.good_first, horder.good_kept, horder.rest_kept, ?_⟩
    intro htype hstrategy head hhead
    exact select_leastLatency hget htype hstrategy now random hhead
  · intro _ _ pool callList halong hturn
    exact firsts_perm (run_keyed policies initialHealth hrun) halong hturn

/-- A rotation over three outbounds, one of which has failed. -/
def threeOutbounds : RoutingPolicyConfig where
  tag := "auto"
  type := .loadBalance
  outbounds := ["a", "b", "c"]
  strategy := .roundRobin
  unhealthyAfterFailures := 1
  recoverAfterMs := 10000

open RoutingPolicyManager in
theorem select_candidates_in_order_auto :
    (((create [threeOutbounds] []).recordFailure 5 "b").select 6 0 "auto").1.candidates.Perm
        ["a", "b", "c"] ∧
      (firsts "auto" ((create [threeOutbounds] []).recordFailure 5 "b")
        [.select 6 0 "auto", .recordSuccess "c" 7, .select 8 0 "auto"]).Perm
          [some "a", some "c"] := by
  obtain ⟨hselect, hturn⟩ := select_candidates_in_order [threeOutbounds] [] [.recordFailure 5 "b"]
    ((create [threeOutbounds] []).recordFailure 5 "b") rfl "auto" threeOutbounds rfl (by decide)
  refine ⟨(hselect 6 0).1, hturn rfl rfl ["a", "c"] _ ?_ rfl⟩
  refine ⟨fun _ => ⟨threeOutbounds, rfl, rfl, rfl, rfl⟩, ?_⟩
  rintro _ ⟨⟩
  refine ⟨trivial, ?_⟩
  rintro _ ⟨⟩
  refine ⟨fun _ => ⟨threeOutbounds, rfl, rfl, rfl, rfl⟩, ?_⟩
  rintro _ ⟨⟩
  trivial

end Sepigs
