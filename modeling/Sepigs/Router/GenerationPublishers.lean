import Sepigs.Router.GenerationUsage

/-!
# Who published a pair

The halves a transaction found when it began are older than it, the halves it staged
are not.  So no two transactions publish the same pair (`publisher_unique`), which
keeps a rollback away from the pair of another one.
-/

namespace Sepigs

namespace UsageState

open RoutingGenerationRuntime

/-! ## Where the halves of a pair come from -/

/-- The id was there before. -/
def Older (origins : KeyMap String IdOrigin) (time : Nat) (id : String) : Prop :=
  ∃ origin, origins.get id = some origin ∧ origin.time < time

/-- The id is that of a candidate of the transaction. -/
def StagedBy (origins : KeyMap String IdOrigin) (transactionId id : String) : Prop :=
  ∃ origin, origins.get id = some origin ∧ origin.owner = some transactionId

/-- No id is from the future, and none was staged before its transaction began. -/
structure Dates (origins : KeyMap String IdOrigin) (begun : KeyMap String Nat) (clock : Nat) :
    Prop where
  past : ∀ id origin, origins.get id = some origin → origin.time < clock
  owned : ∀ id origin transactionId, origins.get id = some origin →
    origin.owner = some transactionId →
      ∃ time, begun.get transactionId = some time ∧ time ≤ origin.time

section Dates

variable {origins : KeyMap String IdOrigin} {begun : KeyMap String Nat} {clock : Nat}

theorem noteOrigin_get {id id' : String} {origin origin' : IdOrigin}
    (h : origins.get id = some origin) : (noteOrigin origins id' origin').get id = some origin := by
  unfold noteOrigin
  split
  · exact h
  · next hhas =>
    rw [KeyMap.get_set_of_ne]
    · exact h
    · rintro rfl
      exact hhas ((KeyMap.has_eq_true _ _).mpr ⟨origin, h⟩)

theorem noteOrigin_cases {id id' : String} {origin origin' : IdOrigin}
    (h : (noteOrigin origins id' origin').get id = some origin) :
    origins.get id = some origin ∨ id = id' ∧ origin = origin' := by
  unfold noteOrigin at h
  split at h
  · exact Or.inl h
  · rw [KeyMap.get_set] at h
    split at h
    · next heq => exact Or.inr ⟨heq, (Option.some.inj h).symm⟩
    · exact Or.inl h

theorem noteOrigin_self (origins : KeyMap String IdOrigin) (id : String) (origin : IdOrigin) :
    origins.get id = none ∧ (noteOrigin origins id origin).get id = some origin ∨
      ∃ known, origins.get id = some known ∧ (noteOrigin origins id origin).get id = some known := by
  cases h : origins.get id with
  | none =>
    refine Or.inl ⟨rfl, ?_⟩
    unfold noteOrigin
    rw [if_neg (Bool.eq_false_iff.mp ((KeyMap.has_eq_false _ _).mpr h)), KeyMap.get_set_self]
  | some known => exact Or.inr ⟨known, rfl, noteOrigin_get h⟩

theorem Dates.tick (h : Dates origins begun clock) : Dates origins begun (clock + 1) where
  past id origin ho := Nat.lt_succ_of_lt (h.past id origin ho)
  owned := h.owned

theorem Dates.note (h : Dates origins begun clock) (id : String) (owner : Option String)
    (hbegun : ∀ transactionId, owner = some transactionId →
      ∃ time, begun.get transactionId = some time ∧ time < clock) :
    Dates (noteOrigin origins id ⟨owner, clock⟩) begun (clock + 1) where
  past id' origin ho := by
    rcases noteOrigin_cases ho with ho | ⟨-, rfl⟩
    · exact Nat.lt_succ_of_lt (h.past id' origin ho)
    · exact Nat.lt_succ_self clock
  owned id' origin transactionId ho howner := by
    rcases noteOrigin_cases ho with ho | ⟨-, rfl⟩
    · exact h.owned id' origin transactionId ho howner
    · obtain ⟨time, htime, hlt⟩ := hbegun transactionId howner
      exact ⟨time, htime, Nat.le_of_lt hlt⟩

theorem Dates.begin (h : Dates origins begun clock) {transactionId : String}
    (hnew : begun.get transactionId = none) :
    Dates origins (begun.set transactionId clock) (clock + 1) where
  past id origin ho := Nat.lt_succ_of_lt (h.past id origin ho)
  owned id origin other ho howner := by
    obtain ⟨time, htime, hle⟩ := h.owned id origin other ho howner
    refine ⟨time, ?_, hle⟩
    rw [KeyMap.get_set_of_ne]
    · exact htime
    · rintro rfl
      rw [hnew] at htime
      cases htime

end Dates

section Origins

variable {s s' : UsageState}

/-- Both halves of the pair were there before. -/
def Known (s : UsageState) (time : Nat) (generation : RoutingGenerationPair) : Prop :=
  Older s.routers time generation.router.id ∧ Older s.policies time generation.policy.id

/-- What an open transaction holds: the pair it found when it began, and its candidates. -/
def Opened (s : UsageState) (transactionId : String) (transaction : RoutingTransaction) : Prop :=
  (∃ time, s.begun.get transactionId = some time ∧ s.Known time transaction.oldGeneration) ∧
    (∀ candidate, transaction.routerCandidate = some candidate →
      StagedBy s.routers transactionId candidate.id) ∧
    ∀ candidate, transaction.policyCandidate = some candidate →
      StagedBy s.policies transactionId candidate.id

/-- A half of a published pair is a candidate of the transaction or was there when it began. -/
def OwnOrOlder (origins : KeyMap String IdOrigin) (transactionId : String) (time : Nat)
    (id : String) : Prop :=
  StagedBy origins transactionId id ∨ Older origins time id

def Publication (s : UsageState) (transactionId : String) (generation : RoutingGenerationPair) :
    Prop :=
  ∃ time, s.begun.get transactionId = some time ∧
    OwnOrOlder s.routers transactionId time generation.router.id ∧
    OwnOrOlder s.policies transactionId time generation.policy.id ∧
    (StagedBy s.routers transactionId generation.router.id ∨
      StagedBy s.policies transactionId generation.policy.id)

structure Dated (s : UsageState) : Prop where
  routers : Dates s.routers s.begun s.clock
  policies : Dates s.policies s.begun s.clock
  begun : ∀ transactionId time, s.begun.get transactionId = some time → time < s.clock
  active : s.Known s.clock s.active
  opened : ∀ transactionId transaction,
    s.runtime.transactions.get transactionId = some transaction → s.Opened transactionId transaction
  published : ∀ entry ∈ s.publications, s.Publication entry.1 entry.2

/-- A candidate that is in the pair of another transaction was there before that one began. -/
theorem Dates.staged_ge {origins : KeyMap String IdOrigin} {begun : KeyMap String Nat}
    {clock : Nat} (h : Dates origins begun clock) {transactionId other id : String} {time : Nat}
    (hne : other ≠ transactionId) (hbegun : begun.get transactionId = some time)
    (hstaged : StagedBy origins transactionId id) {time' : Nat}
    (hother : OwnOrOlder origins other time' id) : time < time' := by
  obtain ⟨origin, horigin, howner⟩ := hstaged
  obtain ⟨b, hb, hle⟩ := h.owned id origin transactionId horigin howner
  rw [hbegun] at hb
  cases hb
  rcases hother with ⟨origin', horigin', howner'⟩ | ⟨origin', horigin', hlt⟩
  · rw [horigin] at horigin'
    cases horigin'
    rw [howner] at howner'
    exact absurd (Option.some.inj howner').symm hne
  · rw [horigin] at horigin'
    cases horigin'
    exact Nat.lt_of_le_of_lt hle hlt

/-- **No two transactions publish the same pair.** -/
theorem Dated.publisher_unique (h : Dated s) {entry other : String × RoutingGenerationPair}
    (hmem : entry ∈ s.publications) (hmem' : other ∈ s.publications)
    (hids : entry.2.ids = other.2.ids) : other.1 = entry.1 := by
  obtain ⟨hr, hp⟩ := Prod.mk.inj hids
  obtain ⟨time, hbegun, hrouter, hpolicy, hown⟩ := h.published _ hmem
  obtain ⟨time', hbegun', hrouter', hpolicy', hown'⟩ := h.published _ hmem'
  rw [← hr] at hrouter' hown'
  rw [← hp] at hpolicy' hown'
  by_contra hne
  -- each of the two began after the other
  have hlt : time < time' := by
    rcases hown with hown | hown
    · exact h.routers.staged_ge hne hbegun hown hrouter'
    · exact h.policies.staged_ge hne hbegun hown hpolicy'
  have hlt' : time' < time := by
    rcases hown' with hown' | hown'
    · exact h.routers.staged_ge (Ne.symm hne) hbegun' hown' hrouter
    · exact h.policies.staged_ge (Ne.symm hne) hbegun' hown' hpolicy
  omega

/-- Nothing that was noted is forgotten. -/
structure Grows (s s' : UsageState) : Prop where
  routers : ∀ id origin, s.routers.get id = some origin → s'.routers.get id = some origin
  policies : ∀ id origin, s.policies.get id = some origin → s'.policies.get id = some origin
  begun : ∀ transactionId time, s.begun.get transactionId = some time →
    s'.begun.get transactionId = some time

section Grows

variable {origins origins' : KeyMap String IdOrigin} {time time' : Nat} {transactionId id : String}

theorem Older.grow (h : Older origins time id) (hle : time ≤ time')
    (hgrow : ∀ id origin, origins.get id = some origin → origins'.get id = some origin) :
    Older origins' time' id := by
  obtain ⟨origin, horigin, hlt⟩ := h
  exact ⟨origin, hgrow id origin horigin, Nat.lt_of_lt_of_le hlt hle⟩

theorem StagedBy.grow (h : StagedBy origins transactionId id)
    (hgrow : ∀ id origin, origins.get id = some origin → origins'.get id = some origin) :
    StagedBy origins' transactionId id := by
  obtain ⟨origin, horigin, howner⟩ := h
  exact ⟨origin, hgrow id origin horigin, howner⟩

theorem OwnOrOlder.grow (h : OwnOrOlder origins transactionId time id)
    (hgrow : ∀ id origin, origins.get id = some origin → origins'.get id = some origin) :
    OwnOrOlder origins' transactionId time id :=
  h.imp (fun h => h.grow hgrow) fun h => h.grow (Nat.le_refl time) hgrow

theorem Known.grow {generation : RoutingGenerationPair} (h : s.Known time generation)
    (hle : time ≤ time') (hgrow : Grows s s') : s'.Known time' generation :=
  ⟨h.1.grow hle hgrow.routers, h.2.grow hle hgrow.policies⟩

theorem Opened.grow {transaction : RoutingTransaction} (h : s.Opened transactionId transaction)
    (hgrow : Grows s s') : s'.Opened transactionId transaction := by
  obtain ⟨⟨time, hbegun, hold⟩, hrouter, hpolicy⟩ := h
  exact ⟨⟨time, hgrow.begun _ time hbegun, hold.grow (Nat.le_refl time) hgrow⟩,
    fun candidate hc => (hrouter candidate hc).grow hgrow.routers,
    fun candidate hc => (hpolicy candidate hc).grow hgrow.policies⟩

theorem Publication.grow {generation : RoutingGenerationPair}
    (h : s.Publication transactionId generation) (hgrow : Grows s s') :
    s'.Publication transactionId generation := by
  obtain ⟨time, hbegun, hrouter, hpolicy, hown⟩ := h
  exact ⟨time, hgrow.begun _ time hbegun, hrouter.grow hgrow.routers, hpolicy.grow hgrow.policies,
    hown.imp (fun h => h.grow hgrow.routers) fun h => h.grow hgrow.policies⟩

end Grows

theorem dated_start (initial : RoutingGenerationPair) : Dated (start initial) where
  routers := by
    refine ⟨fun id origin ho => ?_, fun id origin other ho howner => ?_⟩ <;>
      change (KeyMap.set ∅ initial.router.id ⟨none, 0⟩).get id = some origin at ho <;>
      rw [KeyMap.get_set] at ho <;> split at ho <;> cases ho
    · exact Nat.one_pos
    · cases howner
  policies := by
    refine ⟨fun id origin ho => ?_, fun id origin other ho howner => ?_⟩ <;>
      change (KeyMap.set ∅ initial.policy.id ⟨none, 0⟩).get id = some origin at ho <;>
      rw [KeyMap.get_set] at ho <;> split at ho <;> cases ho
    · exact Nat.one_pos
    · cases howner
  begun _ _ h := nomatch h
  active :=
    ⟨⟨_, KeyMap.get_set_self _ _ _, Nat.one_pos⟩, ⟨_, KeyMap.get_set_self _ _ _, Nat.one_pos⟩⟩
  opened _ _ h := nomatch h
  published _ h := nomatch h

/-- A step that brings in no id and no publication. -/
theorem Dated.same {runtime : RoutingGenerationRuntime} {handles : List RoutingGenerationHandle}
    {made : List RoutingGenerationPair} (h : Dated s)
    (hactive : s.Known s.clock runtime.activeGeneration)
    (hopened : ∀ transactionId transaction,
      runtime.transactions.get transactionId = some transaction →
        s.Opened transactionId transaction) :
    Dated ⟨runtime, handles, s.clock + 1, s.begun, s.routers, s.policies, made, s.publications⟩ where
  routers := h.routers.tick
  policies := h.policies.tick
  begun transactionId time ht := Nat.lt_succ_of_lt (h.begun transactionId time ht)
  active := hactive.grow (Nat.le_succ _) ⟨fun _ _ h => h, fun _ _ h => h, fun _ _ h => h⟩
  opened transactionId transaction ht :=
    (hopened transactionId transaction ht).grow ⟨fun _ _ h => h, fun _ _ h => h, fun _ _ h => h⟩
  published := h.published

/-- One transaction is written, the others stay. -/
theorem opened_set {transactionId : String} {transaction : RoutingTransaction}
    (hold : ∀ id t, s.runtime.transactions.get id = some t → s'.Opened id t)
    (hnew : s'.Opened transactionId transaction) (id : String) (t : RoutingTransaction)
    (h : (s.runtime.setTransaction transactionId transaction).transactions.get id = some t) :
    s'.Opened id t := by
  change (s.runtime.transactions.set transactionId transaction).get id = some t at h
  rw [KeyMap.get_set] at h
  split at h
  · next heq =>
    cases h
    exact heq ▸ hnew
  · exact hold id t h

theorem Dated.tick (h : Dated s) : Dated s.tick := h.same h.active h.opened

theorem Dated.begin (h : Dated s) {transactionId : String} {expected : List RoutingComponent}
    (hnew : s.begun.get transactionId = none) :
    Dated { s.tick with
      runtime := s.runtime.setTransaction transactionId ⟨s.active, expected, [], none, none, false⟩
      begun := s.begun.set transactionId s.clock } := by
  have hgrow : Grows s { s.tick with
      runtime := s.runtime.setTransaction transactionId ⟨s.active, expected, [], none, none, false⟩
      begun := s.begun.set transactionId s.clock } := by
    refine ⟨fun _ _ h => h, fun _ _ h => h, fun id time hid => ?_⟩
    show (s.begun.set transactionId s.clock).get id = some time
    rw [KeyMap.get_set_of_ne]
    · exact hid
    · rintro rfl
      rw [hnew] at hid
      cases hid
  refine ⟨h.routers.begin hnew, h.policies.begin hnew, fun id time hid => ?_,
    h.active.grow (Nat.le_succ _) hgrow, ?_, fun entry hmem => (h.published entry hmem).grow hgrow⟩
  · change (s.begun.set transactionId s.clock).get id = some time at hid
    rw [KeyMap.get_set] at hid
    split at hid
    · cases hid
      exact Nat.lt_succ_self _
    · exact Nat.lt_succ_of_lt (h.begun id time hid)
  · refine opened_set (fun id t ht => (h.opened id t ht).grow hgrow) ?_
    refine ⟨⟨s.clock, KeyMap.get_set_self _ _ _, h.active.grow (Nat.le_refl _) hgrow⟩, ?_, ?_⟩
    · intro candidate hc
      cases hc
    · intro candidate hc
      cases hc

/-- New ids are noted, and one transaction may be written with them. -/
theorem Dated.note (h : Dated s) {routers policies : KeyMap String IdOrigin}
    {runtime : RoutingGenerationRuntime} {made : List RoutingGenerationPair}
    (hrouters : Dates routers s.begun (s.clock + 1))
    (hpolicies : Dates policies s.begun (s.clock + 1))
    (hgrow : Grows s ⟨runtime, s.handles, s.clock + 1, s.begun, routers, policies, made,
      s.publications⟩)
    (hactive : Known ⟨runtime, s.handles, s.clock + 1, s.begun, routers, policies, made,
      s.publications⟩ (s.clock + 1) runtime.activeGeneration)
    (hopened : ∀ transactionId transaction,
      runtime.transactions.get transactionId = some transaction →
        Opened ⟨runtime, s.handles, s.clock + 1, s.begun, routers, policies, made,
          s.publications⟩ transactionId transaction) :
    Dated ⟨runtime, s.handles, s.clock + 1, s.begun, routers, policies, made, s.publications⟩ where
  routers := hrouters
  policies := hpolicies
  begun transactionId time ht := Nat.lt_succ_of_lt (h.begun transactionId time ht)
  active := hactive
  opened := hopened
  published entry hmem := (h.published entry hmem).grow hgrow

theorem older_note {origins : KeyMap String IdOrigin} {begun : KeyMap String Nat} {clock : Nat}
    (h : Dates origins begun clock) (id : String) (owner : Option String) :
    Older (noteOrigin origins id ⟨owner, clock⟩) (clock + 1) id := by
  rcases noteOrigin_self origins id ⟨owner, clock⟩ with ⟨-, hget⟩ | ⟨known, hknown, hget⟩
  · exact ⟨_, hget, Nat.lt_succ_self clock⟩
  · exact ⟨known, hget, Nat.lt_succ_of_lt (h.past id known hknown)⟩

theorem stagedBy_note {origins : KeyMap String IdOrigin} {id transactionId : String} {time : Nat}
    (h : ∀ origin, origins.get id = some origin → origin.owner = some transactionId) :
    StagedBy (noteOrigin origins id ⟨some transactionId, time⟩) transactionId id := by
  rcases noteOrigin_self origins id ⟨some transactionId, time⟩ with
    ⟨-, hget⟩ | ⟨known, hknown, hget⟩
  · exact ⟨_, hget, rfl⟩
  · exact ⟨known, hget, h known hknown⟩

theorem Dated.replaceLegacy (h : Dated s) (next : RoutingGenerationPair) :
    Dated (s.after (.replaceLegacy next)) := by
  have hnone : ∀ transactionId, none = some transactionId →
      ∃ time, s.begun.get transactionId = some time ∧ time < s.clock := by
    intro transactionId hc
    cases hc
  have hgrow : Grows s (s.after (.replaceLegacy next)) :=
    ⟨fun _ _ ho => noteOrigin_get ho, fun _ _ ho => noteOrigin_get ho, fun _ _ ht => ht⟩
  exact h.note (h.routers.note _ none hnone) (h.policies.note _ none hnone) hgrow
    ⟨older_note h.routers _ none, older_note h.policies _ none⟩
    fun id t ht => (h.opened id t ht).grow hgrow

theorem Dated.begun_of_open (h : Dated s) {transactionId : String} {transaction : RoutingTransaction}
    (hget : s.runtime.transactions.get transactionId = some transaction) (id : String)
    (howner : some transactionId = some id) :
    ∃ time, s.begun.get id = some time ∧ time < s.clock := by
  cases howner
  obtain ⟨⟨time, hbegun, -⟩, -⟩ := h.opened transactionId transaction hget
  exact ⟨time, hbegun, h.begun transactionId time hbegun⟩

theorem Dated.stageRouter (h : Dated s) {transactionId : String} {candidate : RouterGeneration}
    (hpermits : s.Permits (.stageRouter transactionId candidate)) :
    Dated (s.after (.stageRouter transactionId candidate)) := by
  rcases s.after_stageRouter transactionId candidate with hsame | ⟨transaction, hget, hafter⟩
  · exact hsame ▸ h.tick
  rw [hafter]
  have hgrow : Grows s { s.tick with
      runtime := s.runtime.setTransaction transactionId
        { transaction with routerCandidate := some candidate }
      routers := noteOrigin s.routers candidate.id ⟨some transactionId, s.clock⟩ } :=
    ⟨fun _ _ ho => noteOrigin_get ho, fun _ _ ho => ho, fun _ _ ht => ht⟩
  refine h.note (h.routers.note _ _ (h.begun_of_open hget)) h.policies.tick hgrow
    (h.active.grow (Nat.le_succ _) hgrow) ?_
  refine opened_set (fun id t ht => (h.opened id t ht).grow hgrow) ?_
  obtain ⟨hold, -, hpolicy⟩ := (h.opened transactionId transaction hget).grow hgrow
  refine ⟨hold, fun staged hstaged => ?_, hpolicy⟩
  cases hstaged
  exact stagedBy_note hpermits

theorem Dated.stagePolicy (h : Dated s) {transactionId : String} {candidate : PolicyGeneration}
    (hpermits : s.Permits (.stagePolicy transactionId candidate)) :
    Dated (s.after (.stagePolicy transactionId candidate)) := by
  rcases s.after_stagePolicy transactionId candidate with hsame | ⟨transaction, hget, hafter⟩
  · exact hsame ▸ h.tick
  rw [hafter]
  have hgrow : Grows s { s.tick with
      runtime := s.runtime.setTransaction transactionId
        { transaction with policyCandidate := some candidate }
      policies := noteOrigin s.policies candidate.id ⟨some transactionId, s.clock⟩ } :=
    ⟨fun _ _ ho => ho, fun _ _ ho => noteOrigin_get ho, fun _ _ ht => ht⟩
  refine h.note h.routers.tick (h.policies.note _ _ (h.begun_of_open hget)) hgrow
    (h.active.grow (Nat.le_succ _) hgrow) ?_
  refine opened_set (fun id t ht => (h.opened id t ht).grow hgrow) ?_
  obtain ⟨hold, hrouter, -⟩ := (h.opened transactionId transaction hget).grow hgrow
  refine ⟨hold, hrouter, fun staged hstaged => ?_⟩
  cases hstaged
  exact stagedBy_note hpermits

/-- What an open transaction with a candidate publishes. -/
theorem publication_of_opened {transactionId : String} {transaction : RoutingTransaction}
    (hopened : s.Opened transactionId transaction)
    (hcandidate : transaction.routerCandidate ≠ none ∨ transaction.policyCandidate ≠ none)
    (manager : Nat) : s.Publication transactionId (transaction.next manager) := by
  obtain ⟨⟨time, hbegun, hold⟩, hrouter, hpolicy⟩ := hopened
  refine ⟨time, hbegun, ?_, ?_, ?_⟩
  · unfold RoutingTransaction.next
    cases hr : transaction.routerCandidate with
    | none => exact Or.inr hold.1
    | some candidate => exact Or.inl (hrouter candidate hr)
  · unfold RoutingTransaction.next
    cases hp : transaction.policyCandidate with
    | none => exact Or.inr hold.2
    | some candidate => exact Or.inl (hpolicy candidate hp)
  · unfold RoutingTransaction.next
    refine hcandidate.imp (fun hr => ?_) fun hp => ?_
    · obtain ⟨candidate, hc⟩ := Option.ne_none_iff_exists'.mp hr
      simp only [hc, Option.getD_some]
      exact hrouter candidate hc
    · obtain ⟨candidate, hc⟩ := Option.ne_none_iff_exists'.mp hp
      simp only [hc, Option.getD_some]
      exact hpolicy candidate hc

theorem OwnOrOlder.older {origins : KeyMap String IdOrigin} {begun : KeyMap String Nat}
    {clock time : Nat} {transactionId id : String} (h : OwnOrOlder origins transactionId time id)
    (hdates : Dates origins begun clock) (hle : time ≤ clock) : Older origins clock id := by
  rcases h with ⟨origin, horigin, -⟩ | ⟨origin, horigin, hlt⟩
  · exact ⟨origin, horigin, hdates.past id origin horigin⟩
  · exact ⟨origin, horigin, Nat.lt_of_lt_of_le hlt hle⟩

theorem Dated.commit (h : Dated s) {transactionId : String} {component : RoutingComponent}
    (hsound : s.Sound (.commit transactionId component)) :
    Dated (s.after (.commit transactionId component)) := by
  rcases s.after_commit transactionId component with
    hsame | ⟨old, transaction, hget, htransaction, ⟨hcompletes, hafter⟩ | hafter⟩
  · exact hsame ▸ h.tick
  · have hopened : s.Opened transactionId transaction := htransaction ▸ h.opened _ old hget
    have hpublication := publication_of_opened hopened (hsound _ hcompletes).2 s.runtime.nextManager
    obtain ⟨time, hbegun, hrouter, hpolicy, -⟩ := id hpublication
    have hle : time ≤ s.clock := Nat.le_of_lt (h.begun transactionId time hbegun)
    have hknown : s.Known s.clock (transaction.next s.runtime.nextManager) :=
      ⟨hrouter.older h.routers hle, hpolicy.older h.policies hle⟩
    rw [hafter]
    have hrest : Dated ⟨s.runtime.publish transactionId transaction, s.handles, s.clock + 1,
        s.begun, s.routers, s.policies, s.made, s.publications⟩ :=
      h.same hknown (opened_set h.opened hopened)
    refine ⟨hrest.routers, hrest.policies, hrest.begun, hrest.active, hrest.opened, ?_⟩
    intro entry hmem
    rcases List.mem_cons.mp hmem with rfl | hmem
    · exact hpublication
    · exact hrest.published entry hmem
  · have hopened : s.Opened transactionId transaction := htransaction ▸ h.opened _ old hget
    rw [hafter]
    exact h.same h.active (opened_set h.opened hopened)

theorem Dated.rollback (h : Dated s) (transactionId : String) :
    Dated (s.after (.rollback transactionId)) := by
  rcases s.after_rollback transactionId with hsame | ⟨transaction, hget, -, hafter⟩
  · exact hsame ▸ h.tick
  have hopened := h.opened transactionId transaction hget
  obtain ⟨⟨time, hbegun, hold⟩, -⟩ := id hopened
  rw [hafter]
  refine h.same ?_ (opened_set h.opened hopened)
  exact hold.grow (Nat.le_of_lt (h.begun transactionId time hbegun))
    ⟨fun _ _ h => h, fun _ _ h => h, fun _ _ h => h⟩

theorem Dated.cleanup (h : Dated s) (transactionId : String) :
    Dated (s.after (.cleanup transactionId)) := by
  show Dated ⟨s.runtime.cleanup transactionId, _, _, _, _, _, _, _⟩
  refine h.same ?_ fun id t ht => ?_
  · have hactive : (s.runtime.cleanup transactionId).activeGeneration = s.active := by
      unfold RoutingGenerationRuntime.cleanup
      split <;> rfl
    rw [hactive]
    exact h.active
  · refine h.opened id t ?_
    unfold RoutingGenerationRuntime.cleanup at ht
    split at ht
    · exact ht
    · change (s.runtime.transactions.delete transactionId).get id = some t at ht
      rw [KeyMap.get_delete] at ht
      split at ht
      · cases ht
      · exact ht

theorem Dated.release (h : Dated s) (index : Nat) : Dated (s.after (.release index)) := by
  rcases s.after_release index with hsame | ⟨handle, -, -, hafter⟩
  · exact hsame ▸ h.tick
  rw [hafter]
  refine h.same ?_ fun id t ht => h.opened id t ?_
  · unfold RoutingGenerationRuntime.release
    dsimp only
    split <;> exact h.active
  · unfold RoutingGenerationRuntime.release at ht
    dsimp only at ht
    split at ht <;> exact ht

theorem Dated.after (h : Dated s) (op : RoutingOperation) (hpermits : s.Permits op)
    (hsound : s.Sound op) : Dated (s.after op) := by
  cases op with
  | acquire => exact h.same h.active h.opened
  | release index => exact h.release index
  | replaceLegacy next => exact h.replaceLegacy next
  | begin transactionId expected =>
    rcases s.after_begin transactionId expected with hsame | ⟨hget, hafter⟩
    · exact hsame ▸ h.tick
    · refine hafter ▸ h.begin (hpermits.resolve_left fun hhas => ?_)
      rw [(KeyMap.has_eq_false _ _).mpr hget] at hhas
      cases hhas
  | stageRouter transactionId candidate => exact h.stageRouter hpermits
  | stagePolicy transactionId candidate => exact h.stagePolicy hpermits
  | commit transactionId component => exact h.commit hsound
  | rollback transactionId => exact h.rollback transactionId
  | cleanup transactionId => exact h.cleanup transactionId

end Origins

/-! ## Steps and runs -/

section Runs

variable {s : UsageState}

theorem made_after (s : UsageState) (op : RoutingOperation) {generation : RoutingGenerationPair}
    (h : generation ∈ s.made) : generation ∈ (s.after op).made := by
  cases op with
  | acquire => exact h
  | release index =>
    rcases s.after_release index with hsame | ⟨handle, -, -, hafter⟩
    · exact hsame ▸ h
    · exact hafter ▸ h
  | replaceLegacy next => exact List.mem_cons_of_mem _ h
  | begin transactionId expected =>
    rcases s.after_begin transactionId expected with hsame | ⟨-, hafter⟩
    · exact hsame ▸ h
    · exact hafter ▸ h
  | stageRouter transactionId candidate =>
    rcases s.after_stageRouter transactionId candidate with hsame | ⟨transaction, -, hafter⟩
    · exact hsame ▸ h
    · exact hafter ▸ h
  | stagePolicy transactionId candidate =>
    rcases s.after_stagePolicy transactionId candidate with hsame | ⟨transaction, -, hafter⟩
    · exact hsame ▸ h
    · exact hafter ▸ h
  | commit transactionId component =>
    rcases s.after_commit transactionId component with
      hsame | ⟨old, transaction, -, -, ⟨-, hafter⟩ | hafter⟩
    · exact hsame ▸ h
    · exact hafter ▸ List.mem_cons_of_mem _ h
    · exact hafter ▸ h
  | rollback transactionId => exact h
  | cleanup transactionId => exact h

/-- A pair with a handle that is not active stays on the draining list. -/
theorem Kept.leavesUnused (h : Kept s) (op : RoutingOperation) (hsound : s.Sound op) :
    s.LeavesUnused op := by
  intro generation hlisted hgone
  have hafter := h.after op hsound
  obtain ⟨g, hget, hids⟩ := hlisted
  have hmade : g ∈ (s.after op).made := made_after s op (h.listed _ g hget).2
  by_cases hactive : generation.ids = (s.after op).active.ids
  · exact Or.inr hactive
  left
  rw [hafter.usage]
  by_contra hzero
  rcases hafter.found _ (Nat.pos_of_ne_zero hzero) with hkey | hhas
  · refine hactive (hids ▸ (hafter.apart _ hafter.active g hmade ?_))
    rw [← hkey]
    exact pairKey_congr hids
  · obtain ⟨g', hget'⟩ := (KeyMap.has_eq_true _ _).mp hhas
    obtain ⟨hkey', hmade'⟩ := hafter.listed _ g' hget'
    refine hgone ⟨g', hget', ?_⟩
    rw [← hids]
    exact hafter.apart g hmade g' hmade' (hkey'.trans (pairKey_congr hids).symm)

/-- A rollback takes out the pair of its own transaction, or one without candidates. -/
theorem Dated.rollbackApart (h : Dated s) (op : RoutingOperation) (hsound : s.Sound op) :
    s.RollbackApart op := by
  cases op with
  | rollback transactionId =>
    intro entry hmem hne hactive
    rcases s.after_rollback transactionId with hsame | ⟨transaction, hget, hpublished, hafter⟩
    · rw [hsame]
      exact hactive
    rw [hafter]
    by_contra hout
    obtain ⟨-, ⟨own, hown, hid, hids⟩ | hunstaged⟩ :=
      hsound transaction hget hpublished fun hsame => hout (hactive.trans hsame)
    · have heq := h.publisher_unique hown hmem (hids.trans hactive.symm)
      exact hne (heq.trans hid)
    · obtain ⟨hr, hp⟩ := Prod.mk.inj hactive
      obtain ⟨-, -, -, -, hstaged⟩ := h.published entry hmem
      rw [hr, hp] at hstaged
      rcases hstaged with ⟨origin, horigin, howner⟩ | ⟨origin, horigin, howner⟩
      · rw [hunstaged.1 origin horigin] at howner
        cases howner
      · rw [hunstaged.2 origin horigin] at howner
        cases howner
  | _ => trivial

end Runs

/-! ## The accounting, and runs that break it -/

section Decidable

instance decidableForallSome {α : Type*} (o : Option α) (P : α → Prop) [DecidablePred P] :
    Decidable (∀ a, o = some a → P a) :=
  match o with
  | none => isTrue fun _ h => nomatch h
  | some a => decidable_of_iff (P a) ⟨fun h _ heq => Option.some.inj heq ▸ h, fun h => h a rfl⟩

instance decidableExistsSome {α : Type*} (o : Option α) (P : α → Prop) [DecidablePred P] :
    Decidable (∃ a, o = some a ∧ P a) :=
  match o with
  | none => isFalse fun ⟨_, h, _⟩ => nomatch h
  | some a =>
    decidable_of_iff (P a) ⟨fun h => ⟨a, rfl, h⟩, fun ⟨_, heq, h⟩ => Option.some.inj heq ▸ h⟩

variable (s : UsageState) (generation : RoutingGenerationPair) (op : RoutingOperation)

instance : Decidable (s.Draining generation) := inferInstanceAs (Decidable (∃ _, _ ∧ _))

instance : Decidable (s.Apart generation) := inferInstanceAs (Decidable (∀ g ∈ s.made, pairKey g = _ → _))

instance : Decidable (s.Unstaged generation) := inferInstanceAs (Decidable (_ ∧ _))

instance : Decidable (Accounted s) :=
  decidable_of_iff
    ((∀ generation ∈ s.made,
        (s.runtime.usage.get (pairKey generation)).getD 0 = s.outstanding generation) ∧
      ∀ generation ∈ s.made, 0 < s.outstanding generation →
        generation.ids = s.active.ids ∨ s.Draining generation)
    ⟨fun h => ⟨h.1, h.2⟩, fun h => ⟨h.usage, h.found⟩⟩

instance : Decidable (s.Permits op) :=
  match op with
  | .begin _ _ => inferInstanceAs (Decidable (_ ∨ _))
  | .stageRouter _ _ | .stagePolicy _ _ => inferInstanceAs (Decidable (∀ _, _))
  | .acquire | .release _ | .replaceLegacy _ | .commit _ _ | .rollback _ | .cleanup _ => isTrue trivial

instance : Decidable (s.Sound op) :=
  match op with
  | .replaceLegacy _ => inferInstanceAs (Decidable (s.Apart _))
  | .commit _ _ | .rollback _ => inferInstanceAs (Decidable (∀ _, _))
  | .acquire | .release _ | .begin _ _ | .stageRouter _ _ | .stagePolicy _ _ | .cleanup _ =>
    isTrue trivial

instance : Decidable (s.RollbackApart op) :=
  match op with
  | .rollback _ => inferInstanceAs (Decidable (∀ entry ∈ s.publications, _))
  | .acquire | .release _ | .replaceLegacy _ | .begin _ _ | .stageRouter _ _ | .stagePolicy _ _
  | .commit _ _ | .cleanup _ => isTrue trivial

end Decidable

/-- **Usage and draining.**  In every run whose steps are sound, the counters are those of
the outstanding handles, every pair in use is active or draining, a pair leaves the draining
list unused or active, and a rollback leaves the pairs of other transactions active. -/
theorem usage_accounted (initial : RoutingGenerationPair) (ops : List RoutingOperation)
    (hpermits : system.Along Permits (start initial) ops)
    (hsound : system.Along Sound (start initial) ops) (s : UsageState)
    (hrun : system.run (start initial) ops = some s) :
    Accounted s ∧ system.Along LeavesUnused (start initial) ops ∧
      system.Along RollbackApart (start initial) ops := by
  have hguard := hpermits.and hsound
  have hstart : Kept (start initial) ∧ Dated (start initial) :=
    ⟨kept_start initial, dated_start initial⟩
  have hstep : ∀ s op s', Kept s ∧ Dated s → s.Permits op ∧ s.Sound op →
      system.step s op = some s' → Kept s' ∧ Dated s' := by
    intro s op s' hs hg hs'
    cases hs'
    exact ⟨hs.1.after op hg.2, hs.2.after op hg.1 hg.2⟩
  refine ⟨?_, ?_, ?_⟩
  · have hinv := system.run_invariant _ (fun s => Kept s ∧ Dated s) hstep ops _ s hstart hguard hrun
    exact hinv.1.accounted
  · exact hguard.of_invariant _ hstep (fun s op hs hg => hs.1.leavesUnused op hg.2) hstart
  · exact hguard.of_invariant _ hstep (fun s op hs hg => hs.2.rollbackApart op hg.2) hstart

def plainRouter (id : String) (sequence : Nat) : RouterGeneration :=
  ⟨id, sequence, "direct", [], []⟩

/-- The first pair of an engine, without rules or policies. -/
def oldPair : RoutingGenerationPair := ⟨plainRouter "old-router" 0, ⟨"old-policy", 0, []⟩, 0⟩

/-- A transaction replaces the router, another one the policy and is rolled back. -/
def soundOperations : List RoutingOperation :=
  [.acquire, .begin "tx-1" [.router], .stageRouter "tx-1" (plainRouter "candidate-router" 1),
    .commit "tx-1" .router, .begin "tx-2" [.policy], .stagePolicy "tx-2" ⟨"candidate-policy", 2, []⟩,
    .commit "tx-2" .policy, .acquire, .release 1, .release 1, .rollback "tx-2", .cleanup "tx-2",
    .release 0, .cleanup "tx-1"]

theorem usage_accounted_sound : ∃ s, system.run (start oldPair) soundOperations = some s ∧
    Accounted s ∧ system.Along LeavesUnused (start oldPair) soundOperations ∧
      system.Along RollbackApart (start oldPair) soundOperations :=
  ⟨_, rfl, usage_accounted oldPair soundOperations (by decide +kernel) (by decide +kernel) _ rfl⟩

/-- The candidate is handed out before its transaction is rolled back. -/
def handleBeforeRollback : List RoutingOperation :=
  [.begin "tx" [.router], .stageRouter "tx" (plainRouter "candidate-router" 1),
    .commit "tx" .router, .acquire, .rollback "tx", .cleanup "tx"]

/-- A transaction is rolled back after another one has published. -/
def overtakenRollback : List RoutingOperation :=
  [.begin "tx-1" [.router], .begin "tx-2" [.router],
    .stageRouter "tx-1" (plainRouter "candidate-1" 1),
    .stageRouter "tx-2" (plainRouter "candidate-2" 2),
    .commit "tx-1" .router, .commit "tx-2" .router, .rollback "tx-1"]

/-- The handle keeps a pair in use that is neither active nor draining, and the pair of the
second transaction is gone. -/
theorem usage_not_accounted :
    (system.Along Permits (start oldPair) handleBeforeRollback ∧
      ∃ s, system.run (start oldPair) handleBeforeRollback = some s ∧ ¬Accounted s) ∧
    system.Along Permits (start oldPair) overtakenRollback ∧
      ¬system.Along RollbackApart (start oldPair) overtakenRollback := by
  exact ⟨⟨by decide +kernel, _, rfl, by decide +kernel⟩, by decide +kernel, by decide +kernel⟩

end UsageState

end Sepigs
