import Sepigs.Reload.ControlPlane

/-!
# The stages of a control-plane transaction

`ControlStage` describes the host in the middle of a transaction: how the old server is, how
the candidate is, and that any other server made since is down.  The table at the end says at
which stage a method waits at each of its `await`s.
-/

namespace Sepigs

variable {τ : Type}

/-! ## Servers -/

namespace ControlServer

variable {s : ControlServer τ} {i : Nat} {kind : ControlServerKind}

/-- None of its `http.Server`s opens or listens, except perhaps the one numbered `i`. -/
def ClosedBut (s : ControlServer τ) (i : Option Nat) : Prop :=
  ∀ j state, some j ≠ i → s.httpServers[j]? = some state → state ≠ .opening ∧ state ≠ .listening

def Down (s : ControlServer τ) : Prop := s.server = none ∧ s.ClosedBut none

def UpAt (s : ControlServer τ) (i : Nat) : Prop :=
  s.server = some i ∧ s.httpServers[i]? = some .listening ∧ s.ClosedBut (some i)

def Up (s : ControlServer τ) : Prop := ∃ i, s.UpAt i

/-- `start` waits for the `http.Server` numbered `i`. -/
def OpeningAt (s : ControlServer τ) (i : Nat) : Prop :=
  s.server = some i ∧ s.httpServers[i]? = some .opening ∧ s.ClosedBut (some i)

/-- `stop` was called in between. -/
def DetachedAt (s : ControlServer τ) (i : Nat) : Prop :=
  s.server = none ∧ s.httpServers[i]? = some .opening ∧ s.ClosedBut (some i)

def FailedAt (s : ControlServer τ) (i : Nat) : Prop :=
  s.Down ∧ ∃ error, s.httpServers[i]? = some (.failed error)

theorem Down.not_opening (h : s.Down) : s.httpServers[i]? ≠ some .opening :=
  fun hi => (h.2 i _ (by simp) hi).1 rfl

theorem UpAt.not_opening {j : Nat} (h : s.UpAt i) : s.httpServers[j]? ≠ some .opening := by
  intro hj
  by_cases hij : j = i
  · subst hij
    rw [h.2.1] at hj
    cases hj
  · exact (h.2.2 j _ (by simpa using hij) hj).1 rfl

theorem OpeningAt.eq {j : Nat} (h : s.OpeningAt i) (hj : s.httpServers[j]? = some .opening) :
    j = i := by
  by_contra hij
  exact (h.2.2 j _ (by simpa using hij) hj).1 rfl

theorem DetachedAt.eq {j : Nat} (h : s.DetachedAt i) (hj : s.httpServers[j]? = some .opening) :
    j = i := by
  by_contra hij
  exact (h.2.2 j _ (by simpa using hij) hj).1 rfl

theorem UpAt.running (h : s.UpAt i) : s.Running := List.mem_of_getElem? h.2.1

theorem Down.not_running (h : s.Down) : ¬ s.Running := by
  intro hrunning
  obtain ⟨j, hj⟩ := List.mem_iff_getElem?.mp hrunning
  exact (h.2 j _ (by simp) hj).2 rfl

theorem down_new (config : ControlServerConfig τ) : (new config).Down :=
  ⟨rfl, fun j state _ hj => by cases hj⟩

@[simp] theorem start_config (id : Nat) : (start id s).2.config = s.config := by
  unfold start
  split <;> rfl

@[simp] theorem stop_config : (stop kind s).2.config = s.config := by
  unfold stop
  split
  · rfl
  · split <;> rfl

@[simp] theorem listened_config (outcome : Except String Unit) :
    (s.listened i outcome).config = s.config := by
  cases outcome <;> rfl

/-- The others stay closed when one changes. -/
theorem ClosedBut.set {k : Option Nat} (h : s.ClosedBut k) {server : Option Nat}
    {state : HttpServerState} (hk : k = none ∨ k = some i) :
    ClosedBut { s with server := server, httpServers := s.httpServers.set i state } (some i) := by
  intro j state' hj hget
  have hij : i ≠ j := fun heq => hj (by rw [heq])
  refine h j state' ?_ ?_
  · rcases hk with rfl | rfl
    · simp
    · exact hj
  · simpa [List.getElem?_set_ne hij] using hget

theorem ClosedBut.closed (h : s.ClosedBut (some i)) {state : HttpServerState}
    (hi : s.httpServers[i]? = some state) (hopening : state ≠ .opening)
    (hlistening : state ≠ .listening) : s.ClosedBut none := by
  intro j state' _ hj
  by_cases hij : j = i
  · subst hij
    rw [hi] at hj
    cases hj
    exact ⟨hopening, hlistening⟩
  · exact h j state' (by simpa using hij) hj

theorem lt_of_getElem? {state : HttpServerState} (h : s.httpServers[i]? = some state) :
    i < s.httpServers.length := (List.getElem?_eq_some_iff.mp h).1

theorem start_down (id : Nat) (h : s.Down) (henabled : s.config.enabled = true) :
    ∃ i, (start id s).1 = .listen id i ∧ (start id s).2.OpeningAt i := by
  refine ⟨s.httpServers.length, ?_⟩
  unfold start
  rw [h.1, henabled]
  refine ⟨rfl, rfl, by simp, fun j state hj hget => ?_⟩
  have hj : j ≠ s.httpServers.length := fun heq => hj (by rw [heq])
  have hlt : j < s.httpServers.length := by
    have hlen := (List.getElem?_eq_some_iff.mp hget).1
    simp at hlen
    omega
  refine h.2 j state (by simp) ?_
  simpa [List.getElem?_append_left hlt] using hget

theorem start_disabled (id : Nat) (henabled : s.config.enabled = false) :
    start id s = (.settled (.ok ()), s) := by
  unfold start
  rw [henabled]
  rfl

theorem stop_none (h : s.server = none) : stop kind s = (.settled (.ok ()), s) := by
  unfold stop
  rw [h]

variable (kind) in
theorem UpAt.stop (h : s.UpAt i) :
    (stop kind s).1 = .settled (.ok ()) ∧ (ControlServer.stop kind s).2.Down := by
  obtain ⟨hserver, hi, hclosed⟩ := h
  unfold ControlServer.stop
  rw [hserver]
  dsimp only
  rw [if_pos hi]
  have hself : (s.httpServers.set i .closed)[i]? = some .closed :=
    List.getElem?_set_self (lt_of_getElem? hi)
  refine ⟨rfl, rfl, (hclosed.set (.inr rfl)).closed hself ?_ ?_⟩
  · exact fun heq => by cases heq
  · exact fun heq => by cases heq

variable (kind) in
theorem OpeningAt.stop (h : s.OpeningAt i) :
    (stop kind s).1 = .settled (closeFailure kind) ∧ (ControlServer.stop kind s).2.DetachedAt i := by
  obtain ⟨hserver, hi, hclosed⟩ := h
  unfold ControlServer.stop
  rw [hserver]
  dsimp only
  rw [if_neg (by rw [hi]; exact fun heq => by cases heq)]
  exact ⟨rfl, rfl, hi, hclosed⟩

theorem OpeningAt.listened_ok (h : s.OpeningAt i) : (s.listened i (.ok ())).UpAt i := by
  obtain ⟨hserver, hi, hclosed⟩ := h
  refine ⟨hserver, ?_, hclosed.set (.inr rfl)⟩
  show (s.httpServers.set i .listening)[i]? = _
  rw [List.getElem?_set_self (lt_of_getElem? hi)]

theorem listened_error {error : String} (hi : s.httpServers[i]? = some .opening)
    (hclosed : s.ClosedBut (some i)) : (s.listened i (.error error)).FailedAt i := by
  have hself : (s.listened i (.error error)).httpServers[i]? = some (.failed error) := by
    show (s.httpServers.set i (.failed error))[i]? = _
    rw [List.getElem?_set_self (lt_of_getElem? hi)]
  refine ⟨⟨rfl, (hclosed.set (.inr rfl)).closed hself ?_ ?_⟩, error, hself⟩
  · exact fun heq => by cases heq
  · exact fun heq => by cases heq

end ControlServer

/-! ## Stages of a transaction -/

namespace ControlPlane

variable {before plane : ControlPlane τ}

def candidate (plane : ControlPlane τ) : Option Nat :=
  plane.prepared.bind ControlPrepared.candidateServer

theorem candidate_eq {state : ControlPrepared τ} (h : plane.prepared = some state) :
    plane.candidate = state.candidateServer := by
  unfold candidate
  rw [h]
  rfl

theorem update_prepared {state : ControlPrepared τ} (h : plane.prepared = some state)
    (f : ControlPrepared τ → ControlPrepared τ) :
    (plane.update f).prepared = some (f state) := by
  unfold update
  rw [h]
  rfl

theorem update_candidate {f : ControlPrepared τ → ControlPrepared τ}
    (hf : ∀ state, (f state).candidateServer = state.candidateServer) :
    (plane.update f).candidate = plane.candidate := by
  unfold candidate update
  cases plane.prepared with
  | none => rfl
  | some state => exact hf state

/-- The old server is up or down, as it was before; its config is `config`. -/
def Turned (before : ControlPlane τ) (config : ControlServerConfig τ) (s : ControlServer τ) : Prop :=
  s.config = config ∧
    ((before.servers before.current).Up ∧ s.Up ∨ (before.servers before.current).Down ∧ s.Down)

abbrev Back (before : ControlPlane τ) (s : ControlServer τ) : Prop :=
  Turned before (before.servers before.current).config s

end ControlPlane

open ControlPlane

/-- What was assigned so far: `candidateStarted`, `oldStopped`, `hostSwapped`. -/
def ControlPrepared.flags (state : ControlPrepared τ) : Bool × Bool × Bool :=
  (state.candidateStarted, state.oldStopped, state.hostSwapped)

/-- What a prepared object says, when `before` was the host and `next` is the new config. -/
structure ControlPrepared.Describes (state : ControlPrepared τ) (before : ControlPlane τ)
    (next : ControlServerConfig τ) : Prop where
  oldServer : state.oldServer = before.current
  oldConfig : state.oldConfig = (before.servers before.current).config
  nextConfig : state.nextConfig = next
  strategy : state.strategy = ControlAdapter.selectStrategy state.oldConfig next
  candidate : state.strategy = .replace ↔ state.candidateServer.isSome

/-- `before` is the host before the transaction.  The old server is as `Old` says, the candidate
as `Candidate` says, and any other server that was made since is down. -/
structure ControlStage (before : ControlPlane τ) (next : ControlServerConfig τ)
    (plane : ControlPlane τ) (flags : Bool × Bool × Bool) (current : Nat)
    (Old Candidate : ControlServer τ → Prop) : Prop where
  old_lt : before.current < before.created
  created : before.created ≤ plane.created
  started : plane.runtimeStarted = before.runtimeStarted
  current : plane.current = current
  old : Old (plane.servers before.current)
  candidate : ∀ id, plane.candidate = some id →
    before.created ≤ id ∧ id < plane.created ∧ (plane.servers id).config = next ∧
      Candidate (plane.servers id)
  rest : ∀ id, before.created ≤ id → id < plane.created → plane.candidate ≠ some id →
    (plane.servers id).Down
  prepared : ∀ state, plane.prepared = some state → state.flags = flags ∧
    state.Describes before next
  config : (∀ state, plane.prepared = some state → state.strategy ≠ .inPlace) →
    (plane.servers before.current).config = (before.servers before.current).config

namespace ControlStage

variable {before plane : ControlPlane τ} {next : ControlServerConfig τ} {flags : Bool × Bool × Bool} {current : Nat}
  {Old Old' Candidate Candidate' : ControlServer τ → Prop} {id : Nat} {server : ControlServer τ}

/-- What is said of the two servers as they are. -/
theorem restate (h : ControlStage before next plane flags current Old Candidate)
    (hold : Old' (plane.servers before.current))
    (hcandidate : ∀ id, plane.candidate = some id → Candidate' (plane.servers id)) :
    ControlStage before next plane flags current Old' Candidate' where
  old_lt := h.old_lt
  created := h.created
  started := h.started
  current := h.current
  old := hold
  candidate id hid := ⟨(h.candidate id hid).1, (h.candidate id hid).2.1,
    (h.candidate id hid).2.2.1, hcandidate id hid⟩
  rest := h.rest
  prepared := h.prepared
  config := h.config

theorem candidate_ne (h : ControlStage before next plane flags current Old Candidate)
    (hid : plane.candidate = some id) : id ≠ before.current := by
  have hge := (h.candidate id hid).1
  have hlt := h.old_lt
  omega

/-- A server gets another state, not another config. -/
theorem setServer (h : ControlStage before next plane flags current Old Candidate)
    (hconfig : server.config = (plane.servers id).config)
    (hold : id = before.current → Old' server)
    (hold' : id ≠ before.current → Old' (plane.servers before.current))
    (hcandidate : plane.candidate = some id → Candidate' server)
    (hcandidate' : plane.candidate ≠ some id → ∀ s, Candidate s → Candidate' s)
    (hrest : before.created ≤ id → id < plane.created → plane.candidate ≠ some id → server.Down) :
    ControlStage before next (plane.setServer id server) flags current Old' Candidate' := by
  have hconfigs : ∀ j, ((plane.setServer id server).servers j).config = (plane.servers j).config := by
    intro j
    by_cases hj : j = id
    · subst hj
      simpa [ControlPlane.setServer] using hconfig
    · simp [ControlPlane.setServer, hj]
  refine ⟨h.old_lt, h.created, h.started, h.current, ?_, ?_, ?_, h.prepared, ?_⟩
  · by_cases hid : id = before.current
    · subst hid
      simpa [ControlPlane.setServer] using hold rfl
    · simpa [ControlPlane.setServer, Ne.symm hid] using hold' hid
  · intro j hj
    have hj : plane.candidate = some j := hj
    refine ⟨(h.candidate j hj).1, (h.candidate j hj).2.1, ?_, ?_⟩
    · rw [hconfigs]
      exact (h.candidate j hj).2.2.1
    by_cases hid : j = id
    · subst hid
      simpa [ControlPlane.setServer] using hcandidate hj
    · have hne : plane.candidate ≠ some id := by
        rw [hj]
        simpa using hid
      simpa [ControlPlane.setServer, hid] using hcandidate' hne _ (h.candidate j hj).2.2.2
  · intro j hge hlt hne
    by_cases hid : j = id
    · subst hid
      simpa [ControlPlane.setServer] using hrest hge hlt hne
    · simpa [ControlPlane.setServer, hid] using h.rest j hge hlt hne
  · rw [hconfigs]
    exact h.config

theorem setOld (h : ControlStage before next plane flags current Old Candidate)
    (hconfig : server.config = (plane.servers before.current).config) (hold : Old' server) :
    ControlStage before next (plane.setServer before.current server) flags current Old' Candidate := by
  refine h.setServer hconfig (fun _ => hold) (fun hne => absurd rfl hne) (fun hid => ?_)
    (fun _ _ hs => hs) (fun hge => ?_)
  · exact absurd rfl (h.candidate_ne hid)
  · have hlt := h.old_lt
    omega

theorem setCandidate (h : ControlStage before next plane flags current Old Candidate)
    (hid : plane.candidate = some id) (hconfig : server.config = (plane.servers id).config)
    (hcandidate : Candidate' server) :
    ControlStage before next (plane.setServer id server) flags current Old Candidate' := by
  refine h.setServer hconfig (fun heq => ?_) (fun _ => h.old) (fun _ => hcandidate)
    (fun hne => absurd hid hne) (fun _ _ hne => absurd hid hne)
  exact absurd heq (h.candidate_ne hid)

/-- An event of some `http.Server`: only the old server and the candidate matter. -/
theorem listened (h : ControlStage before next plane flags current Old Candidate) {i : Nat}
    {outcome : Except String Unit} (hopening : (plane.servers id).httpServers[i]? = some .opening)
    (hold : ∀ s : ControlServer τ, id = before.current → s.httpServers[i]? = some .opening → Old s →
      Old (s.listened i outcome))
    (hcandidate : ∀ s : ControlServer τ, plane.candidate = some id →
      s.httpServers[i]? = some .opening → Candidate s → Candidate (s.listened i outcome)) :
    ControlStage before next (plane.setServer id ((plane.servers id).listened i outcome)) flags current
      Old Candidate := by
  refine h.setServer (by simp) ?_ (fun _ => h.old) ?_ (fun _ _ hs => hs) ?_
  · intro heq
    have hold := hold _ heq hopening
    subst heq
    exact hold h.old
  · exact fun hid => hcandidate _ hid hopening (h.candidate id hid).2.2.2
  · exact fun hge hlt hne => absurd hopening (h.rest id hge hlt hne).not_opening

theorem createServer (h : ControlStage before next plane flags current Old Candidate)
    (config : ControlServerConfig τ) :
    ControlStage before next (plane.createServer config) flags current Old Candidate := by
  have hservers : ∀ j, j ≠ plane.created → (plane.createServer config).servers j = plane.servers j :=
    fun j hj => Function.update_of_ne hj _ _
  have hlt := h.old_lt
  have hcreated := h.created
  have hold : (plane.createServer config).servers before.current = plane.servers before.current :=
    hservers _ (by omega)
  refine ⟨hlt, Nat.le_succ_of_le hcreated, h.started, h.current, ?_, ?_, ?_, h.prepared, ?_⟩
  · rw [hold]
    exact h.old
  · intro j hj
    obtain ⟨hge, hlt, hs⟩ := h.candidate j hj
    refine ⟨hge, Nat.lt_succ_of_lt hlt, ?_⟩
    rw [hservers j (by omega)]
    exact hs
  · intro j hge hlt hne
    by_cases hj : j = plane.created
    · subst hj
      have hnew : (plane.createServer config).servers plane.created = .new config :=
        Function.update_self ..
      rw [hnew]
      exact ControlServer.down_new config
    · rw [hservers j hj]
      have hlt : j < plane.created + 1 := hlt
      exact h.rest j hge (by omega) hne
  · rw [hold]
    exact h.config

theorem replaceServer (h : ControlStage before next plane flags current Old Candidate) (id : Nat) :
    ControlStage before next (plane.replaceServer id) flags id Old Candidate :=
  ⟨h.old_lt, h.created, h.started, rfl, h.old, h.candidate, h.rest, h.prepared, h.config⟩

/-- Assignments to the flags of the prepared object. -/
theorem update (h : ControlStage before next plane flags current Old Candidate)
    {f : ControlPrepared τ → ControlPrepared τ} {flags' : Bool × Bool × Bool}
    (hf : ∀ state, (f state).oldServer = state.oldServer ∧ (f state).oldConfig = state.oldConfig ∧
      (f state).nextConfig = state.nextConfig ∧
      (f state).candidateServer = state.candidateServer ∧ (f state).strategy = state.strategy)
    (hflags : ∀ state, state.flags = flags → (f state).flags = flags') :
    ControlStage before next (plane.update f) flags' current Old Candidate := by
  have hcandidate : (plane.update f).candidate = plane.candidate :=
    ControlPlane.update_candidate fun state => (hf state).2.2.2.1
  refine ⟨h.old_lt, h.created, h.started, h.current, h.old, ?_, ?_, ?_, fun hne => h.config ?_⟩
  · rw [hcandidate]
    exact h.candidate
  · rw [hcandidate]
    exact h.rest
  · intro state hstate
    obtain ⟨state, hstate', rfl⟩ := Option.map_eq_some_iff.mp hstate
    obtain ⟨hflags', hdescribes⟩ := h.prepared state hstate'
    obtain ⟨hold, hconfig, hnext, hcandidate, hstrategy⟩ := hf state
    refine ⟨hflags state hflags', ?_, ?_, ?_, ?_, ?_⟩
    · rw [hold]
      exact hdescribes.oldServer
    · rw [hconfig]
      exact hdescribes.oldConfig
    · rw [hnext]
      exact hdescribes.nextConfig
    · rw [hstrategy, hconfig]
      exact hdescribes.strategy
    · rw [hstrategy, hcandidate]
      exact hdescribes.candidate
  · intro state hstate
    rw [← (hf state).2.2.2.2]
    exact hne (f state) (congrArg (Option.map f) hstate)

end ControlStage

/-! ## The stages of the methods -/

namespace ControlServer

variable {s : ControlServer τ} {i : Nat}

/-- The candidate whose start the commit waits for. -/
def Coming (i : Nat) (s : ControlServer τ) : Prop := s.OpeningAt i ∨ s.UpAt i ∨ s.FailedAt i

/-- The candidate whose start nobody waits for but an abandoned commit. -/
def Left (i : Nat) (s : ControlServer τ) : Prop := s.OpeningAt i ∨ s.DetachedAt i ∨ s.FailedAt i

/-- The old server that a rollback starts again. -/
def Returning (i : Nat) (s : ControlServer τ) : Prop := s.OpeningAt i ∨ s.UpAt i

variable {j : Nat} {outcome : Except String Unit}

theorem Coming.listened (h : s.Coming i) (hj : s.httpServers[j]? = some .opening) :
    (s.listened j outcome).Coming i := by
  rcases h with h | h | h
  · obtain rfl := h.eq hj
    cases outcome with
    | ok u => exact .inr (.inl h.listened_ok)
    | error error => exact .inr (.inr (listened_error hj h.2.2))
  · exact absurd hj h.not_opening
  · exact absurd hj h.1.not_opening

theorem Left.listened (h : s.Left i) (hj : s.httpServers[j]? = some .opening)
    (houtcome : j = i → outcome ≠ .ok ()) : (s.listened j outcome).Left i := by
  rcases h with h | h | h
  · obtain rfl := h.eq hj
    cases outcome with
    | ok u => exact absurd rfl (houtcome rfl)
    | error error => exact .inr (.inr (listened_error hj h.2.2))
  · obtain rfl := h.eq hj
    cases outcome with
    | ok u => exact absurd rfl (houtcome rfl)
    | error error => exact .inr (.inr (listened_error hj h.2.2))
  · exact absurd hj h.1.not_opening

theorem Returning.listened (h : s.Returning i) (hj : s.httpServers[j]? = some .opening)
    (houtcome : j = i → ∀ error, outcome ≠ .error error) : (s.listened j outcome).Returning i := by
  rcases h with h | h
  · obtain rfl := h.eq hj
    cases outcome with
    | ok u => exact .inr h.listened_ok
    | error error => exact absurd rfl (houtcome rfl error)
  · exact absurd hj h.not_opening

theorem Down.listened (h : s.Down) (hj : s.httpServers[j]? = some .opening) :
    (s.listened j outcome).Down := absurd hj h.not_opening

theorem Up.listened (h : s.Up) (hj : s.httpServers[j]? = some .opening) :
    (s.listened j outcome).Up := by
  obtain ⟨i, hi⟩ := h
  exact absurd hj hi.not_opening

end ControlServer

theorem ControlPlane.Turned.listened {before : ControlPlane τ} {config : ControlServerConfig τ}
    {s : ControlServer τ} {j : Nat} {outcome : Except String Unit} (h : Turned before config s)
    (hj : s.httpServers[j]? = some .opening) : Turned before config (s.listened j outcome) := by
  obtain ⟨hconfig, ⟨hup, hs⟩ | ⟨hdown, hs⟩⟩ := h
  · exact ⟨by simpa using hconfig, .inl ⟨hup, hs.listened hj⟩⟩
  · exact ⟨by simpa using hconfig, .inr ⟨hdown, hs.listened hj⟩⟩

namespace ControlAdapter

section Table

variable (before : ControlPlane τ) (next : ControlServerConfig τ)

/-- No server of the transaction is up, and the old one is the current one as it was. -/
def Quiet (plane : ControlPlane τ) : Prop :=
  ControlStage before next plane (false, false, false) before.current (Back before)
    ControlServer.Down

/-- What holds of the prepared object `state` at a stage. -/
def StageOf (plane : ControlPlane τ) (flags : Bool × Bool × Bool) (current : Nat)
    (Old Candidate : ControlServer τ → Prop) (P : ControlPrepared τ → Prop) : Prop :=
  ControlStage before next plane flags current Old Candidate ∧
    ∃ state, plane.prepared = some state ∧ P state

/-- Where a commit may wait while the executor waits for it. -/
def CommitWaits (plane : ControlPlane τ) : ControlSuspended τ → Prop
  | .disableStop call => call = .settled (.ok ()) ∧ before.runtimeStarted = true ∧
    StageOf before next plane (false, false, false) before.current ControlServer.Down
      ControlServer.Down fun state => state.strategy = .disable ∧ state.rolledBack = false
  | .candidateStart candidate call => before.runtimeStarted = true ∧ ∃ i, call = .listen candidate i ∧
    StageOf before next plane (false, false, false) before.current (Back before)
      (ControlServer.Coming i) fun state =>
        state.candidateServer = some candidate ∧ state.rolledBack = false
  | .replaceStop candidate call => call = .settled (.ok ()) ∧ before.runtimeStarted = true ∧
    StageOf before next plane (true, false, false) before.current ControlServer.Down
      ControlServer.Up fun state =>
        state.candidateServer = some candidate ∧ state.rolledBack = false
  | .restored (.commit _) _ => Quiet before next plane ∧ plane.prepared.isSome
  | _ => False

/-- What a commit leads to: another server is current, or the old one has the new config. -/
def Took (plane : ControlPlane τ) : Prop :=
  (plane.servers plane.current).config = next ∧ ∃ state, plane.prepared = some state ∧
    state.committed = true ∧ state.rolledBack = false ∧
    (state.strategy = .inPlace ∧ ControlStage before next plane (false, false, false)
        before.current (Turned before next) ControlServer.Down ∨
      state.strategy ≠ .inPlace ∧ before.created ≤ plane.current ∧ plane.current < plane.created ∧
        (∀ candidate, state.candidateServer = some candidate → plane.current = candidate) ∧
        (before.runtimeStarted = true ∧ ControlStage before next plane
            (state.candidateServer.isSome, true, true) plane.current ControlServer.Down
            ControlServer.Up ∨
          before.runtimeStarted = false ∧ ControlStage before next plane (false, false, true)
            plane.current (Back before) ControlServer.Down))

/-- Where a rollback may wait. -/
def RollbackWaits (plane : ControlPlane τ) : ControlSuspended τ → Prop
  | .restoreStop .rollback call => call = .settled (.ok ()) ∧ before.runtimeStarted = true ∧
    StageOf before next plane (true, true, false) before.current ControlServer.Down
      ControlServer.Down fun state => state.strategy ≠ .inPlace ∧ state.committed = true ∧
        state.rolledBack = false
  | .restoreStart .rollback call => before.runtimeStarted = true ∧
    (call = .settled (.ok ()) ∧
        StageOf before next plane (false, true, false) before.current (Back before)
          ControlServer.Down (fun state => state.strategy ≠ .inPlace ∧ state.committed = true ∧
            state.rolledBack = false) ∨
      ∃ i, call = .listen before.current i ∧ (before.servers before.current).Up ∧
        StageOf before next plane (false, true, false) before.current (ControlServer.Returning i)
          ControlServer.Down fun state => state.strategy ≠ .inPlace ∧ state.committed = true ∧
            state.rolledBack = false)
  | .restored .rollback _ => Quiet before next plane
  | _ => False

/-- The stage beside an abandoned commit. -/
def LeftStage (plane : ControlPlane τ) (candidate i : Nat) : Prop :=
  StageOf before next plane (false, false, false) before.current (Back before)
    (ControlServer.Left i) fun state => state.candidateServer = some candidate

end Table

end ControlAdapter

end Sepigs
