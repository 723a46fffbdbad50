import Sepigs.Config.Types
import Sepigs.Inbound.Socks5Negotiation
import Sepigs.Lib.FixedWindow
import Sepigs.Lib.JsMap
import Sepigs.Lib.Runs

/-!
# The dashboard's gate (`dashboard/server.ts`, `dashboard/auth.ts`)

A request is counted for its address, then its token is compared, and only then it is routed.
A connection that is kept alive can ask after `stop`.

`answered` is a ghost, and `cleared` says how much of it was answered before the counts were last
cleared.
-/

namespace Sepigs

open FixedWindow (Window Windowed)

inductive DashboardStatus where
  | tooManyRequests
  | unauthorized
  | routed
deriving DecidableEq, Repr

structure DashboardAnswer where
  address : String
  now : Int
  authorization : Option String
  status : DashboardStatus
  headers : List (String × String)
deriving DecidableEq, Repr

structure DashboardServer where
  config : DashboardConfig
  listening : Bool
  requests : JsMap String Window
  dashboardRequestsTotal : Nat
  dashboardErrorsTotal : Nat
  answered : List DashboardAnswer
  cleared : Nat

inductive DashboardCall where
  | start
  | listenFailed
  | stop
  | updateConfig (config : DashboardConfig)
  | request (remoteAddress : Option String) (now : Int) (authorization : Option String)

def dashboardAuthorized (authorization : Option String) (expectedToken : String) : Bool :=
  match authorization with
  | none => false
  | some header => JsString.startsWith header "Bearer " && safeEqual (JsString.sliceFrom header 7) expectedToken

namespace DashboardServer

def new (config : DashboardConfig) : DashboardServer := ⟨config, false, ∅, 0, 0, [], 0⟩

def clear (s : DashboardServer) : DashboardServer := { s with requests := ∅, cleared := s.answered.length }

def updateConfig (config : DashboardConfig) (s : DashboardServer) : Except String DashboardServer :=
  if s.listening ∧ (config.enabled = false ∨ config.listen ≠ s.config.listen ∨ config.port ≠ s.config.port) then
    .error "active dashboard server can only update non-listener settings in place"
  else .ok { s with config := config }.clear

def allow (address : String) (now : Int) (s : DashboardServer) : Bool × DashboardServer :=
  let admitted := FixedWindow.allow s.config.rateLimitPerMinute 60000 now (s.requests.get address)
  (admitted.1, { s with requests := s.requests.set address admitted.2 })

def recordRequest (ok : Bool) (s : DashboardServer) : DashboardServer :=
  { s with
    dashboardRequestsTotal := s.dashboardRequestsTotal + 1
    dashboardErrorsTotal := if ok then s.dashboardErrorsTotal else s.dashboardErrorsTotal + 1 }

def headersOf (config : DashboardConfig) (status : DashboardStatus) : List (String × String) :=
  [("x-content-type-options", "nosniff"), ("content-security-policy", "default-src 'none'")] ++
    (if config.cors then [("access-control-allow-origin", "http://127.0.0.1")] else []) ++
      if status = .unauthorized then [("www-authenticate", "Bearer")] else []

def statusOf (allowed : Bool) (authorization : Option String) (token : String) : DashboardStatus :=
  if !allowed then .tooManyRequests
  else if !dashboardAuthorized authorization token then .unauthorized
  else .routed

def answer (address : String) (now : Int) (authorization : Option String) (status : DashboardStatus)
    (s : DashboardServer) : DashboardServer :=
  { s.recordRequest (status = .routed) with
    answered := s.answered ++ [⟨address, now, authorization, status, headersOf s.config status⟩] }

/-- The listener of the HTTP server, up to the route. -/
def handle (remoteAddress : Option String) (now : Int) (authorization : Option String) (s : DashboardServer) :
    DashboardServer :=
  let address := remoteAddress.getD "unknown"
  let allowed := s.allow address now
  allowed.2.answer address now authorization (statusOf allowed.1 authorization s.config.token)

def step (s : DashboardServer) : DashboardCall → Option DashboardServer
  | .start => some (if s.config.enabled then { s with listening := true } else s)
  | .listenFailed => if s.listening then some { s with listening := false } else none
  | .stop => some { s with listening := false }.clear
  | .updateConfig config => some ((s.updateConfig config).toOption.getD s)
  | .request remoteAddress now authorization => some (s.handle remoteAddress now authorization)

def system : Runs.System DashboardServer DashboardCall := ⟨step⟩

/-! ## What one address gets -/

variable {s s' : DashboardServer}

/-- What was answered since the counts were last cleared. -/
def current (s : DashboardServer) : List DashboardAnswer := s.answered.drop s.cleared

def historyOf (address : String) (answers : List DashboardAnswer) : List FixedWindow.Request :=
  (answers.filter fun answer => answer.address = address).map fun answer =>
    (answer.now, decide (answer.status ≠ .tooManyRequests))

/-- The clock does not go back. -/
def InTime (s : DashboardServer) : DashboardCall → Prop
  | .request _ now _ => ∀ answer ∈ s.current, answer.now ≤ now
  | _ => True

instance (s : DashboardServer) : (call : DashboardCall) → Decidable (s.InTime call)
  | .request _ now _ => inferInstanceAs (Decidable (∀ answer ∈ s.current, answer.now ≤ now))
  | .start => .isTrue trivial
  | .listenFailed => .isTrue trivial
  | .stop => .isTrue trivial
  | .updateConfig _ => .isTrue trivial

/-- The counts are those of the answers, and what was routed had the token. -/
structure Gated (s : DashboardServer) : Prop where
  cleared_le : s.cleared ≤ s.answered.length
  windows : ∀ address, Windowed s.config.rateLimitPerMinute 60000 (historyOf address s.current)
    (s.requests.get address)
  authorized : ∀ answer ∈ s.current, answer.status = .routed →
    dashboardAuthorized answer.authorization s.config.token = true
  headers : ∀ answer ∈ s.answered, ("x-content-type-options", "nosniff") ∈ answer.headers ∧
    ("content-security-policy", "default-src 'none'") ∈ answer.headers
  total : s.dashboardRequestsTotal = s.answered.length
  errors : s.dashboardErrorsTotal = s.answered.countP fun answer => answer.status ≠ .routed

theorem gated_new (config : DashboardConfig) : (new config).Gated where
  cleared_le := Nat.le_refl _
  windows address := FixedWindow.windowed_nil _ _
  authorized answer hmem := by cases hmem
  headers answer hmem := by cases hmem
  total := rfl
  errors := rfl

/-- Once the counts are cleared, any configuration may come. -/
theorem Gated.clears (h : s.Gated) (config : DashboardConfig) (listening : Bool) :
    Gated { s with config := config, listening := listening }.clear := by
  have hcurrent : current { s with config := config, listening := listening }.clear = [] := by
    show s.answered.drop s.answered.length = []
    exact List.drop_length
  refine ⟨Nat.le_refl _, fun address => ?_, ?_, h.headers, h.total, h.errors⟩
  · rw [hcurrent]
    exact FixedWindow.windowed_nil _ _
  · rw [hcurrent]
    intro answer hmem
    cases hmem

theorem historyOf_append (address : String) (answers : List DashboardAnswer) (answer : DashboardAnswer) :
    historyOf address (answers ++ [answer]) = historyOf address answers ++
      if answer.address = address then [(answer.now, decide (answer.status ≠ .tooManyRequests))] else [] := by
  unfold historyOf
  rw [List.filter_append, List.map_append]
  by_cases h : answer.address = address
  · simp [h]
  · simp [h]

theorem mem_historyOf {address : String} {answers : List DashboardAnswer} {request : FixedWindow.Request}
    (h : request ∈ historyOf address answers) : ∃ answer ∈ answers, answer.now = request.1 := by
  obtain ⟨answer, hfilter, rfl⟩ := List.mem_map.mp h
  exact ⟨answer, (List.mem_filter.mp hfilter).1, rfl⟩

theorem statusOf_ne_iff (allowed : Bool) (authorization : Option String) (token : String) :
    decide (statusOf allowed authorization token ≠ .tooManyRequests) = allowed := by
  unfold statusOf
  cases allowed with
  | false => rfl
  | true =>
    cases dashboardAuthorized authorization token with
    | false => rfl
    | true => rfl

theorem authorized_of_routed {allowed : Bool} {authorization : Option String} {token : String}
    (h : statusOf allowed authorization token = .routed) : dashboardAuthorized authorization token = true := by
  unfold statusOf at h
  split at h
  · cases h
  · split at h
    · cases h
    · next hauthorized => simpa using hauthorized

theorem Gated.handles (h : s.Gated) (remoteAddress : Option String) {now : Int} (authorization : Option String)
    (hclock : ∀ answer ∈ s.current, answer.now ≤ now) : (s.handle remoteAddress now authorization).Gated := by
  let address := remoteAddress.getD "unknown"
  let admitted := FixedWindow.allow s.config.rateLimitPerMinute 60000 now (s.requests.get address)
  let last : DashboardAnswer := ⟨address, now, authorization, statusOf admitted.1 authorization s.config.token,
    headersOf s.config (statusOf admitted.1 authorization s.config.token)⟩
  have hcurrent : (s.handle remoteAddress now authorization).current = s.current ++ [last] :=
    List.drop_append_of_le_length h.cleared_le
  refine ⟨?_, fun other => ?_, fun answer hmem hrouted => ?_, fun answer hmem => ?_, ?_, ?_⟩
  · show s.cleared ≤ (s.answered ++ [last]).length
    rw [List.length_append]
    exact Nat.le_add_right_of_le h.cleared_le
  · show Windowed _ _ _ ((s.requests.set address admitted.2).get other)
    rw [hcurrent, historyOf_append, JsMap.get_set]
    by_cases hother : other = address
    · subst hother
      have hcounted : decide (last.status ≠ .tooManyRequests) = admitted.1 := statusOf_ne_iff _ _ _
      rw [if_pos rfl, if_pos rfl, hcounted]
      refine (h.windows address).step (by omega) fun request hmem => ?_
      obtain ⟨answer, hanswer, htime⟩ := mem_historyOf hmem
      rw [← htime]
      exact hclock answer hanswer
    · rw [if_neg hother, if_neg (Ne.symm hother), List.append_nil]
      exact h.windows other
  · rw [hcurrent] at hmem
    rcases List.mem_append.mp hmem with hmem | hmem
    · exact h.authorized answer hmem hrouted
    · rw [List.mem_singleton.mp hmem] at hrouted ⊢
      exact authorized_of_routed hrouted
  · rcases List.mem_append.mp hmem with hmem | hmem
    · exact h.headers answer hmem
    · rw [List.mem_singleton.mp hmem]
      constructor
      · exact List.mem_append_left _ (List.mem_append_left _ List.mem_cons_self)
      · exact List.mem_append_left _ (List.mem_append_left _ (List.mem_cons_of_mem _ List.mem_cons_self))
  · show s.dashboardRequestsTotal + 1 = (s.answered ++ [last]).length
    rw [h.total, List.length_append]
    rfl
  · show (if decide (last.status = .routed) = true then s.dashboardErrorsTotal else s.dashboardErrorsTotal + 1) =
      (s.answered ++ [last]).countP _
    rw [List.countP_append, List.countP_singleton, h.errors]
    by_cases hrouted : last.status = .routed
    · simp [hrouted]
    · simp [hrouted]

theorem step_gated (h : s.Gated) {call : DashboardCall} (hclock : s.InTime call) (hstep : s.step call = some s') :
    s'.Gated := by
  cases call with
  | start =>
    cases hstep
    split
    · exact ⟨h.cleared_le, h.windows, h.authorized, h.headers, h.total, h.errors⟩
    · exact h
  | listenFailed =>
    simp only [step] at hstep
    split at hstep
    · cases hstep
      exact ⟨h.cleared_le, h.windows, h.authorized, h.headers, h.total, h.errors⟩
    · cases hstep
  | stop =>
    cases hstep
    exact h.clears s.config false
  | updateConfig config =>
    cases hstep
    unfold updateConfig
    split
    · exact h
    · exact h.clears config s.listening
  | request remoteAddress now authorization =>
    cases hstep
    exact h.handles remoteAddress authorization hclock

theorem run_gated (config : DashboardConfig) {calls : List DashboardCall} (hclock : system.Along InTime (new config) calls)
    (hrun : system.run (new config) calls = some s) : s.Gated := by
  refine system.run_invariant InTime Gated ?_ calls _ s (gated_new config) hclock hrun
  intro before call after hbefore hcall hstep
  exact step_gated hbefore hcall hstep

theorem bearer_of_authorized {authorization : Option String} {token : String}
    (h : dashboardAuthorized authorization token = true) : authorization = some ("Bearer " ++ token) := by
  cases authorization with
  | none => cases h
  | some header =>
    unfold dashboardAuthorized at h
    rw [Bool.and_eq_true] at h
    obtain ⟨hstart, hequal⟩ := h
    obtain ⟨rest, hrest⟩ := List.isPrefixOf_iff_prefix.mp hstart
    have htoken := eq_of_safeEqual hequal
    have hslice : JsString.sliceFrom header 7 = String.ofList rest := by
      unfold JsString.sliceFrom
      rw [← hrest]
      rfl
    have hheader : header.toList = ("Bearer " ++ token).toList := by
      rw [String.toList_append, ← hrest, ← htoken, hslice]
      exact congrArg _ String.toList_ofList.symm
    exact congrArg some (String.toList_injective hheader)

theorem admitted_historyOf (address : String) (since before : Int) (answers : List DashboardAnswer) :
    FixedWindow.admitted since before (historyOf address answers) =
      answers.countP fun answer => answer.address = address ∧ answer.status ≠ .tooManyRequests ∧
        since ≤ answer.now ∧ answer.now < before := by
  unfold FixedWindow.admitted historyOf
  rw [List.countP_map, List.countP_filter]
  apply List.countP_congr
  intro answer _
  simp
  tauto

theorem asked_historyOf (address : String) (since : Int) (answers : List DashboardAnswer) :
    FixedWindow.asked since (historyOf address answers) =
      answers.countP fun answer => answer.address = address ∧ since ≤ answer.now := by
  unfold FixedWindow.asked historyOf
  rw [List.countP_map, List.countP_filter]
  apply List.countP_congr
  intro answer _
  simp
  tauto

end DashboardServer

open DashboardServer in
/-- With a clock that does not go back: in no minute is an address let through to the token more than
twice as often as the limit, or twice; whoever is refused has asked as often as the limit within the last minute,
whatever other addresses do; what is routed came with the token; and every request is counted. -/
theorem dashboard_gate (config : DashboardConfig) (calls : List DashboardCall) (s : DashboardServer)
    (hclock : system.Along InTime (new config) calls) (hrun : system.run (new config) calls = some s) :
    (∀ address time, (s.current.countP fun answer => answer.address = address ∧
        answer.status ≠ .tooManyRequests ∧ time ≤ answer.now ∧ answer.now < time + 60000) ≤
      2 * max 1 s.config.rateLimitPerMinute) ∧
    (∀ before refused after, s.current = before ++ refused :: after → refused.status = .tooManyRequests →
      s.config.rateLimitPerMinute ≤ before.countP fun answer => answer.address = refused.address ∧
        refused.now - 60000 < answer.now) ∧
    (∀ answer ∈ s.current, answer.status = .routed →
      answer.authorization = some ("Bearer " ++ s.config.token)) ∧
    (∀ answer ∈ s.answered, ("x-content-type-options", "nosniff") ∈ answer.headers ∧
      ("content-security-policy", "default-src 'none'") ∈ answer.headers) ∧
    s.dashboardRequestsTotal = s.answered.length ∧
    s.dashboardErrorsTotal = s.answered.countP fun answer => answer.status ≠ .routed := by
  have hgated := run_gated config hclock hrun
  refine ⟨fun address time => ?_, fun before refused after hat hrefused => ?_,
    fun answer hmem hrouted => bearer_of_authorized (hgated.authorized answer hmem hrouted), hgated.headers,
    hgated.total, hgated.errors⟩
  · rw [← admitted_historyOf]
    exact (hgated.windows address).always time
  · have hhistory : historyOf refused.address s.current = historyOf refused.address before ++
        (refused.now, false) :: historyOf refused.address after := by
      unfold historyOf
      rw [hat, List.filter_append, List.map_append]
      simp [hrefused]
    have hasked := (hgated.windows refused.address).refuses _ _ _ hhistory
    rw [asked_historyOf] at hasked
    refine Nat.le_trans hasked (List.countP_mono_left fun answer _ hanswer => ?_)
    simp only [decide_eq_true_eq] at hanswer ⊢
    exact ⟨hanswer.1, by omega⟩

/-- Two addresses within a minute, and one of them after it. -/
def minuteOfRequests : List DashboardCall :=
  [.start, .request (some "a") 0 (some "Bearer t"), .request (some "a") 59999 (some "Bearer t"),
    .request none 59999 none, .request (some "a") 60000 (some "Bearer t")]

open DashboardServer in
/-- With a limit of one, the second request of an address is refused. -/
theorem dashboard_gate_refuses :
    ∃ s, system.run (new ⟨true, "127.0.0.1", 9, "t", 1, false⟩) minuteOfRequests = some s ∧
      (s.current.countP fun answer => answer.address = "a" ∧ answer.status ≠ .tooManyRequests ∧
        0 ≤ answer.now ∧ answer.now < 0 + 60000) ≤ 2 ∧
      s.answered.map DashboardAnswer.status = [.routed, .tooManyRequests, .unauthorized, .routed] ∧
      s.dashboardErrorsTotal = 2 := by
  have hclock : system.Along InTime (new ⟨true, "127.0.0.1", 9, "t", 1, false⟩) minuteOfRequests := by
    refine ⟨trivial, ?_⟩
    rintro _ ⟨⟩
    refine ⟨by decide, ?_⟩
    rintro _ ⟨⟩
    refine ⟨by decide, ?_⟩
    rintro _ ⟨⟩
    refine ⟨by decide, ?_⟩
    rintro _ ⟨⟩
    refine ⟨by decide, ?_⟩
    rintro _ ⟨⟩
    trivial
  obtain ⟨hlimit, -, -, -, -, herrors⟩ := dashboard_gate _ _ _ hclock rfl
  exact ⟨_, rfl, hlimit "a" 0, by decide, herrors⟩

end Sepigs
