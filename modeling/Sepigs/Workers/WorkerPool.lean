import Sepigs.Lib.JsMap
import Sepigs.Lib.Json
import Sepigs.Lib.Runs
import Mathlib.Data.Rat.Cast.CharZero

/-!
# The worker pool

`workers/workerPool.ts` and the worker it talks to, `workers/workerEntry.ts`.  Messages are
JSON values in both directions.  `digest` is `createHash("sha256")` of a text, in hex.

`PoolSystem` is the pool with its calls, timers and threads.  A step of it is a call of a method,
a continuation, an event of a thread or a timer; a thread may exit at any time, and what it was
sent or has sent may be lost with it.
-/

namespace Sepigs

inductive WorkerTask where
  | echo (value : Json)
  | sha256 (value : String)

inductive WorkerTaskResult where
  | echo (value : Json)
  | sha256 (value : String)

structure WorkerRequest where
  id : Rat
  task : WorkerTask

/-- `ok` with its `result`, or the `error`. -/
structure WorkerResponse where
  id : Rat
  reply : Except String WorkerTaskResult

/-! ## Messages -/

def WorkerTask.json : WorkerTask → Json
  | echo value => .object [("kind", .string "echo"), ("value", value)]
  | sha256 value => .object [("kind", .string "sha256"), ("value", .string value)]

def WorkerTaskResult.json : WorkerTaskResult → Json
  | echo value => .object [("kind", .string "echo"), ("value", value)]
  | sha256 value => .object [("kind", .string "sha256"), ("value", .string value)]

def WorkerRequest.json (request : WorkerRequest) : Json :=
  .object [("id", .number request.id), ("task", request.task.json)]

def WorkerResponse.json (response : WorkerResponse) : Json :=
  match response.reply with
  | .ok result =>
    .object [("id", .number response.id), ("ok", .boolean true), ("result", result.json)]
  | .error error =>
    .object [("id", .number response.id), ("ok", .boolean false), ("error", .string error)]

/-- The guard, with the value at the type it narrows to. -/
def isWorkerTaskResult : Json → Option WorkerTaskResult
  | .object fields =>
    match Json.field fields "kind", Json.field fields "value" with
    | some (.string kind), some value =>
      if kind = "echo" then some (.echo value)
      else
        match value with
        | .string value => if kind = "sha256" then some (.sha256 value) else none
        | _ => none
    | _, _ => none
  | _ => none

def isWorkerResponse : Json → Option WorkerResponse
  | .object fields =>
    match Json.field fields "id", Json.field fields "ok" with
    | some (.number id), some (.boolean true) =>
      (Json.field fields "result").bind fun result =>
        (isWorkerTaskResult result).map fun result => ⟨id, .ok result⟩
    | some (.number id), some (.boolean false) =>
      match Json.field fields "error" with
      | some (.string error) => some ⟨id, .error error⟩
      | _ => none
    | _, _ => none
  | _ => none

mutual

def isJsonValue : Json → Bool
  | .null | .boolean _ | .number _ | .string _ => true
  | .array items => everyItem items
  | .object fields => everyField fields

def everyItem : List Json → Bool
  | [] => true
  | item :: items => isJsonValue item && everyItem items

def everyField : List (String × Json) → Bool
  | [] => true
  | field :: fields => isJsonValue field.2 && everyField fields

end

def isWorkerRequest : Json → Option WorkerRequest
  | .object fields =>
    match Json.field fields "id", Json.field fields "task" with
    | some (.number id), some (.object task) =>
      match Json.field task "kind", Json.field task "value" with
      | some (.string kind), some value =>
        if kind = "echo" then
          if isJsonValue value then some ⟨id, .echo value⟩ else none
        else
          match value with
          | .string value => if kind = "sha256" then some ⟨id, .sha256 value⟩ else none
          | _ => none
      | _, _ => none
    | _, _ => none
  | _ => none

/-! ## The worker -/

def runTask (digest : String → String) : WorkerTask → WorkerTaskResult
  | .echo value => .echo value
  | .sha256 value => .sha256 (digest value)

/-- What the worker sends for a message. -/
def workerEntry (digest : String → String) (message : Json) : Json :=
  match isWorkerRequest message with
  | none => WorkerResponse.json ⟨-1, .error "invalid worker request"⟩
  | some request => WorkerResponse.json ⟨request.id, .ok (runTask digest request.task)⟩

/-! ## The pool -/

structure WorkerConfig where
  enabled : Bool
  size : Nat
  taskTimeoutMs : Nat

/-- Workers and calls are known by their numbers; `pending` holds the call of a task. -/
structure WorkerPool where
  config : WorkerConfig
  workers : List Nat
  pending : JsMap Nat Nat
  nextTaskId : Nat
  nextWorkerIndex : Nat
  started : Bool

def WorkerPool.new (config : WorkerConfig) : WorkerPool := ⟨config, [], ∅, 1, 0, false⟩

/-- A call of `run`: it awaits `start()`, it awaits the task, or it has settled. -/
inductive WorkerCallState where
  | starting
  | waiting (id : Nat)
  | settled (reply : Except String WorkerTaskResult)

structure WorkerCall where
  task : WorkerTask
  state : WorkerCallState

/-- `resolve` or `reject`: only the first has an effect. -/
def WorkerCall.settle (reply : Except String WorkerTaskResult) (call : WorkerCall) : WorkerCall :=
  match call.state with
  | .settled _ => call
  | _ => { call with state := .settled reply }

structure WorkerThread where
  inbox : List Json
  outbox : List Json
  alive : Bool

/-- `timers` are the armed ones, each with its task and its call; `stops` are the calls of `stop`
that await the end of their workers. -/
structure PoolSystem where
  pool : WorkerPool
  calls : List WorkerCall
  timers : List (Nat × Nat)
  threads : List WorkerThread
  stops : List (List Nat)

namespace PoolSystem

def new (config : WorkerConfig) : PoolSystem := ⟨.new config, [], [], [], []⟩

def settle (call : Nat) (reply : Except String WorkerTaskResult) (s : PoolSystem) : PoolSystem :=
  { s with calls := s.calls.modify call (WorkerCall.settle reply) }

def start (s : PoolSystem) : PoolSystem :=
  if s.pool.started || !s.pool.config.enabled then s
  else
    { s with
      pool := { s.pool with
        workers := s.pool.workers ++ List.range' s.threads.length s.pool.config.size
        started := true }
      threads := s.threads ++ List.replicate s.pool.config.size ⟨[], [], true⟩ }

/-- `worker.postMessage`; one that has exited gets nothing. -/
def postMessage (worker : Nat) (message : Json) (s : PoolSystem) : PoolSystem :=
  { s with threads := s.threads.modify worker fun thread =>
      if thread.alive then { thread with inbox := thread.inbox ++ [message] } else thread }

/-- The promise of a call: its task is pending from here on, under the next number. -/
def register (call : Nat) (task : WorkerTask) (s : PoolSystem) : PoolSystem :=
  { s with
    pool := { s.pool with
      nextWorkerIndex := s.pool.nextWorkerIndex + 1
      nextTaskId := s.pool.nextTaskId + 1
      pending := s.pool.pending.set s.pool.nextTaskId call }
    calls := s.calls.set call ⟨task, .waiting s.pool.nextTaskId⟩
    timers := s.timers ++ [(s.pool.nextTaskId, call)] }

/-- `run` from `pickWorker` on. -/
def submit (call : Nat) (task : WorkerTask) (s : PoolSystem) : PoolSystem :=
  match s.pool.workers[s.pool.nextWorkerIndex % s.pool.workers.length]? with
  | none => s.settle call (.error "worker pool has no workers")
  | some worker =>
    (s.register call task).postMessage worker (WorkerRequest.json ⟨s.pool.nextTaskId, task⟩)

def addCall (call : WorkerCall) (s : PoolSystem) : PoolSystem := { s with calls := s.calls ++ [call] }

def run (task : WorkerTask) (s : PoolSystem) : PoolSystem :=
  if !s.pool.config.enabled then s.addCall ⟨task, .settled (.error "worker pool is disabled")⟩
  else if !s.pool.started then s.start.addCall ⟨task, .starting⟩
  else (s.addCall ⟨task, .starting⟩).submit s.calls.length task

/-- The tasks are rejected in their order. -/
def rejectAll (error : String) (calls : List Nat) (s : PoolSystem) : PoolSystem :=
  calls.foldl (fun s call => s.settle call (.error error)) s

/-- `stop` up to its `await`. -/
def stop (s : PoolSystem) : PoolSystem :=
  let s := s.rejectAll "worker pool stopped" s.pool.pending.values
  { s with
    pool := { s.pool with pending := ∅, workers := [] }
    timers := s.timers.filter fun timer => !s.pool.pending.entries.contains timer
    stops := s.stops ++ [s.pool.workers] }

/-- The key of `pending` that a number is. -/
def taskId (id : Rat) : Option Nat :=
  if id.den = 1 ∧ 0 ≤ id.num then some id.num.toNat else none

/-- A task is no longer pending, and its timer is not armed any more. -/
def forget (id call : Nat) (s : PoolSystem) : PoolSystem :=
  { s with
    pool := { s.pool with pending := s.pool.pending.delete id }
    timers := s.timers.erase (id, call) }

def handleMessage (message : Json) (s : PoolSystem) : PoolSystem :=
  match isWorkerResponse message with
  | none => s
  | some response =>
    match taskId response.id with
    | none => s
    | some id =>
      match s.pool.pending.get id with
      | none => s
      | some call =>
        (s.forget id call).settle call response.reply

def timeoutError (s : PoolSystem) : String :=
  s!"worker task timed out after {s.pool.config.taskTimeoutMs}ms"

/-- The callback of a timer. -/
def timeout (id call : Nat) (s : PoolSystem) : PoolSystem :=
  (s.forget id call).settle call (.error s.timeoutError)

inductive Label where
  | start
  | run (task : WorkerTask)
  | resume (call : Nat)
  | stop
  | stopped (stop : Nat)
  | work (worker : Nat)
  | deliver (worker : Nat)
  | exit (worker : Nat)
  | lose (worker : Nat)
  | timeout (id call : Nat)

def setThread (worker : Nat) (thread : WorkerThread) (s : PoolSystem) : PoolSystem :=
  { s with threads := s.threads.set worker thread }

/-- `resume` is `run` after `await this.start()`, `stopped` is `stop` after its `await`. -/
def step (digest : String → String) (s : PoolSystem) : Label → Option PoolSystem
  | .start => some s.start
  | .run task => some (s.run task)
  | .resume call =>
    match s.calls[call]? with
    | some ⟨task, .starting⟩ => some (s.submit call task)
    | _ => none
  | .stop => some s.stop
  | .stopped stop =>
    match s.stops[stop]? with
    | some workers =>
      if workers.all fun worker => s.threads[worker]?.all fun thread => !thread.alive then
        some { s with pool := { s.pool with started := false }, stops := s.stops.eraseIdx stop }
      else none
    | none => none
  | .work worker =>
    match s.threads[worker]? with
    | some ⟨message :: inbox, outbox, true⟩ =>
      some (s.setThread worker ⟨inbox, outbox ++ [workerEntry digest message], true⟩)
    | _ => none
  | .deliver worker =>
    match s.threads[worker]? with
    | some ⟨inbox, message :: outbox, alive⟩ =>
      some ((s.setThread worker ⟨inbox, outbox, alive⟩).handleMessage message)
    | _ => none
  | .exit worker =>
    match s.threads[worker]? with
    | some ⟨_, outbox, true⟩ => some (s.setThread worker ⟨[], outbox, false⟩)
    | _ => none
  | .lose worker =>
    match s.threads[worker]? with
    | some ⟨inbox, _, false⟩ => some (s.setThread worker ⟨inbox, [], false⟩)
    | _ => none
  | .timeout id call => if (id, call) ∈ s.timers then some (s.timeout id call) else none

def system (digest : String → String) : Runs.System PoolSystem Label := ⟨step digest⟩

end PoolSystem


/-! ## Messages are understood -/

theorem isJsonValue_eq_true (value : Json) : isJsonValue value = true := by
  induction value using Json.induction with
  | scalar x hx =>
    cases x with
    | array items => cases hx
    | object fields => cases hx
    | _ => rfl
  | array items ih =>
    show everyItem items = true
    induction items with
    | nil => rfl
    | cons item items ihItems =>
      show (isJsonValue item && everyItem items) = true
      rw [ih item List.mem_cons_self, ihItems fun x hx => ih x (List.mem_cons_of_mem _ hx)]
      rfl
  | object fields ih =>
    show everyField fields = true
    induction fields with
    | nil => rfl
    | cons field fields ihFields =>
      show (isJsonValue field.2 && everyField fields) = true
      rw [ih field List.mem_cons_self, ihFields fun x hx => ih x (List.mem_cons_of_mem _ hx)]
      rfl

theorem isWorkerRequest_json (request : WorkerRequest) :
    isWorkerRequest request.json = some request := by
  obtain ⟨id, task⟩ := request
  cases task with
  | echo value =>
    have hvalue := isJsonValue_eq_true value
    simp [isWorkerRequest, WorkerRequest.json, WorkerTask.json, Json.field, hvalue]
  | sha256 value => simp [isWorkerRequest, WorkerRequest.json, WorkerTask.json, Json.field]

theorem isWorkerTaskResult_json (result : WorkerTaskResult) :
    isWorkerTaskResult result.json = some result := by
  cases result with
  | echo value => simp [isWorkerTaskResult, WorkerTaskResult.json, Json.field]
  | sha256 value => simp [isWorkerTaskResult, WorkerTaskResult.json, Json.field]

theorem isWorkerResponse_json (response : WorkerResponse) :
    isWorkerResponse response.json = some response := by
  obtain ⟨id, error | result⟩ := response
  · simp [isWorkerResponse, WorkerResponse.json, Json.field]
  · simp [isWorkerResponse, WorkerResponse.json, Json.field, isWorkerTaskResult_json]

/-- The worker's answer to a request of the pool. -/
theorem isWorkerResponse_workerEntry (digest : String → String) (request : WorkerRequest) :
    isWorkerResponse (workerEntry digest request.json) =
      some ⟨request.id, .ok (runTask digest request.task)⟩ := by
  unfold workerEntry
  rw [isWorkerRequest_json]
  exact isWorkerResponse_json _

namespace PoolSystem

theorem taskId_natCast (n : Nat) : taskId n = some n := by
  unfold taskId
  simp

end PoolSystem

end Sepigs
