import Sepigs.Reload.ControlPlane
import Mathlib.Logic.Relation

/-!
# A transaction with a control-plane adapter

The executor races an operation of the adapter against a timer and a signal
(`executeReloadOperation` in `reload/contract.ts`).  The method that loses the race goes on:
it is then one of the `abandoned`, beside whatever the executor does next.

A run may be restricted by a condition on its steps; `ControlCondition.any` restricts nothing.
-/

namespace Sepigs

variable {κ ν τ : Type}

def ReloadOperation.component : ReloadOperation κ ν → Option κ
  | simple _ => none
  | prepare component => some component
  | healthCheck entry | commit entry | rollback entry | cleanup entry => some entry.component

/-- The operations under a `recoveryContext`: its signal is new and its deadline is ahead. -/
def ReloadOperation.isRecovery : ReloadOperation κ ν → Bool
  | simple _ | prepare _ | healthCheck _ | commit _ => false
  | rollback _ | cleanup _ => true

/-- `abandoned` are the methods whose operation was settled without them. -/
structure ControlScene (τ : Type) where
  plane : ControlPlane τ
  abandoned : List (ControlTask τ)

namespace ControlScene

def setPlane (s : ControlScene τ) (plane : ControlPlane τ) : ControlScene τ :=
  { s with plane := plane }

/-- None of the methods is pending. -/
def Settled (s : ControlScene τ) : Prop := ∀ point, .suspended point ∉ s.abandoned

end ControlScene

/-- Conditions on the steps of a run: an `http.Server` comes up or fails, and a `commit` is
abandoned. -/
structure ControlCondition (τ : Type) where
  listened : ControlTask τ → ControlScene τ → Nat → Nat → Except String Unit → Prop
  overtaken : ControlTask τ → ControlPlane τ → Prop

def ControlCondition.any : ControlCondition τ := ⟨fun _ _ _ _ _ => True, fun _ _ => True⟩

namespace ControlAdapter

variable (kind : ControlServerKind) (condition : ControlCondition τ)

/-- A step while the method `task` is raced. -/
inductive Step : ControlTask τ × ControlScene τ → ControlTask τ × ControlScene τ → Prop
  | listened {task : ControlTask τ} {s : ControlScene τ} {id i : Nat} {outcome : Except String Unit}
    (hopening : (s.plane.servers id).httpServers[i]? = some .opening)
    (hcondition : condition.listened task s id i outcome) :
    Step (task, s)
      (task, s.setPlane (s.plane.setServer id ((s.plane.servers id).listened i outcome)))
  | raced {point : ControlSuspended τ} {s : ControlScene τ} {reply : Except String Unit}
    (hsettles : Settles s.plane reply point) :
    Step (.suspended point, s)
      ((resume kind point reply s.plane).1, s.setPlane (resume kind point reply s.plane).2)
  | abandoned {task : ControlTask τ} {s : ControlScene τ} {k : Nat} {point : ControlSuspended τ}
    {reply : Except String Unit} (hk : s.abandoned[k]? = some (.suspended point))
    (hsettles : Settles s.plane reply point) :
    Step (task, s)
      (task, ⟨(resume kind point reply s.plane).2,
        s.abandoned.set k (resume kind point reply s.plane).1⟩)

abbrev Runs : ControlTask τ × ControlScene τ → ControlTask τ × ControlScene τ → Prop :=
  Relation.ReflTransGen (Step kind condition)

/-- What goes on beside the executor. -/
def Drifts (s t : ControlScene τ) : Prop := Runs kind condition (.resolved, s) (.resolved, t)

/-- A method of the adapter up to its first `await`; `prepare` alone needs no prepared object. -/
def perform (nextConfig : ControlServerConfig τ) (operation : ReloadOperation κ ν)
    (plane : ControlPlane τ) : ControlTask τ × ControlPlane τ :=
  match operation, plane.prepared with
  | .prepare _, _ => prepare nextConfig plane
  | .healthCheck _, some state => healthCheck kind state plane
  | .commit _, some state => commit kind state plane
  | .rollback _, some state => rollback kind state plane
  | .cleanup _, some state => cleanup kind state plane
  | _, _ => (.resolved, plane)

/-- The executor takes the answer of a method; it keeps what `prepare` resolves to. -/
def Received (operation : ReloadOperation κ ν) (task : ControlTask τ) (reply : operation.Reply)
    (plane plane' : ControlPlane τ) : Prop :=
  match reply, operation with
  | .ok _, .prepare _ => ∃ value, task = .prepared value ∧
    plane' = { plane with prepared := some value }
  | .ok _, _ => task = .resolved ∧ plane' = plane
  | .error error, _ => task = .rejected error ∧ plane' = plane

/-- `executeReloadOperation`: the operation of another component is answered in any way; one
of the adapter is refused before it starts, or answered by its method, or by the timer or the
signal. -/
inductive Performs (nextConfig : ControlServerConfig τ) (adapter : κ) :
    (operation : ReloadOperation κ ν) → ControlScene τ → operation.Reply → ControlScene τ → Prop
  | other {operation : ReloadOperation κ ν} {s : ControlScene τ} {reply : operation.Reply}
    (hother : operation.component ≠ some adapter) : Performs nextConfig adapter operation s reply s
  | refused {operation : ReloadOperation κ ν} {s : ControlScene τ} {error : String}
    (hadapter : operation.component = some adapter) (hrecovery : operation.isRecovery = false) :
    Performs nextConfig adapter operation s (.error error) s
  | received {operation : ReloadOperation κ ν} {s t : ControlScene τ} {reply : operation.Reply}
    {task : ControlTask τ} {plane : ControlPlane τ}
    (hadapter : operation.component = some adapter)
    (hruns : Runs kind condition ((perform kind nextConfig operation s.plane).1,
      s.setPlane (perform kind nextConfig operation s.plane).2) (task, t))
    (hreceived : Received operation task reply t.plane plane) :
    Performs nextConfig adapter operation s reply (t.setPlane plane)
  | overtaken {operation : ReloadOperation κ ν} {s t : ControlScene τ} {error : String}
    {task : ControlTask τ} (hadapter : operation.component = some adapter)
    (hruns : Runs kind condition ((perform kind nextConfig operation s.plane).1,
      s.setPlane (perform kind nextConfig operation s.plane).2) (task, t))
    (hcommit : ∀ entry, operation = .commit entry → condition.overtaken task t.plane) :
    Performs nextConfig adapter operation s (.error error) ⟨t.plane, t.abandoned ++ [task]⟩

/-- The runs in which a transaction that fails is undone: the candidate of an abandoned commit
does not come up, an old server that a rollback starts does, and no other commit is abandoned
once it has begun to stop the old server. -/
def unwound : ControlCondition τ where
  listened task s id i outcome :=
    match outcome with
    | .ok () => ∀ candidate, .suspended (.candidateStart candidate (.listen id i)) ∉ s.abandoned
    | .error _ => ∀ caller, .suspended (.restoreStart caller (.listen id i)) ∉ task :: s.abandoned
  overtaken task plane :=
    match task with
    | .resolved | .suspended (.disableStop _) | .suspended (.replaceStop _ _) => False
    | .suspended (.candidateStart _ call) => ¬ call.Settles plane (.ok ())
    | _ => True

end ControlAdapter

end Sepigs
