import Sepigs.Lib.JsString

/-!
# The reload transaction model (`reload/generation.ts`)

The state machine of one transaction.  A transition that the table does not
list throws, and so does `fail` with a blank reason or in a terminal state.
Identifiers, generations and times are left out.
-/

namespace Sepigs

inductive ReloadTransactionState
  | idle
  | parsing
  | validating
  | preparing
  | prepared
  | committing
  | committed
  | rollingBack
  | rolledBack
  | failed
deriving DecidableEq, Repr

namespace ReloadTransactionState

def text : ReloadTransactionState → String
  | idle => "idle"
  | parsing => "parsing"
  | validating => "validating"
  | preparing => "preparing"
  | prepared => "prepared"
  | committing => "committing"
  | committed => "committed"
  | rollingBack => "rolling-back"
  | rolledBack => "rolled-back"
  | failed => "failed"

/-- `TRANSITIONS` -/
def transitions : ReloadTransactionState → List ReloadTransactionState
  | idle => [parsing]
  | parsing => [validating, failed]
  | validating => [preparing, failed]
  | preparing => [prepared, rollingBack, failed]
  | prepared => [committing, rollingBack]
  | committing => [committed, rollingBack, failed]
  | committed => []
  | rollingBack => [rolledBack, failed]
  | rolledBack => []
  | failed => []

def isTerminal (state : ReloadTransactionState) : Bool :=
  state = committed || state = rolledBack || state = failed

/-- A state is terminal exactly if no transition leaves it. -/
theorem isTerminal_iff (state : ReloadTransactionState) :
    state.isTerminal = true ↔ state.transitions = [] := by
  cases state <;> decide

end ReloadTransactionState

structure ReloadTransactionModel where
  state : ReloadTransactionState
  failureReason : Option String
deriving DecidableEq, Repr

namespace ReloadTransactionModel

def new : ReloadTransactionModel := ⟨.idle, none⟩

def invalidTransition (state next : ReloadTransactionState) : String :=
  s!"invalid reload transaction transition {state.text} -> {next.text}"

def transition (model : ReloadTransactionModel) (next : ReloadTransactionState) :
    Except String ReloadTransactionModel :=
  if next ∈ model.state.transitions then .ok { model with state := next }
  else .error (invalidTransition model.state next)

def fail (model : ReloadTransactionModel) (reason : String) :
    Except String ReloadTransactionModel :=
  if JsString.isBlank reason then .error "reload failure reason must not be empty"
  else if model.state.isTerminal then
    .error s!"cannot fail terminal reload transaction in state {model.state.text}"
  else if model.state = .preparing ∨ model.state = .prepared ∨ model.state = .committing then
    .ok ⟨.rollingBack, some reason⟩
  else .ok ⟨.failed, some reason⟩

end ReloadTransactionModel

end Sepigs
