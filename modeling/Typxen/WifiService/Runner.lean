import Typxen.Executor.Executor

/-! # The execution task

`execution_task` of `typx_wifi_service.c` and the runner of `typx_ble_hid.c`,
which wraps `typx_executor_run` in the countdown and the final release. Their
accesses to `s_runtime` and to the upload are calls, one for each stretch of
code between two callbacks. -/

namespace Typxen.WifiService

open Interaction Protocol Executor

/-- `TYPX_DEDICATED_COUNTDOWN_SECONDS`. -/
def dedicatedCountdownSeconds : Nat := 8

/-- `typx_hid_runtime_t`, without its interface. -/
structure HidRuntime where
  connected : Bool
  running : Bool
  stopRequested : Bool
  deriving DecidableEq, Repr

inductive RunnerCall
  /-- The test of `connected` and `running`; where it succeeds the runtime is
  taken and its stop flag cleared. -/
  | acquire
  /-- `wait_ms`. -/
  | waitMs (delayMs : UInt32)
  /-- The read of the stop flag after a wait that failed. -/
  | stopFlag
  /-- The observer's `countdown_complete`. -/
  | countdownComplete
  /-- `running` is cleared, on most paths with the stop flag. -/
  | giveUp (clearStop : Bool)
  /-- `typx_ble_hid_mark_execution_terminal`. -/
  | markTerminal
  /-- `typx_wifi_upload_complete`, under the mutex. -/
  | complete (executorError : ExecutorError)
  deriving DecidableEq, Repr

@[reducible] def RunnerCall.Answer : RunnerCall → Type
  | .countdownComplete => Unit
  | .giveUp _ => Unit
  | .complete _ => Unit
  | _ => Bool

@[reducible] def runnerCalls : Signature where
  Call := RunnerCall
  Answer := RunnerCall.Answer

@[reducible] def taskCalls : Signature := callbacks.sum runnerCalls

abbrev Task (α : Type) := Program taskCalls α

def Runner.call (request : RunnerCall) : Task (RunnerCall.Answer request) :=
  Program.call (S := taskCalls) (.inr request)

def releaseAllReports : Task Bool :=
  Program.call (S := taskCalls) (.inl .releaseAll)

/-- The countdown with `secondsLeft` waits to go; `continued` is what follows
it. -/
def countdown (continued : Task ExecutorError) :
    (secondsLeft : Nat) → Task ExecutorError
  | 0 => continued
  | secondsLeft + 1 => do
      if !(← Runner.call (.waitMs 1000)) then
        let stopped ← Runner.call .stopFlag
        let _ ← releaseAllReports
        Runner.call (.giveUp true)
        return if stopped then .stopped else .waitFailed
      else
        countdown continued secondsLeft

/-- The part of the runner after the countdown. -/
def runObserved (schedule : VerifiedSchedule) : Task ExecutorError := do
  Runner.call .countdownComplete
  let result ← (typxExecutorRun schedule).inject runnerCalls
  let released ← releaseAllReports
  Runner.call (.giveUp true)
  return if released then result else .releaseFailed

def typxBleHidRunScheduleCountdownObserved (schedule : VerifiedSchedule)
    (countdownSeconds : Nat) : Task ExecutorError := do
  if !typxProtocolV1IsVerified schedule then
    return .notVerified
  else if !(← Runner.call .acquire) then
    return .waitFailed
  else if !(← releaseAllReports) then
    Runner.call (.giveUp false)
    return .releaseFailed
  else
    countdown (runObserved schedule) countdownSeconds

def executionTask (schedule : VerifiedSchedule) : Task Unit := do
  let executorError ← typxBleHidRunScheduleCountdownObserved schedule
    dedicatedCountdownSeconds
  let marked ← Runner.call .markTerminal
  Runner.call (.complete (if marked then executorError else .waitFailed))

end Typxen.WifiService
