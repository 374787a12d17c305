import Typxen.Protocol.Verifier

/-! # The executor

`typx_executor.c`. The interface `typx_executor_io_t` is always valid here;
its entries are the calls of `Io`. -/

namespace Typxen.Executor

open Interaction Protocol

def releaseBestEffort : Firmware Bool := Io.releaseAll

def finish (status : TerminalStatus) (error : ExecutorError)
    (protocolError : ProtocolError) : Firmware ExecutorError := do
  let released ← releaseBestEffort
  let status := if released then status else .error
  let error := if released then error else .releaseFailed
  Io.terminal status error protocolError
  return error

def waitChecked (delayUs : UInt32) : Firmware ExecutorError := do
  if delayUs == 0 then
    return .ok
  else if ← Io.stopRequested then
    return .stopped
  else
    let before ← Io.nowUs
    if !(← Io.waitUs delayUs) then
      if ← Io.stopRequested then
        return .stopped
      else
        return .waitFailed
    else
      let after ← Io.nowUs
      return if after < before then .clockError else .ok

/-- The exit after a wait that did not return `ok`. -/
def finishWait (waitError : ExecutorError) : Firmware ExecutorError :=
  finish (if waitError == .stopped then .aborted else .error) waitError .ok

/-- The body of the loop of `typx_executor_run` once the record is read;
`continued` is the rest of the loop. -/
def executeRecord (schedule : VerifiedSchedule) (index : UInt32)
    (record : Record) (continued : Firmware ExecutorError) :
    Firmware ExecutorError := do
  let waitError ← waitChecked record.waitBeforeKeyDownUs
  if waitError != .ok then
    finishWait waitError
  else if ← Io.stopRequested then
    finish .aborted .stopped .ok
  else if !(← Io.keyDown record.modifier record.keycode) then
    finish .error .keyDownFailed .ok
  else
    let waitError ← waitChecked record.keyDownHoldUs
    if waitError != .ok then
      finishWait waitError
    else if !(← Io.releaseAll) then
      let _ ← releaseBestEffort
      Io.terminal .error .releaseFailed .ok
      return .releaseFailed
    else
      Io.progress record.sourceIndex (index + 1) schedule.header.actionCount
      if ← Io.stopRequested then
        finish .aborted .stopped .ok
      else
        let waitError ← waitChecked record.waitAfterReleaseUs
        if waitError != .ok then
          finishWait waitError
        else
          continued

/-- The loop of `typx_executor_run` with `remaining` records left. -/
def executeFrom (schedule : VerifiedSchedule) :
    (remaining : Nat) → (index : UInt32) → Firmware ExecutorError
  | 0, _ => finish .completed .ok .ok
  | remaining + 1, index => do
      if ← Io.stopRequested then
        finish .aborted .stopped .ok
      else
        match ← typxProtocolV1ReadRecord schedule index with
        | .error protocolError =>
            finish .error .protocolReadFailed protocolError
        | .ok record =>
            executeRecord schedule index record
              (executeFrom schedule remaining (index + 1))

def typxExecutorRun (schedule : VerifiedSchedule) : Firmware ExecutorError :=
  if !typxProtocolV1IsVerified schedule then
    finish .error .notVerified .notVerified
  else
    executeFrom schedule schedule.header.actionCount.toNat 0

end Typxen.Executor
