import Mathlib.Logic.Function.Basic
import Typxen.WifiService.Runner
import Typxen.WifiUpload.Storage

/-! # The Wi-Fi service

`start_handler`, `stop_handler`, `execution_task` and the other users of the
upload and of the HID runtime, interleaved. A step is one call under the mutex
or one stretch of code between two callbacks. Notification and deletion reach
the task that was created last. -/

namespace Typxen.WifiService

open Interaction Protocol WifiUpload Transition

/-- What `start_handler` does next; `idle` while none is past
`typx_wifi_upload_prepare_start`. -/
inductive StartPoint
  | idle
  | markActive
  | createTask
  | respond
  | notify
  | startFailed
  deriving DecidableEq, Repr

/-- `waiting` is the task before its notification. -/
inductive Execution
  | none
  | waiting
  | running (task : Task Unit)

def Execution.after : Task Unit → Execution
  | .done _ => .none
  | .ask request next => .running (.ask request next)

variable {σ : Type}

/-- What the parties share: `s_upload` with the world behind its storage, and
`s_runtime`. -/
structure Device (σ : Type) where
  job : System σ
  runtime : HidRuntime

def Device.upload (device : Device σ) : Upload := device.job.upload

def Device.withUpload (device : Device σ) (upload : Upload) : Device σ :=
  { device with job := { device.job with upload := upload } }

def Device.withWorld (device : Device σ) (world : σ) : Device σ :=
  { device with job := { device.job with world := world } }

def Device.withRuntime (device : Device σ) (runtime : HidRuntime) : Device σ :=
  { device with runtime := runtime }

structure Service (σ : Type) extends Device σ where
  start : StartPoint
  execution : Execution
  /-- The invocations of `stop_handler` between its two calls. -/
  stops : Nat → Bool

def boot (world : σ) : Service σ where
  job := initial world
  runtime := ⟨false, false, false⟩
  start := .idle
  execution := .none
  stops := fun _ => false

/-! ## The calls of the execution task -/

/-- The last poll of `scheduler_wait_ticks`, which decides its result. -/
def HidRuntime.goesOn (runtime : HidRuntime) : Bool :=
  !runtime.stopRequested && runtime.connected

/-- What each call of the execution task may answer, and what it changes. -/
def taskEnvironment (environment : Environment callbacks σ) :
    Environment taskCalls (Device σ)
  | .inl .stopRequested, before, answer, after =>
      answer = (before.runtime.stopRequested || !before.runtime.connected) ∧
        after = before
  | .inl (.waitUs delayUs), before, answer, after =>
      answer = (delayUs == 0 || before.runtime.goesOn) ∧ after = before
  | .inl (.keyDown _ _), before, answer, after =>
      (answer = true → before.runtime.connected = true) ∧ after = before
  | .inl .releaseAll, before, answer, after =>
      (answer = true → before.runtime.connected = true) ∧ after = before
  | .inl .nowUs, before, _, after => after = before
  | .inl (.progress sourceIndex completedRecords totalRecords), before, _,
      after =>
      after = before.withUpload (typxWifiUploadRecordProgress before.upload
        sourceIndex completedRecords totalRecords)
  | .inl (.terminal _ _ _), before, _, after => after = before
  | .inl request, before, answer, after =>
      ∃ world, environment request before.job.world answer world ∧
        after = before.withWorld world
  | .inr .acquire, before, answer, after =>
      answer = (before.runtime.connected && !before.runtime.running) ∧
        after = if before.runtime.connected && !before.runtime.running then
          before.withRuntime { before.runtime with
            running := true, stopRequested := false }
        else before
  | .inr (.waitMs delayMs), before, answer, after =>
      answer = (delayMs == 0 || before.runtime.goesOn) ∧ after = before
  | .inr .stopFlag, before, answer, after =>
      answer = before.runtime.stopRequested ∧ after = before
  | .inr .countdownComplete, before, _, after =>
      after = before.withUpload (typxWifiUploadMarkExecuting before.upload).2
  | .inr (.giveUp clearStop), before, _, after =>
      after = before.withRuntime { before.runtime with
        running := false
        stopRequested := !clearStop && before.runtime.stopRequested }
  | .inr .markTerminal, before, _, after => after = before
  | .inr (.complete executorError), before, _, after =>
      after = before.withUpload
        (typxWifiUploadComplete before.upload executorError)

/-! ## Steps -/

inductive ServiceEvent
  | prepareStart (jobId : Vector UInt8 16) (hidReadiness : HidReadiness)
      (accepted : Bool)
  | markActive (marked : Bool)
  | createTask (created : Bool)
  | respond (sent : Bool)
  | notify
  | startFailed
  | requestUploadStop (invocation : Nat) (found : UploadStatus)
      (error : UploadError)
  | requestHidStop (invocation : Nat)
  | execute (event : Interaction.Event taskCalls)
  | upload (event : UploadEvent)
  | connected
  | disconnected
  | consoleStop

def otherHandlers : UploadOp → Bool
  | .begin _ _ _ => true
  | .session _ _ _ => true
  | .finalize _ _ _ => true
  | .cancel _ => true
  | _ => false

inductive ServiceStep (environment : Environment callbacks σ) :
    Service σ → ServiceEvent → Service σ → Prop
  | prepared {before : Service σ} {jobId : Vector UInt8 16}
      {hidReadiness : HidReadiness} {schedule : VerifiedSchedule}
      {next : Upload} :
      before.start = .idle →
      typxWifiUploadPrepareStart before.upload jobId hidReadiness =
        (.ok schedule, next) →
      ServiceStep environment before (.prepareStart jobId hidReadiness true)
        { before with
          toDevice := before.withUpload next
          start := .markActive }
  | refused {before : Service σ} {jobId : Vector UInt8 16}
      {hidReadiness : HidReadiness} {error : UploadError} {next : Upload} :
      typxWifiUploadPrepareStart before.upload jobId hidReadiness =
        (.error error, next) →
      ServiceStep environment before (.prepareStart jobId hidReadiness false)
        { before with toDevice := before.withUpload next }
  | markActive {before : Service σ} (marked : Bool) :
      before.start = .markActive →
      ServiceStep environment before (.markActive marked)
        { before with start := if marked then .createTask else .startFailed }
  | taskCreated {before : Service σ} : before.start = .createTask →
      ServiceStep environment before (.createTask true)
        { before with start := .respond, execution := .waiting }
  | taskNotCreated {before : Service σ} : before.start = .createTask →
      ServiceStep environment before (.createTask false)
        { before with start := .startFailed }
  | responded {before : Service σ} : before.start = .respond →
      ServiceStep environment before (.respond true)
        { before with start := .notify }
  | notResponded {before : Service σ} : before.start = .respond →
      ServiceStep environment before (.respond false)
        { before with start := .startFailed, execution := .none }
  /-- The task reads the schedule through its pointer from here on. -/
  | notify {before : Service σ} : before.start = .notify →
      ServiceStep environment before .notify
        { before with
          start := .idle
          execution := .running (executionTask before.upload.verifiedSchedule) }
  | startFailed {before : Service σ} : before.start = .startFailed →
      ServiceStep environment before .startFailed
        { before with
          toDevice :=
            before.withUpload (typxWifiUploadStartFailed before.upload).2
          start := .idle }
  | requestUploadStop {before : Service σ} {invocation : Nat}
      {error : UploadError} {next : Upload} :
      before.stops invocation = false →
      typxWifiUploadRequestStop before.upload = (error, next) →
      ServiceStep environment before
        (.requestUploadStop invocation before.upload.status error)
        { before with
          toDevice := before.withUpload next
          stops := Function.update before.stops invocation (error == .ok) }
  | requestHidStop {before : Service σ} {invocation : Nat} :
      before.stops invocation = true →
      ServiceStep environment before (.requestHidStop invocation)
        { before with
          toDevice := before.withRuntime { before.runtime with
            stopRequested := true }
          stops := Function.update before.stops invocation false }
  | execute {before : Service σ} {device : Device σ} {request : taskCalls.Call}
      {next : taskCalls.Answer request → Task Unit}
      {answer : taskCalls.Answer request} :
      before.execution = .running (.ask request next) →
      taskEnvironment environment request before.toDevice answer device →
      ServiceStep environment before (.execute ⟨request, answer⟩)
        { before with
          toDevice := device
          execution := .after (next answer) }
  | upload {before : Service σ} {event : UploadEvent} {job : System σ} :
      otherHandlers event.op = true →
      UploadStep environment before.job event job →
      ServiceStep environment before (.upload event) { before with job := job }
  | connected {before : Service σ} :
      ServiceStep environment before .connected
        { before with
          toDevice := before.withRuntime { before.runtime with
            connected := true } }
  /-- `typx_hid_runtime_request_stop` and `typx_hid_runtime_set_connected`. -/
  | disconnected {before : Service σ} :
      ServiceStep environment before .disconnected
        { before with
          toDevice := before.withRuntime {
            connected := false, running := false, stopRequested := true } }
  /-- The `stop` command of the console. -/
  | consoleStop {before : Service σ} :
      ServiceStep environment before .consoleStop
        { before with
          toDevice := before.withRuntime { before.runtime with
            stopRequested := true } }

/-! ## When nothing fails -/

section Reliable

variable (hash : List UInt8 → Vector UInt8 32)

def deviceAnswer : (request : taskCalls.Call) → Device World →
    taskCalls.Answer request × Device World
  | .inl .stopRequested, device =>
      (device.runtime.stopRequested || !device.runtime.connected, device)
  | .inl (.waitUs delayUs), device =>
      (delayUs == 0 || device.runtime.goesOn, device)
  | .inl (.keyDown _ _), device => (device.runtime.connected, device)
  | .inl .releaseAll, device => (device.runtime.connected, device)
  | .inl .nowUs, device => ((0 : UInt64), device)
  | .inl (.progress sourceIndex completedRecords totalRecords), device =>
      ((), device.withUpload (typxWifiUploadRecordProgress device.upload
        sourceIndex completedRecords totalRecords))
  | .inl (.terminal _ _ _), device => ((), device)
  | .inl request, device =>
      let (answer, world) := reliableAnswer hash request device.job.world
      (answer, device.withWorld world)
  | .inr .acquire, device =>
      (device.runtime.connected && !device.runtime.running,
        if device.runtime.connected && !device.runtime.running then
          device.withRuntime { device.runtime with
            running := true, stopRequested := false }
        else device)
  | .inr (.waitMs delayMs), device =>
      (delayMs == 0 || device.runtime.goesOn, device)
  | .inr .stopFlag, device => (device.runtime.stopRequested, device)
  | .inr .countdownComplete, device =>
      ((), device.withUpload (typxWifiUploadMarkExecuting device.upload).2)
  | .inr (.giveUp clearStop), device =>
      ((), device.withRuntime { device.runtime with
        running := false
        stopRequested := !clearStop && device.runtime.stopRequested })
  | .inr .markTerminal, device => (true, device)
  | .inr (.complete executorError), device =>
      ((), device.withUpload
        (typxWifiUploadComplete device.upload executorError))

theorem deviceAnswer_environment (request : taskCalls.Call)
    (device : Device World) :
    taskEnvironment (stagingStorage hash) request device
      (deviceAnswer hash request device).1
      (deviceAnswer hash request device).2 := by
  have staging (request : Callback) :=
    (reliableAnswer_staging hash request device.job.world).1
  cases request with
  | inl request =>
      cases request with
      | stopRequested => exact ⟨rfl, rfl⟩
      | waitUs _ => exact ⟨rfl, rfl⟩
      | keyDown _ _ => exact ⟨id, rfl⟩
      | releaseAll => exact ⟨id, rfl⟩
      | nowUs => rfl
      | progress _ _ _ => rfl
      | terminal _ _ _ => rfl
      | _ => exact ⟨_, staging _, rfl⟩
  | inr request =>
      cases request with
      | countdownComplete => rfl
      | giveUp _ => rfl
      | markTerminal => rfl
      | complete _ => rfl
      | _ => exact ⟨rfl, rfl⟩

def taskRun : (calls : Nat) → Service World → List ServiceEvent × Service World
  | 0, service => ([], service)
  | calls + 1, service =>
      match service.execution with
      | .running (.ask request next) =>
          let (answer, device) := deviceAnswer hash request service.toDevice
          let (events, last) := taskRun calls { service with
            toDevice := device
            execution := .after (next answer) }
          (.execute ⟨request, answer⟩ :: events, last)
      | _ => ([], service)

theorem taskRun_run (calls : Nat) (service : Service World) :
    Run (ServiceStep (stagingStorage hash)) service
      (taskRun hash calls service).1 (taskRun hash calls service).2 := by
  induction calls generalizing service with
  | zero => exact .nil service
  | succ calls induction =>
      rw [taskRun]
      split
      · rename_i request next here
        exact .cons
          (.execute here (deviceAnswer_environment hash request service.toDevice))
          (induction _)
      · exact .nil service

theorem taskRun_events (calls : Nat) (service : Service World) :
    ∀ event ∈ (taskRun hash calls service).1,
      ∃ call, event = .execute call := by
  induction calls generalizing service with
  | zero => exact fun event member => nomatch member
  | succ calls induction =>
      intro event member
      rw [taskRun] at member
      split at member
      · rcases List.mem_cons.mp member with same | later
        · exact ⟨_, same⟩
        · exact induction _ event later
      · cases member

end Reliable

theorem uploadRun_run {environment : Environment callbacks σ}
    {before after : System σ} {events : List UploadEvent}
    (run : UploadRun environment before events after)
    (other : ∀ event ∈ events, otherHandlers event.op = true)
    (service : Service σ) :
    Run (ServiceStep environment) { service with job := before }
      (events.map .upload) { service with job := after } := by
  induction run with
  | nil system => exact .nil _
  | cons taken _ induction =>
      exact .cons (.upload (other _ (.head _)) taken)
        (induction fun event member => other event (.tail _ member))

end Typxen.WifiService
