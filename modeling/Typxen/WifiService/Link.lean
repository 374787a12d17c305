import Typxen.ExecutionSafety.Confirmation
import Typxen.WifiService.OneRun

/-! # The service and the link

The same BLE events reach the HID runtime and the safety automaton, one after
the other, and `start_handler` reads the automaton before it takes the mutex.
A step is one critical section or one stretch of code between two
callbacks. -/

namespace Typxen.WifiService

open Interaction Protocol WifiUpload Transition ExecutionSafety

/-- What `hid_callback` has told one of the two parties only: a connection the
runtime, a disconnection the safety automaton. -/
inductive CallbackPoint
  | idle
  | connecting
  | disconnecting
  deriving DecidableEq, Repr

/-- The status that a `start_handler` has read, and whether the connection
generation has changed since. -/
structure Reading where
  hid : Snapshot
  moved : Bool
  deriving DecidableEq, Repr

structure Linked (σ : Type) where
  service : Service σ
  safety : ExecutionSafety.System
  callback : CallbackPoint
  /-- Read by a `start_handler` that has not called
  `typx_wifi_upload_prepare_start` yet. -/
  reading : Option Reading
  /-- Read by the `start_handler` whose START was accepted last. -/
  job : Option Reading

section Steps

variable {σ : Type}

/-- How `start_handler` reads the status. -/
def hidReadiness (hid : Snapshot) : HidReadiness :=
  if !hid.connected then .disconnected
  else if hid.ready then .ready
  else if hid.state == .failedRetryable &&
      (hid.error == .authFailed || hid.attempts ≥ releaseMaxAttempts) then .failed
  else .pending

def Linked.move (linked : Linked σ) (safety : ExecutionSafety.System)
    (callback : CallbackPoint) : Linked σ :=
  { linked with
    safety := safety
    callback := callback
    reading := linked.reading.map fun reading => { reading with moved := true }
    job := linked.job.map fun reading => { reading with moved := true } }

inductive LinkedEvent
  /-- `typx_ble_hid_safety_status` in `start_handler`. -/
  | readStatus
  | service (event : ServiceEvent)
  | safety (event : SafetyEvent)

def ServiceEvent.ordinary : ServiceEvent → Bool
  | .prepareStart _ _ _ => false
  | .connected => false
  | .disconnected => false
  | _ => true

inductive LinkedStep (environment : Environment callbacks σ) :
    Linked σ → LinkedEvent → Linked σ → Prop
  | readStatus {before : Linked σ} :
      before.reading = none → before.service.start = .idle →
      LinkedStep environment before .readStatus
        { before with
          reading := some
            ⟨typxExecutionSafetySnapshot before.safety.shared.safety, false⟩ }
  | prepareStart {before : Linked σ} {reading : Reading}
      {jobId : Vector UInt8 16} {accepted : Bool} {service : Service σ} :
      before.reading = some reading →
      ServiceStep environment before.service
        (.prepareStart jobId (hidReadiness reading.hid) accepted) service →
      LinkedStep environment before
        (.service (.prepareStart jobId (hidReadiness reading.hid) accepted))
        { before with
          service := service
          reading := none
          job := if accepted then some reading else before.job }
  | runtimeConnected {before : Linked σ} {service : Service σ} :
      before.callback = .idle →
      ServiceStep environment before.service .connected service →
      LinkedStep environment before (.service .connected)
        { before with service := service, callback := .connecting }
  | safetyConnected {before : Linked σ} {safety : ExecutionSafety.System} :
      before.callback = .connecting →
      SafetyStep before.safety .connected safety →
      LinkedStep environment before (.safety .connected)
        (before.move safety .idle)
  | safetyDisconnected {before : Linked σ} {safety : ExecutionSafety.System} :
      before.callback = .idle →
      SafetyStep before.safety .disconnected safety →
      LinkedStep environment before (.safety .disconnected)
        (before.move safety .disconnecting)
  | runtimeDisconnected {before : Linked σ} {service : Service σ} :
      before.callback = .disconnecting →
      ServiceStep environment before.service .disconnected service →
      LinkedStep environment before (.service .disconnected)
        { before with service := service, callback := .idle }
  | service {before : Linked σ} {event : ServiceEvent} {service : Service σ} :
      event.ordinary = true →
      ServiceStep environment before.service event service →
      LinkedStep environment before (.service event)
        { before with service := service }
  | safety {before : Linked σ} {event : SafetyEvent}
      {safety : ExecutionSafety.System} :
      event.isConnection = false →
      SafetyStep before.safety event safety →
      LinkedStep environment before (.safety event)
        { before with safety := safety }

def linkedBoot (world : σ) (active : Option Bool) (cleared : Bool) :
    Linked σ where
  service := boot world
  safety := ExecutionSafety.initial active cleared
  callback := .idle
  reading := none
  job := none

/-! ## The parties on their own -/

variable {environment : Environment callbacks σ}

theorem LinkedStep.service_step {before after : Linked σ} {event : LinkedEvent}
    (step : LinkedStep environment before event after) :
    after.service = before.service ∨ ∃ taken, event = .service taken ∧
      ServiceStep environment before.service taken after.service := by
  cases step with
  | readStatus _ _ => exact .inl rfl
  | prepareStart _ taken => exact .inr ⟨_, rfl, taken⟩
  | runtimeConnected _ taken => exact .inr ⟨_, rfl, taken⟩
  | safetyConnected _ _ => exact .inl rfl
  | safetyDisconnected _ _ => exact .inl rfl
  | runtimeDisconnected _ taken => exact .inr ⟨_, rfl, taken⟩
  | service _ taken => exact .inr ⟨_, rfl, taken⟩
  | safety _ _ => exact .inl rfl

theorem LinkedStep.sound {before after : Linked σ} {event : LinkedEvent}
    (step : LinkedStep environment before event after)
    (sound : Sound before.service) : Sound after.service := by
  rcases step.service_step with same | ⟨_, _, taken⟩
  · rw [same]
    exact sound
  · exact taken.sound sound

theorem linkedRun_service {before after : Service σ} {events : List ServiceEvent}
    (run : Run (ServiceStep environment) before events after)
    (ordinary : ∀ event ∈ events, event.ordinary = true) (linked : Linked σ) :
    Run (LinkedStep environment) { linked with service := before }
      (events.map .service) { linked with service := after } := by
  induction run with
  | nil service => exact .nil _
  | cons taken _ induction =>
      exact .cons (.service (ordinary _ (.head _)) taken)
        (induction fun event member => ordinary event (.tail _ member))

theorem linkedRun_safety {before after : ExecutionSafety.System}
    {events : List SafetyEvent} (run : Run SafetyStep before events after)
    (quiet : ∀ event ∈ events, event.isConnection = false) (linked : Linked σ) :
    Run (LinkedStep environment) { linked with safety := before }
      (events.map .safety) { linked with safety := after } := by
  induction run with
  | nil safety => exact .nil _
  | cons taken _ induction =>
      exact .cons (.safety (quiet _ (.head _)) taken)
        (induction fun event member => quiet event (.tail _ member))

end Steps

end Typxen.WifiService
