import Typxen.ExecutionSafety.ExecutionSafety
import Typxen.WifiService.OneRun

/-! # The execution marker

The board with its stored marker: it may lose power after any step, and boots
through `typx_ble_hid_init` and `typx_wifi_service_init`. A write of the marker
succeeds or leaves it as it is. -/

namespace Typxen.WifiService

open Interaction Protocol WifiUpload Transition ExecutionSafety

/-! ## The board -/

inductive Power (σ : Type)
  | off
  /-- `typx_execution_safety_init` is to read the marker. -/
  | reading
  /-- It found the marker active and is to clear it. -/
  | clearing
  /-- It returned false, on which `app_main` aborts. -/
  | failed
  /-- It returned true; `typx_wifi_service_init` is next. -/
  | initialized (safety : Safety)
  /-- `rollback` while `start_handler` is to clear the marker of a START that
  it takes back. -/
  | on (service : Service σ) (rollback : Bool)

structure Board (σ : Type) where
  /-- What the key `active` of `typx_exec` says. -/
  marker : Bool
  power : Power σ

def unpowered {σ : Type} (marker : Bool) : Board σ := ⟨marker, .off⟩

inductive BoardEvent
  | crash
  | powerOn
  | readMarker (active : Option Bool)
  | clearMarker (cleared : Bool)
  | serviceInit
  | service (event : ServiceEvent)
  /-- `typx_ble_hid_mark_execution_terminal` in `start_handler`. -/
  | rollback (written : Bool)

section Steps

variable {σ : Type}

/-- The outcome of `typx_execution_safety_init`. -/
def safetyInitialized (active : Option Bool) (cleared : Bool) : Power σ :=
  let (initialized, safety) := typxExecutionSafetyInit active cleared
  if initialized then .initialized safety else .failed

/-- `typx_wifi_service_init` up to the start of the server. The staging
partition may hold anything. -/
def typxWifiServiceInit (world : σ) (safety : Safety) : Service σ :=
  if safety.interruptedReset then
    { boot world with
      toDevice := (boot world).withUpload
        (typxWifiUploadMarkInterruptedReset (boot world).upload) }
  else
    boot world

def markerAfter (marker : Bool) : ServiceEvent → Bool
  | .markActive true => true
  | .execute ⟨.inr .markTerminal, true⟩ => false
  | _ => marker

/-- The failures on which `start_handler` clears the marker again. -/
def ServiceEvent.rollsBack : ServiceEvent → Bool
  | .createTask created => !created
  | .respond sent => !sent
  | _ => false

inductive BoardStep (environment : Environment callbacks σ) :
    Board σ → BoardEvent → Board σ → Prop
  | crash {before : Board σ} :
      BoardStep environment before .crash { before with power := .off }
  | powerOn {before : Board σ} : before.power = .off →
      BoardStep environment before .powerOn { before with power := .reading }
  | readMarker {before : Board σ} {active : Option Bool} :
      before.power = .reading → active = none ∨ active = some before.marker →
      BoardStep environment before (.readMarker active)
        { before with
          power := if active = some true then .clearing
            else safetyInitialized active true }
  | clearMarker {before : Board σ} {cleared : Bool} :
      before.power = .clearing →
      BoardStep environment before (.clearMarker cleared)
        { marker := !cleared && before.marker
          power := safetyInitialized (some true) cleared }
  | serviceInit {before : Board σ} {safety : Safety} (world : σ) :
      before.power = .initialized safety →
      BoardStep environment before .serviceInit
        { before with power := .on (typxWifiServiceInit world safety) false }
  | service {before : Board σ} {service next : Service σ} {rollback : Bool}
      {event : ServiceEvent} :
      before.power = .on service rollback →
      (event = .startFailed → rollback = false) →
      ServiceStep environment service event next →
      BoardStep environment before (.service event)
        { marker := markerAfter before.marker event
          power := .on next (rollback || event.rollsBack) }
  | rollback {before : Board σ} {service : Service σ} (written : Bool) :
      before.power = .on service true →
      BoardStep environment before (.rollback written)
        { marker := !written && before.marker
          power := .on service false }

end Steps

/-! ## Tasks that may press a key -/

inductive MayPress : Task Unit → Prop
  | now {modifier keycode : UInt8} {next : Bool → Task Unit} :
      MayPress (.ask (.inl (.keyDown modifier keycode)) next)
  | later {request : taskCalls.Call}
      {next : taskCalls.Answer request → Task Unit}
      (answer : taskCalls.Answer request) :
      MayPress (next answer) → MayPress (.ask request next)

def TaskPhase.unfinished : TaskPhase → Bool
  | .unacquired => true
  | .acquired _ => true
  | _ => false

theorem TaskMonitor.finished {phase middle : TaskPhase}
    {event : Interaction.Event taskCalls}
    (rule : TaskMonitor phase event middle)
    (finished : phase.unfinished = false) :
    middle.unfinished = false ∧ ∃ request, event.call = .inr request := by
  cases rule with
  | markTerminal _ => exact ⟨rfl, _, rfl⟩
  | complete _ _ => exact ⟨rfl, _, rfl⟩
  | _ => cases finished

theorem MayPress.unfinished {task : Task Unit} (presses : MayPress task)
    {phase : TaskPhase} (follows : Follows task phase) :
    phase.unfinished = true := by
  by_contra finished
  rw [Bool.not_eq_true] at finished
  induction presses generalizing phase with
  | now =>
      rcases follows true with ⟨middle, rule, _⟩
      rcases (rule.finished finished).2 with ⟨_, equal⟩
      cases equal
  | later answer _ induction =>
      rcases follows answer with ⟨middle, rule, rest⟩
      exact induction rest (rule.finished finished).1

end Typxen.WifiService
