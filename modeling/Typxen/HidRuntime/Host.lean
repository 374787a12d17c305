import Typxen.Foundation.Monitor
import Typxen.HidRuntime.HidRuntime

/-! # A host for the calibration runs

The runtime with what may happen to it while a callback runs, and the reports
that a run attempts. -/

namespace Typxen.HidRuntime

open Interaction WifiService

/-! ## The host -/

inductive Happening
  | stop
  | connected
  | disconnected
  deriving DecidableEq, Repr

def Happening.apply (runtime : HidRuntime) : Happening → HidRuntime
  | .stop => typxHidRuntimeRequestStop runtime
  | .connected => typxHidRuntimeSetConnected runtime true
  | .disconnected => typxHidRuntimeSetConnected runtime false

def Happening.Raises (happening : Happening) : Prop := happening ≠ .connected

/-- The runtime as a calibration run finds it; `raised` says whether a stop
request or a disconnect happened during the run. -/
structure Host where
  runtime : HidRuntime
  raised : Prop

def Host.happen (host : Host) (happenings : List Happening) : Host where
  runtime := happenings.foldl Happening.apply host.runtime
  raised := host.raised ∨ ∃ happening ∈ happenings, happening.Raises

/-- A callback answers as it likes, and anything may happen during it. -/
def Callbacked (before after : Host) : Prop :=
  ∃ happenings, after = before.happen happenings

def calibrationEnvironment : Environment hidCalls Host
  | .sendReport _, before, _, after => Callbacked before after
  | .waitMs _, before, _, after => Callbacked before after
  | .countdown _, before, _, after => Callbacked before after
  | request, before, answer, after =>
      hidEnvironment request before.runtime answer after.runtime ∧
        after.raised = before.raised

/-- The runtimes that `typx_hid_runtime_init` and the operations lead to. -/
inductive Initialised : HidRuntime → Prop
  | init : Initialised typxHidRuntimeInit
  | happened {runtime : HidRuntime} (happening : Happening) :
      Initialised runtime → Initialised (happening.apply runtime)
  | taken {runtime : HidRuntime} : runtime.connected = true →
      Initialised runtime → Initialised (taken runtime)
  | givenUp {runtime : HidRuntime} (clearStop : Bool) :
      Initialised runtime → Initialised (givenUp runtime clearStop)

theorem Initialised.connected {runtime : HidRuntime}
    (initialised : Initialised runtime) (running : runtime.running = true) :
    runtime.connected = true := by
  induction initialised with
  | init => cases running
  | happened happening _ induction =>
      cases happening with
      | stop => exact induction running
      | connected => rfl
      | disconnected => cases running
  | taken connected _ _ => exact connected
  | givenUp clearStop _ _ => cases running

/-! ## Reports -/

def allZero : Vector UInt8 8 := Vector.replicate 8 0

def keyReport (character : Char) : Vector UInt8 8 :=
  (characterReport character).elim allZero fun keys =>
    #v[keys.1, 0, keys.2, 0, 0, 0, 0, 0]

def Typable (character : Char) : Prop :=
  (characterReport character).isSome ∧ keyReport character ≠ allZero

instance (character : Char) : Decidable (Typable character) :=
  inferInstanceAs (Decidable (_ ∧ _))

def attempt (report : Vector UInt8 8) (answer : Bool) : Interaction.Event hidCalls :=
  ⟨.sendReport report, answer⟩

def IsReport (event : Interaction.Event hidCalls) : Prop :=
  ∃ report answer, event = attempt report answer

def IsKey (event : Interaction.Event hidCalls) : Prop :=
  ∃ report answer, report ≠ allZero ∧ event = attempt report answer

def keyAttempts (trace : Interaction.Trace hidCalls) :
    List (Vector UInt8 8 × Bool) :=
  trace.filterMap fun event =>
    match event with
    | ⟨.sendReport report, answer⟩ =>
        if report = allZero then none else some (report, answer)
    | _ => none

/-! ## Once the runtime is taken -/

def runTaken (holdMs : UInt32) (characters : List Char) : Hid HidError := do
  let error ← beginTaken
  if error != .ok then
    return error
  else
    sendCharacters holdMs characters

end Typxen.HidRuntime
