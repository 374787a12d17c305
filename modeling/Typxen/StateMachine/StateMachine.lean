import Typxen.Foundation.Transition

/-! # The lifecycle state machine

`typx_state_machine.c`: the states of a board, the three flags that the caller
reports, and the operations that move it. The functions take the machine and
return it behind their result. -/

namespace Typxen.StateMachine

/-- `typx_state_t`. -/
inductive State
  | booting
  | wifiReady
  | bluetoothAdvertising
  | bluetoothConnected
  | receiving
  | verifying
  | ready
  | countdown
  | executing
  | completed
  | aborted
  | error
  deriving DecidableEq, Repr

/-- `typx_state_error_t`. -/
inductive StateError
  | ok
  | illegalTransition
  | jobIncomplete
  | jobNotVerified
  | hidNotConnected
  | releaseFailed
  deriving DecidableEq, Repr

/-- `typx_state_machine_t`. -/
structure Machine where
  state : State
  bluetoothConnected : Bool
  uploadComplete : Bool
  jobVerified : Bool
  deriving DecidableEq, Repr

def transitionAllowed (origin target : State) : Bool :=
  match origin with
  | .booting => target == .wifiReady || target == .error
  | .wifiReady =>
      target == .bluetoothAdvertising || target == .receiving ||
        target == .error
  | .bluetoothAdvertising =>
      target == .bluetoothConnected || target == .receiving || target == .error
  | .bluetoothConnected =>
      target == .receiving || target == .bluetoothAdvertising ||
        target == .error
  | .receiving =>
      target == .verifying || target == .wifiReady ||
        target == .bluetoothAdvertising || target == .bluetoothConnected ||
        target == .aborted || target == .error
  | .verifying => target == .ready || target == .aborted || target == .error
  | .ready =>
      target == .countdown || target == .receiving || target == .aborted ||
        target == .error
  | .countdown => target == .executing || target == .aborted || target == .error
  | .executing => target == .completed || target == .aborted || target == .error
  | .completed | .aborted =>
      target == .wifiReady || target == .bluetoothConnected || target == .error
  | .error =>
      target == .wifiReady || target == .bluetoothAdvertising ||
        target == .error

def typxStateMachineBoot : Machine where
  state := .booting
  bluetoothConnected := false
  uploadComplete := false
  jobVerified := false

def typxStateMachineSetBluetoothConnected (machine : Machine)
    (connected : Bool) : Machine :=
  { machine with bluetoothConnected := connected }

def typxStateMachineSetUploadComplete (machine : Machine) (complete : Bool) :
    Machine :=
  let machine := { machine with uploadComplete := complete }
  if !complete then { machine with jobVerified := false } else machine

def typxStateMachineTransition (machine : Machine) (next : State) :
    StateError × Machine :=
  if !transitionAllowed machine.state next then
    (.illegalTransition, machine)
  else if next == .ready then
    (.jobNotVerified, machine)
  else if next == .countdown || next == .completed || next == .aborted ||
      next == .error then
    (.illegalTransition, machine)
  else
    (.ok, { machine with state := next })

def typxStateMachineMarkReady (machine : Machine)
    (verificationSucceeded : Bool) : StateError × Machine :=
  if machine.state != .verifying then
    (.illegalTransition, machine)
  else if !machine.uploadComplete then
    (.jobIncomplete, machine)
  else if !verificationSucceeded then
    (.jobNotVerified, { machine with jobVerified := false })
  else
    (.ok, { machine with jobVerified := true, state := .ready })

def typxStateMachineStart (machine : Machine) : StateError × Machine :=
  if machine.state != .ready then
    (.illegalTransition, machine)
  else if !machine.jobVerified then
    (.jobNotVerified, machine)
  else if !machine.bluetoothConnected then
    (.hidNotConnected, machine)
  else
    (.ok, { machine with state := .countdown })

/-- `releaseAll` is what the release function returns, if one is given. -/
def typxStateMachineFinish (machine : Machine) (terminalState : State)
    (releaseAll : Option Bool) : StateError × Machine :=
  match releaseAll with
  | none => (.illegalTransition, machine)
  | some released =>
      if (terminalState != .completed && terminalState != .aborted &&
            terminalState != .error) ||
          !transitionAllowed machine.state terminalState then
        (.illegalTransition, machine)
      else
        (if released then .ok else .releaseFailed, { machine with
          state := if released then terminalState else .error
          jobVerified := false })

/-! ## Runs -/

inductive Operation
  | setBluetoothConnected (connected : Bool)
  | setUploadComplete (complete : Bool)
  | transition (next : State)
  | markReady (verificationSucceeded : Bool)
  | start
  | finish (terminalState : State) (releaseAll : Option Bool)
  deriving DecidableEq, Repr

/-- The setters return nothing. -/
def perform (machine : Machine) : Operation → Option StateError × Machine
  | .setBluetoothConnected connected =>
      (none, typxStateMachineSetBluetoothConnected machine connected)
  | .setUploadComplete complete =>
      (none, typxStateMachineSetUploadComplete machine complete)
  | .transition next =>
      let result := typxStateMachineTransition machine next
      (some result.1, result.2)
  | .markReady verificationSucceeded =>
      let result := typxStateMachineMarkReady machine verificationSucceeded
      (some result.1, result.2)
  | .start =>
      let result := typxStateMachineStart machine
      (some result.1, result.2)
  | .finish terminalState releaseAll =>
      let result := typxStateMachineFinish machine terminalState releaseAll
      (some result.1, result.2)

structure Event where
  operation : Operation
  returned : Option StateError
  deriving DecidableEq, Repr

def Step (before : Machine) (event : Event) (after : Machine) : Prop :=
  perform before event.operation = (event.returned, after)

instance (before : Machine) (event : Event) (after : Machine) :
    Decidable (Step before event after) :=
  inferInstanceAs (Decidable (_ = _))

def Event.accepted (operation : Operation) : Event := ⟨operation, some .ok⟩

def Event.called (operation : Operation) : Event := ⟨operation, none⟩

end Typxen.StateMachine
