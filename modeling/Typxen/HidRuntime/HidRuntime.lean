import Typxen.WifiService.OneRun

/-! # The HID runtime

`typx_hid_runtime.c`: the flags of the runtime and the two calibration runs.
The interface `typx_hid_runtime_io_t` is always valid here; its entries and the
accesses to the flags are calls, one for each stretch of code between two
callbacks. -/

namespace Typxen.HidRuntime

open Interaction WifiService

/-- `typx_hid_error_t`. -/
inductive HidError
  | ok
  | disconnected
  | busy
  | invalidArgument
  | sendFailed
  | waitFailed
  | stopped
  deriving DecidableEq, Repr

/-! ## The flags -/

def typxHidRuntimeInit : HidRuntime := ⟨false, false, false⟩

def typxHidRuntimeSetConnected (runtime : HidRuntime) (connected : Bool) :
    HidRuntime :=
  if connected then
    { runtime with connected := true }
  else
    { connected := false, running := false, stopRequested := true }

def typxHidRuntimeRequestStop (runtime : HidRuntime) : HidRuntime :=
  { runtime with stopRequested := true }

def typxHidRuntimeIsIdle (runtime : HidRuntime) : Bool := !runtime.running

def typxHidRuntimeCanClearBonds (runtime : HidRuntime) : Bool :=
  typxHidRuntimeIsIdle runtime && !runtime.connected

/-! ## Calls -/

inductive HidCall
  /-- The tests of `begin_test`; where they succeed the runtime is taken and its
  stop flag cleared. -/
  | acquire
  /-- A read of the flags. -/
  | runtime
  /-- The entries of `typx_hid_runtime_io_t`. -/
  | sendReport (report : Vector UInt8 8)
  | waitMs (delayMs : UInt32)
  | countdown (secondsLeft : Nat)
  /-- `running` is cleared, by `finish_test` with the stop flag. -/
  | giveUp (clearStop : Bool)
  deriving DecidableEq, Repr

@[reducible] def HidCall.Answer : HidCall → Type
  | .acquire => HidError
  | .runtime => HidRuntime
  | .sendReport _ => Bool
  | .waitMs _ => Bool
  | .countdown _ => Unit
  | .giveUp _ => Unit

@[reducible] def hidCalls : Signature where
  Call := HidCall
  Answer := HidCall.Answer

abbrev Hid (α : Type) := Program hidCalls α

def Hid.call (request : HidCall) : Hid (HidCall.Answer request) :=
  Program.call (S := hidCalls) request

/-! ## Reports -/

def waitMs (delayMs : UInt32) : Hid HidError := do
  let runtime ← Hid.call .runtime
  if runtime.stopRequested || !runtime.connected then
    return if runtime.connected then .stopped else .disconnected
  else
    return if ← Hid.call (.waitMs delayMs) then .ok else .waitFailed

/-- Bytes 0 and 2 of the report. -/
def characterReport (character : Char) : Option (UInt8 × UInt8) :=
  if 'a' ≤ character ∧ character ≤ 'z' then
    some (0, UInt8.ofNat (4 + (character.toNat - 'a'.toNat)))
  else if 'A' ≤ character ∧ character ≤ 'Z' then
    some (0x02, UInt8.ofNat (4 + (character.toNat - 'A'.toNat)))
  else if '1' ≤ character ∧ character ≤ '9' then
    some (0, UInt8.ofNat (0x1e + (character.toNat - '1'.toNat)))
  else
    match character with
    | '0' => some (0, 0x27)
    | '!' => some (0x02, 0x1e)
    | '_' => some (0x02, 0x2d)
    | '\x7b' => some (0x02, 0x2f)
    | '\x7d' => some (0x02, 0x30)
    | _ => none

def typxHidKeyDown (modifier keycode : UInt8) : Hid HidError := do
  let runtime ← Hid.call .runtime
  if !runtime.connected then
    return .disconnected
  else
    let sent ← Hid.call (.sendReport #v[modifier, 0, keycode, 0, 0, 0, 0, 0])
    return if sent then .ok else .sendFailed

/-- The loop of `typx_hid_release_all` with `attempts` left. -/
def releaseAttempts : (attempts : Nat) → Hid HidError
  | 0 => return .sendFailed
  | attempts + 1 => do
      if ← Hid.call (.sendReport (Vector.replicate 8 0)) then
        return .ok
      else
        releaseAttempts attempts

def typxHidReleaseAll : Hid HidError := do
  let runtime ← Hid.call .runtime
  if !runtime.connected then
    return .disconnected
  else
    releaseAttempts 3

/-- The exit of `send_character` after a release. -/
def releaseAndReturn (error : HidError) : Hid HidError := do
  let _ ← typxHidReleaseAll
  return error

def sendCharacter (character : Char) (holdMs : UInt32) : Hid HidError := do
  match characterReport character with
  | none => return .invalidArgument
  | some (modifier, keycode) =>
      let error ← typxHidKeyDown modifier keycode
      if error != .ok then
        releaseAndReturn error
      else
        let error ← waitMs holdMs
        if error != .ok then
          releaseAndReturn error
        else
          let error ← typxHidReleaseAll
          if error != .ok then
            releaseAndReturn error
          else
            let error ← waitMs 60
            if error != .ok then
              releaseAndReturn error
            else
              return error

/-! ## Calibration runs -/

/-- The loop of `begin_test` with `secondsLeft` waits to go. -/
def countdownFrom : (secondsLeft : Nat) → Hid HidError
  | 0 => return .ok
  | secondsLeft + 1 => do
      Hid.call (.countdown (secondsLeft + 1))
      let error ← waitMs 1000
      if error != .ok then
        let _ ← typxHidReleaseAll
        Hid.call (.giveUp false)
        return error
      else
        countdownFrom secondsLeft

/-- `begin_test` once it has taken the runtime. -/
def beginTaken : Hid HidError := do
  let error ← typxHidReleaseAll
  if error != .ok then
    Hid.call (.giveUp false)
    return error
  else
    countdownFrom 5

def finishTest (error : HidError) : Hid HidError := do
  let releaseError ← typxHidReleaseAll
  Hid.call (.giveUp true)
  return if error == .ok && releaseError != .ok then releaseError else error

/-- The loop of the calibration runs. -/
def sendCharacters (holdMs : UInt32) : (characters : List Char) → Hid HidError
  | [] => finishTest .ok
  | character :: rest => do
      let runtime ← Hid.call .runtime
      if runtime.stopRequested || !runtime.connected then
        finishTest (if runtime.connected then .stopped else .disconnected)
      else
        let error ← sendCharacter character holdMs
        if error != .ok then
          finishTest error
        else
          sendCharacters holdMs rest

/-- `begin_test`, and the loop when it returns OK. -/
def runCharacters (holdMs : UInt32) (characters : List Char) : Hid HidError := do
  let acquired ← Hid.call .acquire
  if acquired != .ok then
    return acquired
  else
    let error ← beginTaken
    if error != .ok then
      return error
    else
      sendCharacters holdMs characters

def typxHidHoldSupported (holdMs : UInt32) : Bool :=
  holdMs == 8 || holdMs == 12 || holdMs == 16 || holdMs == 20 || holdMs == 30

def calibrationPattern : List Char :=
  "abcdefghijklmnopqrstuvwxyz0123456789".toList

/-- `TYPX_CALIBRATION_MAX_CHARACTERS`. -/
def calibrationMaxCharacters : UInt32 := 1080

def typxHidRunTest (holdMs characterCount : UInt32) : Hid HidError :=
  if !typxHidHoldSupported holdMs || characterCount == 0 ||
      characterCount > calibrationMaxCharacters then
    return .invalidArgument
  else
    runCharacters holdMs ((List.range characterCount.toNat).map fun index =>
      calibrationPattern[index % calibrationPattern.length]!)

def typxHidRunShiftTest (holdMs : UInt32) : Hid HidError :=
  if !typxHidHoldSupported holdMs then
    return .invalidArgument
  else
    runCharacters holdMs ['A', 'a', '!', '_', '\x7b', '\x7d']

/-! ## Answers -/

def taken (runtime : HidRuntime) : HidRuntime :=
  { runtime with running := true, stopRequested := false }

def givenUp (runtime : HidRuntime) (clearStop : Bool) : HidRuntime :=
  { runtime with
    running := false
    stopRequested := !clearStop && runtime.stopRequested }

/-- What the calls of a calibration run may answer, and what they change. -/
def hidEnvironment : Environment hidCalls HidRuntime
  | .acquire, before, answer, after =>
      answer = (if !before.connected then .disconnected
        else if before.running then .busy else .ok) ∧
        after = if answer = .ok then taken before else before
  | .runtime, before, answer, after => answer = before ∧ after = before
  | .sendReport _, before, answer, after =>
      (answer = true → before.connected = true) ∧ after = before
  | .waitMs delayMs, before, answer, after =>
      answer = (delayMs == 0 || before.goesOn) ∧ after = before
  | .countdown _, before, _, after => after = before
  | .giveUp clearStop, before, _, after => after = givenUp before clearStop

def runnerEnvironment : Environment taskCalls HidRuntime
  | .inl .stopRequested, before, answer, after =>
      answer = (before.stopRequested || !before.connected) ∧ after = before
  | .inl (.waitUs delayUs), before, answer, after =>
      answer = (delayUs == 0 || before.goesOn) ∧ after = before
  | .inl (.keyDown _ _), before, answer, after =>
      (answer = true → before.connected = true) ∧ after = before
  | .inl .releaseAll, before, answer, after =>
      (answer = true → before.connected = true) ∧ after = before
  | .inl _, before, _, after => after = before
  | .inr .acquire, before, answer, after =>
      answer = (before.connected && !before.running) ∧
        after = if before.connected && !before.running then taken before
          else before
  | .inr (.waitMs delayMs), before, answer, after =>
      answer = (delayMs == 0 || before.goesOn) ∧ after = before
  | .inr .stopFlag, before, answer, after =>
      answer = before.stopRequested ∧ after = before
  | .inr (.giveUp clearStop), before, _, after =>
      after = givenUp before clearStop
  | .inr _, before, _, after => after = before

/-! ## The runtime of the service -/

section Service

variable {σ : Type} {environment : Environment callbacks σ}

/-- The execution task treats `s_runtime` as a runner of its own does. -/
theorem taskEnvironment_runner {before after : Device σ}
    {request : taskCalls.Call} {answer : taskCalls.Answer request}
    (step : taskEnvironment environment request before answer after) :
    runnerEnvironment request before.runtime answer after.runtime := by
  cases request with
  | inl request =>
      have kept := (executor_device step).1
      cases request with
      | stopRequested => exact ⟨step.1, kept⟩
      | waitUs _ => exact ⟨step.1, kept⟩
      | keyDown _ _ => exact ⟨step.1, kept⟩
      | releaseAll => exact ⟨step.1, kept⟩
      | _ => exact kept
  | inr request =>
      cases request with
      | acquire =>
          refine ⟨step.1, ?_⟩
          rw [step.2]
          split <;> rfl
      | waitMs _ => exact ⟨step.1, congrArg Device.runtime step.2⟩
      | stopFlag => exact ⟨step.1, congrArg Device.runtime step.2⟩
      | _ =>
          rw [show after = _ from step]
          rfl

end Service

end Typxen.HidRuntime
