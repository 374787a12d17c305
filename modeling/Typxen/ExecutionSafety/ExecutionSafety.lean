import Mathlib.Data.UInt

/-! # Execution safety

`typx_execution_safety.c`: the automaton that says whether the host is known
to hold no key. Its functions take the record and return it with their result;
the marker callbacks appear as their answers. -/

namespace Typxen.ExecutionSafety

def releaseMaxAttempts : UInt32 := 6

/-- `typx_hid_safety_state_t`. -/
inductive HidSafetyState
  | disconnected
  | waitingForAuth
  | waitingForReportPath
  | releasing
  | confirmed
  | failedRetryable
  deriving DecidableEq, Repr

/-- `typx_hid_safety_error_t`. -/
inductive HidSafetyError
  | none
  | hidNotConnected
  | authPending
  | authFailed
  | reportPathPending
  | keyboardReportFailed
  | consumerReportFailed
  | reportsFailed
  deriving DecidableEq, Repr

/-- `typx_execution_safety_t`, without the marker interface. -/
structure Safety where
  interruptedReset : Bool
  connected : Bool
  authenticated : Bool
  hidState : HidSafetyState
  hidError : HidSafetyError
  releaseAttempts : UInt32
  connectionGeneration : UInt32
  deriving DecidableEq, Repr

/-- `typx_hid_safety_snapshot_t`. -/
structure Snapshot where
  connected : Bool
  authenticated : Bool
  ready : Bool
  state : HidSafetyState
  error : HidSafetyError
  attempts : UInt32
  generation : UInt32
  deriving DecidableEq, Repr

/-- `active` is what the marker's read returns, if it succeeds; `cleared` is
whether the write that clears a set marker succeeds. -/
def typxExecutionSafetyInit (active : Option Bool) (cleared : Bool) :
    Bool × Safety :=
  let safety : Safety := {
    interruptedReset := false
    connected := false
    authenticated := false
    hidState := .disconnected
    hidError := .hidNotConnected
    releaseAttempts := 0
    connectionGeneration := 0 }
  match active with
  | none => (false, safety)
  | some false => (true, safety)
  | some true => (cleared, { safety with interruptedReset := true })

/-- The generation counter skips zero when it wraps. -/
def nextGeneration (generation : UInt32) : UInt32 :=
  let generation := generation + 1
  if generation == 0 then generation + 1 else generation

def typxExecutionSafetyConnected (safety : Safety) : Safety :=
  { safety with
    connectionGeneration := nextGeneration safety.connectionGeneration
    connected := true
    authenticated := false
    releaseAttempts := 0
    hidState := .waitingForAuth
    hidError := .authPending }

def typxExecutionSafetyDisconnected (safety : Safety) : Safety :=
  { safety with
    connectionGeneration := nextGeneration safety.connectionGeneration
    connected := false
    authenticated := false
    releaseAttempts := 0
    hidState := .disconnected
    hidError := .hidNotConnected }

def typxExecutionSafetyAuthenticated (safety : Safety) (success : Bool) :
    Safety :=
  if !safety.connected then
    safety
  else
    { safety with
      authenticated := success
      releaseAttempts := 0
      hidState := if success then .waitingForReportPath else .failedRetryable
      hidError := if success then .reportPathPending else .authFailed }

def typxExecutionSafetyBeginRelease (safety : Safety) (generation : UInt32) :
    Bool × Safety :=
  if !safety.connected || !safety.authenticated || generation == 0 ||
      generation != safety.connectionGeneration ||
      safety.releaseAttempts ≥ releaseMaxAttempts ||
      (safety.hidState != .waitingForReportPath &&
        safety.hidState != .failedRetryable) then
    (false, safety)
  else
    (true, { safety with
      releaseAttempts := safety.releaseAttempts + 1
      hidState := .releasing })

def typxExecutionSafetyCompleteRelease (safety : Safety) (generation : UInt32)
    (keyboardReleased consumerReleased : Bool) : Bool × Safety :=
  if generation == 0 || generation != safety.connectionGeneration ||
      !safety.connected || !safety.authenticated ||
      safety.hidState != .releasing then
    (false, safety)
  else if keyboardReleased && consumerReleased then
    (true, { safety with hidState := .confirmed, hidError := .none })
  else
    (false, { safety with
      hidState := .failedRetryable
      hidError :=
        if !keyboardReleased && !consumerReleased then .reportsFailed
        else if !keyboardReleased then .keyboardReportFailed
        else .consumerReportFailed })

def typxExecutionSafetyRequestRetry (safety : Safety) : Bool × Safety :=
  if !safety.connected || !safety.authenticated ||
      safety.hidState == .releasing then
    (false, safety)
  else if safety.hidState == .confirmed then
    (true, safety)
  else
    (true, { safety with
      releaseAttempts := 0
      hidState := .waitingForReportPath
      hidError := .reportPathPending })

def typxExecutionSafetySnapshot (safety : Safety) : Snapshot where
  connected := safety.connected
  authenticated := safety.authenticated
  ready := safety.connected && safety.authenticated &&
    safety.hidState == .confirmed
  state := safety.hidState
  error := safety.hidError
  attempts := safety.releaseAttempts
  generation := safety.connectionGeneration

/-! ## What each function can do -/

section Outcomes

variable (safety : Safety) (generation : UInt32)

theorem nextGeneration_toNat {generation : UInt32}
    (room : generation.toNat + 1 < 2 ^ 32) :
    (nextGeneration generation).toNat = generation.toNat + 1 := by
  have next : (generation + 1).toNat = generation.toNat + 1 := by
    rw [UInt32.toNat_add, UInt32.toNat_one]
    omega
  have nonzero : generation + 1 ≠ 0 := by
    intro zero
    rw [zero] at next
    simp at next
  rw [nextGeneration]
  simp [nonzero, next]

theorem nextGeneration_ne_zero (generation : UInt32) :
    nextGeneration generation ≠ 0 := by
  rw [nextGeneration]
  split
  · rename_i wrapped
    rw [eq_of_beq wrapped]
    decide
  · rename_i other
    exact fun zero => other (by rw [zero]; rfl)

theorem snapshot_ready_iff {safety : Safety} :
    (typxExecutionSafetySnapshot safety).ready = true ↔
      safety.connected = true ∧ safety.authenticated = true ∧
        safety.hidState = .confirmed := by
  simp [typxExecutionSafetySnapshot, and_assoc]

theorem beginRelease_cases :
    typxExecutionSafetyBeginRelease safety generation = (false, safety) ∨
      safety.connected = true ∧ safety.authenticated = true ∧
        generation ≠ 0 ∧ generation = safety.connectionGeneration ∧
        safety.releaseAttempts < releaseMaxAttempts ∧
        (safety.hidState = .waitingForReportPath ∨
          safety.hidState = .failedRetryable) ∧
        typxExecutionSafetyBeginRelease safety generation =
          (true, { safety with
            releaseAttempts := safety.releaseAttempts + 1
            hidState := .releasing }) := by
  rw [typxExecutionSafetyBeginRelease]
  split
  · exact .inl rfl
  · rename_i admitted
    right
    simp only [Bool.or_eq_true, Bool.not_eq_true', beq_iff_eq, bne_iff_ne, ne_eq,
      decide_eq_true_eq, Bool.and_eq_true, not_or, not_and, not_not,
      Bool.not_eq_false, ge_iff_le, UInt32.not_le] at admitted
    rcases admitted with ⟨⟨⟨⟨⟨connected, auth⟩, nonzero⟩, same⟩, room⟩, state⟩
    exact ⟨connected, auth, nonzero, same, room,
      or_iff_not_imp_left.mpr state, rfl⟩

theorem completeRelease_cases (keyboardReleased consumerReleased : Bool) :
    typxExecutionSafetyCompleteRelease safety generation keyboardReleased
        consumerReleased = (false, safety) ∨
      generation = safety.connectionGeneration ∧ safety.connected = true ∧
        safety.authenticated = true ∧ safety.hidState = .releasing ∧
        (keyboardReleased = true ∧ consumerReleased = true ∧
            typxExecutionSafetyCompleteRelease safety generation
              keyboardReleased consumerReleased =
              (true, { safety with hidState := .confirmed, hidError := .none }) ∨
          ∃ error, error ≠ .none ∧
            typxExecutionSafetyCompleteRelease safety generation
              keyboardReleased consumerReleased =
              (false, { safety with
                hidState := .failedRetryable, hidError := error })) := by
  rw [typxExecutionSafetyCompleteRelease]
  split
  · exact .inl rfl
  · rename_i admitted
    right
    simp only [Bool.or_eq_true, Bool.not_eq_true', beq_iff_eq, bne_iff_ne, ne_eq,
      not_or, not_not, Bool.not_eq_false] at admitted
    rcases admitted with ⟨⟨⟨⟨nonzero, same⟩, connected⟩, auth⟩, state⟩
    refine ⟨same, connected, auth, state, ?_⟩
    split
    · rename_i released
      rw [Bool.and_eq_true] at released
      exact .inl ⟨released.1, released.2, rfl⟩
    · refine .inr ⟨_, ?_, rfl⟩
      split_ifs <;> simp

theorem beginRelease_stale {safety : Safety} {generation : UInt32}
    (stale : generation ≠ safety.connectionGeneration) :
    typxExecutionSafetyBeginRelease safety generation = (false, safety) := by
  rcases beginRelease_cases safety generation with
    unchanged | ⟨_, _, _, current, _⟩
  · exact unchanged
  · exact absurd current stale

theorem completeRelease_stale {safety : Safety} {generation : UInt32}
    (stale : generation ≠ safety.connectionGeneration)
    (keyboardReleased consumerReleased : Bool) :
    typxExecutionSafetyCompleteRelease safety generation keyboardReleased
      consumerReleased = (false, safety) := by
  rcases completeRelease_cases safety generation keyboardReleased
    consumerReleased with unchanged | ⟨current, _⟩
  · exact unchanged
  · exact absurd current stale

theorem requestRetry_cases :
    typxExecutionSafetyRequestRetry safety = (false, safety) ∨
      typxExecutionSafetyRequestRetry safety = (true, safety) ∧
        safety.hidState = .confirmed ∨
      safety.connected = true ∧ safety.authenticated = true ∧
        typxExecutionSafetyRequestRetry safety =
          (true, { safety with
            releaseAttempts := 0
            hidState := .waitingForReportPath
            hidError := .reportPathPending }) := by
  rw [typxExecutionSafetyRequestRetry]
  split
  · exact .inl rfl
  · rename_i admitted
    split
    · rename_i confirmed
      exact .inr (.inl ⟨rfl, by simpa using confirmed⟩)
    · simp only [Bool.or_eq_true, Bool.not_eq_true', not_or,
        Bool.not_eq_false] at admitted
      exact .inr (.inr ⟨admitted.1.1, admitted.1.2, rfl⟩)

theorem requestRetry_hidState {safety next : Safety} {accepted : Bool}
    {state : HidSafetyState}
    (result : typxExecutionSafetyRequestRetry safety = (accepted, next))
    (here : next.hidState = state) (other : state ≠ .waitingForReportPath) :
    safety.hidState = state := by
  rcases requestRetry_cases safety with
    refused | ⟨kept, _⟩ | ⟨_, _, again⟩
  · cases result.symm.trans refused
    exact here
  · cases result.symm.trans kept
    exact here
  · cases result.symm.trans again
    exact absurd here.symm other

def Attached (safety : Safety) : Prop :=
  safety.hidState = .releasing ∨ safety.hidState = .confirmed →
    safety.connected = true ∧ safety.authenticated = true

theorem init_attached (active : Option Bool) (cleared : Bool) :
    Attached (typxExecutionSafetyInit active cleared).2 := by
  intro state
  cases active with
  | none => simp [typxExecutionSafetyInit] at state
  | some active =>
      cases active <;> simp [typxExecutionSafetyInit] at state

theorem connected_attached : Attached (typxExecutionSafetyConnected safety) := by
  intro state
  simp [typxExecutionSafetyConnected] at state

theorem disconnected_attached :
    Attached (typxExecutionSafetyDisconnected safety) := by
  intro state
  simp [typxExecutionSafetyDisconnected] at state

theorem authenticated_attached (success : Bool) (attached : Attached safety) :
    Attached (typxExecutionSafetyAuthenticated safety success) := by
  rw [typxExecutionSafetyAuthenticated]
  split
  · exact attached
  · intro state
    cases success <;> simp at state

theorem beginRelease_attached (attached : Attached safety) :
    Attached (typxExecutionSafetyBeginRelease safety generation).2 := by
  rcases beginRelease_cases safety generation with
    same | ⟨connected, auth, _, _, _, _, begun⟩
  · rw [same]
    exact attached
  · rw [begun]
    exact fun _ => ⟨connected, auth⟩

theorem completeRelease_attached (keyboardReleased consumerReleased : Bool)
    (attached : Attached safety) :
    Attached (typxExecutionSafetyCompleteRelease safety generation
      keyboardReleased consumerReleased).2 := by
  rcases completeRelease_cases safety generation keyboardReleased
    consumerReleased with
    same | ⟨_, connected, auth, _, ⟨_, _, confirmed⟩ | ⟨_, _, failed⟩⟩
  · rw [same]
    exact attached
  · rw [confirmed]
    exact fun _ => ⟨connected, auth⟩
  · rw [failed]
    exact fun _ => ⟨connected, auth⟩

theorem requestRetry_attached (attached : Attached safety) :
    Attached (typxExecutionSafetyRequestRetry safety).2 := by
  rcases requestRetry_cases safety with
    refused | ⟨kept, _⟩ | ⟨connected, auth, again⟩
  · rw [refused]
    exact attached
  · rw [kept]
    exact attached
  · rw [again]
    exact fun _ => ⟨connected, auth⟩

theorem beginRelease_generation :
    (typxExecutionSafetyBeginRelease safety generation).2.connectionGeneration =
      safety.connectionGeneration := by
  rcases beginRelease_cases safety generation with
    same | ⟨_, _, _, _, _, _, begun⟩
  · rw [same]
  · rw [begun]

theorem completeRelease_generation (keyboardReleased consumerReleased : Bool) :
    (typxExecutionSafetyCompleteRelease safety generation keyboardReleased
      consumerReleased).2.connectionGeneration =
      safety.connectionGeneration := by
  rcases completeRelease_cases safety generation keyboardReleased
    consumerReleased with
    same | ⟨_, _, _, _, ⟨_, _, confirmed⟩ | ⟨_, _, failed⟩⟩
  · rw [same]
  · rw [confirmed]
  · rw [failed]

theorem requestRetry_generation :
    (typxExecutionSafetyRequestRetry safety).2.connectionGeneration =
      safety.connectionGeneration := by
  rcases requestRetry_cases safety with refused | ⟨kept, _⟩ | ⟨_, _, again⟩
  · rw [refused]
  · rw [kept]
  · rw [again]

theorem authenticated_generation (success : Bool) :
    (typxExecutionSafetyAuthenticated safety success).connectionGeneration =
      safety.connectionGeneration := by
  rw [typxExecutionSafetyAuthenticated]
  split <;> rfl

end Outcomes

end Typxen.ExecutionSafety
