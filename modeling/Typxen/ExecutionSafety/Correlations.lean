import Typxen.ExecutionSafety.ExecutionSafety

/-! # What the fields of the automaton say of each other

The operations rewrite the record piecemeal and come in any order, with stale
generations too. Its fields stay correlated nevertheless. -/

namespace Typxen.ExecutionSafety

inductive SafetyOp
  | connected
  | disconnected
  | authenticated (success : Bool)
  | beginRelease (generation : UInt32)
  | completeRelease (generation : UInt32)
      (keyboardReleased consumerReleased : Bool)
  | requestRetry
  deriving DecidableEq, Repr

def Safety.perform (safety : Safety) : SafetyOp → Safety
  | .connected => typxExecutionSafetyConnected safety
  | .disconnected => typxExecutionSafetyDisconnected safety
  | .authenticated success => typxExecutionSafetyAuthenticated safety success
  | .beginRelease generation =>
      (typxExecutionSafetyBeginRelease safety generation).2
  | .completeRelease generation keyboardReleased consumerReleased =>
      (typxExecutionSafetyCompleteRelease safety generation keyboardReleased
        consumerReleased).2
  | .requestRetry => (typxExecutionSafetyRequestRetry safety).2

def Safety.performAll (safety : Safety) (ops : List SafetyOp) : Safety :=
  ops.foldl Safety.perform safety

def SafetyOp.isConnection : SafetyOp → Bool
  | .connected => true
  | .disconnected => true
  | _ => false

structure Correlated (safety : Safety) : Prop where
  disconnected : safety.hidState = .disconnected ↔ safety.connected = false
  unauthenticated : safety.hidState = .waitingForAuth →
    safety.authenticated = false
  attached : safety.hidState = .waitingForReportPath ∨
      safety.hidState = .releasing ∨ safety.hidState = .confirmed →
    safety.connected = true ∧ safety.authenticated = true
  error : safety.hidError = .none ↔ safety.hidState = .confirmed
  authFailed : safety.hidState = .failedRetryable →
    safety.authenticated = false → safety.hidError = .authFailed
  attempts : safety.releaseAttempts ≤ releaseMaxAttempts
  attempted : safety.hidState = .releasing ∨ safety.hidState = .confirmed →
    1 ≤ safety.releaseAttempts

def Numbered (safety : Safety) : Prop := safety.connectionGeneration ≠ 0

section Steps

variable {safety : Safety}

theorem init_correlated (active : Option Bool) (cleared : Bool) :
    Correlated (typxExecutionSafetyInit active cleared).2 := by
  rcases active with _ | _ | _ <;>
    constructor <;> simp [typxExecutionSafetyInit]

theorem connected_correlated (safety : Safety) :
    Correlated (typxExecutionSafetyConnected safety) := by
  constructor <;> simp [typxExecutionSafetyConnected]

theorem disconnected_correlated (safety : Safety) :
    Correlated (typxExecutionSafetyDisconnected safety) := by
  constructor <;> simp [typxExecutionSafetyDisconnected]

theorem authenticated_correlated (success : Bool)
    (correlated : Correlated safety) :
    Correlated (typxExecutionSafetyAuthenticated safety success) := by
  rw [typxExecutionSafetyAuthenticated]
  split
  · exact correlated
  · rename_i connected
    have here : safety.connected = true := by simpa using connected
    cases success <;> constructor <;> simp [here]

theorem attempt_bounds {attempts : UInt32} (room : attempts < releaseMaxAttempts) :
    attempts + 1 ≤ releaseMaxAttempts ∧ 1 ≤ attempts + 1 := by
  have small := UInt32.lt_iff_toNat_lt.mp room
  change attempts.toNat < 6 at small
  have next : (attempts + 1).toNat = attempts.toNat + 1 := by
    rw [UInt32.toNat_add, UInt32.toNat_one]
    omega
  rw [UInt32.le_iff_toNat_le, UInt32.le_iff_toNat_le, next]
  change attempts.toNat + 1 ≤ 6 ∧ 1 ≤ attempts.toNat + 1
  omega

theorem beginRelease_correlated (generation : UInt32)
    (correlated : Correlated safety) :
    Correlated (typxExecutionSafetyBeginRelease safety generation).2 := by
  rcases beginRelease_cases safety generation with
    same | ⟨connected, auth, _, _, room, state, begun⟩
  · rw [same]
    exact correlated
  · rw [begun]
    have unconfirmed : safety.hidError ≠ .none := by
      intro none
      have confirmed := correlated.error.mp none
      rw [confirmed] at state
      simp at state
    exact {
      disconnected := by simp [connected]
      unauthenticated := by simp
      attached := fun _ => ⟨connected, auth⟩
      error := by simpa using unconfirmed
      authFailed := by simp
      attempts := (attempt_bounds room).1
      attempted := fun _ => (attempt_bounds room).2 }

theorem completeRelease_correlated (generation : UInt32)
    (keyboardReleased consumerReleased : Bool)
    (correlated : Correlated safety) :
    Correlated (typxExecutionSafetyCompleteRelease safety generation
      keyboardReleased consumerReleased).2 := by
  rcases completeRelease_cases safety generation keyboardReleased
    consumerReleased with
    same | ⟨_, connected, auth, state, ⟨_, _, confirmed⟩ | ⟨error, failure, failed⟩⟩
  · rw [same]
    exact correlated
  · rw [confirmed]
    exact {
      disconnected := by simp [connected]
      unauthenticated := by simp
      attached := fun _ => ⟨connected, auth⟩
      error := by simp
      authFailed := by simp
      attempts := correlated.attempts
      attempted := fun _ => correlated.attempted (.inl state) }
  · rw [failed]
    exact {
      disconnected := by simp [connected]
      unauthenticated := by simp
      attached := by simp
      error := by simpa using failure
      authFailed := by simp [auth]
      attempts := correlated.attempts
      attempted := by simp }

theorem requestRetry_correlated (correlated : Correlated safety) :
    Correlated (typxExecutionSafetyRequestRetry safety).2 := by
  rcases requestRetry_cases safety with
    refused | ⟨kept, _⟩ | ⟨connected, auth, again⟩
  · rw [refused]
    exact correlated
  · rw [kept]
    exact correlated
  · rw [again]
    constructor <;> simp [connected, auth]

theorem perform_correlated (op : SafetyOp) (correlated : Correlated safety) :
    Correlated (safety.perform op) := by
  cases op with
  | connected => exact connected_correlated safety
  | disconnected => exact disconnected_correlated safety
  | authenticated success => exact authenticated_correlated success correlated
  | beginRelease generation =>
      exact beginRelease_correlated generation correlated
  | completeRelease generation keyboardReleased consumerReleased =>
      exact completeRelease_correlated generation keyboardReleased
        consumerReleased correlated
  | requestRetry => exact requestRetry_correlated correlated

theorem perform_generation (safety : Safety) (op : SafetyOp) :
    (safety.perform op).connectionGeneration =
      if op.isConnection then nextGeneration safety.connectionGeneration
      else safety.connectionGeneration := by
  cases op with
  | connected => rfl
  | disconnected => rfl
  | authenticated success => exact authenticated_generation safety success
  | beginRelease generation => exact beginRelease_generation safety generation
  | completeRelease generation keyboardReleased consumerReleased =>
      exact completeRelease_generation safety generation keyboardReleased
        consumerReleased
  | requestRetry => exact requestRetry_generation safety

theorem perform_numbered {op : SafetyOp}
    (known : Numbered safety ∨ op.isConnection = true) :
    Numbered (safety.perform op) := by
  rw [Numbered, perform_generation]
  split
  · exact nextGeneration_ne_zero _
  · rename_i other
    exact known.resolve_right other

end Steps

/-! ## Runs -/

theorem performAll_correlated {safety : Safety} (ops : List SafetyOp)
    (correlated : Correlated safety) : Correlated (safety.performAll ops) := by
  induction ops generalizing safety with
  | nil => exact correlated
  | cons op ops induction => exact induction (perform_correlated op correlated)

theorem performAll_numbered {safety : Safety} {ops : List SafetyOp}
    (known : Numbered safety ∨ ∃ op ∈ ops, op.isConnection = true) :
    Numbered (safety.performAll ops) := by
  induction ops generalizing safety with
  | nil =>
      rcases known with numbered | ⟨op, member, _⟩
      · exact numbered
      · cases member
  | cons op ops induction =>
      apply induction
      rcases known with numbered | ⟨other, member, connection⟩
      · exact .inl (perform_numbered (.inl numbered))
      · rcases List.mem_cons.mp member with same | later
        · exact .inl (perform_numbered (.inr (same ▸ connection)))
        · exact .inr ⟨other, later, connection⟩

/-- In every state that the operations reach the fields are correlated, the
generation is not zero once there was a connection, and calls for another
generation do nothing. -/
theorem executionSafety_correlated {active : Option Bool} {cleared : Bool}
    {safety : Safety}
    (initialised : typxExecutionSafetyInit active cleared = (true, safety))
    (ops : List SafetyOp) :
    Correlated (safety.performAll ops) ∧
    ((∃ op ∈ ops, op.isConnection = true) →
      (safety.performAll ops).connectionGeneration ≠ 0) ∧
    ∀ generation, generation ≠ (safety.performAll ops).connectionGeneration →
      typxExecutionSafetyBeginRelease (safety.performAll ops) generation =
        (false, safety.performAll ops) ∧
      ∀ keyboardReleased consumerReleased,
        typxExecutionSafetyCompleteRelease (safety.performAll ops) generation
          keyboardReleased consumerReleased =
          (false, safety.performAll ops) := by
  have start := init_correlated active cleared
  rw [initialised] at start
  refine ⟨performAll_correlated ops start, ?_, ?_⟩
  · exact fun connection => performAll_numbered (.inr connection)
  · exact fun _ stale =>
      ⟨beginRelease_stale stale, completeRelease_stale stale⟩

theorem executionSafety_correlated_confirmed :
    Correlated ((typxExecutionSafetyInit (some true) true).2.performAll
      [.connected, .authenticated true, .beginRelease 1,
        .completeRelease 1 true true]) :=
  (@executionSafety_correlated (some true) true _ rfl
    [.connected, .authenticated true, .beginRelease 1,
      .completeRelease 1 true true]).1

end Typxen.ExecutionSafety
