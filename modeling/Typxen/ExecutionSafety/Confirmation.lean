import Typxen.ExecutionSafety.SafetyRelease

/-! # Confirmed releases

What a history of the system must contain for its snapshot to be ready. -/

namespace Typxen.ExecutionSafety

open Exclusion Transition

/-! ## Histories -/

def SafetyEvent.slot : SafetyEvent → Option Nat
  | .connected => none
  | .disconnected => none
  | .authenticated _ => none
  | .retry => none
  | .schedule caller => some caller
  | .createTask caller _ => some caller
  | .abandonTask caller => some caller
  | .beginRelease task _ => some task
  | .sendKeyboard task _ => some task
  | .sendConsumer task _ => some task
  | .completeRelease task => some task
  | .leave task => some task

def Quiet (task : Nat) (event : SafetyEvent) : Prop :=
  event.slot ≠ some task ∧ event.resets = false

def Begun (task : Nat) : List SafetyEvent → Prop :=
  Since (Quiet task) (fun _ => True) (.beginRelease task true)

def KeyboardSent (task : Nat) (released : Bool) : List SafetyEvent → Prop :=
  Since (Quiet task) (Begun task) (.sendKeyboard task released)

def ConsumerSent (task : Nat) (keyboardReleased released : Bool) :
    List SafetyEvent → Prop :=
  Since (Quiet task) (KeyboardSent task keyboardReleased)
    (.sendConsumer task released)

/-- Some task began a release and sent both of its reports successfully, and
no connection or authentication event came after its beginning. -/
def ReleaseConfirmed (events : List SafetyEvent) : Prop :=
  ∃ task : Nat, Since (fun event => event.resets = false)
    (ConsumerSent task true true) (.completeRelease task) events

def Reported (task : Nat) (events : List SafetyEvent) : TaskPoint → Prop
  | .beginRelease => True
  | .keyboard => Begun task events
  | .consumer keyboardReleased => KeyboardSent task keyboardReleased events
  | .complete keyboardReleased consumerReleased =>
      ConsumerSent task keyboardReleased consumerReleased events
  | .leave => True

theorem Reported.later {task : Nat} {events : List SafetyEvent}
    {point : TaskPoint} {event : SafetyEvent} (reported : Reported task events point)
    (quiet : Quiet task event) : Reported task (events ++ [event]) point := by
  cases point with
  | beginRelease => trivial
  | keyboard => exact Since.later reported quiet
  | consumer _ => exact Since.later reported quiet
  | complete _ _ => exact Since.later reported quiet
  | leave => trivial

/-! ## What a step can do -/

section Steps

variable {before after : System} {event : SafetyEvent}

theorem SafetyStep.resets (step : SafetyStep before event after)
    (attached : Attached before.shared.safety) (resets : event.resets = true) :
    after.shared.safety.hidState ≠ .releasing ∧
      after.shared.safety.hidState ≠ .confirmed := by
  have authenticated (success : Bool) :
      (typxExecutionSafetyAuthenticated before.shared.safety success).hidState ≠
          .releasing ∧
        (typxExecutionSafetyAuthenticated before.shared.safety success).hidState ≠
          .confirmed := by
    rw [typxExecutionSafetyAuthenticated]
    split
    · rename_i disconnected
      rw [Bool.not_eq_true'] at disconnected
      constructor
      · intro state
        rw [(attached (.inl state)).1] at disconnected
        cases disconnected
      · intro state
        rw [(attached (.inr state)).1] at disconnected
        cases disconnected
    · cases success <;> simp
  cases step with
  | connected => simp [typxExecutionSafetyConnected]
  | disconnected => simp [typxExecutionSafetyDisconnected]
  | authenticationFailed => exact authenticated false
  | authenticated same _ =>
      rw [put_shared, withSafety_safety, same]
      exact authenticated true
  | _ => cases resets

theorem SafetyStep.sameGeneration (step : SafetyStep before event after)
    (quiet : event.resets = false) :
    after.shared.safety.connectionGeneration =
      before.shared.safety.connectionGeneration := by
  rw [step.generation, if_neg]
  intro connection
  cases event with
  | connected => cases quiet
  | disconnected => cases quiet
  | _ => cases connection

inductive HidMove (before : System) : SafetyEvent → HidSafetyState → Prop
  | kept {event : SafetyEvent} {state : HidSafetyState} :
      before.shared.safety.hidState = state → HidMove before event state
  | waits {event : SafetyEvent} : HidMove before event .waitingForReportPath
  | begins {task : Nat} :
      before.processes task =
        some (.task before.shared.safety.connectionGeneration .beginRelease) →
      HidMove before (.beginRelease task true) .releasing
  | confirms {task : Nat} :
      before.shared.safety.hidState = .releasing →
      before.processes task =
        some (.task before.shared.safety.connectionGeneration
          (.complete true true)) →
      HidMove before (.completeRelease task) .confirmed
  | fails {event : SafetyEvent} : HidMove before event .failedRetryable

theorem requestRetry_hidMove {next : Safety} {accepted : Bool}
    (result : typxExecutionSafetyRequestRetry before.shared.safety =
      (accepted, next)) :
    HidMove before event next.hidState := by
  by_cases waiting : next.hidState = .waitingForReportPath
  · rw [waiting]
    exact .waits
  · exact .kept (requestRetry_hidState result rfl waiting)

theorem SafetyStep.hidMove (step : SafetyStep before event after)
    (quiet : event.resets = false) :
    HidMove before event after.shared.safety.hidState := by
  cases step with
  | retryDone result _ => exact requestRetry_hidMove result
  | retry result _ _ => exact requestRetry_hidMove result
  | schedule _ =>
      rw [scheduleSafetyRelease_safety]
      exact .kept rfl
  | @beginRelease task generation _ _ here result =>
      rcases beginRelease_cases before.shared.safety generation with
        same | ⟨_, _, _, current, _, _, begun⟩
      · cases result.symm.trans same
        exact .kept rfl
      · cases result.symm.trans begun
        exact .begins (current ▸ here)
  | @completeRelease task generation keyboard consumer _ _ here result =>
      rcases completeRelease_cases before.shared.safety generation keyboard
        consumer with
        same | ⟨current, _, _, releasing, ⟨sent, also, done⟩ | ⟨_, _, failed⟩⟩
      · cases result.symm.trans same
        exact .kept rfl
      · cases result.symm.trans done
        rw [sent, also, current] at here
        exact .confirms releasing here
      · cases result.symm.trans failed
        exact .fails
  | connected => cases quiet
  | disconnected => cases quiet
  | authenticationFailed => cases quiet
  | authenticated _ _ => cases quiet
  | _ => exact .kept rfl

theorem SafetyStep.becomes_releasing (step : SafetyStep before event after)
    (quiet : event.resets = false)
    (state : after.shared.safety.hidState = .releasing) :
    before.shared.safety.hidState = .releasing ∨
      ∃ task : Nat, event = .beginRelease task true ∧
        before.processes task =
          some
            (.task before.shared.safety.connectionGeneration .beginRelease) := by
  have move := step.hidMove quiet
  rw [state] at move
  cases move with
  | kept same => exact .inl same
  | @begins task here => exact .inr ⟨task, rfl, here⟩

theorem SafetyStep.becomes_confirmed (step : SafetyStep before event after)
    (quiet : event.resets = false)
    (state : after.shared.safety.hidState = .confirmed) :
    before.shared.safety.hidState = .confirmed ∨
      ∃ task : Nat, event = .completeRelease task ∧
        before.shared.safety.hidState = .releasing ∧
        before.processes task =
          some (.task before.shared.safety.connectionGeneration
            (.complete true true)) := by
  have move := step.hidMove quiet
  rw [state] at move
  cases move with
  | kept same => exact .inl same
  | @confirms task releasing here => exact .inr ⟨task, rfl, releasing, here⟩

inductive TaskMove (before : System) (task : Nat) (generation : UInt32) :
    SafetyEvent → TaskPoint → Prop
  | elsewhere {event : SafetyEvent} {point : TaskPoint} :
      before.processes task = some (.task generation point) →
      event.slot ≠ some task →
      TaskMove before task generation event point
  | created {event : SafetyEvent} :
      TaskMove before task generation event .beginRelease
  | begun : TaskMove before task generation (.beginRelease task true) .keyboard
  | keyboard {released : Bool} :
      before.processes task = some (.task generation .keyboard) →
      TaskMove before task generation (.sendKeyboard task released)
        (.consumer released)
  | consumer {keyboardReleased released : Bool} :
      before.processes task =
        some (.task generation (.consumer keyboardReleased)) →
      TaskMove before task generation (.sendConsumer task released)
        (.complete keyboardReleased released)
  | completed {event : SafetyEvent} :
      TaskMove before task generation event .leave

theorem SafetyStep.taskMove (step : SafetyStep before event after) {task : Nat}
    {generation : UInt32} {point : TaskPoint}
    (here : after.processes task = some (.task generation point)) :
    TaskMove before task generation event point := by
  cases step with
  | connected => exact .elsewhere here nofun
  | disconnected => exact .elsewhere here nofun
  | authenticationFailed => exact .elsewhere here nofun
  | authenticated _ _ =>
      rcases put_cases here with ⟨_, equal⟩ | ⟨_, was⟩
      · cases equal
      · exact .elsewhere was nofun
  | retryDone _ _ => exact .elsewhere here nofun
  | retry _ _ _ =>
      rcases put_cases here with ⟨_, equal⟩ | ⟨_, was⟩
      · cases equal
      · exact .elsewhere was nofun
  | @schedule caller held _ =>
      have elsewhere : task ≠ caller ∧
          before.processes task = some (.task generation point) := by
        rw [scheduleSafetyRelease] at here
        split_ifs at here
        · exact drop_cases here
        · exact drop_cases here
        · rcases put_cases here with ⟨_, equal⟩ | other
          · cases equal
          · exact other
        · exact drop_cases here
      exact .elsewhere elsewhere.2 fun same =>
        elsewhere.1 (Option.some.inj same).symm
  | taskCreated _ =>
      rcases put_cases here with ⟨_, equal⟩ | ⟨other, was⟩
      · cases equal
        exact .created
      · exact .elsewhere was fun same => other (Option.some.inj same).symm
  | taskNotCreated _ =>
      rcases put_cases here with ⟨_, equal⟩ | ⟨other, was⟩
      · cases equal
      · exact .elsewhere was fun same => other (Option.some.inj same).symm
  | abandonTask _ =>
      rcases drop_cases here with ⟨other, was⟩
      exact .elsewhere was fun same => other (Option.some.inj same).symm
  | @beginRelease _ _ begun _ _ _ =>
      rcases put_cases here with ⟨same, equal⟩ | ⟨other, was⟩
      · rw [same]
        cases equal
        cases begun with
        | false => exact .completed
        | true => exact .begun
      · exact .elsewhere was fun same => other (Option.some.inj same).symm
  | sendKeyboard held =>
      rcases put_cases here with ⟨same, equal⟩ | ⟨other, was⟩
      · rw [same]
        cases equal
        exact .keyboard held
      · exact .elsewhere was fun same => other (Option.some.inj same).symm
  | sendConsumer held =>
      rcases put_cases here with ⟨same, equal⟩ | ⟨other, was⟩
      · rw [same]
        cases equal
        exact .consumer held
      · exact .elsewhere was fun same => other (Option.some.inj same).symm
  | completeRelease _ _ =>
      rcases put_cases here with ⟨_, equal⟩ | ⟨other, was⟩
      · cases equal
        rw [afterRelease]
        split_ifs
        · exact .completed
        · exact .completed
        · exact .created
      · exact .elsewhere was fun same => other (Option.some.inj same).symm
  | leave _ =>
      rcases drop_cases here with ⟨other, was⟩
      exact .elsewhere was fun same => other (Option.some.inj same).symm

end Steps

/-! ## The history of a run -/

structure Accounted (events : List SafetyEvent) (system : System) : Prop where
  reported : system.shared.safety.hidState = .releasing → ∀ task point,
    system.processes task =
      some (.task system.shared.safety.connectionGeneration point) →
    Reported task events point
  confirmed : system.shared.safety.hidState = .confirmed →
    ReleaseConfirmed events

theorem Accounted.step {events : List SafetyEvent} {before after : System}
    {event : SafetyEvent} (accounted : Accounted events before)
    (taken : Guarded Sound (fun _ => True) SafetyStep before event after) :
    Accounted (events ++ [event]) after := by
  have step := taken.taken
  cases resets : event.resets with
  | true =>
      have state := step.resets taken.holds.attached resets
      exact ⟨fun here => absurd here state.1, fun here => absurd here state.2⟩
  | false =>
      constructor
      · intro state task point here
        rw [step.sameGeneration resets] at here
        have was := step.becomes_releasing resets state
        cases step.taskMove here with
        | elsewhere there other =>
            rcases was with releasing | ⟨beginner, rfl, beginning⟩
            · exact (accounted.reported releasing task point there).later
                ⟨other, resets⟩
            · have same := taken.holds.single beginner task _ _ _ beginning rfl
                there rfl
              exact absurd (congrArg some same) other
        | created => trivial
        | begun => exact since_now trivial
        | keyboard there =>
            rcases was with releasing | ⟨_, equal, _⟩
            · exact since_now (accounted.reported releasing task _ there)
            · cases equal
        | consumer there =>
            rcases was with releasing | ⟨_, equal, _⟩
            · exact since_now (accounted.reported releasing task _ there)
            · cases equal
        | completed => trivial
      · intro state
        rcases step.becomes_confirmed resets state with
          confirmed | ⟨task, rfl, releasing, there⟩
        · rcases accounted.confirmed confirmed with ⟨task, since⟩
          exact ⟨task, since.later resets⟩
        · exact ⟨task, since_now (accounted.reported releasing task _ there)⟩

theorem accounted_initial (active : Option Bool) (cleared : Bool) :
    Accounted [] (initial active cleared) where
  reported _ task point here := by cases here
  confirmed state := by
    cases active with
    | none => cases state
    | some active => cases active <;> cases state

/-! ## Ready snapshots -/

/-- A snapshot is ready only after a genuine release on the current
authenticated connection, and completions of earlier connections do nothing. -/
theorem safetyRelease_confirmsGenuineReleases {active : Option Bool}
    {cleared : Bool} {events : List SafetyEvent} {after : System}
    (run : Run SafetyStep (initial active cleared) events after)
    (few : events.countP SafetyEvent.isConnection < 2 ^ 32 - 1) :
    ((typxExecutionSafetySnapshot after.shared.safety).ready = true →
      after.shared.safety.connected = true ∧
        after.shared.safety.authenticated = true ∧
        ReleaseConfirmed events) ∧
    ∀ (first second : List SafetyEvent) (earlier : System),
      events = first ++ second →
      Run SafetyStep (initial active cleared) first earlier →
      Run SafetyStep earlier second after →
      (∃ event ∈ second, event.isConnection = true) →
      ∀ keyboardReleased consumerReleased : Bool,
        typxExecutionSafetyCompleteRelease after.shared.safety
          earlier.shared.safety.connectionGeneration keyboardReleased
          consumerReleased = (false, after.shared.safety) := by
  have zero :
      (initial active cleared).shared.safety.connectionGeneration.toNat = 0 := by
    cases active with
    | none => rfl
    | some active => cases active <;> rfl
  have sound := sound_initial active cleared
  constructor
  · intro ready
    rcases snapshot_ready_iff.mp ready with ⟨connected, authenticated, confirmed⟩
    have guarded := (sound_run run (by omega) sound).1
    have accounted := guarded.history Accounted
      (fun _ _ _ _ past taken => past.step taken)
      (accounted_initial active cleared)
    exact ⟨connected, authenticated, accounted.confirmed confirmed⟩
  · intro first second earlier split start rest connection
    rw [split, List.countP_append] at few
    rcases sound_run start (by omega) sound with ⟨guarded, counted⟩
    have later := (sound_run rest (by omega) (guarded.still sound)).2
    have moved : 0 < second.countP SafetyEvent.isConnection := by
      rw [List.countP_pos_iff]
      exact connection
    apply completeRelease_stale
    intro same
    rw [← same] at later
    omega

def reconnection : List SafetyEvent :=
  [.connected, .disconnected, .connected, .authenticated true, .schedule 0,
    .createTask 0 true, .beginRelease 0 true, .sendKeyboard 0 true,
    .sendConsumer 0 true, .completeRelease 0]

def firstConnection : System :=
  (initial (some false) true).withSafety
    (typxExecutionSafetyConnected (initial (some false) true).shared.safety)

theorem safetyRelease_confirmsGenuineReleases_reconnection :
    ∃ after : System, Run SafetyStep (initial (some false) true) reconnection after ∧
      (typxExecutionSafetySnapshot after.shared.safety).ready = true ∧
      ReleaseConfirmed reconnection ∧
      typxExecutionSafetyCompleteRelease after.shared.safety
        firstConnection.shared.safety.connectionGeneration true true =
          (false, after.shared.safety) := by
  have start : Run SafetyStep (initial (some false) true) [.connected]
      firstConnection :=
    .cons .connected (.nil _)
  have rest : Run SafetyStep firstConnection
      [.disconnected, .connected, .authenticated true, .schedule 0,
        .createTask 0 true, .beginRelease 0 true, .sendKeyboard 0 true,
        .sendConsumer 0 true, .completeRelease 0] _ :=
    .cons .disconnected (.cons .connected (.cons (@SafetyStep.authenticated _ 0 _ rfl rfl)
      (.cons (.schedule rfl) (.cons (.taskCreated rfl)
        (.cons (@SafetyStep.beginRelease _ 0 3 _ _ rfl rfl) (.cons (.sendKeyboard rfl)
          (.cons (.sendConsumer rfl) (.cons (.completeRelease rfl rfl)
            (.nil _)))))))))
  have run : Run SafetyStep (initial (some false) true) reconnection _ :=
    run_append_iff.mpr ⟨_, start, rest⟩
  have result := safetyRelease_confirmsGenuineReleases run (by decide)
  refine ⟨_, run, rfl, (result.1 rfl).2.2, ?_⟩
  exact result.2 [.connected] _ _ rfl start rest
    ⟨.disconnected, by decide, rfl⟩ true true

end Typxen.ExecutionSafety
