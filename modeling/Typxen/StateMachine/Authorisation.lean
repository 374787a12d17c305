import Typxen.StateMachine.StateMachine

/-! # What authorises an execution

A job becomes READY on the flag that its upload is complete, and an execution
begins on the two flags that START looked at. The machine clears neither flag
when it enters RECEIVING and looks at neither when the countdown ends, so what
they authorise is current as long as its caller takes care of both. -/

namespace Typxen.StateMachine

open Transition

/-! ## Steps -/

inductive Move (machine : Machine) : Event → Machine → Prop
  | bluetooth (connected : Bool) :
      Move machine (.called (.setBluetoothConnected connected))
        { machine with bluetoothConnected := connected }
  | complete :
      Move machine (.called (.setUploadComplete true))
        { machine with uploadComplete := true }
  | incomplete :
      Move machine (.called (.setUploadComplete false))
        { machine with uploadComplete := false, jobVerified := false }
  | moved {next : State} (allowed : transitionAllowed machine.state next)
      (other : next ≠ .countdown) :
      Move machine (.accepted (.transition next)) { machine with state := next }
  | promoted (verifying : machine.state = .verifying)
      (uploaded : machine.uploadComplete = true) :
      Move machine (.accepted (.markReady true))
        { machine with jobVerified := true, state := .ready }
  | unverified (verifying : machine.state = .verifying) :
      Move machine ⟨.markReady false, some .jobNotVerified⟩
        { machine with jobVerified := false }
  | started (verified : machine.jobVerified = true)
      (connected : machine.bluetoothConnected = true) :
      Move machine (.accepted .start) { machine with state := .countdown }
  | finished {terminalState state : State} {released : Bool}
      {error : StateError}
      (closed : state = .completed ∨ state = .aborted ∨ state = .error) :
      Move machine ⟨.finish terminalState (some released), some error⟩
        { machine with state := state, jobVerified := false }
  | refused {operation : Operation} {error : StateError}
      (failed : error ≠ .ok) :
      Move machine ⟨operation, some error⟩ machine

theorem Step.move {before after : Machine} {event : Event}
    (step : Step before event after) : Move before event after := by
  rcases event with ⟨operation, returned⟩
  rw [Step] at step
  cases operation with
  | setBluetoothConnected connected =>
      cases step
      exact .bluetooth connected
  | setUploadComplete complete =>
      cases complete <;> cases step
      · exact .incomplete
      · exact .complete
  | transition next =>
      simp only [perform, typxStateMachineTransition] at step
      split_ifs at step with refused ready other <;> cases step
      · exact .refused nofun
      · exact .refused nofun
      · exact .refused nofun
      · apply Move.moved
        · simpa using refused
        · intro countdown
          simp [countdown] at other
  | markReady verificationSucceeded =>
      simp only [perform, typxStateMachineMarkReady] at step
      split_ifs at step with elsewhere incomplete failed <;> cases step
      · exact .refused nofun
      · exact .refused nofun
      · rw [Bool.not_eq_true'] at failed
        subst failed
        exact .unverified (by simpa using elsewhere)
      · simp only [Bool.not_eq_true', Bool.not_eq_false] at failed incomplete
        subst failed
        exact .promoted (by simpa using elsewhere) incomplete
  | start =>
      simp only [perform, typxStateMachineStart] at step
      split_ifs at step with elsewhere unverified disconnected <;> cases step
      · exact .refused nofun
      · exact .refused nofun
      · exact .refused nofun
      · exact .started (by simpa using unverified) (by simpa using disconnected)
  | finish terminalState releaseAll =>
      cases releaseAll with
      | none =>
          cases step
          exact .refused nofun
      | some released =>
          simp only [perform, typxStateMachineFinish] at step
          split_ifs at step with refused good <;> cases step
          · exact .refused nofun
          · simp only [Bool.or_eq_true, Bool.and_eq_true, bne_iff_ne, ne_eq]
              at refused
            apply Move.finished
            tauto
          · exact .finished (.inr (.inr rfl))

theorem transitionAllowed_verifying {origin : State}
    (allowed : transitionAllowed origin .verifying) : origin = .receiving := by
  cases origin <;> first | rfl | cases allowed

theorem transitionAllowed_executing {origin : State}
    (allowed : transitionAllowed origin .executing) : origin = .countdown := by
  cases origin <;> first | rfl | cases allowed

theorem Step.executing {before after : Machine}
    (step : Step before (.accepted (.transition .executing)) after) :
    before.state = .countdown := by
  cases step.move with
  | moved allowed => exact transitionAllowed_executing allowed
  | refused failed => exact absurd rfl failed

/-! ## Authority -/

def entersReceiving : Event := .accepted (.transition .receiving)

/-- The upload was declared complete after the last entry into RECEIVING. -/
def Uploaded (past : List Event) : Prop :=
  Since (· ≠ entersReceiving) (fun _ => True) (.called (.setUploadComplete true))
    past

structure Authorised (past : List Event) (machine : Machine) (event : Event) :
    Prop where
  uploaded : event = .accepted (.markReady true) → Uploaded past
  connected : event = .accepted (.transition .executing) →
    machine.bluetoothConnected = true
  verified : event = .accepted (.transition .executing) →
    machine.jobVerified = true

def AlwaysAuthorised (history : List Event) : Prop :=
  ∀ past event later machine, history = past ++ event :: later →
    Run Step typxStateMachineBoot past machine → Authorised past machine event

/-- The upload flag is clear when RECEIVING is entered, and neither flag is
withdrawn during a countdown. -/
structure Careful (machine : Machine) (event : Event) : Prop where
  cleared : event = entersReceiving → machine.uploadComplete = false
  connected : machine.state = .countdown →
    event ≠ .called (.setBluetoothConnected false)
  verified : machine.state = .countdown →
    event ≠ .called (.setUploadComplete false)

instance (machine : Machine) (event : Event) :
    Decidable (Careful machine event) :=
  decidable_of_iff
    ((event = entersReceiving → machine.uploadComplete = false) ∧
      (machine.state = .countdown →
        event ≠ .called (.setBluetoothConnected false)) ∧
      (machine.state = .countdown →
        event ≠ .called (.setUploadComplete false)))
    ⟨fun parts => ⟨parts.1, parts.2.1, parts.2.2⟩,
      fun careful => ⟨careful.cleared, careful.connected, careful.verified⟩⟩

def CarefulStep (before : Machine) (event : Event) (after : Machine) : Prop :=
  Step before event after ∧ Careful before event

/-! ## Careful runs -/

theorem step_deterministic (before : Machine) (event : Event)
    (after other : Machine) (step : Step before event after)
    (twin : Step before event other) : other = after :=
  (Prod.mk.inj (twin.symm.trans step)).2

structure Sound (past : List Event) (machine : Machine) : Prop where
  uploaded : machine.state = .receiving ∨ machine.state = .verifying →
    machine.uploadComplete = true → Uploaded past
  connected : machine.state = .countdown → machine.bluetoothConnected = true
  verified : machine.state = .countdown → machine.jobVerified = true

theorem boot_sound : Sound [] typxStateMachineBoot where
  uploaded := nofun
  connected := nofun
  verified := nofun

section Step

variable {past : List Event} {before after : Machine} {event : Event}

theorem Sound.step (sound : Sound past before) (step : Step before event after)
    (careful : Careful before event) : Sound (past ++ [event]) after := by
  have still : event ≠ entersReceiving → Uploaded past →
      Uploaded (past ++ [event]) := fun other since => Since.later since other
  cases step.move with
  | bluetooth connected =>
      exact {
        uploaded := fun here complete =>
          still nofun (sound.uploaded here complete)
        connected := by
          intro here
          cases connected with
          | false => exact absurd rfl (careful.connected here)
          | true => rfl
        verified := sound.verified }
  | complete =>
      exact {
        uploaded := fun _ _ => since_now trivial
        connected := sound.connected
        verified := sound.verified }
  | incomplete =>
      exact {
        uploaded := nofun
        connected := sound.connected
        verified := fun here => absurd rfl (careful.verified here) }
  | @moved next allowed other =>
      exact {
        uploaded := by
          intro here complete
          rcases here with here | here
          · subst here
            have clear := careful.cleared rfl
            rw [show before.uploadComplete = true from complete] at clear
            cases clear
          · subst here
            exact still nofun
              (sound.uploaded (.inl (transitionAllowed_verifying allowed))
                complete)
        connected := fun here => absurd here other
        verified := fun here => absurd here other }
  | promoted => exact ⟨nofun, nofun, nofun⟩
  | unverified verifying =>
      have elsewhere : before.state ≠ .countdown := by
        rw [verifying]
        nofun
      exact {
        uploaded := fun here complete =>
          still nofun (sound.uploaded here complete)
        connected := sound.connected
        verified := fun here => absurd here elsewhere }
  | started verified connected =>
      exact ⟨nofun, fun _ => connected, fun _ => verified⟩
  | finished closed =>
      rcases closed with rfl | rfl | rfl <;> exact ⟨nofun, nofun, nofun⟩
  | refused failed =>
      exact {
        uploaded := by
          intro here complete
          apply still ?_ (sound.uploaded here complete)
          intro entered
          cases entered
          exact failed rfl
        connected := sound.connected
        verified := sound.verified }

theorem Sound.authorised (sound : Sound past before)
    (step : Step before event after) : Authorised past before event where
  uploaded := by
    intro accepted
    subst accepted
    cases step.move with
    | promoted verifying uploaded =>
        exact sound.uploaded (.inr verifying) uploaded
    | refused failed => exact absurd rfl failed
  connected := by
    intro accepted
    subst accepted
    exact sound.connected step.executing
  verified := by
    intro accepted
    subst accepted
    exact sound.verified step.executing

end Step

theorem careful_sound {history : List Event} {machine : Machine}
    (run : Run CarefulStep typxStateMachineBoot history machine) :
    Sound history machine :=
  run.history Sound (fun _ _ _ _ sound taken => sound.step taken.1 taken.2)
    boot_sound

theorem careful_run {history : List Event} {before after : Machine}
    (run : Run CarefulStep before history after) : Run Step before history after :=
  run.mono (fun _ => True) (fun _ _ _ _ taken => taken.1) (fun _ _ => trivial)

theorem careful_alwaysAuthorised {history : List Event} {machine : Machine}
    (run : Run CarefulStep typxStateMachineBoot history machine) :
    AlwaysAuthorised history := by
  intro past event later here split reached
  rw [split] at run
  rcases run_middle_iff.mp run with ⟨there, next, earlier, taken, _⟩
  have same := reached.deterministic step_deterministic (careful_run earlier)
  rw [same] at earlier taken
  exact (careful_sound earlier).authorised taken.1

/-! ## Careless steps -/

theorem not_uploaded_entered {past : List Event} {event : Event}
    (other : event ≠ .called (.setUploadComplete true)) :
    ¬Uploaded (past ++ [entersReceiving, event]) := by
  intro uploaded
  have split : past ++ [entersReceiving, event] =
      past ++ [entersReceiving] ++ [event] := by
    simp
  rw [Uploaded, split, since_append_singleton_iff] at uploaded
  rcases uploaded with ⟨same, _⟩ | ⟨_, since⟩
  · exact other same.symm
  · rcases since_append_singleton_iff.mp since with ⟨same, _⟩ | ⟨quiet, _⟩
    · cases same
    · exact quiet rfl

section Careless

variable {history : List Event} {machine next : Machine} {event : Event}

theorem stale_violates
    (run : Run Step typxStateMachineBoot history machine)
    (step : Step machine entersReceiving next)
    (stale : machine.uploadComplete = true) :
    ∃ later final,
      Run Step typxStateMachineBoot (history ++ entersReceiving :: later) final ∧
        ¬AlwaysAuthorised (history ++ entersReceiving :: later) := by
  have entered : next = { machine with state := .receiving } := by
    cases step.move with
    | moved => rfl
    | refused failed => exact absurd rfl failed
  have promoted : Step { machine with state := .verifying }
      (.accepted (.markReady true))
      { machine with jobVerified := true, state := .ready } := by
    simp [Step, Event.accepted, perform, typxStateMachineMarkReady, stale]
  have verifying : Run Step typxStateMachineBoot
      (history ++ [entersReceiving, .accepted (.transition .verifying)])
      { machine with state := .verifying } := by
    rw [entered] at step
    exact run_append_iff.mpr
      ⟨machine, run, .cons step (.cons rfl (.nil _))⟩
  have split : history ++ [entersReceiving, .accepted (.transition .verifying),
        .accepted (.markReady true)] =
      history ++ [entersReceiving, .accepted (.transition .verifying)] ++
        [.accepted (.markReady true)] := by
    simp
  refine ⟨_, _, split ▸ run_append_iff.mpr
    ⟨_, verifying, .cons promoted (.nil _)⟩, ?_⟩
  intro always
  have uploaded := (always _ _ [] _ split verifying).uploaded rfl
  exact not_uploaded_entered (by nofun) uploaded

theorem withdrawn_violates {event : Event}
    (run : Run Step typxStateMachineBoot history machine)
    (step : Step machine event next) (counting : next.state = .countdown)
    (withdrawn : next.bluetoothConnected = false ∨ next.jobVerified = false) :
    ∃ later final,
      Run Step typxStateMachineBoot (history ++ event :: later) final ∧
        ¬AlwaysAuthorised (history ++ event :: later) := by
  have executed : Step next (.accepted (.transition .executing))
      { next with state := .executing } := by
    simp [Step, Event.accepted, perform, typxStateMachineTransition, counting,
      transitionAllowed]
  have reached : Run Step typxStateMachineBoot (history ++ [event]) next :=
    run_append_iff.mpr ⟨machine, run, .cons step (.nil _)⟩
  have split : history ++ [event, .accepted (.transition .executing)] =
      history ++ [event] ++ [.accepted (.transition .executing)] := by
    simp
  refine ⟨_, _, split ▸ run_append_iff.mpr
    ⟨_, reached, .cons executed (.nil _)⟩, ?_⟩
  intro always
  have authorised := always _ _ [] _ split reached
  rcases withdrawn with disconnected | revoked
  · rw [authorised.connected rfl] at disconnected
    cases disconnected
  · rw [authorised.verified rfl] at revoked
    cases revoked

theorem careless_violates
    (run : Run Step typxStateMachineBoot history machine)
    (step : Step machine event next) (careless : ¬Careful machine event) :
    ∃ later final,
      Run Step typxStateMachineBoot (history ++ event :: later) final ∧
        ¬AlwaysAuthorised (history ++ event :: later) := by
  by_contra none
  apply careless
  constructor
  · intro entering
    subst entering
    rw [← Bool.not_eq_true]
    exact fun stale => none (stale_violates run step stale)
  · intro counting same
    subst same
    cases step
    exact none (withdrawn_violates run rfl counting (.inl rfl))
  · intro counting same
    subst same
    cases step
    exact none (withdrawn_violates run rfl counting (.inr rfl))

end Careless

/-- Careful callers get authorised promotions and executions only, and every
careless call can be followed by one that is not. -/
theorem execution_isAuthorised {history : List Event} {machine : Machine} :
    (Run CarefulStep typxStateMachineBoot history machine →
      AlwaysAuthorised history) ∧
    (Run Step typxStateMachineBoot history machine →
      ∀ event next, Step machine event next → ¬Careful machine event →
        ∃ later final,
          Run Step typxStateMachineBoot (history ++ event :: later) final ∧
            ¬AlwaysAuthorised (history ++ event :: later)) :=
  ⟨careful_alwaysAuthorised, fun run _ _ => careless_violates run⟩

def firstJob : List Event :=
  [.accepted (.transition .wifiReady), entersReceiving,
    .called (.setUploadComplete true), .accepted (.transition .verifying),
    .accepted (.markReady true), .called (.setBluetoothConnected true),
    .accepted .start, .accepted (.transition .executing),
    .accepted (.finish .completed (some true)),
    .accepted (.transition .wifiReady)]

def waiting : Machine where
  state := .wifiReady
  bluetoothConnected := true
  uploadComplete := true
  jobVerified := false

theorem firstJob_careful :
    Run CarefulStep typxStateMachineBoot firstJob waiting :=
  .cons ⟨rfl, by decide⟩ (.cons ⟨rfl, by decide⟩ (.cons ⟨rfl, by decide⟩
    (.cons ⟨rfl, by decide⟩ (.cons ⟨rfl, by decide⟩ (.cons ⟨rfl, by decide⟩
    (.cons ⟨rfl, by decide⟩ (.cons ⟨rfl, by decide⟩ (.cons ⟨rfl, by decide⟩
    (.cons ⟨rfl, by decide⟩ (.nil _))))))))))

theorem execution_isAuthorised_firstJob : AlwaysAuthorised firstJob :=
  execution_isAuthorised.1 firstJob_careful

/-- The flag of the first job makes the second READY without an upload, and a
countdown goes on without the host. -/
theorem execution_isAuthorised_fails :
    ((∃ machine, Run Step typxStateMachineBoot (firstJob ++ [entersReceiving,
        .accepted (.transition .verifying), .accepted (.markReady true)])
        machine) ∧
      ¬AlwaysAuthorised (firstJob ++ [entersReceiving,
        .accepted (.transition .verifying), .accepted (.markReady true)])) ∧
    ((∃ machine, Run Step typxStateMachineBoot (firstJob.take 7 ++
        [.called (.setBluetoothConnected false),
          .accepted (.transition .executing)]) machine) ∧
      ¬AlwaysAuthorised (firstJob.take 7 ++
        [.called (.setBluetoothConnected false),
          .accepted (.transition .executing)])) := by
  have first := careful_run firstJob_careful
  have second : Run Step typxStateMachineBoot (firstJob ++ [entersReceiving,
      .accepted (.transition .verifying)])
      { waiting with state := .verifying } :=
    run_append_iff.mpr ⟨_, first, .cons rfl (.cons rfl (.nil _))⟩
  have counting : Run Step typxStateMachineBoot (firstJob.take 7 ++
      [.called (.setBluetoothConnected false)])
      { waiting with
        state := .countdown, bluetoothConnected := false, jobVerified := true } :=
    .cons rfl (.cons rfl (.cons rfl (.cons rfl (.cons rfl (.cons rfl
      (.cons rfl (.cons rfl (.nil _))))))))
  constructor
  · constructor
    · exact ⟨_, run_append_iff.mpr
        ⟨_, first, .cons rfl (.cons rfl (.cons rfl (.nil _)))⟩⟩
    · intro always
      exact not_uploaded_entered (by nofun)
        ((always _ _ [] _ rfl second).uploaded rfl)
  · constructor
    · have executed : Run Step typxStateMachineBoot (firstJob.take 7 ++
          [.called (.setBluetoothConnected false)] ++
          [.accepted (.transition .executing)])
          { waiting with
            state := .executing
            bluetoothConnected := false
            jobVerified := true } :=
        run_append_iff.mpr ⟨_, counting, .cons rfl (.nil _)⟩
      exact ⟨_, executed⟩
    · intro always
      cases (always _ _ [] _ rfl counting).connected rfl

end Typxen.StateMachine
