import Typxen.Executor.KeySafety
import Typxen.Foundation.Exclusion
import Typxen.HidRuntime.HidRuntime

/-! # One run at a time

The calibration runs and the schedule runner share `s_runtime`. Each takes it
once and gives it up once, so there is one run at a time, unless a lost link
clears `running` under a run. -/

namespace Typxen.HidRuntime

open Interaction Protocol Executor WifiService Exclusion Transition

/-! ## Taking and giving up -/

def hidDiscipline : Discipline hidCalls where
  takes
    | ⟨.acquire, answer⟩ => answer == .ok
    | _ => false
  gives
    | ⟨.giveUp _, _⟩ => true
    | _ => false

def runnerDiscipline : Discipline taskCalls where
  takes
    | ⟨.inr .acquire, answer⟩ => answer
    | _ => false
  gives
    | ⟨.inr (.giveUp _), _⟩ => true
    | _ => false

def Harmless : HidCall → Prop
  | .acquire => False
  | .giveUp _ => False
  | _ => True

theorem harmless_neutral {request : HidCall} (harmless : Harmless request) :
    hidDiscipline.Neutral request := by
  intro answer
  cases request with
  | acquire => exact harmless.elim
  | giveUp _ => exact harmless.elim
  | _ => exact ⟨rfl, rfl⟩

abbrev Bystander {α : Type} (program : Hid α) : Prop :=
  Program.OnlyCalls hidDiscipline.Neutral program

section Tests

theorem bystander_call (request : HidCall) (harmless : Harmless request) :
    Bystander (Hid.call request) :=
  ⟨harmless_neutral harmless, fun _ => trivial⟩

theorem waitMs_bystander (delayMs : UInt32) : Bystander (waitMs delayMs) := by
  apply (bystander_call .runtime trivial).bind
  intro runtime
  split
  · exact trivial
  · apply (bystander_call (.waitMs delayMs) trivial).bind
    intro waited
    exact trivial

theorem releaseAttempts_bystander (attempts : Nat) :
    Bystander (releaseAttempts attempts) := by
  induction attempts with
  | zero => exact trivial
  | succ attempts induction =>
      apply (bystander_call (.sendReport _) trivial).bind
      intro sent
      cases sent with
      | true => exact trivial
      | false => exact induction

theorem typxHidReleaseAll_bystander : Bystander typxHidReleaseAll := by
  apply (bystander_call .runtime trivial).bind
  intro runtime
  split
  · exact trivial
  · exact releaseAttempts_bystander 3

theorem typxHidKeyDown_bystander (modifier keycode : UInt8) :
    Bystander (typxHidKeyDown modifier keycode) := by
  apply (bystander_call .runtime trivial).bind
  intro runtime
  split
  · exact trivial
  · apply (bystander_call (.sendReport _) trivial).bind
    intro sent
    exact trivial

theorem releaseAndReturn_bystander (error : HidError) :
    Bystander (releaseAndReturn error) := by
  apply typxHidReleaseAll_bystander.bind
  intro released
  exact trivial

theorem guarded_bystander {error : HidError} {continued : Hid HidError}
    (rest : Bystander continued) :
    Bystander (if error != .ok then releaseAndReturn error else continued) := by
  split
  · exact releaseAndReturn_bystander error
  · exact rest

theorem sendCharacter_bystander (character : Char) (holdMs : UInt32) :
    Bystander (sendCharacter character holdMs) := by
  unfold sendCharacter
  split
  · exact trivial
  apply (typxHidKeyDown_bystander _ _).bind
  intro pressed
  apply guarded_bystander
  apply (waitMs_bystander holdMs).bind
  intro held
  apply guarded_bystander
  apply typxHidReleaseAll_bystander.bind
  intro released
  apply guarded_bystander
  apply (waitMs_bystander 60).bind
  intro waited
  apply guarded_bystander
  exact trivial

theorem giveUp_disciplined {α : Type} (clearStop : Bool) (value : α) :
    Disciplined hidDiscipline
      (Hid.call (.giveUp clearStop) >>= fun _ => Program.done value) true := by
  intro idle
  exact ⟨false, .give rfl rfl, rfl⟩

theorem finishTest_disciplined (error : HidError) :
    Disciplined hidDiscipline (finishTest error) true := by
  apply neutral_bind typxHidReleaseAll_bystander
  intro released
  exact giveUp_disciplined true _

theorem sendCharacters_disciplined (holdMs : UInt32) (characters : List Char) :
    Disciplined hidDiscipline (sendCharacters holdMs characters) true := by
  induction characters with
  | nil => exact finishTest_disciplined .ok
  | cons character rest induction =>
      apply neutral_bind (bystander_call .runtime trivial)
      intro runtime
      split
      · exact finishTest_disciplined _
      apply neutral_bind (sendCharacter_bystander character holdMs)
      intro sent
      split
      · exact finishTest_disciplined sent
      · exact induction

/-- `begin_test` gives the runtime up unless it returns OK. -/
def Begun (error : HidError) (held : Bool) : Prop := held = (error == .ok)

theorem countdownFrom_obeys (secondsLeft : Nat) :
    Program.Obeys (HoldMonitor hidDiscipline) (countdownFrom secondsLeft) true
      Begun := by
  induction secondsLeft with
  | zero => exact rfl
  | succ secondsLeft induction =>
      apply neutral_bind (bystander_call (.countdown _) trivial)
      intro shown
      apply neutral_bind (waitMs_bystander 1000)
      intro waited
      split
      · rename_i failed
        apply neutral_bind typxHidReleaseAll_bystander
        intro released idle
        refine ⟨false, .give rfl rfl, ?_⟩
        exact (beq_eq_false_iff_ne.mpr (bne_iff_ne.mp failed)).symm
      · exact induction

theorem beginTaken_obeys :
    Program.Obeys (HoldMonitor hidDiscipline) beginTaken true Begun := by
  apply neutral_bind typxHidReleaseAll_bystander
  intro released
  split
  · rename_i failed
    intro idle
    refine ⟨false, .give rfl rfl, ?_⟩
    exact (beq_eq_false_iff_ne.mpr (bne_iff_ne.mp failed)).symm
  · exact countdownFrom_obeys 5

theorem runCharacters_disciplined (holdMs : UInt32) (characters : List Char) :
    Disciplined hidDiscipline (runCharacters holdMs characters) false := by
  intro acquired
  by_cases refused : acquired = .ok
  case neg =>
    refine ⟨false, .other (beq_eq_false_iff_ne.mpr refused) rfl, ?_⟩
    change Disciplined hidDiscipline (if acquired != .ok then .done acquired else _)
      false
    rw [if_pos (bne_iff_ne.mpr refused)]
    exact rfl
  rw [refused]
  refine ⟨true, .take rfl rfl, ?_⟩
  apply beginTaken_obeys.bind
  intro error held begun
  by_cases ok : error = .ok
  · rw [ok] at begun ⊢
    rw [show held = true from begun]
    exact sendCharacters_disciplined holdMs characters
  · rw [if_pos (bne_iff_ne.mpr ok)]
    exact begun.trans (beq_eq_false_iff_ne.mpr ok)

theorem typxHidRunTest_disciplined (holdMs characterCount : UInt32) :
    Disciplined hidDiscipline (typxHidRunTest holdMs characterCount) false := by
  unfold typxHidRunTest
  split
  · exact rfl
  · exact runCharacters_disciplined _ _

theorem typxHidRunShiftTest_disciplined (holdMs : UInt32) :
    Disciplined hidDiscipline (typxHidRunShiftTest holdMs) false := by
  unfold typxHidRunShiftTest
  split
  · exact rfl
  · exact runCharacters_disciplined _ _

end Tests

section Runner

theorem inject_bystander {α : Type} (program : Firmware α) :
    Program.OnlyCalls runnerDiscipline.Neutral (program.inject runnerCalls) := by
  induction program with
  | done value => exact trivial
  | ask request next induction => exact ⟨fun _ => ⟨rfl, rfl⟩, induction⟩

theorem runnerCall_bystander {request : RunnerCall}
    (untaken : ∀ answer, runnerDiscipline.takes ⟨.inr request, answer⟩ = false)
    (kept : ∀ answer, runnerDiscipline.gives ⟨.inr request, answer⟩ = false) :
    Program.OnlyCalls runnerDiscipline.Neutral (Runner.call request) :=
  ⟨fun answer => ⟨untaken answer, kept answer⟩, fun _ => trivial⟩

theorem releaseAllReports_bystander :
    Program.OnlyCalls runnerDiscipline.Neutral releaseAllReports :=
  ⟨fun _ => ⟨rfl, rfl⟩, fun _ => trivial⟩

theorem runObserved_disciplined (schedule : VerifiedSchedule) :
    Disciplined runnerDiscipline (runObserved schedule) true := by
  apply neutral_bind (runnerCall_bystander (fun _ => rfl) fun _ => rfl)
  intro completed
  apply neutral_bind (inject_bystander (typxExecutorRun schedule))
  intro result
  apply neutral_bind releaseAllReports_bystander
  intro released idle
  exact ⟨false, .give rfl rfl, rfl⟩

theorem countdown_disciplined {continued : WifiService.Task ExecutorError}
    (rest : Disciplined runnerDiscipline continued true) (secondsLeft : Nat) :
    Disciplined runnerDiscipline (countdown continued secondsLeft) true := by
  induction secondsLeft with
  | zero => exact rest
  | succ secondsLeft induction =>
      apply neutral_bind (runnerCall_bystander (fun _ => rfl) fun _ => rfl)
      intro waited
      cases waited with
      | true => exact induction
      | false =>
      apply neutral_bind (runnerCall_bystander (fun _ => rfl) fun _ => rfl)
      intro stopped
      apply neutral_bind releaseAllReports_bystander
      intro released idle
      exact ⟨false, .give rfl rfl, rfl⟩

theorem runner_disciplined (schedule : VerifiedSchedule)
    (countdownSeconds : Nat) :
    Disciplined runnerDiscipline
      (typxBleHidRunScheduleCountdownObserved schedule countdownSeconds)
      false := by
  unfold typxBleHidRunScheduleCountdownObserved
  split
  · exact rfl
  intro acquired
  cases acquired with
  | false => exact ⟨false, .other rfl rfl, rfl⟩
  | true =>
  refine ⟨true, .take rfl rfl, ?_⟩
  apply neutral_bind releaseAllReports_bystander
  intro released
  cases released with
  | false => exact fun idle => ⟨false, .give rfl rfl, rfl⟩
  | true => exact countdown_disciplined (runObserved_disciplined schedule) _

end Runner

/-! ## Runs side by side -/

inductive Activity
  | test (rest : Hid HidError)
  | schedule (rest : WifiService.Task ExecutorError)

/-- `live` from its successful test of `running` to its own clearing of it. -/
structure Thread where
  activity : Activity
  live : Bool

abbrev HidSystem := Pool HidRuntime Thread

inductive Entry : Activity → Prop
  | test (holdMs characterCount : UInt32) :
      Entry (.test (typxHidRunTest holdMs characterCount))
  | shiftTest (holdMs : UInt32) : Entry (.test (typxHidRunShiftTest holdMs))
  | schedule (schedule : VerifiedSchedule) (countdownSeconds : Nat) :
      Entry (.schedule
        (typxBleHidRunScheduleCountdownObserved schedule countdownSeconds))

inductive HidEvent
  | connected
  | disconnected
  | requestStop
  | enter (slot : Nat) (activity : Activity)
  | testCall (slot : Nat) (event : Interaction.Event hidCalls)
  | scheduleCall (slot : Nat) (event : Interaction.Event taskCalls)
  | leave (slot : Nat)

inductive HidStep : HidSystem → HidEvent → HidSystem → Prop
  | connected {system : HidSystem} :
      HidStep system .connected
        (system.withShared (typxHidRuntimeSetConnected system.shared true))
  | disconnected {system : HidSystem} :
      HidStep system .disconnected
        (system.withShared (typxHidRuntimeSetConnected system.shared false))
  | requestStop {system : HidSystem} :
      HidStep system .requestStop
        (system.withShared (typxHidRuntimeRequestStop system.shared))
  | enter {system : HidSystem} {slot : Nat} {activity : Activity} :
      system.processes slot = none → Entry activity →
      HidStep system (.enter slot activity) (system.put slot ⟨activity, false⟩)
  | testCall {system : HidSystem} {slot : Nat} {live : Bool} {request : HidCall}
      {next : HidCall.Answer request → Hid HidError}
      {answer : HidCall.Answer request} {runtime : HidRuntime} :
      system.processes slot = some ⟨.test (.ask request next), live⟩ →
      hidEnvironment request system.shared answer runtime →
      HidStep system (.testCall slot ⟨request, answer⟩)
        ((system.withShared runtime).put slot
          ⟨.test (next answer), hidDiscipline.after live ⟨request, answer⟩⟩)
  | scheduleCall {system : HidSystem} {slot : Nat} {live : Bool}
      {request : taskCalls.Call}
      {next : taskCalls.Answer request → WifiService.Task ExecutorError}
      {answer : taskCalls.Answer request} {runtime : HidRuntime} :
      system.processes slot = some ⟨.schedule (.ask request next), live⟩ →
      runnerEnvironment request system.shared answer runtime →
      HidStep system (.scheduleCall slot ⟨request, answer⟩)
        ((system.withShared runtime).put slot
          ⟨.schedule (next answer),
            runnerDiscipline.after live ⟨request, answer⟩⟩)
  | testEnds {system : HidSystem} {slot : Nat} {live : Bool} {error : HidError} :
      system.processes slot = some ⟨.test (.done error), live⟩ →
      HidStep system (.leave slot) (system.drop slot)
  | scheduleEnds {system : HidSystem} {slot : Nat} {live : Bool}
      {error : ExecutorError} :
      system.processes slot = some ⟨.schedule (.done error), live⟩ →
      HidStep system (.leave slot) (system.drop slot)

/-- The state after `typx_hid_runtime_init`. -/
def initialSystem : HidSystem := ⟨typxHidRuntimeInit, fun _ => none⟩

def Live (system : HidSystem) (slot : Nat) : Prop :=
  ∃ thread, system.processes slot = some thread ∧ thread.live = true

/-- At most one run is live, and while one is the runtime is not idle. -/
structure OneRun (system : HidSystem) : Prop where
  single : ∀ first second, Live system first → Live system second →
    first = second
  running : ∀ slot, Live system slot → system.shared.running = true
  busy : ∀ slot, Live system slot →
    typxHidRuntimeIsIdle system.shared = false ∧
      typxHidRuntimeCanClearBonds system.shared = false

theorem oneRun_iff (system : HidSystem) :
    OneRun system ↔ Exclusive HidRuntime.running Thread.live system := by
  constructor
  · intro oneRun
    constructor
    · intro slot thread here live
      exact oneRun.running slot ⟨thread, here, live⟩
    · intro first second holder other here there live also
      exact oneRun.single first second ⟨holder, here, live⟩ ⟨other, there, also⟩
  · intro exclusive
    have running : ∀ slot, Live system slot → system.shared.running = true := by
      intro slot alive
      rcases alive with ⟨thread, here, live⟩
      exact exclusive.flagged slot thread here live
    refine ⟨?_, running, ?_⟩
    · intro first second alive also
      rcases alive with ⟨holder, here, live⟩
      rcases also with ⟨other, there, too⟩
      exact exclusive.single first second holder other here there live too
    · intro slot alive
      simp [typxHidRuntimeIsIdle, typxHidRuntimeCanClearBonds,
        running slot alive]

/-! ## What a step does -/

def Thread.Orderly (thread : Thread) : Prop :=
  match thread.activity with
  | .test rest => Disciplined hidDiscipline rest thread.live
  | .schedule rest => Disciplined runnerDiscipline rest thread.live

def Orderly (system : HidSystem) : Prop :=
  ∀ slot thread, system.processes slot = some thread → thread.Orderly

theorem orderly_initial : Orderly initialSystem := nofun

theorem Entry.orderly {activity : Activity} (entry : Entry activity) :
    Thread.Orderly ⟨activity, false⟩ := by
  cases entry with
  | test holdMs characterCount => exact typxHidRunTest_disciplined _ _
  | shiftTest holdMs => exact typxHidRunShiftTest_disciplined _
  | schedule schedule countdownSeconds => exact runner_disciplined _ _

theorem Orderly.put {system : HidSystem} (orderly : Orderly system) {slot : Nat}
    {thread : Thread} (next : thread.Orderly) : Orderly (system.put slot thread) := by
  intro other found here
  rcases put_cases here with ⟨_, equal⟩ | ⟨_, earlier⟩
  · exact equal ▸ next
  · exact orderly other found earlier

theorem HidStep.orderly {before after : HidSystem} {event : HidEvent}
    (step : HidStep before event after) (orderly : Orderly before) :
    Orderly after := by
  cases step with
  | connected => exact orderly
  | disconnected => exact orderly
  | requestStop => exact orderly
  | enter _ entry => exact orderly.put entry.orderly
  | @testCall _ _ _ _ answer _ here _ =>
      rcases orderly _ _ here answer with ⟨held, rule, rest⟩
      apply @Orderly.put (before.withShared _) orderly
      rw [rule.after]
      exact rest
  | @scheduleCall _ _ _ _ answer _ here _ =>
      rcases orderly _ _ here answer with ⟨held, rule, rest⟩
      apply @Orderly.put (before.withShared _) orderly
      rw [rule.after]
      exact rest
  | testEnds _ =>
      exact fun other found here => orderly other found (drop_cases here).2
  | scheduleEnds _ =>
      exact fun other found here => orderly other found (drop_cases here).2

section Flag

variable {before after : HidRuntime}

theorem hid_takes {request : HidCall} {answer : HidCall.Answer request}
    (step : hidEnvironment request before answer after)
    (takes : hidDiscipline.takes ⟨request, answer⟩ = true) :
    before.running = false ∧ after.running = true := by
  cases request with
  | acquire =>
      rcases step with ⟨decided, moved⟩
      have ok : answer = .ok := beq_iff_eq.mp takes
      rw [ok] at decided
      rw [if_pos ok] at moved
      rw [moved]
      split_ifs at decided with _ running
      exact ⟨by simpa using running, rfl⟩
  | _ => cases takes

theorem hid_other {request : HidCall} {answer : HidCall.Answer request}
    (step : hidEnvironment request before answer after)
    (takes : hidDiscipline.takes ⟨request, answer⟩ = false)
    (gives : hidDiscipline.gives ⟨request, answer⟩ = false) :
    after.running = before.running := by
  cases request with
  | acquire => rw [step.2, if_neg (beq_eq_false_iff_ne.mp takes)]
  | runtime => rw [step.2]
  | sendReport _ => rw [step.2]
  | waitMs _ => rw [step.2]
  | countdown _ => rw [show after = _ from step]
  | giveUp _ => cases gives

theorem runner_takes {request : taskCalls.Call}
    {answer : taskCalls.Answer request}
    (step : runnerEnvironment request before answer after)
    (takes : runnerDiscipline.takes ⟨request, answer⟩ = true) :
    before.running = false ∧ after.running = true := by
  cases request with
  | inl _ => cases takes
  | inr request =>
      cases request with
      | acquire =>
          rcases step with ⟨decided, moved⟩
          have accepted : (before.connected && !before.running) = true :=
            decided.symm.trans takes
          rw [if_pos accepted] at moved
          rw [moved]
          simp only [Bool.and_eq_true, Bool.not_eq_true'] at accepted
          exact ⟨accepted.2, rfl⟩
      | _ => cases takes

theorem runner_other {request : taskCalls.Call}
    {answer : taskCalls.Answer request}
    (step : runnerEnvironment request before answer after)
    (takes : runnerDiscipline.takes ⟨request, answer⟩ = false)
    (gives : runnerDiscipline.gives ⟨request, answer⟩ = false) :
    after.running = before.running := by
  cases request with
  | inl request =>
      cases request with
      | stopRequested => rw [step.2]
      | waitUs _ => rw [step.2]
      | keyDown _ _ => rw [step.2]
      | releaseAll => rw [step.2]
      | _ => rw [show after = before from step]
  | inr request =>
      cases request with
      | acquire =>
          rcases step with ⟨decided, moved⟩
          have refused : ¬(before.connected && !before.running) = true := by
            rw [← decided]
            exact Bool.eq_false_iff.mp takes
          rw [moved, if_neg refused]
      | waitMs _ => rw [step.2]
      | stopFlag => rw [step.2]
      | giveUp _ => cases gives
      | _ => rw [show after = before from step]

end Flag

/-- Every step but a lost link under a run keeps the flag with its holder. -/
theorem HidStep.move {before after : HidSystem} {event : HidEvent}
    (step : HidStep before event after) (orderly : Orderly before)
    (undisturbed : event = .disconnected → ∀ slot, ¬Live before slot) :
    Move HidRuntime.running Thread.live before after := by
  cases step with
  | connected => exact .outside rfl
  | disconnected =>
      apply Move.unheld
      intro slot thread here
      exact Bool.eq_false_iff.mpr fun live => undisturbed rfl slot ⟨thread, here, live⟩
  | requestStop => exact .outside rfl
  | enter _ _ => exact .enter rfl
  | testEnds _ => exact .leave
  | scheduleEnds _ => exact .leave
  | @testCall _ _ _ _ answer _ here taken =>
      rcases orderly _ _ here answer with ⟨held, rule, _⟩
      rw [rule.after]
      generalize live_eq : Thread.live _ = live at rule
      cases rule with
      | take takes _ =>
          rcases hid_takes taken takes with ⟨free, set⟩
          exact .take free set
      | give _ _ => exact .give here live_eq rfl
      | other takes gives =>
          exact .step here live_eq.symm (hid_other taken takes gives)
  | @scheduleCall _ _ _ _ answer _ here taken =>
      rcases orderly _ _ here answer with ⟨held, rule, _⟩
      rw [rule.after]
      generalize live_eq : Thread.live _ = live at rule
      cases rule with
      | take takes _ =>
          rcases runner_takes taken takes with ⟨free, set⟩
          exact .take free set
      | give _ _ => exact .give here live_eq rfl
      | other takes gives =>
          exact .step here live_eq.symm (runner_other taken takes gives)

/-! ## Whole runs -/

def UndisturbedStep (before : HidSystem) (event : HidEvent)
    (after : HidSystem) : Prop :=
  HidStep before event after ∧
    (event = .disconnected → ∀ slot, ¬Live before slot)

/-- The runs with one run at a time throughout are those in which no link is
lost under a live run. -/
theorem hidRuntime_oneRun {events : List HidEvent} {after : HidSystem} :
    Run (Within OneRun HidStep) initialSystem events after ↔
      Run UndisturbedStep initialSystem events after := by
  constructor
  · intro run
    apply run.mono (fun _ => True) _ fun _ _ => trivial
    intro here event next _ step
    refine ⟨step.2.1, ?_⟩
    intro lost slot live
    have taken := step.2.1
    rw [lost] at taken
    cases taken
    have running := step.2.2.running slot live
    cases running
  · intro run
    have start : OneRun initialSystem :=
      (oneRun_iff _).mpr (.idle fun _ _ here => nomatch here)
    have guarded := run.guarded (fun system => Orderly system ∧ OneRun system)
      (fun _ => True) ?_ (fun _ _ => trivial) ⟨orderly_initial, start⟩
    · apply guarded.mono (fun _ => True) _ fun _ _ => trivial
      intro here event next _ step
      exact ⟨step.holds.2, step.taken.1, step.still.2⟩
    · intro here event next _ holds step
      have move := step.1.move holds.1 step.2
      refine ⟨step.1.orderly holds.1, (oneRun_iff _).mpr ?_⟩
      exact move.exclusive ((oneRun_iff _).mp holds.2)

/-! ## A lost link under a run -/

def twoRuns : List HidEvent := [
  .connected,
  .enter 0 (.schedule (typxBleHidRunScheduleCountdownObserved letterVerified 8)),
  .scheduleCall 0 ⟨.inr .acquire, true⟩,
  .disconnected,
  .connected,
  .enter 1 (.test (typxHidRunTest 8 1)),
  .testCall 1 ⟨.acquire, .ok⟩]

theorem hidRuntime_twoRuns :
    ¬∀ events after, Run HidStep initialSystem events after →
      OneRun after := by
  intro always
  have run : ∃ after, Run HidStep initialSystem twoRuns after ∧
      Live after 0 ∧ Live after 1 := by
    apply Exists.intro
    apply And.intro
    · apply Run.cons .connected
      apply Run.cons (.enter rfl (.schedule letterVerified 8))
      apply Run.cons (.scheduleCall rfl ⟨rfl, rfl⟩)
      apply Run.cons .disconnected
      apply Run.cons .connected
      apply Run.cons (.enter rfl (.test 8 1))
      apply Run.cons (.testCall rfl ⟨rfl, rfl⟩)
      exact .nil _
    · exact ⟨⟨_, rfl, rfl⟩, ⟨_, rfl, rfl⟩⟩
  rcases run with ⟨after, run, first, second⟩
  have same := (always twoRuns after run).single 0 1 first second
  cases same

end Typxen.HidRuntime
