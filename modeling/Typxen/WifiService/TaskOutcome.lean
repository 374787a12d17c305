import Typxen.Executor.Outcome
import Typxen.WifiService.Runner

/-! # What the completion of a job says about its run

The outcome monitor of the executor, followed through the countdown to the
call that completes the job. -/

namespace Typxen.WifiService

open Interaction Protocol Executor

structure TaskState where
  begun : Bool
  run : RunState

def Untracked : RunnerCall → Bool
  | .acquire => true
  | .giveUp _ => true
  | .markTerminal => true
  | _ => false

inductive TaskOutcome (total : UInt32) : Monitor taskCalls TaskState
  | executor {before after : RunState} {event : Interaction.Event callbacks} :
      OutcomeMonitor total before event after →
      TaskOutcome total ⟨true, before⟩ ⟨.inl event.call, event.answer⟩
        ⟨true, after⟩
  | releaseAll {state : TaskState} (answer : Bool) :
      TaskOutcome total state ⟨.inl .releaseAll, answer⟩ state
  | wait {state : TaskState} (delayMs : UInt32) (answer : Bool) :
      TaskOutcome total state ⟨.inr (.waitMs delayMs), answer⟩
        { state with run.halted := state.run.halted || !answer }
  | stopFlag {state : TaskState} (answer : Bool) :
      TaskOutcome total state ⟨.inr .stopFlag, answer⟩
        { state with run.told := state.run.told || answer }
  | countdownComplete {state : TaskState} (answer : Unit) :
      TaskOutcome total state ⟨.inr .countdownComplete, answer⟩
        { state with begun := true }
  | complete {state : TaskState} {executorError : ExecutorError} (answer : Unit) :
      Outcome total executorError state.run →
      TaskOutcome total state ⟨.inr (.complete executorError), answer⟩ state
  | runner {state : TaskState} {request : RunnerCall}
      (answer : RunnerCall.Answer request) : Untracked request = true →
      TaskOutcome total state ⟨.inr request, answer⟩ state

abbrev Accounts (total : UInt32) (task : Task Unit) (state : TaskState) : Prop :=
  Program.Obeys (TaskOutcome total) task state fun _ _ => True

def Deserved (total : UInt32) (executorError : ExecutorError)
    (state : TaskState) : Prop :=
  Outcome total executorError state.run

section Obedience

variable {total : UInt32}

theorem runObserved_outcome (schedule : VerifiedSchedule) (begun : Bool) :
    Program.Obeys (TaskOutcome schedule.header.actionCount)
      (runObserved schedule) ⟨begun, runningAt 0⟩
      (Deserved schedule.header.actionCount) := by
  intro completed
  refine ⟨⟨true, runningAt 0⟩, .countdownComplete completed, ?_⟩
  have follows : ∀ before event after,
      OutcomeMonitor schedule.header.actionCount before event after →
      TaskOutcome schedule.header.actionCount ⟨true, before⟩
        ⟨.inl event.call, event.answer⟩ ⟨true, after⟩ :=
    fun _ _ _ => .executor
  apply ((typxExecutorRun_outcome schedule).inject (TaskState.mk true) follows).bind
  intro result state ended
  rcases ended with ⟨inner, same, outcome⟩
  rw [same]
  intro released
  refine ⟨_, .releaseAll released, ?_⟩
  intro idle
  refine ⟨_, @TaskOutcome.runner _ _ (.giveUp true) idle rfl, ?_⟩
  cases released with
  | true => exact outcome
  | false => exact Outcome.failed nofun nofun

/-- A wait that ends the countdown is a stop only if the flag says so. -/
theorem countdown_outcome {continued : Task ExecutorError}
    (rest : Program.Obeys (TaskOutcome total) continued ⟨false, runningAt 0⟩
      (Deserved total)) (secondsLeft : Nat) :
    Program.Obeys (TaskOutcome total) (countdown continued secondsLeft)
      ⟨false, runningAt 0⟩ (Deserved total) := by
  induction secondsLeft with
  | zero => exact rest
  | succ secondsLeft induction =>
      intro waited
      refine ⟨_, .wait 1000 waited, ?_⟩
      cases waited with
      | true => exact induction
      | false =>
      intro stopped
      refine ⟨_, .stopFlag stopped, ?_⟩
      intro released
      refine ⟨_, .releaseAll released, ?_⟩
      intro idle
      refine ⟨_, @TaskOutcome.runner _ _ (.giveUp true) idle rfl, ?_⟩
      cases stopped with
      | true => exact Outcome.stopped rfl
      | false => exact Outcome.failed nofun nofun

theorem runner_outcome (schedule : VerifiedSchedule) (countdownSeconds : Nat) :
    Program.Obeys (TaskOutcome schedule.header.actionCount)
      (typxBleHidRunScheduleCountdownObserved schedule countdownSeconds)
      ⟨false, runningAt 0⟩ (Deserved schedule.header.actionCount) := by
  unfold typxBleHidRunScheduleCountdownObserved
  split
  · exact Outcome.failed nofun nofun
  intro acquired
  refine ⟨_, @TaskOutcome.runner _ _ .acquire acquired rfl, ?_⟩
  cases acquired with
  | false => exact Outcome.failed nofun nofun
  | true =>
  intro released
  refine ⟨_, .releaseAll released, ?_⟩
  cases released with
  | false =>
      intro idle
      exact ⟨_, @TaskOutcome.runner _ _ (.giveUp false) idle rfl,
        Outcome.failed nofun nofun⟩
  | true => exact countdown_outcome (runObserved_outcome schedule false) _

theorem executionTask_accounts (schedule : VerifiedSchedule) :
    Accounts schedule.header.actionCount (executionTask schedule)
      ⟨false, runningAt 0⟩ := by
  apply (runner_outcome schedule dedicatedCountdownSeconds).bind
  intro executorError state outcome marked
  refine ⟨state, @TaskOutcome.runner _ _ .markTerminal marked rfl, ?_⟩
  intro completed
  refine ⟨state, .complete completed ?_, trivial⟩
  cases marked with
  | true => exact outcome
  | false => exact .failed nofun nofun

end Obedience

end Typxen.WifiService
