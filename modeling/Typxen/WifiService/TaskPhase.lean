import Typxen.Executor.Polling
import Typxen.WifiService.Runner

/-! # The phases of the execution task

A monitor of the calls of the execution task: it takes the runtime first,
presses a key only after a poll, gives the runtime up and completes the job
last. -/

namespace Typxen.WifiService

open Interaction Protocol Executor

inductive TaskPhase
  | unacquired
  | acquired (polled : Bool)
  | ended
  | completed
  deriving DecidableEq, Repr

inductive TaskMonitor : Monitor taskCalls TaskPhase
  | acquired : TaskMonitor .unacquired ⟨.inr .acquire, true⟩ (.acquired false)
  | refused : TaskMonitor .unacquired ⟨.inr .acquire, false⟩ .ended
  | executor {polled next : Bool} {event : Interaction.Event callbacks} :
      PollMonitor polled event next →
      TaskMonitor (.acquired polled) ⟨.inl event.call, event.answer⟩
        (.acquired next)
  | wait {polled : Bool} (delayMs : UInt32) (answer : Bool) :
      TaskMonitor (.acquired polled) ⟨.inr (.waitMs delayMs), answer⟩
        (.acquired false)
  | stopFlag {polled : Bool} (answer : Bool) :
      TaskMonitor (.acquired polled) ⟨.inr .stopFlag, answer⟩ (.acquired false)
  | countdownComplete {polled : Bool} (answer : Unit) :
      TaskMonitor (.acquired polled) ⟨.inr .countdownComplete, answer⟩
        (.acquired false)
  | giveUp {polled : Bool} (clearStop : Bool) (answer : Unit) :
      TaskMonitor (.acquired polled) ⟨.inr (.giveUp clearStop), answer⟩ .ended
  | markTerminal (answer : Bool) :
      TaskMonitor .ended ⟨.inr .markTerminal, answer⟩ .ended
  | complete (executorError : ExecutorError) (answer : Unit) :
      TaskMonitor .ended ⟨.inr (.complete executorError), answer⟩ .completed

def EndsIn {α : Type} (phase : TaskPhase) (_ : α) (final : TaskPhase) : Prop :=
  final = phase

abbrev Follows (task : Task Unit) (phase : TaskPhase) : Prop :=
  Program.Obeys TaskMonitor task phase (EndsIn .completed)

section Obedience

variable {polled : Bool}

theorem releases (released : Bool) :
    TaskMonitor (.acquired polled) ⟨.inl .releaseAll, released⟩
      (.acquired false) :=
  .executor (@PollMonitor.other polled .releaseAll released rfl)

theorem runObserved_obeys (schedule : VerifiedSchedule) :
    Program.Obeys TaskMonitor (runObserved schedule) (.acquired polled)
      (EndsIn .ended) := by
  intro completed
  refine ⟨.acquired false, .countdownComplete completed, ?_⟩
  have follows : ∀ before event after, PollMonitor before event after →
      TaskMonitor (.acquired before) ⟨.inl event.call, event.answer⟩
        (.acquired after) :=
    fun _ _ _ => .executor
  apply ((typxExecutorRun_polite schedule false).inject _ follows).bind
  intro result phase ended
  rcases ended with ⟨polled, same, _⟩
  rw [same]
  intro released
  refine ⟨.acquired false, releases released, ?_⟩
  intro idle
  exact ⟨.ended, .giveUp true idle, rfl⟩

theorem countdown_obeys {continued : Task ExecutorError}
    (rest : ∀ polled, Program.Obeys TaskMonitor continued (.acquired polled)
      (EndsIn .ended))
    (secondsLeft : Nat) :
    Program.Obeys TaskMonitor (countdown continued secondsLeft)
      (.acquired polled) (EndsIn .ended) := by
  induction secondsLeft generalizing polled with
  | zero => exact rest polled
  | succ secondsLeft induction =>
      intro waited
      refine ⟨.acquired false, .wait 1000 waited, ?_⟩
      cases waited with
      | true => exact induction
      | false =>
      intro stopped
      refine ⟨.acquired false, .stopFlag stopped, ?_⟩
      intro released
      refine ⟨.acquired false, releases released, ?_⟩
      intro idle
      exact ⟨.ended, .giveUp true idle, rfl⟩

theorem runner_obeys (schedule : VerifiedSchedule) (countdownSeconds : Nat) :
    ∃ phase, (phase = .unacquired ∨ phase = .ended) ∧
      Program.Obeys TaskMonitor
        (typxBleHidRunScheduleCountdownObserved schedule countdownSeconds) phase
        (EndsIn .ended) := by
  unfold typxBleHidRunScheduleCountdownObserved
  split
  · exact ⟨.ended, .inr rfl, rfl⟩
  refine ⟨.unacquired, .inl rfl, ?_⟩
  intro acquired
  cases acquired with
  | false => exact ⟨.ended, .refused, rfl⟩
  | true =>
  refine ⟨.acquired false, .acquired, ?_⟩
  intro released
  refine ⟨.acquired false, releases released, ?_⟩
  cases released with
  | false => exact fun idle => ⟨.ended, .giveUp false idle, rfl⟩
  | true => exact countdown_obeys (fun _ => runObserved_obeys schedule) _

theorem executionTask_follows (schedule : VerifiedSchedule) :
    ∃ phase, (phase = .unacquired ∨ phase = .ended) ∧
      Follows (executionTask schedule) phase := by
  rcases runner_obeys schedule dedicatedCountdownSeconds with
    ⟨phase, start, obeys⟩
  refine ⟨phase, start, obeys.bind ?_⟩
  intro executorError final ended
  rw [show final = .ended from ended]
  intro marked
  refine ⟨.ended, .markTerminal marked, ?_⟩
  intro completed
  exact ⟨.completed, .complete _ completed, rfl⟩

end Obedience

/-! ## What a task does next -/

theorem taskAnswer_nonempty (request : taskCalls.Call) :
    Nonempty (taskCalls.Answer request) := by
  cases request with
  | inl request =>
      cases request <;>
        first | exact ⟨false⟩ | exact ⟨none⟩ | exact ⟨()⟩ | exact ⟨(0 : UInt64)⟩
  | inr request => cases request <;> first | exact ⟨false⟩ | exact ⟨()⟩

theorem Follows.done {task : Task Unit} (follows : Follows task .completed) :
    task = .done () := by
  cases task with
  | done value => rfl
  | ask request next =>
      rcases taskAnswer_nonempty request with ⟨answer⟩
      rcases follows answer with ⟨_, step, _⟩
      cases step

end Typxen.WifiService
