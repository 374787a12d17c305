import Typxen.HidRuntime.Exclusive
import Typxen.WifiService.OneRun

/-! # The execution task among the runs

The service has its runtime to itself, and the only run it knows is that of
its execution task. Each run of the service is a run of the runtime with that
task in a slot, so what holds of all runs of the runtime holds of the
service. -/

namespace Typxen.HidRuntime

open Interaction Protocol Executor WifiService Exclusion Transition

variable {σ : Type} {environment : Environment callbacks σ}
  {before after : Service σ} {event : ServiceEvent} {system : HidSystem}

/-! ## The task and its run -/

def afterRun (executorError : ExecutorError) : WifiService.Task Unit := do
  let marked ← Runner.call .markTerminal
  Runner.call (.complete (if marked then executorError else .waitFailed))

theorem executionTask_eq (schedule : VerifiedSchedule) :
    executionTask schedule =
      typxBleHidRunScheduleCountdownObserved schedule
        dedicatedCountdownSeconds >>= afterRun :=
  rfl

/-- The run of the task is over before the task is. -/
inductive RunOf : Execution → Option Thread → Prop
  | none : RunOf .none none
  | waiting : RunOf .waiting none
  | running {rest : WifiService.Task ExecutorError} {live : Bool} :
      RunOf (.running (rest >>= afterRun)) (some ⟨.schedule rest, live⟩)
  | marked {executorError : ExecutorError} :
      RunOf (.running (Runner.call (.complete executorError))) none

/-- The runtime of the service, with the run of its task in the first slot. -/
structure Shows (service : Service σ) (system : HidSystem) : Prop where
  runtime : system.shared = service.runtime
  run : RunOf service.execution (system.processes 0)

theorem execution_afterRun (rest : WifiService.Task ExecutorError) :
    Execution.after (rest >>= afterRun) = .running (rest >>= afterRun) := by
  cases rest with
  | done executorError => rfl
  | ask request next => rfl

/-! ## Steps -/

def Answered (system : HidSystem) (service : Service σ) : Prop :=
  ∃ events next, Run HidStep system events next ∧ Shows service next

theorem Shows.answered (shows : Shows after system) : Answered system after :=
  ⟨[], system, .nil _, shows⟩

theorem answered_step {event : HidEvent} {next : HidSystem}
    (step : HidStep system event next) (shows : Shows after next) :
    Answered system after :=
  ⟨[event], next, .cons step (.nil _), shows⟩

theorem Shows.free (shows : Shows before system)
    (idle : before.execution = .none ∨ before.execution = .waiting) :
    system.processes 0 = none := by
  have run := shows.run
  rcases idle with idle | idle
  all_goals
    rw [idle] at run
    generalize system.processes 0 = process at run
    cases run
    rfl

/-- A call of the task is one of its run, or one of the two that follow. -/
theorem Shows.execute {device : Device σ} {request : taskCalls.Call}
    {next : taskCalls.Answer request → WifiService.Task Unit}
    {answer : taskCalls.Answer request} (shows : Shows before system)
    (here : before.execution = .running (.ask request next))
    (taken : taskEnvironment environment request before.toDevice answer device) :
    Answered system { before with
      toDevice := device
      execution := .after (next answer) } := by
  have run := shows.run
  have runner := taskEnvironment_runner taken
  rw [here] at run
  generalize process_eq : system.processes 0 = process at run
  generalize task_eq : Program.ask request next = task at run
  cases run with
  | @running rest live =>
      cases rest with
      | ask request rest =>
          cases task_eq
          rw [← shows.runtime] at runner
          apply answered_step (.scheduleCall process_eq runner)
          refine ⟨rfl, ?_⟩
          rw [put_self]
          change RunOf (.after (rest answer >>= afterRun)) _
          rw [execution_afterRun]
          exact .running
      | done executorError =>
          cases task_eq
          apply answered_step (.scheduleEnds process_eq)
          refine ⟨shows.runtime.trans runner.symm, ?_⟩
          rw [drop_self]
          exact .marked
  | marked =>
      cases task_eq
      apply Shows.answered
      refine ⟨shows.runtime.trans runner.symm, ?_⟩
      rw [process_eq]
      exact .none

theorem service_answered
    (step : ServiceStep environment before event after)
    (sound : Sound before) (shows : Shows before system) :
    Answered system after := by
  have coherent := sound.coherent
  cases step with
  | taskCreated here =>
      have free := shows.free (.inl (coherent.none (.inr (.inl here))))
      exact Shows.answered ⟨shows.runtime, free ▸ .waiting⟩
  | notResponded here =>
      have free := shows.free (.inr (coherent.waiting (.inl here)))
      exact Shows.answered ⟨shows.runtime, free ▸ .none⟩
  | notify here =>
      have free := shows.free (.inr (coherent.waiting (.inr here)))
      apply answered_step (.enter free (.schedule _ dedicatedCountdownSeconds))
      refine ⟨shows.runtime, ?_⟩
      change RunOf (.running (executionTask _)) _
      rw [put_self, executionTask_eq]
      exact .running
  | execute here taken => exact shows.execute here taken
  | connected =>
      apply answered_step .connected
      exact ⟨congrArg (typxHidRuntimeSetConnected · true) shows.runtime,
        shows.run⟩
  | disconnected =>
      apply answered_step .disconnected
      exact ⟨congrArg (typxHidRuntimeSetConnected · false) shows.runtime,
        shows.run⟩
  | requestHidStop _ =>
      apply answered_step .requestStop
      exact ⟨congrArg typxHidRuntimeRequestStop shows.runtime, shows.run⟩
  | consoleStop =>
      apply answered_step .requestStop
      exact ⟨congrArg typxHidRuntimeRequestStop shows.runtime, shows.run⟩
  | _ => exact Shows.answered ⟨shows.runtime, shows.run⟩

/-! ## Runs -/

/-- Every run of the service is one of the runtime and its runs. -/
theorem service_showsRun {world : σ} {events : List ServiceEvent}
    (run : Run (ServiceStep environment) (boot world) events after) :
    Answered initialSystem after := by
  have kept := run.invariant
    (fun service => Sound service ∧ Answered initialSystem service)
    (fun _ => True) ?_ (fun _ _ => trivial)
    ⟨sound_boot world, Shows.answered ⟨rfl, .none⟩⟩
  · exact kept.2
  · intro before event after _ holds step
    rcases holds with ⟨sound, earlier, system, reached, shows⟩
    rcases service_answered step sound shows with ⟨later, next, taken, still⟩
    refine ⟨step.sound sound, earlier ++ later, next, ?_, still⟩
    exact run_append_iff.mpr ⟨system, reached, taken⟩

end Typxen.HidRuntime
