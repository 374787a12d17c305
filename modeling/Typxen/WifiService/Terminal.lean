import Typxen.WifiService.Progress

/-! # Stops and terminal states

`typx_wifi_upload_complete` ignores the state of the job and believes the
runner, which takes a lost link for a stop and may be past its last poll. The
state contract holds when the runner is told to stop only after a stop was
accepted, and a stop is accepted only ahead of another poll. -/

namespace Typxen.WifiService

open Interaction Protocol Executor WifiUpload Transition

variable {σ : Type} {environment : Environment callbacks σ}

/-! ## Polls -/

def polls : taskCalls.Call → Bool
  | .inl .stopRequested => true
  | .inl (.waitUs _) => true
  | .inr (.waitMs _) => true
  | _ => false

def tellsStop : Interaction.Event taskCalls → Bool
  | ⟨.inl .stopRequested, stopped⟩ => stopped
  | ⟨.inr .stopFlag, stopped⟩ => stopped
  | _ => false

def letsGoOn : Interaction.Event taskCalls → Bool
  | ⟨.inl .stopRequested, stopped⟩ => !stopped
  | ⟨.inl (.waitUs _), waited⟩ => waited
  | ⟨.inr (.waitMs _), waited⟩ => waited
  | _ => false

def PollsAhead : Task Unit → Prop
  | .done _ => True
  | .ask request next => polls request = true ∨
      request ≠ .inr (.complete .ok) ∧ ∀ answer, PollsAhead (next answer)

section Polling

variable {total : UInt32}

theorem TaskOutcome.told {before after : TaskState}
    {event : Interaction.Event taskCalls}
    (rule : TaskOutcome total before event after)
    (told : after.run.told = true) :
    before.run.told = true ∨ tellsStop event = true := by
  cases rule with
  | executor inner =>
      cases inner with
      | poll answer => exact Bool.or_eq_true_iff.mp told
      | wait _ _ => exact .inl told
      | report _ _ _ _ => exact .inl told
      | other _ _ => exact .inl told
  | stopFlag answer => exact Bool.or_eq_true_iff.mp told
  | releaseAll _ => exact .inl told
  | wait _ _ => exact .inl told
  | countdownComplete _ => exact .inl told
  | complete _ _ => exact .inl told
  | runner _ _ => exact .inl told

theorem TaskOutcome.halted {before after : TaskState}
    {event : Interaction.Event taskCalls}
    (rule : TaskOutcome total before event after)
    (halted : before.run.halted = true) : after.run.halted = true := by
  cases rule with
  | executor inner =>
      cases inner with
      | poll _ => exact Bool.or_eq_true_iff.mpr (.inl halted)
      | wait _ _ => exact Bool.or_eq_true_iff.mpr (.inl halted)
      | report _ _ _ _ => exact halted
      | other _ _ => exact halted
  | wait _ _ => exact Bool.or_eq_true_iff.mpr (.inl halted)
  | stopFlag _ => exact halted
  | releaseAll _ => exact halted
  | countdownComplete _ => exact halted
  | complete _ _ => exact halted
  | runner _ _ => exact halted

theorem polls_tracked {call : Callback} (untracked : Tracked call = false) :
    polls (.inl call) = false := by
  cases call <;> first | rfl | cases untracked

theorem polls_untracked {call : RunnerCall} (untracked : Untracked call = true) :
    polls (.inr call) = false := by
  cases call <;> first | rfl | cases untracked

theorem TaskOutcome.halts {before after : TaskState}
    {event : Interaction.Event taskCalls}
    (rule : TaskOutcome total before event after)
    (poll : polls event.call = true) (refused : letsGoOn event = false) :
    after.run.halted = true := by
  cases rule with
  | executor inner =>
      cases inner with
      | poll answer =>
          cases answer with
          | true => exact Bool.or_true _
          | false => cases refused
      | wait _ answer =>
          cases answer with
          | true => cases refused
          | false => exact Bool.or_true _
      | report _ _ _ _ => cases poll
      | other _ untracked =>
          rw [polls_tracked untracked] at poll
          cases poll
  | wait _ answer =>
      cases answer with
      | true => cases refused
      | false => exact Bool.or_true _
  | runner _ untracked =>
      rw [polls_untracked untracked] at poll
      cases poll
  | stopFlag _ => cases poll
  | releaseAll _ => cases poll
  | countdownComplete _ => cases poll
  | complete _ _ => cases poll

/-- A run that a poll or a wait has ended does not complete with OK. -/
theorem Accounts.pollsAhead {task : Task Unit} {state : TaskState}
    (accounts : Accounts total task state) (halted : state.run.halted = true) :
    PollsAhead task := by
  induction task generalizing state with
  | done value => trivial
  | ask request next induction =>
      right
      constructor
      · intro completes
        subst completes
        rcases accounts () with ⟨_, rule, _⟩
        cases rule with
        | runner _ untracked => cases untracked
        | complete _ outcome =>
            have unhalted := outcome.unhalted rfl
            rw [halted] at unhalted
            cases unhalted
      · intro answer
        rcases accounts answer with ⟨later, rule, rest⟩
        exact induction answer rest (rule.halted halted)

theorem executionTask_pollsAhead (schedule : VerifiedSchedule) :
    PollsAhead (executionTask schedule) := by
  unfold executionTask typxBleHidRunScheduleCountdownObserved
  split
  · refine .inr ⟨nofun, fun marked => .inr ⟨?_, fun _ => trivial⟩⟩
    cases marked <;> nofun
  refine .inr ⟨nofun, fun acquired => ?_⟩
  cases acquired with
  | false =>
      refine .inr ⟨nofun, fun marked => .inr ⟨?_, fun _ => trivial⟩⟩
      cases marked <;> nofun
  | true =>
  refine .inr ⟨nofun, fun released => ?_⟩
  cases released with
  | false =>
      refine .inr ⟨nofun, fun _ => .inr ⟨nofun, fun marked =>
        .inr ⟨?_, fun _ => trivial⟩⟩⟩
      cases marked <;> nofun
  | true => exact .inl rfl

end Polling

/-! ## Timely stops -/

def ServiceEvent.needsPoll : ServiceEvent → Bool
  | .requestUploadStop _ _ _ => true
  | .execute event => letsGoOn event
  | _ => false

/-- The runner is told to stop only in STOPPING, and a run that goes on in
STOPPING has a poll ahead. -/
structure Timely (before : Service σ) (event : ServiceEvent)
    (after : Service σ) : Prop where
  told : ∀ call, event = .execute call → tellsStop call = true →
    before.upload.status = .stopping
  ahead : event.needsPoll = true → after.upload.status = .stopping →
    ∀ task, after.execution = .running task → PollsAhead task

def TimelyStep (environment : Environment callbacks σ) (before : Service σ)
    (event : ServiceEvent) (after : Service σ) : Prop :=
  ServiceStep environment before event after ∧ Timely before event after

section Steps

variable {before after : Service σ} {event : ServiceEvent}

theorem runner_stopping {request : RunnerCall} {before after : Device σ}
    {answer : RunnerCall.Answer request}
    (step : taskEnvironment environment (.inr request) before answer after)
    (stopping : after.upload.status = .stopping) :
    before.upload.status = .stopping := by
  cases request with
  | countdownComplete =>
      rw [show after = _ from step] at stopping
      rcases @markExecuting_status before.upload with
        same | ⟨_, executing⟩
      · exact same.symm.trans stopping
      · cases executing.symm.trans stopping
  | complete executorError =>
      rw [show after = _ from step] at stopping
      exact absurd (.inr (.inr stopping))
        (complete_inactive before.upload executorError).1
  | acquire => exact runner_upload step rfl ▸ stopping
  | giveUp _ => exact runner_upload step rfl ▸ stopping
  | markTerminal => exact runner_upload step rfl ▸ stopping
  | waitMs _ => exact step.2 ▸ stopping
  | stopFlag => exact step.2 ▸ stopping

/-- Only a stop request makes a job STOPPING. -/
theorem ServiceStep.becomes_stopping
    (step : ServiceStep environment before event after)
    (stopping : after.upload.status = .stopping) :
    before.upload.status = .stopping ∨
      ∃ invocation found error, event = .requestUploadStop invocation found error := by
  cases step with
  | prepared _ prepared =>
      cases (prepareStart_ok prepared).2.symm.trans stopping
  | refused refused => exact .inl (prepareStart_error refused ▸ stopping)
  | markActive _ _ => exact .inl stopping
  | taskCreated _ => exact .inl stopping
  | taskNotCreated _ => exact .inl stopping
  | responded _ => exact .inl stopping
  | notResponded _ => exact .inl stopping
  | notify _ => exact .inl stopping
  | startFailed _ =>
      left
      change (typxWifiUploadStartFailed before.upload).2.status = _ at stopping
      rw [typxWifiUploadStartFailed] at stopping
      split_ifs at stopping
      exact stopping
  | requestUploadStop _ _ => exact .inr ⟨_, _, _, rfl⟩
  | requestHidStop _ => exact .inl stopping
  | @execute device request _ _ _ taken =>
      left
      cases request with
      | inl request => exact (executor_device taken).2 ▸ stopping
      | inr request => exact runner_stopping taken stopping
  | @upload event job other taken =>
      left
      have handled : Handled before.upload job.upload :=
        otherHandlers_handled other _ _ _ taken.2.2
      change job.upload.status = .stopping at stopping
      generalize job.upload = next at handled stopping
      cases handled with
      | same same => exact same.status ▸ stopping
      | promoted schedule => cases stopping
      | cleared statuses => simp [stopping] at statuses
  | connected => exact .inl stopping
  | disconnected => exact .inl stopping
  | consoleStop => exact .inl stopping

structure Prompt (service : Service σ) : Prop where
  ahead : service.upload.status = .stopping →
    ∀ task, service.execution = .running task → PollsAhead task
  told : ∀ task, service.execution = .running task →
    ∃ total state, Accounts total task state ∧
      (state.run.told = true → service.upload.status = .stopping)

theorem Prompt.idle (none : ∀ task, after.execution ≠ .running task) :
    Prompt after where
  ahead _ task here := absurd here (none task)
  told task here := absurd here (none task)

theorem Prompt.elsewhere (prompt : Prompt before)
    (execution : after.execution = before.execution)
    (status : before.execution ≠ .none →
      after.upload.status = before.upload.status) : Prompt after where
  ahead stopping task here := by
    rw [execution] at here
    rw [status (by simp [here])] at stopping
    exact prompt.ahead stopping task here
  told task here := by
    rw [execution] at here
    rw [status (by simp [here])]
    exact prompt.told task here

theorem Prompt.execute {device : Device σ} {request : taskCalls.Call}
    {continued : taskCalls.Answer request → Task Unit}
    {answer : taskCalls.Answer request} (prompt : Prompt before)
    (sound : Sound before)
    (here : before.execution = .running (.ask request continued))
    (taken : taskEnvironment environment request before.toDevice answer device)
    (timely : Timely before (.execute ⟨request, answer⟩)
      { before with
        toDevice := device
        execution := .after (continued answer) }) :
    Prompt { before with
      toDevice := device
      execution := .after (continued answer) } := by
  rcases prompt.told _ here with ⟨total, state, accounts, known⟩
  rcases accounts answer with ⟨later, rule, rest⟩
  rcases sound.execute here answer with ⟨_, phase, middle, follows, ends⟩
  have accepted : later.run.told = true → before.upload.status = .stopping := by
    intro told
    rcases rule.told told with earlier | now
    · exact known earlier
    · exact timely.told _ rfl now
  rcases task_status taken follows with completed | same | ⟨countdown, executing⟩
  · -- The job is complete and the task has ended.
    rw [completed] at ends
    apply Prompt.idle
    intro task running
    exact nomatch (Follows.after ends).symm.trans running
  · constructor
    · intro stopping task running
      have earlier : before.upload.status = .stopping := same ▸ stopping
      have left := prompt.ahead earlier _ here
      by_cases goesOn : letsGoOn ⟨request, answer⟩ = true
      · exact timely.ahead goesOn stopping task running
      rw [Bool.not_eq_true] at goesOn
      have next : PollsAhead (continued answer) := by
        rcases left with poll | ⟨_, all⟩
        · exact Accounts.pollsAhead rest (rule.halts poll goesOn)
        · exact all answer
      rw [← execution_after running]
      exact next
    · intro task running
      rw [← execution_after running]
      exact ⟨total, later, rest, fun told => same.trans (accepted told)⟩
  · constructor
    · intro stopping
      cases executing.symm.trans stopping
    · intro task running
      rw [← execution_after running]
      refine ⟨total, later, rest, fun told => ?_⟩
      cases countdown.symm.trans (accepted told)

theorem TimelyStep.prompt (step : TimelyStep environment before event after)
    (sound : Sound before) (prompt : Prompt before) : Prompt after := by
  rcases step with ⟨step, timely⟩
  cases step with
  | prepared _ prepared =>
      have free := sound.free (by simp [Active, (prepareStart_ok prepared).1])
      apply Prompt.idle
      intro task here
      cases free.2.symm.trans here
  | refused refused =>
      exact prompt.elsewhere rfl fun _ => congrArg _ (prepareStart_error refused)
  | markActive _ _ => exact prompt.elsewhere rfl fun _ => rfl
  | taskCreated _ => exact .idle (by simp)
  | taskNotCreated _ => exact prompt.elsewhere rfl fun _ => rfl
  | responded _ => exact prompt.elsewhere rfl fun _ => rfl
  | notResponded _ => exact .idle (by simp)
  | notify _ =>
      constructor
      · intro _ task here
        cases here
        exact executionTask_pollsAhead _
      · intro task here
        cases here
        exact ⟨_, _, executionTask_accounts _, by simp [runningAt]⟩
  | startFailed here =>
      have none := sound.coherent.none (.inr (.inr here))
      apply Prompt.idle
      intro task running
      cases none.symm.trans running
  | requestUploadStop _ stopped =>
      refine ⟨timely.ahead rfl, ?_⟩
      intro task here
      rcases prompt.told task here with ⟨total, state, accounts, known⟩
      refine ⟨total, state, accounts, fun told => ?_⟩
      rcases requestStop_status stopped with same | ⟨_, stopping⟩
      · exact same.trans (known told)
      · exact stopping
  | requestHidStop _ => exact prompt.elsewhere rfl fun _ => rfl
  | execute here taken => exact prompt.execute sound here taken timely
  | upload other taken =>
      refine prompt.elsewhere rfl fun busy => ?_
      exact otherHandlers_status taken.moves other (sound.active (.inr busy))
  | connected => exact prompt.elsewhere rfl fun _ => rfl
  | disconnected => exact prompt.elsewhere rfl fun _ => rfl
  | consoleStop => exact prompt.elsewhere rfl fun _ => rfl

theorem prompt_run {world : σ} {events : List ServiceEvent}
    (run : Run (TimelyStep environment) (boot world) events after) :
    Sound after ∧ Prompt after := by
  apply run.invariant (fun service => Sound service ∧ Prompt service)
    (fun _ => True)
  · intro here event next _ holds step
    exact ⟨step.1.sound holds.1, step.prompt holds.1 holds.2⟩
  · exact fun _ _ => trivial
  · exact ⟨sound_boot world, .idle nofun⟩

end Steps

/-! ## Ends of jobs -/

/-- A job ends in STOPPED or FAILED once a stop was accepted, and in STOPPED
only then. -/
def StopReported (stopped : Bool) (upload : Upload) : Prop :=
  (stopped = true → upload.status = .stopped ∨ upload.status = .error) ∧
    (upload.status = .stopped → stopped = true)

/-- In every run with timely stops the end of each job is the one that the
state contract allows. -/
theorem service_reportsTimelyStops {world : σ} {events : List ServiceEvent}
    {before after : Service σ} {executorError : ExecutorError}
    (run : Run (TimelyStep environment) (boot world) events before)
    (completion : TimelyStep environment before
      (.execute ⟨.inr (.complete executorError), ()⟩) after) :
    StopReported (runRecord events).stopped after.upload := by
  rcases prompt_run run with ⟨sound, prompt⟩
  have recorded := (recorded_run (run.mono (fun _ => True)
    (fun _ _ _ _ step => step.1) fun _ _ => trivial)).2
  rcases completion with ⟨step, timely⟩
  cases step with | @execute device _ continued _ here taken =>
  have counted := recorded.active (sound.active (.inr (by simp [here])))
  have completed : device.upload =
      typxWifiUploadComplete before.upload executorError :=
    congrArg Device.upload taken
  change StopReported _ device.upload
  rw [completed]
  constructor
  · intro stopped
    have left := prompt.ahead (counted.stopping.mp stopped) _ here
    have notOk : executorError ≠ .ok := by
      rcases left with poll | ⟨other, _⟩
      · cases poll
      · exact fun ok => other (ok ▸ rfl)
    by_cases stop : executorError = .stopped
    · simp [typxWifiUploadComplete, stop]
    · simp [typxWifiUploadComplete, notOk, stop]
  · intro status
    have stop : executorError = .stopped := by
      cases executorError <;> simp [typxWifiUploadComplete] at status
      rfl
    rcases prompt.told _ here with ⟨total, state, accounts, known⟩
    rcases accounts () with ⟨_, rule, _⟩
    cases rule with
    | runner _ untracked => cases untracked
    | complete _ outcome =>
        exact counted.stopping.mpr (known (outcome.told stop))

/-! ## Three runs of one job -/

def ServiceEvent.calm : ServiceEvent → Bool
  | .requestUploadStop _ _ _ => false
  | .execute event => !tellsStop event
  | _ => true

theorem calm_timely {before after : Service σ} {events : List ServiceEvent}
    (run : Run (ServiceStep environment) before events after)
    (calm : ∀ event ∈ events, event.calm = true)
    (unstopped : before.upload.status ≠ .stopping) :
    Run (TimelyStep environment) before events after := by
  have guarded := run.guarded (fun service => service.upload.status ≠ .stopping)
    (fun event => event.calm = true) ?_ calm unstopped
  · apply guarded.mono (fun _ => True) _ fun _ _ => trivial
    intro here event next _ step
    refine ⟨step.taken, ?_, fun _ stopping => absurd stopping step.still⟩
    intro call same tells
    have quiet := step.admitted
    rw [same] at quiet
    simp [ServiceEvent.calm, tells] at quiet
  · intro here event next quiet holds step stopping
    rcases step.becomes_stopping stopping with earlier | ⟨_, _, _, same⟩
    · exact holds earlier
    · rw [same] at quiet
      cases quiet

/-- After an accepted stop no more is asked than that nothing lets the run go
on. -/
theorem acknowledged_timely {before after : Service σ}
    {events : List ServiceEvent}
    (run : Run (ServiceStep environment) before events after)
    (ends : ∀ event ∈ events, event.starts = false ∧ event.needsPoll = false)
    (sound : Sound before) (acknowledged : Acknowledged before) :
    Run (TimelyStep environment) before events after := by
  have guarded := run.guarded
    (fun service => Sound service ∧ Acknowledged service)
    (fun event => event.starts = false ∧ event.needsPoll = false) ?_ ends
    ⟨sound, acknowledged⟩
  · apply guarded.mono (fun _ => True) _ fun _ _ => trivial
    intro here event next _ step
    refine ⟨step.taken, ?_, ?_⟩
    · intro call same _
      rcases step.holds.2 with stopping | ⟨_, none⟩
      · exact stopping
      · have taken := step.taken
        rw [same] at taken
        cases taken with | execute running _ => cases none.symm.trans running
    · intro needs
      rw [step.admitted.2] at needs
      cases needs
  · intro here event next quiet holds step
    exact ⟨step.sound holds.1, step.acknowledged holds.1 quiet.1 holds.2⟩

def Execution.aboutToPoll : Execution → Bool
  | .running (.ask request _) => polls request
  | _ => false

theorem Execution.aboutToPoll_ahead {execution : Execution}
    (here : execution.aboutToPoll = true) :
    ∀ task, execution = .running task → PollsAhead task := by
  intro task running
  rw [running] at here
  cases task with
  | done value => cases here
  | ask request next => exact .inl here

theorem withUploadStop_armed (service : Service σ) :
    (withUploadStop service).stops 0 = true := by
  simp [withUploadStop]

theorem withUploadStop_stopping {service : Service σ}
    (executing : service.upload.status = .executing) :
    (withUploadStop service).upload.status = .stopping :=
  requestStop_active (.inr executing)

theorem withUploadStop_timely {service : Service σ}
    (executing : service.upload.status = .executing)
    (free : service.stops 0 = false)
    (ahead : ∀ task, service.execution = .running task → PollsAhead task) :
    TimelyStep environment service (.requestUploadStop 0 .executing .ok)
      (withUploadStop service) := by
  refine ⟨withUploadStop_step executing free, ?_, fun _ _ => ahead⟩
  intro call same
  cases same

theorem completion_timely {before after : Service σ}
    {executorError : ExecutorError}
    (completion : ServiceStep environment before
      (.execute ⟨.inr (.complete executorError), ()⟩) after) :
    TimelyStep environment before
      (.execute ⟨.inr (.complete executorError), ()⟩) after := by
  refine ⟨completion, ?_, ?_⟩
  · intro call same tells
    cases same
    cases tells
  · intro needs
    cases needs

def withHidStop (service : Service σ) : Service σ :=
  { service with
    toDevice := service.withRuntime { service.runtime with stopRequested := true }
    stops := Function.update service.stops 0 false }

def withoutLink (service : Service σ) : Service σ :=
  { service with
    toDevice := service.withRuntime {
      connected := false, running := false, stopRequested := true } }

def letterStopped : List ServiceEvent × Service World :=
  taskRun letterHash 6 (withHidStop (withUploadStop (letterCounting 58).2))

def letterCut : List ServiceEvent × Service World :=
  taskRun letterHash 5 (withoutLink (letterCounting 3).2)

theorem letterTerminal_facts :
    (runRecord (letterEvents 61 ++ .requestUploadStop 0 .executing .ok ::
        letterStopping.1)).stopped = true ∧
    completing letterCut.2.execution = some .stopped ∧
    (runRecord (letterEvents 3 ++ .disconnected :: letterCut.1)).stopped =
      false ∧
    (letterCounting 58).2.upload.status = .executing ∧
    (letterCounting 58).2.stops 0 = false ∧
    (∀ event ∈ letterEvents 58, event.calm = true) ∧
    (letterCounting 58).2.execution.aboutToPoll = true ∧
    (∀ event ∈ letterStopped.1,
      event.starts = false ∧ event.needsPoll = false) ∧
    completing letterStopped.2.execution = some .stopped := by
  decide +kernel

/-- A stop that is accepted after the last poll that sees it ends in COMPLETED,
and a link that is lost in the countdown ends the job in STOPPED. -/
theorem service_confusesStops :
    (∃ (events : List ServiceEvent) (before after : Service World),
      Run (ServiceStep (stagingStorage letterHash)) (boot blankWorld) events
        before ∧
      ServiceStep (stagingStorage letterHash) before
        (.execute ⟨.inr (.complete .ok), ()⟩) after ∧
      (runRecord events).stopped = true ∧ after.upload.status = .completed) ∧
    ∃ (events : List ServiceEvent) (before after : Service World),
      Run (ServiceStep (stagingStorage letterHash)) (boot blankWorld) events
        before ∧
      ServiceStep (stagingStorage letterHash) before
        (.execute ⟨.inr (.complete .stopped), ()⟩) after ∧
      (runRecord events).stopped = false ∧ after.upload.status = .stopped := by
  rcases letterTerminal_facts with ⟨accepted, cut, unstopped, _⟩
  constructor
  · rcases completing_step letterProgress_facts.2.2.2.2.1 with
      ⟨after, completion, upload⟩
    exact ⟨_, _, after, letterStopping_run, completion, accepted,
      congrArg Upload.status upload⟩
  · rcases completing_step cut with ⟨after, completion, upload⟩
    exact ⟨_, _, after, run_middle_iff.mpr ⟨_, _, letterEvents_run 3,
      .disconnected, taskRun_run letterHash 5 _⟩, completion, unstopped,
      congrArg Upload.status upload⟩

theorem service_reportsTimelyStops_letter :
    ∃ (events : List ServiceEvent) (before after : Service World),
      Run (TimelyStep (stagingStorage letterHash)) (boot blankWorld) events
        before ∧
      TimelyStep (stagingStorage letterHash) before
        (.execute ⟨.inr (.complete .stopped), ()⟩) after ∧
      StopReported (runRecord events).stopped after.upload := by
  rcases letterTerminal_facts.2.2.2 with
    ⟨executing, free, calm, polling, ends, completes⟩
  have start := letterEvents_run 58
  have stopping := withUploadStop_stopping executing
  have rest : Run (ServiceStep (stagingStorage letterHash))
      (withUploadStop (letterCounting 58).2)
      (.requestHidStop 0 :: letterStopped.1) letterStopped.2 :=
    .cons (.requestHidStop (withUploadStop_armed _))
      (taskRun_run letterHash 6 _)
  have timely : TimelyStep (stagingStorage letterHash) _ _ _ :=
    withUploadStop_timely executing free (Execution.aboutToPoll_ahead polling)
  have sound := timely.1.sound (recorded_run start).1
  have run := run_middle_iff.mpr ⟨_, _, calm_timely start calm nofun, timely,
    acknowledged_timely rest ?_ sound (.inl stopping)⟩
  · rcases completing_step completes with ⟨after, completion, _⟩
    have last := completion_timely completion
    exact ⟨_, _, after, run, last, service_reportsTimelyStops run last⟩
  · intro event member
    rcases List.mem_cons.mp member with same | later
    · rw [same]
      exact ⟨rfl, rfl⟩
    · exact ends event later

end Typxen.WifiService
