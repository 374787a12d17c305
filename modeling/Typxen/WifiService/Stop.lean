import Typxen.WifiService.OneRun
import Typxen.WifiUpload.Reassembly

/-! # Acknowledged stops

A stop travels through the upload and through `s_runtime`. The runner clears
the second flag when it takes the runtime, and a key may follow the poll that
came just before the flag was set; any other stop ends the run before its next
key. -/

namespace Typxen.WifiService

open Interaction Protocol WifiUpload Transition

variable {σ : Type} {environment : Environment callbacks σ}

def ServiceEvent.starts : ServiceEvent → Bool
  | .prepareStart _ _ accepted => accepted
  | _ => false

def ServiceEvent.pressesKey : ServiceEvent → Bool
  | .execute ⟨.inl (.keyDown _ _), _⟩ => true
  | _ => false

/-- Between an invocation's first call, which found the job in COUNTDOWN or
EXECUTING, and the next accepted start, its job sends no key after its second
call. -/
def StopKept (invocation : Nat) (events : List ServiceEvent) : Prop :=
  ∀ (first second third : List ServiceEvent) (found : UploadStatus),
    events = first ++ .requestUploadStop invocation found .ok ::
      (second ++ .requestHidStop invocation :: third) →
    found = .countdown ∨ found = .executing →
    (∀ event ∈ second ++ third, event.starts = false) →
    ∀ event ∈ third, event.pressesKey = false

theorem StopKept.immediate {invocation : Nat} {first third : List ServiceEvent}
    (kept : StopKept invocation (first ++
      .requestUploadStop invocation .countdown .ok ::
        .requestHidStop invocation :: third))
    (same : ∀ event ∈ third, event.starts = false) :
    ∀ event ∈ third, event.pressesKey = false :=
  kept first [] third .countdown rfl (.inl rfl) same

def aboutToAcquire : Task Unit → Bool
  | .ask (.inr .acquire) _ => true
  | _ => false

def aboutToPress : Task Unit → Bool
  | .ask (.inl (.keyDown _ _)) _ => true
  | _ => false

/-- A stop flag that is set now is seen before the next key. -/
def Execution.heeds : Execution → Bool
  | .none => true
  | .waiting => false
  | .running task => !aboutToAcquire task && !aboutToPress task

/-- `start_handler` goes on to notify its task. -/
def StartPoint.launching : StartPoint → Bool
  | .idle => false
  | .startFailed => false
  | _ => true

/-- The job that is being stopped has no task, or one that has taken the
runtime and is not between a poll and the key that follows it. -/
def Heard (service : Service σ) : Prop :=
  service.upload.status = .stopping →
    service.start.launching = false ∧ service.execution.heeds = true

/-- Steps in which `typx_ble_hid_request_stop` is only called when it is
heard. -/
def HeardStep (environment : Environment callbacks σ) (before : Service σ)
    (event : ServiceEvent) (after : Service σ) : Prop :=
  ServiceStep environment before event after ∧
    ∀ invocation, event = .requestHidStop invocation → Heard before

theorem heardRun {before after : Service σ} {events : List ServiceEvent}
    (run : Run (ServiceStep environment) before events after)
    (other : ∀ event ∈ events, ∀ invocation, event ≠ .requestHidStop invocation) :
    Run (HeardStep environment) before events after :=
  run.mono (fun event => ∀ invocation, event ≠ .requestHidStop invocation)
    (fun _ _ _ other step =>
      ⟨step, fun invocation same => absurd same (other invocation)⟩)
    other

/-! ## From the first call to the second -/

def Acknowledged (service : Service σ) : Prop :=
  service.upload.status = .stopping ∨
    service.start = .idle ∧ service.execution = .none

section Steps

variable {before after : Service σ} {event : ServiceEvent}

theorem ServiceStep.acknowledged (step : ServiceStep environment before event after)
    (sound : Sound before) (same : event.starts = false)
    (acknowledged : Acknowledged before) : Acknowledged after := by
  rcases acknowledged with stopping | ⟨idle, none⟩
  · cases step with
    | prepared _ _ => cases same
    | refused refused =>
        rw [prepareStart_error refused]
        exact .inl stopping
    | startFailed _ =>
        rcases startFailed_status with kept | countdown
        · exact .inl (kept.trans stopping)
        · cases stopping.symm.trans countdown
    | requestUploadStop _ stopped =>
        rcases requestStop_status stopped with kept | ⟨_, now⟩
        · exact .inl (kept.trans stopping)
        · exact .inl now
    | @execute device request next answer here taken =>
        rcases sound.execute here answer with ⟨start, _, _, rule, rest⟩
        rcases task_status taken rule with rfl | kept | ⟨countdown, _⟩
        · exact .inr ⟨start, Follows.after rest⟩
        · exact .inl (kept.trans stopping)
        · cases stopping.symm.trans countdown
    | upload other taken =>
        have active : Active before.upload.status := .inr (.inr stopping)
        exact .inl ((otherHandlers_status taken.moves other active).trans stopping)
    | _ => exact .inl stopping
  · cases step with
    | prepared _ _ => cases same
    | markActive _ here => cases idle.symm.trans here
    | taskCreated here => cases idle.symm.trans here
    | taskNotCreated here => cases idle.symm.trans here
    | responded here => cases idle.symm.trans here
    | notResponded here => cases idle.symm.trans here
    | notify here => cases idle.symm.trans here
    | startFailed here => cases idle.symm.trans here
    | execute here _ => cases none.symm.trans here
    | _ => exact .inr ⟨idle, none⟩

/-! ## After the second call -/

inductive Silenced (runtime : HidRuntime) (task : Task Unit) : TaskPhase → Prop
  | stopping {polled : Bool} : runtime.stopRequested = true →
      (polled = true → aboutToPress task = false) →
      Silenced runtime task (.acquired polled)
  | ended : Silenced runtime task .ended
  | completed : Silenced runtime task .completed

structure Stopped (service : Service σ) : Prop where
  start : service.start.launching = false
  silenced : ∀ task, service.execution = .running task →
    ∃ phase, Follows task phase ∧ Silenced service.runtime task phase
  notified : service.execution ≠ .waiting

theorem pressesKey_of_other {call : Callback} {answer : Callback.Answer call}
    (other : Executor.Polls call = false) :
    ServiceEvent.pressesKey (.execute ⟨.inl call, answer⟩) = false := by
  cases call <;> first | rfl | cases other

/-- A call of a silenced task presses no key, and the task stays silenced. -/
theorem Silenced.step {request : taskCalls.Call}
    {next : taskCalls.Answer request → Task Unit}
    {answer : taskCalls.Answer request} {before after : Device σ}
    {phase middle : TaskPhase}
    (silenced : Silenced before.runtime (.ask request next) phase)
    (taken : taskEnvironment environment request before answer after)
    (rule : TaskMonitor phase ⟨request, answer⟩ middle) :
    ServiceEvent.pressesKey (.execute ⟨request, answer⟩) = false ∧
      ∀ task, Silenced after.runtime task middle := by
  have unpolled {runtime : HidRuntime} (stop : runtime.stopRequested = true)
      (task : Task Unit) : Silenced runtime task (.acquired false) :=
    .stopping stop (fun polled => Bool.noConfusion polled)
  cases silenced with
  | stopping stop unready =>
      cases rule with
      | executor polls =>
          rw [(executor_device taken).1]
          cases polls with
          | poll answer =>
              have answered : answer = true := by
                rw [show answer = _ from taken.1, stop, Bool.true_or]
              subst answered
              exact ⟨rfl, unpolled stop⟩
          | press _ => exact Bool.noConfusion (unready rfl)
          | other _ other => exact ⟨pressesKey_of_other other, unpolled stop⟩
      | wait _ _ => exact ⟨rfl, unpolled (taken.2 ▸ stop)⟩
      | stopFlag _ => exact ⟨rfl, unpolled (taken.2 ▸ stop)⟩
      | countdownComplete _ =>
          rw [show after = _ from taken]
          exact ⟨rfl, unpolled stop⟩
      | giveUp _ _ => exact ⟨rfl, fun _ => .ended⟩
  | ended =>
      cases rule with
      | markTerminal _ => exact ⟨rfl, fun _ => .ended⟩
      | complete _ _ => exact ⟨rfl, fun _ => .completed⟩
  | completed => cases rule

theorem Silenced.withStop {before after : HidRuntime} {task : Task Unit}
    {phase : TaskPhase} (silenced : Silenced before task phase)
    (kept : before.stopRequested = true → after.stopRequested = true) :
    Silenced after task phase := by
  cases silenced with
  | stopping stop unready => exact .stopping (kept stop) unready
  | ended => exact .ended
  | completed => exact .completed

theorem Stopped.elsewhere (stopped : Stopped before)
    (sameStart : after.start = before.start)
    (sameExecution : after.execution = before.execution)
    (kept : before.runtime.stopRequested = true →
      after.runtime.stopRequested = true) : Stopped after where
  start := by
    rw [sameStart]
    exact stopped.start
  silenced task here := by
    rw [sameExecution] at here
    rcases stopped.silenced task here with ⟨phase, follows, silenced⟩
    exact ⟨phase, follows, silenced.withStop kept⟩
  notified := by
    rw [sameExecution]
    exact stopped.notified

theorem ServiceStep.stopped (step : ServiceStep environment before event after)
    (same : event.starts = false) (stopped : Stopped before) :
    Stopped after ∧ event.pressesKey = false := by
  have landed := stopped.start
  cases step with
  | prepared _ _ => cases same
  | markActive _ here => cases here ▸ landed
  | taskCreated here => cases here ▸ landed
  | taskNotCreated here => cases here ▸ landed
  | responded here => cases here ▸ landed
  | notResponded here => cases here ▸ landed
  | notify here => cases here ▸ landed
  | startFailed _ => exact ⟨⟨rfl, stopped.silenced, stopped.notified⟩, rfl⟩
  | @execute device request next answer here taken =>
      rcases stopped.silenced _ here with ⟨phase, follows, silenced⟩
      rcases follows answer with ⟨middle, rule, rest⟩
      rcases silenced.step taken rule with ⟨noKey, still⟩
      refine ⟨⟨landed, ?_, ?_⟩, noKey⟩
      · intro task running
        rw [execution_after running] at rest
        exact ⟨middle, rest, still task⟩
      · cases left : next answer <;> simp [Execution.after]
  | refused _ => exact ⟨stopped.elsewhere rfl rfl id, rfl⟩
  | requestUploadStop _ _ => exact ⟨stopped.elsewhere rfl rfl id, rfl⟩
  | requestHidStop _ => exact ⟨stopped.elsewhere rfl rfl fun _ => rfl, rfl⟩
  | upload _ _ => exact ⟨stopped.elsewhere rfl rfl id, rfl⟩
  | connected => exact ⟨stopped.elsewhere rfl rfl id, rfl⟩
  | disconnected => exact ⟨stopped.elsewhere rfl rfl fun _ => rfl, rfl⟩
  | consoleStop => exact ⟨stopped.elsewhere rfl rfl fun _ => rfl, rfl⟩

theorem Follows.aboutToAcquire {task : Task Unit}
    (follows : Follows task .unacquired) : aboutToAcquire task = true := by
  cases task with
  | done value => cases follows
  | ask request next =>
      rcases taskAnswer_nonempty request with ⟨answer⟩
      rcases follows answer with ⟨_, rule, _⟩
      cases rule with
      | acquired => rfl
      | refused => rfl

/-- The second call stops the run, if it is heard. -/
theorem ServiceStep.stops {invocation : Nat}
    (step : ServiceStep environment before (.requestHidStop invocation) after)
    (sound : Sound before) (acknowledged : Acknowledged before)
    (heard : Heard before) : Stopped after := by
  cases step with | requestHidStop _ =>
  rcases acknowledged with stopping | ⟨idle, none⟩
  · rcases heard stopping with ⟨landed, heeds⟩
    refine ⟨landed, ?_, ?_⟩
    · intro task here
      have running : before.execution = .running task := here
      have coherent := sound.coherent
      rw [running] at coherent heeds
      rcases coherent.follows with ⟨_, phase, follows⟩
      simp only [Execution.heeds, Bool.and_eq_true, Bool.not_eq_true'] at heeds
      refine ⟨phase, follows, ?_⟩
      cases phase with
      | unacquired =>
          rw [Follows.aboutToAcquire follows] at heeds
          cases heeds.1
      | acquired polled => exact .stopping rfl fun _ => heeds.2
      | ended => exact .ended
      | completed => exact .completed
    · intro waiting
      rw [show before.execution = .waiting from waiting] at heeds
      cases heeds
  · refine ⟨congrArg StartPoint.launching idle, ?_, ?_⟩
    · intro task here
      cases none.symm.trans here
    · intro waiting
      cases none.symm.trans waiting

end Steps

/-! ## Whole runs -/

theorem sound_run {world : σ} {events : List ServiceEvent} {after : Service σ}
    (run : Run (HeardStep environment) (boot world) events after) :
    Sound after :=
  run.invariant Sound (fun _ => True) (fun _ _ _ _ sound step => step.1.sound sound)
    (fun _ _ => trivial) (sound_boot world)

/-- In every run whose second calls are heard no acknowledged stop is lost. -/
theorem service_keepsHeardStops {world : σ} {events : List ServiceEvent}
    {after : Service σ}
    (run : Run (HeardStep environment) (boot world) events after)
    (invocation : Nat) : StopKept invocation events := by
  intro first second third found split active same event member
  rw [split] at run
  rcases run_middle_iff.mp run with ⟨here, next, start, acknowledge, rest⟩
  rcases run_middle_iff.mp rest with ⟨later, final, middle, stop, finish⟩
  have quiet : ∀ event ∈ second, event.starts = false :=
    fun event within => same event (List.mem_append_left _ within)
  have afterwards : ∀ event ∈ third, event.starts = false :=
    fun event within => same event (List.mem_append_right _ within)
  have sound := sound_run start
  have nextSound := acknowledge.1.sound sound
  have acknowledged : Acknowledged next := by
    cases acknowledge.1 with | requestUploadStop _ stopped =>
    have stopping := requestStop_active active
    rw [stopped] at stopping
    exact .inl stopping
  have pending := middle.invariant
    (fun service => Sound service ∧ Acknowledged service)
    (fun event => event.starts = false)
    (fun _ _ _ quiet holds step =>
      ⟨step.1.sound holds.1, step.1.acknowledged holds.1 quiet holds.2⟩)
    quiet ⟨nextSound, acknowledged⟩
  have stopped := stop.1.stops pending.1 pending.2 (stop.2 invocation rfl)
  have guarded := finish.guarded Stopped (fun event => event.starts = false)
    (fun _ _ _ quiet stopped step => (step.1.stopped quiet stopped).1)
    afterwards stopped
  rcases guarded.step_of_mem (fun _ => True) (fun _ _ _ _ _ => trivial) trivial
    member with ⟨_, _, _, taken⟩
  exact (taken.taken.1.stopped taken.admitted taken.holds).2

/-! ## A stop before the runtime is taken, and one after -/

def startEvents (jobId : Vector UInt8 16) : List ServiceEvent :=
  [.connected, .prepareStart jobId .ready true, .markActive true,
    .createTask true, .respond true, .notify]

def started (job : System σ) : Service σ where
  job := { job with
    upload := { job.upload with status := .countdown, stopRequested := false } }
  runtime := ⟨true, false, false⟩
  start := .idle
  execution := .running (executionTask job.upload.verifiedSchedule)
  stops := fun _ => false

theorem started_run {job : System σ} {jobId : Vector UInt8 16} (world : σ)
    (ready : job.upload.status = .ready) (same : job.upload.jobId = jobId)
    (verified : typxProtocolV1IsVerified job.upload.verifiedSchedule = true) :
    Run (ServiceStep environment) { boot world with job := job }
      (startEvents jobId) (started job) :=
  .cons .connected (.cons (.prepared rfl (prepareStart_ready ready same verified))
    (.cons (.markActive true rfl) (.cons (.taskCreated rfl)
      (.cons (.responded rfl) (.cons (.notify rfl) (.nil _))))))

def withStop (service : Service σ) : Service σ :=
  { service with
    toDevice := (service.withUpload
      (typxWifiUploadRequestStop service.upload).2).withRuntime
        { service.runtime with stopRequested := true }
    stops := Function.update (Function.update service.stops 0 true) 0 false }

theorem withStop_run (environment : Environment callbacks σ)
    {service : Service σ}
    (countdown : service.upload.status = .countdown)
    (fresh : service.stops 0 = false) :
    ∃ acknowledged : Service σ,
      ServiceStep environment service (.requestUploadStop 0 .countdown .ok)
        acknowledged ∧
      ServiceStep environment acknowledged (.requestHidStop 0)
        (withStop service) ∧
      acknowledged.start = service.start ∧
      acknowledged.execution = service.execution := by
  have split : typxWifiUploadRequestStop service.upload =
      (.ok, (typxWifiUploadRequestStop service.upload).2) := by
    apply Prod.ext
    · simp [typxWifiUploadRequestStop, countdown]
    · rfl
  have first : ServiceStep environment service
      (.requestUploadStop 0 service.upload.status .ok) _ :=
    .requestUploadStop fresh split
  rw [countdown] at first
  have armed : Function.update service.stops 0 true 0 = true :=
    Function.update_self ..
  exact ⟨_, first, .requestHidStop armed, rfl, rfl⟩

def letterHash : List UInt8 → Vector UInt8 32 := fun _ => letterDigest

def letterReady : List UploadEvent × System World :=
  reliableRun letterHash (initial blankWorld) (letterUpload.take 3)

def letterCounting (calls : Nat) : List ServiceEvent × Service World :=
  taskRun letterHash calls (started letterReady.2)

theorem letterReady_facts :
    (letterReady.2.upload.status = .ready ∧
      letterReady.2.upload.jobId = letterJob ∧
      typxProtocolV1IsVerified letterReady.2.upload.verifiedSchedule = true ∧
      ∀ event ∈ letterReady.1, otherHandlers event.op = true) ∧
    (taskRun letterHash 30 (withStop (started letterReady.2))).1.any
      ServiceEvent.pressesKey = true ∧
    (letterCounting 2).2.upload.status = .countdown ∧
    (letterCounting 2).2.stops 0 = false ∧
    (letterCounting 2).2.start = .idle ∧
    (letterCounting 2).2.execution.heeds = true := by
  decide +kernel

theorem letterStarted_run :
    Run (ServiceStep (stagingStorage letterHash)) (boot blankWorld)
      (letterReady.1.map .upload ++ startEvents letterJob)
      (started letterReady.2) := by
  rcases letterReady_facts.1 with ⟨ready, same, verified, other⟩
  have uploads := uploadRun_run (reliableRun_run letterHash (initial blankWorld)
    (letterUpload.take 3)) other (boot blankWorld)
  exact run_append_iff.mpr ⟨_, uploads, started_run _ ready same verified⟩

/-- A stop that was acknowledged before the task takes the runtime is lost: the
countdown goes on and the job types. -/
theorem service_losesEarlyStops :
    ∃ (events : List ServiceEvent) (after : Service World),
      Run (ServiceStep (stagingStorage letterHash)) (boot blankWorld) events
        after ∧
      ¬StopKept 0 events := by
  have fresh : (started letterReady.2).stops 0 = false := rfl
  rcases withStop_run (stagingStorage letterHash) rfl fresh with
    ⟨_, first, second, _⟩
  have rest := taskRun_run letterHash 30 (withStop (started letterReady.2))
  rcases List.any_eq_true.mp letterReady_facts.2.1 with ⟨event, member, presses⟩
  refine ⟨_, _, run_middle_iff.mpr ⟨_, _, letterStarted_run, first,
    .cons second rest⟩, ?_⟩
  intro kept
  have silent := kept.immediate ?_ event member
  · exact Bool.noConfusion (presses.symm.trans silent)
  · intro event within
    rcases taskRun_events _ _ _ event within with ⟨call, equal⟩
    rw [equal]
    rfl

theorem service_keepsHeardStops_letter :
    ∃ (first third : List ServiceEvent) (after : Service World),
      Run (HeardStep (stagingStorage letterHash)) (boot blankWorld)
        (first ++ .requestUploadStop 0 .countdown .ok ::
          .requestHidStop 0 :: third) after ∧
      StopKept 0 (first ++ .requestUploadStop 0 .countdown .ok ::
        .requestHidStop 0 :: third) := by
  rcases letterReady_facts.2.2 with ⟨countdown, fresh, idle, heeds⟩
  have start := run_append_iff.mpr
    ⟨_, letterStarted_run, taskRun_run letterHash 2 (started letterReady.2)⟩
  rcases withStop_run (stagingStorage letterHash) countdown fresh with
    ⟨acknowledged, first, second, sameStart, sameExecution⟩
  have rest := taskRun_run letterHash 30 (withStop (letterCounting 2).2)
  have heard : Heard acknowledged := by
    intro _
    rw [sameStart, sameExecution]
    exact ⟨congrArg StartPoint.launching idle, heeds⟩
  have run := run_middle_iff.mpr ⟨_, _, heardRun start ?_, ⟨first, nofun⟩,
    .cons ⟨second, fun _ _ => heard⟩ (heardRun rest ?_)⟩
  · exact ⟨_, _, _, run, service_keepsHeardStops run 0⟩
  · intro event member invocation same
    rw [same] at member
    rcases List.mem_append.mp member with before | during
    · simp [startEvents] at before
    · rcases taskRun_events _ _ _ _ during with ⟨call, equal⟩
      cases equal
  · intro event member invocation same
    rw [same] at member
    rcases taskRun_events _ _ _ _ member with ⟨call, equal⟩
    cases equal

end Typxen.WifiService
