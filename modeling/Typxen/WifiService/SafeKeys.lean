import Typxen.WifiService.Link
import Typxen.WifiService.Stop

/-! # Keys and the connection that was declared safe

A job's keys go to the connection whose release was confirmed when the START
was accepted, unless the host comes back while the run can still overlook that
it was away. -/

namespace Typxen.WifiService

open Interaction Protocol WifiUpload Transition ExecutionSafety

variable {σ : Type} {environment : Environment callbacks σ}

def LinkedEvent.pressesKey : LinkedEvent → Bool
  | .service event => event.pressesKey
  | _ => false

/-- The job was accepted on a ready status, and its connection is still the
current one. -/
def KeyConfirmed (linked : Linked σ) : Prop :=
  ∃ reading, linked.job = some reading ∧ reading.hid.ready = true ∧
    reading.moved = false ∧
    linked.safety.shared.safety.connectionGeneration = reading.hid.generation

/-! ## When a host may come back -/

/-- The run has yet to take the runtime, it does not know that it is to stop,
or it is past the poll before its next key. -/
def Execution.exposed (runtime : HidRuntime) : Execution → Bool
  | .none => false
  | .waiting => true
  | .running task =>
      aboutToAcquire task || aboutToPress task ||
        runtime.running && !runtime.stopRequested

/-- A START on a ready status that does not yet heed a disconnection. -/
def Exposed (linked : Linked σ) : Prop :=
  (∃ reading, linked.reading = some reading ∧ reading.hid.ready = true) ∨
    linked.service.start.launching = true ∨
    linked.service.execution.exposed linked.service.runtime = true

def LinkedEvent.connects : LinkedEvent → Bool
  | .service .connected => true
  | .safety .connected => true
  | _ => false

/-- No host connects to an exposed run, and no key is pressed inside the
callback of a disconnection. -/
def Cautious (linked : Linked σ) (event : LinkedEvent) : Prop :=
  (event.connects = true → ¬Exposed linked) ∧
    (event.pressesKey = true → linked.callback ≠ .disconnecting)

def CautiousStep (environment : Environment callbacks σ) (before : Linked σ)
    (event : LinkedEvent) (after : Linked σ) : Prop :=
  LinkedStep environment before event after ∧ Cautious before event

/-! ## The invariant -/

structure Current (linked : Linked σ) (reading : Reading) : Prop where
  ready : reading.hid.ready = true
  same : reading.moved = false →
    linked.safety.shared.safety.connectionGeneration = reading.hid.generation
  unmoved : linked.service.runtime.connected = true →
    linked.callback ≠ .disconnecting → reading.moved = false

def JobCurrent (linked : Linked σ) : Prop :=
  ∃ reading, linked.job = some reading ∧ Current linked reading

inductive Trusts (linked : Linked σ) (task : Task Unit) : TaskPhase → Prop
  | unacquired : JobCurrent linked → Trusts linked task .unacquired
  | acquired {polled : Bool} :
      (linked.service.runtime.stopRequested = false →
        linked.service.runtime.running = true ∧ JobCurrent linked) →
      (polled = true → aboutToPress task = true → JobCurrent linked) →
      Trusts linked task (.acquired polled)
  | ended : Trusts linked task .ended
  | completed : Trusts linked task .completed

structure Trusted (linked : Linked σ) : Prop where
  sound : Sound linked.service
  reading : ∀ reading, linked.reading = some reading →
    reading.hid.ready = true → Current linked reading
  launching : linked.service.start.launching = true → JobCurrent linked
  running : ∀ task, linked.service.execution = .running task →
    ∃ phase, Follows task phase ∧ Trusts linked task phase

theorem keyConfirmed_of_current {linked : Linked σ} (current : JobCurrent linked)
    (connected : linked.service.runtime.connected = true)
    (outside : linked.callback ≠ .disconnecting) : KeyConfirmed linked := by
  rcases current with ⟨reading, here, current⟩
  have unmoved := current.unmoved connected outside
  exact ⟨reading, here, current.ready, unmoved, current.same unmoved⟩

/-! ## What a step keeps -/

section Frame

variable {before after : Linked σ} {reading : Reading} {task : Task Unit}
  {phase : TaskPhase}

theorem Current.later (current : Current before reading)
    (generation : after.safety.shared.safety.connectionGeneration =
      before.safety.shared.safety.connectionGeneration)
    (unmoved : after.service.runtime.connected = true →
      after.callback ≠ .disconnecting →
      before.service.runtime.connected = true ∧
        before.callback ≠ .disconnecting) : Current after reading where
  ready := current.ready
  same still := generation.trans (current.same still)
  unmoved connected outside := by
    rcases unmoved connected outside with ⟨was, outside⟩
    exact current.unmoved was outside

theorem Current.moved (current : Current before reading)
    (gone : after.callback = .disconnecting) :
    Current after { reading with moved := true } where
  ready := current.ready
  same still := by cases still
  unmoved _ outside := absurd gone outside

theorem JobCurrent.later (job : JobCurrent before)
    (sameJob : after.job = before.job)
    (generation : after.safety.shared.safety.connectionGeneration =
      before.safety.shared.safety.connectionGeneration)
    (unmoved : after.service.runtime.connected = true →
      after.callback ≠ .disconnecting →
      before.service.runtime.connected = true ∧
        before.callback ≠ .disconnecting) : JobCurrent after := by
  rcases job with ⟨reading, here, current⟩
  exact ⟨reading, sameJob.trans here, current.later generation unmoved⟩

theorem Trusts.later (trusts : Trusts before task phase)
    (job : JobCurrent before → JobCurrent after)
    (flags : after.service.runtime.stopRequested = false →
      before.service.runtime.stopRequested = false ∧
        after.service.runtime.running = before.service.runtime.running) :
    Trusts after task phase := by
  cases trusts with
  | unacquired current => exact .unacquired (job current)
  | acquired ignorant pressing =>
      refine .acquired ?_ fun polled presses => job (pressing polled presses)
      intro unstopped
      rcases flags unstopped with ⟨was, running⟩
      rcases ignorant was with ⟨holds, current⟩
      exact ⟨running.trans holds, job current⟩
  | ended => exact .ended
  | completed => exact .completed

theorem Trusted.later (trusted : Trusted before) (sound : Sound after.service)
    (readings : ∀ reading, after.reading = some reading →
      reading.hid.ready = true → Current after reading)
    (job : JobCurrent before → JobCurrent after)
    (start : after.service.start.launching = true →
      before.service.start.launching = true)
    (execution : ∀ task, after.service.execution = .running task →
      before.service.execution = .running task)
    (flags : after.service.runtime.stopRequested = false →
      before.service.runtime.stopRequested = false ∧
        after.service.runtime.running = before.service.runtime.running) :
    Trusted after where
  sound := sound
  reading := readings
  launching launches := job (trusted.launching (start launches))
  running task here := by
    rcases trusted.running task (execution task here) with
      ⟨phase, follows, trusts⟩
    exact ⟨phase, follows, trusts.later job flags⟩

theorem Trusted.unexposed (trusted : Trusted before)
    (unexposed : ¬Exposed before) (sound : Sound after.service)
    (readings : ∀ reading, after.reading = some reading →
      ∃ old, before.reading = some old ∧ old.hid = reading.hid)
    (sameStart : after.service.start = before.service.start)
    (sameExecution : after.service.execution = before.service.execution)
    (sameStop : after.service.runtime.stopRequested =
      before.service.runtime.stopRequested) : Trusted after where
  sound := sound
  reading reading here ready := by
    rcases readings reading here with ⟨old, was, same⟩
    rw [← same] at ready
    exact absurd (.inl ⟨old, was, ready⟩) unexposed
  launching launches := by
    rw [sameStart] at launches
    exact absurd (.inr (.inl launches)) unexposed
  running task here := by
    rw [sameExecution] at here
    have hidden : ∀ {exposure : Prop},
        (exposure → before.service.execution.exposed
          before.service.runtime = true) → ¬exposure :=
      fun exposes exposure => unexposed (.inr (.inr (exposes exposure)))
    rw [here] at hidden
    rcases trusted.running task here with ⟨phase, follows, trusts⟩
    refine ⟨phase, follows, ?_⟩
    cases trusts with
    | unacquired _ =>
        refine absurd (Follows.aboutToAcquire follows) (hidden ?_)
        intro acquires
        simp [Execution.exposed, acquires]
    | acquired ignorant _ =>
        refine .acquired ?_ ?_
        · intro unstopped
          rw [sameStop] at unstopped
          refine absurd (ignorant unstopped).1 (hidden ?_)
          intro running
          simp [Execution.exposed, running, unstopped]
        · intro _ presses
          refine absurd presses (hidden ?_)
          intro presses
          simp [Execution.exposed, presses]
    | ended => exact .ended
    | completed => exact .completed

end Frame

section Steps

theorem task_connected {request : taskCalls.Call} {before after : Device σ}
    {answer : taskCalls.Answer request} {phase middle : TaskPhase}
    (step : taskEnvironment environment request before answer after)
    (rule : TaskMonitor phase ⟨request, answer⟩ middle) :
    after.runtime.connected = before.runtime.connected := by
  cases rule with
  | acquired =>
      rw [step.2]
      split <;> rfl
  | refused =>
      rw [step.2]
      split <;> rfl
  | executor _ => rw [(executor_device step).1]
  | wait _ _ => rw [step.2]
  | stopFlag _ => rw [step.2]
  | countdownComplete _ => exact step ▸ rfl
  | giveUp _ _ => exact step ▸ rfl
  | markTerminal _ => exact step ▸ rfl
  | complete _ _ => exact step ▸ rfl

theorem Trusts.step {request : taskCalls.Call}
    {next : taskCalls.Answer request → Task Unit}
    {answer : taskCalls.Answer request} {before after : Linked σ}
    {phase middle : TaskPhase}
    (trusts : Trusts before (.ask request next) phase)
    (taken : taskEnvironment environment request before.service.toDevice answer
      after.service.toDevice)
    (rule : TaskMonitor phase ⟨request, answer⟩ middle)
    (job : JobCurrent before → JobCurrent after) (task : Task Unit) :
    Trusts after task middle := by
  have unpolled :
      (after.service.runtime.stopRequested = false →
        after.service.runtime.running = true ∧ JobCurrent after) →
      Trusts after task (.acquired false) :=
    fun ignorant => .acquired ignorant (fun polled => Bool.noConfusion polled)
  cases trusts with
  | unacquired current =>
      cases rule with
      | acquired =>
          apply unpolled
          intro _
          refine ⟨?_, job current⟩
          rcases taken with ⟨decided, moved⟩
          rw [← decided, if_pos rfl] at moved
          rw [moved]
          rfl
      | refused => exact .ended
  | acquired ignorant pressing =>
      have kept (same : after.service.runtime = before.service.runtime) :
          after.service.runtime.stopRequested = false →
            after.service.runtime.running = true ∧ JobCurrent after := by
        intro unstopped
        rw [same] at unstopped ⊢
        rcases ignorant unstopped with ⟨running, current⟩
        exact ⟨running, job current⟩
      cases rule with
      | executor polls =>
          have same := (executor_device taken).1
          cases polls with
          | poll answer =>
              refine .acquired (kept same) ?_
              intro polled _
              have unstopped : before.service.runtime.stopRequested = false := by
                rw [show answer = _ from taken.1] at polled
                simp only [Bool.not_or, Bool.and_eq_true, Bool.not_eq_true']
                  at polled
                exact polled.1
              exact job (ignorant unstopped).2
          | press _ => exact unpolled (kept same)
          | other _ _ => exact unpolled (kept same)
      | wait _ _ => exact unpolled (kept (taken.2 ▸ rfl))
      | stopFlag _ => exact unpolled (kept (taken.2 ▸ rfl))
      | countdownComplete _ =>
          apply unpolled (kept _)
          rw [show after.service.toDevice = _ from taken]
          rfl
      | giveUp _ _ => exact .ended
  | ended =>
      cases rule with
      | markTerminal _ => exact .ended
      | complete _ _ => exact .completed
  | completed => cases rule

theorem ServiceStep.trusted {before : Linked σ} {event : ServiceEvent}
    {service : Service σ} (ordinary : event.ordinary = true)
    (step : ServiceStep environment before.service event service)
    (trusted : Trusted before) :
    Trusted { before with service := service } := by
  have sound := step.sound trusted.sound
  have linked : service.runtime.connected =
        before.service.runtime.connected →
      (∀ reading, before.reading = some reading → reading.hid.ready = true →
        Current { before with service := service } reading) ∧
      (JobCurrent before → JobCurrent { before with service := service }) := by
    intro same
    constructor
    · intro reading here ready
      refine (trusted.reading reading here ready).later rfl ?_
      exact fun connected outside => ⟨same.symm.trans connected, outside⟩
    · intro job
      refine job.later rfl rfl ?_
      exact fun connected outside => ⟨same.symm.trans connected, outside⟩
  have elsewhere (same : service.runtime.connected =
        before.service.runtime.connected) :=
    @Trusted.later _ before { before with service := service } trusted sound
      (linked same).1 (linked same).2
  cases step with
  | markActive _ here =>
      apply elsewhere rfl _ (fun _ => id) fun unstopped => ⟨unstopped, rfl⟩
      intro _
      rw [here]
      rfl
  | taskCreated here =>
      apply elsewhere rfl _ nofun fun unstopped => ⟨unstopped, rfl⟩
      intro _
      rw [here]
      rfl
  | taskNotCreated _ =>
      exact elsewhere rfl nofun (fun _ => id) fun unstopped => ⟨unstopped, rfl⟩
  | responded here =>
      apply elsewhere rfl _ (fun _ => id) fun unstopped => ⟨unstopped, rfl⟩
      intro _
      rw [here]
      rfl
  | notResponded _ =>
      exact elsewhere rfl nofun nofun fun unstopped => ⟨unstopped, rfl⟩
  | startFailed _ =>
      exact elsewhere rfl nofun (fun _ => id) fun unstopped => ⟨unstopped, rfl⟩
  | requestUploadStop _ _ =>
      exact elsewhere rfl id (fun _ => id) fun unstopped => ⟨unstopped, rfl⟩
  | requestHidStop _ => exact elsewhere rfl id (fun _ => id) nofun
  | upload _ _ =>
      exact elsewhere rfl id (fun _ => id) fun unstopped => ⟨unstopped, rfl⟩
  | consoleStop => exact elsewhere rfl id (fun _ => id) nofun
  | notify here =>
      rcases linked rfl with ⟨readings, job⟩
      refine ⟨sound, readings, nofun, ?_⟩
      intro task running
      cases running
      rcases executionTask_follows before.service.upload.verifiedSchedule with
        ⟨phase, start, follows⟩
      refine ⟨phase, follows, ?_⟩
      rcases start with unacquired | ended
      · rw [unacquired]
        apply Trusts.unacquired
        apply job
        apply trusted.launching
        rw [here]
        rfl
      · rw [ended]
        exact .ended
  | @execute device request next answer here taken =>
      rcases trusted.running _ here with ⟨phase, follows, trusts⟩
      rcases follows answer with ⟨middle, rule, rest⟩
      rcases linked (task_connected taken rule) with ⟨readings, job⟩
      have idle := (trusted.sound.execute here answer).1
      refine ⟨sound, readings, ?_, ?_⟩
      · intro launches
        rw [show StartPoint.launching before.service.start = false from
          idle ▸ rfl] at launches
        cases launches
      · intro task running
        rw [execution_after running] at rest
        exact ⟨middle, rest, trusts.step taken rule job task⟩
  | prepared _ _ => cases ordinary
  | refused _ => cases ordinary
  | connected => cases ordinary
  | disconnected => cases ordinary

theorem prepareStart_readiness {upload next : Upload}
    {jobId : Vector UInt8 16} {readiness : HidReadiness}
    {schedule : VerifiedSchedule}
    (prepared : typxWifiUploadPrepareStart upload jobId readiness =
      (.ok schedule, next)) : readiness = .ready := by
  rw [typxWifiUploadPrepareStart] at prepared
  split_ifs at prepared with _ _ disconnected pending failed
  all_goals cases prepared
  cases readiness with
  | ready => rfl
  | disconnected => exact absurd rfl disconnected
  | pending => exact absurd rfl pending
  | failed => exact absurd rfl failed

theorem hidReadiness_ready {hid : Snapshot}
    (readiness : hidReadiness hid = .ready) : hid.ready = true := by
  rw [hidReadiness] at readiness
  split_ifs at readiness with _ ready
  exact ready

theorem LinkedStep.trusted {before after : Linked σ} {event : LinkedEvent}
    (step : LinkedStep environment before event after)
    (cautious : Cautious before event) (trusted : Trusted before) :
    Trusted after := by
  have sound := step.sound trusted.sound
  cases step with
  | readStatus _ _ =>
      refine trusted.later sound ?_ ?_ id (fun _ => id)
        fun unstopped => ⟨unstopped, rfl⟩
      · intro reading here ready
        cases here
        exact ⟨ready, fun _ => rfl, fun _ _ => rfl⟩
      · refine fun job => job.later rfl rfl ?_
        exact fun connected outside => ⟨connected, outside⟩
  | @prepareStart reading jobId accepted service here taken =>
      cases taken with
      | prepared idle prepared =>
          have ready := hidReadiness_ready (prepareStart_readiness prepared)
          have free := trusted.sound.free
            (by simp [Active, (prepareStart_ok prepared).1])
          have current := trusted.reading reading here ready
          refine ⟨sound, ?_, ?_, ?_⟩
          · intro _ unread
            cases unread
          · intro _
            refine ⟨reading, rfl, current.later rfl ?_⟩
            exact fun connected outside => ⟨connected, outside⟩
          · intro task running
            cases free.2.symm.trans running
      | refused refused =>
          refine trusted.later sound ?_ ?_ id (fun _ => id)
            fun unstopped => ⟨unstopped, rfl⟩
          · intro _ unread
            cases unread
          · refine fun job => job.later rfl rfl ?_
            exact fun connected outside => ⟨connected, outside⟩
  | runtimeConnected _ taken =>
      cases taken
      exact trusted.unexposed (cautious.1 rfl) sound
        (fun reading here => ⟨reading, here, rfl⟩) rfl rfl rfl
  | safetyConnected _ taken =>
      apply trusted.unexposed (cautious.1 rfl) sound _ rfl rfl rfl
      intro reading here
      rcases Option.map_eq_some_iff.mp here with ⟨old, was, same⟩
      exact ⟨old, was, same ▸ rfl⟩
  | safetyDisconnected _ taken =>
      refine trusted.later sound ?_ ?_ id (fun _ => id)
        fun unstopped => ⟨unstopped, rfl⟩
      · intro reading here ready
        rcases Option.map_eq_some_iff.mp here with ⟨old, was, same⟩
        rw [← same] at ready ⊢
        exact (trusted.reading old was ready).moved rfl
      · intro job
        rcases job with ⟨reading, was, current⟩
        refine ⟨{ reading with moved := true }, ?_, current.moved rfl⟩
        change before.job.map _ = _
        rw [was]
        rfl
  | runtimeDisconnected gone taken =>
      cases taken
      refine trusted.later sound ?_ ?_ id (fun _ => id) ?_
      · intro reading here ready
        exact (trusted.reading reading here ready).later rfl
          (by simp [Device.withRuntime])
      · exact fun job => job.later rfl rfl (by simp [Device.withRuntime])
      · intro unstopped
        cases unstopped
  | service ordinary taken => exact taken.trusted ordinary trusted
  | safety quiet taken =>
      have generation := taken.generation
      rw [quiet] at generation
      refine trusted.later sound ?_ ?_ id (fun _ => id)
        fun unstopped => ⟨unstopped, rfl⟩
      · intro reading here ready
        exact (trusted.reading reading here ready).later generation
          fun connected outside => ⟨connected, outside⟩
      · refine fun job => job.later rfl generation ?_
        exact fun connected outside => ⟨connected, outside⟩

end Steps

/-! ## Whole runs -/

theorem trusted_boot (world : σ) (active : Option Bool) (cleared : Bool) :
    Trusted (linkedBoot world active cleared) where
  sound := sound_boot world
  reading reading here := by cases here
  launching launches := by cases launches
  running task here := by cases here

/-- Only a task that trusts the connection presses a key. -/
theorem Trusts.pressing {linked : Linked σ} {request : taskCalls.Call}
    {next : taskCalls.Answer request → Task Unit}
    {answer : taskCalls.Answer request} {phase middle : TaskPhase}
    (trusts : Trusts linked (.ask request next) phase)
    (rule : TaskMonitor phase ⟨request, answer⟩ middle)
    (presses :
      ServiceEvent.pressesKey (.execute ⟨request, answer⟩) = true) :
    JobCurrent linked := by
  cases rule with
  | executor polls =>
      cases polls with
      | poll _ => cases presses
      | press _ =>
          cases trusts with
          | acquired _ pressing => exact pressing rfl rfl
      | other _ other =>
          rw [pressesKey_of_other other] at presses
          cases presses
  | _ => cases presses

theorem LinkedStep.confirmed {before after : Linked σ} {event : LinkedEvent}
    (step : LinkedStep environment before event after)
    (cautious : Cautious before event) (trusted : Trusted before)
    (presses : event.pressesKey = true)
    (connected : before.service.runtime.connected = true) :
    KeyConfirmed before := by
  have outside := cautious.2 presses
  cases step with
  | service _ taken =>
      cases taken with
      | @execute device request next answer here _ =>
          rcases trusted.running _ here with ⟨phase, follows, trusts⟩
          rcases follows answer with ⟨middle, rule, _⟩
          exact keyConfirmed_of_current (trusts.pressing rule presses)
            connected outside
      | _ => cases presses
  | _ => cases presses

/-- In a run in which no host comes back to an exposed run, the keys of a job
go to the connection that its START found confirmed. -/
theorem service_pressesConfirmedKeys {world : σ} {active : Option Bool}
    {cleared : Bool} {events : List LinkedEvent} {event : LinkedEvent}
    {here next : Linked σ}
    (run : Run (CautiousStep environment) (linkedBoot world active cleared)
      events here)
    (step : CautiousStep environment here event next)
    (presses : event.pressesKey = true)
    (connected : here.service.runtime.connected = true) : KeyConfirmed here := by
  have trusted := run.invariant Trusted (fun _ => True)
    (fun _ _ _ _ trusted step => step.1.trusted step.2 trusted)
    (fun _ _ => trivial) (trusted_boot world active cleared)
  exact step.1.confirmed step.2 trusted presses connected

/-! ## A host that stays, and one that comes back -/

def LinkedEvent.links : LinkedEvent → Bool
  | .service .connected => true
  | .service .disconnected => true
  | .safety .connected => true
  | .safety .disconnected => true
  | _ => false

theorem ordinary_unlinked {event : ServiceEvent}
    (ordinary : event.ordinary = true) :
    LinkedEvent.links (.service event) = false := by
  cases event with
  | connected => cases ordinary
  | disconnected => cases ordinary
  | _ => rfl

/-- Outside `hid_callback` nothing but a connection calls for caution. -/
theorem cautious_unlinked {linked : Linked σ} {event : LinkedEvent}
    (unlinked : event.links = false) (idle : linked.callback = .idle) :
    Cautious linked event := by
  constructor
  · intro connects
    unfold LinkedEvent.connects at connects
    split at connects
    · cases unlinked
    · cases unlinked
    · cases connects
  · intro _ gone
    rw [idle] at gone
    cases gone

theorem cautiousRun {before after : Linked σ} {events : List LinkedEvent}
    (run : Run (LinkedStep environment) before events after)
    (unlinked : ∀ event ∈ events, event.links = false)
    (idle : before.callback = .idle) :
    Run (CautiousStep environment) before events after := by
  have guarded := run.guarded (fun linked => linked.callback = .idle)
    (fun event => event.links = false) ?_ unlinked idle
  · apply guarded.mono (fun event => event.links = false) _ unlinked
    intro here event next unlinked step
    exact ⟨step.taken, cautious_unlinked unlinked step.holds⟩
  · intro here event next unlinked idle step
    cases step with
    | runtimeConnected _ _ => cases unlinked
    | safetyConnected _ _ => cases unlinked
    | safetyDisconnected _ _ => cases unlinked
    | runtimeDisconnected _ _ => cases unlinked
    | _ => exact idle

theorem cautiousRun_service {before after : Service σ}
    {events : List ServiceEvent}
    (run : Run (ServiceStep environment) before events after)
    (ordinary : ∀ event ∈ events, event.ordinary = true) (linked : Linked σ)
    (idle : linked.callback = .idle) :
    Run (CautiousStep environment) { linked with service := before }
      (events.map .service) { linked with service := after } := by
  apply cautiousRun (linkedRun_service run ordinary linked) _ idle
  intro event member
  rcases List.mem_map.mp member with ⟨taken, within, same⟩
  rw [← same]
  exact ordinary_unlinked (ordinary taken within)

theorem cautiousRun_safety {before after : ExecutionSafety.System}
    {events : List SafetyEvent} (run : Run SafetyStep before events after)
    (quiet : ∀ event ∈ events, event.isConnection = false) (linked : Linked σ)
    (idle : linked.callback = .idle) :
    Run (CautiousStep environment) { linked with safety := before }
      (events.map .safety) { linked with safety := after } := by
  apply cautiousRun (linkedRun_safety run quiet linked) _ idle
  intro event member
  rcases List.mem_map.mp member with ⟨taken, within, same⟩
  have unlinked := quiet taken within
  rw [← same]
  cases taken with
  | connected => cases unlinked
  | disconnected => cases unlinked
  | _ => rfl

theorem unexposed_idle {linked : Linked σ} (unread : linked.reading = none)
    (start : linked.service.start = .idle)
    (execution : linked.service.execution = .none) : ¬Exposed linked := by
  intro exposed
  rcases exposed with ⟨_, here, _⟩ | launches | exposes
  · cases unread.symm.trans here
  · rw [start] at launches
    cases launches
  · rw [execution] at exposes
    cases exposes

theorem hidReadiness_of_ready {hid : Snapshot} (ready : hid.ready = true)
    (connected : hid.connected = true) : hidReadiness hid = .ready := by
  simp [hidReadiness, ready, connected]

def linkedStarted (job : System σ) (safety : ExecutionSafety.System) :
    Linked σ where
  service := started job
  safety := safety
  callback := .idle
  reading := none
  job := some ⟨typxExecutionSafetySnapshot safety.shared.safety, false⟩

theorem firstRelease_run :
    ∃ safety, Run SafetyStep firstConnection
        [.authenticated true, .schedule 0, .createTask 0 true,
          .beginRelease 0 true, .sendKeyboard 0 true, .sendConsumer 0 true,
          .completeRelease 0] safety ∧
      (typxExecutionSafetySnapshot safety.shared.safety).ready = true := by
  apply Exists.intro
  apply And.intro
  · apply Run.cons (@SafetyStep.authenticated _ 0 _ rfl rfl)
    apply Run.cons (.schedule rfl)
    apply Run.cons (.taskCreated rfl)
    apply Run.cons (@SafetyStep.beginRelease _ 0 1 _ _ rfl rfl)
    apply Run.cons (.sendKeyboard rfl)
    apply Run.cons (.sendConsumer rfl)
    apply Run.cons (.completeRelease rfl rfl)
    exact .nil _
  · rfl

theorem linkedStarted_run {world : σ} {uploads : List UploadEvent}
    {job : System σ} {jobId : Vector UInt8 16}
    (run : UploadRun environment (initial world) uploads job)
    (other : ∀ event ∈ uploads, otherHandlers event.op = true)
    (ready : job.upload.status = .ready) (same : job.upload.jobId = jobId)
    (verified : typxProtocolV1IsVerified job.upload.verifiedSchedule = true) :
    ∃ events safety,
      (typxExecutionSafetySnapshot safety.shared.safety).ready = true ∧
      Run (CautiousStep environment) (linkedBoot world (some false) true) events
        (linkedStarted job safety) := by
  rcases firstRelease_run with ⟨safety, released, confirmed⟩
  have attached := (snapshot_ready_iff.mp confirmed).1
  let uploaded := { boot world with job := job }
  let attachedRuntime := { uploaded with runtime := ⟨true, false, false⟩ }
  let linked : Linked σ := linkedBoot world (some false) true
  let connected : Linked σ :=
    { linked with service := attachedRuntime, safety := firstConnection }
  have uploading := cautiousRun_service
    (uploadRun_run run other (boot world)) (by simp [ServiceEvent.ordinary])
    linked rfl
  have connecting : Run (CautiousStep environment)
      { linked with service := uploaded }
      [.service .connected, .safety .connected] connected := by
    refine .cons ⟨.runtimeConnected rfl .connected, ?_, nofun⟩
      (.cons ⟨.safetyConnected rfl .connected, ?_, nofun⟩ (.nil _))
    · exact fun _ => unexposed_idle rfl rfl rfl
    · exact fun _ => unexposed_idle rfl rfl rfl
  have releasing : Run (CautiousStep environment) connected _
      { connected with safety := safety } :=
    cautiousRun_safety released (by decide) connected rfl
  let hid := typxExecutionSafetySnapshot safety.shared.safety
  let read : Linked σ :=
    { connected with safety := safety, reading := some ⟨hid, false⟩ }
  let prepared : Linked σ :=
    { linkedStarted job safety with
      service := { started job with start := .markActive, execution := .none } }
  have prepare : LinkedStep environment read
      (.service (.prepareStart jobId (hidReadiness hid) true)) prepared := by
    have accepted := prepareStart_ready ready same verified
    rw [← hidReadiness_of_ready confirmed attached] at accepted
    exact @LinkedStep.prepareStart _ _ read ⟨hid, false⟩ jobId true _ rfl
      (.prepared rfl accepted)
  have preparing : Run (CautiousStep environment)
      { connected with safety := safety }
      [.readStatus, .service (.prepareStart jobId (hidReadiness hid) true)]
      prepared :=
    .cons ⟨.readStatus rfl rfl, nofun, nofun⟩
      (.cons ⟨prepare, nofun, nofun⟩ (.nil _))
  have launch : Run (ServiceStep environment) prepared.service
      [.markActive true, .createTask true, .respond true, .notify]
      (started job) :=
    .cons (.markActive true rfl) (.cons (.taskCreated rfl)
      (.cons (.responded rfl) (.cons (.notify rfl) (.nil _))))
  have launching :=
    cautiousRun_service launch (by decide) (linkedStarted job safety) rfl
  exact ⟨_, safety, confirmed, run_append_iff.mpr ⟨_, uploading,
    run_append_iff.mpr ⟨_, connecting, run_append_iff.mpr ⟨_, releasing,
      run_append_iff.mpr ⟨_, preparing, launching⟩⟩⟩⟩⟩

def Execution.pressing : Execution → Bool
  | .running task => aboutToPress task
  | _ => false

theorem Execution.running_of_pressing {execution : Execution}
    (pressing : execution.pressing = true) :
    ∃ modifier keycode next, execution =
      .running (.ask (.inl (.keyDown modifier keycode)) next) := by
  cases execution with
  | none => cases pressing
  | waiting => cases pressing
  | running task =>
      change aboutToPress task = true at pressing
      unfold aboutToPress at pressing
      split at pressing
      · exact ⟨_, _, _, rfl⟩
      · cases pressing

theorem pressing_step {service : Service σ}
    (pressing : service.execution.pressing = true)
    (connected : service.runtime.connected = true) :
    ∃ event next, event.ordinary = true ∧ event.pressesKey = true ∧
      ServiceStep environment service event next := by
  rcases Execution.running_of_pressing pressing with
    ⟨modifier, keycode, next, here⟩
  exact ⟨.execute ⟨.inl (.keyDown modifier keycode), true⟩, _, rfl, rfl,
    .execute here ⟨fun _ => connected, rfl⟩⟩

def letterTyping (service : Service World) : Service World :=
  (taskRun letterHash 18 service).2

def reconnected (service : Service World) : Service World :=
  { service with runtime := ⟨true, false, true⟩ }

theorem letterTyping_facts :
    ((letterTyping (started letterReady.2)).execution.pressing = true ∧
      (letterTyping (started letterReady.2)).runtime.connected = true) ∧
    (letterTyping (reconnected (started letterReady.2))).execution.pressing =
        true ∧
      (letterTyping (reconnected (started letterReady.2))).runtime.connected =
        true := by
  decide +kernel

theorem letterTyping_run (service : Service World) :
    Run (ServiceStep (stagingStorage letterHash)) service
        (taskRun letterHash 18 service).1 (letterTyping service) ∧
      ∀ event ∈ (taskRun letterHash 18 service).1, event.ordinary = true := by
  refine ⟨taskRun_run letterHash 18 service, ?_⟩
  intro event member
  rcases taskRun_events _ _ _ event member with ⟨call, equal⟩
  rw [equal]
  rfl

theorem letterLinked_run :
    ∃ events safety,
      (typxExecutionSafetySnapshot safety.shared.safety).ready = true ∧
      Run (CautiousStep (stagingStorage letterHash))
        (linkedBoot blankWorld (some false) true) events
        (linkedStarted letterReady.2 safety) := by
  rcases letterReady_facts.1 with ⟨ready, same, verified, other⟩
  have uploads := reliableRun_run letterHash (initial blankWorld)
    (letterUpload.take 3)
  exact linkedStarted_run uploads other ready same verified

/-- The link is lost between the status that `start_handler` reads and the
task's taking of the runtime, and the next host gets the keys. -/
theorem service_pressesUnconfirmedKeys :
    ¬∀ events event (here next : Linked World),
      Run (LinkedStep (stagingStorage letterHash))
        (linkedBoot blankWorld (some false) true) events here →
      LinkedStep (stagingStorage letterHash) here event next →
      event.pressesKey = true → here.service.runtime.connected = true →
      KeyConfirmed here := by
  intro always
  rcases letterLinked_run with ⟨events, safety, _, cautious⟩
  have start := cautious.mono (fun _ => True) (fun _ _ _ _ step => step.1)
    (fun _ _ => trivial)
  let moved : Linked World :=
    { linkedStarted letterReady.2 safety with
      service := reconnected (started letterReady.2) }.move
        ((safety.withSafety (typxExecutionSafetyDisconnected
          safety.shared.safety)).withSafety (typxExecutionSafetyConnected
            (typxExecutionSafetyDisconnected safety.shared.safety))) .idle
  have relink : Run (LinkedStep (stagingStorage letterHash))
      (linkedStarted letterReady.2 safety)
      [.safety .disconnected, .service .disconnected, .service .connected,
        .safety .connected] moved :=
    .cons (.safetyDisconnected rfl .disconnected)
      (.cons (.runtimeDisconnected rfl .disconnected)
        (.cons (.runtimeConnected rfl .connected)
          (.cons (.safetyConnected rfl .connected) (.nil _))))
  rcases letterTyping_run (reconnected (started letterReady.2)) with
    ⟨typing, ordinary⟩
  rcases letterTyping_facts.2 with ⟨pressing, connected⟩
  rcases pressing_step pressing connected with
    ⟨event, next, unlinked, presses, step⟩
  have run := run_append_iff.mpr ⟨_, start, run_append_iff.mpr ⟨_, relink,
    linkedRun_service typing ordinary moved⟩⟩
  rcases always _ _ _ _ run (.service unlinked step) presses connected with
    ⟨reading, here, _, unmoved, _⟩
  cases here
  cases unmoved

theorem service_pressesConfirmedKeys_letter :
    ∃ events event, ∃ here next : Linked World,
      Run (CautiousStep (stagingStorage letterHash))
        (linkedBoot blankWorld (some false) true) events here ∧
      CautiousStep (stagingStorage letterHash) here event next ∧
      event.pressesKey = true ∧ KeyConfirmed here := by
  rcases letterLinked_run with ⟨events, safety, _, start⟩
  rcases letterTyping_run (started letterReady.2) with ⟨typing, ordinary⟩
  rcases letterTyping_facts.1 with ⟨pressing, connected⟩
  rcases pressing_step pressing connected with
    ⟨event, next, unlinked, presses, step⟩
  have run := run_append_iff.mpr ⟨_, start, cautiousRun_service typing ordinary
    (linkedStarted letterReady.2 safety) rfl⟩
  let here : Linked World :=
    { linkedStarted letterReady.2 safety with
      service := letterTyping (started letterReady.2) }
  have last : CautiousStep (stagingStorage letterHash) here (.service event)
      { here with service := next } :=
    ⟨.service unlinked step, cautious_unlinked (ordinary_unlinked unlinked) rfl⟩
  exact ⟨_, _, here, _, run, last, presses,
    service_pressesConfirmedKeys run last presses connected⟩

end Typxen.WifiService
