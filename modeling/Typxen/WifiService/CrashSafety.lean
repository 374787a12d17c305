import Typxen.WifiService.Marker
import Typxen.WifiService.SafeKeys
import Typxen.WifiUpload.History

/-! # Interrupted executions

While the task of a job may press a key the marker is active, so a boot after
a crash reports it; and after a boot no job starts that was not uploaded
since. -/

namespace Typxen.WifiService

open Interaction Protocol WifiUpload Transition ExecutionSafety

variable {σ : Type} {environment : Environment callbacks σ}

/-! ## The marker of a running job -/

structure Marked (marker : Bool) (service : Service σ) (rollback : Bool) :
    Prop where
  sound : Sound service
  rollback : rollback = true → service.start = .startFailed
  launched : service.start = .createTask ∨ service.start = .respond ∨
    service.start = .notify → marker = true
  running : ∀ task, service.execution = .running task →
    ∃ phase, Follows task phase ∧ (phase.unfinished = true → marker = true)

section Marked

variable {before after : Service σ} {event : ServiceEvent}
  {marker rollback : Bool}

theorem Marked.elsewhere (marked : Marked marker before rollback)
    (sound : Sound after) (sameStart : after.start = before.start)
    (sameExecution : after.execution = before.execution) :
    Marked marker after (rollback || false) where
  sound := sound
  rollback pending := by
    rw [Bool.or_false] at pending
    rw [sameStart]
    exact marked.rollback pending
  launched := by
    rw [sameStart]
    exact marked.launched
  running := by
    rw [sameExecution]
    exact marked.running

theorem Marked.settled (marked : Marked marker before rollback)
    (other : before.start ≠ .startFailed) : rollback = false := by
  cases rollback with
  | false => rfl
  | true => exact absurd (marked.rollback rfl) other

theorem TaskMonitor.keeps_marker {phase middle : TaskPhase}
    {request : taskCalls.Call} {answer : taskCalls.Answer request}
    (rule : TaskMonitor phase ⟨request, answer⟩ middle)
    (active : phase.unfinished = true → marker = true)
    (unfinished : middle.unfinished = true) :
    markerAfter marker (.execute ⟨request, answer⟩) = true := by
  cases rule with
  | acquired => exact active rfl
  | executor _ => exact active rfl
  | wait _ _ => exact active rfl
  | stopFlag _ => exact active rfl
  | countdownComplete _ => exact active rfl
  | refused => cases unfinished
  | giveUp _ _ => cases unfinished
  | markTerminal _ => cases unfinished
  | complete _ _ => cases unfinished

theorem ServiceStep.marked (step : ServiceStep environment before event after)
    (marked : Marked marker before rollback)
    (ordered : event = .startFailed → rollback = false) :
    Marked (markerAfter marker event) after (rollback || event.rollsBack) := by
  have sound := step.sound marked.sound
  have coherent := marked.sound.coherent
  cases step with
  | prepared idle prepared =>
      have free := marked.sound.free
        (by simp [Active, (prepareStart_ok prepared).1])
      rw [marked.settled (by simp [idle])]
      refine ⟨sound, by simp [ServiceEvent.rollsBack], by simp, ?_⟩
      intro task here
      cases free.2.symm.trans here
  | refused refused => exact marked.elsewhere sound rfl rfl
  | markActive written here =>
      rw [marked.settled (by simp [here])]
      refine ⟨sound, by simp [ServiceEvent.rollsBack], ?_, ?_⟩
      · intro launched
        cases written with
        | true => rfl
        | false => simp at launched
      · intro task running
        cases (coherent.none (.inl here)).symm.trans running
  | taskCreated here =>
      rw [marked.settled (by simp [here])]
      refine ⟨sound, by simp [ServiceEvent.rollsBack], ?_, by simp⟩
      exact fun _ => marked.launched (.inl here)
  | taskNotCreated here =>
      refine ⟨sound, fun _ => rfl, by simp, ?_⟩
      intro task running
      cases (coherent.none (.inr (.inl here))).symm.trans running
  | responded here =>
      rw [marked.settled (by simp [here])]
      refine ⟨sound, by simp [ServiceEvent.rollsBack], ?_, ?_⟩
      · exact fun _ => marked.launched (.inr (.inl here))
      intro task running
      cases (coherent.waiting (.inl here)).symm.trans running
  | notResponded here =>
      exact ⟨sound, fun _ => rfl, by simp, by simp⟩
  | notify here =>
      rw [marked.settled (by simp [here])]
      refine ⟨sound, by simp [ServiceEvent.rollsBack], by simp, ?_⟩
      intro task running
      cases running
      rcases executionTask_follows before.upload.verifiedSchedule with
        ⟨phase, _, follows⟩
      exact ⟨phase, follows, fun _ => marked.launched (.inr (.inr here))⟩
  | startFailed here =>
      rw [ordered rfl]
      refine ⟨sound, by simp [ServiceEvent.rollsBack], by simp, ?_⟩
      intro task running
      cases (coherent.none (.inr (.inr here))).symm.trans running
  | requestUploadStop _ stopped => exact marked.elsewhere sound rfl rfl
  | requestHidStop _ => exact marked.elsewhere sound rfl rfl
  | @execute device request next answer here taken =>
      have idle := (marked.sound.execute here answer).1
      rcases marked.running _ here with ⟨phase, follows, active⟩
      rcases follows answer with ⟨middle, rule, rest⟩
      rw [marked.settled (by simp [idle])]
      refine ⟨sound, by simp [ServiceEvent.rollsBack], by simp [idle], ?_⟩
      intro task running
      rw [execution_after running] at rest
      exact ⟨middle, rest, rule.keeps_marker active⟩
  | upload other taken => exact marked.elsewhere sound rfl rfl
  | connected => exact marked.elsewhere sound rfl rfl
  | disconnected => exact marked.elsewhere sound rfl rfl
  | consoleStop => exact marked.elsewhere sound rfl rfl

theorem typxWifiServiceInit_idle (world : σ) (safety : Safety) :
    (typxWifiServiceInit world safety).start = .idle ∧
      (typxWifiServiceInit world safety).execution = .none := by
  rw [typxWifiServiceInit]
  split <;> exact ⟨rfl, rfl⟩

theorem marked_init (marker : Bool) (world : σ) (safety : Safety) :
    Marked marker (typxWifiServiceInit world safety) false := by
  rcases typxWifiServiceInit_idle world safety with ⟨start, execution⟩
  refine ⟨⟨?_, ?_⟩, nofun, by simp [start], ?_⟩
  · rw [start, execution]
    exact .idle
  · intro busy
    rcases busy with busy | busy
    · exact absurd start busy
    · exact absurd execution busy
  · intro task running
    cases execution.symm.trans running

end Marked

/-- What `typx_execution_safety_init` returns. -/
theorem safetyInitialized_cases (active : Option Bool) (cleared : Bool) :
    (safetyInitialized active cleared : Power σ) = .failed ∨
      ∃ safety, (safetyInitialized active cleared : Power σ) =
          .initialized safety ∧
        (active = some false ∧ safety.interruptedReset = false ∨
          active = some true ∧ cleared = true ∧
            safety.interruptedReset = true) := by
  cases active with
  | none => exact .inl rfl
  | some active =>
      cases active with
      | false => exact .inr ⟨_, rfl, .inl ⟨rfl, rfl⟩⟩
      | true =>
          cases cleared with
          | false => exact .inl rfl
          | true => exact .inr ⟨_, rfl, .inr ⟨rfl, rfl, rfl⟩⟩

def BoardMarked (board : Board σ) : Prop :=
  ∀ service rollback, board.power = .on service rollback →
    Marked board.marker service rollback

theorem BoardStep.marked {before after : Board σ} {event : BoardEvent}
    (step : BoardStep environment before event after)
    (marked : BoardMarked before) : BoardMarked after := by
  have initializing : ∀ {active : Option Bool} {cleared : Bool}
      {service : Service σ} {rollback : Bool},
      safetyInitialized active cleared ≠ .on service rollback := by
    intro active cleared service rollback running
    rcases safetyInitialized_cases (σ := σ) active cleared with
      failed | ⟨_, done, _⟩
    · cases failed.symm.trans running
    · cases done.symm.trans running
  intro service rollback here
  cases step with
  | crash => cases here
  | powerOn _ => cases here
  | readMarker _ _ =>
      change (if _ then _ else _) = _ at here
      split at here
      · cases here
      · exact absurd here initializing
  | @clearMarker cleared _ =>
      have running : safetyInitialized (some true) cleared =
        .on service rollback := here
      exact absurd running initializing
  | serviceInit world _ =>
      cases here
      exact marked_init _ _ _
  | service running ordered taken =>
      cases here
      exact taken.marked (marked _ _ running) ordered
  | rollback written running =>
      cases here
      have before := marked _ _ running
      have start := before.rollback rfl
      refine ⟨before.sound, nofun, by simp [start], ?_⟩
      intro task busy
      have none := before.sound.coherent.none (.inr (.inr start))
      cases none.symm.trans busy

/-! ## Booting -/

def Booting (found : Bool) (board : Board σ) : Prop :=
  match board.power with
  | .off => board.marker = found
  | .reading => board.marker = found
  | .clearing => board.marker = found ∧ found = true
  | .initialized safety =>
      safety.interruptedReset = found ∧ board.marker = false
  | _ => True

theorem BoardStep.booting {before after : Board σ} {event : BoardEvent}
    {found : Bool} (step : BoardStep environment before event after)
    (booting : Booting found before) (running : event ≠ .crash) :
    Booting found after := by
  cases step with
  | crash => exact absurd rfl running
  | powerOn off =>
      rw [Booting, off] at booting
      exact booting
  | @readMarker active reading read =>
      rw [Booting, reading] at booting
      rcases read with none | some
      · rw [none]
        trivial
      · rw [some, show before.marker = found from booting]
        cases found with
        | false => exact ⟨rfl, rfl⟩
        | true => exact ⟨rfl, rfl⟩
  | @clearMarker cleared clearing =>
      rw [Booting, clearing] at booting
      cases cleared with
      | false => trivial
      | true => exact ⟨booting.2.symm, rfl⟩
  | serviceInit world _ => trivial
  | service _ _ _ => trivial
  | rollback _ _ => trivial

def BoardEvent.initializes : BoardEvent → Bool
  | .readMarker active => active == some false
  | .clearMarker cleared => cleared
  | _ => false

def Interrupted (board : Board σ) : Prop :=
  board.marker = true ∧ match board.power with
    | .initialized _ => False
    | .on _ _ => False
    | _ => True

theorem BoardStep.interrupted {before after : Board σ} {event : BoardEvent}
    (step : BoardStep environment before event after)
    (interrupted : Interrupted before) :
    if event.initializes then
      ∃ safety, after.power = .initialized safety ∧
        safety.interruptedReset = true
    else
      Interrupted after := by
  rcases interrupted with ⟨active, off⟩
  cases step with
  | crash => exact ⟨active, trivial⟩
  | powerOn _ => exact ⟨active, trivial⟩
  | @readMarker found reading read =>
      rcases read with none | some
      · rw [none]
        exact ⟨active, trivial⟩
      · rw [some, active]
        exact ⟨rfl, trivial⟩
  | @clearMarker cleared clearing =>
      cases cleared with
      | true => exact ⟨_, rfl, rfl⟩
      | false => exact ⟨active, trivial⟩
  | serviceInit world initialized =>
      rw [initialized] at off
      cases off
  | service running _ _ =>
      rw [running] at off
      cases off
  | rollback _ running =>
      rw [running] at off
      cases off

/-! ## What a new job needs -/

def preparesJob : UploadOp → Bool
  | .begin _ _ _ => true
  | .finalize _ _ _ => true
  | _ => false

section Operations

variable {upload next : Upload} {op : UploadOp} {error : UploadError}

theorem moves_of_done
    (done : perform upload op = Program.done (error, next)) :
    Moves upload op error next := by
  have nothing : Environment callbacks Unit := fun _ _ _ _ => False
  have moves := @perform_moves _ nothing upload op ()
  rw [done] at moves
  exact Program.ensures_done.mp moves

theorem task_operates {request : taskCalls.Call} {before after : Device σ}
    {answer : taskCalls.Answer request}
    (step : taskEnvironment environment request before answer after) :
    after.upload = before.upload ∨ ∃ op error, preparesJob op = false ∧
      Moves before.upload op error after.upload := by
  cases request with
  | inl request =>
      cases request with
      | stopRequested => exact .inl (congrArg Device.upload step.2)
      | waitUs _ => exact .inl (congrArg Device.upload step.2)
      | keyDown _ _ => exact .inl (congrArg Device.upload step.2)
      | releaseAll => exact .inl (congrArg Device.upload step.2)
      | nowUs => exact .inl (congrArg Device.upload step)
      | terminal _ _ _ => exact .inl (congrArg Device.upload step)
      | progress sourceIndex completedRecords totalRecords =>
          rw [show after = _ from step]
          exact .inr ⟨.recordProgress sourceIndex completedRecords totalRecords,
            .ok, rfl, moves_of_done rfl⟩
      | _ =>
          rcases step with ⟨_, _, same⟩
          rw [same]
          exact .inl rfl
  | inr request =>
      cases request with
      | acquire =>
          rw [step.2]
          split <;> exact .inl rfl
      | waitMs _ => exact .inl (congrArg Device.upload step.2)
      | stopFlag => exact .inl (congrArg Device.upload step.2)
      | giveUp _ =>
          rw [show after = _ from step]
          exact .inl rfl
      | markTerminal => exact .inl (congrArg Device.upload step)
      | countdownComplete =>
          rw [show after = _ from step]
          exact .inr ⟨.markExecuting, _, rfl, moves_of_done rfl⟩
      | complete executorError =>
          rw [show after = _ from step]
          exact .inr ⟨.complete executorError, .ok, rfl, moves_of_done rfl⟩

variable {before after : Service σ} {event : ServiceEvent}

/-- What a step of the service does to the upload is one operation, and only
the other handlers begin and finalize jobs. -/
theorem ServiceStep.operates (step : ServiceStep environment before event after) :
    after.upload = before.upload ∨
      (∃ taken, event = .upload taken ∧
        Moves before.upload taken.op taken.result after.upload) ∨
      ∃ op error, preparesJob op = false ∧
        Moves before.upload op error after.upload := by
  cases step with
  | @prepared jobId readiness schedule next idle prepared =>
      refine .inr (.inr ⟨.prepareStart jobId readiness, .ok, rfl, ?_⟩)
      apply moves_of_done
      rw [perform, prepared]
      rfl
  | refused refused => exact .inl (prepareStart_error refused)
  | startFailed _ =>
      exact .inr (.inr ⟨.startFailed, _, rfl, moves_of_done rfl⟩)
  | @requestUploadStop invocation error next _ stopped =>
      refine .inr (.inr ⟨.requestStop, error, rfl, moves_of_done ?_⟩)
      rw [perform, stopped]
      rfl
  | execute _ taken =>
      rcases task_operates taken with same | operated
      · exact .inl same
      · exact .inr (.inr operated)
  | upload _ taken => exact .inr (.inl ⟨_, rfl, taken.moves⟩)
  | _ => exact .inl rfl

theorem ServiceStep.enters_receiving
    (step : ServiceStep environment before event after)
    (outside : ¬Receiving before.upload) (inside : Receiving after.upload) :
    ∃ taken, event = .upload taken ∧ taken.Begins := by
  have enters {op : UploadOp} {error : UploadError}
      (moves : Moves before.upload op error after.upload) :=
    moves.enters_job (fun both => outside both.1) ⟨inside, rfl, rfl, rfl⟩
  rcases step.operates with same | ⟨taken, isUpload, moves⟩ |
    ⟨op, error, other, moves⟩
  · rw [same] at inside
    exact absurd inside outside
  · exact ⟨taken, isUpload, _, _, _, enters moves⟩
  · rw [(enters moves).1] at other
    cases other

theorem ServiceStep.enters_startable
    (step : ServiceStep environment before event after)
    (outside : ¬Startable before.upload) (inside : Startable after.upload) :
    Receiving before.upload ∧
      ∃ taken, event = .upload taken ∧ taken.Finalizes := by
  rcases step.operates with same | ⟨taken, isUpload, moves⟩ |
    ⟨op, error, other, moves⟩
  · rw [same] at inside
    exact absurd inside outside
  · rcases moves.enters_startable outside inside with ⟨receiving, ok, _, op⟩
    exact ⟨receiving, taken, isUpload, _, _, _, op, ok⟩
  · rw [(moves.enters_startable outside inside).2.2.2] at other
    cases other

end Operations

def JobBegun (events : List BoardEvent) : Prop :=
  ∃ taken, .service (.upload taken) ∈ events ∧ taken.Begins

def JobRenewed (events : List BoardEvent) : Prop :=
  ∃ first second taken, events = first ++ .service (.upload taken) :: second ∧
    JobBegun first ∧ taken.Finalizes

section Renewal

variable {before after : Board σ} {past : List BoardEvent} {event : BoardEvent}

theorem JobBegun.later (begun : JobBegun past) : JobBegun (past ++ [event]) := by
  rcases begun with ⟨taken, member, begins⟩
  exact ⟨taken, List.mem_append_left _ member, begins⟩

theorem JobRenewed.later (renewed : JobRenewed past) :
    JobRenewed (past ++ [event]) := by
  rcases renewed with ⟨first, second, taken, split, begun, finalizes⟩
  refine ⟨first, second ++ [event], taken, ?_, begun, finalizes⟩
  rw [split, List.append_assoc, List.cons_append]

structure Renewing (events : List BoardEvent) (board : Board σ) : Prop where
  on : ∃ service rollback, board.power = .on service rollback
  receiving : ∀ service rollback, board.power = .on service rollback →
    Receiving service.upload → JobBegun events
  startable : ∀ service rollback, board.power = .on service rollback →
    Startable service.upload → JobRenewed events

theorem BoardStep.renewing (step : BoardStep environment before event after)
    (running : event ≠ .crash) (renewing : Renewing past before) :
    Renewing (past ++ [event]) after := by
  rcases renewing.on with ⟨service, rollback, on⟩
  have received := renewing.receiving _ _ on
  have startable := renewing.startable _ _ on
  cases step with
  | crash => exact absurd rfl running
  | powerOn off => cases on.symm.trans off
  | readMarker reading _ => cases on.symm.trans reading
  | clearMarker clearing => cases on.symm.trans clearing
  | serviceInit _ initialized => cases on.symm.trans initialized
  | service here _ taken =>
      cases on.symm.trans here
      refine ⟨⟨_, _, rfl⟩, ?_, ?_⟩
      · intro next _ same inside
        cases same
        by_cases outside : Receiving service.upload
        · exact (received outside).later
        · rcases taken.enters_receiving outside inside with
            ⟨upload, isUpload, begins⟩
          rw [isUpload]
          exact ⟨upload, by simp, begins⟩
      · intro next _ same inside
        cases same
        by_cases outside : Startable service.upload
        · exact (startable outside).later
        · rcases taken.enters_startable outside inside with
            ⟨receiving, upload, isUpload, finalizes⟩
          rw [isUpload]
          exact ⟨past, [], upload, rfl, received receiving, finalizes⟩
  | rollback _ here =>
      cases on.symm.trans here
      refine ⟨⟨_, _, rfl⟩, ?_, ?_⟩
      · intro next _ same inside
        cases same
        exact (received inside).later
      · intro next _ same inside
        cases same
        exact (startable inside).later

theorem typxWifiServiceInit_status (world : σ) (safety : Safety) :
    (typxWifiServiceInit world safety).upload.status = .idle ∨
      (typxWifiServiceInit world safety).upload.status = .interruptedReset := by
  rw [typxWifiServiceInit]
  split
  · exact .inr rfl
  · exact .inl rfl

theorem BoardStep.serviceInit_on
    (step : BoardStep environment before .serviceInit after) :
    ∃ service, after.power = .on service false ∧
      (service.upload.status = .idle ∨
        service.upload.status = .interruptedReset) := by
  cases step with
  | serviceInit world _ =>
      exact ⟨_, rfl, typxWifiServiceInit_status world _⟩

theorem renewing_init (step : BoardStep environment before .serviceInit after) :
    Renewing [] after := by
  rcases step.serviceInit_on with ⟨service, on, status⟩
  have settled : ¬Receiving service.upload ∧ ¬Startable service.upload := by
    rcases status with idle | interrupted
    · simp [Receiving, Startable, idle]
    · simp [Receiving, Startable, interrupted]
  refine ⟨⟨_, _, on⟩, ?_, ?_⟩
  · intro found _ here inside
    cases on.symm.trans here
    exact absurd inside settled.1
  · intro found _ here inside
    cases on.symm.trans here
    exact absurd inside settled.2

end Renewal

/-! ## Whole runs -/

/-- What the marker promises about every run from a board that is off. -/
structure CrashSafe (environment : Environment callbacks σ) (marker : Bool) :
    Prop where
  /-- A task that may press a key has the marker active. -/
  marked : ∀ events after service rollback task,
    Run (BoardStep environment) (unpowered marker) events after →
    after.power = .on service rollback →
    service.execution = .running task → MayPress task → after.marker = true
  /-- An init that succeeds reports what the marker said when the power went,
  and leaves it cleared. -/
  reported : ∀ past (here : Board σ) events after safety,
    Run (BoardStep environment) (unpowered marker) past here →
    here.power = .off → Run (BoardStep environment) here events after →
    .crash ∉ events → after.power = .initialized safety →
    safety.interruptedReset = here.marker ∧ after.marker = false
  /-- A boot leaves no job to start. -/
  settled : ∀ past (here next : Board σ),
    Run (BoardStep environment) (unpowered marker) past here →
    BoardStep environment here .serviceInit next →
    ∃ service, next.power = .on service false ∧
      (service.upload.status = .idle ∨
        service.upload.status = .interruptedReset)
  /-- After it a START is accepted only for a job that is new. -/
  renewed : ∀ past (here next : Board σ) events after jobId hidReadiness final,
    Run (BoardStep environment) (unpowered marker) past here →
    BoardStep environment here .serviceInit next →
    Run (BoardStep environment) next events after → .crash ∉ events →
    BoardStep environment after
      (.service (.prepareStart jobId hidReadiness true)) final →
    JobRenewed events
  /-- The first init that succeeds after a crash under a task that may press
  a key reports the interruption. -/
  interrupted : ∀ past (here : Board σ) service rollback task events last after,
    Run (BoardStep environment) (unpowered marker) past here →
    here.power = .on service rollback → service.execution = .running task →
    MayPress task →
    Run (BoardStep environment) here (.crash :: (events ++ [last])) after →
    (∀ event ∈ events, event.initializes = false) → last.initializes = true →
    ∃ safety, after.power = .initialized safety ∧ safety.interruptedReset = true

theorem boardMarked_run {marker : Bool} {events : List BoardEvent}
    {after : Board σ}
    (run : Run (BoardStep environment) (unpowered marker) events after) :
    BoardMarked after :=
  run.invariant BoardMarked (fun _ => True)
    (fun _ _ _ _ marked step => step.marked marked) (fun _ _ => trivial)
    (fun _ _ here => by cases here)

/-- A task that may press a key runs with the marker active. -/
theorem BoardMarked.active {board : Board σ} {service : Service σ}
    {rollback : Bool} {task : Task Unit} (marked : BoardMarked board)
    (on : board.power = .on service rollback)
    (running : service.execution = .running task) (presses : MayPress task) :
    board.marker = true := by
  rcases (marked service rollback on).running task running with
    ⟨phase, follows, active⟩
  exact active (presses.unfinished follows)

theorem uncrashed {events : List BoardEvent} (none : .crash ∉ events) :
    ∀ event ∈ events, event ≠ .crash := by
  intro event member same
  exact none (same ▸ member)

/-- Boots that do not succeed leave an interruption to be reported. -/
theorem interrupted_run {before after : Board σ} {events : List BoardEvent}
    (run : Run (BoardStep environment) before events after)
    (failing : ∀ event ∈ events, event.initializes = false)
    (interrupted : Interrupted before) : Interrupted after := by
  apply run.invariant Interrupted (fun event => event.initializes = false) _
    failing interrupted
  intro here event next fails interrupted step
  have result := step.interrupted interrupted
  rw [fails] at result
  exact result

theorem service_isCrashSafe (environment : Environment callbacks σ)
    (marker : Bool) : CrashSafe environment marker where
  marked _ _ _ _ _ run on running presses :=
    (boardMarked_run run).active on running presses
  reported _ here events after safety _ off run none initialized := by
    have start : Booting here.marker here := by
      rw [Booting, off]
    have booting := run.invariant (Booting here.marker) (fun event => event ≠ .crash)
      (fun _ _ _ running booting step => step.booting booting running)
      (uncrashed none) start
    rw [Booting, initialized] at booting
    exact booting
  settled _ _ _ _ step := step.serviceInit_on
  renewed _ _ _ events after _ _ _ _ boot run none step := by
    have guarded := run.guarded (fun _ => True) (fun event => event ≠ .crash)
      (fun _ _ _ _ _ _ => trivial) (uncrashed none) trivial
    have renewing : Renewing ([] ++ events) after := by
      apply guarded.history Renewing _ (renewing_init boot)
      intro past here event next renewing step
      exact step.taken.renewing step.admitted renewing
    rw [List.nil_append] at renewing
    cases step with
    | service on _ taken =>
        cases taken with
        | prepared _ prepared =>
            have ready := (prepareStart_ok prepared).1
            exact renewing.startable _ _ on (.inl ready)
  interrupted _ here _ _ _ events last after past on running presses run
      failing succeeds := by
    have active := (boardMarked_run past).active on running presses
    rcases run_cons_iff.mp run with ⟨crashed, fall, rest⟩
    rcases run_append_iff.mp rest with ⟨booted, boots, ends⟩
    rcases run_cons_iff.mp ends with ⟨_, init, finish⟩
    have start : Interrupted crashed := by
      cases fall with
      | crash => exact ⟨active, trivial⟩
    have result := init.interrupted (interrupted_run boots failing start)
    rw [succeeds, if_pos rfl] at result
    rw [run_nil_iff.mp finish]
    exact result

/-! ## A crash while a job types -/

theorem boardRun {before after : Service σ} {events : List ServiceEvent}
    (run : Run (ServiceStep environment) before events after)
    (kept : ∀ event ∈ events, event ≠ .startFailed) (marker rollback : Bool) :
    ∃ last back, Run (BoardStep environment) ⟨marker, .on before rollback⟩
      (events.map .service) ⟨last, .on after back⟩ := by
  induction run generalizing marker rollback with
  | nil service => exact ⟨_, _, .nil _⟩
  | @cons before middle after event events taken _ induction =>
      have other := kept event (.head _)
      have step : BoardStep environment ⟨marker, .on before rollback⟩
          (.service event) ⟨markerAfter marker event,
            .on middle (rollback || event.rollsBack)⟩ :=
        .service rfl (fun same => absurd same other) taken
      rcases induction (fun event member => kept event (.tail _ member)) _ _ with
        ⟨last, back, run⟩
      exact ⟨last, back, .cons step run⟩

theorem mayPress_of_pressing {service : Service σ}
    (pressing : service.execution.pressing = true) :
    ∃ task, service.execution = .running task ∧ MayPress task := by
  rcases Execution.running_of_pressing pressing with ⟨_, _, _, here⟩
  exact ⟨_, here, .now⟩

theorem service_isCrashSafe_letter :
    ∃ (past : List BoardEvent) (here after : Board World) (safety : Safety),
      Run (BoardStep (stagingStorage letterHash)) (unpowered false) past here ∧
      here.marker = true ∧
      Run (BoardStep (stagingStorage letterHash)) here
        [.crash, .powerOn, .readMarker (some true), .clearMarker true] after ∧
      after.power = .initialized safety ∧ safety.interruptedReset = true := by
  have booting : Run (BoardStep (stagingStorage letterHash)) (unpowered false)
      [.powerOn, .readMarker (some false), .serviceInit]
      ⟨false, .on (boot blankWorld) false⟩ :=
    .cons (.powerOn rfl) (.cons (.readMarker rfl (.inr rfl))
      (.cons (.serviceInit blankWorld rfl) (.nil _)))
  have typing := (letterTyping_run (started letterReady.2)).1
  have serving := run_append_iff.mpr ⟨_, letterStarted_run, typing⟩
  have kept : ∀ event ∈ (letterReady.1.map .upload ++ startEvents letterJob) ++
      (taskRun letterHash 18 (started letterReady.2)).1,
      event ≠ .startFailed := by
    intro event member failed
    rw [failed] at member
    rcases List.mem_append.mp member with starting | during
    · simp [startEvents] at starting
    · rcases taskRun_events _ _ _ _ during with ⟨_, equal⟩
      cases equal
  rcases boardRun serving kept false false with ⟨marker, rollback, serving⟩
  rcases mayPress_of_pressing letterTyping_facts.1.1 with
    ⟨task, running, presses⟩
  have past := run_append_iff.mpr ⟨_, booting, serving⟩
  have safe := service_isCrashSafe (stagingStorage letterHash) false
  have active := safe.marked _ _ _ _ task past rfl running presses
  have rebooting : Run (BoardStep (stagingStorage letterHash))
      ⟨marker, .on (letterTyping (started letterReady.2)) rollback⟩
      [.crash, .powerOn, .readMarker (some true), .clearMarker true]
      ⟨false, safetyInitialized (some true) true⟩ :=
    .cons .crash (.cons (.powerOn rfl) (.cons (.readMarker rfl (.inr
      (congrArg some active.symm))) (.cons (.clearMarker rfl) (.nil _))))
  rcases safe.interrupted _ _ _ _ task [.powerOn, .readMarker (some true)]
    (.clearMarker true) _ past rfl running presses rebooting (by decide) rfl
    with ⟨safety, initialized, reported⟩
  exact ⟨_, _, _, safety, past, active, rebooting, initialized, reported⟩

end Typxen.WifiService
