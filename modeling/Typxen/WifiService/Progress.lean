import Typxen.WifiService.Stop
import Typxen.WifiService.TaskOutcome
import Typxen.WifiUpload.History

/-! # Progress

`typx_wifi_upload_record_progress` drops what it is told unless the job is
EXECUTING. The executor still finishes the record in flight after a stop, so
the count at the end is short when a stop was accepted before the last
report. -/

namespace Typxen.WifiService

open Interaction Protocol Executor WifiUpload Transition

variable {σ : Type} {environment : Environment callbacks σ}

/-! ## The other handlers -/

structure SameProgress (upload next : Upload) : Prop where
  status : next.status = upload.status
  completedRecords : next.completedRecords = upload.completedRecords
  currentSourceIndex : next.currentSourceIndex = upload.currentSourceIndex
  totalRecords : next.totalRecords = upload.totalRecords
  verifiedSchedule : next.verifiedSchedule = upload.verifiedSchedule

theorem SameProgress.refl {upload : Upload} : SameProgress upload upload :=
  ⟨rfl, rfl, rfl, rfl, rfl⟩

inductive Handled (upload : Upload) : Upload → Prop
  | same {next : Upload} : SameProgress upload next → Handled upload next
  | promoted (schedule : VerifiedSchedule) :
      Handled upload (promoted upload schedule)
  | cleared {next : Upload} :
      next.status = .idle ∨ next.status = .receiving ∨ next.status = .error →
      Handled upload next

section Handlers

variable {upload : Upload} {before : σ}

theorem begin_handled (jobId : Vector UInt8 16) (size : UInt32)
    (digest : Vector UInt8 32) :
    Program.Ensures environment (typxWifiUploadBegin upload jobId size digest)
      before fun _ outcome _ => Handled upload outcome.2 := by
  rw [typxWifiUploadBegin]
  split_ifs
  · exact Program.ensures_done.mpr (.same .refl)
  · exact Program.ensures_done.mpr (.same ⟨rfl, rfl, rfl, rfl, rfl⟩)
  · exact Program.ensures_done.mpr (.same .refl)
  · simp only [Storage.erase_bind, Program.ensures_ask]
    intro erased after step
    cases erased with
    | true => exact Program.ensures_done.mpr (.cleared (.inr (.inl rfl)))
    | false => exact Program.ensures_done.mpr (.cleared (.inr (.inr rfl)))

theorem chunkFinish_sameProgress (session : ChunkSession) :
    SameProgress upload (typxWifiUploadChunkFinish upload session).2 := by
  rw [typxWifiUploadChunkFinish]
  split_ifs <;> exact ⟨rfl, rfl, rfl, rfl, rfl⟩

theorem session_handled (request : ChunkRequest)
    (fragments : List (List UInt8)) (dropped : Bool) :
    Program.Ensures environment (chunkSession upload request fragments dropped)
      before fun _ outcome _ => Handled upload outcome.2 := by
  refine Program.ensures_true.bind ?_
  intro _ opened _ _
  dsimp only
  split
  · exact Program.ensures_done.mpr (.same .refl)
  refine Program.ensures_true.bind ?_
  intro _ written _ _
  split_ifs
  · exact Program.ensures_done.mpr (.same .refl)
  · exact Program.ensures_done.mpr (.same .refl)
  · exact Program.ensures_done.mpr (.same (chunkFinish_sameProgress _))

theorem finalize_handled (jobId : Vector UInt8 16) (size : UInt32)
    (digest : Vector UInt8 32) :
    Program.Ensures environment
      (typxWifiUploadFinalize upload jobId size digest) before
      fun _ outcome _ => Handled upload outcome.2 := by
  rw [typxWifiUploadFinalize]
  split
  · exact Program.ensures_done.mpr (.same .refl)
  split
  · exact Program.ensures_done.mpr (.same .refl)
  split
  · exact Program.ensures_done.mpr (.same ⟨rfl, rfl, rfl, rfl, rfl⟩)
  split
  · exact Program.ensures_done.mpr (.same .refl)
  split
  · exact Program.ensures_done.mpr (.same .refl)
  refine Program.ensures_true.bind ?_
  intro _ hashed _ _
  split
  · exact Program.ensures_done.mpr (.cleared (.inr (.inr rfl)))
  refine Program.ensures_true.bind ?_
  intro _ verified _ _
  cases verified with
  | error error =>
      exact Program.ensures_done.mpr (.cleared (.inr (.inr rfl)))
  | ok schedule => exact Program.ensures_done.mpr (.promoted schedule)

theorem cancel_handled (jobId : Vector UInt8 16) :
    Handled upload (typxWifiUploadCancel upload jobId).2 := by
  rw [typxWifiUploadCancel]
  split_ifs
  · exact .same .refl
  · exact .same .refl
  · exact .cleared (.inl rfl)

theorem otherHandlers_handled {op : UploadOp} (other : otherHandlers op = true) :
    Program.Ensures environment (perform upload op) before
      fun _ outcome _ => Handled upload outcome.2 := by
  cases op with
  | begin jobId size digest => exact begin_handled jobId size digest
  | session request fragments dropped =>
      exact session_handled request fragments dropped
  | finalize jobId size digest => exact finalize_handled jobId size digest
  | cancel jobId => exact Program.ensures_done.mpr (cancel_handled jobId)
  | _ => cases other

end Handlers

/-! ## The record of a run -/

/-- A call of `execution_progress`. -/
structure Report where
  sourceIndex : UInt32
  completedRecords : UInt32
  totalRecords : UInt32
  deriving DecidableEq, Repr

/-- What happened since the last accepted START: the reports, whether a stop
was accepted, and whether one was accepted before the last report. -/
structure RunRecord where
  reports : List Report
  stopped : Bool
  late : Bool

def RunRecord.fresh : RunRecord := ⟨[], false, false⟩

def RunRecord.after (record : RunRecord) : ServiceEvent → RunRecord
  | .prepareStart _ _ true => .fresh
  | .requestUploadStop _ found .ok =>
      { record with
        stopped := record.stopped || found == .countdown || found == .executing }
  | .execute ⟨.inl (.progress sourceIndex completedRecords totalRecords), _⟩ =>
      { record with
        reports := record.reports ++
          [⟨sourceIndex, completedRecords, totalRecords⟩]
        late := record.stopped }
  | _ => record

def runRecord (events : List ServiceEvent) : RunRecord :=
  events.foldl RunRecord.after .fresh

theorem runRecord_append (past : List ServiceEvent) (event : ServiceEvent) :
    runRecord (past ++ [event]) = (runRecord past).after event := by
  rw [runRecord, List.foldl_append]
  rfl

def lastSourceIndex (reports : List Report) : UInt32 :=
  (reports.getLast?.map Report.sourceIndex).getD 0

structure Counted (record : RunRecord) (upload : Upload) : Prop where
  total : upload.totalRecords = upload.verifiedSchedule.header.actionCount
  stopping : record.stopped = true ↔ upload.status = .stopping
  punctual : record.late = false →
    upload.completedRecords.toNat = record.reports.length ∧
      upload.currentSourceIndex = lastSourceIndex record.reports
  short : record.late = true →
    upload.completedRecords.toNat < record.reports.length ∧
      record.stopped = true

structure Unreported (upload : Upload) : Prop where
  completedRecords : upload.completedRecords = 0
  currentSourceIndex : upload.currentSourceIndex = 0
  total : upload.totalRecords = upload.verifiedSchedule.header.actionCount

structure Accounted (record : RunRecord) (upload : Upload) (task : Task Unit)
    (state : TaskState) : Prop where
  accounts : Accounts upload.totalRecords task state
  reported : state.run.reported = record.reports.length
  begun : state.begun = true → upload.status ≠ .countdown

structure Recorded (record : RunRecord) (service : Service σ) : Prop where
  ready : service.upload.status = .ready → Unreported service.upload
  active : Active service.upload.status → Counted record service.upload
  silent : service.start ≠ .idle → record.reports = []
  running : ∀ task, service.execution = .running task →
    ∃ state, Accounted record service.upload task state

/-! ## What the calls of the task do to it -/

section Calls

variable {record : RunRecord} {upload next : Upload}

theorem Counted.of_same (counted : Counted record upload)
    (same : SameProgress upload next) : Counted record next where
  total := by
    rw [same.totalRecords, same.verifiedSchedule]
    exact counted.total
  stopping := by
    rw [same.status]
    exact counted.stopping
  punctual := by
    rw [same.completedRecords, same.currentSourceIndex]
    exact counted.punctual
  short := by
    rw [same.completedRecords]
    exact counted.short

theorem Unreported.of_same (unreported : Unreported upload)
    (same : SameProgress upload next) : Unreported next where
  completedRecords := same.completedRecords.trans unreported.completedRecords
  currentSourceIndex :=
    same.currentSourceIndex.trans unreported.currentSourceIndex
  total := by
    rw [same.totalRecords, same.verifiedSchedule]
    exact unreported.total

theorem Unreported.counted (unreported : Unreported upload)
    (fresh : record = .fresh) (status : next.status = .countdown)
    (completedRecords : next.completedRecords = upload.completedRecords)
    (currentSourceIndex : next.currentSourceIndex = upload.currentSourceIndex)
    (total : next.totalRecords = next.verifiedSchedule.header.actionCount) :
    Counted record next where
  total := total
  stopping := by simp [fresh, RunRecord.fresh, status]
  punctual _ := by
    rw [completedRecords, currentSourceIndex, unreported.completedRecords,
      unreported.currentSourceIndex, fresh]
    exact ⟨rfl, rfl⟩
  short late := by
    rw [fresh] at late
    cases late

theorem Counted.unstopped (counted : Counted record upload)
    (status : upload.status ≠ .stopping) :
    record.stopped = false ∧ record.late = false := by
  have unstopped : record.stopped = false :=
    Bool.eq_false_iff.mpr fun stopped => status (counted.stopping.mp stopped)
  refine ⟨unstopped, Bool.eq_false_iff.mpr ?_⟩
  intro late
  have stopped := (counted.short late).2
  rw [unstopped] at stopped
  cases stopped

theorem lastSourceIndex_append (reports : List Report) (report : Report) :
    lastSourceIndex (reports ++ [report]) = report.sourceIndex := by
  rw [lastSourceIndex, List.getLast?_append]
  rfl

theorem Counted.report {reported : Nat} {sourceIndex completedRecords : UInt32}
    (counted : Counted record upload) (active : Active upload.status)
    (begun : upload.status ≠ .countdown)
    (sofar : reported = record.reports.length)
    (number : completedRecords.toNat = reported + 1)
    (within : reported < upload.totalRecords.toNat) :
    Counted
      (record.after (.execute
        ⟨.inl (.progress sourceIndex completedRecords upload.totalRecords), ()⟩))
      (typxWifiUploadRecordProgress upload sourceIndex completedRecords
        upload.totalRecords) := by
  by_cases executing : upload.status = .executing
  · have small : ¬completedRecords > upload.totalRecords := by
      rw [gt_iff_lt, UInt32.lt_iff_toNat_lt]
      omega
    have unstopped := counted.unstopped (by simp [executing])
    have recorded : typxWifiUploadRecordProgress upload sourceIndex
        completedRecords upload.totalRecords =
          { upload with
            currentSourceIndex := sourceIndex
            completedRecords := completedRecords } := by
      rw [typxWifiUploadRecordProgress, if_neg (by simp [executing, small])]
    rw [recorded]
    constructor
    · exact counted.total
    · exact counted.stopping
    · intro _
      constructor
      · change completedRecords.toNat = (record.reports ++ [_]).length
        rw [List.length_append, number, sofar]
        rfl
      · exact (lastSourceIndex_append record.reports ⟨sourceIndex, _, _⟩).symm
    · intro late
      rw [show record.stopped = true from late] at unstopped
      cases unstopped.1
  · have stopping : upload.status = .stopping := by
      rcases active with status | status | status
      · exact absurd status begun
      · exact absurd status executing
      · exact status
    have stopped := counted.stopping.mpr stopping
    have dropped : typxWifiUploadRecordProgress upload sourceIndex
        completedRecords upload.totalRecords = upload := by
      rw [typxWifiUploadRecordProgress, if_pos (by simp [stopping])]
    have behind : upload.completedRecords.toNat ≤ record.reports.length := by
      cases late : record.late with
      | false => exact Nat.le_of_eq (counted.punctual late).1
      | true => exact Nat.le_of_lt (counted.short late).1
    rw [dropped]
    constructor
    · exact counted.total
    · exact counted.stopping
    · intro punctual
      rw [show record.stopped = false from punctual] at stopped
      cases stopped
    · intro _
      refine ⟨?_, stopped⟩
      change upload.completedRecords.toNat < (record.reports ++ [_]).length
      rw [List.length_append]
      exact Nat.lt_succ_of_le behind

theorem executor_upload {request : Callback} {before after : Device σ}
    {answer : Callback.Answer request}
    (step : taskEnvironment environment (.inl request) before answer after)
    (silent : ∀ sourceIndex completedRecords totalRecords,
      request ≠ .progress sourceIndex completedRecords totalRecords) :
    after.upload = before.upload := by
  cases request with
  | stopRequested => exact congrArg Device.upload step.2
  | waitUs _ => exact congrArg Device.upload step.2
  | keyDown _ _ => exact congrArg Device.upload step.2
  | releaseAll => exact congrArg Device.upload step.2
  | nowUs => exact congrArg Device.upload step
  | terminal _ _ _ => exact congrArg Device.upload step
  | progress _ _ _ => exact absurd rfl (silent _ _ _)
  | _ =>
      rcases step with ⟨world, _, same⟩
      rw [same]
      rfl

theorem after_executor {request : Callback} (answer : Callback.Answer request)
    (silent : ∀ sourceIndex completedRecords totalRecords,
      request ≠ .progress sourceIndex completedRecords totalRecords) :
    record.after (.execute ⟨.inl request, answer⟩) = record := by
  cases request with
  | progress _ _ _ => exact absurd rfl (silent _ _ _)
  | _ => rfl

theorem runner_upload {request : RunnerCall} {before after : Device σ}
    {answer : RunnerCall.Answer request}
    (step : taskEnvironment environment (.inr request) before answer after)
    (untracked : Untracked request = true) : after.upload = before.upload := by
  cases request with
  | acquire =>
      rw [step.2]
      split <;> rfl
  | giveUp _ =>
      rw [show after = _ from step]
      rfl
  | markTerminal => exact congrArg Device.upload step
  | _ => cases untracked

theorem markExecuting_sameProgress (upload : Upload) :
    (typxWifiUploadMarkExecuting upload).2.status ≠ .countdown ∧
      ((typxWifiUploadMarkExecuting upload).2 = upload ∨
        upload.status = .countdown ∧ (typxWifiUploadMarkExecuting upload).2 =
          { upload with status := .executing }) := by
  rw [typxWifiUploadMarkExecuting]
  split_ifs with other
  · exact ⟨by simpa using other, .inl rfl⟩
  · exact ⟨by simp, .inr ⟨by simpa using other, rfl⟩⟩

theorem Counted.markExecuting (counted : Counted record upload) :
    Counted record (typxWifiUploadMarkExecuting upload).2 := by
  rcases (markExecuting_sameProgress upload).2 with same | ⟨countdown, same⟩
  · rw [same]
    exact counted
  · have unstopped := counted.unstopped (by simp [countdown])
    rw [same]
    exact {
      total := counted.total
      stopping := by simp [unstopped.1]
      punctual := counted.punctual
      short := counted.short }

theorem Active.unready {status : UploadStatus} (active : Active status) :
    status ≠ .ready := by
  rcases active with same | same | same <;> simp [same]

structure AtWork (record : RunRecord) (upload : Upload) (task : Task Unit) :
    Prop where
  unready : upload.status ≠ .ready
  counted : Active upload.status → Counted record upload
  accounted : ∃ state, Accounted record upload task state

theorem Accounted.quietly {task continued : Task Unit} {state later : TaskState}
    {other : RunRecord} (accounted : Accounted record upload task state)
    (counted : Counted record upload) (active : Active upload.status)
    (rest : Accounts upload.totalRecords continued later)
    (reported : later.run.reported = state.run.reported)
    (begun : later.begun = state.begun) (sameUpload : next = upload)
    (sameRecord : other = record) : AtWork other next continued := by
  rw [sameUpload, sameRecord]
  refine ⟨active.unready, fun _ => counted, later, rest, ?_, ?_⟩
  · rw [reported]
    exact accounted.reported
  · rw [begun]
    exact accounted.begun

theorem complete_inactive (upload : Upload) (executorError : ExecutorError) :
    ¬Active (typxWifiUploadComplete upload executorError).status ∧
      (typxWifiUploadComplete upload executorError).status ≠ .ready := by
  rcases typxWifiUploadComplete_status upload executorError with
    status | status | status <;> simp [Active, status]

theorem Accounted.step {before after : Device σ} {request : taskCalls.Call}
    {continued : taskCalls.Answer request → Task Unit}
    {answer : taskCalls.Answer request} {state : TaskState}
    (accounted : Accounted record before.upload (.ask request continued) state)
    (counted : Counted record before.upload)
    (active : Active before.upload.status)
    (taken : taskEnvironment environment request before answer after) :
    AtWork (record.after (.execute ⟨request, answer⟩)) after.upload
      (continued answer) := by
  rcases accounted.accounts answer with ⟨later, rule, rest⟩
  cases rule with
  | @executor run _ _ inner =>
      cases inner with
      | poll answer =>
          exact accounted.quietly counted active rest rfl rfl
            (executor_upload taken (by simp)) (after_executor _ (by simp))
      | wait delayUs answer =>
          exact accounted.quietly counted active rest rfl rfl
            (executor_upload taken (by simp)) (after_executor _ (by simp))
      | @other _ call answer untracked =>
          have silent : ∀ sourceIndex completedRecords totalRecords,
              call ≠ Callback.progress sourceIndex completedRecords totalRecords := by
            intro _ _ _ same
            rw [same] at untracked
            cases untracked
          exact accounted.quietly counted active rest rfl rfl
            (executor_upload taken silent) (after_executor _ silent)
      | @report _ completedRecords sourceIndex answer number within =>
          have begun := accounted.begun rfl
          have status := @recordProgress_status before.upload sourceIndex
            completedRecords before.upload.totalRecords
          rw [show after = _ from taken]
          have total : (typxWifiUploadRecordProgress before.upload sourceIndex
              completedRecords before.upload.totalRecords).totalRecords =
                before.upload.totalRecords := by
            rw [typxWifiUploadRecordProgress]
            split <;> rfl
          refine ⟨?_, fun _ => counted.report active begun accounted.reported
            number within, ⟨true, { run with reported := run.reported + 1 }⟩,
            ?_, ?_, ?_⟩
          · exact status ▸ active.unready
          · change Accounts (typxWifiUploadRecordProgress before.upload sourceIndex
              completedRecords before.upload.totalRecords).totalRecords _ _
            rw [total]
            exact rest
          · change _ = (record.reports ++ [_]).length
            rw [List.length_append, ← accounted.reported]
            rfl
          · intro _
            exact status ▸ begun
  | releaseAll answer =>
      exact accounted.quietly counted active rest rfl rfl
        (executor_upload taken (by simp)) (after_executor _ (by simp))
  | wait delayMs answer =>
      exact accounted.quietly counted active rest rfl rfl
        (congrArg Device.upload taken.2) rfl
  | stopFlag answer =>
      exact accounted.quietly counted active rest rfl rfl
        (congrArg Device.upload taken.2) rfl
  | runner answer untracked =>
      exact accounted.quietly counted active rest rfl rfl
        (runner_upload taken untracked) rfl
  | countdownComplete answer =>
      have moved := markExecuting_sameProgress before.upload
      rw [show after = _ from taken]
      have total : (typxWifiUploadMarkExecuting before.upload).2.totalRecords =
          before.upload.totalRecords := by
        rcases moved.2 with same | ⟨_, same⟩ <;> rw [same]
      refine ⟨?_, fun _ => counted.markExecuting, { state with begun := true },
        ?_, accounted.reported, fun _ => moved.1⟩
      · change (typxWifiUploadMarkExecuting before.upload).2.status ≠ .ready
        rcases moved.2 with same | ⟨_, same⟩
        · rw [same]
          exact active.unready
        · rw [same]
          simp
      · change Accounts (typxWifiUploadMarkExecuting before.upload).2.totalRecords
          _ _
        rw [total]
        exact rest
  | @complete _ executorError answer outcome =>
      rw [show after = _ from taken]
      have inactive := complete_inactive before.upload executorError
      exact ⟨inactive.2, fun still => absurd still inactive.1, state, rest,
        accounted.reported, fun _ still => inactive.1 (.inl still)⟩

end Calls

/-! ## What a step does to it -/

section Steps

variable {record : RunRecord} {before after : Service σ} {event : ServiceEvent}

theorem Recorded.elsewhere (recorded : Recorded record before)
    (upload : after.upload = before.upload)
    (start : after.start ≠ .idle → before.start ≠ .idle)
    (execution : ∀ task, after.execution = .running task →
      before.execution = .running task) : Recorded record after where
  ready := by
    rw [upload]
    exact recorded.ready
  active := by
    rw [upload]
    exact recorded.active
  silent busy := recorded.silent (start busy)
  running task here := by
    rw [upload]
    exact recorded.running task (execution task here)

theorem prepareStart_next {upload next : Upload} {jobId : Vector UInt8 16}
    {hidReadiness : HidReadiness} {schedule : VerifiedSchedule}
    (prepared : typxWifiUploadPrepareStart upload jobId hidReadiness =
      (.ok schedule, next)) :
    next = { upload with status := .countdown, stopRequested := false } := by
  rw [typxWifiUploadPrepareStart] at prepared
  split_ifs at prepared
  all_goals cases prepared
  rfl

theorem requestStop_cases {upload next : Upload} {error : UploadError}
    (stopped : typxWifiUploadRequestStop upload = (error, next)) :
    next = upload ∧ (∀ (record : RunRecord) (invocation : Nat),
        record.after (.requestUploadStop invocation upload.status error) =
          record) ∨
      (upload.status = .countdown ∨ upload.status = .executing) ∧ error = .ok ∧
        next = { upload with stopRequested := true, status := .stopping } := by
  rw [typxWifiUploadRequestStop] at stopped
  split_ifs at stopped with already inactive
  · cases stopped
    refine .inl ⟨rfl, ?_⟩
    intro record invocation
    rcases Bool.or_eq_true_iff.mp already with same | same
    · rw [beq_iff_eq.mp same]
      cases record with | mk reports stopped late => cases stopped <;> rfl
    · rw [beq_iff_eq.mp same]
      cases record with | mk reports stopped late => cases stopped <;> rfl
  · cases stopped
    exact .inl ⟨rfl, fun _ _ => rfl⟩
  · cases stopped
    refine .inr ⟨?_, rfl, rfl⟩
    by_cases counting : upload.status = .countdown
    · exact .inl counting
    · exact .inr (by simpa [counting] using inactive)

theorem Recorded.requestStop {error : UploadError} {next : Upload}
    {invocation : Nat} (recorded : Recorded record before)
    (stopped : typxWifiUploadRequestStop before.upload = (error, next))
    (upload : after.upload = next) (start : after.start = before.start)
    (execution : after.execution = before.execution) :
    Recorded (record.after
      (.requestUploadStop invocation before.upload.status error)) after := by
  rcases requestStop_cases stopped with ⟨same, unchanged⟩ | ⟨found, ok, moved⟩
  · rw [unchanged]
    exact recorded.elsewhere (upload.trans same) (fun busy => start ▸ busy)
      (fun _ here => execution ▸ here)
  have active : Active before.upload.status := by
    rcases found with status | status
    · exact .inl status
    · exact .inr (.inl status)
  have counted := recorded.active active
  have unstopped := counted.unstopped (by rcases found with status | status <;>
    simp [status])
  have accepted : record.after
      (.requestUploadStop invocation before.upload.status error) =
        { record with stopped := true } := by
    rw [ok]
    rcases found with status | status <;> simp [RunRecord.after, status]
  rw [accepted]
  refine ⟨?_, ?_, ?_, ?_⟩
  · rw [upload, moved]
    nofun
  · rw [upload, moved]
    intro _
    exact {
      total := counted.total
      stopping := ⟨fun _ => rfl, fun _ => rfl⟩
      punctual := counted.punctual
      short := fun late => ⟨(counted.short late).1, rfl⟩ }
  · intro busy
    exact recorded.silent (start ▸ busy)
  · intro task here
    rcases recorded.running task (execution ▸ here) with ⟨state, accounted⟩
    rw [upload, moved]
    exact ⟨state, accounted.accounts, accounted.reported, fun _ => nofun⟩

theorem Recorded.handled {job : System σ} {event : UploadEvent}
    (recorded : Recorded record before) (sound : Sound before)
    (other : otherHandlers event.op = true)
    (taken : UploadStep environment before.job event job) :
    Recorded record { before with job := job } := by
  have handled : Handled before.upload job.upload :=
    otherHandlers_handled other _ _ _ taken.2.2
  by_cases active : Active before.upload.status
  · have status : job.upload.status = before.upload.status :=
      otherHandlers_status taken.moves other active
    have same : SameProgress before.upload job.upload := by
      generalize job.upload = next at handled status
      cases handled with
      | same same => exact same
      | promoted schedule => exact absurd status.symm active.unready
      | cleared statuses =>
          rw [status] at statuses
          rcases active with same | same | same <;> simp [same] at statuses
    refine ⟨?_, fun _ => (recorded.active active).of_same same, recorded.silent,
      ?_⟩
    · intro ready
      exact absurd (status.symm.trans ready) active.unready
    · intro task here
      rcases recorded.running task here with ⟨state, accounted⟩
      refine ⟨state, ?_, accounted.reported, ?_⟩
      · change Accounts job.upload.totalRecords task state
        rw [same.totalRecords]
        exact accounted.accounts
      · intro begun
        change job.upload.status ≠ .countdown
        rw [status]
        exact accounted.begun begun
  · have free := sound.free active
    refine ⟨?_, ?_, fun busy => absurd free.1 busy, ?_⟩
    · change job.upload.status = .ready → Unreported job.upload
      generalize job.upload = next at handled
      intro ready
      cases handled with
      | same same => exact (recorded.ready (same.status ▸ ready)).of_same same
      | promoted schedule => exact ⟨rfl, rfl, rfl⟩
      | cleared statuses => rw [ready] at statuses; simp at statuses
    · change Active job.upload.status → Counted record job.upload
      generalize job.upload = next at handled
      intro still
      cases handled with
      | same same => exact absurd (same.status ▸ still) active
      | promoted schedule => exact absurd rfl still.unready
      | cleared statuses =>
          rcases still with same | same | same <;> simp [same] at statuses
    · intro task here
      cases free.2.symm.trans here

theorem Recorded.prepared {jobId : Vector UInt8 16}
    {hidReadiness : HidReadiness} {schedule : VerifiedSchedule} {next : Upload}
    (recorded : Recorded record before) (sound : Sound before)
    (prepared : typxWifiUploadPrepareStart before.upload jobId hidReadiness =
      (.ok schedule, next)) (upload : after.upload = next)
    (execution : after.execution = before.execution) :
    Recorded .fresh after := by
  have ready := (prepareStart_ok prepared).1
  have unreported := recorded.ready ready
  have free := sound.free (by simp [Active, ready])
  rw [prepareStart_next prepared] at upload
  refine ⟨?_, ?_, fun _ => rfl, ?_⟩
  · rw [upload]
    simp
  · rw [upload]
    intro _
    exact unreported.counted rfl rfl rfl rfl unreported.total
  · intro task here
    rw [execution, free.2] at here
    cases here

theorem Recorded.startFailed (recorded : Recorded record before)
    (sound : Sound before) (here : before.start = .startFailed)
    (upload : after.upload = (typxWifiUploadStartFailed before.upload).2)
    (start : after.start = .idle) (execution : after.execution = before.execution) :
    Recorded record after := by
  have none := sound.coherent.none (.inr (.inr here))
  have active := sound.active (.inl (by simp [here]))
  have counted := recorded.active active
  have empty := recorded.silent (by simp [here])
  rw [typxWifiUploadStartFailed] at upload
  split_ifs at upload with other
  · exact recorded.elsewhere upload (fun busy => absurd start busy)
      (fun task running => execution ▸ running)
  have countdown : before.upload.status = .countdown := by simpa using other
  have punctual := counted.punctual (counted.unstopped (by simp [countdown])).2
  rw [empty] at punctual
  refine ⟨?_, ?_, fun busy => absurd start busy, ?_⟩
  · intro _
    rw [upload]
    exact ⟨UInt32.toNat_inj.mp punctual.1, punctual.2, counted.total⟩
  · rw [upload]
    intro still
    exact absurd rfl still.unready
  · intro task running
    rw [execution, none] at running
    cases running

theorem ServiceStep.recorded (step : ServiceStep environment before event after)
    (sound : Sound before) (recorded : Recorded record before) :
    Recorded (record.after event) after := by
  cases step with
  | prepared _ prepared => exact recorded.prepared sound prepared rfl rfl
  | refused refused =>
      exact recorded.elsewhere (prepareStart_error refused) id fun _ => id
  | markActive marked here =>
      exact recorded.elsewhere rfl (fun _ => by simp [here]) fun _ => id
  | taskCreated here =>
      exact recorded.elsewhere rfl (fun _ => by simp [here]) fun _ => nofun
  | taskNotCreated here =>
      exact recorded.elsewhere rfl (fun _ => by simp [here]) fun _ => id
  | responded here =>
      exact recorded.elsewhere rfl (fun _ => by simp [here]) fun _ => id
  | notResponded here =>
      exact recorded.elsewhere rfl (fun _ => by simp [here]) fun _ => nofun
  | notify here =>
      have busy : before.start ≠ .idle := by simp [here]
      have counted := recorded.active (sound.active (.inl busy))
      refine ⟨recorded.ready, recorded.active, fun idle => absurd rfl idle, ?_⟩
      intro task running
      cases running
      refine ⟨⟨false, runningAt 0⟩, ?_, ?_, nofun⟩
      · change Accounts before.upload.totalRecords _ _
        rw [counted.total]
        exact executionTask_accounts _
      · exact (congrArg List.length (recorded.silent busy)).symm
  | startFailed here => exact recorded.startFailed sound here rfl rfl rfl
  | requestUploadStop _ stopped =>
      exact recorded.requestStop stopped rfl rfl rfl
  | requestHidStop _ => exact recorded.elsewhere rfl id fun _ => id
  | @execute device request continued answer here taken =>
      have active := sound.active (.inr (by simp [here]))
      rcases sound.execute here answer with ⟨idle, _⟩
      rcases recorded.running _ here with ⟨state, accounted⟩
      have atWork := accounted.step (recorded.active active) active taken
      refine ⟨fun ready => absurd ready atWork.unready, atWork.counted,
        fun busy => absurd idle busy, ?_⟩
      intro task running
      rw [← execution_after running]
      exact atWork.accounted
  | upload other taken => exact recorded.handled sound other taken
  | connected => exact recorded.elsewhere rfl id fun _ => id
  | disconnected => exact recorded.elsewhere rfl id fun _ => id
  | consoleStop => exact recorded.elsewhere rfl id fun _ => id

theorem recorded_boot (world : σ) : Recorded .fresh (boot world) where
  ready := nofun
  active := by
    intro active
    rcases active with same | same | same <;> cases same
  silent busy := absurd rfl busy
  running task here := by cases here

theorem recorded_run {world : σ} {events : List ServiceEvent}
    (run : Run (ServiceStep environment) (boot world) events after) :
    Sound after ∧ Recorded (runRecord events) after := by
  have start : Sound (boot world) ∧ Recorded (runRecord []) (boot world) :=
    ⟨sound_boot world, recorded_boot world⟩
  have property : Sound after ∧ Recorded (runRecord ([] ++ events)) after := by
    apply run.history
      (fun past service => Sound service ∧ Recorded (runRecord past) service)
      _ start
    intro past here event next holds step
    rw [runRecord_append]
    exact ⟨step.sound holds.1, step.recorded holds.1 holds.2⟩
  exact property

end Steps

/-! ## Completed jobs -/

/-- The upload says what the executor reported last, and a completed job
counts all its records. -/
def ProgressReported (reports : List Report) (upload : Upload) : Prop :=
  upload.completedRecords.toNat = reports.length ∧
    upload.currentSourceIndex = lastSourceIndex reports ∧
    (upload.status = .completed → upload.completedRecords = upload.totalRecords)

/-- At the end of every run the progress is the executor's exactly when no stop
was accepted before the last report. -/
theorem service_reportsPunctualProgress {world : σ}
    {events : List ServiceEvent} {before after : Service σ}
    {executorError : ExecutorError}
    (run : Run (ServiceStep environment) (boot world) events before)
    (completion : ServiceStep environment before
      (.execute ⟨.inr (.complete executorError), ()⟩) after) :
    ProgressReported (runRecord events).reports after.upload ↔
      (runRecord events).late = false := by
  rcases recorded_run run with ⟨sound, recorded⟩
  cases completion with | @execute device _ continued _ here taken =>
  have counted := recorded.active (sound.active (.inr (by simp [here])))
  rcases recorded.running _ here with ⟨state, accounted⟩
  have completed : device.upload =
      typxWifiUploadComplete before.upload executorError :=
    congrArg Device.upload taken
  change ProgressReported _ device.upload ↔ _
  rw [completed]
  constructor
  · intro reported
    cases late : (runRecord events).late with
    | false => rfl
    | true =>
        have short := (counted.short late).1
        have equal : before.upload.completedRecords.toNat = _ := reported.1
        omega
  · intro punctual
    rcases counted.punctual punctual with ⟨count, source⟩
    refine ⟨count, source, ?_⟩
    intro status
    have ok : executorError = .ok := by
      cases executorError <;> simp [typxWifiUploadComplete] at status
      rfl
    rcases accounted.accounts () with ⟨next, rule, _⟩
    cases rule with
    | runner _ untracked => cases untracked
    | complete _ outcome =>
        have all := outcome.complete ok
        rw [accounted.reported] at all
        exact UInt32.toNat_inj.mp (count.trans all)

/-! ## A stop before the last report -/

def completing : Execution → Option ExecutorError
  | .running (.ask (.inr (.complete executorError)) _) => some executorError
  | _ => none

theorem completing_step {service : Service σ} {executorError : ExecutorError}
    (here : completing service.execution = some executorError) :
    ∃ after, ServiceStep environment service
        (.execute ⟨.inr (.complete executorError), ()⟩) after ∧
      after.upload = typxWifiUploadComplete service.upload executorError := by
  unfold completing at here
  split at here
  · rename_i running
    cases here
    exact ⟨_, .execute running rfl, rfl⟩
  · cases here

theorem complete_ok (upload : Upload) :
    (typxWifiUploadComplete upload .ok).status = .completed ∧
      (typxWifiUploadComplete upload .ok).completedRecords =
        upload.completedRecords ∧
      (typxWifiUploadComplete upload .ok).totalRecords = upload.totalRecords :=
  ⟨rfl, rfl, rfl⟩

def withUploadStop (service : Service σ) : Service σ :=
  { service with
    toDevice := service.withUpload (typxWifiUploadRequestStop service.upload).2
    stops := Function.update service.stops 0 true }

theorem withUploadStop_step {service : Service σ}
    (executing : service.upload.status = .executing)
    (free : service.stops 0 = false) :
    ServiceStep environment service (.requestUploadStop 0 .executing .ok)
      (withUploadStop service) := by
  have stopped : typxWifiUploadRequestStop service.upload =
      (.ok, (typxWifiUploadRequestStop service.upload).2) := by
    apply Prod.ext
    · simp [typxWifiUploadRequestStop, executing]
    · rfl
  have step : ServiceStep environment service
      (.requestUploadStop 0 service.upload.status .ok) _ :=
    .requestUploadStop free stopped
  rw [executing] at step
  exact step

def letterEvents (calls : Nat) : List ServiceEvent :=
  letterReady.1.map .upload ++ startEvents letterJob ++ (letterCounting calls).1

theorem letterEvents_run (calls : Nat) :
    Run (ServiceStep (stagingStorage letterHash)) (boot blankWorld)
      (letterEvents calls) (letterCounting calls).2 :=
  run_append_iff.mpr
    ⟨_, letterStarted_run, taskRun_run letterHash calls (started letterReady.2)⟩

def letterStopping : List ServiceEvent × Service World :=
  taskRun letterHash 11 (withUploadStop (letterCounting 61).2)

theorem letterProgress_facts :
    completing (letterCounting 72).2.execution = some .ok ∧
    (runRecord (letterEvents 72)).late = false ∧
    (letterCounting 61).2.upload.status = .executing ∧
    (letterCounting 61).2.stops 0 = false ∧
    completing letterStopping.2.execution = some .ok ∧
    letterStopping.2.upload.completedRecords ≠
      letterStopping.2.upload.totalRecords := by
  decide +kernel

theorem letterStopping_run :
    Run (ServiceStep (stagingStorage letterHash)) (boot blankWorld)
      (letterEvents 61 ++ .requestUploadStop 0 .executing .ok ::
        letterStopping.1) letterStopping.2 := by
  rcases letterProgress_facts.2.2 with ⟨executing, free, _⟩
  exact run_middle_iff.mpr ⟨_, _, letterEvents_run 61,
    withUploadStop_step executing free, taskRun_run letterHash 11 _⟩

/-- The job completes one record short. -/
theorem service_losesLateReports :
    ∃ (events : List ServiceEvent) (before after : Service World),
      Run (ServiceStep (stagingStorage letterHash)) (boot blankWorld) events
        before ∧
      ServiceStep (stagingStorage letterHash) before
        (.execute ⟨.inr (.complete .ok), ()⟩) after ∧
      ¬ProgressReported (runRecord events).reports after.upload := by
  rcases letterProgress_facts.2.2.2.2 with ⟨completes, short⟩
  rcases completing_step completes with ⟨after, completion, upload⟩
  refine ⟨_, _, after, letterStopping_run, completion, ?_⟩
  intro reported
  rcases complete_ok letterStopping.2.upload with ⟨status, records, total⟩
  have all := reported.2.2
  rw [upload, status, records, total] at all
  exact short (all rfl)

theorem service_reportsPunctualProgress_letter :
    ∃ (before after : Service World),
      Run (ServiceStep (stagingStorage letterHash)) (boot blankWorld)
        (letterEvents 72) before ∧
      ServiceStep (stagingStorage letterHash) before
        (.execute ⟨.inr (.complete .ok), ()⟩) after ∧
      ProgressReported (runRecord (letterEvents 72)).reports after.upload := by
  rcases letterProgress_facts with ⟨completes, punctual, _⟩
  rcases completing_step completes with ⟨after, completion, _⟩
  exact ⟨_, after, letterEvents_run 72, completion,
    (service_reportsPunctualProgress (letterEvents_run 72) completion).mpr
      punctual⟩

end Typxen.WifiService
