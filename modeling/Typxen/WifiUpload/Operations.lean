import Typxen.WifiUpload.WifiUpload

/-! # Runs of the upload

Every operation on the upload as one step of a transition system. What a step
does to the job is said once, in `Moves`; it holds for any storage. -/

namespace Typxen.WifiUpload

open Interaction Protocol

/-- The operations with their arguments. `session` is a whole chunk request;
the three operations before it are its parts, on any session record. -/
inductive UploadOp
  | begin (jobId : Vector UInt8 16) (encodedSize : UInt32)
      (encodedSha256 : Vector UInt8 32)
  | chunkBegin (session : ChunkSession) (request : ChunkRequest)
  | chunkWrite (session : ChunkSession) (data : List UInt8)
  | chunkFinish (session : ChunkSession)
  | session (request : ChunkRequest) (fragments : List (List UInt8))
      (dropped : Bool)
  | finalize (jobId : Vector UInt8 16) (encodedSize : UInt32)
      (encodedSha256 : Vector UInt8 32)
  | prepareStart (jobId : Vector UInt8 16) (hidReadiness : HidReadiness)
  | startFailed
  | markExecuting
  | requestStop
  | recordProgress (sourceIndex completedRecords totalRecords : UInt32)
  | cancel (jobId : Vector UInt8 16)
  | complete (executorError : ExecutorError)
  | markInterruptedReset

/-- Chunk operations only as part of a whole session. -/
def UploadOp.Atomic : UploadOp → Prop
  | .chunkBegin _ _ => False
  | .chunkWrite _ _ => False
  | .chunkFinish _ => False
  | _ => True

def UploadOp.advances : UploadOp → Bool
  | .begin _ _ _ => true
  | .finalize _ _ _ => true
  | .prepareStart _ _ => true
  | .startFailed => true
  | .markExecuting => true
  | .cancel _ => true
  | .complete _ => true
  | .markInterruptedReset => true
  | _ => false

/-- What an operation returns; those that return nothing count as OK. -/
def perform (upload : Upload) : UploadOp → Firmware (UploadError × Upload)
  | .begin jobId encodedSize encodedSha256 =>
      typxWifiUploadBegin upload jobId encodedSize encodedSha256
  | .chunkBegin session request => do
      let (error, _) ← typxWifiUploadChunkBegin upload session request.jobId
        request.sequence request.offset request.length request.crc32
      return (error, upload)
  | .chunkWrite session data => do
      let (error, _) ← typxWifiUploadChunkWrite session data
      return (error, upload)
  | .chunkFinish session => return typxWifiUploadChunkFinish upload session
  | .session request fragments dropped =>
      chunkSession upload request fragments dropped
  | .finalize jobId encodedSize encodedSha256 =>
      typxWifiUploadFinalize upload jobId encodedSize encodedSha256
  | .prepareStart jobId hidReadiness =>
      match typxWifiUploadPrepareStart upload jobId hidReadiness with
      | (.ok _, upload) => return (.ok, upload)
      | (.error error, upload) => return (error, upload)
  | .startFailed => return typxWifiUploadStartFailed upload
  | .markExecuting => return typxWifiUploadMarkExecuting upload
  | .requestStop => return typxWifiUploadRequestStop upload
  | .recordProgress sourceIndex completedRecords totalRecords =>
      return (.ok, typxWifiUploadRecordProgress upload sourceIndex
        completedRecords totalRecords)
  | .cancel jobId => return typxWifiUploadCancel upload jobId
  | .complete executorError =>
      return (.ok, typxWifiUploadComplete upload executorError)
  | .markInterruptedReset => return (.ok, typxWifiUploadMarkInterruptedReset upload)

structure System (σ : Type) where
  upload : Upload
  world : σ

structure UploadEvent where
  op : UploadOp
  result : UploadError
  before : Upload
  after : Upload
  trace : Trace

/-! ## Events -/

def UploadEvent.Begins (event : UploadEvent) : Prop :=
  ∃ jobId encodedSize encodedSha256,
    event.op = .begin jobId encodedSize encodedSha256 ∧ event.result = .ok

def UploadEvent.FinalizesJob (jobId : Vector UInt8 16) (event : UploadEvent) :
    Prop :=
  ∃ encodedSize encodedSha256,
    event.op = .finalize jobId encodedSize encodedSha256 ∧ event.result = .ok

def UploadEvent.Finalizes (event : UploadEvent) : Prop :=
  ∃ jobId, event.FinalizesJob jobId

def UploadEvent.Starts (jobId : Vector UInt8 16) (hidReadiness : HidReadiness)
    (event : UploadEvent) : Prop :=
  event.op = .prepareStart jobId hidReadiness ∧ event.result = .ok

def UploadEvent.RollsBack (event : UploadEvent) : Prop :=
  event.op = .startFailed ∧ event.result = .ok

def UploadEvent.Interrupts (event : UploadEvent) : Prop :=
  event.op = .markInterruptedReset ∧ event.result = .ok

def UploadOp.ends : UploadOp → Bool
  | .begin _ _ _ => true
  | .finalize _ _ _ => true
  | .cancel _ => true
  | .complete _ => true
  | .markInterruptedReset => true
  | _ => false

theorem UploadOp.advances_of_ends {op : UploadOp} (ends : op.ends = true) :
    op.advances = true := by
  cases op <;> first | rfl | cases ends

def UploadEvent.Ends (event : UploadEvent) : Prop :=
  event.op.ends = true ∧ event.result = .ok

def UploadEvent.EntersExecuting (event : UploadEvent) : Prop :=
  event.before.status ≠ .executing ∧ event.after.status = .executing

section Steps

variable {σ : Type} {environment : Environment callbacks σ}

def UploadStep (environment : Environment callbacks σ) (before : System σ)
    (event : UploadEvent) (after : System σ) : Prop :=
  event.before = before.upload ∧ event.after = after.upload ∧
    Program.Exec environment (perform before.upload event.op) before.world
      event.trace (event.result, after.upload) after.world

abbrev UploadRun (environment : Environment callbacks σ) :
    System σ → List UploadEvent → System σ → Prop :=
  Transition.Run (UploadStep environment)

def initial (world : σ) : System σ := ⟨typxWifiUploadInit, world⟩

/-! ## What a step does to the job -/

structure SameJob (upload next : Upload) : Prop where
  status : next.status = upload.status
  jobId : next.jobId = upload.jobId
  expectedSize : next.expectedSize = upload.expectedSize
  expectedSha256 : next.expectedSha256 = upload.expectedSha256
  totalRecords : next.totalRecords = upload.totalRecords
  verifiedSchedule : next.verifiedSchedule = upload.verifiedSchedule

theorem SameJob.refl {upload : Upload} : SameJob upload upload :=
  ⟨rfl, rfl, rfl, rfl, rfl, rfl⟩

theorem SameJob.trans {first second third : Upload}
    (start : SameJob first second) (rest : SameJob second third) :
    SameJob first third where
  status := rest.status.trans start.status
  jobId := rest.jobId.trans start.jobId
  expectedSize := rest.expectedSize.trans start.expectedSize
  expectedSha256 := rest.expectedSha256.trans start.expectedSha256
  totalRecords := rest.totalRecords.trans start.totalRecords
  verifiedSchedule := rest.verifiedSchedule.trans start.verifiedSchedule

theorem setError_sameJob (upload : Upload) (error : UploadError) :
    SameJob upload (setError upload error) :=
  ⟨rfl, rfl, rfl, rfl, rfl, rfl⟩

def begun (jobId : Vector UInt8 16) (encodedSize : UInt32)
    (encodedSha256 : Vector UInt8 32) : Upload :=
  { Upload.zero with
    status := .receiving
    expectedSize := encodedSize
    jobId := jobId
    expectedSha256 := encodedSha256 }

def promoted (upload : Upload) (schedule : VerifiedSchedule) : Upload :=
  { upload with
    status := .ready
    protocolError := .ok
    verifiedSchedule := schedule
    lastError := .ok
    totalRecords := schedule.header.actionCount
    completedRecords := 0
    currentSourceIndex := 0 }

structure Beginnable (jobId : Vector UInt8 16) (encodedSize : UInt32)
    (encodedSha256 : Vector UInt8 32) : Prop where
  jobId : allZero jobId = false
  digest : allZero encodedSha256 = false
  positive : 0 < encodedSize.toNat
  size : encodedSize.toNat ≤ 524288

inductive Moves (upload : Upload) : UploadOp → UploadError → Upload → Prop
  | kept {op : UploadOp} {error : UploadError} {next : Upload} :
      (op.advances = true → error ≠ .ok) → SameJob upload next →
      Moves upload op error next
  | begun {jobId : Vector UInt8 16} {size : UInt32} {digest : Vector UInt8 32} :
      Beginnable jobId size digest → typxWifiUploadJobLocked upload = false →
      Moves upload (.begin jobId size digest) .ok (begun jobId size digest)
  | beginFailed {jobId : Vector UInt8 16} {size : UInt32}
      {digest : Vector UInt8 32} :
      Beginnable jobId size digest → typxWifiUploadJobLocked upload = false →
      Moves upload (.begin jobId size digest) .storageFailure
        { begun jobId size digest with
          status := .error, lastError := .storageFailure }
  | promoted {schedule : VerifiedSchedule} : upload.status = .receiving →
      Moves upload
        (.finalize upload.jobId upload.expectedSize upload.expectedSha256) .ok
        (promoted upload schedule)
  | rejected {error : UploadError} {next : Upload} :
      upload.status = .receiving → error ≠ .ok → next.status = .error →
      Moves upload
        (.finalize upload.jobId upload.expectedSize upload.expectedSha256) error
        next
  | prepared : upload.status = .ready →
      Moves upload (.prepareStart upload.jobId .ready) .ok
        { upload with status := .countdown, stopRequested := false }
  | rolledBack : upload.status = .countdown →
      Moves upload .startFailed .ok
        { upload with status := .ready, stopRequested := false }
  | executing : upload.status = .countdown →
      Moves upload .markExecuting .ok { upload with status := .executing }
  | stopping : upload.status = .countdown ∨ upload.status = .executing →
      Moves upload .requestStop .ok
        { upload with stopRequested := true, status := .stopping }
  | cancelled : upload.status = .ready →
      Moves upload (.cancel upload.jobId) .ok { Upload.zero with status := .idle }
  | completed {executorError : ExecutorError} :
      Moves upload (.complete executorError) .ok
        (typxWifiUploadComplete upload executorError)
  | interrupted :
      Moves upload .markInterruptedReset .ok
        (typxWifiUploadMarkInterruptedReset upload)

theorem Moves.failed {upload next : Upload} {op : UploadOp} {error : UploadError}
    (bad : error ≠ .ok) (same : SameJob upload next) :
    Moves upload op error next :=
  .kept (fun _ => bad) same

theorem Moves.quietly {upload next : Upload} {op : UploadOp}
    {error : UploadError} (quiet : op.advances = false)
    (same : SameJob upload next) : Moves upload op error next :=
  .kept (fun advances => Bool.noConfusion (quiet.symm.trans advances)) same

theorem typxWifiUploadBegin_moves (upload : Upload) (jobId : Vector UInt8 16)
    (size : UInt32) (digest : Vector UInt8 32) (before : σ) :
    Program.Ensures environment (typxWifiUploadBegin upload jobId size digest)
      before fun _ outcome _ =>
        Moves upload (.begin jobId size digest) outcome.1 outcome.2 := by
  rw [typxWifiUploadBegin]
  split
  case isTrue => exact Program.ensures_done.mpr (.failed nofun .refl)
  rename_i nonzero
  split
  case isTrue =>
    exact Program.ensures_done.mpr (.failed nofun (setError_sameJob _ _))
  rename_i sized
  split
  case isTrue => exact Program.ensures_done.mpr (.failed nofun .refl)
  rename_i unlocked
  simp only [Bool.or_eq_true, not_or, Bool.not_eq_true] at nonzero unlocked
  simp only [Bool.or_eq_true, beq_iff_eq, decide_eq_true_eq, not_or, gt_iff_lt,
    UInt32.not_lt, UInt32.le_iff_toNat_le] at sized
  have beginnable : Beginnable jobId size digest := {
    jobId := nonzero.1
    digest := nonzero.2
    positive := by
      rw [Nat.pos_iff_ne_zero]
      exact fun zero => sized.1 (UInt32.toNat_inj.mp zero)
    size := sized.2 }
  simp only [Storage.erase_bind, Program.ensures_ask]
  intro answer after step
  cases answer with
  | true => exact Program.ensures_done.mpr (.begun beginnable unlocked)
  | false => exact Program.ensures_done.mpr (.beginFailed beginnable unlocked)

theorem typxWifiUploadChunkFinish_sameJob (upload : Upload)
    (session : ChunkSession) :
    SameJob upload (typxWifiUploadChunkFinish upload session).2 := by
  rw [typxWifiUploadChunkFinish]
  split_ifs <;> exact ⟨rfl, rfl, rfl, rfl, rfl, rfl⟩

theorem chunkSession_sameJob (upload : Upload) (request : ChunkRequest)
    (fragments : List (List UInt8)) (dropped : Bool) (before : σ) :
    Program.Ensures environment (chunkSession upload request fragments dropped)
      before fun _ outcome _ => SameJob upload outcome.2 := by
  refine Program.ensures_true.bind ?_
  intro _ opened _ _
  rcases opened with ⟨error, session⟩
  simp only
  split
  · refine Program.ensures_done.mpr ?_
    exact .refl
  refine Program.ensures_true.bind ?_
  intro _ written _ _
  rcases written with ⟨error, session⟩
  simp only
  split_ifs
  · refine Program.ensures_done.mpr ?_
    exact .refl
  · refine Program.ensures_done.mpr ?_
    exact .refl
  · refine Program.ensures_done.mpr ?_
    exact typxWifiUploadChunkFinish_sameJob _ _

theorem typxWifiUploadFinalize_moves (upload : Upload) (jobId : Vector UInt8 16)
    (size : UInt32) (digest : Vector UInt8 32) (before : σ) :
    Program.Ensures environment
      (typxWifiUploadFinalize upload jobId size digest) before
      fun _ outcome _ =>
        Moves upload (.finalize jobId size digest) outcome.1 outcome.2 := by
  rw [typxWifiUploadFinalize]
  split
  case isTrue => exact Program.ensures_done.mpr (.failed nofun .refl)
  rename_i receiving
  split
  case isTrue => exact Program.ensures_done.mpr (.failed nofun .refl)
  rename_i same
  split
  case isTrue =>
    exact Program.ensures_done.mpr (.failed nofun (setError_sameJob _ _))
  rename_i matching
  split
  case isTrue => exact Program.ensures_done.mpr (.failed nofun .refl)
  split
  case isTrue => exact Program.ensures_done.mpr (.failed nofun .refl)
  simp only [bne_iff_ne, ne_eq, not_not, Bool.or_eq_true, not_or, sameJob,
    Bool.not_eq_true', beq_eq_false_iff_ne] at receiving same matching
  rw [matching.1, matching.2, ← same]
  refine Program.ensures_true.bind ?_
  intro _ hashed _ _
  by_cases accepted : hashed = .ok
  case neg =>
    simp only [bne_iff_ne, ne_eq, accepted, not_false_eq_true, if_true]
    exact Program.ensures_done.mpr (.rejected receiving accepted rfl)
  rw [if_neg (by simp [accepted])]
  refine Program.ensures_true.bind ?_
  intro _ verified _ _
  cases verified with
  | error error =>
      exact Program.ensures_done.mpr (.rejected receiving (by simp) rfl)
  | ok schedule => exact Program.ensures_done.mpr (.promoted receiving)

theorem typxWifiUploadPrepareStart_moves (upload : Upload)
    (jobId : Vector UInt8 16) (hidReadiness : HidReadiness) (before : σ) :
    Program.Ensures environment
      (perform upload (.prepareStart jobId hidReadiness)) before
      fun _ outcome _ =>
        Moves upload (.prepareStart jobId hidReadiness) outcome.1 outcome.2 := by
  rw [perform, typxWifiUploadPrepareStart]
  by_cases idle : upload.status = .ready
  case neg =>
    rw [if_pos (by simpa using idle)]
    exact Program.ensures_done.mpr (.failed nofun .refl)
  rw [if_neg (by simp [idle])]
  by_cases same : upload.jobId = jobId
  case neg =>
    rw [if_pos (by simpa [sameJob] using same)]
    exact Program.ensures_done.mpr (.failed nofun .refl)
  rw [if_neg (by simp [sameJob, same]), ← same]
  cases hidReadiness with
  | disconnected => exact Program.ensures_done.mpr (.failed nofun .refl)
  | pending => exact Program.ensures_done.mpr (.failed nofun .refl)
  | failed => exact Program.ensures_done.mpr (.failed nofun .refl)
  | ready =>
      cases verified : typxProtocolV1IsVerified upload.verifiedSchedule with
      | false => exact Program.ensures_done.mpr (.failed nofun .refl)
      | true => exact Program.ensures_done.mpr (.prepared idle)

/-- A step is one of the moves. -/
theorem perform_moves (upload : Upload) (op : UploadOp) (before : σ) :
    Program.Ensures environment (perform upload op) before
      fun _ outcome _ => Moves upload op outcome.1 outcome.2 := by
  cases op with
  | begin jobId size digest =>
      exact typxWifiUploadBegin_moves upload jobId size digest before
  | chunkBegin session request =>
      refine Program.ensures_true.bind ?_
      intro _ outcome _ _
      exact Program.ensures_done.mpr (.quietly rfl .refl)
  | chunkWrite session data =>
      refine Program.ensures_true.bind ?_
      intro _ outcome _ _
      exact Program.ensures_done.mpr (.quietly rfl .refl)
  | chunkFinish session =>
      exact Program.ensures_done.mpr (.quietly rfl
        (typxWifiUploadChunkFinish_sameJob upload session))
  | session request fragments dropped =>
      refine (chunkSession_sameJob upload request fragments dropped before).mono ?_
      intro _ outcome _ same
      exact .quietly rfl same
  | finalize jobId size digest =>
      exact typxWifiUploadFinalize_moves upload jobId size digest before
  | prepareStart jobId hidReadiness =>
      exact typxWifiUploadPrepareStart_moves upload jobId hidReadiness before
  | startFailed =>
      refine Program.ensures_done.mpr ?_
      rw [typxWifiUploadStartFailed]
      split_ifs with idle
      · exact .failed nofun .refl
      · exact .rolledBack (by simpa using idle)
  | markExecuting =>
      refine Program.ensures_done.mpr ?_
      rw [typxWifiUploadMarkExecuting]
      split_ifs with idle
      · exact .failed nofun .refl
      · exact .executing (by simpa using idle)
  | requestStop =>
      refine Program.ensures_done.mpr ?_
      rw [typxWifiUploadRequestStop]
      split_ifs with stopped idle
      · exact .quietly rfl .refl
      · exact .failed nofun .refl
      · exact .stopping (by simpa [or_iff_not_imp_left] using idle)
  | recordProgress sourceIndex completedRecords totalRecords =>
      refine Program.ensures_done.mpr ?_
      rw [typxWifiUploadRecordProgress]
      split_ifs
      · exact .quietly rfl .refl
      · exact .quietly rfl ⟨rfl, rfl, rfl, rfl, rfl, rfl⟩
  | cancel jobId =>
      refine Program.ensures_done.mpr ?_
      rw [typxWifiUploadCancel]
      split_ifs with idle other
      · exact .failed nofun .refl
      · exact .failed nofun .refl
      · have same : upload.jobId = jobId := by simpa [sameJob] using other
        rw [← same]
        exact .cancelled (by simpa using idle)
  | complete executorError => exact Program.ensures_done.mpr .completed
  | markInterruptedReset => exact Program.ensures_done.mpr .interrupted

theorem UploadStep.moves {before after : System σ} {event : UploadEvent}
    (step : UploadStep environment before event after) :
    Moves before.upload event.op event.result after.upload :=
  perform_moves before.upload event.op before.world _ _ _ step.2.2

end Steps

end Typxen.WifiUpload
