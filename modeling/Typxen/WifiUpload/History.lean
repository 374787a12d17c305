import Typxen.WifiUpload.Operations

/-! # Histories of an upload

Which operations lead into the states of a job and out of them, and so what
must have happened before a state is reached. Nothing is assumed of the
storage, and the chunk operations may be called with any session. -/

namespace Typxen.WifiUpload

open Interaction Transition

/-! ## Entering the states -/

def Receiving (upload : Upload) : Prop := upload.status = .receiving

def Startable (upload : Upload) : Prop :=
  upload.status = .ready ∨ upload.status = .countdown

def Promoted (upload : Upload) : Prop :=
  Startable upload ∨ upload.status = .executing

structure OfJob (job upload : Upload) : Prop where
  jobId : upload.jobId = job.jobId
  expectedSize : upload.expectedSize = job.expectedSize
  expectedSha256 : upload.expectedSha256 = job.expectedSha256

section Entries

variable {upload next : Upload} {op : UploadOp} {error : UploadError}

theorem typxWifiUploadComplete_status (upload : Upload)
    (executorError : ExecutorError) :
    (typxWifiUploadComplete upload executorError).status = .completed ∨
      (typxWifiUploadComplete upload executorError).status = .stopped ∨
      (typxWifiUploadComplete upload executorError).status = .error := by
  cases executorError <;> simp [typxWifiUploadComplete]

theorem SameJob.ofJob {job : Upload} (same : SameJob upload next) :
    OfJob job next ↔ OfJob job upload := by
  constructor
  · intro ofJob
    exact ⟨same.jobId.symm.trans ofJob.jobId,
      same.expectedSize.symm.trans ofJob.expectedSize,
      same.expectedSha256.symm.trans ofJob.expectedSha256⟩
  · intro ofJob
    exact ⟨same.jobId.trans ofJob.jobId,
      same.expectedSize.trans ofJob.expectedSize,
      same.expectedSha256.trans ofJob.expectedSha256⟩

theorem SameJob.startable (same : SameJob upload next) :
    Startable next ↔ Startable upload := by
  rw [Startable, Startable, same.status]

theorem Moves.enters_job {job : Upload} (moves : Moves upload op error next)
    (outside : ¬(Receiving upload ∧ OfJob job upload))
    (inside : Receiving next ∧ OfJob job next) :
    op = .begin job.jobId job.expectedSize job.expectedSha256 ∧ error = .ok := by
  rcases inside with ⟨receiving, inside⟩
  cases moves with
  | kept _ same =>
      exact absurd ⟨same.status.symm.trans receiving, same.ofJob.mp inside⟩
        outside
  | begun _ _ =>
      rcases inside with ⟨jobId, size, digest⟩
      rw [← jobId, ← size, ← digest]
      exact ⟨rfl, rfl⟩
  | rejected _ _ failed => cases failed.symm.trans receiving
  | @completed executorError =>
      have status := typxWifiUploadComplete_status upload executorError
      simp only [Receiving] at receiving
      simp [receiving] at status
  | _ => cases receiving

theorem Moves.begins_job {job : Upload} {jobId : Vector UInt8 16}
    {size : UInt32} {digest : Vector UInt8 32}
    (moves : Moves upload (.begin jobId size digest) .ok next)
    (inside : OfJob job next) :
    UploadOp.begin jobId size digest =
      .begin job.jobId job.expectedSize job.expectedSha256 := by
  cases moves with
  | kept advances _ => exact absurd rfl (advances rfl)
  | begun _ _ =>
      rcases inside with ⟨jobId, size, digest⟩
      rw [← jobId, ← size, ← digest]
      rfl

theorem Moves.enters_startable (moves : Moves upload op error next)
    (outside : ¬Startable upload) (inside : Startable next) :
    Receiving upload ∧ error = .ok ∧ next.jobId = upload.jobId ∧
      op = .finalize upload.jobId upload.expectedSize upload.expectedSha256 := by
  cases moves with
  | kept _ same => exact absurd (same.startable.mp inside) outside
  | promoted receiving => exact ⟨receiving, rfl, rfl, rfl⟩
  | prepared ready => exact absurd (.inl ready) outside
  | rolledBack countdown => exact absurd (.inr countdown) outside
  | rejected _ _ failed => simp [Startable, failed] at inside
  | @completed executorError =>
      rcases typxWifiUploadComplete_status upload executorError with
        status | status | status <;> simp [Startable, status] at inside
  | _ => simp [Startable, WifiUpload.begun,
      typxWifiUploadMarkInterruptedReset] at inside

theorem Moves.enters_executing (moves : Moves upload op error next)
    (outside : upload.status ≠ .executing) (inside : next.status = .executing) :
    upload.status = .countdown := by
  cases moves with
  | kept _ same => exact absurd (same.status.symm.trans inside) outside
  | executing countdown => exact countdown
  | rejected _ _ failed => simp [failed] at inside
  | @completed executorError =>
      rcases typxWifiUploadComplete_status upload executorError with
        status | status | status <;> simp [status] at inside
  | _ => cases inside

theorem Moves.enters_promoted (moves : Moves upload op error next)
    (outside : ¬Promoted upload) (inside : Promoted next) :
    Receiving upload ∧ error = .ok ∧ next.jobId = upload.jobId ∧
      op = .finalize upload.jobId upload.expectedSize upload.expectedSha256 := by
  rcases inside with startable | executing
  · exact moves.enters_startable (fun already => outside (.inl already)) startable
  · have countdown := moves.enters_executing
      (fun already => outside (.inr already)) executing
    exact absurd (.inl (.inr countdown)) outside

/-- A promoted job becomes ready again only by a rollback. -/
theorem Moves.returns_ready (moves : Moves upload op error next)
    (promoted : Promoted upload) (outside : upload.status ≠ .ready)
    (inside : next.status = .ready) : op = .startFailed ∧ error = .ok := by
  cases moves with
  | kept _ same => exact absurd (same.status.symm.trans inside) outside
  | rolledBack _ => exact ⟨rfl, rfl⟩
  | promoted receiving => simp [Promoted, Startable, receiving] at promoted
  | rejected _ _ failed => simp [failed] at inside
  | @completed executorError =>
      rcases typxWifiUploadComplete_status upload executorError with
        status | status | status <;> simp [status] at inside
  | _ => cases inside

theorem Moves.stays_promoted (moves : Moves upload op error next)
    (promoted : Promoted upload) (still : Promoted next) :
    next.jobId = upload.jobId ∧ ¬(op.ends = true ∧ error = .ok) := by
  cases moves with
  | kept advances same =>
      refine ⟨same.jobId, ?_⟩
      intro ends
      exact advances (UploadOp.advances_of_ends ends.1) ends.2
  | promoted receiving => simp [Promoted, Startable, receiving] at promoted
  | rejected _ _ failed => simp [Promoted, Startable, failed] at still
  | @completed executorError =>
      rcases typxWifiUploadComplete_status upload executorError with
        status | status | status <;> simp [Promoted, Startable, status] at still
  | prepared _ => exact ⟨rfl, fun ends => nomatch ends.1⟩
  | rolledBack _ => exact ⟨rfl, fun ends => nomatch ends.1⟩
  | executing _ => exact ⟨rfl, fun ends => nomatch ends.1⟩
  | _ => simp [Promoted, Startable, WifiUpload.begun,
      typxWifiUploadMarkInterruptedReset] at still

/-- Nothing interrupts a job that is still being received. -/
theorem Moves.stays_receiving (moves : Moves upload op error next)
    (receiving : Receiving next) :
    ¬(op = .markInterruptedReset ∧ error = .ok) := by
  intro interrupts
  cases moves with
  | kept advances same =>
      rw [interrupts.1] at advances
      exact advances rfl interrupts.2
  | interrupted => cases receiving
  | _ => cases interrupts.1

end Entries

/-! ## Histories -/

section Histories

variable {σ : Type} {environment : Environment callbacks σ}
  {before after : System σ} {events : List UploadEvent}

/-- The step that began the job being received, which nothing interrupted
since. A later begin can only have repeated it. -/
structure Beginning (events : List UploadEvent) (upload : Upload) where
  first : List UploadEvent
  event : UploadEvent
  second : List UploadEvent
  split : events = first ++ event :: second
  op : event.op =
    .begin upload.jobId upload.expectedSize upload.expectedSha256
  result : event.result = .ok
  latest : ∀ later ∈ second, later.Begins → later.op = event.op
  uninterrupted : ∀ later ∈ second, ¬later.Interrupts

theorem Beginning.begins {upload : Upload} (beginning : Beginning events upload) :
    beginning.event.Begins :=
  ⟨_, _, _, beginning.op, beginning.result⟩

theorem beginning_of_receiving
    (run : UploadRun environment before events after)
    (outside : ¬Receiving before.upload) (inside : Receiving after.upload) :
    Nonempty (Beginning events after.upload) := by
  rcases run.last_entry
    (fun system => Receiving system.upload ∧ OfJob after.upload system.upload)
    (fun both => outside both.1) ⟨inside, rfl, rfl, rfl⟩ with ⟨entry⟩
  rcases entry.taken.moves.enters_job entry.outside entry.inside with
    ⟨op, result⟩
  refine ⟨{
    first := entry.first
    event := entry.label
    second := entry.second
    split := entry.split
    op := op
    result := result
    latest := ?_
    uninterrupted := ?_ }⟩
  · intro later member begins
    rcases entry.rest.within_of_mem member with ⟨here, next, _, taken, still⟩
    rcases begins with ⟨jobId, size, digest, laterOp, laterResult⟩
    have moves := taken.moves
    rw [laterOp, laterResult] at moves
    rw [op, laterOp]
    exact moves.begins_job still.2
  · intro later member
    rcases entry.rest.within_of_mem member with ⟨here, next, _, taken, still⟩
    exact taken.moves.stays_receiving still.1

structure Promotion (environment : Environment callbacks σ)
    (before : System σ) (events : List UploadEvent) (after : System σ) where
  first : List UploadEvent
  event : UploadEvent
  second : List UploadEvent
  here : System σ
  next : System σ
  split : events = first ++ event :: second
  start : UploadRun environment before first here
  receiving : Receiving here.upload
  finalizes : event.FinalizesJob after.upload.jobId
  rest : Run (Within (fun system => Promoted system.upload)
    (UploadStep environment)) next second after
  lasting : ∀ other ∈ second, ¬other.Ends

theorem promotion_of_promoted (run : UploadRun environment before events after)
    (outside : ¬Promoted before.upload) (inside : Promoted after.upload) :
    Nonempty (Promotion environment before events after) := by
  rcases run.last_entry (fun system => Promoted system.upload) outside inside
    with ⟨entry⟩
  rcases entry.taken.moves.enters_promoted entry.outside entry.inside with
    ⟨receiving, result, sameJob, op⟩
  have same : after.upload.jobId = entry.next.upload.jobId := by
    apply entry.rest.constant (fun system => system.upload.jobId)
    intro here event next taken
    exact (taken.2.1.moves.stays_promoted taken.1 taken.2.2).1
  refine ⟨{
    first := entry.first
    event := entry.label
    second := entry.second
    here := entry.here
    next := entry.next
    split := entry.split
    start := entry.start
    receiving := receiving
    finalizes := ⟨_, _, by rw [op, same, sameJob], result⟩
    rest := entry.rest
    lasting := ?_ }⟩
  intro other member
  rcases entry.rest.within_of_mem member with
    ⟨here, next, promoted, taken, still⟩
  exact (taken.moves.stays_promoted promoted still).2

end Histories

end Typxen.WifiUpload
