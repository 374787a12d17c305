import Typxen.WifiUpload.Promotion

/-! # What is executed is what was verified

From promotion to the end of a run the job is locked: no operation makes a
storage call, so the bytes, the record and the verified schedule stay those
that were finalized. -/

namespace Typxen.WifiUpload

open Interaction Protocol NorFlash Transition

abbrev Locked (upload : Upload) : Prop := typxWifiUploadJobLocked upload = true

theorem locked_iff {upload : Upload} : Locked upload ↔
    upload.status = .ready ∨ upload.status = .countdown ∨
      upload.status = .executing ∨ upload.status = .stopping := by
  simp [Locked, typxWifiUploadJobLocked, or_assoc]

section Invariant

variable {hash : List UInt8 → Vector UInt8 32} {upload next : Upload}
  {flash : Contents} {op : UploadOp} {error : UploadError}

structure Verified (hash : List UInt8 → Vector UInt8 32) (upload : Upload)
    (flash : Contents) : Prop extends Genuine hash upload flash where
  schedule : upload.verifiedSchedule = verifiedUpload upload flash
  total : upload.totalRecords = upload.verifiedSchedule.header.actionCount

theorem Verified.of_same (verified : Verified hash upload flash)
    (size : next.expectedSize = upload.expectedSize)
    (digest : next.expectedSha256 = upload.expectedSha256)
    (total : next.totalRecords = upload.totalRecords)
    (schedule : next.verifiedSchedule = upload.verifiedSchedule) :
    Verified hash next flash where
  intact := by
    rw [Intact, stored, size, digest]
    exact verified.intact
  acceptable := by
    rw [stored, size]
    exact verified.acceptable
  schedule := by
    rw [schedule, verifiedUpload, stored, size]
    exact verified.schedule
  total := by rw [total, schedule]; exact verified.total

/-- Operations on a locked job make no calls, and those that could make some
report an error. -/
theorem perform_locked (locked : Locked upload) (atomic : op.Atomic) :
    ∃ outcome, perform upload op = .done outcome ∧
      (op.Callless ∨ outcome.1 ≠ .ok) := by
  have notReceiving : ¬upload.status = .receiving := by
    intro receiving
    rw [locked_iff, receiving] at locked
    simp at locked
  have callless (pure : op.Callless) : ∃ outcome,
      perform upload op = .done outcome ∧ (op.Callless ∨ outcome.1 ≠ .ok) := by
    rcases perform_callless upload pure with ⟨outcome, answered, _⟩
    exact ⟨outcome, answered, .inl pure⟩
  cases op with
  | begin jobId size digest =>
      rw [perform, typxWifiUploadBegin]
      split
      · exact ⟨_, rfl, .inr (by simp)⟩
      split
      · exact ⟨_, rfl, .inr (by simp)⟩
      exact ⟨_, rfl, .inr (by simp)⟩
  | chunkBegin _ _ => exact atomic.elim
  | chunkWrite _ _ => exact atomic.elim
  | chunkFinish _ => exact atomic.elim
  | session request fragments dropped =>
      rw [perform, chunkSession, typxWifiUploadChunkBegin,
        if_pos (by simpa using notReceiving)]
      exact ⟨_, rfl, .inr (by simp)⟩
  | finalize jobId size digest =>
      rw [perform, typxWifiUploadFinalize, if_pos (by simpa using notReceiving)]
      exact ⟨_, rfl, .inr (by simp)⟩
  | _ => exact callless trivial

theorem Moves.stays_locked (moves : Moves upload op error next)
    (locked : Locked upload) (still : Locked next) :
    OfJob upload next ∧ next.totalRecords = upload.totalRecords ∧
      next.verifiedSchedule = upload.verifiedSchedule := by
  have state := locked_iff.mp locked
  cases moves with
  | kept _ same =>
      exact ⟨⟨same.jobId, same.expectedSize, same.expectedSha256⟩,
        same.totalRecords, same.verifiedSchedule⟩
  | begun _ unlocked => exact absurd (unlocked.symm.trans locked) nofun
  | beginFailed _ unlocked => exact absurd (unlocked.symm.trans locked) nofun
  | promoted receiving => simp [receiving] at state
  | rejected receiving _ _ => simp [receiving] at state
  | cancelled _ => exact absurd still (by decide)
  | _ => exact ⟨⟨rfl, rfl, rfl⟩, rfl, rfl⟩

theorem Moves.enters_locked (moves : Moves upload op error next)
    (outside : ¬Locked upload) (inside : Locked next) :
    Receiving upload ∧ error = .ok ∧ OfJob upload next ∧
      op = .finalize upload.jobId upload.expectedSize upload.expectedSha256 := by
  have state := locked_iff.mp inside
  rw [locked_iff] at outside
  cases moves with
  | kept _ same =>
      rw [same.status] at state
      exact absurd state outside
  | begun _ _ => simp [WifiUpload.begun] at state
  | beginFailed _ _ => simp at state
  | promoted receiving => exact ⟨receiving, rfl, ⟨rfl, rfl, rfl⟩, rfl⟩
  | rejected _ _ failed => simp [failed] at state
  | prepared ready => simp [ready] at outside
  | rolledBack countdown => simp [countdown] at outside
  | executing countdown => simp [countdown] at outside
  | stopping running => rcases running with run | run <;> simp [run] at outside
  | cancelled _ => simp at state
  | @completed executorError =>
      rcases typxWifiUploadComplete_status upload executorError with
        status | status | status <;> simp [status] at state
  | interrupted => simp [typxWifiUploadMarkInterruptedReset] at state

end Invariant

section Runs

variable {hash : List UInt8 → Vector UInt8 32} {world : World}
  {before after final : System World} {events : List UploadEvent}
  {event : UploadEvent}

theorem UploadStep.locked {σ : Type} {environment : Environment callbacks σ}
    {before after : System σ} (step : UploadStep environment before event after)
    (locked : Locked before.upload) (atomic : event.op.Atomic) :
    event.trace = [] ∧ after.world = before.world := by
  have execution := step.2.2
  rcases perform_locked locked atomic with ⟨outcome, pure, _⟩
  rw [pure] at execution
  rcases Program.exec_done_iff.mp execution with ⟨trace, _, world⟩
  exact ⟨trace, world⟩

theorem StagingStep.verified (step : StagingStep hash before event after)
    (verified : Locked before.upload →
      Verified hash before.upload before.world.flash)
    (locked : Locked after.upload) :
    Verified hash after.upload after.world.flash := by
  have moves := step.taken.moves
  by_cases already : Locked before.upload
  · rcases moves.stays_locked already locked with ⟨job, total, schedule⟩
    rw [(step.taken.locked already step.admitted).2]
    exact (verified already).of_same job.expectedSize job.expectedSha256 total
      schedule
  · rcases moves.enters_locked already locked with ⟨_, result, _, op⟩
    have execution := step.taken.2.2
    rw [op, result] at execution
    rcases typxWifiUploadFinalize_ensures _ _ _ _ _ _ _ _ execution with
      ⟨flash, outcome⟩
    rw [flash]
    generalize event.trace = trace at outcome
    generalize after.upload = next at outcome ⊢
    cases outcome with
    | refused _ failed _ => exact absurd rfl failed
    | promoted _ genuine _ =>
        exact ⟨⟨genuine.intact, genuine.acceptable⟩, rfl, rfl⟩
    | rejected _ _ failed _ _ => exact absurd rfl failed

theorem initial_unlocked {σ : Type} {world : σ} :
    ¬Locked (initial world).upload := by
  simp [typxWifiUploadJobLocked, initial, typxWifiUploadInit]

theorem verified_of_locked (run : Run (StagingStep hash) (initial world) events
    final) (locked : Locked final.upload) :
    Verified hash final.upload final.world.flash := by
  refine run.invariant (fun system => Locked system.upload →
      Verified hash system.upload system.world.flash) (fun _ => True) ?_
    (fun _ _ => trivial) ?_ locked
  · intro here event next _ holds step
    exact step.verified holds
  · intro impossible
    exact absurd impossible initial_unlocked

/-- The operations that made the locked job what it is. -/
structure Provenance (events : List UploadEvent) (upload : Upload) where
  first : List UploadEvent
  finalizes : UploadEvent
  second : List UploadEvent
  split : events = first ++ finalizes :: second
  op : finalizes.op =
    .finalize upload.jobId upload.expectedSize upload.expectedSha256
  result : finalizes.result = .ok
  beginning : Beginning first upload
  lasting : ∀ later ∈ second, Locked later.before ∧ Locked later.after

theorem provenance_of_locked
    (run : UploadRun (stagingStorage hash) (initial world) events final)
    (locked : Locked final.upload) :
    Nonempty (Provenance events final.upload) := by
  rcases run.last_entry (fun system => Locked system.upload) initial_unlocked
    locked with ⟨entry⟩
  rcases entry.taken.moves.enters_locked entry.outside entry.inside with
    ⟨receiving, result, promoted, op⟩
  have job : OfJob entry.here.upload final.upload := by
    refine entry.rest.invariant
      (fun system => OfJob entry.here.upload system.upload) (fun _ => True) ?_
      (fun _ _ => trivial) promoted
    intro here event next _ same step
    have stays := (step.2.1.moves.stays_locked step.1 step.2.2).1
    exact ⟨stays.jobId.trans same.jobId,
      stays.expectedSize.trans same.expectedSize,
      stays.expectedSha256.trans same.expectedSha256⟩
  rcases beginning_of_receiving entry.start (by simp [Receiving, initial,
    typxWifiUploadInit]) receiving with ⟨beginning⟩
  refine ⟨{
    first := entry.first
    finalizes := entry.label
    second := entry.second
    split := entry.split
    op := by rw [op, job.jobId, job.expectedSize, job.expectedSha256]
    result := result
    beginning := { beginning with
      op := by
        rw [beginning.op, job.jobId, job.expectedSize, job.expectedSha256] }
    lasting := ?_ }⟩
  intro later member
  rcases entry.rest.within_of_mem member with ⟨here, next, holds, step, still⟩
  rw [step.1, step.2.1]
  exact ⟨holds, still⟩

/-- From promotion to the end of the run, the stored bytes are the ones that
were finalized and verified, and no operation touches them. -/
theorem upload_executesVerified
    (run : UploadRun (stagingStorage hash) (initial world) events final)
    (atomic : ∀ event ∈ events, event.op.Atomic) :
    (Locked final.upload →
      hash (stored final.upload final.world.flash) =
          final.upload.expectedSha256 ∧
        (∀ trace result after, Program.Exec (stagingStorage hash)
          (typxProtocolV1Verify (uploadReader final.upload.expectedSize)
            typxProtocolV1Esp32CamLimits) final.world trace result after →
          ¬Faulted Failed trace → result = .ok final.upload.verifiedSchedule) ∧
        final.upload.verifiedSchedule.header =
          headerOf (stored final.upload final.world.flash) ∧
        final.upload.totalRecords =
          final.upload.verifiedSchedule.header.actionCount ∧
        Nonempty (Provenance events final.upload) ∧
        ∀ index < final.upload.verifiedSchedule.header.actionCount,
          ∀ trace result after, Program.Exec (stagingStorage hash)
            (typxProtocolV1ReadRecord final.upload.verifiedSchedule index)
            final.world trace result after →
          ¬Faulted Failed trace → ∃ record, result = .ok record) ∧
    ∀ event ∈ events, Locked event.before → event.trace = [] := by
  have staged := assembled_run run atomic
  constructor
  · intro locked
    have verified := verified_of_locked staged locked
    have serves := uploadReader_serves hash final.upload final.world.flash
    have header : final.upload.verifiedSchedule.header =
        headerOf (stored final.upload final.world.flash) := by
      rw [verified.schedule]
      rfl
    refine ⟨verified.intact, ?_, header, verified.total,
      provenance_of_locked run locked, ?_⟩
    · intro trace result after execution clean
      have outcome := typxProtocolV1Verify_ensures serves
        (stagingStorage_hashes final.world.flash) final.world rfl _ _ _ execution
      have fits : (stored final.upload final.world.flash).length < 2 ^ 64 := by
        have bound := final.upload.expectedSize.toNat_lt
        rw [stored, slice_length]
        omega
      rw [outcome.2.eq_of_not_faulted clean,
        (verdict_eq_ok_iff fits).mpr ⟨verified.acceptable, rfl⟩,
        verified.schedule]
      rfl
    · intro index more trace result after execution clean
      rw [header] at more
      rw [verified.schedule] at execution
      have outcome := typxProtocolV1ReadRecord_ensures serves
        verified.acceptable more final.world rfl _ _ _ execution
      exact ⟨_, outcome.2.eq_of_not_faulted clean⟩
  · intro event member locked
    rcases staged.step_of_mem (fun _ => True) (fun _ _ _ _ _ => trivial) trivial
      member with ⟨here, next, _, step⟩
    rw [step.taken.1] at locked
    exact (step.taken.locked locked step.admitted).1

theorem upload_executesVerified_letter :
    letterRun.2.upload.verifiedSchedule.header =
      headerOf (stored letterRun.2.upload letterRun.2.world.flash) := by
  have locked : Locked letterRun.2.upload :=
    locked_iff.mpr (.inr (.inr (.inl letterRun_executes)))
  exact ((upload_executesVerified letterRun_run letterRun_atomic).1
    locked).2.2.1

end Runs

end Typxen.WifiUpload
