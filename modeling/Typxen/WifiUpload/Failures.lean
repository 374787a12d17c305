import Typxen.WifiUpload.Locked

/-! # Failed operations

An operation that reports an error leaves the job as it found it. Two failures
end in ERROR instead: the erase of a begin, and a finalize that had started to
verify. -/

namespace Typxen.WifiUpload

open Interaction Protocol NorFlash Transition

/-- Only `last_error` may differ, and the accepted chunks are as they were. -/
structure Undisturbed (upload : Upload) (flash : Contents) (next : Upload)
    (after : Contents) : Prop where
  record : next = setError upload next.lastError
  chunks : ∀ index < 128, upload.chunkLength index ≠ 0 →
    storedChunk next after index = storedChunk upload flash index

structure Abandoned (next : Upload) : Prop where
  status : next.status = .error
  unverified : next.verifiedSchedule = VerifiedSchedule.zero

/-- The erase of a begin, and a finalize that has started to verify. -/
def Exceptional (upload : Upload) : UploadOp → UploadError → Prop
  | .begin _ _ _, error => error = .storageFailure
  | .finalize jobId size digest, _ => Finalizable upload jobId size digest
  | _, _ => False

/-- What an operation that reports `error` has done. -/
structure FailureOutcome (upload : Upload) (flash : Contents) (op : UploadOp)
    (error : UploadError) (next : Upload) (after : Contents) : Prop where
  undisturbed : ¬Exceptional upload op error → Undisturbed upload flash next after
  abandoned : Exceptional upload op error → Abandoned next

section Operations

variable {hash : List UInt8 → Vector UInt8 32} {upload next : Upload}
  {flash : Contents} {op : UploadOp} {error : UploadError}

theorem setError_undisturbed (upload : Upload) (flash : Contents)
    (error : UploadError) : Undisturbed upload flash (setError upload error) flash :=
  ⟨rfl, fun _ _ _ => rfl⟩

theorem undisturbed_refl (upload : Upload) (flash : Contents) :
    Undisturbed upload flash upload flash :=
  setError_undisturbed upload flash upload.lastError

theorem undisturbed_of_refused
    (same : next = upload ∨ next = setError upload error) :
    Undisturbed upload flash next flash := by
  rcases same with same | same
  · rw [same]
    exact undisturbed_refl upload flash
  · rw [same]
    exact setError_undisturbed upload flash error

theorem FailureOutcome.usual {after : Contents}
    (usual : ¬Exceptional upload op error)
    (same : Undisturbed upload flash next after) :
    FailureOutcome upload flash op error next after :=
  ⟨fun _ => same, fun exceptional => absurd exceptional usual⟩

theorem FailureOutcome.exceptional {after : Contents}
    (exceptional : Exceptional upload op error) (abandoned : Abandoned next) :
    FailureOutcome upload flash op error next after :=
  ⟨fun usual => absurd exceptional usual, fun _ => abandoned⟩

theorem typxWifiUploadBegin_failure (upload : Upload) (jobId : Vector UInt8 16)
    (size : UInt32) (digest : Vector UInt8 32) (before : World) :
    Program.Ensures (stagingStorage hash)
      (typxWifiUploadBegin upload jobId size digest) before
      fun _ outcome after => outcome.1 ≠ .ok →
        FailureOutcome upload before.flash (.begin jobId size digest) outcome.1
          outcome.2 after.flash := by
  rw [typxWifiUploadBegin]
  split
  · exact Program.ensures_done.mpr fun _ =>
      .usual (by simp [Exceptional]) (undisturbed_refl _ _)
  split
  · exact Program.ensures_done.mpr fun _ => .usual (by simp [Exceptional])
      (setError_undisturbed upload before.flash .oversized)
  split
  · exact Program.ensures_done.mpr fun _ =>
      .usual (by simp [Exceptional]) (undisturbed_refl _ _)
  simp only [Storage.erase_bind, Program.ensures_ask]
  intro answer after _
  cases answer with
  | true => exact Program.ensures_done.mpr fun failed => absurd rfl failed
  | false =>
      exact Program.ensures_done.mpr fun _ => .exceptional rfl ⟨rfl, rfl⟩

theorem typxWifiUploadFinalize_unverified {σ : Type}
    {environment : Environment callbacks σ} (upload : Upload)
    (jobId : Vector UInt8 16) (size : UInt32) (digest : Vector UInt8 32)
    (before : σ) :
    Program.Ensures environment
      (typxWifiUploadFinalize upload jobId size digest) before
      fun _ outcome _ => outcome.1 ≠ .ok →
        outcome.2.verifiedSchedule = upload.verifiedSchedule ∨
          outcome.2.verifiedSchedule = VerifiedSchedule.zero := by
  rw [typxWifiUploadFinalize]
  split
  · exact Program.ensures_done.mpr fun _ => .inl rfl
  split
  · exact Program.ensures_done.mpr fun _ => .inl rfl
  split
  · exact Program.ensures_done.mpr fun _ => .inl rfl
  split
  · exact Program.ensures_done.mpr fun _ => .inl rfl
  split
  · exact Program.ensures_done.mpr fun _ => .inl rfl
  refine Program.ensures_true.bind ?_
  intro _ hashed _ _
  split
  · exact Program.ensures_done.mpr fun _ => .inl rfl
  refine Program.ensures_true.bind ?_
  intro _ verified _ _
  cases verified with
  | error error => exact Program.ensures_done.mpr fun _ => .inr rfl
  | ok schedule => exact Program.ensures_done.mpr fun failed => absurd rfl failed

theorem typxWifiUploadFinalize_failure
    (blank : Receiving upload → upload.verifiedSchedule = VerifiedSchedule.zero)
    (jobId : Vector UInt8 16) (size : UInt32) (digest : Vector UInt8 32)
    (before : World) :
    Program.Ensures (stagingStorage hash)
      (typxWifiUploadFinalize upload jobId size digest) before
      fun _ outcome after => outcome.1 ≠ .ok →
        FailureOutcome upload before.flash (.finalize jobId size digest)
          outcome.1 outcome.2 after.flash := by
  refine ((typxWifiUploadFinalize_ensures upload jobId size digest before).and
    (typxWifiUploadFinalize_unverified upload jobId size digest before)).mono ?_
  intro trace outcome after holds failed
  rcases outcome with ⟨error, next⟩
  rcases holds with ⟨⟨flash, outcome⟩, unverified⟩
  rw [flash]
  change FinalizeOutcome hash upload jobId size digest before.flash trace error
    next at outcome
  cases outcome with
  | refused unready _ same =>
      exact .usual unready (undisturbed_of_refused same)
  | promoted _ _ _ => exact absurd rfl failed
  | rejected finalizable _ _ status _ =>
      refine .exceptional finalizable ⟨status, ?_⟩
      rcases unverified failed with same | zero
      · exact same.trans (blank finalizable.status)
      · exact zero

theorem SessionOutcome.failure {request : ChunkRequest}
    {fragments : List (List UInt8)} {dropped : Bool} {after : Contents}
    (assembled : Assembled upload flash)
    (outcome : SessionOutcome upload request fragments.flatten flash error next
      after) (failed : error ≠ .ok) :
    FailureOutcome upload flash (.session request fragments dropped) error next
      after := by
  have chunks : ∀ index < 128, upload.chunkLength index ≠ 0 →
      storedChunk next after index = storedChunk upload flash index :=
    fun _ bound listed => (outcome.kept assembled bound listed).stored
  cases outcome with
  | refused _ same _ =>
      refine .usual (fun exceptional => exceptional) ⟨?_, chunks⟩
      rcases same with same | same
      · rw [same]
        rfl
      · rw [same]
        rfl
  | repeated _ _ _ _ => exact absurd rfl failed
  | accepted _ _ _ _ => exact absurd rfl failed

theorem perform_failure (assembled : Assembled upload flash)
    (blank : Receiving upload → upload.verifiedSchedule = VerifiedSchedule.zero)
    (op : UploadOp) (atomic : op.Atomic) (before : World)
    (here : before.flash = flash) :
    Program.Ensures (stagingStorage hash) (perform upload op) before
      fun _ outcome after => outcome.1 ≠ .ok →
        FailureOutcome upload flash op outcome.1 outcome.2 after.flash := by
  subst here
  have callless (pure : op.Callless)
      (usual : ∀ error, ¬Exceptional upload op error) :
      Program.Ensures (stagingStorage hash) (perform upload op) before
        fun _ outcome after => outcome.1 ≠ .ok →
          FailureOutcome upload before.flash op outcome.1 outcome.2
            after.flash := by
    rcases perform_callless upload pure with ⟨outcome, answered, callless⟩
    rw [answered]
    refine Program.ensures_done.mpr ?_
    intro failed
    cases callless with
    | refused _ => exact .usual (usual _) (undisturbed_refl _ _)
    | kept _ _ => exact absurd rfl failed
    | cancelled => exact absurd rfl failed
  cases op with
  | begin jobId size digest =>
      exact typxWifiUploadBegin_failure upload jobId size digest before
  | chunkBegin _ _ => exact atomic.elim
  | chunkWrite _ _ => exact atomic.elim
  | chunkFinish _ => exact atomic.elim
  | session request fragments dropped =>
      refine (chunkSession_ensures upload request fragments dropped before).mono ?_
      intro _ outcome after holds failed
      exact holds.2.failure assembled failed
  | finalize jobId size digest =>
      exact typxWifiUploadFinalize_failure blank jobId size digest before
  | _ => exact callless trivial fun _ exceptional => exceptional

theorem Moves.unverified (moves : Moves upload op error next)
    (blank : Receiving upload → upload.verifiedSchedule = VerifiedSchedule.zero)
    (receiving : Receiving next) :
    next.verifiedSchedule = VerifiedSchedule.zero := by
  cases moves with
  | kept _ same =>
      exact same.verifiedSchedule.trans
        (blank (same.status.symm.trans receiving))
  | begun _ _ => rfl
  | rejected _ _ status => cases status.symm.trans receiving
  | @completed executorError =>
      rcases typxWifiUploadComplete_status upload executorError with
        status | status | status <;> cases status.symm.trans receiving
  | _ => cases receiving

end Operations

/-! ## Runs -/

section Runs

variable {hash : List UInt8 → Vector UInt8 32} {world : World}
  {final : System World} {events : List UploadEvent}

theorem unverified_of_receiving {σ : Type} {environment : Environment callbacks σ}
    {world : σ} {events : List UploadEvent} {final : System σ}
    (run : UploadRun environment (initial world) events final)
    (receiving : Receiving final.upload) :
    final.upload.verifiedSchedule = VerifiedSchedule.zero := by
  refine run.invariant (fun system => Receiving system.upload →
      system.upload.verifiedSchedule = VerifiedSchedule.zero) (fun _ => True) ?_
    (fun _ _ => trivial) (fun _ => rfl) receiving
  intro here event next _ blank step
  exact step.moves.unverified blank

/-- An operation that reports an error disturbs nothing, but for the two that
end in ERROR; and a locked job refuses everything that could touch the
storage. -/
theorem upload_failuresKeep
    (run : UploadRun (stagingStorage hash) (initial world) events final)
    (atomic : ∀ event ∈ events, event.op.Atomic) :
    (∀ op : UploadOp, op.Atomic → ∀ trace error next after,
      Program.Exec (stagingStorage hash) (perform final.upload op) final.world
        trace (error, next) after → error ≠ .ok →
      FailureOutcome final.upload final.world.flash op error next after.flash) ∧
    (final.upload.status = .ready ∨ final.upload.status = .countdown ∨
        final.upload.status = .executing ∨ final.upload.status = .stopping →
      ∀ op : UploadOp, op.Atomic → ¬op.Callless → ∀ trace error next after,
        Program.Exec (stagingStorage hash) (perform final.upload op) final.world
          trace (error, next) after → error ≠ .ok ∧ trace = []) := by
  have assembled := (assembled_run run atomic).still assembled_initial
  constructor
  · intro op whole trace error next after execution
    exact perform_failure assembled (unverified_of_receiving run) op whole
      final.world rfl _ _ _ execution
  · intro status op whole calling trace error next after execution
    rcases perform_locked (locked_iff.mpr status) whole with
      ⟨outcome, answered, refused⟩
    rw [answered] at execution
    rcases Program.exec_done_iff.mp execution with ⟨quiet, rfl, _⟩
    exact ⟨refused.resolve_left calling, quiet⟩

theorem upload_failuresKeep_letter : ∃ trace error next after,
    Program.Exec (stagingStorage fun _ => letterDigest)
        (perform letterRun.2.upload (.begin letterJob 224 letterDigest))
        letterRun.2.world trace (error, next) after ∧
      error ≠ .ok ∧ trace = [] := by
  have execution := (reliableAnswer_exec (fun _ => letterDigest)
    (perform letterRun.2.upload (.begin letterJob 224 letterDigest))
    letterRun.2.world).1
  generalize Program.run _ _ _ = outcome at execution
  rcases outcome with ⟨trace, ⟨error, next⟩, after⟩
  exact ⟨trace, error, next, after, execution,
    (upload_failuresKeep letterRun_run letterRun_atomic).2
      (.inr (.inr (.inl letterRun_executes)))
      (.begin letterJob 224 letterDigest) trivial (fun calls => calls) _ _ _ _
      execution⟩

end Runs

end Typxen.WifiUpload
