import Typxen.WifiUpload.History
import Typxen.WifiUpload.Promotion

/-! # At most one execution for each upload

How a job reaches COUNTDOWN and EXECUTING, read off the history of operations.
Nothing is assumed of the storage, and the chunk operations may be called with
any session. -/

namespace Typxen.WifiUpload

open Interaction Protocol Transition

section Histories

variable {σ : Type} {environment : Environment callbacks σ}
  {before after : System σ} {events : List UploadEvent}

/-- A promoted job that is ready again after a start was rolled back. -/
theorem rolledBack_of_ready
    (run : Run (Within (fun system => Promoted system.upload)
      (UploadStep environment)) before events after)
    (outside : before.upload.status ≠ .ready)
    (inside : after.upload.status = .ready) :
    ∃ event ∈ events, event.RollsBack := by
  rcases run.last_entry (fun system => system.upload.status = .ready) outside
    inside with ⟨entry⟩
  rcases entry.taken with ⟨promoted, taken, _⟩
  exact ⟨entry.label, entry.mem,
    taken.moves.returns_ready promoted entry.outside entry.inside⟩

theorem UploadStep.starts {event : UploadEvent} {jobId : Vector UInt8 16}
    {hidReadiness : HidReadiness}
    (step : UploadStep environment before event after)
    (starts : event.Starts jobId hidReadiness) :
    hidReadiness = .ready ∧ before.upload.jobId = jobId ∧
      before.upload.status = .ready ∧ after.upload.status = .countdown := by
  rcases starts with ⟨op, result⟩
  have moves := step.moves
  rw [op, result] at moves
  generalize after.upload = next at moves ⊢
  cases moves with
  | kept advances _ => exact absurd rfl (advances rfl)
  | prepared ready => exact ⟨rfl, rfl, ready, rfl⟩

/-- An upload is executed at most once: whatever the operations, their
arguments and the storage do, a job is executed only after it was begun and
finalized anew, and is started only while the latest promotion stands. -/
theorem upload_executedAtMostOnce {world : σ} {final : System σ}
    (run : UploadRun environment (initial world) events final) :
    (∀ (first middle last : List UploadEvent) (entry reentry : UploadEvent),
      events = first ++ entry :: (middle ++ reentry :: last) →
      entry.EntersExecuting → reentry.EntersExecuting →
      ∃ (start received rest : List UploadEvent)
        (begins finalizes : UploadEvent),
        middle = start ++ begins :: (received ++ finalizes :: rest) ∧
          begins.Begins ∧ finalizes.Finalizes) ∧
    (∀ (first last : List UploadEvent) (start : UploadEvent)
      (jobId : Vector UInt8 16) (hidReadiness : HidReadiness),
      events = first ++ start :: last → start.Starts jobId hidReadiness →
      hidReadiness = .ready ∧
        ∃ (received since : List UploadEvent) (finalizes : UploadEvent),
          first = received ++ finalizes :: since ∧
            finalizes.FinalizesJob jobId ∧ (∀ event ∈ since, ¬event.Ends) ∧
            ∀ (before after : List UploadEvent) (earlier : UploadEvent)
              (jobId : Vector UInt8 16) (hidReadiness : HidReadiness),
              since = before ++ earlier :: after →
              earlier.Starts jobId hidReadiness →
              ∃ event ∈ after, event.RollsBack) ∧
    (final.upload.status = .countdown ∨ final.upload.status = .executing →
      ∃ (start received since : List UploadEvent)
        (begins finalizes : UploadEvent),
        events = start ++ begins :: (received ++ finalizes :: since) ∧
          begins.Begins ∧ finalizes.Finalizes ∧
          (∀ event ∈ received, ¬event.Interrupts) ∧
          ∀ event ∈ since, ¬event.Interrupts) := by
  have unpromoted : ¬Promoted (initial world).upload := by
    simp [initial, typxWifiUploadInit, Promoted, Startable]
  refine ⟨?_, ?_, ?_⟩
  · intro first middle last entry reentry split enters reenters
    rw [split] at run
    rcases run_middle_iff.mp run with ⟨_, executing, _, entered, rest⟩
    rcases run_middle_iff.mp rest with ⟨waiting, _, between, reentered, _⟩
    have running : executing.upload.status = .executing :=
      entered.2.1 ▸ enters.2
    have countdown : waiting.upload.status = .countdown := by
      apply reentered.moves.enters_executing
      · exact reentered.1 ▸ reenters.1
      · exact reentered.2.1 ▸ reenters.2
    rcases between.last_entry (fun system => Startable system.upload)
      (by simp [Startable, running]) (.inr countdown) with ⟨promotion⟩
    rcases promotion.taken.moves.enters_startable promotion.outside
      promotion.inside with ⟨receiving, result, _, op⟩
    rcases beginning_of_receiving promotion.start
      (by simp [Receiving, running]) receiving with ⟨beginning⟩
    exact ⟨beginning.first, beginning.second, promotion.second, beginning.event,
      promotion.label, promotion.split.trans (by simp [beginning.split]),
      beginning.begins, _, _, _, op, result⟩
  · intro first last start jobId hidReadiness split starts
    rw [split] at run
    rcases run_middle_iff.mp run with ⟨here, _, received, taken, _⟩
    rcases taken.starts starts with ⟨hid, job, ready, _⟩
    rcases promotion_of_promoted received unpromoted (.inl (.inl ready)) with
      ⟨promotion⟩
    refine ⟨hid, promotion.first, promotion.second, promotion.event,
      promotion.split, job ▸ promotion.finalizes, promotion.lasting, ?_⟩
    intro before after earlier otherJob otherReadiness splitSecond starts
    have rest := promotion.rest
    rw [splitSecond] at rest
    rcases run_middle_iff.mp rest with ⟨_, counting, _, started, later⟩
    have countdown := (started.2.1.starts starts).2.2.2
    exact rolledBack_of_ready later (by simp [countdown]) ready
  · intro running
    rcases promotion_of_promoted run unpromoted
      (running.imp (fun countdown => .inr countdown) id) with ⟨promotion⟩
    rcases beginning_of_receiving promotion.start
      (by simp [Receiving, initial, typxWifiUploadInit]) promotion.receiving
      with ⟨beginning⟩
    refine ⟨beginning.first, beginning.second, promotion.second,
      beginning.event, promotion.event,
      promotion.split.trans (by simp [beginning.split]), beginning.begins,
      ⟨_, promotion.finalizes⟩, beginning.uninterrupted, ?_⟩
    intro event member interrupts
    apply promotion.lasting event member
    exact ⟨by rw [interrupts.1]; rfl, interrupts.2⟩

end Histories

theorem upload_executedAtMostOnce_letter :
    ∃ (start received since : List UploadEvent)
      (begins finalizes : UploadEvent),
      letterRun.1 = start ++ begins :: (received ++ finalizes :: since) ∧
        begins.Begins ∧ finalizes.Finalizes := by
  rcases (upload_executedAtMostOnce letterRun_run).2.2
    (.inr letterRun_executes) with
    ⟨start, received, since, begins, finalizes, split, isBegin, isFinalize, _⟩
  exact ⟨start, received, since, begins, finalizes, split, isBegin, isFinalize⟩

end Typxen.WifiUpload
