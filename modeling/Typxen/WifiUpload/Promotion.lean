import Typxen.WifiUpload.Bookkeeping

/-! # Promoting an upload

Finalizing promotes exactly the good jobs, and a job whose chunks have all
been sent correctly is promoted whatever else was sent in between. -/

namespace Typxen.WifiUpload

open Interaction Protocol NorFlash Transition

section Finalizing

variable {hash : List UInt8 → Vector UInt8 32} {upload next : Upload}
  {flash : Contents}

/-- The two ways the code counts the chunks agree. -/
theorem Assembled.complete_iff (assembled : Assembled upload flash) :
    Complete upload ↔ upload.receivedBytes = upload.expectedSize ∧
      ∀ index < (chunkCount upload).toNat, upload.chunkLength index ≠ 0 := by
  have counted : ∀ index, index < (chunkCount upload).toNat ↔
      chunkStart index < upload.expectedSize.toNat := by
    intro index
    rw [chunkCount_toNat assembled.size, chunkStart]
    omega
  simp only [counted, assembled.toBookkept.received_eq_iff]
  constructor
  · intro complete
    exact ⟨complete, complete⟩
  · intro all
    exact all.2

structure Promotable (upload : Upload) (jobId : Vector UInt8 16)
    (encodedSize : UInt32) (encodedSha256 : Vector UInt8 32) : Prop where
  receiving : Receiving upload
  jobId : upload.jobId = jobId
  size : upload.expectedSize = encodedSize
  digest : upload.expectedSha256 = encodedSha256
  complete : Complete upload

theorem Assembled.finalizable_iff (assembled : Assembled upload flash)
    {jobId : Vector UInt8 16} {encodedSize : UInt32}
    {encodedSha256 : Vector UInt8 32} :
    Finalizable upload jobId encodedSize encodedSha256 ↔
      Promotable upload jobId encodedSize encodedSha256 := by
  have counted := assembled.complete_iff
  constructor
  · intro finalizable
    exact ⟨finalizable.status, finalizable.jobId, finalizable.size,
      finalizable.digest,
      counted.mpr ⟨finalizable.received, finalizable.chunks⟩⟩
  · intro promotable
    have complete := counted.mp promotable.complete
    exact ⟨promotable.receiving, promotable.jobId, promotable.size,
      promotable.digest, complete.1, complete.2⟩

theorem FinalizeOutcome.ok_iff {jobId : Vector UInt8 16} {encodedSize : UInt32}
    {encodedSha256 : Vector UInt8 32} {trace : Trace} {error : UploadError}
    (outcome : FinalizeOutcome hash upload jobId encodedSize encodedSha256
      flash trace error next) :
    error = .ok ↔ Finalizable upload jobId encodedSize encodedSha256 ∧
      ¬Faulted Failed trace ∧ Genuine hash upload flash := by
  cases outcome with
  | refused bad failed _ => simp [bad, failed]
  | promoted finalizable genuine clean => simp [finalizable, genuine, clean]
  | rejected _ bad failed _ _ =>
      simp only [failed, false_iff]
      intro good
      exact bad.elim (fun changed => changed good.2.2) good.2.1

end Finalizing

/-! ## Good jobs -/

section GoodJobs

variable {hash : List UInt8 → Vector UInt8 32} {world : World}
  {before after final : System World} {events : List UploadEvent}
  {event : UploadEvent}

/-- A valid schedule, an id and a digest that can name a job. -/
structure GoodJob (hash : List UInt8 → Vector UInt8 32) (bytes : List UInt8)
    (jobId : Vector UInt8 16) : Prop where
  acceptable : AcceptableV1 typxProtocolV1Esp32CamLimits hash bytes
  size : bytes.length ≤ 524288
  jobId : allZero jobId = false
  digest : allZero (hash bytes) = false

theorem Assembled.finalize {upload : Upload} {flash : Contents}
    (assembled : Assembled upload flash) {jobId : Vector UInt8 16}
    {encodedSize : UInt32} {encodedSha256 : Vector UInt8 32} {trace : Trace}
    {error : UploadError} {next : Upload}
    (outcome : FinalizeOutcome hash upload jobId encodedSize encodedSha256
      flash trace error next) :
    (error = .ok ↔ Promotable upload jobId encodedSize encodedSha256 ∧
        ¬Faulted Failed trace ∧ Genuine hash upload flash) ∧
      (error = .ok → next = promoted upload (verifiedUpload upload flash)) ∧
      (error ≠ .ok →
        next.status = upload.status ∧
            ¬Promotable upload jobId encodedSize encodedSha256 ∨
          next.status = .error ∧
            Promotable upload jobId encodedSize encodedSha256 ∧
            (Faulted Failed trace ∨ ¬Genuine hash upload flash)) := by
  rw [← assembled.finalizable_iff]
  refine ⟨outcome.ok_iff, ?_, ?_⟩
  · intro ok
    cases outcome with
    | refused _ failed _ => exact absurd ok failed
    | promoted _ _ _ => rfl
    | rejected _ _ failed _ _ => exact absurd ok failed
  · intro failed
    cases outcome with
    | refused bad _ same =>
        refine .inl ⟨?_, bad⟩
        rcases same with same | same
        · rw [same]
        · rw [same, setError]
    | promoted _ _ _ => exact absurd rfl failed
    | rejected finalizable bad _ status _ =>
        exact .inr ⟨status, finalizable, bad.symm⟩

/-- A good job that was begun and sent is genuine on flash. -/
theorem sent_promotable {bytes : List UInt8} {jobId : Vector UInt8 16}
    (good : GoodJob hash bytes jobId)
    (unlocked : typxWifiUploadJobLocked event.before = false)
    (op : event.op =
      .begin jobId (UInt32.ofNat bytes.length) (hash bytes))
    (clean : ¬Faulted Failed event.trace)
    (began : StagingStep hash before event after)
    (sessions : ∀ event ∈ events, event.IsSession)
    (run : Run (StagingStep hash) after events final)
    (delivered : ∀ index, chunkStart index < bytes.length →
      ∃ event ∈ events, event.Delivers bytes index) :
    Promotable final.upload jobId (UInt32.ofNat bytes.length) (hash bytes) ∧
      stored final.upload final.world.flash = bytes ∧
      Genuine hash final.upload final.world.flash := by
  have small := good.size
  have length : (UInt32.ofNat bytes.length).toNat = bytes.length := by
    rw [UInt32.toNat_ofNat']
    omega
  have beginnable : Beginnable jobId (UInt32.ofNat bytes.length) (hash bytes) := {
    jobId := good.jobId
    digest := good.digest
    positive := by
      have whole := good.acceptable.length
      rw [length]
      omega
    size := by rw [length]; exact small }
  have execution := began.taken.2.2
  rw [began.taken.1] at unlocked
  rw [op] at execution
  have outcome :=
    (typxWifiUploadBegin_outcome beginnable unlocked _ _ _ execution).resolve_right
      fun failed => clean failed.1
  have fresh : after.upload =
      begun jobId (UInt32.ofNat bytes.length) (hash bytes) :=
    congrArg Prod.snd outcome.2
  have same := sessions_sameJob run sessions
  rw [fresh] at same
  have size : final.upload.expectedSize.toNat = bytes.length := by
    rw [same.expectedSize]
    exact length
  have assembled := run.still began.still
  rcases delivered_stored run assembled size small sessions delivered with
    ⟨complete, contents⟩
  refine ⟨⟨same.status, same.jobId, same.expectedSize, same.expectedSha256,
    complete⟩, contents, ?_, ?_⟩
  · rw [Intact, contents, same.expectedSha256]
    rfl
  · rw [contents]
    exact good.acceptable

theorem history_atomic {prior sessions : List UploadEvent} {begins : UploadEvent}
    {jobId : Vector UInt8 16} {size : UInt32} {digest : Vector UInt8 32}
    (atomic : ∀ event ∈ prior, event.op.Atomic)
    (op : begins.op = .begin jobId size digest)
    (isSession : ∀ event ∈ sessions, event.IsSession) :
    ∀ event ∈ prior ++ begins :: sessions, event.op.Atomic := by
  intro event member
  rcases List.mem_append.mp member with earlier | later
  · exact atomic event earlier
  rcases List.mem_cons.mp later with same | sent
  · rw [same, op]
    trivial
  · rcases isSession event sent with ⟨request, fragments, dropped, op⟩
    rw [op]
    trivial

/-- Finalizing promotes exactly the good jobs, and every good job can be
promoted: once each of its chunks was delivered, whatever else was sent. -/
theorem upload_promotesGoodJobs (hash : List UInt8 → Vector UInt8 32)
    (world : World) :
    (∀ events system, UploadRun (stagingStorage hash) (initial world) events
        system → (∀ event ∈ events, event.op.Atomic) →
      (Receiving system.upload → Nonempty (Beginning events system.upload)) ∧
      ∀ jobId encodedSize encodedSha256 trace error next after,
        Program.Exec (stagingStorage hash)
          (typxWifiUploadFinalize system.upload jobId encodedSize encodedSha256)
          system.world trace (error, next) after →
        (error = .ok ↔
          Promotable system.upload jobId encodedSize encodedSha256 ∧
            ¬Faulted Failed trace ∧
            Genuine hash system.upload system.world.flash) ∧
        (error = .ok → next =
          promoted system.upload
            (verifiedUpload system.upload system.world.flash)) ∧
        (error ≠ .ok →
          next.status = system.upload.status ∧
              ¬Promotable system.upload jobId encodedSize encodedSha256 ∨
            next.status = .error ∧
              Promotable system.upload jobId encodedSize encodedSha256 ∧
              (Faulted Failed trace ∨
                ¬Genuine hash system.upload system.world.flash))) ∧
    ∀ prior begins sessions final bytes jobId, GoodJob hash bytes jobId →
      UploadRun (stagingStorage hash) (initial world)
        (prior ++ begins :: sessions) final →
      (∀ event ∈ prior, event.op.Atomic) →
      typxWifiUploadJobLocked begins.before = false →
      begins.op = .begin jobId (UInt32.ofNat bytes.length) (hash bytes) →
      ¬Faulted Failed begins.trace →
      (∀ event ∈ sessions, event.IsSession) →
      (∀ index, chunkStart index < bytes.length →
        ∃ event ∈ sessions, event.Delivers bytes index) →
      (∀ trace error next after,
        Program.Exec (stagingStorage hash)
          (typxWifiUploadFinalize final.upload jobId
            (UInt32.ofNat bytes.length) (hash bytes))
          final.world trace (error, next) after →
        ¬Faulted Failed trace →
        error = .ok ∧ next.status = .ready ∧
          next.verifiedSchedule.header = headerOf bytes) ∧
      ∃ trace next after,
        Program.Exec (stagingStorage hash)
          (typxWifiUploadFinalize final.upload jobId
            (UInt32.ofNat bytes.length) (hash bytes))
          final.world trace (.ok, next) after := by
  constructor
  · intro events system run atomic
    refine ⟨beginning_of_receiving run (by simp [Receiving, initial,
      typxWifiUploadInit]), ?_⟩
    intro jobId size digest trace error next after execution
    have assembled := (assembled_run run atomic).still assembled_initial
    exact assembled.finalize
      (typxWifiUploadFinalize_ensures _ _ _ _ _ _ _ _ execution).2
  · intro prior begins sessions final bytes jobId good run atomic unlocked op
      clean isSession delivered
    have all := history_atomic atomic op isSession
    have staged := assembled_run run all
    have assembled := staged.still assembled_initial
    rcases run_middle_iff.mp staged with ⟨here, began, _, step, rest⟩
    rcases sent_promotable good unlocked op clean step isSession rest delivered
      with ⟨promotable, contents, genuine⟩
    have promotes : ∀ trace error next after,
        Program.Exec (stagingStorage hash)
          (typxWifiUploadFinalize final.upload jobId
            (UInt32.ofNat bytes.length) (hash bytes))
          final.world trace (error, next) after → ¬Faulted Failed trace →
        error = .ok ∧ next =
          promoted final.upload
            (verifiedUpload final.upload final.world.flash) := by
      intro trace error next after execution unfaulted
      have outcome := assembled.finalize
        (typxWifiUploadFinalize_ensures _ _ _ _ _ _ _ _ execution).2
      have ok := outcome.1.mpr ⟨promotable, unfaulted, genuine⟩
      exact ⟨ok, outcome.2.1 ok⟩
    constructor
    · intro trace error next after execution unfaulted
      rcases promotes trace error next after execution unfaulted with ⟨ok, same⟩
      refine ⟨ok, ?_, ?_⟩
      · rw [same]
        rfl
      · rw [same, ← contents]
        rfl
    · rcases reliableAnswer_exec hash
        (typxWifiUploadFinalize final.upload jobId (UInt32.ofNat bytes.length)
          (hash bytes)) final.world with ⟨execution, unfaulted⟩
      generalize Program.run _ _ _ = outcome at execution unfaulted
      rcases outcome with ⟨trace, ⟨error, next⟩, after⟩
      have ok := (promotes trace error next after execution unfaulted).1
      rw [ok] at execution
      exact ⟨trace, next, after, execution⟩

end GoodJobs

theorem page_good :
    GoodJob (fun _ => letterDigest) pageSchedule letterJob where
  acceptable := pageSchedule_accepted
  size := by rw [pageSchedule_length]; decide
  jobId := by decide +kernel
  digest := by decide +kernel

theorem upload_promotesGoodJobs_page :
    ∃ trace next after, Program.Exec (stagingStorage fun _ => letterDigest)
      (typxWifiUploadFinalize pageSent.2.upload letterJob
        (UInt32.ofNat pageSchedule.length) letterDigest)
      pageSent.2.world trace (.ok, next) after := by
  rcases pageSent_accepts with
    ⟨begins, sessions, split, op, initial, clean, isSession, _, accepts⟩
  have run := pageSent_run
  rw [split] at run
  have unlocked : typxWifiUploadJobLocked begins.before = false := by
    rw [initial]
    rfl
  have begun : begins.op = .begin letterJob (UInt32.ofNat pageSchedule.length)
      letterDigest := by
    rw [op, pageSchedule_length]
    rfl
  have delivers : ∀ index, chunkStart index < pageSchedule.length →
      ∃ event ∈ sessions, event.Delivers pageSchedule index := by
    intro index inside
    rcases accepts index inside with ⟨event, member, sends, accepted⟩
    rw [pageSchedule_length, chunkStart] at inside
    exact ⟨event, member, sends.delivers (by omega) accepted⟩
  exact ((upload_promotesGoodJobs (fun _ => letterDigest) blankWorld).2 []
    begins sessions pageSent.2 pageSchedule letterJob page_good run
    (List.forall_mem_nil _) unlocked begun clean isSession delivers).2

end Typxen.WifiUpload
