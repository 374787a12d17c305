import Typxen.WifiUpload.Finalize

/-! # Chunk assembly

Whatever the order of the chunk sessions, every chunk that the tables list is
on flash. `Assembled` is the invariant; a session can only disturb the sector
of a chunk that is not yet listed. -/

namespace Typxen.WifiUpload

open Interaction Protocol NorFlash Transition

/-! ## What a step does to the tables and the storage -/

inductive Effects (upload : Upload) (flash : Contents) :
    UploadOp → UploadError → Upload → Contents → Prop
  | untouched {op : UploadOp} {error : UploadError} {next : Upload} :
      SameTables upload next → Effects upload flash op error next flash
  | cleared {op : UploadOp} {error : UploadError} {next : Upload}
      {after : Contents} :
      next.chunkLengths = Vector.replicate 128 0 → next.receivedBytes = 0 →
      next.expectedSize.toNat ≤ storageBytes →
      typxWifiUploadJobLocked upload = false ∨ after = flash →
      Effects upload flash op error next after
  | session {request : ChunkRequest} {fragments : List (List UInt8)}
      {dropped : Bool} {error : UploadError} {next : Upload} {after : Contents} :
      SessionOutcome upload request fragments.flatten flash error next after →
      Effects upload flash (.session request fragments dropped) error next after

section Steps

variable {hash : List UInt8 → Vector UInt8 32} {upload next : Upload}

theorem setError_sameTables (upload : Upload) (error : UploadError) :
    SameTables upload (setError upload error) :=
  ⟨rfl, rfl, rfl, rfl⟩

theorem sameTables_of_refused {error : UploadError}
    (same : next = upload ∨ next = setError upload error) :
    SameTables upload next := by
  rcases same with same | same
  · exact same ▸ .refl
  · exact same ▸ setError_sameTables upload error

theorem FinalizeOutcome.sameTables {jobId : Vector UInt8 16}
    {encodedSize : UInt32} {encodedSha256 : Vector UInt8 32} {flash : Contents}
    {trace : Trace} {error : UploadError}
    (outcome : FinalizeOutcome hash upload jobId encodedSize encodedSha256
      flash trace error next) : SameTables upload next := by
  cases outcome with
  | refused _ _ same => exact sameTables_of_refused same
  | promoted _ _ _ => exact ⟨rfl, rfl, rfl, rfl⟩
  | rejected _ _ _ _ same => exact same

theorem typxWifiUploadBegin_effects (upload : Upload) (jobId : Vector UInt8 16)
    (size : UInt32) (digest : Vector UInt8 32) (before : World) :
    Program.Ensures (stagingStorage hash)
      (typxWifiUploadBegin upload jobId size digest) before
      fun _ outcome after => Effects upload before.flash
        (.begin jobId size digest) outcome.1 outcome.2 after.flash := by
  rw [typxWifiUploadBegin]
  split
  case isTrue => exact Program.ensures_done.mpr (.untouched .refl)
  split
  case isTrue =>
    exact Program.ensures_done.mpr (.untouched (setError_sameTables _ _))
  rename_i sized
  split
  case isTrue => exact Program.ensures_done.mpr (.untouched .refl)
  rename_i unlocked
  simp only [Bool.or_eq_true, beq_iff_eq, decide_eq_true_eq, not_or, gt_iff_lt,
    UInt32.not_lt, UInt32.le_iff_toNat_le] at sized
  simp only [Storage.erase_bind, Program.ensures_ask]
  intro answer after step
  cases answer with
  | true =>
      exact Program.ensures_done.mpr
        (.cleared rfl rfl sized.2 (.inl (by simpa using unlocked)))
  | false =>
      exact Program.ensures_done.mpr
        (.cleared rfl rfl sized.2 (.inl (by simpa using unlocked)))

def UploadOp.Callless : UploadOp → Prop
  | .begin _ _ _ => False
  | .chunkBegin _ _ => False
  | .chunkWrite _ _ => False
  | .chunkFinish _ => False
  | .session _ _ _ => False
  | .finalize _ _ _ => False
  | _ => True

inductive CalllessOutcome (upload : Upload) : UploadError × Upload → Prop
  | refused {error : UploadError} : error ≠ .ok →
      CalllessOutcome upload (error, upload)
  | kept {next : Upload} : SameTables upload next → next.jobId = upload.jobId →
      CalllessOutcome upload (.ok, next)
  | cancelled : CalllessOutcome upload (.ok, { Upload.zero with status := .idle })

theorem perform_callless (upload : Upload) {op : UploadOp}
    (callless : op.Callless) :
    ∃ outcome, perform upload op = .done outcome ∧
      CalllessOutcome upload outcome := by
  cases op with
  | begin _ _ _ => exact callless.elim
  | chunkBegin _ _ => exact callless.elim
  | chunkWrite _ _ => exact callless.elim
  | chunkFinish _ => exact callless.elim
  | session _ _ _ => exact callless.elim
  | finalize _ _ _ => exact callless.elim
  | prepareStart jobId hidReadiness =>
      rw [perform, typxWifiUploadPrepareStart]
      split_ifs
      · exact ⟨_, rfl, .refused (by simp)⟩
      · exact ⟨_, rfl, .refused (by simp)⟩
      · exact ⟨_, rfl, .refused (by simp)⟩
      · exact ⟨_, rfl, .refused (by simp)⟩
      · exact ⟨_, rfl, .refused (by simp)⟩
      · exact ⟨_, rfl, .refused (by simp)⟩
      · exact ⟨_, rfl, .kept ⟨rfl, rfl, rfl, rfl⟩ rfl⟩
  | startFailed =>
      refine ⟨_, rfl, ?_⟩
      rw [typxWifiUploadStartFailed]
      split
      · exact .refused (by simp)
      · exact .kept ⟨rfl, rfl, rfl, rfl⟩ rfl
  | markExecuting =>
      refine ⟨_, rfl, ?_⟩
      rw [typxWifiUploadMarkExecuting]
      split
      · exact .refused (by simp)
      · exact .kept ⟨rfl, rfl, rfl, rfl⟩ rfl
  | requestStop =>
      refine ⟨_, rfl, ?_⟩
      rw [typxWifiUploadRequestStop]
      split_ifs
      · exact .kept .refl rfl
      · exact .refused (by simp)
      · exact .kept ⟨rfl, rfl, rfl, rfl⟩ rfl
  | recordProgress sourceIndex completedRecords totalRecords =>
      refine ⟨_, rfl, ?_⟩
      rw [typxWifiUploadRecordProgress]
      split
      · exact .kept .refl rfl
      · exact .kept ⟨rfl, rfl, rfl, rfl⟩ rfl
  | cancel jobId =>
      refine ⟨_, rfl, ?_⟩
      rw [typxWifiUploadCancel]
      split_ifs
      · exact .refused (by simp)
      · exact .refused (by simp)
      · exact .cancelled
  | complete executorError => exact ⟨_, rfl, .kept ⟨rfl, rfl, rfl, rfl⟩ rfl⟩
  | markInterruptedReset => exact ⟨_, rfl, .kept ⟨rfl, rfl, rfl, rfl⟩ rfl⟩

theorem CalllessOutcome.effects {op : UploadOp} {flash : Contents}
    {outcome : UploadError × Upload} (callless : CalllessOutcome upload outcome) :
    Effects upload flash op outcome.1 outcome.2 flash := by
  cases callless with
  | refused _ => exact .untouched .refl
  | kept same _ => exact .untouched same
  | cancelled => exact .cleared rfl rfl (Nat.zero_le _) (.inr rfl)

theorem perform_effects (upload : Upload) (op : UploadOp) (atomic : op.Atomic)
    (before : World) :
    Program.Ensures (stagingStorage hash) (perform upload op) before
      fun _ outcome after =>
        Effects upload before.flash op outcome.1 outcome.2 after.flash := by
  have callless (pure : op.Callless) :
      Program.Ensures (stagingStorage hash) (perform upload op) before
        fun _ outcome after =>
          Effects upload before.flash op outcome.1 outcome.2 after.flash := by
    rcases perform_callless upload pure with ⟨outcome, same, callless⟩
    rw [same]
    exact Program.ensures_done.mpr callless.effects
  cases op with
  | begin jobId size digest =>
      exact typxWifiUploadBegin_effects upload jobId size digest before
  | chunkBegin _ _ => exact atomic.elim
  | chunkWrite _ _ => exact atomic.elim
  | chunkFinish _ => exact atomic.elim
  | session request fragments dropped =>
      refine (chunkSession_ensures upload request fragments dropped before).mono ?_
      intro _ outcome after holds
      exact .session holds.2
  | finalize jobId size digest =>
      refine (typxWifiUploadFinalize_ensures upload jobId size digest
        before).mono ?_
      intro _ outcome after holds
      rw [holds.1]
      exact .untouched holds.2.sameTables
  | _ => exact callless trivial

end Steps

/-! ## The invariant -/

theorem getElem!_set! {α : Type} [Inhabited α] {count : Nat}
    (entries : Vector α count) (sequence index : Nat) (value : α)
    (bound : index < count) :
    (entries.set! sequence value)[index]! =
      if sequence = index then value else entries[index]! := by
  rw [getElem!_pos _ index bound, getElem!_pos _ index bound,
    Vector.getElem_set!]

section Invariant

variable {hash : List UInt8 → Vector UInt8 32} {upload next : Upload}
  {flash after : Contents} {request : ChunkRequest} {payload : List UInt8}
  {error : UploadError}

theorem acceptChunk_chunkLength (sequence index : Nat)
    (small : payload.length ≤ 4096) (bound : index < 128) :
    (acceptChunk upload sequence payload).chunkLength index =
      if sequence = index then payload.length
      else upload.chunkLength index := by
  rw [Upload.chunkLength, Upload.chunkLength, acceptChunk]
  simp only
  rw [getElem!_set! _ _ _ _ bound]
  split
  · rw [UInt16.toNat_ofNat']
    omega
  · rfl

theorem acceptChunk_chunkCrc32 (sequence index : Nat) (bound : index < 128) :
    (acceptChunk upload sequence payload).chunkCrc32[index]! =
      if sequence = index then typxWifiUploadCrc32 payload
      else upload.chunkCrc32[index]! :=
  getElem!_set! _ _ _ _ bound

theorem SameTables.chunkLength (same : SameTables upload next) (index : Nat) :
    next.chunkLength index = upload.chunkLength index := by
  rw [Upload.chunkLength, Upload.chunkLength, same.chunkLengths]

def storedChunk (upload : Upload) (flash : Contents) (index : Nat) : List UInt8 :=
  slice flash (chunkStart index) (upload.chunkLength index)

theorem received_le (received : upload.receivedBytes.toNat =
      ∑ index ∈ Finset.range 128, upload.chunkLength index)
    (each : ∀ index < 128, upload.chunkLength index ≤ 4096) :
    upload.receivedBytes.toNat ≤ storageBytes := by
  rw [received]
  calc
    ∑ index ∈ Finset.range 128, upload.chunkLength index
      ≤ (Finset.range 128).card • 4096 :=
        Finset.sum_le_card_nsmul _ _ _ fun index member =>
          each index (Finset.mem_range.mp member)
    _ = storageBytes := by simp [storageBytes]

theorem acceptChunk_received (received : upload.receivedBytes.toNat =
      ∑ index ∈ Finset.range 128, upload.chunkLength index)
    (lengths : ∀ index < 128, upload.chunkLength index ≤ 4096)
    {sequence : Nat} (bound : sequence < 128)
    (empty : upload.chunkLength sequence = 0) (small : payload.length ≤ 4096) :
    (acceptChunk upload sequence payload).receivedBytes.toNat =
      ∑ index ∈ Finset.range 128,
        (acceptChunk upload sequence payload).chunkLength index := by
  have each : ∀ index ∈ Finset.range 128,
      (acceptChunk upload sequence payload).chunkLength index =
        upload.chunkLength index +
          if sequence = index then payload.length else 0 := by
    intro index member
    rw [acceptChunk_chunkLength _ _ small (Finset.mem_range.mp member)]
    split
    · rename_i own
      rw [← own, empty, Nat.zero_add]
    · rfl
  have total := received_le received lengths
  rw [Finset.sum_congr rfl each, Finset.sum_add_distrib, Finset.sum_ite_eq,
    if_pos (Finset.mem_range.mpr bound), ← received]
  simp only [acceptChunk, storageBytes] at total ⊢
  rw [UInt32.toNat_add, UInt32.toNat_ofNat']
  omega

theorem Delivered.small (delivered : Delivered upload request payload) :
    payload.length ≤ 4096 := by
  rw [delivered.whole]
  exact delivered.length

structure Bookkept (upload : Upload) : Prop where
  size : upload.expectedSize.toNat ≤ storageBytes
  length : ∀ index < 128, upload.chunkLength index = 0 ∨
    upload.chunkLength index = chunkSize upload.expectedSize.toNat index
  received : upload.receivedBytes.toNat =
    ∑ index ∈ Finset.range 128, upload.chunkLength index

theorem Bookkept.length_le (bookkept : Bookkept upload) {index : Nat}
    (bound : index < 128) :
    upload.chunkLength index ≤ chunkSize upload.expectedSize.toNat index := by
  rcases bookkept.length index bound with empty | full
  · omega
  · exact full.le

theorem Bookkept.sector (bookkept : Bookkept upload) {index : Nat}
    (bound : index < 128) : upload.chunkLength index ≤ 4096 :=
  (bookkept.length_le bound).trans (Nat.min_le_left _ _)

theorem Bookkept.of_sameTables (bookkept : Bookkept upload)
    (same : SameTables upload next) : Bookkept next where
  size := by rw [same.expectedSize]; exact bookkept.size
  length index bound := by
    rw [same.chunkLength, same.expectedSize]
    exact bookkept.length index bound
  received := by
    rw [same.receivedBytes, bookkept.received]
    exact Finset.sum_congr rfl fun index _ => (same.chunkLength index).symm

theorem chunkLength_of_cleared
    (cleared : next.chunkLengths = Vector.replicate 128 0) (index : Nat) :
    next.chunkLength index = 0 := by
  rw [chunkLength_eq_zero_iff, cleared]
  by_cases bound : index < 128
  · rw [getElem!_pos _ index bound, Vector.getElem_replicate]
  · rw [getElem!_neg _ index bound]
    rfl

theorem bookkept_of_cleared (cleared : next.chunkLengths = Vector.replicate 128 0)
    (received : next.receivedBytes = 0)
    (size : next.expectedSize.toNat ≤ storageBytes) : Bookkept next := by
  have empty := chunkLength_of_cleared cleared
  exact {
    size := size
    length := fun index _ => .inl (empty index)
    received := by simp [received, empty] }

theorem Bookkept.acceptChunk (bookkept : Bookkept upload)
    (delivered : Delivered upload request payload)
    (empty : upload.chunkLength request.sequence.toNat = 0) :
    Bookkept (acceptChunk upload request.sequence.toNat payload) where
  size := bookkept.size
  length index bound := by
    rw [acceptChunk_chunkLength _ _ delivered.small bound]
    split
    · rename_i own
      right
      rw [delivered.whole, delivered.size, own]
      rfl
    · exact bookkept.length index bound
  received := acceptChunk_received bookkept.received
    (fun _ => bookkept.sector) delivered.sequence empty delivered.small

structure Assembled (upload : Upload) (flash : Contents) : Prop
    extends Bookkept upload where
  crc : ∀ index < 128, upload.chunkLength index ≠ 0 →
    typxWifiUploadCrc32 (storedChunk upload flash index) =
      upload.chunkCrc32[index]!

theorem Assembled.of_sameTables (assembled : Assembled upload flash)
    (same : SameTables upload next) : Assembled next flash where
  toBookkept := assembled.toBookkept.of_sameTables same
  crc index bound := by
    rw [storedChunk, same.chunkLength, same.chunkCrc32]
    exact assembled.crc index bound

theorem assembled_of_cleared (cleared : next.chunkLengths = Vector.replicate 128 0)
    (received : next.receivedBytes = 0)
    (size : next.expectedSize.toNat ≤ storageBytes) : Assembled next flash where
  toBookkept := bookkept_of_cleared cleared received size
  crc index _ stored := absurd (chunkLength_of_cleared cleared index) stored

structure Kept (upload : Upload) (flash : Contents) (next : Upload)
    (after : Contents) (index : Nat) : Prop where
  length : next.chunkLength index = upload.chunkLength index
  stored : storedChunk next after index = storedChunk upload flash index
  crc : next.chunkCrc32[index]! = upload.chunkCrc32[index]!

theorem SameTables.kept (same : SameTables upload next) (index : Nat) :
    Kept upload flash next flash index where
  length := same.chunkLength index
  stored := by rw [storedChunk, storedChunk, same.chunkLength]
  crc := by rw [same.chunkCrc32]

theorem chunkStart_disjoint {first second length : Nat} (different : first ≠ second)
    (small : length ≤ 4096) :
    chunkStart first + length ≤ chunkStart second ∨
      chunkStart second + 4096 ≤ chunkStart first := by
  simp only [chunkStart]
  omega

theorem Assembled.storedChunk_elsewhere (assembled : Assembled upload flash)
    {sequence index : Nat} (bound : index < 128) (different : index ≠ sequence)
    (elsewhere : Elsewhere flash after (chunkStart sequence) 4096) :
    slice after (chunkStart index) (upload.chunkLength index) =
      storedChunk upload flash index :=
  elsewhere.slice_eq
    (chunkStart_disjoint different (assembled.sector bound))

/-- A session never touches a chunk that is already listed. -/
theorem SessionOutcome.kept (assembled : Assembled upload flash)
    (outcome : SessionOutcome upload request payload flash error next after)
    {index : Nat} (bound : index < 128) (listed : upload.chunkLength index ≠ 0) :
    Kept upload flash next after index := by
  cases outcome with
  | refused _ same confined =>
      have tables := sameTables_of_refused same
      by_cases own : index = request.sequence.toNat
      · rw [confined.again (by simpa [← own] using listed)]
        exact tables.kept index
      · exact {
          length := tables.chunkLength index
          stored := by
            rw [storedChunk, tables.chunkLength]
            exact assembled.storedChunk_elsewhere bound own confined.elsewhere
          crc := by rw [tables.chunkCrc32] }
  | repeated _ _ _ _ => exact SameTables.refl.kept index
  | accepted delivered empty elsewhere _ =>
      have other : request.sequence.toNat ≠ index := by
        intro own
        rw [own] at empty
        exact listed empty
      have length : (acceptChunk upload request.sequence.toNat
          payload).chunkLength index = upload.chunkLength index := by
        rw [acceptChunk_chunkLength _ _ delivered.small bound, if_neg other]
      exact {
        length := length
        stored := by
          rw [storedChunk, length]
          exact assembled.storedChunk_elsewhere bound other.symm elsewhere
        crc := by rw [acceptChunk_chunkCrc32 _ _ bound, if_neg other] }

theorem SessionOutcome.assembled (assembled : Assembled upload flash)
    (outcome : SessionOutcome upload request payload flash error next after) :
    Assembled next after := by
  have listed : ∀ index < 128, upload.chunkLength index ≠ 0 →
      typxWifiUploadCrc32 (storedChunk next after index) =
        next.chunkCrc32[index]! := by
    intro index bound listed
    have kept := outcome.kept assembled bound listed
    rw [kept.stored, kept.crc]
    exact assembled.crc index bound listed
  cases outcome with
  | repeated _ _ _ _ => exact assembled
  | refused _ same _ =>
      have tables := sameTables_of_refused same
      exact { assembled.of_sameTables tables with
        crc := fun index bound stored =>
          listed index bound (tables.chunkLength index ▸ stored) }
  | accepted delivered empty _ written =>
      have small := delivered.small
      refine {
        toBookkept := assembled.toBookkept.acceptChunk delivered empty
        crc := ?_ }
      intro index bound stored
      by_cases own : request.sequence.toNat = index
      · rw [storedChunk, acceptChunk_chunkLength _ _ small bound, if_pos own,
          acceptChunk_chunkCrc32 _ _ bound, if_pos own, ← own, written]
      · apply listed index bound
        rw [acceptChunk_chunkLength _ _ small bound, if_neg own] at stored
        exact stored

theorem Effects.assembled {op : UploadOp} (assembled : Assembled upload flash)
    (effects : Effects upload flash op error next after) :
    Assembled next after := by
  cases effects with
  | untouched same => exact assembled.of_sameTables same
  | cleared cleared received size _ =>
      exact assembled_of_cleared cleared received size
  | session outcome => exact outcome.assembled assembled

theorem Effects.kept {op : UploadOp} (assembled : Assembled upload flash)
    (effects : Effects upload flash op error next after) {index : Nat}
    (bound : index < 128) (listed : upload.chunkLength index ≠ 0)
    (still : next.chunkLength index ≠ 0) :
    Kept upload flash next after index := by
  cases effects with
  | untouched same => exact same.kept index
  | cleared cleared _ _ _ =>
      exact absurd (chunkLength_of_cleared cleared index) still
  | session outcome => exact outcome.kept assembled bound listed

/-- A chunk becomes listed by a session for it, which wrote what it was
sent. -/
theorem Effects.lists {op : UploadOp}
    (effects : Effects upload flash op error next after) {index : Nat}
    (bound : index < 128) (unlisted : upload.chunkLength index = 0)
    (listed : next.chunkLength index ≠ 0) :
    error = .ok ∧ ∃ request fragments dropped,
      op = .session request fragments dropped ∧
        request.sequence.toNat = index ∧ Delivered upload request fragments.flatten ∧
        storedChunk next after index = fragments.flatten := by
  cases effects with
  | untouched same =>
      exact absurd ((same.chunkLength index).trans unlisted) listed
  | cleared cleared _ _ _ =>
      exact absurd (chunkLength_of_cleared cleared index) listed
  | @session request fragments dropped _ _ _ outcome =>
      cases outcome with
      | refused _ same _ =>
          have length := (sameTables_of_refused same).chunkLength index
          exact absurd (length.trans unlisted) listed
      | repeated _ _ _ _ => exact absurd unlisted listed
      | accepted delivered empty _ written =>
          have small := delivered.small
          rw [acceptChunk_chunkLength _ _ small bound] at listed
          by_cases own : request.sequence.toNat = index
          · refine ⟨rfl, request, fragments, dropped, rfl, own, delivered, ?_⟩
            rw [storedChunk, acceptChunk_chunkLength _ _ small bound, if_pos own,
              ← own, written]
          · rw [if_neg own] at listed
            exact absurd unlisted listed

theorem SessionOutcome.stores
    (outcome : SessionOutcome upload request payload flash .ok next after) :
    Delivered upload request payload ∧
      next.chunkLength request.sequence.toNat = payload.length ∧
      storedChunk next after request.sequence.toNat = payload := by
  cases outcome with
  | refused bad _ _ => exact absurd rfl bad
  | repeated delivered length _ stored =>
      exact ⟨delivered, length, by rw [storedChunk, length, stored]⟩
  | accepted delivered _ _ written =>
      have length : (acceptChunk upload request.sequence.toNat
          payload).chunkLength request.sequence.toNat = payload.length := by
        rw [acceptChunk_chunkLength _ _ delivered.small delivered.sequence,
          if_pos rfl]
      exact ⟨delivered, length, by rw [storedChunk, length, written]⟩

/-! ## Whole uploads -/

theorem slice_chunks (flash : Contents) (size count : Nat) :
    slice flash 0 (min size (chunkStart count)) =
      (List.range count).flatMap fun index =>
        slice flash (chunkStart index) (chunkSize size index) := by
  induction count with
  | zero => simp [chunkStart]
  | succ count induction =>
      have next : min size (chunkStart (count + 1)) =
          min size (chunkStart count) + chunkSize size count := by
        simp only [chunkSize, chunkStart]
        omega
      rw [next, slice_append, induction, List.range_succ, List.flatMap_append,
        List.flatMap_singleton, Nat.zero_add]
      by_cases inside : chunkStart count ≤ size
      · rw [Nat.min_eq_right inside]
      · have empty : chunkSize size count = 0 := by
          rw [chunkSize]
          omega
        simp [empty]

/-- When every chunk of the job is listed, the upload is their
concatenation. -/
theorem Assembled.whole (assembled : Assembled upload flash)
    (complete : ∀ index, chunkStart index < upload.expectedSize.toNat →
      upload.chunkLength index ≠ 0) :
    stored upload flash =
      (List.range 128).flatMap (storedChunk upload flash) := by
  have size : upload.expectedSize.toNat =
      min upload.expectedSize.toNat (chunkStart 128) := by
    have bound := assembled.size
    simp only [storageBytes, chunkStart] at bound ⊢
    omega
  rw [stored, size, slice_chunks]
  apply List.flatMap_congr
  intro index member
  rw [storedChunk]
  congr 1
  rcases assembled.length index (List.mem_range.mp member) with empty | full
  · have outside := mt (complete index) (not_not.mpr empty)
    rw [empty, chunkSize]
    omega
  · exact full.symm

end Invariant

/-! ## Runs -/

section Runs

variable {hash : List UInt8 → Vector UInt8 32} {world : World}
  {events : List UploadEvent} {before after final : System World}
  {event : UploadEvent}

abbrev StagingStep (hash : List UInt8 → Vector UInt8 32) :
    System World → UploadEvent → System World → Prop :=
  Guarded (fun system => Assembled system.upload system.world.flash)
    (fun event => event.op.Atomic) (UploadStep (stagingStorage hash))

theorem UploadStep.effects
    (step : UploadStep (stagingStorage hash) before event after)
    (atomic : event.op.Atomic) :
    Effects before.upload before.world.flash event.op event.result after.upload
      after.world.flash :=
  perform_effects before.upload event.op atomic before.world _ _ _ step.2.2

theorem assembled_initial : Assembled (initial world).upload world.flash :=
  assembled_of_cleared rfl rfl (Nat.zero_le _)

theorem assembled_run
    (run : UploadRun (stagingStorage hash) (initial world) events final)
    (atomic : ∀ event ∈ events, event.op.Atomic) :
    Run (StagingStep hash) (initial world) events final :=
  run.guarded _ _
    (fun _ _ _ admitted holds taken => (taken.effects admitted).assembled holds)
    atomic assembled_initial

theorem storedChunk_kept {index : Nat} (bound : index < 128)
    (run : Run (Within (fun system => system.upload.chunkLength index ≠ 0)
      (StagingStep hash)) before events after) :
    storedChunk after.upload after.world.flash index =
      storedChunk before.upload before.world.flash index := by
  apply run.constant (fun system =>
    storedChunk system.upload system.world.flash index)
  intro here event next taken
  rcases taken with ⟨listed, step, still⟩
  exact ((step.taken.effects step.admitted).kept step.holds bound listed
    still).stored

theorem StagingStep.session_stores (step : StagingStep hash before event after)
    {request : ChunkRequest} {fragments : List (List UInt8)} {dropped : Bool}
    (op : event.op = .session request fragments dropped)
    (result : event.result = .ok) :
    storedChunk after.upload after.world.flash request.sequence.toNat =
      fragments.flatten := by
  have execution := step.taken.2.2
  rw [op, result] at execution
  exact (chunkSession_ensures _ _ _ _ _ _ _ _ execution).2.stores.2.2

theorem UploadStep.not_begins {σ : Type} {environment : Environment callbacks σ}
    {before after : System σ} (step : UploadStep environment before event after)
    {index : Nat} (still : after.upload.chunkLength index ≠ 0) :
    ¬event.Begins := by
  intro begins
  rcases begins with ⟨jobId, size, digest, op, result⟩
  have moves := step.moves
  rw [op, result] at moves
  apply still
  generalize after.upload = next at moves ⊢
  cases moves with
  | kept advances _ => exact absurd rfl (advances rfl)
  | begun _ _ => exact chunkLength_of_cleared rfl index

end Runs

end Typxen.WifiUpload
