import Typxen.WifiUpload.Reassembly
import Typxen.WifiUpload.History

/-! # Counting the chunks

The counter of received bytes and the table of chunk lengths are written by
the same sessions and agree in every reachable state. Nothing is assumed of the
storage here: the books are kept in memory. -/

namespace Typxen.WifiUpload

open Interaction Transition

/-! ## Sessions on any storage -/

def openSession (upload : Upload) (request : ChunkRequest)
    (fragments : List (List UInt8)) : Firmware (UploadError × ChunkSession) := do
  let (error, session) ← typxWifiUploadChunkBegin upload ChunkSession.zero
    request.jobId request.sequence request.offset request.length request.crc32
  if error != .ok then
    return (error, session)
  else
    writeFragments session fragments

/-- What `chunk_handler` answers after that. -/
def closeSession (upload : Upload) (dropped : Bool)
    (opened : UploadError × ChunkSession) : UploadError × Upload :=
  if opened.1 != .ok then
    (opened.1, upload)
  else if dropped then
    (.incomplete, upload)
  else
    typxWifiUploadChunkFinish upload opened.2

theorem chunkSession_eq (upload : Upload) (request : ChunkRequest)
    (fragments : List (List UInt8)) (dropped : Bool) :
    chunkSession upload request fragments dropped =
      openSession upload request fragments >>= fun opened =>
        return closeSession upload dropped opened := by
  rw [chunkSession, openSession, Program.bind_assoc]
  congr 1
  funext opened
  rcases opened with ⟨error, session⟩
  by_cases accepted : error = .ok
  · simp only [accepted, bne_self_eq_false, Bool.false_eq_true, if_false]
    congr 1
    funext written
    rcases written with ⟨error, session⟩
    rw [closeSession]
    split
    · rfl
    · split <;> rfl
  · simp [accepted, closeSession]

section AnyStorage

variable {σ : Type} {environment : Environment callbacks σ}
  {request : ChunkRequest} {repeated : Bool} {written : List UInt8}

def Room (session : ChunkSession) : Prop := session.received ≤ session.length

theorem typxWifiUploadChunkWrite_room {session : ChunkSession}
    (room : Room session) (data : List UInt8) (before : σ) :
    Program.Ensures environment (typxWifiUploadChunkWrite session data) before
      fun _ outcome _ => Room outcome.2 := by
  rw [typxWifiUploadChunkWrite]
  split
  case isTrue => exact Program.ensures_done.mpr room
  rename_i accepted
  have grown : session.received + UInt32.ofNat data.length ≤ session.length := by
    have left : (session.length - session.received).toNat =
        session.length.toNat - session.received.toNat :=
      UInt32.toNat_sub_of_le _ _ room
    have bound := session.length.toNat_lt
    rw [Room, UInt32.le_iff_toNat_le] at room
    simp only [Bool.or_eq_true, decide_eq_true_eq, not_or, gt_iff_lt, left]
      at accepted
    rw [UInt32.le_iff_toNat_le, UInt32.toNat_add, UInt32.toNat_ofNat']
    omega
  simp only
  split
  · refine Program.ensures_true.bind ?_
    intro _ result _ _
    cases result with
    | ok => exact Program.ensures_done.mpr grown
    | _ => exact Program.ensures_done.mpr room
  · simp only [Storage.write_bind, Program.ensures_ask]
    intro answer after _
    cases answer with
    | true => exact Program.ensures_done.mpr grown
    | false => exact Program.ensures_done.mpr room

theorem writeFragments_room {session : ChunkSession} (room : Room session)
    (fragments : List (List UInt8)) (before : σ) :
    Program.Ensures environment (writeFragments session fragments) before
      fun _ outcome _ => Room outcome.2 := by
  induction fragments generalizing session before with
  | nil => exact Program.ensures_done.mpr room
  | cons fragment rest induction =>
      refine (typxWifiUploadChunkWrite_room room fragment before).bind ?_
      intro _ outcome middle room
      rcases outcome with ⟨error, session⟩
      simp only
      split
      · exact Program.ensures_done.mpr room
      · exact induction room middle

/-- At any point of a chunk request the rest of the session is not
negative. -/
theorem openSession_room (upload : Upload) (request : ChunkRequest)
    (fragments : List (List UInt8)) (before : σ) :
    Program.Ensures environment (openSession upload request fragments) before
      fun _ outcome _ => Room outcome.2 := by
  have opens : Program.Ensures environment
      (typxWifiUploadChunkBegin upload ChunkSession.zero request.jobId
        request.sequence request.offset request.length request.crc32) before
      fun _ outcome _ => Room outcome.2 := by
    have empty (repeated conflict : Bool) : Room ⟨request.sequence,
        request.offset, request.length, request.crc32, 0xffffffff, 0, repeated,
        conflict⟩ := by
      rw [Room, UInt32.le_iff_toNat_le]
      exact Nat.zero_le _
    rw [typxWifiUploadChunkBegin]
    split
    · exact Program.ensures_done.mpr (UInt32.le_refl 0)
    split
    · exact Program.ensures_done.mpr (UInt32.le_refl 0)
    split
    · exact Program.ensures_done.mpr (UInt32.le_refl 0)
    split
    · exact Program.ensures_done.mpr (UInt32.le_refl 0)
    simp only
    split
    · exact Program.ensures_done.mpr (empty _ _)
    split
    · exact Program.ensures_done.mpr (empty _ _)
    simp only [Storage.eraseRange_bind, Program.ensures_ask]
    intro answer after _
    cases answer with
    | true => exact Program.ensures_done.mpr (empty _ _)
    | false => exact Program.ensures_done.mpr (empty _ _)
  refine opens.bind ?_
  intro _ outcome middle room
  rcases outcome with ⟨error, session⟩
  simp only
  split
  · exact Program.ensures_done.mpr room
  · exact writeFragments_room room fragments middle

theorem typxWifiUploadChunkWrite_takes
    (fits : written.length ≤ request.length.toNat)
    (small : request.length.toNat ≤ 4096) (data : List UInt8) (before : σ) :
    Program.Ensures environment
      (typxWifiUploadChunkWrite (sessionAt request repeated written) data) before
      fun _ outcome _ => outcome.1 = .ok →
        outcome.2 = sessionAt request repeated (written ++ data) ∧
          (written ++ data).length ≤ request.length.toNat := by
  have left := left_toNat small fits
  rw [typxWifiUploadChunkWrite]
  split
  case isTrue => simp
  rename_i accepted
  have room : (written ++ data).length ≤ request.length.toNat := by
    rw [List.length_append]
    simp only [sessionAt, Bool.or_eq_true, decide_eq_true_eq, beq_iff_eq,
      Bool.false_eq_true, or_false, not_or, left] at accepted
    omega
  have next : sessionAt request repeated (written ++ data) =
      { sessionAt request repeated written with
        runningCrc32 := crc32Update
          (sessionAt request repeated written).runningCrc32 data
        received := (sessionAt request repeated written).received +
          UInt32.ofNat data.length } := by
    simp [sessionAt, crc32Update_append]
  simp only
  split
  · refine Program.ensures_true.bind ?_
    intro _ result _ _
    cases result with
    | ok => exact Program.ensures_done.mpr fun _ => ⟨next.symm, room⟩
    | _ => exact Program.ensures_done.mpr (by simp)
  · simp only [Storage.write_bind, Program.ensures_ask]
    intro answer after _
    cases answer with
    | true => exact Program.ensures_done.mpr fun _ => ⟨next.symm, room⟩
    | false => exact Program.ensures_done.mpr (by simp)

theorem writeFragments_takes (fits : written.length ≤ request.length.toNat)
    (small : request.length.toNat ≤ 4096) (fragments : List (List UInt8))
    (before : σ) :
    Program.Ensures environment
      (writeFragments (sessionAt request repeated written) fragments) before
      fun _ outcome _ => outcome.1 = .ok →
        outcome.2 =
            sessionAt request repeated (written ++ fragments.flatten) ∧
          (written ++ fragments.flatten).length ≤ request.length.toNat := by
  induction fragments generalizing written before with
  | nil => simp [writeFragments, fits]
  | cons fragment rest induction =>
      refine (typxWifiUploadChunkWrite_takes fits small fragment before).bind ?_
      intro _ outcome middle taken
      rcases outcome with ⟨error, session⟩
      by_cases accepted : error = .ok
      · rcases taken accepted with ⟨same, fits⟩
        rw [accepted, show session = _ from same]
        simp only [bne_self_eq_false, Bool.false_eq_true, if_false]
        refine (induction fits middle).mono ?_
        intro _ outcome _ taken
        rw [List.flatten_cons, ← List.append_assoc]
        exact taken
      · simp [accepted]

theorem typxWifiUploadChunkBegin_takes (upload : Upload) (request : ChunkRequest)
    (before : σ) :
    Program.Ensures environment
      (typxWifiUploadChunkBegin upload ChunkSession.zero request.jobId
        request.sequence request.offset request.length request.crc32) before
      fun _ outcome _ => outcome.1 = .ok → Admitted upload request ∧
        outcome.2 = sessionAt request
          (upload.chunkLength request.sequence.toNat ≠ 0) [] := by
  rw [typxWifiUploadChunkBegin]
  split
  case isTrue => simp
  rename_i receiving
  split
  case isTrue => simp
  rename_i same
  split
  case isTrue => simp
  rename_i placed
  split
  case isTrue => simp
  rename_i sized
  have admitted := admitted_of_checks receiving same placed sized
  have session : (⟨request.sequence, request.offset, request.length,
      request.crc32, 0xffffffff, 0,
      upload.chunkLengths[request.sequence.toNat]! != 0, false⟩ :
        ChunkSession) =
      sessionAt request (upload.chunkLength request.sequence.toNat ≠ 0) [] := by
    simp [sessionAt, crc32Update, bne, beq_eq_decide]
  simp only
  split
  case isTrue => simp
  split
  case isTrue =>
    exact Program.ensures_done.mpr fun _ => ⟨admitted, session⟩
  simp only [Storage.eraseRange_bind, Program.ensures_ask]
  intro answer after _
  cases answer with
  | true => exact Program.ensures_done.mpr fun _ => ⟨admitted, session⟩
  | false => exact Program.ensures_done.mpr (by simp)

theorem openSession_takes (upload : Upload) (request : ChunkRequest)
    (fragments : List (List UInt8)) (before : σ) :
    Program.Ensures environment (openSession upload request fragments) before
      fun _ outcome _ => outcome.1 = .ok → Admitted upload request ∧
        outcome.2 = sessionAt request
          (upload.chunkLength request.sequence.toNat ≠ 0) fragments.flatten ∧
        fragments.flatten.length ≤ request.length.toNat := by
  refine (typxWifiUploadChunkBegin_takes upload request before).bind ?_
  intro _ outcome middle opened
  rcases outcome with ⟨error, session⟩
  by_cases accepted : error = .ok
  · rcases opened accepted with ⟨admitted, same⟩
    rw [accepted, show session = _ from same]
    simp only [bne_self_eq_false, Bool.false_eq_true, if_false]
    refine (writeFragments_takes (Nat.zero_le _) admitted.length fragments
      middle).mono ?_
    intro _ outcome _ taken ok
    exact ⟨admitted, taken ok⟩
  · simp [accepted]

end AnyStorage

/-! ## What an operation does to the books -/

inductive BookMoves (upload : Upload) : UploadOp → UploadError → Upload → Prop
  | kept {op : UploadOp} {error : UploadError} {next : Upload} :
      SameTables upload next → next.jobId = upload.jobId →
      BookMoves upload op error next
  | cleared {op : UploadOp} {error : UploadError} {next : Upload} :
      next.chunkLengths = Vector.replicate 128 0 → next.receivedBytes = 0 →
      next.expectedSize.toNat ≤ storageBytes → BookMoves upload op error next
  | accepted {request : ChunkRequest} {fragments : List (List UInt8)}
      {dropped : Bool} : Delivered upload request fragments.flatten →
      upload.chunkLength request.sequence.toNat = 0 →
      BookMoves upload (.session request fragments dropped) .ok
        (acceptChunk upload request.sequence.toNat fragments.flatten)

section Steps

variable {σ : Type} {environment : Environment callbacks σ}

theorem chunkSession_bookMoves (upload : Upload) (request : ChunkRequest)
    (fragments : List (List UInt8)) (dropped : Bool) (before : σ) :
    Program.Ensures environment (chunkSession upload request fragments dropped)
      before fun _ outcome _ => BookMoves upload
        (.session request fragments dropped) outcome.1 outcome.2 := by
  rw [chunkSession_eq]
  refine (openSession_takes upload request fragments before).bind ?_
  intro _ opened middle taken
  rcases opened with ⟨error, session⟩
  refine Program.ensures_done.mpr ?_
  by_cases accepted : error = .ok
  case neg =>
    simp only [closeSession, bne_iff_ne, ne_eq, accepted, not_false_eq_true,
      if_true]
    exact .kept .refl rfl
  rcases taken accepted with ⟨admitted, same, fits⟩
  simp only [closeSession, accepted, bne_self_eq_false, Bool.false_eq_true,
    if_false]
  cases dropped with
  | true => exact .kept .refl rfl
  | false =>
      have outcome := typxWifiUploadChunkFinish_finishOutcome admitted fits
      rw [show session = _ from same]
      generalize typxWifiUploadChunkFinish _ _ = finished at outcome ⊢
      simp only [Bool.false_eq_true, if_false]
      cases outcome with
      | refused _ same =>
          refine .kept (sameTables_of_refused same) ?_
          rcases same with same | same <;> rw [same]
          rfl
      | repeated _ _ => exact .kept .refl rfl
      | accepted delivered empty => exact .accepted delivered empty

theorem typxWifiUploadBegin_bookMoves (upload : Upload)
    (jobId : Vector UInt8 16) (size : UInt32) (digest : Vector UInt8 32)
    (before : σ) :
    Program.Ensures environment (typxWifiUploadBegin upload jobId size digest)
      before fun _ outcome _ => BookMoves upload (.begin jobId size digest)
        outcome.1 outcome.2 := by
  rw [typxWifiUploadBegin]
  split
  · exact Program.ensures_done.mpr (.kept .refl rfl)
  split
  · exact Program.ensures_done.mpr (.kept (setError_sameTables _ _) rfl)
  rename_i sized
  split
  · exact Program.ensures_done.mpr (.kept .refl rfl)
  simp only [Bool.or_eq_true, beq_iff_eq, decide_eq_true_eq, not_or, gt_iff_lt,
    UInt32.not_lt, UInt32.le_iff_toNat_le] at sized
  simp only [Storage.erase_bind, Program.ensures_ask]
  intro answer after _
  cases answer with
  | true => exact Program.ensures_done.mpr (.cleared rfl rfl sized.2)
  | false => exact Program.ensures_done.mpr (.cleared rfl rfl sized.2)

theorem typxWifiUploadFinalize_bookMoves (upload : Upload)
    (jobId : Vector UInt8 16) (size : UInt32) (digest : Vector UInt8 32)
    (before : σ) :
    Program.Ensures environment
      (typxWifiUploadFinalize upload jobId size digest) before
      fun _ outcome _ => BookMoves upload (.finalize jobId size digest)
        outcome.1 outcome.2 := by
  have kept (next : Upload) (same : SameTables upload next)
      (job : next.jobId = upload.jobId) (error : UploadError) :
      Program.Ensures environment (Program.done (error, next)) before
        fun _ outcome _ => BookMoves upload (.finalize jobId size digest)
          outcome.1 outcome.2 :=
    Program.ensures_done.mpr (.kept same job)
  rw [typxWifiUploadFinalize]
  split
  · exact kept _ .refl rfl _
  split
  · exact kept _ .refl rfl _
  split
  · exact kept _ (setError_sameTables _ .sha256Mismatch) rfl _
  split
  · exact kept _ .refl rfl _
  split
  · exact kept _ .refl rfl _
  refine Program.ensures_true.bind ?_
  intro _ hashed _ _
  split
  · exact Program.ensures_done.mpr (.kept ⟨rfl, rfl, rfl, rfl⟩ rfl)
  refine Program.ensures_true.bind ?_
  intro _ verified _ _
  cases verified with
  | error error => exact Program.ensures_done.mpr (.kept ⟨rfl, rfl, rfl, rfl⟩ rfl)
  | ok schedule => exact Program.ensures_done.mpr (.kept ⟨rfl, rfl, rfl, rfl⟩ rfl)

theorem perform_bookMoves (upload : Upload) (op : UploadOp) (atomic : op.Atomic)
    (before : σ) :
    Program.Ensures environment (perform upload op) before
      fun _ outcome _ => BookMoves upload op outcome.1 outcome.2 := by
  have callless (pure : op.Callless) :
      Program.Ensures environment (perform upload op) before
        fun _ outcome _ => BookMoves upload op outcome.1 outcome.2 := by
    rcases perform_callless upload pure with ⟨outcome, answered, callless⟩
    rw [answered]
    refine Program.ensures_done.mpr ?_
    cases callless with
    | refused _ => exact .kept .refl rfl
    | kept same job => exact .kept same job
    | cancelled => exact .cleared rfl rfl (Nat.zero_le _)
  cases op with
  | begin jobId size digest =>
      exact typxWifiUploadBegin_bookMoves upload jobId size digest before
  | chunkBegin _ _ => exact atomic.elim
  | chunkWrite _ _ => exact atomic.elim
  | chunkFinish _ => exact atomic.elim
  | session request fragments dropped =>
      exact chunkSession_bookMoves upload request fragments dropped before
  | finalize jobId size digest =>
      exact typxWifiUploadFinalize_bookMoves upload jobId size digest before
  | _ => exact callless trivial

end Steps

/-! ## The invariant -/

section Invariant

variable {upload next : Upload} {op : UploadOp} {error : UploadError}

theorem BookMoves.bookkept (bookkept : Bookkept upload)
    (moves : BookMoves upload op error next) : Bookkept next := by
  cases moves with
  | kept same _ => exact bookkept.of_sameTables same
  | cleared cleared received size =>
      exact bookkept_of_cleared cleared received size
  | accepted delivered empty => exact bookkept.acceptChunk delivered empty

theorem chunkSize_sum {size : Nat} (fits : size ≤ storageBytes) :
    ∑ index ∈ Finset.range 128, chunkSize size index = size := by
  have lengths := congrArg List.length (slice_chunks (fun _ => 0) size 128)
  rw [NorFlash.slice_length, List.length_flatMap] at lengths
  have whole : min size (chunkStart 128) = size := by
    simp only [chunkStart, storageBytes] at fits ⊢
    omega
  rw [whole] at lengths
  rw [Finset.sum_eq_multiset_sum, Finset.range_val, Multiset.range,
    Multiset.map_coe, Multiset.sum_coe]
  simpa using lengths.symm

theorem Bookkept.received_le (bookkept : Bookkept upload) :
    upload.receivedBytes.toNat ≤ upload.expectedSize.toNat := by
  rw [bookkept.received]
  calc
    ∑ index ∈ Finset.range 128, upload.chunkLength index
      ≤ ∑ index ∈ Finset.range 128,
          chunkSize upload.expectedSize.toNat index :=
        Finset.sum_le_sum fun _ member =>
          bookkept.length_le (Finset.mem_range.mp member)
    _ = upload.expectedSize.toNat := chunkSize_sum bookkept.size

/-- A byte count that is complete leaves no chunk out. -/
theorem Bookkept.received_eq_iff (bookkept : Bookkept upload) :
    upload.receivedBytes = upload.expectedSize ↔
      ∀ index, chunkStart index < upload.expectedSize.toNat →
        upload.chunkLength index ≠ 0 := by
  have each : ∀ index ∈ Finset.range 128, upload.chunkLength index ≤
      chunkSize upload.expectedSize.toNat index := fun _ member =>
    bookkept.length_le (Finset.mem_range.mp member)
  rw [← UInt32.toNat_inj, bookkept.received]
  conv =>
    lhs
    rhs
    rw [← chunkSize_sum bookkept.size]
  rw [Finset.sum_eq_sum_iff_of_le each]
  have size := bookkept.size
  constructor
  · intro full index inside
    have bound : index < 128 := by
      simp only [chunkStart, storageBytes] at inside size
      omega
    rw [full index (Finset.mem_range.mpr bound), chunkSize]
    omega
  · intro listed index member
    rcases bookkept.length index (Finset.mem_range.mp member) with empty | full
    · have outside := mt (listed index) (not_not.mpr empty)
      rw [empty, chunkSize]
      omega
    · exact full

theorem chunkCount_toNat (size : upload.expectedSize.toNat ≤ storageBytes) :
    (chunkCount upload).toNat = (upload.expectedSize.toNat + 4095) / 4096 := by
  simp only [storageBytes] at size
  have sum : (upload.expectedSize + chunkBytes).toNat =
      upload.expectedSize.toNat + 4096 := by
    rw [UInt32.toNat_add]
    simp only [chunkBytes, UInt32.reduceToNat]
    omega
  rw [chunkCount, UInt32.toNat_div, UInt32.toNat_sub_of_le, sum]
  · simp [chunkBytes]
  · rw [UInt32.le_iff_toNat_le, sum]
    simp

theorem Bookkept.chunks_present (bookkept : Bookkept upload)
    (whole : upload.receivedBytes = upload.expectedSize) :
    ((List.range (chunkCount upload).toNat).any fun index =>
      upload.chunkLengths[index]! == 0) = false := by
  rw [List.any_eq_false]
  intro index member
  rw [beq_iff_eq, ← chunkLength_eq_zero_iff]
  apply bookkept.received_eq_iff.mp whole
  have within := List.mem_range.mp member
  rw [chunkCount_toNat bookkept.size] at within
  rw [chunkStart]
  omega

theorem BookMoves.keeps (moves : BookMoves upload op error next) {index : Nat}
    (bound : index < 128) (listed : upload.chunkLength index ≠ 0)
    (still : next.chunkLength index ≠ 0) :
    next.jobId = upload.jobId ∧
      next.chunkLength index = upload.chunkLength index := by
  cases moves with
  | kept same job => exact ⟨job, same.chunkLength index⟩
  | cleared cleared _ _ =>
      exact absurd (chunkLength_of_cleared cleared index) still
  | @accepted request _ _ delivered empty =>
      have other : request.sequence.toNat ≠ index := by
        intro own
        rw [own] at empty
        exact listed empty
      refine ⟨rfl, ?_⟩
      rw [acceptChunk_chunkLength _ _ delivered.small bound, if_neg other]

theorem BookMoves.lists (moves : BookMoves upload op error next) {index : Nat}
    (bound : index < 128) (unlisted : upload.chunkLength index = 0)
    (listed : next.chunkLength index ≠ 0) :
    error = .ok ∧ ∃ request fragments dropped,
      op = .session request fragments dropped ∧
        request.sequence.toNat = index ∧ request.jobId = next.jobId ∧
        next.chunkLength index = fragments.flatten.length := by
  cases moves with
  | kept same _ =>
      exact absurd ((same.chunkLength index).trans unlisted) listed
  | cleared cleared _ _ =>
      exact absurd (chunkLength_of_cleared cleared index) listed
  | @accepted request fragments dropped delivered empty =>
      have length : (acceptChunk upload request.sequence.toNat
          fragments.flatten).chunkLength index =
            if request.sequence.toNat = index then fragments.flatten.length
            else upload.chunkLength index :=
        acceptChunk_chunkLength _ _ delivered.small bound
      by_cases own : request.sequence.toNat = index
      · rw [if_pos own] at length
        exact ⟨rfl, request, fragments, dropped, rfl, own, delivered.job.symm,
          length⟩
      · rw [if_neg own] at length
        exact absurd (length.trans unlisted) listed

end Invariant

/-! ## Runs -/

section Runs

variable {σ : Type} {environment : Environment callbacks σ} {world : σ}
  {before after final : System σ} {events : List UploadEvent}
  {event : UploadEvent}

abbrev BookStep (environment : Environment callbacks σ) :
    System σ → UploadEvent → System σ → Prop :=
  Guarded (fun system => Bookkept system.upload)
    (fun event => event.op.Atomic) (UploadStep environment)

theorem UploadStep.bookMoves (step : UploadStep environment before event after)
    (atomic : event.op.Atomic) :
    BookMoves before.upload event.op event.result after.upload :=
  perform_bookMoves before.upload event.op atomic before.world _ _ _ step.2.2

theorem bookkept_initial : Bookkept (initial world).upload :=
  bookkept_of_cleared rfl rfl (Nat.zero_le _)

theorem bookkept_run (run : UploadRun environment (initial world) events final)
    (atomic : ∀ event ∈ events, event.op.Atomic) :
    Run (BookStep environment) (initial world) events final :=
  run.guarded _ _
    (fun _ _ _ admitted holds taken => (taken.bookMoves admitted).bookkept holds)
    atomic bookkept_initial

structure OwnSession (index : Nat) (events : List UploadEvent)
    (upload : Upload) where
  first : List UploadEvent
  event : UploadEvent
  second : List UploadEvent
  request : ChunkRequest
  fragments : List (List UInt8)
  dropped : Bool
  split : events = first ++ event :: second
  op : event.op = .session request fragments dropped
  result : event.result = .ok
  sequence : request.sequence.toNat = index
  jobId : request.jobId = upload.jobId
  length : fragments.flatten.length = upload.chunkLength index
  unbegun : ∀ later ∈ second, ¬later.Begins

theorem ownSession_of_listed (run : Run (BookStep environment) before events final)
    {index : Nat} (bound : index < 128)
    (unlisted : before.upload.chunkLength index = 0)
    (listed : final.upload.chunkLength index ≠ 0) :
    Nonempty (OwnSession index events final.upload) := by
  rcases run.last_entry (fun system => system.upload.chunkLength index ≠ 0)
    (not_not.mpr unlisted) listed with ⟨entry⟩
  have taken := entry.taken
  rcases (taken.taken.bookMoves taken.admitted).lists bound
    (not_not.mp entry.outside) entry.inside with
    ⟨result, request, fragments, dropped, op, sequence, job, length⟩
  have same : (final.upload.jobId, final.upload.chunkLength index) =
      (entry.next.upload.jobId, entry.next.upload.chunkLength index) := by
    apply entry.rest.constant (fun system =>
      (system.upload.jobId, system.upload.chunkLength index))
    intro here event next step
    rcases step with ⟨listed, step, still⟩
    have keeps := (step.taken.bookMoves step.admitted).keeps bound listed still
    exact Prod.ext keeps.1 keeps.2
  rw [Prod.mk.injEq] at same
  refine ⟨{
    first := entry.first
    event := entry.label
    second := entry.second
    request := request
    fragments := fragments
    dropped := dropped
    split := entry.split
    op := op
    result := result
    sequence := sequence
    jobId := job.trans same.1.symm
    length := length.symm.trans same.2.symm
    unbegun := ?_ }⟩
  intro later member
  rcases entry.rest.within_of_mem member with ⟨here, next, _, step, still⟩
  exact step.taken.not_begins still

/-- The books are right in every reachable state, whatever the storage
answers. -/
theorem upload_keepsBooks
    (run : UploadRun environment (initial world) events final)
    (atomic : ∀ event ∈ events, event.op.Atomic) :
    (∀ index < 128, final.upload.chunkLength index ≠ 0 →
      Nonempty (OwnSession index events final.upload)) ∧
    (∀ index < 128, final.upload.chunkLength index = 0 ∨
      final.upload.chunkLength index =
        min 4096 (final.upload.expectedSize.toNat - 4096 * index)) ∧
    (∀ index < 128, final.upload.expectedSize.toNat ≤ 4096 * index →
      final.upload.chunkLength index = 0) ∧
    final.upload.receivedBytes.toNat =
      ∑ index ∈ Finset.range 128, final.upload.chunkLength index ∧
    final.upload.receivedBytes ≤ final.upload.expectedSize ∧
    (∀ request fragments, Program.Ensures environment
      (openSession final.upload request fragments) final.world
      fun _ opened _ => opened.2.received ≤ opened.2.length) ∧
    (final.upload.receivedBytes = final.upload.expectedSize ↔
      ∀ index < (final.upload.expectedSize.toNat + 4095) / 4096,
        final.upload.chunkLength index ≠ 0) ∧
    (final.upload.receivedBytes = final.upload.expectedSize →
      ((List.range (chunkCount final.upload).toNat).any fun index =>
        final.upload.chunkLengths[index]! == 0) = false) := by
  have booked := bookkept_run run atomic
  have bookkept := booked.still bookkept_initial
  refine ⟨?_, bookkept.length, ?_, bookkept.received, ?_, ?_, ?_,
    bookkept.chunks_present⟩
  · intro index bound listed
    exact ownSession_of_listed booked bound (chunkLength_of_cleared rfl index)
      listed
  · intro index bound beyond
    have within := bookkept.length_le bound
    rw [chunkSize, chunkStart] at within
    omega
  · exact UInt32.le_iff_toNat_le.mpr bookkept.received_le
  · intro request fragments
    exact openSession_room final.upload request fragments final.world
  · rw [bookkept.received_eq_iff]
    apply forall_congr'
    intro index
    rw [chunkStart]
    have same : 4096 * index < final.upload.expectedSize.toNat ↔
        index < (final.upload.expectedSize.toNat + 4095) / 4096 := by
      omega
    rw [same]

theorem upload_keepsBooks_page :
    Nonempty (OwnSession 0 pageSent.1 pageSent.2.upload) ∧
      Nonempty (OwnSession 1 pageSent.1 pageSent.2.upload) ∧
      pageSent.2.upload.receivedBytes ≤ pageSent.2.upload.expectedSize := by
  have books := upload_keepsBooks pageSent_run pageSent_atomic
  have first := (pageSent_listed (show 0 < 2 by decide)).1
  have second := (pageSent_listed (show 1 < 2 by decide)).1
  exact ⟨books.1 0 (by decide) first, books.1 1 (by decide) second,
    books.2.2.2.2.1⟩

end Runs

end Typxen.WifiUpload
