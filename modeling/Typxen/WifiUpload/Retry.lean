import Typxen.WifiUpload.Promotion

/-! # Requests that come twice

A chunk that is sent again is compared with what is stored and changes
nothing. A job that is begun again starts over. -/

namespace Typxen.WifiUpload

open Interaction Protocol NorFlash Transition

section Retries

variable {hash : List UInt8 → Vector UInt8 32} {upload : Upload}
  {request : ChunkRequest} {written : List UInt8}

/-! ## Chunks -/

theorem writeFragments_compared (placed : WellPlaced request)
    (fragments : List (List UInt8)) (nonempty : ∀ fragment ∈ fragments, fragment ≠ [])
    (room : written.length + fragments.flatten.length ≤ request.length.toNat)
    (before : World) :
    Program.Ensures (stagingStorage hash)
      (writeFragments (sessionAt request true written) fragments) before
      fun trace outcome after => after = before ∧ (¬Faulted Failed trace →
        Compared before.flash (chunkStart request.sequence.toNat + written.length)
          fragments.flatten
          (sessionAt request true (written ++ fragments.flatten)) outcome) := by
  induction fragments generalizing written before with
  | nil => simp [writeFragments, Compared]
  | cons fragment rest induction =>
      rw [List.flatten_cons, List.length_append] at room
      have fits : written.length ≤ request.length.toNat := by omega
      refine ((typxWifiUploadChunkWrite_compared placed
        (nonempty fragment (.head _)) (by omega) before).and
        (typxWifiUploadChunkWrite_takes fits placed.length fragment before)).bind
        ?_
      intro first outcome middle holds
      rcases outcome with ⟨error, session⟩
      rcases holds with ⟨⟨unchanged, compared⟩, taken⟩
      rw [unchanged, List.flatten_cons, ← List.append_assoc]
      simp only [Compared, List.length_append, slice_append_eq_iff]
      by_cases accepted : error = .ok
      case neg =>
        simp only [bne_iff_ne, ne_eq, accepted, not_false_eq_true, if_true]
        refine Program.ensures_done.mpr ⟨rfl, fun clean => ?_⟩
        rcases compared (by simpa using clean) with ⟨same, _⟩ | ⟨conflict, differs⟩
        · exact absurd (congrArg Prod.fst same) accepted
        · exact .inr ⟨conflict, fun both =>
            differs (slice_append_eq_iff.mp both).1⟩
      rw [accepted, show session = _ from (taken accepted).1]
      simp only [bne_self_eq_false, Bool.false_eq_true, if_false]
      refine (induction (fun fragment member => nonempty fragment (.tail _ member))
        (by rw [List.length_append]; omega) before).mono ?_
      intro second outcome after holds
      rcases holds with ⟨still, later⟩
      refine ⟨still, fun clean => ?_⟩
      rw [faulted_append, not_or] at clean
      have first := compared clean.1
      have rest := later clean.2
      rw [List.length_append, ← Nat.add_assoc] at rest
      rcases first with ⟨_, same⟩ | ⟨conflict, _⟩
      case inr => exact absurd (accepted.symm.trans conflict.1) (by simp)
      rcases rest with ⟨outcome, rest⟩ | ⟨conflict, differs⟩
      · exact .inl ⟨outcome, same, rest⟩
      · exact .inr ⟨conflict, fun both =>
          differs (slice_append_eq_iff.mp both).2⟩

theorem openSession_listed (admitted : Admitted upload request)
    (listed : upload.chunkLength request.sequence.toNat = request.length.toNat)
    {fragments : List (List UInt8)}
    (nonempty : ∀ fragment ∈ fragments, fragment ≠ [])
    (whole : fragments.flatten.length = request.length.toNat) (before : World) :
    Program.Ensures (stagingStorage hash) (openSession upload request fragments)
      before fun trace opened after => after = before ∧ (¬Faulted Failed trace →
        opened = (.ok, sessionAt request true fragments.flatten) ∧
            Repeats upload before.flash request fragments.flatten ∨
          (opened.1 = .chunkConflict ∧ opened.2.conflict = true) ∧
            ¬Repeats upload before.flash request fragments.flatten) := by
  have stored : slice before.flash (chunkStart request.sequence.toNat)
      fragments.flatten.length =
        storedChunk upload before.flash request.sequence.toNat := by
    rw [storedChunk, listed, whole]
  rw [openSession, typxWifiUploadChunkBegin_listed admitted listed,
    Program.done_bind]
  by_cases agrees : request.crc32 = upload.chunkCrc32[request.sequence.toNat]!
  case neg =>
    rw [if_neg agrees]
    exact Program.ensures_done.mpr
      ⟨rfl, fun _ => .inr ⟨⟨rfl, rfl⟩, fun both => agrees both.1⟩⟩
  rw [if_pos agrees]
  refine (writeFragments_compared admitted.toWellPlaced fragments nonempty
    (by simpa using whole.le) before).mono ?_
  intro trace outcome after holds
  rcases holds with ⟨unchanged, compared⟩
  refine ⟨unchanged, fun clean => ?_⟩
  rcases compared clean with ⟨same, equal⟩ | ⟨conflict, differs⟩
  · exact .inl ⟨same, agrees, equal.symm.trans stored⟩
  · refine .inr ⟨conflict, ?_⟩
    intro both
    exact differs (stored.trans both.2.symm)

/-- A chunk is accepted once: of two sessions the later one would find it
unlisted. -/
theorem AcceptedSession.eq_of_tail {index : Nat} {events between : List UploadEvent}
    {payload other : List UInt8} (early : AcceptedSession index events payload)
    (late : AcceptedSession index events other)
    (tail : early.event :: early.second = between ++ late.event :: late.second) :
    payload = other := by
  cases between with
  | nil =>
      have ops := early.op.symm.trans
        ((congrArg UploadEvent.op (List.cons.inj tail).1).trans late.op)
      injection ops with _ fragments _
      rw [← early.carried, ← late.carried, fragments]
  | cons label between =>
      have later : late.event ∈ early.second := by
        rw [(List.cons.inj tail).2]
        simp
      exact absurd late.unlisted (early.listed _ later)

theorem AcceptedSession.unique {index : Nat} {events : List UploadEvent}
    {payload other : List UInt8} (first : AcceptedSession index events payload)
    (second : AcceptedSession index events other) : payload = other := by
  rcases List.append_eq_append_iff.mp (first.split.symm.trans second.split) with
    ⟨between, _, tail⟩ | ⟨between, _, tail⟩
  · exact first.eq_of_tail second tail
  · exact (second.eq_of_tail first tail).symm

theorem typxWifiUploadChunkFinish_conflict {session : ChunkSession}
    (conflict : session.conflict = true) :
    typxWifiUploadChunkFinish upload session = (.chunkConflict, upload) := by
  simp [typxWifiUploadChunkFinish, conflict]

/-- What a stored chunk makes of a second session for it. -/
structure Retried (upload : Upload) (flash : Contents) (request : ChunkRequest)
    (payload : List UInt8) (opened : UploadError × ChunkSession) : Prop where
  repeats : Repeats upload flash request payload → opened.1 = .ok ∧
    typxWifiUploadChunkFinish upload opened.2 = (.ok, upload)
  conflicts : ¬Repeats upload flash request payload →
    opened.1 = .chunkConflict ∧
      typxWifiUploadChunkFinish upload opened.2 = (.chunkConflict, upload)

section Outcome

variable {flash : Contents} {payload : List UInt8}
  {opened : UploadError × ChunkSession}

theorem Retried.ok_iff (retried : Retried upload flash request payload opened) :
    opened.1 = .ok ∧ (typxWifiUploadChunkFinish upload opened.2).1 = .ok ↔
      Repeats upload flash request payload := by
  by_cases repeats : Repeats upload flash request payload
  · have outcome := retried.repeats repeats
    simp [outcome.1, outcome.2, repeats]
  · have outcome := retried.conflicts repeats
    simp [outcome.1, repeats]

theorem Retried.unchanged (retried : Retried upload flash request payload opened) :
    (typxWifiUploadChunkFinish upload opened.2).2 = upload := by
  by_cases repeats : Repeats upload flash request payload
  · rw [(retried.repeats repeats).2]
  · rw [(retried.conflicts repeats).2]

theorem Retried.closeSession (retried : Retried upload flash request payload opened)
    (dropped : Bool) :
    ((WifiUpload.closeSession upload dropped opened).1 = .ok ↔
        dropped = false ∧ Repeats upload flash request payload) ∧
      ((WifiUpload.closeSession upload dropped opened).1 ≠ .ok →
        (WifiUpload.closeSession upload dropped opened).1 = .chunkConflict ∨
          dropped = true) := by
  by_cases repeats : Repeats upload flash request payload
  · rcases retried.repeats repeats with ⟨ok, finished⟩
    cases dropped <;> simp [WifiUpload.closeSession, ok, finished, repeats]
  · have conflict := (retried.conflicts repeats).1
    simp [WifiUpload.closeSession, conflict, repeats]

end Outcome

theorem openSession_retried {flash : Contents}
    (assembled : Assembled upload flash) (admitted : Admitted upload request)
    (listed : upload.chunkLength request.sequence.toNat = request.length.toNat)
    {fragments : List (List UInt8)}
    (nonempty : ∀ fragment ∈ fragments, fragment ≠ [])
    (whole : fragments.flatten.length = request.length.toNat) (before : World)
    (here : before.flash = flash) :
    Program.Ensures (stagingStorage hash) (openSession upload request fragments)
      before fun trace opened after => after = before ∧ (¬Faulted Failed trace →
        Retried upload flash request fragments.flatten opened) := by
  subst here
  refine (openSession_listed admitted listed nonempty whole before).mono ?_
  intro trace opened after holds
  rcases holds with ⟨unchanged, outcome⟩
  refine ⟨unchanged, fun clean => ?_⟩
  rcases outcome clean with ⟨same, repeats⟩ | ⟨conflict, differs⟩
  · have stored : upload.chunkLength request.sequence.toNat ≠ 0 := by
      rw [listed]
      exact Nat.ne_of_gt admitted.positive
    have delivered : Delivered upload request fragments.flatten := {
      toAdmitted := admitted
      whole := whole
      crc := by
        rw [repeats.1, repeats.2]
        exact (assembled.crc _ admitted.sequence stored).symm }
    have finished := @typxWifiUploadChunkFinish_accepted upload request true _
      delivered
    rw [same]
    exact {
      repeats := fun _ => ⟨rfl, Prod.ext finished.1 (finished.2 rfl)⟩
      conflicts := fun differs => absurd repeats differs }
  · exact {
      repeats := fun repeats => absurd repeats differs
      conflicts := fun _ =>
        ⟨conflict.1, typxWifiUploadChunkFinish_conflict conflict.2⟩ }

/-- A session for a stored chunk leaves the job and the storage alone, even
when a read fails. -/
theorem SessionOutcome.of_listed {flash after : Contents} {payload : List UInt8}
    {error : UploadError} {next : Upload}
    (outcome : SessionOutcome upload request payload flash error next after)
    (listed : upload.chunkLength request.sequence.toNat ≠ 0) :
    after = flash ∧ next = setError upload next.lastError := by
  cases outcome with
  | refused _ same confined =>
      refine ⟨confined.again (by simpa using listed), ?_⟩
      rcases same with same | same
      · rw [same]
        rfl
      · rw [same]
        rfl
  | repeated _ _ _ _ => exact ⟨rfl, rfl⟩
  | accepted _ empty _ _ => exact absurd empty listed

theorem bound_of_listed {index : Nat} (listed : upload.chunkLength index ≠ 0) :
    index < 128 := by
  by_contra outside
  apply listed
  rw [chunkLength_eq_zero_iff, getElem!_neg _ index outside]
  rfl

theorem Assembled.admits {flash : Contents} (assembled : Assembled upload flash)
    (receiving : upload.status = .receiving) {index : Nat}
    (listed : upload.chunkLength index ≠ 0)
    (jobId : request.jobId = upload.jobId)
    (sequence : request.sequence.toNat = index)
    (offset : request.offset.toNat = 4096 * index)
    (chunk : upload.chunkLength index = request.length.toNat) :
    Admitted upload request where
  sequence := by
    rw [sequence]
    exact bound_of_listed listed
  offset := by rw [offset, sequence, chunkStart]
  length := by
    rw [← chunk]
    exact assembled.sector (bound_of_listed listed)
  status := receiving
  job := jobId.symm
  size := by
    rw [← chunk, sequence]
    exact (assembled.length index (bound_of_listed listed)).resolve_left listed
  positive := by
    rw [← chunk]
    exact Nat.pos_of_ne_zero listed

/-- Sending a stored chunk again changes nothing, and succeeds exactly when it
is the same chunk. -/
theorem upload_retriesChunks {world : World} {events : List UploadEvent}
    {final : System World}
    (run : UploadRun (stagingStorage hash) (initial world) events final)
    (atomic : ∀ event ∈ events, event.op.Atomic)
    (receiving : final.upload.status = .receiving) {index : Nat}
    {payload : List UInt8}
    (listed : final.upload.chunkLength index ≠ 0)
    (accepted : AcceptedSession index events payload) {request : ChunkRequest}
    (jobId : request.jobId = final.upload.jobId)
    (sequence : request.sequence.toNat = index)
    (offset : request.offset.toNat = 4096 * index)
    (length : request.length.toNat = payload.length)
    {fragments : List (List UInt8)}
    (nonempty : ∀ fragment ∈ fragments, fragment ≠ [])
    (whole : fragments.flatten.length = payload.length) :
    (∀ trace opened after, Program.Exec (stagingStorage hash)
        (openSession final.upload request fragments) final.world trace opened
        after →
      ¬Faulted Failed trace →
      (opened.1 = .ok ∧
          (typxWifiUploadChunkFinish final.upload opened.2).1 = .ok ↔
        request.crc32 = final.upload.chunkCrc32[index]! ∧
          fragments.flatten = payload) ∧
      (¬(request.crc32 = final.upload.chunkCrc32[index]! ∧
          fragments.flatten = payload) →
        opened.1 = .chunkConflict ∧
          (typxWifiUploadChunkFinish final.upload opened.2).1 ≠ .ok) ∧
      after.flash = final.world.flash ∧
      (typxWifiUploadChunkFinish final.upload opened.2).2 = final.upload) ∧
    ∀ dropped trace error next after, Program.Exec (stagingStorage hash)
        (chunkSession final.upload request fragments dropped) final.world trace
        (error, next) after →
      (¬Faulted Failed trace →
        (error = .ok ↔ dropped = false ∧
          request.crc32 = final.upload.chunkCrc32[index]! ∧
          fragments.flatten = payload) ∧
        (error ≠ .ok → error = .chunkConflict ∨ dropped = true)) ∧
      after.flash = final.world.flash ∧
      next = setError final.upload next.lastError := by
  have staged := assembled_run run atomic
  have assembled := staged.still assembled_initial
  rcases accepted_of_listed staged (bound_of_listed listed)
    (chunkLength_of_cleared rfl index) listed with ⟨stored⟩
  have same : payload = storedChunk final.upload final.world.flash index :=
    accepted.unique stored
  have chunk : final.upload.chunkLength index = request.length.toNat := by
    rw [length, same, storedChunk, slice_length]
  have admitted : Admitted final.upload request :=
    assembled.admits receiving listed jobId sequence offset chunk
  have repeats : Repeats final.upload final.world.flash request
      fragments.flatten ↔ request.crc32 = final.upload.chunkCrc32[index]! ∧
        fragments.flatten = payload := by
    rw [Repeats, sequence, same]
  have retried : Program.Ensures (stagingStorage hash)
      (openSession final.upload request fragments) final.world
      fun trace opened after => after = final.world ∧ (¬Faulted Failed trace →
        Retried final.upload final.world.flash request fragments.flatten opened) :=
    openSession_retried assembled admitted (by rw [sequence]; exact chunk)
      nonempty (whole.trans length.symm) final.world rfl
  rw [← repeats]
  constructor
  · intro trace opened after execution clean
    rcases retried _ _ _ execution with ⟨unchanged, outcome⟩
    have outcome := outcome clean
    refine ⟨outcome.ok_iff, ?_, congrArg World.flash unchanged,
      outcome.unchanged⟩
    intro differs
    have conflicts := outcome.conflicts differs
    exact ⟨conflicts.1, by simp [conflicts.2]⟩
  · intro dropped trace error next after execution
    refine ⟨?_, ?_⟩
    · intro clean
      rw [chunkSession_eq] at execution
      rcases Program.exec_bind_iff.mp execution with
        ⟨first, opened, middle, second, opens, closes, split⟩
      rcases Program.exec_done_iff.mp closes with ⟨none, answer, _⟩
      rw [split, none, List.append_nil] at clean
      have closed := ((retried _ _ _ opens).2 clean).closeSession dropped
      rw [← answer] at closed
      exact closed
    · exact (chunkSession_ensures _ _ _ _ _ _ _ _ execution).2.of_listed
        (by rw [sequence]; exact listed)

end Retries

def letterSent : List UploadEvent × System World :=
  reliableRun (fun _ => letterDigest) (initial blankWorld) (letterUpload.take 2)

theorem letterSent_events : ∃ begins sends, letterSent.1 = [begins, sends] ∧
    begins.op = .begin letterJob 224 letterDigest ∧
    begins.before = typxWifiUploadInit ∧ ¬Faulted Failed begins.trace ∧
    begins.result = .ok ∧ sends.op = .session
      ⟨letterJob, 0, 0, 224, typxWifiUploadCrc32 letterSchedule⟩
      [letterSchedule.take 100, letterSchedule.drop 100] false ∧
    sends.result = .ok := by
  have clean := (reliableAnswer_exec (fun _ => letterDigest)
    (typxWifiUploadBegin typxWifiUploadInit letterJob 224 letterDigest)
    blankWorld).2
  exact ⟨_, _, rfl, rfl, rfl, clean, by decide +kernel, rfl, by decide +kernel⟩

theorem letterSent_run :
    UploadRun (stagingStorage fun _ => letterDigest) (initial blankWorld)
      letterSent.1 letterSent.2 :=
  reliableRun_run _ _ _

theorem letterSent_atomic : ∀ event ∈ letterSent.1, event.op.Atomic := by
  apply reliableRun_atomic
  simp [letterUpload, UploadOp.Atomic]

theorem letterSent_listed : letterSent.2.upload.status = .receiving ∧
    letterSent.2.upload.chunkLength 0 = 224 ∧ letterSchedule.length = 224 := by
  decide +kernel

theorem upload_retriesChunks_letter : ∃ trace error next after,
    Program.Exec (stagingStorage fun _ => letterDigest)
        (chunkSession letterSent.2.upload ⟨letterJob, 0, 0, 224, 0⟩
          [letterSchedule] false)
        letterSent.2.world trace (error, next) after ∧
      after.flash = letterSent.2.world.flash ∧
      next = setError letterSent.2.upload next.lastError := by
  rcases letterSent_listed with ⟨receiving, length, whole⟩
  have listed : letterSent.2.upload.chunkLength 0 ≠ 0 := by simp [length]
  have staged := assembled_run letterSent_run letterSent_atomic
  rcases accepted_of_listed staged (by decide) (chunkLength_of_cleared rfl 0)
    listed with ⟨accepted⟩
  have execution := (reliableAnswer_exec (fun _ => letterDigest)
    (chunkSession letterSent.2.upload ⟨letterJob, 0, 0, 224, 0⟩ [letterSchedule]
      false) letterSent.2.world).1
  generalize Program.run _ _ _ = outcome at execution
  rcases outcome with ⟨trace, ⟨error, next⟩, after⟩
  have jobId : (⟨letterJob, 0, 0, 224, 0⟩ : ChunkRequest).jobId =
      letterSent.2.upload.jobId := by
    decide +kernel
  have nonempty : ∀ fragment ∈ [letterSchedule], fragment ≠ [] := by
    simp [← List.length_pos_iff, whole]
  have retried := upload_retriesChunks letterSent_run letterSent_atomic receiving
    listed accepted jobId rfl rfl
    (by rw [storedChunk, slice_length, length]; rfl) nonempty
    (by simp [storedChunk, length, whole])
  exact ⟨trace, error, next, after, execution,
    (retried.2 _ _ _ _ _ execution).2⟩

/-! ## Begins -/

structure Idempotent (upload : Upload) (flash : Contents) (error : UploadError)
    (next : Upload) (after : Contents) : Prop where
  result : error = .ok
  receivedBytes : next.receivedBytes = upload.receivedBytes
  chunkLengths : next.chunkLengths = upload.chunkLengths
  chunkCrc32 : next.chunkCrc32 = upload.chunkCrc32
  chunks : ∀ index < 128, upload.chunkLength index ≠ 0 →
    storedChunk next after index = storedChunk upload flash index

section Begins

variable {hash : List UInt8 → Vector UInt8 32} {upload next : Upload}
  {flash after : Contents} {error : UploadError}

def Fresh (upload : Upload) : Prop :=
  (∀ index < 128, upload.chunkLength index = 0) →
    upload.receivedBytes = 0 ∧
      upload.chunkLengths = Vector.replicate 128 0 ∧
      upload.chunkCrc32 = Vector.replicate 128 0

theorem SameTables.fresh (same : SameTables upload next) (fresh : Fresh upload) :
    Fresh next := by
  intro empty
  rw [same.receivedBytes, same.chunkLengths, same.chunkCrc32]
  apply fresh
  intro index bound
  rw [← same.chunkLength]
  exact empty index bound

theorem SessionOutcome.fresh {request : ChunkRequest} {payload : List UInt8}
    (outcome : SessionOutcome upload request payload flash error next after)
    (fresh : Fresh upload) : Fresh next := by
  cases outcome with
  | refused _ same _ => exact (sameTables_of_refused same).fresh fresh
  | repeated _ _ _ _ => exact fresh
  | accepted delivered _ _ _ =>
      intro empty
      have own := empty _ delivered.sequence
      rw [acceptChunk_chunkLength _ _ delivered.small delivered.sequence,
        if_pos rfl, delivered.whole] at own
      exact absurd own (Nat.ne_of_gt delivered.positive)

theorem sessions_fresh {before final : System World} {events : List UploadEvent}
    (run : Run (StagingStep hash) before events final)
    (sessions : ∀ event ∈ events, event.IsSession)
    (fresh : Fresh before.upload) : Fresh final.upload := by
  refine run.invariant (fun system => Fresh system.upload) UploadEvent.IsSession
    ?_ sessions fresh
  intro here event next isSession holds step
  rcases isSession with ⟨request, fragments, dropped, op⟩
  have execution := step.taken.2.2
  rw [op] at execution
  exact (chunkSession_ensures _ _ _ _ _ _ _ _ execution).2.fresh holds

theorem Moves.beginning {jobId : Vector UInt8 16} {size : UInt32}
    {digest : Vector UInt8 32}
    (moves : Moves upload (.begin jobId size digest) .ok next) :
    Beginnable jobId size digest ∧ next = WifiUpload.begun jobId size digest := by
  cases moves with
  | kept advances _ => exact absurd rfl (advances rfl)
  | begun beginnable _ => exact ⟨beginnable, rfl⟩

theorem begun_fresh (jobId : Vector UInt8 16) (size : UInt32)
    (digest : Vector UInt8 32) : Fresh (begun jobId size digest) :=
  fun _ => ⟨rfl, rfl, rfl⟩

/-- A second begin starts over: it is harmless exactly as long as there is
nothing to lose, and when its erase succeeds. -/
theorem upload_repeatsBegin {world : World} {prior sessions : List UploadEvent}
    {begins : UploadEvent} {final : System World} {jobId : Vector UInt8 16}
    {size : UInt32} {digest : Vector UInt8 32}
    (run : UploadRun (stagingStorage hash) (initial world)
      (prior ++ begins :: sessions) final)
    (atomic : ∀ event ∈ prior, event.op.Atomic)
    (op : begins.op = .begin jobId size digest) (result : begins.result = .ok)
    (isSession : ∀ event ∈ sessions, event.IsSession) :
    final.upload.status = .receiving ∧
    ∀ trace error next after, Program.Exec (stagingStorage hash)
        (typxWifiUploadBegin final.upload jobId size digest) final.world trace
        (error, next) after →
      (Idempotent final.upload final.world.flash error next after.flash ↔
        (∀ index < 128, final.upload.chunkLength index = 0) ∧
          ¬Faulted Failed trace) := by
  have all := history_atomic atomic op isSession
  rcases run_middle_iff.mp (assembled_run run all) with
    ⟨here, began, _, step, rest⟩
  have moves := step.taken.moves
  rw [op, result] at moves
  rcases moves.beginning with ⟨beginnable, fresh⟩
  have receiving : final.upload.status = .receiving :=
    (sessions_sameJob rest isSession).status.trans (by rw [fresh]; rfl)
  have unlocked : typxWifiUploadJobLocked final.upload = false := by
    simp [typxWifiUploadJobLocked, receiving]
  have untouched : Fresh final.upload :=
    sessions_fresh rest isSession (fresh ▸ begun_fresh jobId size digest)
  refine ⟨receiving, ?_⟩
  intro trace error next after execution
  have outcome :=
    typxWifiUploadBegin_outcome beginnable unlocked _ _ _ execution
  constructor
  · intro idempotent
    rcases outcome with ⟨clean, answered⟩ | ⟨_, failed⟩
    · refine ⟨fun index _ => ?_, clean⟩
      rw [Prod.mk.injEq] at answered
      have lengths := idempotent.chunkLengths
      rw [answered.2] at lengths
      exact chunkLength_of_cleared lengths.symm index
    · exact absurd (idempotent.result.symm.trans failed) (by simp)
  · intro condition
    rcases condition with ⟨empty, clean⟩
    rcases outcome with ⟨_, answered⟩ | ⟨faulted, _⟩
    · rw [Prod.mk.injEq] at answered
      rcases untouched empty with ⟨received, lengths, crcs⟩
      rw [answered.1, answered.2]
      exact {
        result := rfl
        receivedBytes := received.symm
        chunkLengths := lengths.symm
        chunkCrc32 := crcs.symm
        chunks := fun index bound listed => absurd (empty index bound) listed }
    · exact absurd faulted clean

end Begins

def letterBegunAgain : Trace × (UploadError × Upload) × World :=
  (typxWifiUploadBegin letterSent.2.upload letterJob 224 letterDigest).run
    (reliableAnswer fun _ => letterDigest) letterSent.2.world

theorem letterBegunAgain_loses : letterBegunAgain.2.1.1 = .ok ∧
    letterSent.2.upload.receivedBytes = 224 ∧
    letterBegunAgain.2.1.2.receivedBytes = 0 ∧
    slice letterSent.2.world.flash 0 224 = letterSchedule ∧
    slice letterBegunAgain.2.2.flash 0 224 = List.replicate 224 0xff := by
  decide +kernel

/-- Nothing failed, and the accepted chunk is gone. -/
theorem upload_repeatsBegin_loses : ∃ begins sends,
    UploadRun (stagingStorage fun _ => letterDigest) (initial blankWorld)
        [begins, sends] letterSent.2 ∧
      begins.op = .begin letterJob 224 letterDigest ∧ sends.IsSession ∧
      letterSent.2.upload.status = .receiving ∧
      Program.Exec (stagingStorage fun _ => letterDigest)
        (typxWifiUploadBegin letterSent.2.upload letterJob 224 letterDigest)
        letterSent.2.world letterBegunAgain.1 letterBegunAgain.2.1
        letterBegunAgain.2.2 ∧
      ¬Faulted Failed letterBegunAgain.1 ∧
      ¬Idempotent letterSent.2.upload letterSent.2.world.flash
        letterBegunAgain.2.1.1 letterBegunAgain.2.1.2
        letterBegunAgain.2.2.flash := by
  rcases letterSent_events with ⟨begins, sends, events, op, _, _, _, sent, _⟩
  have run := letterSent_run
  rw [events] at run
  have execution := reliableAnswer_exec (fun _ => letterDigest)
    (typxWifiUploadBegin letterSent.2.upload letterJob 224 letterDigest)
    letterSent.2.world
  refine ⟨begins, sends, run, op, ⟨_, _, _, sent⟩, letterSent_listed.1,
    execution.1, execution.2, ?_⟩
  intro idempotent
  have received := idempotent.receivedBytes
  rcases letterBegunAgain_loses with ⟨_, before, after, _⟩
  rw [before, after] at received
  cases received

theorem upload_repeatsBegin_letter :
    Idempotent letterSent.2.upload letterSent.2.world.flash
        letterBegunAgain.2.1.1 letterBegunAgain.2.1.2
        letterBegunAgain.2.2.flash ↔
      (∀ index < 128, letterSent.2.upload.chunkLength index = 0) ∧
        ¬Faulted Failed letterBegunAgain.1 := by
  rcases letterSent_events with
    ⟨begins, sends, events, op, _, _, began, sent, _⟩
  have run := letterSent_run
  rw [events] at run
  have execution := reliableAnswer_exec (fun _ => letterDigest)
    (typxWifiUploadBegin letterSent.2.upload letterJob 224 letterDigest)
    letterSent.2.world
  have none : ∀ event ∈ ([] : List UploadEvent), event.op.Atomic := by simp
  refine (upload_repeatsBegin run none op began ?_).2 _ _ _ _ execution.1
  intro event member
  rw [List.mem_singleton.mp member]
  exact ⟨_, _, _, sent⟩

end Typxen.WifiUpload
