import Mathlib.Algebra.BigOperators.Intervals
import Typxen.WifiUpload.Storage

/-! # Chunk sessions on flash

What one chunk session can do to the tables and to the storage. A session
either changes nothing but its own sector, or finds its chunk stored already,
or has just programmed it over an erased sector. -/

namespace Typxen.WifiUpload

open Interaction NorFlash

def chunkStart (index : Nat) : Nat := 4096 * index

def chunkSize (size index : Nat) : Nat := min 4096 (size - chunkStart index)

def Upload.chunkLength (upload : Upload) (index : Nat) : Nat :=
  upload.chunkLengths[index]!.toNat

@[simp] theorem chunkLength_eq_zero_iff {upload : Upload} {index : Nat} :
    upload.chunkLength index = 0 ↔ upload.chunkLengths[index]! = 0 :=
  UInt16.toNat_inj (b := 0)

def Inside (low high : Nat) : Callback → Prop
  | .eraseRange offset length => low ≤ offset.toNat ∧ offset.toNat + length ≤ high
  | .write offset data =>
      low ≤ offset.toNat ∧ offset.toNat + data.length ≤ high
  | .read offset length => low ≤ offset.toNat ∧ offset.toNat + length ≤ high
  | _ => False

def InSector (sequence : Nat) (call : Callback) : Prop :=
  sequence < 128 ∧ Inside (chunkStart sequence) (chunkStart sequence + 4096) call

theorem Inside.mono {low high start finish : Nat} {call : Callback}
    (inside : Inside start finish call) (lower : low ≤ start)
    (upper : finish ≤ high) : Inside low high call := by
  cases call <;> simp only [Inside] at inside ⊢
  all_goals omega

section Sessions

variable {hash : List UInt8 → Vector UInt8 32}

/-! ## Comparing with the storage -/

theorem compareStored_ensures (offset : UInt32) (data : List UInt8)
    (before : World) (fits : offset.toNat + data.length < 2 ^ 32) :
    Program.Ensures (stagingStorage hash) (compareStored offset data) before
      fun trace result after => after = before ∧
        (∀ event ∈ trace,
          Inside offset.toNat (offset.toNat + data.length) event.call) ∧
        (result = .ok ∧
            slice before.flash offset.toNat data.length = data ∨
          result = .chunkConflict ∧
            slice before.flash offset.toNat data.length ≠ data ∨
          result = .storageFailure ∧ Faulted Failed trace) := by
  obtain ⟨remaining, bound⟩ : ∃ remaining, data.length ≤ remaining :=
    ⟨data.length, le_rfl⟩
  induction remaining generalizing offset data with
  | zero =>
      have empty : data = [] := List.eq_nil_of_length_eq_zero (by omega)
      rw [compareStored, dif_neg (by simp [empty])]
      simp [empty]
  | succ remaining induction =>
      rw [compareStored]
      by_cases more : data.length > 0
      case neg =>
        have empty : data = [] := List.eq_nil_of_length_eq_zero (by omega)
        rw [dif_neg more]
        simp [empty]
      rw [dif_pos more]
      have chunkLe : min data.length 256 ≤ data.length := Nat.min_le_left _ _
      have advanced : (offset + UInt32.ofNat (min data.length 256)).toNat =
          offset.toNat + min data.length 256 := by
        rw [UInt32.toNat_add, UInt32.toNat_ofNat']
        omega
      have touched : Inside offset.toNat (offset.toNat + data.length)
          (.read offset (min data.length 256)) := by
        simp only [Inside]
        omega
      simp only [Storage.read_bind, Program.ensures_ask]
      intro answer middle step
      rcases step with ⟨kept, none | some⟩
      · rw [kept, none]
        simp [touched, Failed, Event.succeeded]
      rw [kept, some]
      simp only [buffer_toList, bne_iff_ne, ne_eq, ite_not]
      by_cases same : slice before.flash offset.toNat (min data.length 256) =
          data.take (min data.length 256)
      · have rest := induction (offset + UInt32.ofNat (min data.length 256))
          (data.drop (min data.length 256))
          (by rw [advanced, List.length_drop]; omega)
          (by rw [List.length_drop]; omega)
        rw [advanced, List.length_drop] at rest
        rw [if_pos same]
        refine rest.mono ?_
        intro trace result after holds
        rcases holds with ⟨unchanged, calls, outcome⟩
        refine ⟨unchanged, ?_, ?_⟩
        · rw [List.forall_mem_cons]
          refine ⟨touched, ?_⟩
          intro event member
          exact (calls event member).mono (by omega) (by omega)
        · rw [slice_eq_iff_split chunkLe, same]
          simpa [Failed, Event.succeeded] using outcome
      · rw [if_neg same]
        simp only [Program.pure_eq_done, Program.ensures_done,
          List.forall_mem_cons]
        refine ⟨trivial, ⟨touched, by simp⟩, .inr (.inl ⟨trivial, ?_⟩)⟩
        intro equal
        exact same ((slice_eq_iff_split chunkLe).mp equal).1

/-! ## Writing fragments -/

def sessionAt (request : ChunkRequest) (repeated : Bool)
    (written : List UInt8) : ChunkSession where
  sequence := request.sequence
  offset := request.offset
  length := request.length
  expectedCrc32 := request.crc32
  runningCrc32 := crc32Update 0xffffffff written
  received := UInt32.ofNat written.length
  repeated := repeated
  conflict := false

structure WellPlaced (request : ChunkRequest) : Prop where
  sequence : request.sequence.toNat < 128
  offset : request.offset.toNat = chunkStart request.sequence.toNat
  length : request.length.toNat ≤ 4096

/-- What a session can have changed by any point: its own sector, and that
only when the chunk is not stored yet. -/
structure Confined (sequence : Nat) (repeated : Bool)
    (start now : Contents) : Prop where
  elsewhere : Elsewhere start now (chunkStart sequence) 4096
  again : repeated = true → now = start

structure Writing (request : ChunkRequest) (repeated : Bool)
    (start now : Contents) (written : List UInt8) : Prop
    extends Confined request.sequence.toNat repeated start now where
  fits : written.length ≤ request.length.toNat
  stored : slice now (chunkStart request.sequence.toNat) written.length = written
  fresh : repeated = false →
    Erased now (chunkStart request.sequence.toNat + written.length)
      (4096 - written.length)

theorem Confined.refl {sequence : Nat} {repeated : Bool} {start : Contents} :
    Confined sequence repeated start start :=
  ⟨.refl, fun _ => rfl⟩

variable {request : ChunkRequest} {repeated : Bool} {start : Contents}
  {written : List UInt8}

theorem Writing.program {now after : Contents} {data : List UInt8}
    (placed : WellPlaced request)
    (writing : Writing request false start now written)
    (room : written.length + data.length ≤ request.length.toNat)
    (programmed : after = NorFlash.program now
      (chunkStart request.sequence.toNat + written.length) data) :
    Writing request false start after (written ++ data) := by
  have length := placed.length
  have erased := writing.fresh rfl
  have elsewhere : Elsewhere now after
      (chunkStart request.sequence.toNat + written.length) data.length := by
    rw [programmed]
    exact program_elsewhere
  refine {
    elsewhere := writing.elsewhere.trans (elsewhere.mono (by omega) (by omega))
    again := fun impossible => Bool.noConfusion impossible
    fits := by rw [List.length_append]; exact room
    stored := ?_
    fresh := fun _ => ?_ }
  · rw [List.length_append, slice_append,
      elsewhere.slice_eq (.inl (Nat.le_refl _)), writing.stored, programmed,
      (erased.mono (Nat.le_refl _) (by omega)).program_slice]
  · rw [List.length_append]
    exact (erased.mono (by omega) (by omega)).of_elsewhere elsewhere
      (.inr (by omega))

theorem Writing.compare {now : Contents} {data : List UInt8}
    (writing : Writing request true start now written)
    (room : written.length + data.length ≤ request.length.toNat)
    (same : slice now (chunkStart request.sequence.toNat + written.length)
      data.length = data) :
    Writing request true start now (written ++ data) where
  elsewhere := writing.elsewhere
  again := writing.again
  fits := by rw [List.length_append]; exact room
  stored := by rw [List.length_append, slice_append, writing.stored, same]
  fresh := fun impossible => Bool.noConfusion impossible

theorem received_toNat (small : request.length.toNat ≤ 4096)
    (fits : written.length ≤ request.length.toNat) :
    (UInt32.ofNat written.length).toNat = written.length := by
  rw [UInt32.toNat_ofNat']
  omega

theorem left_toNat (small : request.length.toNat ≤ 4096)
    (fits : written.length ≤ request.length.toNat) :
    (request.length - UInt32.ofNat written.length).toNat =
      request.length.toNat - written.length := by
  have received := received_toNat small fits
  rw [UInt32.toNat_sub_of_le, received]
  rw [UInt32.le_iff_toNat_le, received]
  exact fits

theorem position_toNat (placed : WellPlaced request)
    (fits : written.length ≤ request.length.toNat) :
    (request.offset + UInt32.ofNat written.length).toNat =
      chunkStart request.sequence.toNat + written.length := by
  have sequence := placed.sequence
  have offset := placed.offset
  have length := placed.length
  simp only [chunkStart] at offset ⊢
  rw [UInt32.toNat_add, received_toNat length fits, offset]
  omega

/-- One fragment: taken whole, or refused within the session's bounds. -/
theorem typxWifiUploadChunkWrite_ensures (placed : WellPlaced request)
    (data : List UInt8) (before : World)
    (writing : Writing request repeated start before.flash written) :
    Program.Ensures (stagingStorage hash)
      (typxWifiUploadChunkWrite (sessionAt request repeated written) data) before
      fun trace outcome after =>
        (∀ event ∈ trace, InSector request.sequence.toNat event.call) ∧
          Confined request.sequence.toNat repeated start after.flash ∧
          (outcome.1 = .ok →
            outcome.2 = sessionAt request repeated (written ++ data) ∧
              Writing request repeated start after.flash (written ++ data)) := by
  have fits := writing.fits
  have length := placed.length
  have sequence := placed.sequence
  have left := left_toNat length fits
  have position := position_toNat placed fits
  rw [typxWifiUploadChunkWrite]
  split
  case isTrue => simp [writing.toConfined]
  rename_i accepted
  have room : written.length + data.length ≤ request.length.toNat := by
    simp only [sessionAt, Bool.or_eq_true, decide_eq_true_eq, beq_iff_eq,
      Bool.false_eq_true, or_false, not_or, left] at accepted
    omega
  cases repeated with
  | true =>
      simp only [sessionAt, if_true]
      refine (compareStored_ensures _ data before (by
        rw [position]
        simp only [chunkStart]
        omega)).bind ?_
      intro first result middle outcome
      rcases outcome with ⟨unchanged, calls, outcome⟩
      rw [position] at calls outcome
      have inSector : ∀ event ∈ first,
          InSector request.sequence.toNat event.call := fun event member =>
        ⟨sequence, (calls event member).mono (by omega) (by omega)⟩
      rw [unchanged]
      rcases outcome with ⟨result, same⟩ | ⟨result, _⟩ | ⟨result, _⟩
      · rw [result]
        have compared := writing.compare room same
        simpa [writing.toConfined, sessionAt, crc32Update_append]
          using And.intro inSector compared
      · rw [result]
        simpa [writing.toConfined] using inSector
      · rw [result]
        simpa [writing.toConfined] using inSector
  | false =>
      simp only [sessionAt, Bool.false_eq_true, if_false, Storage.write_bind,
        Program.ensures_ask]
      intro answer after step
      rcases step with ⟨_, elsewhere, programmed⟩
      rw [position] at elsewhere programmed
      have touched : InSector request.sequence.toNat
          (.write (request.offset + UInt32.ofNat written.length) data) := by
        refine ⟨sequence, ?_⟩
        simp only [Inside, position]
        omega
      cases answer with
      | false =>
          have confined : Confined request.sequence.toNat false start
              after.flash := {
            elsewhere := writing.elsewhere.trans
              (elsewhere.mono (by omega) (by omega))
            again := fun impossible => Bool.noConfusion impossible }
          simp [touched, confined]
      | true =>
          have writes := writing.program placed room (programmed rfl)
          simp [touched, writes, writes.toConfined, crc32Update_append]

theorem writeFragments_ensures (placed : WellPlaced request)
    (fragments : List (List UInt8)) (before : World)
    (writing : Writing request repeated start before.flash written) :
    Program.Ensures (stagingStorage hash)
      (writeFragments (sessionAt request repeated written) fragments) before
      fun trace outcome after =>
        (∀ event ∈ trace, InSector request.sequence.toNat event.call) ∧
          Confined request.sequence.toNat repeated start after.flash ∧
          (outcome.1 = .ok →
            outcome.2 =
                sessionAt request repeated (written ++ fragments.flatten) ∧
              Writing request repeated start after.flash
                (written ++ fragments.flatten)) := by
  induction fragments generalizing written before with
  | nil => simpa [writeFragments] using And.intro writing.toConfined writing
  | cons fragment rest induction =>
      rw [writeFragments]
      refine (typxWifiUploadChunkWrite_ensures placed fragment before
        writing).bind ?_
      intro first outcome middle holds
      rcases outcome with ⟨error, session⟩
      rcases holds with ⟨calls, confined, taken⟩
      by_cases accepted : error = .ok
      · rcases taken accepted with ⟨same, writing⟩
        rw [accepted, show session = _ from same]
        simp only [bne_self_eq_false, Bool.false_eq_true, if_false]
        refine (induction middle writing).mono ?_
        intro second outcome after holds
        rcases holds with ⟨laterCalls, laterConfined, laterTaken⟩
        rw [List.flatten_cons, ← List.append_assoc]
        exact ⟨List.forall_mem_append.mpr ⟨calls, laterCalls⟩, laterConfined,
          laterTaken⟩
      · simp only [bne_iff_ne, ne_eq, accepted, not_false_eq_true, if_true,
          Program.pure_eq_done, Program.ensures_done, List.append_nil]
        exact ⟨calls, confined, fun impossible => impossible.elim⟩

/-! ## Whole sessions -/

def acceptChunk (upload : Upload) (sequence : Nat) (payload : List UInt8) :
    Upload :=
  { upload with
    chunkLengths := upload.chunkLengths.set! sequence
      (UInt16.ofNat payload.length)
    chunkCrc32 := upload.chunkCrc32.set! sequence (typxWifiUploadCrc32 payload)
    receivedBytes := upload.receivedBytes + UInt32.ofNat payload.length }

structure Admitted (upload : Upload) (request : ChunkRequest) : Prop
    extends WellPlaced request where
  status : upload.status = .receiving
  job : upload.jobId = request.jobId
  size : request.length.toNat =
    chunkSize upload.expectedSize.toNat request.sequence.toNat
  positive : 0 < request.length.toNat

structure Delivered (upload : Upload) (request : ChunkRequest)
    (payload : List UInt8) : Prop extends Admitted upload request where
  whole : payload.length = request.length.toNat
  crc : request.crc32 = typxWifiUploadCrc32 payload

inductive SessionOutcome (upload : Upload) (request : ChunkRequest)
    (payload : List UInt8) (before : Contents) :
    UploadError → Upload → Contents → Prop
  /-- It did not succeed, and disturbed at most the sector of a chunk that is
  not stored. -/
  | refused {error : UploadError} {next : Upload} {after : Contents} :
      error ≠ .ok →
      next = upload ∨ next = setError upload .chunkCrcMismatch →
      Confined request.sequence.toNat
        (upload.chunkLength request.sequence.toNat ≠ 0) before after →
      SessionOutcome upload request payload before error next after
  /-- The chunk was stored already, with this payload. -/
  | repeated : Delivered upload request payload →
      upload.chunkLength request.sequence.toNat = payload.length →
      upload.chunkCrc32[request.sequence.toNat]! = request.crc32 →
      slice before (chunkStart request.sequence.toNat) payload.length = payload →
      SessionOutcome upload request payload before .ok upload before
  /-- The chunk is now stored with this payload. -/
  | accepted {after : Contents} : Delivered upload request payload →
      upload.chunkLength request.sequence.toNat = 0 →
      Elsewhere before after (chunkStart request.sequence.toNat) 4096 →
      slice after (chunkStart request.sequence.toNat) payload.length = payload →
      SessionOutcome upload request payload before .ok
        (acceptChunk upload request.sequence.toNat payload) after

theorem expectedLength_toNat {upload : Upload} {offset : UInt32}
    (within : offset < upload.expectedSize) :
    (expectedLength upload offset).toNat =
      min 4096 (upload.expectedSize.toNat - offset.toNat) := by
  have left : (upload.expectedSize - offset).toNat =
      upload.expectedSize.toNat - offset.toNat :=
    UInt32.toNat_sub_of_le _ _ (UInt32.le_of_lt within)
  rw [expectedLength]
  simp only [gt_iff_lt, UInt32.lt_iff_toNat_lt, left, chunkBytes,
    UInt32.reduceToNat]
  split
  · simp only [UInt32.reduceToNat]
    omega
  · rw [left]
    omega

theorem admitted_of_checks {upload : Upload} {request : ChunkRequest}
    (receiving : ¬(upload.status != .receiving) = true)
    (same : ¬(!sameJob upload request.jobId) = true)
    (placed : ¬(decide (request.sequence ≥ maxChunks) ||
      request.offset != request.sequence * chunkBytes ||
      decide (request.offset ≥ upload.expectedSize)) = true)
    (sized : ¬(request.length == 0 ||
      request.length != expectedLength upload request.offset) = true) :
    Admitted upload request := by
  simp only [Bool.or_eq_true, decide_eq_true_eq, bne_iff_ne, ne_eq, not_or,
    not_not, ge_iff_le, UInt32.not_le, beq_iff_eq] at receiving placed sized
  rcases placed with ⟨⟨sequence, offset⟩, within⟩
  have bound : request.sequence.toNat < 128 := by
    rw [UInt32.lt_iff_toNat_lt] at sequence
    exact sequence
  have position : request.offset.toNat = chunkStart request.sequence.toNat := by
    rw [offset, UInt32.toNat_mul, chunkStart]
    simp only [chunkBytes, UInt32.reduceToNat]
    omega
  have size : request.length.toNat =
      chunkSize upload.expectedSize.toNat request.sequence.toNat := by
    rw [sized.2, expectedLength_toNat within, position, chunkSize]
  exact {
    sequence := bound
    offset := position
    length := by
      rw [size, chunkSize]
      omega
    status := receiving
    job := by simpa [sameJob] using same
    size := size
    positive := by
      rw [Nat.pos_iff_ne_zero]
      exact fun zero => sized.1 (UInt32.toNat_inj.mp zero) }

theorem checks_of_admitted {upload : Upload} {request : ChunkRequest}
    (admitted : Admitted upload request) :
    (upload.status != .receiving) = false ∧
      (!sameJob upload request.jobId) = false ∧
      (decide (request.sequence ≥ maxChunks) ||
        request.offset != request.sequence * chunkBytes ||
        decide (request.offset ≥ upload.expectedSize)) = false ∧
      (request.length == 0 ||
        request.length != expectedLength upload request.offset) = false := by
  have sequence := admitted.sequence
  have offset := admitted.offset
  have size := admitted.size
  have positive := admitted.positive
  rw [chunkSize, ← offset] at size
  have within : request.offset < upload.expectedSize := by
    rw [UInt32.lt_iff_toNat_lt]
    omega
  have few : request.sequence < maxChunks := by
    rw [UInt32.lt_iff_toNat_lt]
    exact sequence
  have position : request.offset = request.sequence * chunkBytes := by
    rw [← UInt32.toNat_inj, offset, UInt32.toNat_mul, chunkStart]
    simp only [chunkBytes, UInt32.reduceToNat]
    omega
  have length : request.length = expectedLength upload request.offset := by
    rw [← UInt32.toNat_inj, expectedLength_toNat within, size]
  have some : request.length ≠ 0 := by
    intro zero
    rw [zero] at positive
    exact Nat.lt_irrefl 0 positive
  refine ⟨by simp [admitted.status], by simp [sameJob, admitted.job], ?_, ?_⟩
  · simp only [Bool.or_eq_false_iff, decide_eq_false_iff_not, ge_iff_le,
      UInt32.not_le, bne_eq_false_iff_eq]
    exact ⟨⟨few, position⟩, within⟩
  · simp only [Bool.or_eq_false_iff, beq_eq_false_iff_ne, bne_eq_false_iff_eq]
    exact ⟨some, length⟩

/-- Opening a session: the sector of a chunk that is not stored is erased. -/
theorem typxWifiUploadChunkBegin_ensures (upload : Upload)
    (request : ChunkRequest) (before : World) :
    Program.Ensures (stagingStorage hash)
      (typxWifiUploadChunkBegin upload ChunkSession.zero request.jobId
        request.sequence request.offset request.length request.crc32) before
      fun trace outcome after =>
        (∀ event ∈ trace, InSector request.sequence.toNat event.call) ∧
          Confined request.sequence.toNat
            (upload.chunkLength request.sequence.toNat ≠ 0)
            before.flash after.flash ∧
          (outcome.1 = .ok →
            Admitted upload request ∧
              outcome.2 = sessionAt request
                (upload.chunkLength request.sequence.toNat ≠ 0) [] ∧
              Writing request (upload.chunkLength request.sequence.toNat ≠ 0)
                before.flash after.flash [] ∧
              (upload.chunkLength request.sequence.toNat ≠ 0 →
                upload.chunkLength request.sequence.toNat =
                    request.length.toNat ∧
                  upload.chunkCrc32[request.sequence.toNat]! =
                    request.crc32)) := by
  rw [typxWifiUploadChunkBegin]
  split
  case isTrue => simp [Confined.refl]
  rename_i receiving
  split
  case isTrue => simp [Confined.refl]
  rename_i same
  split
  case isTrue => simp [Confined.refl]
  rename_i placed
  split
  case isTrue => simp [Confined.refl]
  rename_i sized
  have admitted := admitted_of_checks receiving same placed sized
  have bound := admitted.sequence
  have position := admitted.offset
  have opened (repeated : Bool) (now : Contents)
      (confined : Confined request.sequence.toNat repeated before.flash now)
      (fresh : repeated = false →
        Erased now (chunkStart request.sequence.toNat) 4096) :
      Writing request repeated before.flash now [] := {
    toConfined := confined
    fits := Nat.zero_le _
    stored := rfl
    fresh := fresh }
  by_cases unstored : upload.chunkLengths[request.sequence.toNat]! = 0
  · have empty : upload.chunkLength request.sequence.toNat = 0 := by
      rw [Upload.chunkLength, unstored]
      rfl
    simp only [unstored, empty, bne_self_eq_false, Bool.false_and,
      Bool.false_eq_true, if_false, Storage.eraseRange_bind,
      Program.ensures_ask, ne_eq, not_true_eq_false, decide_false]
    intro answer after step
    rcases step with ⟨_, elsewhere, erases⟩
    rw [position] at elsewhere erases
    have touched : InSector request.sequence.toNat
        (.eraseRange request.offset 4096) := by
      refine ⟨bound, ?_⟩
      simp only [Inside, position]
      omega
    have confined : Confined request.sequence.toNat false before.flash
        after.flash :=
      ⟨elsewhere, fun impossible => Bool.noConfusion impossible⟩
    cases answer with
    | false => simp [touched, confined]
    | true =>
        have erased : Erased after.flash
            (chunkStart request.sequence.toNat) 4096 := by
          rw [erases rfl]
          exact erase_erased
        have writing := opened false after.flash confined fun _ => erased
        simp [touched, confined, admitted, writing, sessionAt, crc32Update]
  · have stored : upload.chunkLength request.sequence.toNat ≠ 0 := by
      intro zero
      exact unstored (UInt16.toNat_inj.mp zero)
    have writing := opened true before.flash .refl
      fun impossible => Bool.noConfusion impossible
    have repeated : (upload.chunkLengths[request.sequence.toNat]! != 0) =
        true := by
      simp [unstored]
    simp only [ne_eq, stored, not_false_eq_true, decide_true, repeated,
      Bool.true_and, if_true]
    split
    case isTrue => simp [Confined.refl]
    rename_i agrees
    simp only [Bool.or_eq_true, bne_iff_ne, ne_eq, not_or, not_not] at agrees
    have lengths : upload.chunkLength request.sequence.toNat =
        request.length.toNat := by
      rw [Upload.chunkLength, ← agrees.1, UInt16.toNat_toUInt32]
    simp [Confined.refl, admitted, writing, sessionAt, crc32Update, agrees.2,
      lengths]

inductive FinishOutcome (upload : Upload) (request : ChunkRequest)
    (payload : List UInt8) : UploadError × Upload → Prop
  | refused {error : UploadError} {next : Upload} : error ≠ .ok →
      next = upload ∨ next = setError upload .chunkCrcMismatch →
      FinishOutcome upload request payload (error, next)
  | repeated : Delivered upload request payload →
      upload.chunkLength request.sequence.toNat ≠ 0 →
      FinishOutcome upload request payload (.ok, upload)
  | accepted : Delivered upload request payload →
      upload.chunkLength request.sequence.toNat = 0 →
      FinishOutcome upload request payload
        (.ok, acceptChunk upload request.sequence.toNat payload)

theorem typxWifiUploadChunkFinish_finishOutcome {upload : Upload}
    {payload : List UInt8} (admitted : Admitted upload request)
    (fits : payload.length ≤ request.length.toNat) :
    FinishOutcome upload request payload
      (typxWifiUploadChunkFinish upload (sessionAt request
        (upload.chunkLength request.sequence.toNat ≠ 0) payload)) := by
  have length := admitted.length
  have size : (UInt32.ofNat payload.length).toNat = payload.length := by
    rw [UInt32.toNat_ofNat']
    omega
  simp only [typxWifiUploadChunkFinish, sessionAt, Bool.false_eq_true, if_false,
    bne_iff_ne, ne_eq, ite_not, decide_eq_true_eq]
  by_cases whole : UInt32.ofNat payload.length = request.length
  case neg =>
    rw [if_neg whole]
    exact .refused (by simp) (.inl rfl)
  rw [if_pos whole]
  by_cases crc : crc32Update 0xffffffff payload ^^^ 0xffffffff = request.crc32
  case neg =>
    rw [if_neg crc]
    exact .refused (by simp) (.inr rfl)
  rw [if_pos crc]
  have delivered : Delivered upload request payload := {
    toAdmitted := admitted
    whole := by rw [← whole, size]
    crc := crc.symm }
  by_cases empty : upload.chunkLength request.sequence.toNat = 0
  · rw [if_pos empty]
    have next : request.length.toUInt16 = UInt16.ofNat payload.length := by
      simp [← whole]
    rw [next, ← whole]
    exact .accepted delivered empty
  · rw [if_neg empty]
    exact .repeated delivered empty

theorem typxWifiUploadChunkFinish_outcome {upload : Upload}
    {before after : Contents} {payload : List UInt8}
    (admitted : Admitted upload request)
    (writing : Writing request
      (upload.chunkLength request.sequence.toNat ≠ 0) before after payload)
    (recorded : upload.chunkLength request.sequence.toNat ≠ 0 →
      upload.chunkLength request.sequence.toNat = request.length.toNat ∧
        upload.chunkCrc32[request.sequence.toNat]! = request.crc32) :
    SessionOutcome upload request payload before
      (typxWifiUploadChunkFinish upload (sessionAt request
        (upload.chunkLength request.sequence.toNat ≠ 0) payload)).1
      (typxWifiUploadChunkFinish upload (sessionAt request
        (upload.chunkLength request.sequence.toNat ≠ 0) payload)).2 after := by
  have outcome := typxWifiUploadChunkFinish_finishOutcome admitted writing.fits
  generalize typxWifiUploadChunkFinish _ _ = finished at outcome ⊢
  cases outcome with
  | refused failed same => exact .refused failed same writing.toConfined
  | accepted delivered empty =>
      exact .accepted delivered empty writing.elsewhere writing.stored
  | repeated delivered listed =>
      rcases recorded listed with ⟨lengths, crcs⟩
      have stored := writing.stored
      rw [writing.again (by simpa using listed)] at stored ⊢
      exact .repeated delivered (by rw [lengths, delivered.whole]) crcs stored

/-- A chunk session touches only its own sector and does one of three
things. -/
theorem chunkSession_ensures (upload : Upload) (request : ChunkRequest)
    (fragments : List (List UInt8)) (dropped : Bool) (before : World) :
    Program.Ensures (stagingStorage hash)
      (chunkSession upload request fragments dropped) before
      fun trace outcome after =>
        (∀ event ∈ trace, InSector request.sequence.toNat event.call) ∧
          SessionOutcome upload request fragments.flatten before.flash
            outcome.1 outcome.2 after.flash := by
  refine (typxWifiUploadChunkBegin_ensures upload request before).bind ?_
  intro first outcome middle opened
  rcases outcome with ⟨error, session⟩
  rcases opened with ⟨calls, confined, opened⟩
  by_cases accepted : error = .ok
  case neg =>
    simpa [accepted] using
      And.intro calls (SessionOutcome.refused accepted (.inl rfl) confined)
  rcases opened accepted with ⟨admitted, same, writing, recorded⟩
  rw [accepted, show session = _ from same]
  simp only [bne_self_eq_false, Bool.false_eq_true, if_false]
  refine (writeFragments_ensures admitted.toWellPlaced fragments middle
    writing).bind ?_
  intro second outcome last written
  rcases outcome with ⟨error, session⟩
  rcases written with ⟨laterCalls, confined, written⟩
  have allCalls := List.forall_mem_append.mpr ⟨calls, laterCalls⟩
  by_cases accepted : error = .ok
  case neg =>
    simpa [accepted] using
      And.intro allCalls (SessionOutcome.refused accepted (.inl rfl) confined)
  rcases written accepted with ⟨same, writing⟩
  rw [accepted, show session = _ from same]
  cases dropped with
  | true =>
      simpa using And.intro allCalls
        (SessionOutcome.refused (by decide) (.inl rfl) confined)
  | false =>
      simpa using And.intro allCalls
        (typxWifiUploadChunkFinish_outcome admitted writing recorded)

end Sessions

end Typxen.WifiUpload
