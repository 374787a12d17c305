import Typxen.Foundation.CyclicRedundancy
import Typxen.WifiUpload.Bookkeeping

/-! # The chunk checksum

The bitwise register of `crc32_update` divides by the CRC-32 polynomial, so
that a burst of at most four bytes never keeps the checksum of a chunk. -/

namespace Typxen.WifiUpload

open Interaction CyclicRedundancy Polynomial Protocol

/-- The CRC-32 polynomial without its highest power, reflected. -/
def crc32Generator : BitVec 32 := 0xedb88320#32

/-! ## The bits of the data -/

def byteBits (byte : UInt8) : List Bool :=
  (List.range 8).map byte.toBitVec.getLsbD

def dataBits (data : List UInt8) : List Bool :=
  data.flatMap byteBits

theorem byteBits_length (byte : UInt8) : (byteBits byte).length = 8 :=
  List.length_map _

theorem byteBits_getD (byte : UInt8) (index : Nat) :
    (byteBits byte).getD index false = byte.toBitVec.getLsbD index := by
  by_cases within : index < 8
  · rw [List.getD_eq_getElem _ _ (by simpa [byteBits] using within)]
    simp only [byteBits, List.getElem_map, List.getElem_range]
  · rw [List.getD_eq_default _ _ (by simpa [byteBits] using within),
      BitVec.getLsbD_of_ge _ _ (by omega)]

theorem dataBits_length (data : List UInt8) :
    (dataBits data).length = 8 * data.length := by
  induction data with
  | nil => rfl
  | cons byte rest induction =>
      rw [dataBits, List.flatMap_cons, List.length_append, byteBits_length,
        ← dataBits, induction, List.length_cons]
      omega

theorem dataBits_append (first second : List UInt8) :
    dataBits (first ++ second) = dataBits first ++ dataBits second :=
  List.flatMap_append

theorem byteBits_injective : Function.Injective byteBits := by
  intro first second same
  apply UInt8.toBitVec_inj.mp
  apply BitVec.eq_of_getLsbD_eq
  intro index _
  rw [← byteBits_getD, same, byteBits_getD]

theorem dataBits_injective : Function.Injective dataBits := by
  intro first
  induction first with
  | nil =>
      intro second same
      have lengths := congrArg List.length same
      rw [dataBits_length, dataBits_length, List.length_nil] at lengths
      exact (List.length_eq_zero_iff.mp (by omega)).symm
  | cons byte rest induction =>
      intro second same
      cases second with
      | nil =>
          have lengths := congrArg List.length same
          simp [dataBits_length] at lengths
      | cons other others =>
          rw [dataBits, dataBits, List.flatMap_cons, List.flatMap_cons] at same
          have parts := List.append_inj same
            ((byteBits_length byte).trans (byteBits_length other).symm)
          rw [byteBits_injective parts.1, induction parts.2]

/-! ## The register -/

theorem crc32Bit_toBitVec (crc : UInt32) :
    (crc32Bit crc).toBitVec = step crc32Generator crc.toBitVec := by
  have low : (crc &&& 1).toBitVec =
      (BitVec.ofBool (crc.toBitVec.getLsbD 0)).setWidth 32 := by
    rw [UInt32.toBitVec_and]
    exact BitVec.and_one_eq_setWidth_ofBool_getLsbD
  rw [crc32Bit, step, UInt32.toBitVec_xor, UInt32.toBitVec_and,
    UInt32.toBitVec_sub, low]
  congr 1
  cases crc.toBitVec.getLsbD 0 <;> rfl

theorem crc32Byte_toBitVec (crc : UInt32) (byte : UInt8) :
    (crc32Byte crc byte).toBitVec =
      divide crc32Generator crc.toBitVec (byteBits byte) := by
  have entered : (crc ^^^ byte.toUInt32).toBitVec =
      crc.toBitVec ^^^ pack 32 (byteBits byte) := by
    rw [UInt32.toBitVec_xor]
    congr 1
    apply BitVec.eq_of_getLsbD_eq
    intro index within
    simp only [pack_getLsbD, byteBits_getD, UInt8.toBitVec_toUInt32,
      BitVec.getLsbD_setWidth]
  rw [divide_eq_steps (by simp [byteBits_length]), byteBits_length, ← entered]
  simp only [crc32Byte, List.range_succ_eq_map, List.range_zero, List.map_nil,
    List.map_cons, List.foldl_cons, List.foldl_nil, crc32Bit_toBitVec, steps]

theorem crc32Update_toBitVec (crc : UInt32) (data : List UInt8) :
    (crc32Update crc data).toBitVec =
      divide crc32Generator crc.toBitVec (dataBits data) := by
  induction data generalizing crc with
  | nil => rfl
  | cons byte rest induction =>
      rw [crc32Update, List.foldl_cons, ← crc32Update, induction,
        crc32Byte_toBitVec, ← divide_append]
      rfl

/-! ## The reference -/

/-- CRC-32 by its definition: the remainder of the message, with the initial
value entered over its first 32 bits, read back reflected and inverted. -/
noncomputable def referenceCrc32 (data : List UInt8) : UInt32 :=
  ⟨reflect 32 ((X ^ (dataBits data).length * residue 0xffffffff#32 +
    X ^ 32 * message (dataBits data)) %ₘ modulus crc32Generator)⟩ ^^^ 0xffffffff

theorem typxWifiUploadCrc32_eq (data : List UInt8) :
    typxWifiUploadCrc32 data = referenceCrc32 data := by
  rw [typxWifiUploadCrc32, referenceCrc32, ← residue_divide (by decide),
    reflect_residue, ← UInt32.toBitVec_inj, UInt32.toBitVec_xor,
    UInt32.toBitVec_xor, crc32Update_toBitVec]
  rfl

/-! ## Bursts -/

/-- What was received differs from what was sent within four bytes. -/
structure Burst (sent received : List UInt8) : Prop where
  lengths : received.length = sent.length
  changed : received ≠ sent
  near : ∃ start, ∀ index, ¬(start ≤ index ∧ index < start + 4) →
    received[index]? = sent[index]?

theorem split_at (data : List UInt8) (start : Nat) :
    data.take start ++ (data.drop start).take 4 ++ data.drop (start + 4) =
      data := by
  rw [List.append_assoc, ← List.drop_drop, List.take_append_drop,
    List.take_append_drop]

theorem Burst.of_window {before middle other after : List UInt8}
    (lengths : other.length = middle.length) (short : middle.length ≤ 4)
    (changed : other ≠ middle) :
    Burst (before ++ middle ++ after) (before ++ other ++ after) where
  lengths := by simp [lengths]
  changed := by simpa using changed
  near := by
    use before.length
    intro index outside
    by_cases inside : index < before.length
    · simp [inside, Nat.lt_add_right]
    · have beyond : ¬index - before.length < middle.length := by omega
      simp [List.getElem?_append, lengths, inside, beyond]

theorem Burst.crc32Update_ne {sent received : List UInt8}
    (burst : Burst sent received) (crc : UInt32) :
    crc32Update crc sent ≠ crc32Update crc received := by
  rcases burst.near with ⟨start, near⟩
  intro same
  have before : received.take start = sent.take start := by
    apply List.ext_getElem?
    intro index
    by_cases inside : index < start
    · rw [List.getElem?_take_of_lt inside, List.getElem?_take_of_lt inside,
        near index (by omega)]
    · rw [List.getElem?_take_eq_none (by omega),
        List.getElem?_take_eq_none (by omega)]
  have after : received.drop (start + 4) = sent.drop (start + 4) := by
    apply List.ext_getElem?
    intro index
    rw [List.getElem?_drop, List.getElem?_drop, near _ (by omega)]
  have lengths := burst.lengths
  apply burst.changed
  rw [← split_at sent start, ← split_at received start, before, after,
    ← UInt32.toBitVec_inj, crc32Update_toBitVec, crc32Update_toBitVec] at same
  simp only [dataBits_append] at same
  have window := divide_burst (by decide)
    (by simp only [dataBits_length, List.length_take, List.length_drop, lengths])
    (by simp only [dataBits_length, List.length_take]; omega) _ _ _ same
  rw [← split_at sent start, ← split_at received start, before, after,
    dataBits_injective window]

theorem Burst.typxWifiUploadCrc32_ne {sent received : List UInt8}
    (burst : Burst sent received) :
    typxWifiUploadCrc32 sent ≠ typxWifiUploadCrc32 received := by
  intro same
  exact burst.crc32Update_ne _ ((UInt32.xor_left_inj _).mp same)

/-! ## Sessions -/

section Sessions

variable {σ : Type} {environment : Environment callbacks σ}

theorem typxWifiUploadChunkWrite_hashes (session : ChunkSession)
    (data : List UInt8) (before : σ) :
    Program.Ensures environment (typxWifiUploadChunkWrite session data) before
      fun _ outcome _ => outcome.1 = .ok →
        outcome.2.runningCrc32 = crc32Update session.runningCrc32 data := by
  rw [typxWifiUploadChunkWrite]
  split
  case isTrue => simp
  simp only
  split
  · refine Program.ensures_true.bind ?_
    intro _ result _ _
    cases result with
    | ok => exact Program.ensures_done.mpr fun _ => rfl
    | _ => exact Program.ensures_done.mpr (by simp)
  · simp only [Storage.write_bind, Program.ensures_ask]
    intro answer after _
    cases answer with
    | true => exact Program.ensures_done.mpr fun _ => rfl
    | false => exact Program.ensures_done.mpr (by simp)

theorem writeFragments_hashes (session : ChunkSession)
    (fragments : List (List UInt8)) (before : σ) :
    Program.Ensures environment (writeFragments session fragments) before
      fun _ outcome _ => outcome.1 = .ok → outcome.2.runningCrc32 =
        crc32Update session.runningCrc32 fragments.flatten := by
  induction fragments generalizing session before with
  | nil => exact Program.ensures_done.mpr fun _ => rfl
  | cons fragment rest induction =>
      refine (typxWifiUploadChunkWrite_hashes session fragment before).bind ?_
      intro _ outcome middle hashed
      rcases outcome with ⟨error, written⟩
      by_cases accepted : error = .ok
      · simp only [accepted, bne_self_eq_false, Bool.false_eq_true, if_false]
        refine (induction written middle).mono ?_
        intro _ final _ rest ok
        rw [rest ok, hashed accepted, List.flatten_cons, crc32Update_append]
      · simp [accepted]

theorem typxWifiUploadChunkFinish_corrupted {upload : Upload}
    {request : ChunkRequest} {repeated : Bool} {received : List UInt8}
    (fits : received.length ≤ request.length.toNat)
    (small : request.length.toNat ≤ 4096)
    (differs : request.crc32 ≠ typxWifiUploadCrc32 received) :
    typxWifiUploadChunkFinish upload (sessionAt request repeated received) =
      if received.length = request.length.toNat then
        (.chunkCrcMismatch, setError upload .chunkCrcMismatch)
      else
        (.incomplete, upload) := by
  have counted : UInt32.ofNat received.length = request.length ↔
      received.length = request.length.toNat := by
    rw [← UInt32.toNat_inj, UInt32.toNat_ofNat']
    omega
  simp only [typxWifiUploadChunkFinish, sessionAt, Bool.false_eq_true, if_false,
    bne_iff_ne, ne_eq, ite_not, counted]
  split
  · exact if_neg differs.symm
  · rfl

end Sessions

/-- The checksum of a session is CRC-32 of what its fragments make up, and a
burst of at most four bytes is refused. -/
theorem chunkCrc32_catchesBursts {σ : Type} (environment : Environment callbacks σ)
    (upload : Upload) (session : ChunkSession) (request : ChunkRequest)
    (fragments : List (List UInt8)) (before : σ) :
    typxWifiUploadCrc32 fragments.flatten = referenceCrc32 fragments.flatten ∧
    (session.runningCrc32 = 0xffffffff →
      Program.Ensures environment (writeFragments session fragments) before
        fun _ written _ => written.1 = .ok →
          written.2.runningCrc32 ^^^ 0xffffffff =
            typxWifiUploadCrc32 fragments.flatten) ∧
    Program.Ensures environment (openSession upload request fragments) before
      (fun _ opened _ => opened.1 = .ok →
        opened.2.runningCrc32 ^^^ 0xffffffff =
          typxWifiUploadCrc32 fragments.flatten) ∧
    ∀ sent, Burst sent fragments.flatten →
      typxWifiUploadCrc32 sent ≠ typxWifiUploadCrc32 fragments.flatten ∧
      (request.crc32 = typxWifiUploadCrc32 sent →
        Program.Ensures environment (openSession upload request fragments)
          before (fun _ opened _ => opened.1 = .ok →
            typxWifiUploadChunkFinish upload opened.2 =
              if fragments.flatten.length = request.length.toNat then
                (.chunkCrcMismatch, setError upload .chunkCrcMismatch)
              else
                (.incomplete, upload)) ∧
        ∀ dropped, Program.Ensures environment
          (chunkSession upload request fragments dropped) before
          fun _ outcome _ => outcome.1 ≠ .ok) := by
  have opens : Program.Ensures environment
      (openSession upload request fragments) before _ :=
    openSession_takes upload request fragments before
  refine ⟨typxWifiUploadCrc32_eq _, ?_, ?_, ?_⟩
  · intro fresh
    refine (writeFragments_hashes session fragments before).mono ?_
    intro _ written _ hashed ok
    rw [hashed ok, fresh]
    rfl
  · refine opens.mono ?_
    intro _ opened _ taken ok
    rw [(taken ok).2.1]
    rfl
  intro sent burst
  refine ⟨burst.typxWifiUploadCrc32_ne, ?_⟩
  intro promised
  have differs : request.crc32 ≠ typxWifiUploadCrc32 fragments.flatten := by
    rw [promised]
    exact burst.typxWifiUploadCrc32_ne
  have closes : Program.Ensures environment
      (openSession upload request fragments) before fun _ opened _ =>
        opened.1 = .ok → typxWifiUploadChunkFinish upload opened.2 =
          if fragments.flatten.length = request.length.toNat then
            (.chunkCrcMismatch, setError upload .chunkCrcMismatch)
          else
            (.incomplete, upload) := by
    refine opens.mono ?_
    intro _ opened _ taken ok
    rcases taken ok with ⟨admitted, same, fits⟩
    rw [same]
    exact typxWifiUploadChunkFinish_corrupted fits admitted.length differs
  refine ⟨closes, ?_⟩
  intro dropped
  rw [chunkSession_eq]
  refine closes.bind ?_
  intro _ opened _ finished
  refine Program.ensures_done.mpr ?_
  rw [closeSession]
  split
  case isTrue refused => simpa using refused
  rename_i ok
  split
  · simp
  · rw [finished (by simpa using ok)]
    split <;> simp

/-! ## One burst -/

def letterCorrupted : List (List UInt8) :=
  [letterSchedule.take 100,
    List.replicate 4 0 ++ letterSchedule.drop 104]

theorem letterCorrupted_burst :
    Burst letterSchedule letterCorrupted.flatten := by
  have burst : Burst (letterSchedule.take 100 ++ (letterSchedule.drop 100).take 4 ++
      letterSchedule.drop 104)
      (letterSchedule.take 100 ++ List.replicate 4 0 ++ letterSchedule.drop 104) :=
    .of_window (by decide +kernel) (by decide +kernel) (by decide +kernel)
  rw [split_at] at burst
  simpa [letterCorrupted] using burst

def letterRequest : ChunkRequest :=
  ⟨letterJob, 0, 0, 224, typxWifiUploadCrc32 letterSchedule⟩

def letterOpened :
    Interaction.Trace callbacks × (UploadError × ChunkSession) × World :=
  (openSession (begun letterJob 224 letterDigest) letterRequest
    letterCorrupted).run (reliableAnswer fun _ => letterDigest) blankWorld

theorem letterOpened_accepted : letterOpened.2.1.1 = .ok ∧
    letterCorrupted.flatten.length = letterRequest.length.toNat := by
  decide +kernel

theorem chunkCrc32_catchesBursts_letter :
    typxWifiUploadChunkFinish (begun letterJob 224 letterDigest)
        letterOpened.2.1.2 =
      (.chunkCrcMismatch,
        setError (begun letterJob 224 letterDigest) .chunkCrcMismatch) := by
  have execution := (reliableAnswer_exec (fun _ => letterDigest)
    (openSession (begun letterJob 224 letterDigest) letterRequest
      letterCorrupted) blankWorld).1
  have caught := chunkCrc32_catchesBursts
    (stagingStorage fun _ => letterDigest) (begun letterJob 224 letterDigest)
    ChunkSession.zero letterRequest letterCorrupted blankWorld
  have finished := ((caught.2.2.2 letterSchedule letterCorrupted_burst).2 rfl).1
    _ _ _ execution
  have accepted := letterOpened_accepted.1
  simp only [if_pos letterOpened_accepted.2] at finished
  rw [letterOpened] at accepted ⊢
  exact finished accepted

end Typxen.WifiUpload
