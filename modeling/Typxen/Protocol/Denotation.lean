import Typxen.Protocol.Format

/-! # The verifier as a function of the bytes

`verdict` is the verifier with every read replaced by the bytes it reads. The
main result is that a verification against any reader of those bytes returns
the verdict, or `readerError` after a call that failed. -/

namespace Typxen.Protocol

open Interaction ByteString

/-! ## The verdict -/

def recordsVerdict (bytes : List UInt8) (limits : Limits) (header : Header) :
    (remaining : Nat) → (index previousSourceIndex : UInt32) →
    (totalDuration : UInt64) → Except ProtocolError UInt64
  | 0, _, _, totalDuration => .ok totalDuration
  | remaining + 1, index, previousSourceIndex, totalDuration =>
      match decodeRecord (block bytes (recordStart index.toNat) 32)
          limits.maxIndividualDelayUs with
      | .error error => .error error
      | .ok record =>
          match checkRecord header index previousSourceIndex totalDuration
              record with
          | .error error => .error error
          | .ok newTotal =>
              recordsVerdict bytes limits header remaining (index + 1)
                record.sourceIndex newTotal

def payloadVerdict (hash : List UInt8 → Vector UInt8 32) (bytes : List UInt8)
    (header : Header) : Except ProtocolError Unit :=
  if hash ((bytes.drop 96).take header.payloadBytes.toNat) ==
      header.payloadSha256 then
    .ok ()
  else
    .error .checksumMismatch

def scheduleVerdict (bytes : List UInt8) (limits : Limits) (header : Header) :
    Except ProtocolError Unit :=
  if header.actionCount < 3 then
    .error .finalCleanupInvalid
  else
    match recordsVerdict bytes limits header header.actionCount.toNat 0 0 0 with
    | .error error => .error error
    | .ok totalDuration => checkTotal header totalDuration

/-- What a verification of `bytes` decides. -/
def verdict (hash : List UInt8 → Vector UInt8 32) (limits : Limits)
    (bytes : List UInt8) : Except ProtocolError Header :=
  match checkSize (UInt64.ofNat bytes.length) limits with
  | .error error => .error error
  | .ok () =>
  match checkHeader (block bytes 0 96) (UInt64.ofNat bytes.length) limits with
  | .error error => .error error
  | .ok header =>
  match payloadVerdict hash bytes header with
  | .error error => .error error
  | .ok () =>
  match scheduleVerdict bytes limits header with
  | .error error => .error error
  | .ok () => .ok header

def verifiedBy (reader : Reader) (limits : Limits) (header : Header) :
    VerifiedSchedule where
  verificationToken := verificationToken
  reader := some reader
  limits := limits
  header := header

/-! ## Readers and providers -/

section Substrate

variable {σ : Type} (environment : Environment callbacks σ)
  (fault : Event → Prop) (valid : σ → Prop) (absorbed : σ → List UInt8)

/-- Starting from valid states, `reader` returns the requested bytes or faults,
and leaves what the hash has absorbed alone. -/
structure Serves (reader : Reader) (bytes : List UInt8) : Prop where
  size : reader.sizeBytes.toNat = bytes.length
  read : ∀ (offset : UInt64) (length : Nat) (before : σ), valid before →
    offset.toNat + length ≤ bytes.length →
    Program.Ensures environment (reader.readAt offset length) before
      fun trace answer after => valid after ∧ absorbed after = absorbed before ∧
        (answer = some (block bytes offset.toNat length) ∧
            ¬Faulted fault trace ∨
          answer = none ∧ Faulted fault trace)

/-- Unless a call faults, the SHA-256 provider computes `hash` of the
concatenated updates. -/
structure Hashes (hash : List UInt8 → Vector UInt8 32) : Prop where
  begin : ∀ before answer after, valid before →
    environment .sha256Begin before answer after →
    valid after ∧
      (answer = true ∧ absorbed after = [] ∧ ¬fault ⟨.sha256Begin, answer⟩ ∨
        answer = false ∧ fault ⟨.sha256Begin, answer⟩)
  update : ∀ data before answer after, valid before →
    environment (.sha256Update data) before answer after →
    valid after ∧
      (answer = true ∧ absorbed after = absorbed before ++ data ∧
          ¬fault ⟨.sha256Update data, answer⟩ ∨
        answer = false ∧ fault ⟨.sha256Update data, answer⟩)
  finish : ∀ before answer after, valid before →
    environment .sha256Finish before answer after →
    valid after ∧
      (answer = some (hash (absorbed before)) ∧
          ¬fault ⟨.sha256Finish, answer⟩ ∨
        answer = none ∧ fault ⟨.sha256Finish, answer⟩)

end Substrate

def Agrees {α : Type} (fault : Event → Prop) (expected : Except ProtocolError α)
    (trace : Trace) (result : Except ProtocolError α) : Prop :=
  result = expected ∧ ¬Faulted fault trace ∨
    result = .error .readerError ∧ Faulted fault trace

section Agreement

variable {α : Type} {fault : Event → Prop} {trace : Trace}
  {expected result : Except ProtocolError α}

theorem Agrees.prepend {first : Trace} (clean : ¬Faulted fault first)
    (agrees : Agrees fault expected trace result) :
    Agrees fault expected (first ++ trace) result := by
  rw [Agrees, faulted_append]
  rcases agrees with ⟨equal, unfaulted⟩ | ⟨failed, faulted⟩
  · exact .inl ⟨equal, fun either => either.elim clean unfaulted⟩
  · exact .inr ⟨failed, .inr faulted⟩

theorem Agrees.eq_of_not_faulted (agrees : Agrees fault expected trace result)
    (clean : ¬Faulted fault trace) : result = expected := by
  rcases agrees with ⟨equal, _⟩ | ⟨_, faulted⟩
  · exact equal
  · exact absurd faulted clean

end Agreement

theorem readExact_of_within {reader : Reader} {offset : UInt64} {length : Nat}
    (within : offset.toNat + length ≤ reader.sizeBytes.toNat) :
    readExact reader offset length = reader.readAt offset length := by
  have fits := reader.sizeBytes.toNat_lt
  have below : offset ≤ reader.sizeBytes := by
    rw [UInt64.le_iff_toNat_le]
    omega
  have room : UInt64.ofNat length ≤ reader.sizeBytes - offset := by
    rw [UInt64.le_iff_toNat_le, UInt64.toNat_sub_of_le _ _ below,
      UInt64.toNat_ofNat', Nat.mod_eq_of_lt (by omega)]
    omega
  rw [readExact, if_neg]
  simp [UInt64.not_lt.mpr below, UInt64.not_lt.mpr room]

theorem recordOffset_toNat (index : UInt32) :
    (headerBytes + index.toUInt64 * recordBytes).toNat =
      recordStart index.toNat :=
  expectedSize_toNat index

section Verification

variable {σ : Type} {environment : Environment callbacks σ}
  {fault : Event → Prop} {valid : σ → Prop} {absorbed : σ → List UInt8}
  {reader : Reader}
  {bytes : List UInt8} {hash : List UInt8 → Vector UInt8 32} {limits : Limits}

theorem Serves.readExact (serves : Serves environment fault valid absorbed reader bytes)
    {offset : UInt64} {length : Nat} {before : σ} (holds : valid before)
    (within : offset.toNat + length ≤ bytes.length) :
    Program.Ensures environment (readExact reader offset length) before
      fun trace answer after => valid after ∧ absorbed after = absorbed before ∧
        (answer = some (block bytes offset.toNat length) ∧
            ¬Faulted fault trace ∨
          answer = none ∧ Faulted fault trace) := by
  rw [readExact_of_within (by rw [serves.size]; exact within)]
  exact serves.read offset length before holds within

private theorem take_chunk (chunk remaining start : Nat) (fits : chunk ≤ remaining) :
    (bytes.drop start).take chunk ++
        (bytes.drop (start + chunk)).take (remaining - chunk) =
      (bytes.drop start).take remaining := by
  obtain ⟨rest, rfl⟩ := Nat.exists_eq_add_of_le fits
  rw [Nat.add_sub_cancel_left, ← List.drop_drop, List.take_add]

/-- The hash loop absorbs the bytes it was asked for, in order. The induction
is on the bytes that remain. -/
theorem hashPayload_ensures
    (serves : Serves environment fault valid absorbed reader bytes)
    (hashes : Hashes environment fault valid absorbed hash)
    (offset : UInt64) (remaining : Nat) (before : σ) (holds : valid before)
    (within : offset.toNat + remaining ≤ bytes.length) :
    Program.Ensures environment (hashPayload reader offset remaining) before
      fun trace done after => valid after ∧
        (done = true ∧ absorbed after =
            absorbed before ++ (bytes.drop offset.toNat).take remaining ∧
            ¬Faulted fault trace ∨
          done = false ∧ Faulted fault trace) := by
  induction remaining using Nat.strongRecOn generalizing offset before with
  | ind remaining induction =>
  rw [hashPayload]
  by_cases more : remaining > 0
  · rw [dif_pos more]
    have fits : bytes.length < 2 ^ 64 := serves.size ▸ reader.sizeBytes.toNat_lt
    have chunkLe : min remaining 256 ≤ remaining := Nat.min_le_left _ _
    refine (serves.readExact holds (by omega)).bind ?_
    rintro first answer middle ⟨middleValid, sameAbsorbed, answered⟩
    rcases answered with ⟨rfl, clean⟩ | ⟨rfl, failed⟩
    · simp only [Sha256.update_bind, Program.ensures_ask]
      intro updated later step
      rcases hashes.update _ _ _ _ middleValid step with
        ⟨laterValid, ⟨rfl, appended, updateClean⟩ | ⟨rfl, failed⟩⟩
      · have advanced :
            (offset + UInt64.ofNat (min remaining 256)).toNat =
              offset.toNat + min remaining 256 := by
          rw [UInt64.toNat_add, UInt64.toNat_ofNat']
          omega
        have rest := induction (remaining - min remaining 256) (by omega)
          (offset + UInt64.ofNat (min remaining 256)) later laterValid (by omega)
        refine rest.mono ?_
        rintro second done after
          ⟨afterValid, ⟨rfl, contents, restClean⟩ | ⟨rfl, failed⟩⟩
        · refine ⟨afterValid, .inl ⟨rfl, ?_, ?_⟩⟩
          · rw [contents, appended, sameAbsorbed, advanced, List.append_assoc,
              block_toList _ _ _ (by omega), take_chunk _ _ _ chunkLe]
          · simp [clean, updateClean, restClean]
        · simp [afterValid, failed]
      · simp [laterValid, failed]
    · simp [middleValid, failed]
  · rw [dif_neg more]
    have none : remaining = 0 := by omega
    simp [none, holds]

theorem verifyPayloadSha256_ensures
    (serves : Serves environment fault valid absorbed reader bytes)
    (hashes : Hashes environment fault valid absorbed hash)
    (header : Header) (before : σ) (holds : valid before)
    (within : 96 + header.payloadBytes.toNat ≤ bytes.length) :
    Program.Ensures environment (verifyPayloadSha256 reader header) before
      fun trace result after => valid after ∧
        Agrees fault (payloadVerdict hash bytes header) trace result := by
  simp only [verifyPayloadSha256, Sha256.begin_bind, Program.ensures_ask]
  intro began started step
  rcases hashes.begin _ _ _ holds step with
    ⟨startedValid, ⟨rfl, empty, beginClean⟩ | ⟨rfl, failed⟩⟩
  case inr => simp [Agrees, startedValid, failed]
  simp only [Bool.not_true, Bool.false_eq_true, if_false, Sha256.finish_bind]
  refine (hashPayload_ensures serves hashes headerBytes
    header.payloadBytes.toNat started startedValid within).bind ?_
  rintro first done middle
    ⟨middleValid, ⟨rfl, contents, clean⟩ | ⟨rfl, failed⟩⟩
  case inr => simp [Agrees, middleValid, failed]
  simp only [Bool.not_true, Bool.false_eq_true, if_false, Program.ensures_ask]
  intro answer finished finishStep
  rcases hashes.finish _ _ _ middleValid finishStep with
    ⟨finishedValid, ⟨rfl, finishClean⟩ | ⟨rfl, failed⟩⟩
  case inr => simp [Agrees, finishedValid, failed]
  have whole : absorbed middle =
      (bytes.drop 96).take header.payloadBytes.toNat := by
    rw [contents, empty]
    rfl
  rw [whole] at finishClean ⊢
  rw [payloadVerdict]
  by_cases equal : hash ((bytes.drop 96).take header.payloadBytes.toNat) =
      header.payloadSha256
  · rw [equal] at finishClean
    simp [Agrees, equal, finishedValid, beginClean, clean, finishClean]
  · simp [Agrees, equal, finishedValid, beginClean, clean, finishClean]

theorem readRecordUnverified_ensures
    (serves : Serves environment fault valid absorbed reader bytes)
    (index maxDelay : UInt32) (before : σ) (holds : valid before)
    (within : recordStart index.toNat + 32 ≤ bytes.length) :
    Program.Ensures environment (readRecordUnverified reader index maxDelay)
      before fun trace result after => valid after ∧
        Agrees fault (decodeRecord (block bytes (recordStart index.toNat) 32) maxDelay)
          trace result := by
  have start := recordOffset_toNat index
  refine (serves.readExact holds (by rw [start]; exact within)).bind ?_
  rintro first answer middle ⟨middleValid, _, answered⟩
  rw [start] at answered
  rcases answered with ⟨rfl, clean⟩ | ⟨rfl, failed⟩
  · simp [Agrees, middleValid, clean]
  · simp [Agrees, middleValid, failed]

/-- The record loop follows `recordsVerdict` record by record. -/
theorem validateRecordsFrom_ensures
    (serves : Serves environment fault valid absorbed reader bytes)
    (header : Header) (remaining : Nat) (index previousSourceIndex : UInt32)
    (totalDuration : UInt64) (before : σ) (holds : valid before)
    (within : recordStart (index.toNat + remaining) ≤ bytes.length)
    (indexFits : index.toNat + remaining < 2 ^ 32) :
    Program.Ensures environment
      (validateRecordsFrom reader limits header remaining index
        previousSourceIndex totalDuration) before
      fun trace result after => valid after ∧
        Agrees fault (recordsVerdict bytes limits header remaining index
          previousSourceIndex totalDuration) trace result := by
  induction remaining generalizing index previousSourceIndex totalDuration
      before with
  | zero => simp [validateRecordsFrom, recordsVerdict, Agrees, holds]
  | succ remaining induction =>
      rw [validateRecordsFrom, recordsVerdict]
      have here : recordStart index.toNat + 32 ≤ bytes.length := by
        simp only [recordStart] at within ⊢
        omega
      refine (readRecordUnverified_ensures serves index
        limits.maxIndividualDelayUs before holds here).bind ?_
      rintro first result middle
        ⟨middleValid, ⟨rfl, clean⟩ | ⟨rfl, failed⟩⟩
      · cases decoded : decodeRecord (block bytes (recordStart index.toNat) 32)
            limits.maxIndividualDelayUs with
        | error error => simp [Agrees, middleValid, clean]
        | ok record =>
            simp only
            cases checked : checkRecord header index previousSourceIndex
                totalDuration record with
            | error error => simp [Agrees, middleValid, clean]
            | ok newTotal =>
                have next : (index + 1).toNat = index.toNat + 1 := by
                  rw [UInt32.toNat_add, UInt32.toNat_one]
                  omega
                have rest := induction (index + 1) record.sourceIndex newTotal
                  middle middleValid
                  (by rw [next, Nat.add_right_comm]; exact within)
                  (by omega)
                exact rest.mono fun second result after outcome =>
                  ⟨outcome.1, outcome.2.prepend clean⟩
      · simp [Agrees, middleValid, failed]

theorem validateRecords_ensures
    (serves : Serves environment fault valid absorbed reader bytes)
    (header : Header) (before : σ) (holds : valid before)
    (within : recordStart header.actionCount.toNat ≤ bytes.length) :
    Program.Ensures environment (validateRecords reader limits header) before
      fun trace result after => valid after ∧
        Agrees fault (scheduleVerdict bytes limits header) trace result := by
  rw [validateRecords, scheduleVerdict]
  by_cases few : header.actionCount < 3
  · simp [few, Agrees, holds]
  · simp only [few, if_false]
    refine (validateRecordsFrom_ensures serves header
      header.actionCount.toNat 0 0 0 before holds (by simpa using within)
      (by simpa using header.actionCount.toNat_lt)).bind ?_
    rintro first result middle ⟨middleValid, ⟨rfl, clean⟩ | ⟨rfl, failed⟩⟩
    · cases walked : recordsVerdict bytes limits header
          header.actionCount.toNat 0 0 0 with
      | error error => simp [Agrees, middleValid, clean]
      | ok total => simp [Agrees, middleValid, clean]
    · simp [Agrees, middleValid, failed]

/-- Verifying against a reader of `bytes` returns the verdict on `bytes`. -/
theorem typxProtocolV1Verify_ensures
    (serves : Serves environment fault valid absorbed reader bytes)
    (hashes : Hashes environment fault valid absorbed hash)
    (before : σ) (holds : valid before) :
    Program.Ensures environment (typxProtocolV1Verify reader limits) before
      fun trace result after => valid after ∧
        Agrees fault ((verdict hash limits bytes).map (verifiedBy reader limits))
          trace result := by
  have sameSize : UInt64.ofNat bytes.length = reader.sizeBytes := by
    rw [← serves.size, UInt64.ofNat_toNat]
  rw [typxProtocolV1Verify, verdict, sameSize]
  cases sized : checkSize reader.sizeBytes limits with
  | error error => simp [Agrees, holds, Except.map]
  | ok _ =>
  have size := (checkSize_eq_ok_iff.mp sized).2.1
  simp only
  have within : (0 : UInt64).toNat + 96 ≤ bytes.length := by
    rw [← serves.size]
    exact size
  refine (serves.readExact holds within).bind ?_
  rintro first answer middle ⟨middleValid, _, ⟨rfl, readClean⟩ | ⟨rfl, failed⟩⟩
  case inr => simp [Agrees, middleValid, failed]
  simp only [UInt64.toNat_zero]
  cases checked : checkHeader (block bytes 0 96) reader.sizeBytes limits with
  | error error => simp [Agrees, middleValid, Except.map, readClean]
  | ok header =>
  rcases (checkHeader_eq_ok_iff serves.size).mp checked with ⟨acceptable, rfl⟩
  have length := acceptable.length
  have payload := acceptable.payloadLength
  simp only
  refine (verifyPayloadSha256_ensures serves hashes (headerOf bytes) middle
    middleValid (by rw [headerOf_payloadBytes]; omega)).bind ?_
  rintro second result later
    ⟨laterValid, ⟨equal, hashClean⟩ | ⟨broken, failed⟩⟩
  case inr => simp [Agrees, laterValid, failed, broken]
  rw [equal]
  cases hashed : payloadVerdict hash bytes (headerOf bytes) with
  | error error => simp [Agrees, laterValid, Except.map, readClean, hashClean]
  | ok _ =>
  simp only
  refine (validateRecords_ensures serves (headerOf bytes) later laterValid
    (by rw [headerOf_actionCount, recordStart]; omega)).bind ?_
  rintro third result last ⟨lastValid, ⟨equal, clean⟩ | ⟨broken, failed⟩⟩
  case inr => simp [Agrees, lastValid, failed, broken]
  rw [equal]
  cases scheduled : scheduleVerdict bytes limits (headerOf bytes) with
  | error error =>
      simp [Agrees, lastValid, Except.map, readClean, hashClean, clean]
  | ok _ =>
      simp [Agrees, lastValid, Except.map, verifiedBy, readClean, hashClean,
        clean]

end Verification

end Typxen.Protocol
