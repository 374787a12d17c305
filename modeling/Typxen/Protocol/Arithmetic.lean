import Typxen.Protocol.Acceptance

/-! # The verifier's arithmetic

The verifier with an assertion at every turn of its loops, which compares the
machine numbers with exact ones. No assertion fails, whatever the reader and
the SHA-256 provider answer. -/

namespace Typxen.Protocol

open Interaction Program

/-! ## Assertions -/

structure Summed (totalDuration : UInt64) (seen : List Record) : Prop where
  exactly : totalDuration.toNat = (seen.map Record.duration).sum
  bound : totalDuration.toNat < 2 ^ 61

structure RecordTurn (reader : Reader) (header : Header) (index : UInt32)
    (totalDuration : UInt64) (seen : List Record) : Prop where
  count : index.toNat = seen.length
  summed : Summed totalDuration seen
  /-- `action_count - 3` does not wrap. -/
  cleanup : (header.actionCount - 3).toNat + 3 = header.actionCount.toNat
  /-- The position in the cleanup tables, where they are read. -/
  table : header.actionCount - 3 ≤ index →
    (index - (header.actionCount - 3)).toNat < 3
  offset : (headerBytes + index.toUInt64 * recordBytes).toNat =
    96 + 32 * seen.length
  within : 96 + 32 * seen.length + 32 ≤ reader.sizeBytes.toNat

structure HashTurn (reader : Reader) (header : Header) (offset : UInt64)
    (remaining hashed : Nat) : Prop where
  consecutive : offset.toNat = 96 + hashed
  left : hashed + remaining = header.payloadBytes.toNat
  within : offset.toNat + min remaining 256 ≤ reader.sizeBytes.toNat

instance (totalDuration : UInt64) (seen : List Record) :
    Decidable (Summed totalDuration seen) :=
  decidable_of_iff
    (totalDuration.toNat = (seen.map Record.duration).sum ∧
      totalDuration.toNat < 2 ^ 61)
    ⟨fun parts => ⟨parts.1, parts.2⟩, fun summed => ⟨summed.1, summed.2⟩⟩

instance (reader : Reader) (header : Header) (index : UInt32)
    (totalDuration : UInt64) (seen : List Record) :
    Decidable (RecordTurn reader header index totalDuration seen) :=
  decidable_of_iff
    (index.toNat = seen.length ∧ Summed totalDuration seen ∧
      (header.actionCount - 3).toNat + 3 = header.actionCount.toNat ∧
      (header.actionCount - 3 ≤ index →
        (index - (header.actionCount - 3)).toNat < 3) ∧
      (headerBytes + index.toUInt64 * recordBytes).toNat =
        96 + 32 * seen.length ∧
      96 + 32 * seen.length + 32 ≤ reader.sizeBytes.toNat)
    ⟨fun parts => ⟨parts.1, parts.2.1, parts.2.2.1, parts.2.2.2.1,
        parts.2.2.2.2.1, parts.2.2.2.2.2⟩,
      fun turn => ⟨turn.count, turn.summed, turn.cleanup, turn.table,
        turn.offset, turn.within⟩⟩

instance (reader : Reader) (header : Header) (offset : UInt64)
    (remaining hashed : Nat) :
    Decidable (HashTurn reader header offset remaining hashed) :=
  decidable_of_iff
    (offset.toNat = 96 + hashed ∧
      hashed + remaining = header.payloadBytes.toNat ∧
      offset.toNat + min remaining 256 ≤ reader.sizeBytes.toNat)
    ⟨fun parts => ⟨parts.1, parts.2.1, parts.2.2⟩,
      fun turn => ⟨turn.consecutive, turn.left, turn.within⟩⟩

/-! ## Exact numbers -/

structure Bounded (reader : Reader) (header : Header) : Prop where
  count : header.actionCount.toNat < 2 ^ 27
  payload : header.payloadBytes.toNat = 32 * header.actionCount.toNat
  size : reader.sizeBytes.toNat = 96 + 32 * header.actionCount.toNat

theorem checkHeader_bounded {reader : Reader} {limits : Limits}
    {bytes : Vector UInt8 96} {header : Header}
    (checked : checkHeader bytes reader.sizeBytes limits = .ok header) :
    Bounded reader header := by
  simp only [checkHeader, guard_eq_ok_iff, bne_iff_ne, ne_eq, not_not,
    gt_iff_lt, ← UInt32.toNat_inj, ← UInt64.toNat_inj, UInt64.lt_iff_toNat_lt,
    UInt64.toNat_toUInt32, expectedPayload_toNat, expectedSize_toNat]
    at checked
  rcases checked with ⟨_, _, _, _, _, _, small, payload, _, size, _, _, same⟩
  cases same
  have whole : 32 * (headerFields bytes).actionCount.toNat < 2 ^ 32 := by
    simp at small
    omega
  rw [Nat.mod_eq_of_lt whole] at payload
  exact ⟨by omega, payload, size.symm⟩

theorem duration_lt (record : Record) : record.duration < 3 * 2 ^ 32 := by
  have before := record.waitBeforeKeyDownUs.toNat_lt
  have hold := record.keyDownHoldUs.toNat_lt
  have after := record.waitAfterReleaseUs.toNat_lt
  rw [Record.duration]
  omega

theorem durations_le (seen : List Record) :
    (seen.map Record.duration).sum ≤ seen.length * (3 * 2 ^ 32) := by
  induction seen with
  | nil => simp
  | cons record seen induction =>
      have here := duration_lt record
      rw [List.map_cons, List.sum_cons, List.length_cons]
      omega

structure RecordLoop (header : Header) (remaining : Nat) (index : UInt32)
    (totalDuration : UInt64) (seen : List Record) : Prop where
  count : index.toNat = seen.length
  left : index.toNat + remaining = header.actionCount.toNat
  exactly : totalDuration.toNat = (seen.map Record.duration).sum

section Turns

variable {reader : Reader} {header : Header}

theorem Bounded.hashTurn (bounded : Bounded reader header) {offset : UInt64}
    {remaining hashed : Nat} (consecutive : offset.toNat = 96 + hashed)
    (left : hashed + remaining = header.payloadBytes.toNat) :
    HashTurn reader header offset remaining hashed := by
  have payload := bounded.payload
  have size := bounded.size
  exact ⟨consecutive, left, by omega⟩

variable {remaining : Nat} {index : UInt32} {totalDuration : UInt64}
  {seen : List Record}

theorem RecordLoop.summed (bounded : Bounded reader header)
    (loop : RecordLoop header remaining index totalDuration seen) :
    Summed totalDuration seen := by
  have count := bounded.count
  have left := loop.left
  have length := loop.count
  have sum := durations_le seen
  have exactly := loop.exactly
  exact ⟨exactly, by omega⟩

theorem RecordLoop.turn (bounded : Bounded reader header)
    (enough : 3 ≤ header.actionCount.toNat)
    (loop : RecordLoop header (remaining + 1) index totalDuration seen) :
    RecordTurn reader header index totalDuration seen := by
  have left := loop.left
  have size := bounded.size
  have length := loop.count
  have three : (3 : UInt32) ≤ header.actionCount :=
    UInt32.le_iff_toNat_le.mpr enough
  have cleanup : (header.actionCount - 3).toNat =
      header.actionCount.toNat - 3 :=
    UInt32.toNat_sub_of_le _ _ three
  constructor
  · exact length
  · exact loop.summed bounded
  · omega
  · intro reached
    have above := UInt32.le_iff_toNat_le.mp reached
    rw [UInt32.toNat_sub_of_le _ _ reached]
    omega
  · rw [expectedSize_toNat, length]
  · omega

theorem Summed.room (summed : Summed totalDuration seen) (record : Record) :
    totalDuration.toNat + record.duration < 2 ^ 64 := by
  have bound := summed.bound
  have short := duration_lt record
  omega

theorem checkRecord_ok {record : Record} {previousSourceIndex : UInt32}
    {newTotal : UInt64}
    (checked : checkRecord header index previousSourceIndex totalDuration
      record = .ok newTotal) :
    newTotal = totalDuration + recordDuration record := by
  simp only [checkRecord, guard_eq_ok_iff, Except.ok.injEq] at checked
  exact checked.2.2.2.2.symm

theorem RecordLoop.next (bounded : Bounded reader header) {record : Record}
    {previousSourceIndex : UInt32} {newTotal : UInt64}
    (loop : RecordLoop header (remaining + 1) index totalDuration seen)
    (checked : checkRecord header index previousSourceIndex totalDuration
      record = .ok newTotal) :
    RecordLoop header remaining (index + 1) newTotal (seen ++ [record]) := by
  have room := (loop.summed bounded).room record
  have left := loop.left
  have count := bounded.count
  have following : (index + 1).toNat = index.toNat + 1 := by
    rw [UInt32.toNat_add]
    apply Nat.mod_eq_of_lt
    change index.toNat + 1 < _
    omega
  constructor
  · rw [following, loop.count, List.length_append, List.length_singleton]
  · omega
  · rw [checkRecord_ok checked, UInt64.toNat_add, recordDuration_toNat,
      Nat.mod_eq_of_lt room, loop.exactly, List.map_append, List.sum_append,
      List.map_singleton, List.sum_singleton]

end Turns

/-! ## The verifier with assertions

A program that returns `none` failed an assertion. -/

def hashPayloadAsserted (reader : Reader) (header : Header) :
    (fuel : Nat) → (offset : UInt64) → (remaining hashed : Nat) →
    Firmware (Option Bool)
  | 0, _, _, _ => return none
  | fuel + 1, offset, remaining, hashed =>
      if ¬HashTurn reader header offset remaining hashed then
        return none
      else if remaining > 0 then do
        let chunk := min remaining 256
        match ← readExact reader offset chunk with
        | none => return some false
        | some buffer =>
            if ← Sha256.update buffer.toList then
              hashPayloadAsserted reader header fuel
                (offset + UInt64.ofNat chunk) (remaining - chunk)
                (hashed + chunk)
            else
              return some false
      else
        return some true

def verifyPayloadSha256Asserted (reader : Reader) (header : Header) :
    Firmware (Option (Except ProtocolError Unit)) := do
  if !(← Sha256.begin) then
    return some (.error .readerError)
  else
    match ← hashPayloadAsserted reader header
        (header.payloadBytes.toNat / 256 + 2) headerBytes
        header.payloadBytes.toNat 0 with
    | none => return none
    | some false => return some (.error .readerError)
    | some true =>
        match ← Sha256.finish with
        | none => return some (.error .readerError)
        | some digest =>
            if digest == header.payloadSha256 then
              return some (.ok ())
            else
              return some (.error .checksumMismatch)

def validateRecordsFromAsserted (reader : Reader) (limits : Limits)
    (header : Header) :
    (remaining : Nat) → (index previousSourceIndex : UInt32) →
    (totalDuration : UInt64) → (seen : List Record) →
    Firmware (Option (Except ProtocolError UInt64))
  | 0, _, _, totalDuration, seen =>
      if Summed totalDuration seen then
        return some (.ok totalDuration)
      else
        return none
  | remaining + 1, index, previousSourceIndex, totalDuration, seen =>
      if ¬RecordTurn reader header index totalDuration seen then
        return none
      else do
        match ← readRecordUnverified reader index
            limits.maxIndividualDelayUs with
        | .error error => return some (.error error)
        | .ok record =>
            match checkRecord header index previousSourceIndex totalDuration
                record with
            | .error error => return some (.error error)
            | .ok newTotal =>
                validateRecordsFromAsserted reader limits header remaining
                  (index + 1) record.sourceIndex newTotal (seen ++ [record])

def validateRecordsAsserted (reader : Reader) (limits : Limits)
    (header : Header) : Firmware (Option (Except ProtocolError Unit)) := do
  if header.actionCount < 3 then
    return some (.error .finalCleanupInvalid)
  else
    match ← validateRecordsFromAsserted reader limits header
        header.actionCount.toNat 0 0 0 [] with
    | none => return none
    | some (.error error) => return some (.error error)
    | some (.ok totalDuration) => return some (checkTotal header totalDuration)

def typxProtocolV1VerifyAsserted (reader : Reader) (limits : Limits) :
    Firmware (Option (Except ProtocolError VerifiedSchedule)) := do
  match checkSize reader.sizeBytes limits with
  | .error error => return some (.error error)
  | .ok () =>
  match ← readExact reader 0 96 with
  | none => return some (.error .readerError)
  | some bytes =>
  match checkHeader bytes reader.sizeBytes limits with
  | .error error => return some (.error error)
  | .ok header =>
  match ← verifyPayloadSha256Asserted reader header with
  | none => return none
  | some (.error error) => return some (.error error)
  | some (.ok ()) =>
  match ← validateRecordsAsserted reader limits header with
  | none => return none
  | some (.error error) => return some (.error error)
  | some (.ok ()) =>
    return some (.ok {
      verificationToken := verificationToken
      reader := some reader
      limits := limits
      header := header })

/-! ## No assertion fails -/

def asserted {α : Type} (program : Firmware α) : Firmware (Option α) :=
  program >>= fun value => return some value

theorem asserted_bind {α β : Type} (program : Firmware α)
    (rest : α → Firmware β) :
    asserted (program >>= rest) = program >>= fun value => asserted (rest value) :=
  bind_assoc _ _ _

theorem bind_asserted {α β : Type} (program : Firmware α)
    (rest : Option α → Firmware β) :
    asserted program >>= rest = program >>= fun value => rest (some value) :=
  bind_assoc _ _ _

section Asserted

variable {reader : Reader} {header : Header} {limits : Limits}

theorem hashPayloadAsserted_eq (bounded : Bounded reader header) {fuel : Nat}
    {offset : UInt64} {remaining hashed : Nat}
    (consecutive : offset.toNat = 96 + hashed)
    (left : hashed + remaining = header.payloadBytes.toNat)
    (enough : (remaining + 255) / 256 + 1 ≤ fuel) :
    hashPayloadAsserted reader header fuel offset remaining hashed =
      asserted (hashPayload reader offset remaining) := by
  induction fuel generalizing offset remaining hashed with
  | zero => omega
  | succ fuel induction =>
      have turn := bounded.hashTurn consecutive left
      rw [hashPayloadAsserted, if_neg (not_not.mpr turn), hashPayload]
      by_cases more : remaining > 0
      · rw [if_pos more, dif_pos more, asserted_bind]
        dsimp only
        congr 1
        funext answer
        cases answer with
        | none => rfl
        | some buffer =>
            have following : (offset +
                UInt64.ofNat (min remaining 256)).toNat =
                  96 + (hashed + min remaining 256) := by
              have within := turn.within
              have fits := reader.sizeBytes.toNat_lt
              have chunk : (UInt64.ofNat (min remaining 256)).toNat =
                  min remaining 256 :=
                UInt64.toNat_ofNat_of_lt' (Nat.lt_of_le_of_lt
                  (Nat.min_le_right _ _) (by decide))
              rw [UInt64.toNat_add, chunk, Nat.mod_eq_of_lt (by omega)]
              omega
            dsimp only
            rw [asserted_bind]
            congr 1
            funext updated
            cases updated with
            | false => rfl
            | true => exact induction following (by omega) (by omega)
      · rw [if_neg more, dif_neg more]
        rfl

theorem verifyPayloadSha256Asserted_eq (bounded : Bounded reader header) :
    verifyPayloadSha256Asserted reader header =
      asserted (verifyPayloadSha256 reader header) := by
  rw [verifyPayloadSha256Asserted, verifyPayloadSha256, asserted_bind]
  congr 1
  funext began
  cases began with
  | false => rfl
  | true =>
      have hashed : hashPayloadAsserted reader header
          (header.payloadBytes.toNat / 256 + 2) headerBytes
          header.payloadBytes.toNat 0 =
            asserted (hashPayload reader headerBytes
              header.payloadBytes.toNat) :=
        hashPayloadAsserted_eq bounded rfl (Nat.zero_add _) (by omega)
      simp only [Bool.not_true, Bool.false_eq_true, if_false]
      rw [hashed, bind_asserted, asserted_bind]
      congr 1
      funext complete
      cases complete with
      | false => rfl
      | true =>
          simp only [Bool.not_true, Bool.false_eq_true, if_false]
          rw [asserted_bind]
          congr 1
          funext digest
          cases digest with
          | none => rfl
          | some digest =>
              dsimp only
              split
              · rfl
              · rfl

theorem validateRecordsFromAsserted_eq (bounded : Bounded reader header)
    (enough : 3 ≤ header.actionCount.toNat) {remaining : Nat}
    {index previousSourceIndex : UInt32} {totalDuration : UInt64}
    {seen : List Record}
    (loop : RecordLoop header remaining index totalDuration seen) :
    validateRecordsFromAsserted reader limits header remaining index
        previousSourceIndex totalDuration seen =
      asserted (validateRecordsFrom reader limits header remaining index
        previousSourceIndex totalDuration) := by
  induction remaining generalizing index previousSourceIndex totalDuration
    seen with
  | zero =>
      rw [validateRecordsFromAsserted, if_pos (loop.summed bounded)]
      rfl
  | succ remaining induction =>
      have turn := loop.turn bounded enough
      rw [validateRecordsFromAsserted, if_neg (not_not.mpr turn),
        validateRecordsFrom, asserted_bind]
      congr 1
      funext result
      cases result with
      | error error => rfl
      | ok record =>
          dsimp only
          cases checked : checkRecord header index previousSourceIndex
              totalDuration record with
          | error error => rfl
          | ok newTotal => exact induction (loop.next bounded checked)

theorem recordLoop_start (header : Header) :
    RecordLoop header header.actionCount.toNat 0 0 [] :=
  ⟨rfl, Nat.zero_add _, rfl⟩

theorem validateRecordsAsserted_eq (bounded : Bounded reader header) :
    validateRecordsAsserted reader limits header =
      asserted (validateRecords reader limits header) := by
  rw [validateRecordsAsserted, validateRecords]
  split
  · rfl
  · rename_i enough
    have three : 3 ≤ header.actionCount.toNat :=
      UInt32.le_iff_toNat_le.mp (UInt32.not_lt.mp enough)
    rw [validateRecordsFromAsserted_eq bounded three (recordLoop_start header),
      bind_asserted, asserted_bind]
    congr 1
    funext result
    cases result with
    | error error => rfl
    | ok totalDuration => rfl

theorem typxProtocolV1VerifyAsserted_eq (reader : Reader) (limits : Limits) :
    typxProtocolV1VerifyAsserted reader limits =
      asserted (typxProtocolV1Verify reader limits) := by
  rw [typxProtocolV1VerifyAsserted, typxProtocolV1Verify]
  cases checkSize reader.sizeBytes limits with
  | error error => rfl
  | ok _ =>
      dsimp only
      rw [asserted_bind]
      congr 1
      funext answer
      cases answer with
      | none => rfl
      | some bytes =>
          dsimp only
          cases checked : checkHeader bytes reader.sizeBytes limits with
          | error error => rfl
          | ok header =>
              have bounded := checkHeader_bounded checked
              dsimp only
              rw [verifyPayloadSha256Asserted_eq bounded, bind_asserted,
                asserted_bind]
              congr 1
              funext hashed
              cases hashed with
              | error error => rfl
              | ok _ =>
                  dsimp only
                  rw [validateRecordsAsserted_eq bounded, bind_asserted,
                    asserted_bind]
                  congr 1
                  funext validated
                  cases validated with
                  | error error => rfl
                  | ok _ => rfl

end Asserted

/-! ## No overflow is reported -/

def NoOverflow {α : Type} (result : Except ProtocolError α) : Prop :=
  result ≠ .error .integerOverflow

@[simp] theorem noOverflow_ok {α : Type} (value : α) :
    NoOverflow (.ok value) := by
  simp [NoOverflow]

@[simp] theorem noOverflow_error {α : Type} {error : ProtocolError} :
    NoOverflow (.error error : Except ProtocolError α) ↔
      error ≠ .integerOverflow := by
  simp [NoOverflow]

theorem NoOverflow.error {α β : Type} {error : ProtocolError}
    (fine : NoOverflow (.error error : Except ProtocolError α)) :
    NoOverflow (.error error : Except ProtocolError β) :=
  noOverflow_error.mpr (noOverflow_error.mp fine)

theorem noOverflow_guard {α : Type} {condition : Prop} [Decidable condition]
    {error : ProtocolError} {rest : Except ProtocolError α}
    (different : error ≠ .integerOverflow)
    (otherwise : ¬condition → NoOverflow rest) :
    NoOverflow (if condition then .error error else rest) := by
  split
  · exact noOverflow_error.mpr different
  · rename_i fails
    exact otherwise fails

theorem decodeRecord_noOverflow (bytes : Vector UInt8 32)
    (maxDelayUs : UInt32) : NoOverflow (decodeRecord bytes maxDelayUs) := by
  rw [decodeRecord]
  split_ifs <;> simp

theorem checkSize_noOverflow (sizeBytes : UInt64) (limits : Limits) :
    NoOverflow (checkSize sizeBytes limits) := by
  rw [checkSize]
  split_ifs <;> simp

theorem checkTotal_noOverflow (header : Header) (totalDuration : UInt64) :
    NoOverflow (checkTotal header totalDuration) := by
  rw [checkTotal]
  split_ifs <;> simp

theorem checkHeader_noOverflow {limits : Limits}
    (small : limits.maxRecordCount.toNat < 2 ^ 27) (bytes : Vector UInt8 96)
    (sizeBytes : UInt64) : NoOverflow (checkHeader bytes sizeBytes limits) := by
  rw [checkHeader]
  apply noOverflow_guard (by decide)
  intro _
  apply noOverflow_guard (by decide)
  intro _
  apply noOverflow_guard (by decide)
  intro _
  apply noOverflow_guard (by decide)
  intro _
  apply noOverflow_guard (by decide)
  intro _
  apply noOverflow_guard (by decide)
  intro counted
  have product : ((headerFields bytes).actionCount.toUInt64 *
      recordBytes).toNat < 2 ^ 32 := by
    simp only [Bool.or_eq_true, decide_eq_true_eq, not_or, gt_iff_lt,
      UInt32.lt_iff_toNat_lt] at counted
    have payload := expectedPayload_toNat (headerFields bytes).actionCount
    omega
  have narrow : ¬(headerFields bytes).actionCount.toUInt64 * recordBytes >
      0xffffffff := by
    rw [gt_iff_lt, UInt64.lt_iff_toNat_lt]
    change ¬4294967295 < _
    omega
  have fits : ¬0xffffffffffffffff - headerBytes <
      (headerFields bytes).actionCount.toUInt64 * recordBytes := by
    rw [UInt64.lt_iff_toNat_lt]
    change ¬18446744073709551519 < _
    omega
  rw [if_neg narrow, if_neg fits]
  split_ifs <;> simp

theorem RecordLoop.checkRecord_noOverflow {reader : Reader} {header : Header}
    {remaining : Nat} {index : UInt32} {totalDuration : UInt64}
    {seen : List Record} (bounded : Bounded reader header)
    (loop : RecordLoop header (remaining + 1) index totalDuration seen)
    (previousSourceIndex : UInt32) (record : Record) :
    NoOverflow (checkRecord header index previousSourceIndex totalDuration
      record) := by
  have room := (loop.summed bounded).room record
  have below : totalDuration ≤ 0xffffffffffffffff := by
    apply UInt64.le_iff_toNat_le.mpr
    change totalDuration.toNat ≤ 18446744073709551615
    omega
  have fits : ¬0xffffffffffffffff - totalDuration < recordDuration record := by
    rw [UInt64.lt_iff_toNat_lt, recordDuration_toNat,
      UInt64.toNat_sub_of_le _ _ below]
    change ¬18446744073709551615 - totalDuration.toNat < record.duration
    omega
  rw [checkRecord]
  split_ifs <;> simp

section Reported

variable {σ : Type} {environment : Environment callbacks σ} {before : σ}
  {reader : Reader} {header : Header} {limits : Limits}

theorem readRecordUnverified_noOverflow (index maxDelayUs : UInt32) :
    Ensures environment (readRecordUnverified reader index maxDelayUs) before
      fun _ result _ => NoOverflow result := by
  refine ensures_true.bind ?_
  intro first answer middle _
  cases answer with
  | none => exact ensures_done.mpr (by simp)
  | some bytes =>
      exact ensures_done.mpr (decodeRecord_noOverflow bytes maxDelayUs)

theorem verifyPayloadSha256_noOverflow :
    Ensures environment (verifyPayloadSha256 reader header) before
      fun _ result _ => NoOverflow result := by
  refine ensures_true.bind ?_
  intro first began middle _
  cases began with
  | false => exact ensures_done.mpr (by simp)
  | true =>
      refine ensures_true.bind ?_
      intro second hashed later _
      cases hashed with
      | false => exact ensures_done.mpr (by simp)
      | true =>
          refine ensures_true.bind ?_
          intro third digest last _
          cases digest with
          | none => exact ensures_done.mpr (by simp)
          | some digest =>
              dsimp only
              split
              · exact ensures_done.mpr (by simp)
              · exact ensures_done.mpr (by simp)

theorem validateRecordsFrom_noOverflow (bounded : Bounded reader header)
    {remaining : Nat} {index previousSourceIndex : UInt32}
    {totalDuration : UInt64} {seen : List Record}
    (loop : RecordLoop header remaining index totalDuration seen) :
    Ensures environment (validateRecordsFrom reader limits header remaining
        index previousSourceIndex totalDuration) before
      fun _ result _ => NoOverflow result := by
  induction remaining generalizing index previousSourceIndex totalDuration
    seen before with
  | zero => exact ensures_done.mpr (by simp)
  | succ remaining induction =>
      refine (readRecordUnverified_noOverflow _ _).bind ?_
      intro first result middle read
      cases result with
      | error error => exact ensures_done.mpr read.error
      | ok record =>
          dsimp only
          cases checked : checkRecord header index previousSourceIndex
              totalDuration record with
          | error error =>
              have fine := loop.checkRecord_noOverflow bounded
                previousSourceIndex record
              rw [checked] at fine
              exact ensures_done.mpr fine.error
          | ok newTotal => exact induction (loop.next bounded checked)

theorem validateRecords_noOverflow (bounded : Bounded reader header) :
    Ensures environment (validateRecords reader limits header) before
      fun _ result _ => NoOverflow result := by
  rw [validateRecords]
  split
  · exact ensures_done.mpr (by simp)
  · have loop := recordLoop_start header
    refine (validateRecordsFrom_noOverflow bounded loop).bind ?_
    intro first result middle validated
    cases result with
    | error error => exact ensures_done.mpr validated.error
    | ok totalDuration =>
        exact ensures_done.mpr (checkTotal_noOverflow header totalDuration)

theorem typxProtocolV1Verify_noOverflow
    (small : limits.maxRecordCount.toNat < 2 ^ 27) :
    Ensures environment (typxProtocolV1Verify reader limits) before
      fun _ result _ => NoOverflow result := by
  rw [typxProtocolV1Verify]
  have fine := checkSize_noOverflow reader.sizeBytes limits
  cases sized : checkSize reader.sizeBytes limits with
  | error error =>
      rw [sized] at fine
      exact ensures_done.mpr fine.error
  | ok _ =>
      refine ensures_true.bind ?_
      intro first answer middle _
      cases answer with
      | none => exact ensures_done.mpr (by simp)
      | some bytes =>
          dsimp only
          have fine := checkHeader_noOverflow small bytes reader.sizeBytes
          cases checked : checkHeader bytes reader.sizeBytes limits with
          | error error =>
              rw [checked] at fine
              exact ensures_done.mpr fine.error
          | ok header =>
              have bounded := checkHeader_bounded checked
              refine verifyPayloadSha256_noOverflow.bind ?_
              intro second hashed later fine
              cases hashed with
              | error error => exact ensures_done.mpr fine.error
              | ok _ =>
                  refine (validateRecords_noOverflow bounded).bind ?_
                  intro third validated last fine
                  cases validated with
                  | error error => exact ensures_done.mpr fine.error
                  | ok _ => exact ensures_done.mpr (by simp)

end Reported

/-! ## The result -/

/-- The verifier's arithmetic is exact at every turn of its loops, the overflow
error is never reported, and every run ends. -/
theorem typxProtocolV1Verify_neverOverflows (reader : Reader) (limits : Limits)
    (small : limits.maxRecordCount.toNat < 2 ^ 27) :
    typxProtocolV1VerifyAsserted reader limits =
        asserted (typxProtocolV1Verify reader limits) ∧
      ∀ {σ : Type} (environment : Environment callbacks σ) (before : σ),
        Ensures environment (typxProtocolV1Verify reader limits) before
          (fun _ result _ => result ≠ .error .integerOverflow) ∧
        (environment.Total → ∃ trace result after,
          Exec environment (typxProtocolV1Verify reader limits) before trace
            result after) := by
  constructor
  · exact typxProtocolV1VerifyAsserted_eq reader limits
  · intro σ environment before
    constructor
    · exact typxProtocolV1Verify_noOverflow small
    · intro total
      exact exists_exec total _ before

theorem typxProtocolV1Verify_neverOverflows_letter :
    typxProtocolV1VerifyAsserted (Reader.ofCallback 224)
        typxProtocolV1Esp32CamLimits =
      asserted (typxProtocolV1Verify (Reader.ofCallback 224)
        typxProtocolV1Esp32CamLimits) ∧
    Ensures (servedBy letterSchedule fun _ => letterDigest)
      (typxProtocolV1Verify (Reader.ofCallback 224)
        typxProtocolV1Esp32CamLimits) []
      (fun _ result _ => result ≠ .error .integerOverflow) ∧
    ∃ trace result after, Exec
      (servedBy letterSchedule fun _ => letterDigest)
      (typxProtocolV1Verify (Reader.ofCallback 224)
        typxProtocolV1Esp32CamLimits) [] trace result after := by
  have holds := typxProtocolV1Verify_neverOverflows (Reader.ofCallback 224)
    typxProtocolV1Esp32CamLimits (by decide)
  have served := holds.2 (servedBy letterSchedule fun _ => letterDigest) []
  exact ⟨holds.1, served.1, served.2 servedBy_total⟩

end Typxen.Protocol
