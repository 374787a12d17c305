import Mathlib.Algebra.BigOperators.Intervals
import Mathlib.Algebra.Order.BigOperators.Group.Finset
import Typxen.Protocol.Denotation

/-! # Exact acceptance

The verdict on a byte string is success exactly on the V1 format, and so is
every verification of it. -/

namespace Typxen.Protocol

open Interaction ByteString

/-! ## The record loop -/

structure AcceptableFrom (maxDelay : Nat) (bytes : List UInt8)
    (count sources start previous : Nat) : Prop where
  records : ∀ index, start ≤ index → index < count →
    AcceptableRecord maxDelay bytes index
  positions : ∀ index, start ≤ index → index < count →
    AcceptablePosition bytes count sources index
  first : start < count → previous ≤ sourceIndexAt bytes start
  monotone : ∀ index, start ≤ index → index + 1 < count →
    sourceIndexAt bytes index ≤ sourceIndexAt bytes (index + 1)

theorem acceptableFrom_step {maxDelay : Nat} {bytes : List UInt8}
    {count sources start previous : Nat} (more : start < count) :
    AcceptableFrom maxDelay bytes count sources start previous ↔
      AcceptableRecord maxDelay bytes start ∧
        previous ≤ sourceIndexAt bytes start ∧
        AcceptablePosition bytes count sources start ∧
        AcceptableFrom maxDelay bytes count sources (start + 1)
          (sourceIndexAt bytes start) := by
  constructor
  · intro acceptable
    exact ⟨acceptable.records start le_rfl more, acceptable.first more,
      acceptable.positions start le_rfl more,
      fun index lower => acceptable.records index (by omega),
      fun index lower => acceptable.positions index (by omega),
      fun next => acceptable.monotone start le_rfl next,
      fun index lower => acceptable.monotone index (by omega)⟩
  · rintro ⟨record, first, position, rest⟩
    refine ⟨?_, ?_, fun _ => first, ?_⟩
    · intro index lower upper
      rcases Nat.eq_or_lt_of_le lower with rfl | later
      · exact record
      · exact rest.records index later upper
    · intro index lower upper
      rcases Nat.eq_or_lt_of_le lower with rfl | later
      · exact position
      · exact rest.positions index later upper
    · intro index lower upper
      rcases Nat.eq_or_lt_of_le lower with rfl | later
      · exact rest.first upper
      · exact rest.monotone index later upper

section Loop

variable {bytes : List UInt8} {limits : Limits}

private theorem cleanupKey_getD (position : Nat) (within : position < 3) :
    cleanupKey position =
      (cleanupModifiers.getD position 0, cleanupKeycodes.getD position 0) := by
  interval_cases position <;> rfl

theorem checkRecord_eq_ok_iff {index previousSourceIndex : UInt32}
    {totalDuration newTotal : UInt64}
    (acceptable : AcceptableRecord limits.maxIndividualDelayUs.toNat bytes
      index.toNat)
    (countLower : 3 ≤ actionCountOf bytes)
    (more : index.toNat < actionCountOf bytes)
    (room : totalDuration.toNat + durationAt bytes index.toNat < 2 ^ 64) :
    checkRecord (headerOf bytes) index previousSourceIndex totalDuration
        (recordAt bytes index.toNat) = .ok newTotal ↔
      previousSourceIndex.toNat ≤ sourceIndexAt bytes index.toNat ∧
        AcceptablePosition bytes (actionCountOf bytes)
          (totalSourceCharactersOf bytes) index.toNat ∧
        newTotal.toNat =
          totalDuration.toNat + durationAt bytes index.toNat := by
  have flags : FlagsAllowed (recordAt bytes index.toNat).flags.toNat := by
    rw [recordAt_flags]
    exact acceptable.flags
  have source := source_mask_iff flags
  have cleanup := finalCleanup_mask_iff flags
  rw [recordAt_flags] at source cleanup
  have threshold : ((headerOf bytes).actionCount - 3).toNat =
      actionCountOf bytes - 3 := by
    rw [UInt32.toNat_sub_of_le]
    · rw [headerOf_actionCount]
      rfl
    · rw [UInt32.le_iff_toNat_le, headerOf_actionCount]
      exact countLower
  have isCleanup : index ≥ (headerOf bytes).actionCount - 3 ↔
      actionCountOf bytes ≤ index.toNat + 3 := by
    rw [ge_iff_le, UInt32.le_iff_toNat_le, threshold]
    omega
  have noOverflow : ¬(0xffffffffffffffff - totalDuration <
      recordDuration (recordAt bytes index.toNat)) := by
    have size := totalDuration.toNat_lt
    rw [UInt64.lt_iff_toNat_lt, recordDuration_recordAt,
      UInt64.toNat_sub_of_le]
    · simp
      omega
    · rw [UInt64.le_iff_toNat_le]
      simp
      omega
  have sum : ∀ total : UInt64,
      totalDuration + recordDuration (recordAt bytes index.toNat) = total ↔
        total.toNat = totalDuration.toNat + durationAt bytes index.toNat := by
    intro total
    rw [← UInt64.toNat_inj, UInt64.toNat_add, recordDuration_recordAt,
      Nat.mod_eq_of_lt room]
    exact eq_comm
  simp only [checkRecord, guard_eq_ok_iff, noOverflow,
    not_false_eq_true, true_and, Except.ok.injEq, sum, Bool.or_eq_true,
    Bool.and_eq_true, decide_eq_true_eq, beq_iff_eq, bne_iff_ne, not_or,
    not_and, UInt32.not_lt, gt_iff_lt, source, UInt32.le_iff_toNat_le,
    recordAt_sourceIndex, headerOf_totalSourceCharacters, recordAt_modifier,
    recordAt_keycode, not_not, ← UInt32.toNat_inj, ne_eq]
  have marked : ((recordAt bytes index.toNat).flags &&&
      recordFlagFinalCleanup != 0) =
      decide (index ≥ (headerOf bytes).actionCount - 3) ↔
      ((flagsAt bytes index.toNat).testBit 2 = true ↔
        actionCountOf bytes ≤ index.toNat + 3) := by
    rw [Bool.eq_iff_iff, decide_eq_true_iff, isCleanup, bne_iff_ne, cleanup]
  have keys : ∀ late : actionCountOf bytes ≤ index.toNat + 3,
      (index - ((headerOf bytes).actionCount - 3)).toNat =
        index.toNat + 3 - actionCountOf bytes := by
    intro late
    rw [UInt32.toNat_sub_of_le _ _ (isCleanup.mpr late), threshold]
    omega
  constructor
  · rintro ⟨⟨⟨previous, bound⟩, positive⟩, mark, key, total⟩
    refine ⟨previous, ⟨bound, ?_, marked.mp mark, ?_⟩, total⟩
    · intro isSource
      exact Nat.pos_of_ne_zero (positive isSource)
    · intro late
      have equal := key (isCleanup.mpr late)
      rw [keys late] at equal
      rw [cleanupKey_getD _ (by omega), equal.1, equal.2]
  · rintro ⟨previous, position, total⟩
    refine ⟨⟨⟨previous, position.sourceBound⟩, ?_⟩,
      marked.mpr position.cleanupMarked, ?_, total⟩
    · intro isSource
      exact (position.sourcePositive isSource).ne'
    · intro late
      have isLate := isCleanup.mp late
      have equal := position.cleanupKey isLate
      rw [cleanupKey_getD _ (by omega), Prod.mk.injEq] at equal
      rw [keys isLate]
      exact equal

/-- The record loop succeeds exactly on an acceptable tail, and adds its
durations. -/
theorem recordsVerdict_eq_ok_iff (countLower : 3 ≤ actionCountOf bytes)
    (countUpper : actionCountOf bytes < 2 ^ 27)
    (remaining : Nat) (index previousSourceIndex : UInt32)
    (totalDuration : UInt64) {total : UInt64}
    (position : index.toNat + remaining = actionCountOf bytes)
    (bounded : totalDuration.toNat ≤ index.toNat * (3 * 2 ^ 32)) :
    recordsVerdict bytes limits (headerOf bytes) remaining index
        previousSourceIndex totalDuration = .ok total ↔
      AcceptableFrom limits.maxIndividualDelayUs.toNat bytes
          (actionCountOf bytes) (totalSourceCharactersOf bytes) index.toNat
          previousSourceIndex.toNat ∧
        total.toNat = totalDuration.toNat +
          ∑ i ∈ Finset.Ico index.toNat (actionCountOf bytes),
            durationAt bytes i := by
  induction remaining generalizing index previousSourceIndex totalDuration with
  | zero =>
      have finished : index.toNat = actionCountOf bytes := by omega
      have vacuous : AcceptableFrom limits.maxIndividualDelayUs.toNat bytes
          (actionCountOf bytes) (totalSourceCharactersOf bytes) index.toNat
          previousSourceIndex.toNat := by
        constructor <;> intros <;> omega
      rw [finished] at vacuous ⊢
      simp only [recordsVerdict, Except.ok.injEq, vacuous, true_and,
        Finset.Ico_self, Finset.sum_empty, Nat.add_zero, ← UInt64.toNat_inj]
      exact eq_comm
  | succ remaining induction =>
      have more : index.toNat < actionCountOf bytes := by omega
      have next : (index + 1).toNat = index.toNat + 1 := by
        rw [UInt32.toNat_add, UInt32.toNat_one]
        omega
      have durationBound := durationAt_lt bytes index.toNat
      have room : totalDuration.toNat + durationAt bytes index.toNat < 2 ^ 64 := by
        omega
      rw [recordsVerdict, acceptableFrom_step more,
        Finset.sum_eq_sum_Ico_succ_bot more]
      cases decoded : decodeRecord (block bytes (recordStart index.toNat) 32)
          limits.maxIndividualDelayUs with
      | error error =>
          simp only [reduceCtorEq, false_iff]
          rintro ⟨⟨record, _⟩, _⟩
          have accepted := (decodeRecord_eq_ok_iff bytes index.toNat
            limits.maxIndividualDelayUs _).mpr ⟨record, rfl⟩
          rw [decoded] at accepted
          cases accepted
      | ok record =>
          rcases (decodeRecord_eq_ok_iff _ _ _ _).mp decoded with
            ⟨acceptable, rfl⟩
          simp only
          cases checked : checkRecord (headerOf bytes) index
              previousSourceIndex totalDuration (recordAt bytes index.toNat) with
          | error error =>
              simp only [reduceCtorEq, false_iff]
              rintro ⟨⟨_, first, placed, _⟩, _⟩
              have sumFits : (UInt64.ofNat (totalDuration.toNat +
                  durationAt bytes index.toNat)).toNat =
                  totalDuration.toNat + durationAt bytes index.toNat := by
                rw [UInt64.toNat_ofNat', Nat.mod_eq_of_lt room]
              have accepted := (checkRecord_eq_ok_iff acceptable countLower
                more room).mpr ⟨first, placed, sumFits⟩
              rw [checked] at accepted
              cases accepted
          | ok newTotal =>
              rcases (checkRecord_eq_ok_iff acceptable countLower more
                room).mp checked with ⟨first, placed, sum⟩
              have rest := induction (index + 1)
                (recordAt bytes index.toNat).sourceIndex newTotal (by omega)
                (by rw [next]; omega)
              simp only
              rw [rest, next, recordAt_sourceIndex, sum, Nat.add_assoc]
              simp [acceptable, first, placed]

end Loop

/-! ## The verdict -/

section Verdict

variable {bytes : List UInt8} {limits : Limits}
  {hash : List UInt8 → Vector UInt8 32}

theorem scheduleVerdict_eq_ok_iff (acceptable : AcceptableHeader limits bytes) :
    scheduleVerdict bytes limits (headerOf bytes) = .ok () ↔
      3 ≤ actionCountOf bytes ∧
        AcceptableFrom limits.maxIndividualDelayUs.toNat bytes
          (actionCountOf bytes) (totalSourceCharactersOf bytes) 0 0 ∧
        ∑ index ∈ Finset.range (actionCountOf bytes),
          durationAt bytes index = littleEndian bytes 32 8 := by
  have few : (headerOf bytes).actionCount < 3 ↔ actionCountOf bytes < 3 := by
    rw [UInt32.lt_iff_toNat_lt, headerOf_actionCount]
    rfl
  rw [scheduleVerdict, guard_eq_ok_iff, few, Nat.not_lt]
  refine and_congr_right fun countLower => ?_
  have walk (total : UInt64) :
      recordsVerdict bytes limits (headerOf bytes) (actionCountOf bytes) 0 0 0 =
        .ok total ↔ _ :=
    recordsVerdict_eq_ok_iff countLower acceptable.count_lt
      (actionCountOf bytes) 0 0 0 (by simp) (by simp)
  simp only [UInt32.toNat_zero, UInt64.toNat_zero, Nat.zero_add,
    ← Finset.range_eq_Ico] at walk
  rw [headerOf_actionCount]
  cases walked : recordsVerdict bytes limits (headerOf bytes)
      (actionCountOf bytes) 0 0 0 with
  | error error =>
      simp only [reduceCtorEq, false_iff]
      rintro ⟨tail, sum⟩
      have accepted := (walk (UInt64.ofNat (∑ index ∈ Finset.range
        (actionCountOf bytes), durationAt bytes index))).mpr ⟨tail, by
          rw [UInt64.toNat_ofNat', Nat.mod_eq_of_lt]
          rw [sum]
          exact littleEndian_lt bytes 32 8⟩
      rw [walked] at accepted
      cases accepted
  | ok total =>
      rcases (walk total).mp walked with ⟨tail, sum⟩
      have positive : 0 < durationAt bytes 0 := by
        have hold := (tail.records 0 le_rfl (by omega)).hold
        simp only [durationAt]
        omega
      have nonzero : 0 < total.toNat := by
        rw [sum]
        exact Finset.sum_pos' (fun _ _ => Nat.zero_le _)
          ⟨0, Finset.mem_range.mpr (by omega), positive⟩
      have positiveTotal : total > 0 := by
        rw [gt_iff_lt, UInt64.lt_iff_toNat_lt]
        exact nonzero
      simp only [tail, true_and, checkTotal, positiveTotal, decide_true,
        Bool.and_true, beq_iff_eq, ← UInt64.toNat_inj, sum,
        headerOf_totalExpectedDurationUs]
      by_cases equal : ∑ index ∈ Finset.range (actionCountOf bytes),
          durationAt bytes index = littleEndian bytes 32 8
      · simp [equal]
      · simp [equal]

theorem payloadVerdict_eq_ok_iff (acceptable : AcceptableHeader limits bytes) :
    payloadVerdict hash bytes (headerOf bytes) = .ok () ↔
      hash (payloadOf bytes) = block bytes 56 32 := by
  have whole : (bytes.drop 96).take (headerOf bytes).payloadBytes.toNat =
      payloadOf bytes := by
    rw [headerOf_payloadBytes, acceptable.payloadLength]
    apply List.take_of_length_le
    rw [List.length_drop, acceptable.length]
    omega
  rw [payloadVerdict, whole, headerOf_payloadSha256]
  by_cases equal : hash (payloadOf bytes) = block bytes 56 32
  · simp [equal]
  · simp [equal]

/-- The verdict is success exactly on the V1 format. -/
theorem verdict_eq_ok_iff (fits : bytes.length < 2 ^ 64) {header : Header} :
    verdict hash limits bytes = .ok header ↔
      AcceptableV1 limits hash bytes ∧ header = headerOf bytes := by
  have size : (UInt64.ofNat bytes.length).toNat = bytes.length := by
    rw [UInt64.toNat_ofNat', Nat.mod_eq_of_lt fits]
  constructor
  · intro accepted
    rw [verdict] at accepted
    split at accepted
    case h_1 => cases accepted
    split at accepted
    case h_1 => cases accepted
    next checked =>
    rcases (checkHeader_eq_ok_iff size).mp checked with ⟨acceptable, rfl⟩
    split at accepted
    case h_1 => cases accepted
    next hashed =>
    split at accepted
    case h_1 => cases accepted
    next scheduled =>
    rcases (scheduleVerdict_eq_ok_iff acceptable).mp scheduled with
      ⟨countLower, tail, duration⟩
    refine ⟨?_, (Except.ok.inj accepted).symm⟩
    exact {
      toAcceptableHeader := acceptable
      payloadHash := (payloadVerdict_eq_ok_iff acceptable).mp hashed
      countLower := countLower
      records := fun index upper => tail.records index (Nat.zero_le _) upper
      positions := fun index upper => tail.positions index (Nat.zero_le _) upper
      monotone := fun index upper => tail.monotone index (Nat.zero_le _) upper
      duration := duration }
  · rintro ⟨acceptable, rfl⟩
    have hold := (acceptable.records 0 (by
      have countLower := acceptable.countLower
      omega))
    have wellFormed : limits.WellFormed := {
      encodedBytes := by
        have upper := acceptable.lengthUpper
        have length := acceptable.length
        omega
      recordCount := by
        have upper := acceptable.countUpper
        have lower := acceptable.countPositive
        omega
      individualDelay := by
        have exactly := hold.hold
        have upper := hold.holdWithin
        omega }
    have sized : checkSize (UInt64.ofNat bytes.length) limits = .ok () :=
      checkSize_eq_ok_iff.mpr ⟨wellFormed, by
        have length := acceptable.length
        omega, by
        rw [size]
        exact acceptable.lengthUpper⟩
    have checked := (checkHeader_eq_ok_iff size).mpr
      ⟨acceptable.toAcceptableHeader, rfl⟩
    have hashed := (payloadVerdict_eq_ok_iff
      acceptable.toAcceptableHeader).mpr acceptable.payloadHash
    have scheduled := (scheduleVerdict_eq_ok_iff
      acceptable.toAcceptableHeader).mpr ⟨acceptable.countLower, {
        records := fun index _ upper => acceptable.records index upper
        positions := fun index _ upper => acceptable.positions index upper
        first := fun _ => Nat.zero_le _
        monotone := fun index _ upper => acceptable.monotone index upper },
        acceptable.duration⟩
    rw [verdict, sized]
    simp only [checked]
    rw [hashed]
    simp only
    rw [scheduled]

end Verdict

theorem typxProtocolV1ReadRecord_ensures {σ : Type}
    {environment : Environment callbacks σ} {fault : Event → Prop}
    {valid : σ → Prop} {absorbed : σ → List UInt8} {reader : Reader}
    {bytes : List UInt8} {hash : List UInt8 → Vector UInt8 32} {limits : Limits}
    (serves : Serves environment fault valid absorbed reader bytes)
    (acceptable : AcceptableV1 limits hash bytes) {index : UInt32}
    (more : index < (headerOf bytes).actionCount) (before : σ)
    (holds : valid before) :
    Program.Ensures environment
      (typxProtocolV1ReadRecord (verifiedBy reader limits (headerOf bytes)) index)
      before fun trace result after => valid after ∧
        Agrees fault (.ok (recordAt bytes index.toNat)) trace result := by
  have bound : index.toNat < actionCountOf bytes := by
    rw [← headerOf_actionCount, ← UInt32.lt_iff_toNat_lt]
    exact more
  have within : recordStart index.toNat + 32 ≤ bytes.length := by
    have length := acceptable.length
    simp only [recordStart]
    omega
  have decoded := (decodeRecord_eq_ok_iff bytes index.toNat
    limits.maxIndividualDelayUs _).mpr ⟨acceptable.records _ bound, rfl⟩
  have reads := readRecordUnverified_ensures serves index
    limits.maxIndividualDelayUs before holds within
  rw [decoded] at reads
  have below : ¬index ≥
      (verifiedBy reader limits (headerOf bytes)).header.actionCount :=
    UInt32.not_le.mpr more
  rw [typxProtocolV1ReadRecord, if_neg (by simp [verifiedBy,
    typxProtocolV1IsVerified]), if_neg below]
  exact reads

/-! ## Verification by a stable reader -/

/-- Callbacks of a stable reader of `bytes` and of a SHA-256 provider that
computes `hash`; the state is what the provider has absorbed since its last
`begin`. Reads outside `bytes` and all other calls are unconstrained. -/
def servedBy (bytes : List UInt8) (hash : List UInt8 → Vector UInt8 32) :
    Environment callbacks (List UInt8)
  | .readAt offset length, absorbed, answer, after =>
      after = absorbed ∧ (offset.toNat + length ≤ bytes.length →
        answer = some (block bytes offset.toNat length))
  | .sha256Begin, _, answer, after => answer = true ∧ after = []
  | .sha256Update data, absorbed, answer, after =>
      answer = true ∧ after = absorbed ++ data
  | .sha256Finish, absorbed, answer, after =>
      answer = some (hash absorbed) ∧ after = absorbed
  | .erase, absorbed, _, after => after = absorbed
  | .eraseRange _ _, absorbed, _, after => after = absorbed
  | .write _ _, absorbed, _, after => after = absorbed
  | .read _ _, absorbed, _, after => after = absorbed
  | .nowUs, absorbed, _, after => after = absorbed
  | .waitUs _, absorbed, _, after => after = absorbed
  | .keyDown _ _, absorbed, _, after => after = absorbed
  | .releaseAll, absorbed, _, after => after = absorbed
  | .stopRequested, absorbed, _, after => after = absorbed
  | .progress _ _ _, absorbed, _, after => after = absorbed
  | .terminal _ _ _, absorbed, _, after => after = absorbed

section Stable

variable {bytes : List UInt8} {hash : List UInt8 → Vector UInt8 32}
  {limits : Limits}

theorem servedBy_total : (servedBy bytes hash).Total := by
  intro request before
  cases request with
  | readAt offset length => exact ⟨some (block bytes offset.toNat length), before,
      rfl, fun _ => rfl⟩
  | sha256Begin => exact ⟨true, [], rfl, rfl⟩
  | sha256Update data => exact ⟨true, before ++ data, rfl, rfl⟩
  | sha256Finish => exact ⟨some (hash before), before, rfl, rfl⟩
  | read offset length => exact ⟨none, before, rfl⟩
  | nowUs => exact ⟨0, before, rfl⟩
  | progress _ _ _ => exact ⟨(), before, rfl⟩
  | terminal _ _ _ => exact ⟨(), before, rfl⟩
  | _ => exact ⟨true, before, rfl⟩

theorem servedBy_serves {sizeBytes : UInt64}
    (size : sizeBytes.toNat = bytes.length) :
    Serves (servedBy bytes hash) (fun _ => False) (fun _ => True) id
      (Reader.ofCallback sizeBytes) bytes where
  size := size
  read offset length before _ within := by
    rw [Reader.ofCallback, Program.ensures_call]
    rintro answer after ⟨rfl, answers⟩
    exact ⟨trivial, rfl, .inl ⟨answers within, by simp⟩⟩

theorem servedBy_hashes :
    Hashes (servedBy bytes hash) (fun _ => False) (fun _ => True) id hash where
  begin := by
    rintro before answer after _ ⟨rfl, rfl⟩
    exact ⟨trivial, .inl ⟨rfl, rfl, id⟩⟩
  update := by
    rintro data before answer after _ ⟨rfl, rfl⟩
    exact ⟨trivial, .inl ⟨rfl, rfl, id⟩⟩
  finish := by
    rintro before answer after _ ⟨rfl, _⟩
    exact ⟨trivial, .inl ⟨rfl, id⟩⟩

end Stable

/-- Verification by a stable reader always returns, and it returns success
exactly on the V1 format. Limits that are not well formed accept nothing, on
both sides. -/
theorem typxProtocolV1Verify_ok_iff (bytes : List UInt8)
    (hash : List UInt8 → Vector UInt8 32) (limits : Limits) (sizeBytes : UInt64)
    (size : sizeBytes.toNat = bytes.length) (before : List UInt8) :
    (∃ trace result after, Program.Exec (servedBy bytes hash)
      (typxProtocolV1Verify (Reader.ofCallback sizeBytes) limits) before
      trace result after) ∧
    ∀ trace result after, Program.Exec (servedBy bytes hash)
      (typxProtocolV1Verify (Reader.ofCallback sizeBytes) limits) before
      trace result after →
      ((∃ schedule, result = .ok schedule) ↔ AcceptableV1 limits hash bytes) := by
  refine ⟨Program.exists_exec servedBy_total _ _, ?_⟩
  intro trace result after execution
  have outcome := typxProtocolV1Verify_ensures (servedBy_serves size)
    servedBy_hashes before trivial trace result after execution
  have agreed := outcome.2.eq_of_not_faulted (by simp [Faulted])
  have fits : bytes.length < 2 ^ 64 := size ▸ sizeBytes.toNat_lt
  constructor
  · rintro ⟨schedule, rfl⟩
    cases decided : verdict hash limits bytes with
    | error error =>
        rw [decided] at agreed
        cases agreed
    | ok header => exact ((verdict_eq_ok_iff fits).mp decided).1
  · intro acceptable
    rw [(verdict_eq_ok_iff fits).mpr ⟨acceptable, rfl⟩] at agreed
    exact ⟨_, agreed⟩

/-- One source record, the letter `a`, followed by the final cleanup. -/
def letterSchedule : List UInt8 :=
  [84, 89, 80, 88, 72, 73, 68, 49, 1, 0, 1, 1, 96, 0, 32, 0,
    3, 0, 0, 0, 4, 0, 0, 0, 128, 0, 0, 0, 1, 0, 0, 0,
    24, 115, 1, 0, 0, 0, 0, 0, 1, 2, 3, 4, 5, 6, 7, 8,
    9, 10, 11, 12, 13, 14, 15, 16, 40, 121, 105, 39, 219, 246, 67, 171,
    127, 225, 37, 249, 188, 124, 181, 209, 21, 207, 90, 117, 213, 100, 234, 65,
    40, 61, 228, 143, 201, 200, 248, 150, 0, 0, 0, 0, 0, 0, 0, 0,
    232, 3, 0, 0, 64, 31, 0, 0, 208, 7, 0, 0, 1, 0, 0, 0,
    0, 4, 9, 0, 1, 1, 0, 0, 0, 0, 0, 0, 0, 0, 0, 0,
    0, 0, 0, 0, 64, 31, 0, 0, 96, 234, 0, 0, 1, 0, 0, 0,
    0, 41, 14, 0, 1, 1, 0, 0, 0, 0, 0, 0, 0, 0, 0, 0,
    0, 0, 0, 0, 64, 31, 0, 0, 0, 0, 0, 0, 1, 0, 0, 0,
    3, 77, 14, 0, 1, 1, 0, 0, 0, 0, 0, 0, 0, 0, 0, 0,
    0, 0, 0, 0, 64, 31, 0, 0, 0, 0, 0, 0, 1, 0, 0, 0,
    0, 76, 14, 0, 1, 1, 0, 0, 0, 0, 0, 0, 0, 0, 0, 0]

def letterDigest : Vector UInt8 32 := block letterSchedule 56 32

theorem letterSchedule_accepted :
    AcceptableV1 typxProtocolV1Esp32CamLimits (fun _ => letterDigest)
      letterSchedule := by
  have decided : verdict (fun _ => letterDigest) typxProtocolV1Esp32CamLimits
      letterSchedule = .ok (headerOf letterSchedule) := by
    decide +kernel
  exact ((verdict_eq_ok_iff (by decide +kernel)).mp decided).1

theorem typxProtocolV1Verify_letterSchedule :
    ∃ trace schedule after, Program.Exec
      (servedBy letterSchedule fun _ => letterDigest)
      (typxProtocolV1Verify (Reader.ofCallback 224) typxProtocolV1Esp32CamLimits)
      [] trace (.ok schedule) after := by
  rcases typxProtocolV1Verify_ok_iff letterSchedule (fun _ => letterDigest)
    typxProtocolV1Esp32CamLimits 224 (by decide +kernel) [] with
    ⟨⟨trace, result, after, execution⟩, accepts⟩
  rcases (accepts trace result after execution).mpr letterSchedule_accepted with
    ⟨schedule, rfl⟩
  exact ⟨trace, schedule, after, execution⟩

end Typxen.Protocol
