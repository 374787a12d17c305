import Mathlib.Algebra.BigOperators.Group.Finset.Basic
import Typxen.Protocol.Decoding

/-! # The V1 schedule format

What an acceptable schedule is, stated on the bytes alone: positions, numbers
stored little-endian, and sums over the records. Nothing here refers to how
the verifier reads or compares them. -/

namespace Typxen.Protocol

open ByteString

def recordStart (index : Nat) : Nat := 96 + 32 * index

section Fields

variable (bytes : List UInt8)

def actionCountOf : Nat := littleEndian bytes 20 4

def totalSourceCharactersOf : Nat := littleEndian bytes 28 4

def payloadOf : List UInt8 := bytes.drop 96

variable (index : Nat)

def waitBeforeAt : Nat := littleEndian bytes (recordStart index) 4

def holdAt : Nat := littleEndian bytes (recordStart index + 4) 4

def waitAfterAt : Nat := littleEndian bytes (recordStart index + 8) 4

def sourceIndexAt : Nat := littleEndian bytes (recordStart index + 12) 4

def modifierAt : UInt8 := byteAt bytes (recordStart index + 16)

def keycodeAt : UInt8 := byteAt bytes (recordStart index + 17)

def flagsAt : Nat := littleEndian bytes (recordStart index + 18) 2

def durationAt : Nat :=
  waitBeforeAt bytes index + holdAt bytes index + waitAfterAt bytes index

end Fields

/-- The USB HID usages of the V1 keycode table. -/
def SupportedKeycode (keycode : UInt8) : Prop :=
  (0x04 ≤ keycode ∧ keycode ≤ 0x31) ∨ (0x33 ≤ keycode ∧ keycode ≤ 0x38) ∨
    keycode = 0x4a ∨ keycode = 0x4c ∨ keycode = 0x4d ∨ keycode = 0x4f

structure AcceptableRecord (maxDelay : Nat) (bytes : List UInt8) (index : Nat) :
    Prop where
  actionKind : byteAt bytes (recordStart index + 20) = 1
  progressPolicy : byteAt bytes (recordStart index + 21) = 1
  reserved : ∀ position, recordStart index + 22 ≤ position →
    position < recordStart index + 32 → byteAt bytes position = 0
  waitBefore : waitBeforeAt bytes index ≤ maxDelay
  holdWithin : holdAt bytes index ≤ maxDelay
  waitAfter : waitAfterAt bytes index ≤ maxDelay
  hold : holdAt bytes index = 8000
  modifier : modifierAt bytes index ≤ 0x03
  keycode : SupportedKeycode (keycodeAt bytes index)
  flags : FlagsAllowed (flagsAt bytes index)

/-- The modifier and keycode of Escape, Control+Shift+End and Delete. -/
def cleanupKey : Nat → UInt8 × UInt8
  | 0 => (0x00, 0x29)
  | 1 => (0x03, 0x4d)
  | _ => (0x00, 0x4c)

structure AcceptablePosition (bytes : List UInt8) (count sources index : Nat) :
    Prop where
  sourceBound : sourceIndexAt bytes index ≤ sources
  sourcePositive : (flagsAt bytes index).testBit 0 = true →
    0 < sourceIndexAt bytes index
  cleanupMarked : (flagsAt bytes index).testBit 2 = true ↔ count ≤ index + 3
  cleanupKey : count ≤ index + 3 →
    (modifierAt bytes index, keycodeAt bytes index) =
      cleanupKey (index + 3 - count)

structure AcceptableHeader (limits : Limits) (bytes : List UInt8) : Prop where
  magic : block bytes 0 8 = magic
  protocolMajor : byteAt bytes 8 = 1
  scheduleFormat : byteAt bytes 10 = 1
  byteOrder : byteAt bytes 11 = 1
  headerLength : littleEndian bytes 12 2 = 96
  recordLength : littleEndian bytes 14 2 = 32
  requiredFlags : littleEndian bytes 16 4 = 3
  reserved : ∀ position, 88 ≤ position → position < 96 →
    byteAt bytes position = 0
  countPositive : 0 < actionCountOf bytes
  countUpper : actionCountOf bytes ≤ limits.maxRecordCount.toNat
  payloadLength : littleEndian bytes 24 4 = 32 * actionCountOf bytes
  length : bytes.length = 96 + 32 * actionCountOf bytes
  lengthUpper : bytes.length ≤ limits.maxEncodedBytes.toNat
  sources : 0 < totalSourceCharactersOf bytes
  jobId : ∃ position, 40 ≤ position ∧ position < 56 ∧ byteAt bytes position ≠ 0

/-- An acceptable V1 schedule under `limits`, with payload hash `hash`. -/
structure AcceptableV1 (limits : Limits) (hash : List UInt8 → Vector UInt8 32)
    (bytes : List UInt8) : Prop extends AcceptableHeader limits bytes where
  payloadHash : hash (payloadOf bytes) = block bytes 56 32
  countLower : 3 ≤ actionCountOf bytes
  records : ∀ index < actionCountOf bytes,
    AcceptableRecord limits.maxIndividualDelayUs.toNat bytes index
  positions : ∀ index < actionCountOf bytes,
    AcceptablePosition bytes (actionCountOf bytes)
      (totalSourceCharactersOf bytes) index
  monotone : ∀ index, index + 1 < actionCountOf bytes →
    sourceIndexAt bytes index ≤ sourceIndexAt bytes (index + 1)
  duration : ∑ index ∈ Finset.range (actionCountOf bytes),
    durationAt bytes index = littleEndian bytes 32 8

structure Limits.WellFormed (limits : Limits) : Prop where
  encodedBytes : 96 ≤ limits.maxEncodedBytes.toNat
  recordCount : 0 < limits.maxRecordCount.toNat
  individualDelay : 0 < limits.maxIndividualDelayUs.toNat

theorem AcceptableHeader.count_lt {limits : Limits} {bytes : List UInt8}
    (acceptable : AcceptableHeader limits bytes) :
    actionCountOf bytes < 2 ^ 27 := by
  have bound := littleEndian_lt bytes 24 4
  have payload := acceptable.payloadLength
  omega

/-! ## The decoded form -/

/-- The sum that `recordDuration` computes, without a wrap. -/
def Record.duration (record : Record) : Nat :=
  record.waitBeforeKeyDownUs.toNat + record.keyDownHoldUs.toNat +
    record.waitAfterReleaseUs.toNat

def recordAt (bytes : List UInt8) (index : Nat) : Record :=
  recordFields (block bytes (recordStart index) 32)

def headerOf (bytes : List UInt8) : Header := headerFields (block bytes 0 96)

section Decoded

variable (bytes : List UInt8) (index : Nat)

@[simp] theorem recordAt_waitBefore :
    (recordAt bytes index).waitBeforeKeyDownUs.toNat =
      waitBeforeAt bytes index :=
  readU32Le_block bytes _ 32 0 _

@[simp] theorem recordAt_hold :
    (recordAt bytes index).keyDownHoldUs.toNat = holdAt bytes index :=
  readU32Le_block bytes _ 32 4 _

@[simp] theorem recordAt_waitAfter :
    (recordAt bytes index).waitAfterReleaseUs.toNat = waitAfterAt bytes index :=
  readU32Le_block bytes _ 32 8 _

@[simp] theorem recordAt_sourceIndex :
    (recordAt bytes index).sourceIndex.toNat = sourceIndexAt bytes index :=
  readU32Le_block bytes _ 32 12 _

@[simp] theorem recordAt_modifier :
    (recordAt bytes index).modifier = modifierAt bytes index := by
  simp [recordAt, recordFields, modifierAt]

@[simp] theorem recordAt_keycode :
    (recordAt bytes index).keycode = keycodeAt bytes index := by
  simp [recordAt, recordFields, keycodeAt]

@[simp] theorem recordAt_flags :
    (recordAt bytes index).flags.toNat = flagsAt bytes index :=
  readU16Le_block bytes _ 32 18 _

@[simp] theorem headerOf_actionCount :
    (headerOf bytes).actionCount.toNat = actionCountOf bytes := by
  simpa [headerOf, headerFields, actionCountOf] using readU32Le_block bytes 0 96 20 (by decide)

@[simp] theorem headerOf_payloadBytes :
    (headerOf bytes).payloadBytes.toNat = littleEndian bytes 24 4 := by
  simpa [headerOf, headerFields] using readU32Le_block bytes 0 96 24 (by decide)

@[simp] theorem headerOf_totalSourceCharacters :
    (headerOf bytes).totalSourceCharacters.toNat =
      totalSourceCharactersOf bytes := by
  simpa [headerOf, headerFields, totalSourceCharactersOf] using
    readU32Le_block bytes 0 96 28 (by decide)

@[simp] theorem headerOf_totalExpectedDurationUs :
    (headerOf bytes).totalExpectedDurationUs.toNat = littleEndian bytes 32 8 := by
  simpa [headerOf, headerFields] using readU64Le_block bytes 0 96 32 (by decide)

@[simp] theorem headerOf_jobId : (headerOf bytes).jobId = block bytes 40 16 := by
  simpa [headerOf, headerFields] using window_block bytes 0 96 40 16 (by decide)

@[simp] theorem headerOf_payloadSha256 :
    (headerOf bytes).payloadSha256 = block bytes 56 32 := by
  simpa [headerOf, headerFields] using window_block bytes 0 96 56 32 (by decide)

theorem durationAt_lt : durationAt bytes index < 3 * 2 ^ 32 := by
  have before := littleEndian_lt bytes (recordStart index) 4
  have hold := littleEndian_lt bytes (recordStart index + 4) 4
  have after := littleEndian_lt bytes (recordStart index + 8) 4
  simp only [durationAt, waitBeforeAt, holdAt, waitAfterAt]
  omega

theorem recordDuration_toNat (record : Record) :
    (recordDuration record).toNat = record.duration := by
  have before := record.waitBeforeKeyDownUs.toNat_lt
  have hold := record.keyDownHoldUs.toNat_lt
  have after := record.waitAfterReleaseUs.toNat_lt
  simp only [recordDuration, Record.duration, UInt64.toNat_add,
    UInt32.toNat_toUInt64]
  omega

theorem recordAt_duration :
    (recordAt bytes index).duration = durationAt bytes index := by
  simp [Record.duration, durationAt]

@[simp] theorem recordDuration_recordAt :
    (recordDuration (recordAt bytes index)).toNat = durationAt bytes index := by
  rw [recordDuration_toNat, recordAt_duration]

end Decoded

/-! ## Checks against the format -/

theorem guard_eq_ok_iff {ε α : Type} {bad : Prop} [Decidable bad] {error : ε}
    {rest : Except ε α} {value : α} :
    (if bad then .error error else rest) = .ok value ↔
      ¬bad ∧ rest = .ok value := by
  by_cases holds : bad
  · simp [holds]
  · simp [holds]

theorem supportedKeycode_iff (keycode : UInt8) :
    supportedKeycode keycode = true ↔ SupportedKeycode keycode := by
  simp only [supportedKeycode, SupportedKeycode, Bool.or_eq_true,
    Bool.and_eq_true, decide_eq_true_eq, beq_iff_eq, ge_iff_le, or_assoc]

theorem decodeRecord_eq_ok_iff (bytes : List UInt8) (index : Nat)
    (maxDelay : UInt32) (record : Record) :
    decodeRecord (block bytes (recordStart index) 32) maxDelay = .ok record ↔
      AcceptableRecord maxDelay.toNat bytes index ∧
        record = recordAt bytes index := by
  have flags := flagsRejected_eq_false_iff (recordAt bytes index).flags
  simp only [flagsRejected, recordAt_flags, ← Bool.not_eq_true] at flags
  simp only [decodeRecord, guard_eq_ok_iff]
  rw [show recordFields (block bytes (recordStart index) 32) =
    recordAt bytes index from rfl]
  rw [flags]
  simp only [Bool.not_eq_true', Bool.not_eq_false, window_block,
    allZero_block_iff, Bool.or_eq_true, bne_iff_ne, ne_eq, not_or, not_not,
    decide_eq_true_eq, UInt32.not_lt, gt_iff_lt, supportedKeycode_iff,
    modifier_mask_iff, block_getElem, Except.ok.injEq]
  constructor
  · rintro ⟨reserved, ⟨kind, policy⟩, ⟨⟨⟨before, hold⟩, after⟩, exactly⟩,
      modifier, keycode, flags, rfl⟩
    refine ⟨?_, rfl⟩
    exact {
      actionKind := kind
      progressPolicy := policy
      reserved := fun position lower upper => reserved position lower (by omega)
      waitBefore := by simpa [UInt32.le_iff_toNat_le] using before
      holdWithin := by simpa [UInt32.le_iff_toNat_le] using hold
      waitAfter := by simpa [UInt32.le_iff_toNat_le] using after
      hold := by simpa [← UInt32.toNat_inj] using exactly
      modifier := by simpa using modifier
      keycode := by simpa using keycode
      flags := flags }
  · rintro ⟨acceptable, rfl⟩
    exact ⟨fun position lower upper =>
        acceptable.reserved position lower (by omega),
      ⟨acceptable.actionKind, acceptable.progressPolicy⟩,
      ⟨⟨⟨by simpa [UInt32.le_iff_toNat_le] using acceptable.waitBefore,
        by simpa [UInt32.le_iff_toNat_le] using acceptable.holdWithin⟩,
        by simpa [UInt32.le_iff_toNat_le] using acceptable.waitAfter⟩,
        by simpa [← UInt32.toNat_inj] using acceptable.hold⟩,
      by simpa using acceptable.modifier,
      by simpa using acceptable.keycode, acceptable.flags, rfl⟩

theorem checkSize_eq_ok_iff {sizeBytes : UInt64} {limits : Limits} :
    checkSize sizeBytes limits = .ok () ↔
      limits.WellFormed ∧ 96 ≤ sizeBytes.toNat ∧
        sizeBytes.toNat ≤ limits.maxEncodedBytes.toNat := by
  simp only [checkSize, guard_eq_ok_iff, and_true, Bool.or_eq_true,
    decide_eq_true_eq, beq_iff_eq, not_or, UInt64.not_lt, gt_iff_lt,
    UInt64.le_iff_toNat_le, ← UInt32.toNat_inj]
  constructor
  · rintro ⟨⟨⟨encoded, count⟩, delay⟩, lower, upper⟩
    exact ⟨⟨encoded, Nat.pos_of_ne_zero count, Nat.pos_of_ne_zero delay⟩,
      lower, upper⟩
  · rintro ⟨wellFormed, lower, upper⟩
    exact ⟨⟨⟨wellFormed.encodedBytes, wellFormed.recordCount.ne'⟩,
      wellFormed.individualDelay.ne'⟩, lower, upper⟩

theorem expectedPayload_toNat (count : UInt32) :
    (count.toUInt64 * recordBytes).toNat = 32 * count.toNat := by
  have bound := count.toNat_lt
  simp [recordBytes, UInt64.toNat_mul]
  omega

theorem expectedSize_toNat (count : UInt32) :
    (headerBytes + count.toUInt64 * recordBytes).toNat =
      96 + 32 * count.toNat := by
  have bound := count.toNat_lt
  simp only [UInt64.toNat_add, expectedPayload_toNat]
  simp [headerBytes]
  omega

theorem checkHeader_eq_ok_iff {bytes : List UInt8} {sizeBytes : UInt64}
    {limits : Limits} {header : Header}
    (size : sizeBytes.toNat = bytes.length) :
    checkHeader (block bytes 0 96) sizeBytes limits = .ok header ↔
      AcceptableHeader limits bytes ∧ header = headerOf bytes := by
  have jobIdZero := allZero_block_iff bytes 40 16
  rw [← headerOf_jobId] at jobIdZero
  simp only [checkHeader, guard_eq_ok_iff]
  rw [show headerFields (block bytes 0 96) = headerOf bytes from rfl]
  simp only [window_block, Nat.zero_add, bne_iff_ne, ne_eq, not_not,
    Bool.or_eq_true, not_or, block_getElem, decide_eq_true_eq, beq_iff_eq,
    Bool.not_eq_true', Bool.not_eq_false, allZero_block_iff,
    ← UInt16.toNat_inj, ← UInt32.toNat_inj, ← UInt64.toNat_inj,
    readU16Le_block, readU32Le_block, gt_iff_lt, UInt32.lt_iff_toNat_lt,
    UInt64.lt_iff_toNat_lt, expectedSize_toNat, UInt64.toNat_toUInt32,
    expectedPayload_toNat, headerOf_actionCount, headerOf_payloadBytes,
    headerOf_totalSourceCharacters, jobIdZero, Except.ok.injEq, size]
  constructor
  · rintro ⟨magic, ⟨major, format⟩, ⟨⟨order, headerLength⟩, recordLength⟩,
      required, reserved, ⟨positive, countUpper⟩, small, payload, _, length,
      lengthUpper, ⟨sources, jobId⟩, rfl⟩
    have whole : 32 * actionCountOf bytes < 2 ^ 32 := by
      simp at small
      omega
    rw [Nat.mod_eq_of_lt whole] at payload
    refine ⟨?_, rfl⟩
    exact {
      magic := magic
      protocolMajor := major
      scheduleFormat := format
      byteOrder := order
      headerLength := headerLength
      recordLength := recordLength
      requiredFlags := required
      reserved := fun position lower upper => reserved position lower upper
      countPositive := Nat.pos_of_ne_zero positive
      countUpper := Nat.le_of_not_lt countUpper
      payloadLength := payload
      length := length.symm
      lengthUpper := length ▸ Nat.le_of_not_lt lengthUpper
      sources := Nat.pos_of_ne_zero sources
      jobId := by
        by_contra none
        refine jobId fun position lower upper => ?_
        by_contra nonzero
        exact none ⟨position, lower, upper, nonzero⟩ }
  · rintro ⟨acceptable, rfl⟩
    have whole : 32 * actionCountOf bytes < 2 ^ 32 := by
      have bound := acceptable.count_lt
      omega
    refine ⟨acceptable.magic, ⟨acceptable.protocolMajor,
      acceptable.scheduleFormat⟩, ⟨⟨acceptable.byteOrder,
      acceptable.headerLength⟩, acceptable.recordLength⟩,
      acceptable.requiredFlags, acceptable.reserved,
      ⟨acceptable.countPositive.ne', acceptable.countUpper.not_gt⟩, ?_, ?_, ?_,
      acceptable.length.symm, ?_, ⟨acceptable.sources.ne', ?_⟩, rfl⟩
    · simp
      omega
    · rw [Nat.mod_eq_of_lt whole]
      exact acceptable.payloadLength
    · simp [headerBytes]
      omega
    · rw [← acceptable.length]
      exact acceptable.lengthUpper.not_gt
    · rcases acceptable.jobId with ⟨position, lower, upper, nonzero⟩
      exact fun zero => nonzero (zero position lower upper)

end Typxen.Protocol
