import Typxen.Callbacks
import Typxen.Foundation.ByteString

/-! # The schedule verifier

`typx_protocol.c`. A buffer filled by a reader is a fixed-size vector; results
that the C code returns as an error code together with an output parameter are
`Except` values. -/

namespace Typxen.Protocol

open Interaction ByteString

def headerBytes : UInt64 := 96
def recordBytes : UInt64 := 32
def verificationToken : UInt32 := 0x54595058
def headerRequiredFlags : UInt32 := 0x00000003
def recordAllowedFlags : UInt16 := 0x000f
def actionKindKeystroke : UInt8 := 1
def progressAfterRelease : UInt8 := 1

def recordFlagSource : UInt16 := 0x0001
def recordFlagTechnical : UInt16 := 0x0002
def recordFlagFinalCleanup : UInt16 := 0x0004
def recordFlagReleaseAll : UInt16 := 0x0008

/-- `TYPXHID1`. -/
def magic : Vector UInt8 8 := #v[0x54, 0x59, 0x50, 0x58, 0x48, 0x49, 0x44, 0x31]

/-- `typx_reader_t`. The context pointer is whatever `readAt` closes over; a
reader reaches storage, never the executor's interface. -/
structure Reader where
  sizeBytes : UInt64
  readAt : UInt64 → (length : Nat) → Firmware (Option (Vector UInt8 length))
  quiet : ∀ offset length, Quiet (readAt offset length)

/-- A reader behind a plain function pointer. -/
def Reader.ofCallback (sizeBytes : UInt64) : Reader where
  sizeBytes := sizeBytes
  readAt offset length := Program.call (S := callbacks) (.readAt offset length)
  quiet _ _ := ⟨rfl, fun _ => trivial⟩

/-- `typx_protocol_limits_t`. -/
structure Limits where
  maxEncodedBytes : UInt64
  maxRecordCount : UInt32
  maxIndividualDelayUs : UInt32
  deriving DecidableEq, Repr

/-- `typx_protocol_header_v1_t`. -/
structure Header where
  protocolMajor : UInt8
  protocolMinor : UInt8
  scheduleFormatVersion : UInt8
  actionCount : UInt32
  payloadBytes : UInt32
  totalSourceCharacters : UInt32
  totalExpectedDurationUs : UInt64
  jobId : Vector UInt8 16
  payloadSha256 : Vector UInt8 32
  deriving DecidableEq, Repr

/-- `typx_protocol_record_v1_t`. -/
structure Record where
  waitBeforeKeyDownUs : UInt32
  keyDownHoldUs : UInt32
  waitAfterReleaseUs : UInt32
  sourceIndex : UInt32
  modifier : UInt8
  keycode : UInt8
  flags : UInt16
  deriving DecidableEq, Repr

/-- `typx_verified_schedule_v1_t`. A zeroed schedule has no reader. -/
structure VerifiedSchedule where
  verificationToken : UInt32
  reader : Option Reader
  limits : Limits
  header : Header

/-- `memset(&schedule, 0, sizeof(schedule))`. -/
def VerifiedSchedule.zero : VerifiedSchedule where
  verificationToken := 0
  reader := none
  limits := ⟨0, 0, 0⟩
  header := ⟨0, 0, 0, 0, 0, 0, 0, Vector.replicate 16 0, Vector.replicate 32 0⟩

section Buffers

variable {size : Nat}

/-- The bytes `buffer + offset`, up to `length` of them. -/
def window (buffer : Vector UInt8 size) (offset length : Nat)
    (within : offset + length ≤ size := by decide) : Vector UInt8 length :=
  Vector.ofFn fun index => buffer[offset + index.val]

def readU16Le (bytes : Vector UInt8 size) (offset : Nat)
    (within : offset + 2 ≤ size := by decide) : UInt16 :=
  bytes[offset].toUInt16 ||| (bytes[offset + 1].toUInt16 <<< 8)

def readU32Le (bytes : Vector UInt8 size) (offset : Nat)
    (within : offset + 4 ≤ size := by decide) : UInt32 :=
  bytes[offset].toUInt32 |||
    (bytes[offset + 1].toUInt32 <<< 8) |||
    (bytes[offset + 2].toUInt32 <<< 16) |||
    (bytes[offset + 3].toUInt32 <<< 24)

def readU64Le (bytes : Vector UInt8 size) (offset : Nat)
    (within : offset + 8 ≤ size := by decide) : UInt64 :=
  (readU32Le bytes offset (by omega)).toUInt64 |||
    ((readU32Le bytes (offset + 4) (by omega)).toUInt64 <<< 32)

theorem readU16Le_toNat (bytes : Vector UInt8 size) (offset : Nat)
    (within : offset + 2 ≤ size) :
    (readU16Le bytes offset within).toNat =
      bytes[offset].toNat + 256 * bytes[offset + 1].toNat := by
  simp only [readU16Le, UInt16.toNat_or, UInt16.toNat_shiftLeft,
    UInt8.toNat_toUInt16, UInt16.reduceToNat, Nat.reduceMod]
  rw [shifted_mod _ 8 16 (UInt8.toNat_lt _) (by decide)]
  exact or_shifted _ _ 8 (UInt8.toNat_lt _)

theorem readU32Le_toNat (bytes : Vector UInt8 size) (offset : Nat)
    (within : offset + 4 ≤ size) :
    (readU32Le bytes offset within).toNat =
      bytes[offset].toNat + 256 * bytes[offset + 1].toNat +
        65536 * bytes[offset + 2].toNat +
        16777216 * bytes[offset + 3].toNat := by
  have first := bytes[offset].toNat_lt
  have second := bytes[offset + 1].toNat_lt
  have third := bytes[offset + 2].toNat_lt
  simp only [readU32Le, UInt32.toNat_or, UInt32.toNat_shiftLeft,
    UInt8.toNat_toUInt32, UInt32.reduceToNat, Nat.reduceMod]
  rw [shifted_mod _ 8 32 second (by decide),
    shifted_mod _ 16 32 third (by decide),
    shifted_mod _ 24 32 (UInt8.toNat_lt _) (by decide),
    or_shifted _ _ 8 first, or_shifted _ _ 16 (by omega),
    or_shifted _ _ 24 (by omega)]
  omega

theorem readU64Le_toNat (bytes : Vector UInt8 size) (offset : Nat)
    (within : offset + 8 ≤ size) :
    (readU64Le bytes offset within).toNat =
      (readU32Le bytes offset (by omega)).toNat +
        4294967296 * (readU32Le bytes (offset + 4) (by omega)).toNat := by
  have high := (readU32Le bytes (offset + 4) (by omega)).toNat_lt
  simp only [readU64Le, UInt64.toNat_or, UInt64.toNat_shiftLeft,
    UInt32.toNat_toUInt64, UInt64.reduceToNat, Nat.reduceMod]
  rw [Nat.mod_eq_of_lt (by rw [Nat.shiftLeft_eq]; omega)]
  exact or_shifted _ _ 32 (UInt32.toNat_lt _)

def allZero (bytes : Vector UInt8 size) : Bool :=
  bytes.all (· == 0)

end Buffers

def readExact (reader : Reader) (offset : UInt64) (length : Nat) :
    Firmware (Option (Vector UInt8 length)) :=
  if offset > reader.sizeBytes ||
      UInt64.ofNat length > reader.sizeBytes - offset then
    return none
  else
    reader.readAt offset length

def supportedKeycode (keycode : UInt8) : Bool :=
  (keycode ≥ 0x04 && keycode ≤ 0x31) ||
    (keycode ≥ 0x33 && keycode ≤ 0x38) ||
    keycode == 0x4a || keycode == 0x4c ||
    keycode == 0x4d || keycode == 0x4f

def recordFields (bytes : Vector UInt8 32) : Record where
  waitBeforeKeyDownUs := readU32Le bytes 0
  keyDownHoldUs := readU32Le bytes 4
  waitAfterReleaseUs := readU32Le bytes 8
  sourceIndex := readU32Le bytes 12
  modifier := bytes[16]
  keycode := bytes[17]
  flags := readU16Le bytes 18

def decodeRecord (bytes : Vector UInt8 32) (maxDelayUs : UInt32) :
    Except ProtocolError Record :=
  let record := recordFields bytes
  let classification :=
    record.flags &&& (recordFlagSource ||| recordFlagTechnical)
  if !allZero (window bytes 22 10) then
    .error .reservedFieldNonzero
  else if bytes[20] != actionKindKeystroke ||
      bytes[21] != progressAfterRelease then
    .error .flagsInvalid
  else if record.waitBeforeKeyDownUs > maxDelayUs ||
      record.keyDownHoldUs > maxDelayUs ||
      record.waitAfterReleaseUs > maxDelayUs ||
      record.keyDownHoldUs != 8000 then
    .error .delayInvalid
  else if record.modifier &&& ~~~0x03 != 0 then
    .error .modifierInvalid
  else if !supportedKeycode record.keycode then
    .error .keycodeUnsupported
  else if record.flags &&& ~~~recordAllowedFlags != 0 ||
      record.flags &&& recordFlagReleaseAll == 0 ||
      (classification != recordFlagSource &&
        classification != recordFlagTechnical) ||
      (record.flags &&& recordFlagFinalCleanup != 0 &&
        classification != recordFlagTechnical) then
    .error .flagsInvalid
  else
    .ok record

def readRecordUnverified (reader : Reader) (index : UInt32)
    (maxDelayUs : UInt32) : Firmware (Except ProtocolError Record) := do
  let offset := headerBytes + index.toUInt64 * recordBytes
  match ← readExact reader offset 32 with
  | none => return .error .readerError
  | some bytes => return decodeRecord bytes maxDelayUs

/-- The loop of `verify_payload_sha256`; false when a read or an update
fails. -/
def hashPayload (reader : Reader) (offset : UInt64) (remaining : Nat) :
    Firmware Bool :=
  if _ : remaining > 0 then do
    let chunk := min remaining 256
    match ← readExact reader offset chunk with
    | none => return false
    | some buffer =>
        if ← Sha256.update buffer.toList then
          hashPayload reader (offset + UInt64.ofNat chunk) (remaining - chunk)
        else
          return false
  else
    return true
termination_by remaining

def verifyPayloadSha256 (reader : Reader) (header : Header) :
    Firmware (Except ProtocolError Unit) := do
  if !(← Sha256.begin) then
    return .error .readerError
  else if !(← hashPayload reader headerBytes header.payloadBytes.toNat) then
    return .error .readerError
  else
    match ← Sha256.finish with
    | none => return .error .readerError
    | some digest =>
        if digest == header.payloadSha256 then
          return .ok ()
        else
          return .error .checksumMismatch

def cleanupModifiers : List UInt8 := [0x00, 0x03, 0x00]
def cleanupKeycodes : List UInt8 := [0x29, 0x4d, 0x4c]

def recordDuration (record : Record) : UInt64 :=
  record.waitBeforeKeyDownUs.toUInt64 + record.keyDownHoldUs.toUInt64 +
    record.waitAfterReleaseUs.toUInt64

/-- The body of the loop of `validate_records` after the record is read:
the new running duration, or the record's error. -/
def checkRecord (header : Header) (index previousSourceIndex : UInt32)
    (totalDuration : UInt64) (record : Record) : Except ProtocolError UInt64 :=
  let shouldBeCleanup := decide (index ≥ header.actionCount - 3)
  let markedCleanup := record.flags &&& recordFlagFinalCleanup != 0
  let cleanupIndex := (index - (header.actionCount - 3)).toNat
  if record.sourceIndex < previousSourceIndex ||
      record.sourceIndex > header.totalSourceCharacters ||
      (record.flags &&& recordFlagSource != 0 && record.sourceIndex == 0) then
    .error .sourceIndexInvalid
  else if markedCleanup != shouldBeCleanup then
    .error .finalCleanupInvalid
  else if shouldBeCleanup &&
      (record.modifier != cleanupModifiers.getD cleanupIndex 0 ||
        record.keycode != cleanupKeycodes.getD cleanupIndex 0) then
    .error .finalCleanupInvalid
  else if 0xffffffffffffffff - totalDuration < recordDuration record then
    .error .integerOverflow
  else
    .ok (totalDuration + recordDuration record)

/-- The loop of `validate_records` with `remaining` records left, returning
the total duration. -/
def validateRecordsFrom (reader : Reader) (limits : Limits) (header : Header) :
    (remaining : Nat) → (index previousSourceIndex : UInt32) →
    (totalDuration : UInt64) → Firmware (Except ProtocolError UInt64)
  | 0, _, _, totalDuration => return .ok totalDuration
  | remaining + 1, index, previousSourceIndex, totalDuration => do
      match ← readRecordUnverified reader index limits.maxIndividualDelayUs with
      | .error error => return .error error
      | .ok record =>
          match checkRecord header index previousSourceIndex totalDuration
              record with
          | .error error => return .error error
          | .ok newTotal =>
              validateRecordsFrom reader limits header remaining (index + 1)
                record.sourceIndex newTotal

/-- The comparison after the loop of `validate_records`. -/
def checkTotal (header : Header) (totalDuration : UInt64) :
    Except ProtocolError Unit :=
  if totalDuration == header.totalExpectedDurationUs && totalDuration > 0 then
    .ok ()
  else
    .error .totalDurationInvalid

def validateRecords (reader : Reader) (limits : Limits) (header : Header) :
    Firmware (Except ProtocolError Unit) := do
  if header.actionCount < 3 then
    return .error .finalCleanupInvalid
  else
    match ← validateRecordsFrom reader limits header header.actionCount.toNat
        0 0 0 with
    | .error error => return .error error
    | .ok totalDuration => return checkTotal header totalDuration

def typxProtocolV1GenericLimits : Limits where
  maxEncodedBytes := 8000096
  maxRecordCount := 250000
  maxIndividualDelayUs := 600000000

def typxProtocolV1Esp32CamLimits : Limits where
  maxEncodedBytes := 512 * 1024
  maxRecordCount := 16381
  maxIndividualDelayUs := 600000000

def headerFields (bytes : Vector UInt8 96) : Header where
  protocolMajor := bytes[8]
  protocolMinor := bytes[9]
  scheduleFormatVersion := bytes[10]
  actionCount := readU32Le bytes 20
  payloadBytes := readU32Le bytes 24
  totalSourceCharacters := readU32Le bytes 28
  totalExpectedDurationUs := readU64Le bytes 32
  jobId := window bytes 40 16
  payloadSha256 := window bytes 56 32

/-- The checks of `typx_protocol_v1_verify` between the header read and the
payload hash. -/
def checkHeader (bytes : Vector UInt8 96) (sizeBytes : UInt64)
    (limits : Limits) : Except ProtocolError Header :=
  let header := headerFields bytes
  let expectedPayload := header.actionCount.toUInt64 * recordBytes
  let expectedSize := headerBytes + expectedPayload
  if window bytes 0 8 != magic then
    .error .headerInvalid
  else if bytes[8] != 1 || bytes[10] != 1 then
    .error .versionIncompatible
  else if bytes[11] != 1 || readU16Le bytes 12 != 96 ||
      readU16Le bytes 14 != 32 then
    .error .headerInvalid
  else if readU32Le bytes 16 != headerRequiredFlags then
    .error .flagsInvalid
  else if !allZero (window bytes 88 8) then
    .error .reservedFieldNonzero
  else if header.actionCount == 0 ||
      header.actionCount > limits.maxRecordCount then
    .error .scheduleLimitExceeded
  else if expectedPayload > 0xffffffff then
    .error .integerOverflow
  else if header.payloadBytes != expectedPayload.toUInt32 then
    .error .actionCountMismatch
  else if 0xffffffffffffffff - headerBytes < expectedPayload then
    .error .integerOverflow
  else if expectedSize != sizeBytes then
    .error .payloadSizeInvalid
  else if expectedSize > limits.maxEncodedBytes then
    .error .scheduleLimitExceeded
  else if header.totalSourceCharacters == 0 || allZero header.jobId then
    .error (if header.totalSourceCharacters == 0 then
      .sourceIndexInvalid else .jobIdInvalid)
  else
    .ok header

/-- The checks of `typx_protocol_v1_verify` before the header read. -/
def checkSize (sizeBytes : UInt64) (limits : Limits) :
    Except ProtocolError Unit :=
  if limits.maxEncodedBytes < headerBytes || limits.maxRecordCount == 0 ||
      limits.maxIndividualDelayUs == 0 then
    .error .headerInvalid
  else if sizeBytes < headerBytes then
    .error .headerInvalid
  else if sizeBytes > limits.maxEncodedBytes then
    .error .scheduleLimitExceeded
  else
    .ok ()

def typxProtocolV1Verify (reader : Reader) (limits : Limits) :
    Firmware (Except ProtocolError VerifiedSchedule) := do
  match checkSize reader.sizeBytes limits with
  | .error error => return .error error
  | .ok () =>
  match ← readExact reader 0 96 with
  | none => return .error .readerError
  | some bytes =>
  match checkHeader bytes reader.sizeBytes limits with
  | .error error => return .error error
  | .ok header =>
  match ← verifyPayloadSha256 reader header with
  | .error error => return .error error
  | .ok () =>
  match ← validateRecords reader limits header with
  | .error error => return .error error
  | .ok () =>
    return .ok {
      verificationToken := verificationToken
      reader := some reader
      limits := limits
      header := header }

def typxProtocolV1IsVerified (schedule : VerifiedSchedule) : Bool :=
  schedule.verificationToken == verificationToken

def typxProtocolV1ReadRecord (schedule : VerifiedSchedule)
    (recordIndex : UInt32) : Firmware (Except ProtocolError Record) :=
  if !typxProtocolV1IsVerified schedule then
    return .error .notVerified
  else if recordIndex ≥ schedule.header.actionCount then
    return .error .actionCountMismatch
  else
    match schedule.reader with
    | none => return .error .readerError
    | some reader =>
        readRecordUnverified reader recordIndex
          schedule.limits.maxIndividualDelayUs

/-! ## The verifier is quiet -/

theorem readExact_quiet (reader : Reader) (offset : UInt64) (length : Nat) :
    Quiet (readExact reader offset length) := by
  unfold readExact
  split
  · exact trivial
  · exact reader.quiet offset length

theorem readRecordUnverified_quiet (reader : Reader) (index maxDelay : UInt32) :
    Quiet (readRecordUnverified reader index maxDelay) := by
  refine (readExact_quiet reader _ 32).bind ?_
  intro answer
  cases answer with
  | none => exact trivial
  | some bytes => exact trivial

theorem hashPayload_quiet (reader : Reader) (offset : UInt64)
    (remaining : Nat) : Quiet (hashPayload reader offset remaining) := by
  induction remaining using Nat.strongRecOn generalizing offset with
  | ind remaining induction =>
  rw [hashPayload]
  by_cases more : remaining > 0
  · rw [dif_pos more]
    refine (readExact_quiet reader offset _).bind ?_
    intro answer
    cases answer with
    | none => exact trivial
    | some buffer =>
        refine ⟨rfl, ?_⟩
        intro updated
        cases updated with
        | false => exact trivial
        | true => exact induction _ (by omega) _
  · rw [dif_neg more]
    exact trivial

theorem verifyPayloadSha256_quiet (reader : Reader) (header : Header) :
    Quiet (verifyPayloadSha256 reader header) := by
  refine ⟨rfl, ?_⟩
  intro began
  cases began with
  | false => exact trivial
  | true =>
  refine (hashPayload_quiet reader headerBytes _).bind ?_
  intro hashed
  cases hashed with
  | false => exact trivial
  | true =>
  refine ⟨rfl, ?_⟩
  intro digest
  cases digest with
  | none => exact trivial
  | some digest =>
      simp only [Program.bind]
      split
      · exact trivial
      · exact trivial

theorem validateRecordsFrom_quiet (reader : Reader) (limits : Limits)
    (header : Header) (remaining : Nat) (index previousSourceIndex : UInt32)
    (totalDuration : UInt64) :
    Quiet (validateRecordsFrom reader limits header remaining index
      previousSourceIndex totalDuration) := by
  induction remaining generalizing index previousSourceIndex totalDuration with
  | zero => exact trivial
  | succ remaining induction =>
      refine (readRecordUnverified_quiet reader index _).bind ?_
      intro decoded
      cases decoded with
      | error error => exact trivial
      | ok record =>
          simp only
          split
          · exact trivial
          · exact induction _ _ _

theorem validateRecords_quiet (reader : Reader) (limits : Limits)
    (header : Header) : Quiet (validateRecords reader limits header) := by
  unfold validateRecords
  split
  · exact trivial
  · refine (validateRecordsFrom_quiet reader limits header _ 0 0 0).bind ?_
    intro total
    cases total with
    | error error => exact trivial
    | ok total => exact trivial

theorem typxProtocolV1Verify_quiet (reader : Reader) (limits : Limits) :
    Quiet (typxProtocolV1Verify reader limits) := by
  unfold typxProtocolV1Verify
  split
  case h_1 => exact trivial
  refine (readExact_quiet reader 0 96).bind ?_
  intro answer
  cases answer with
  | none => exact trivial
  | some bytes =>
  simp only
  split
  case h_1 => exact trivial
  refine (verifyPayloadSha256_quiet reader _).bind ?_
  intro hashed
  cases hashed with
  | error error => exact trivial
  | ok _ =>
  refine (validateRecords_quiet reader limits _).bind ?_
  intro validated
  cases validated with
  | error error => exact trivial
  | ok _ => exact trivial

theorem typxProtocolV1ReadRecord_quiet (schedule : VerifiedSchedule)
    (recordIndex : UInt32) :
    Quiet (typxProtocolV1ReadRecord schedule recordIndex) := by
  unfold typxProtocolV1ReadRecord
  split
  · exact trivial
  · split
    · exact trivial
    · split
      · exact trivial
      · exact readRecordUnverified_quiet _ _ _

end Typxen.Protocol
