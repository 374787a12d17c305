import Typxen.Protocol.Encoding

/-! # The V1 format is canonical

Encoding and decoding are inverse: the encoding of a header and records that
satisfy the V1 rules decodes to them, and a byte string that decodes is the
encoding of what it decodes to. -/

namespace Typxen.Protocol

open Interaction ByteString

/-! ## The rules -/

structure RecordRules (record : Record) : Prop where
  hold : record.keyDownHoldUs.toNat = 8000
  modifier : record.modifier ≤ 0x03
  keycode : SupportedKeycode record.keycode
  flags : FlagsAllowed record.flags.toNat

structure PositionRules (count sources index : Nat) (record : Record) :
    Prop where
  sourceBound : record.sourceIndex.toNat ≤ sources
  sourcePositive : record.flags.toNat.testBit 0 = true →
    0 < record.sourceIndex.toNat
  cleanupMarked : record.flags.toNat.testBit 2 = true ↔ count ≤ index + 3
  cleanupKey : count ≤ index + 3 →
    (record.modifier, record.keycode) = cleanupKey (index + 3 - count)

/-- The V1 rules for a header and its records. -/
structure V1Rules (hash : List UInt8 → Vector UInt8 32) (header : Header)
    (records : List Record) : Prop where
  protocolMajor : header.protocolMajor = 1
  scheduleFormat : header.scheduleFormatVersion = 1
  actionCount : header.actionCount.toNat = records.length
  payloadBytes : header.payloadBytes.toNat = 32 * records.length
  sources : 0 < header.totalSourceCharacters.toNat
  jobId : ∃ byte ∈ header.jobId.toList, byte ≠ 0
  payloadSha256 : hash (encodePayload records) = header.payloadSha256
  countLower : 3 ≤ records.length
  each : ∀ record ∈ records, RecordRules record
  positions : ∀ index, (within : index < records.length) →
    PositionRules records.length header.totalSourceCharacters.toNat index
      records[index]
  monotone : records.Pairwise fun earlier later =>
    earlier.sourceIndex ≤ later.sourceIndex
  duration : (records.map Record.duration).sum =
    header.totalExpectedDurationUs.toNat

structure DelaysWithin (maxDelay : Nat) (record : Record) : Prop where
  waitBefore : record.waitBeforeKeyDownUs.toNat ≤ maxDelay
  hold : record.keyDownHoldUs.toNat ≤ maxDelay
  waitAfter : record.waitAfterReleaseUs.toNat ≤ maxDelay

structure Sufficient (limits : Limits) (records : List Record) : Prop where
  encodedBytes : 96 + 32 * records.length ≤ limits.maxEncodedBytes.toNat
  recordCount : records.length ≤ limits.maxRecordCount.toNat
  delays : ∀ record ∈ records,
    DelaysWithin limits.maxIndividualDelayUs.toNat record

/-! ## The rules and the bytes -/

section Records

variable {bytes : List UInt8} {index : Nat}

theorem acceptableRecord_iff {maxDelay : Nat} :
    AcceptableRecord maxDelay bytes index ↔
      RecordConstants bytes index ∧ RecordRules (recordAt bytes index) ∧
        DelaysWithin maxDelay (recordAt bytes index) := by
  constructor
  · intro acceptable
    refine ⟨⟨acceptable.actionKind, acceptable.progressPolicy,
      acceptable.reserved⟩, ⟨?_, ?_, ?_, ?_⟩, ⟨?_, ?_, ?_⟩⟩
    · simpa using acceptable.hold
    · simpa using acceptable.modifier
    · simpa using acceptable.keycode
    · simpa using acceptable.flags
    · simpa using acceptable.waitBefore
    · simpa using acceptable.holdWithin
    · simpa using acceptable.waitAfter
  · intro parts
    rcases parts with ⟨constants, rules, delays⟩
    exact {
      actionKind := constants.actionKind
      progressPolicy := constants.progressPolicy
      reserved := constants.reserved
      waitBefore := by simpa using delays.waitBefore
      holdWithin := by simpa using delays.hold
      waitAfter := by simpa using delays.waitAfter
      hold := by simpa using rules.hold
      modifier := by simpa using rules.modifier
      keycode := by simpa using rules.keycode
      flags := by simpa using rules.flags }

theorem acceptablePosition_iff {count sources : Nat} :
    AcceptablePosition bytes count sources index ↔
      PositionRules count sources index (recordAt bytes index) := by
  constructor
  · intro position
    refine ⟨?_, ?_, ?_, ?_⟩
    · simpa using position.sourceBound
    · simpa using position.sourcePositive
    · simpa using position.cleanupMarked
    · simpa using position.cleanupKey
  · intro rules
    refine ⟨?_, ?_, ?_, ?_⟩
    · simpa using rules.sourceBound
    · simpa using rules.sourcePositive
    · simpa using rules.cleanupMarked
    · simpa using rules.cleanupKey

theorem recordsOf_pairwise_iff :
    (recordsOf bytes).Pairwise
        (fun earlier later => earlier.sourceIndex ≤ later.sourceIndex) ↔
      ∀ index, index + 1 < actionCountOf bytes →
        sourceIndexAt bytes index ≤ sourceIndexAt bytes (index + 1) := by
  rw [← List.isChain_iff_pairwise, List.isChain_iff_getElem]
  simp only [recordsOf_length, recordsOf_getElem, UInt32.le_iff_toNat_le,
    recordAt_sourceIndex]

theorem recordsOf_duration :
    ((recordsOf bytes).map Record.duration).sum =
      ∑ index ∈ Finset.range (actionCountOf bytes), durationAt bytes index := by
  have durations : Record.duration ∘ recordAt bytes = durationAt bytes := by
    funext index
    exact recordAt_duration bytes index
  rw [recordsOf, List.map_map, durations]
  rfl

theorem forall_recordsOf {property : Record → Prop} :
    (∀ record ∈ recordsOf bytes, property record) ↔
      ∀ index < actionCountOf bytes, property (recordAt bytes index) := by
  simp [recordsOf]

end Records

section Bytes

variable {bytes : List UInt8} {limits : Limits}
  {hash : List UInt8 → Vector UInt8 32}

/-- An acceptable byte string is the encoding of what it decodes to. -/
theorem AcceptableV1.eq_encode (acceptable : AcceptableV1 limits hash bytes) :
    bytes = encode (headerOf bytes) (recordsOf bytes) := by
  apply (eq_encode_iff _ _ _).mpr
  refine ⟨?_, ?_, rfl, ?_⟩
  · rw [recordsOf_length]
    exact acceptable.length
  · exact ⟨acceptable.magic, acceptable.byteOrder, acceptable.headerLength,
      acceptable.recordLength, acceptable.requiredFlags, acceptable.reserved⟩
  · intro index within
    have bound : index < actionCountOf bytes := by
      rw [← recordsOf_length]
      exact within
    have constants :=
      (acceptableRecord_iff.mp (acceptable.records index bound)).1
    exact ⟨constants, (recordsOf_getElem bytes index within).symm⟩

/-- What an acceptable byte string decodes to satisfies the V1 rules. -/
theorem AcceptableV1.rules (acceptable : AcceptableV1 limits hash bytes) :
    V1Rules hash (headerOf bytes) (recordsOf bytes) := by
  have payload : payloadOf bytes = encodePayload (recordsOf bytes) := by
    conv_lhs => rw [acceptable.eq_encode]
    exact payloadOf_encode _ _
  rcases (headerOf_eq_iff bytes _).mp rfl with ⟨major, _, format, _⟩
  exact {
    protocolMajor := major.symm.trans acceptable.protocolMajor
    scheduleFormat := format.symm.trans acceptable.scheduleFormat
    actionCount := by rw [headerOf_actionCount, recordsOf_length]
    payloadBytes := by
      rw [headerOf_payloadBytes, recordsOf_length, acceptable.payloadLength]
    sources := by
      rw [headerOf_totalSourceCharacters]
      exact acceptable.sources
    jobId := by
      rcases acceptable.jobId with ⟨position, lower, upper, nonzero⟩
      refine ⟨byteAt bytes position, ?_, nonzero⟩
      rw [headerOf_jobId, Vector.mem_toList_iff, Vector.mem_iff_getElem]
      refine ⟨position - 40, by omega, ?_⟩
      rw [block_getElem, Nat.add_sub_cancel' lower]
    payloadSha256 := by
      rw [← payload, headerOf_payloadSha256, acceptable.payloadHash]
    countLower := by
      rw [recordsOf_length]
      exact acceptable.countLower
    each := by
      rw [forall_recordsOf]
      intro index within
      exact (acceptableRecord_iff.mp (acceptable.records index within)).2.1
    positions := by
      intro index within
      rw [recordsOf_getElem, recordsOf_length, headerOf_totalSourceCharacters]
      rw [recordsOf_length] at within
      exact acceptablePosition_iff.mp (acceptable.positions index within)
    monotone := recordsOf_pairwise_iff.mpr acceptable.monotone
    duration := by
      rw [recordsOf_duration, acceptable.duration,
        headerOf_totalExpectedDurationUs] }

theorem AcceptableV1.sufficient (acceptable : AcceptableV1 limits hash bytes) :
    Sufficient limits (recordsOf bytes) where
  encodedBytes := by
    rw [recordsOf_length, ← acceptable.length]
    exact acceptable.lengthUpper
  recordCount := by
    rw [recordsOf_length]
    exact acceptable.countUpper
  delays := by
    rw [forall_recordsOf]
    intro index within
    exact (acceptableRecord_iff.mp (acceptable.records index within)).2.2

end Bytes

/-- The encoding of a header and records that satisfy the V1 rules is
acceptable under sufficient limits. -/
theorem acceptableV1_encode {limits : Limits}
    {hash : List UInt8 → Vector UInt8 32} {header : Header}
    {records : List Record} (rules : V1Rules hash header records)
    (sufficient : Sufficient limits records) :
    AcceptableV1 limits hash (encode header records) := by
  have constants := headerConstants_encode header records
  have decoded := headerOf_encode header records
  have read := recordsOf_encode header records rules.actionCount
  have fields := (headerOf_eq_iff (encode header records) header).mp decoded
  rcases fields with ⟨major, _, format, _, payload, sources, duration, jobId,
    digest⟩
  have count : actionCountOf (encode header records) = records.length := by
    rw [actionCountOf_encode, rules.actionCount]
  have total : totalSourceCharactersOf (encode header records) =
      header.totalSourceCharacters.toNat := sources
  have monotone := rules.monotone
  have durations := rules.duration
  rw [← read, recordsOf_pairwise_iff] at monotone
  rw [← read, recordsOf_duration, ← duration] at durations
  have countLower := rules.countLower
  exact {
    magic := constants.magic
    protocolMajor := major.trans rules.protocolMajor
    scheduleFormat := format.trans rules.scheduleFormat
    byteOrder := constants.byteOrder
    headerLength := constants.headerLength
    recordLength := constants.recordLength
    requiredFlags := constants.requiredFlags
    reserved := constants.reserved
    countPositive := by omega
    countUpper := by
      rw [count]
      exact sufficient.recordCount
    payloadLength := by rw [payload, rules.payloadBytes, count]
    length := by rw [encode_length, count]
    lengthUpper := by
      rw [encode_length]
      exact sufficient.encodedBytes
    sources := by
      rw [total]
      exact rules.sources
    jobId := by
      rcases rules.jobId with ⟨byte, member, nonzero⟩
      rw [← jobId, Vector.mem_toList_iff, Vector.mem_iff_getElem] at member
      rcases member with ⟨index, within, rfl⟩
      rw [block_getElem] at nonzero
      exact ⟨40 + index, by omega, by omega, nonzero⟩
    payloadHash := by
      rw [payloadOf_encode, rules.payloadSha256]
      exact digest.symm
    countLower := by
      rw [count]
      exact countLower
    records := by
      intro index within
      rw [count] at within
      have member : records[index] ∈ records := List.getElem_mem within
      rw [acceptableRecord_iff, recordAt_encode header records index within]
      exact ⟨recordConstants_encode header records index within,
        rules.each _ member, sufficient.delays _ member⟩
    positions := by
      intro index within
      rw [count] at within
      rw [acceptablePosition_iff, recordAt_encode header records index within,
        count, total]
      exact rules.positions index within
    monotone := monotone
    duration := durations }

example : encode (headerOf letterSchedule) (recordsOf letterSchedule) =
    letterSchedule := by
  decide +kernel

/-! ## Decoding -/

def Returns {α : Type} (bytes : List UInt8)
    (hash : List UInt8 → Vector UInt8 32) (program : Firmware α) (value : α) :
    Prop :=
  ∀ before,
    (∃ trace result after,
      Program.Exec (servedBy bytes hash) program before trace result after) ∧
    ∀ trace result after,
      Program.Exec (servedBy bytes hash) program before trace result after →
      result = value

/-- Under `limits`, a stable reader of `bytes` verifies with `header`, and the
verified schedule reads as exactly `records`. -/
structure Decodes (hash : List UInt8 → Vector UInt8 32) (limits : Limits)
    (bytes : List UInt8) (header : Header) (records : List Record) : Prop where
  length_lt : bytes.length < 2 ^ 64
  verified : ∀ sizeBytes : UInt64, sizeBytes.toNat = bytes.length →
    Returns bytes hash
      (typxProtocolV1Verify (Reader.ofCallback sizeBytes) limits)
      (.ok (verifiedBy (Reader.ofCallback sizeBytes) limits header))
  actionCount : header.actionCount.toNat = records.length
  read : ∀ sizeBytes : UInt64, sizeBytes.toNat = bytes.length →
    ∀ index : UInt32, (within : index.toNat < records.length) →
    Returns bytes hash
      (typxProtocolV1ReadRecord
        (verifiedBy (Reader.ofCallback sizeBytes) limits header) index)
      (.ok records[index.toNat])
  refused : ∀ sizeBytes : UInt64, sizeBytes.toNat = bytes.length →
    ∀ index : UInt32, records.length ≤ index.toNat →
    Returns bytes hash
      (typxProtocolV1ReadRecord
        (verifiedBy (Reader.ofCallback sizeBytes) limits header) index)
      (.error .actionCountMismatch)

section Decoding

variable {bytes : List UInt8} {hash : List UInt8 → Vector UInt8 32}
  {limits : Limits}

theorem returns_of_ensures {α : Type}
    {program : Firmware (Except ProtocolError α)}
    {expected : Except ProtocolError α}
    (agrees : ∀ before, Program.Ensures (servedBy bytes hash) program before
      fun trace result _ =>
        True ∧ Agrees (fun _ => False) expected trace result) :
    Returns bytes hash program expected := by
  intro before
  refine ⟨Program.exists_exec servedBy_total _ _, ?_⟩
  intro trace result after execution
  have outcome := (agrees before trace result after execution).2
  exact outcome.eq_of_not_faulted (by simp [Faulted])

theorem Returns.unique {α : Type} {program : Firmware α} {first second : α}
    (returnsFirst : Returns bytes hash program first)
    (returnsSecond : Returns bytes hash program second) : first = second := by
  rcases (returnsFirst []).1 with ⟨trace, result, after, execution⟩
  rw [← (returnsFirst []).2 trace result after execution,
    ← (returnsSecond []).2 trace result after execution]

theorem typxProtocolV1Verify_returns {sizeBytes : UInt64}
    (size : sizeBytes.toNat = bytes.length) :
    Returns bytes hash
      (typxProtocolV1Verify (Reader.ofCallback sizeBytes) limits)
      ((verdict hash limits bytes).map
        (verifiedBy (Reader.ofCallback sizeBytes) limits)) := by
  apply returns_of_ensures
  intro before
  exact typxProtocolV1Verify_ensures (servedBy_serves size) servedBy_hashes
    before trivial

theorem AcceptableV1.decodes (acceptable : AcceptableV1 limits hash bytes) :
    Decodes hash limits bytes (headerOf bytes) (recordsOf bytes) where
  length_lt := by
    have count := acceptable.count_lt
    have length := acceptable.length
    omega
  verified := by
    intro sizeBytes size
    have fits : bytes.length < 2 ^ 64 := size ▸ sizeBytes.toNat_lt
    have decided := (verdict_eq_ok_iff fits).mpr ⟨acceptable, rfl⟩
    have expected : (verdict hash limits bytes).map
        (verifiedBy (Reader.ofCallback sizeBytes) limits) =
          .ok (verifiedBy (Reader.ofCallback sizeBytes) limits
            (headerOf bytes)) := by
      rw [decided]
      rfl
    rw [← expected]
    exact typxProtocolV1Verify_returns size
  actionCount := by rw [headerOf_actionCount, recordsOf_length]
  read := by
    intro sizeBytes size index within
    have more : index < (headerOf bytes).actionCount := by
      rw [UInt32.lt_iff_toNat_lt, headerOf_actionCount, ← recordsOf_length]
      exact within
    rw [recordsOf_getElem]
    apply returns_of_ensures
    intro before
    exact typxProtocolV1ReadRecord_ensures (servedBy_serves size) acceptable
      more before trivial
  refused := by
    intro sizeBytes _ index beyond before
    rw [recordsOf_length, ← headerOf_actionCount,
      ← UInt32.le_iff_toNat_le] at beyond
    have above : index ≥ (verifiedBy (Reader.ofCallback sizeBytes) limits
        (headerOf bytes)).header.actionCount := beyond
    rw [typxProtocolV1ReadRecord, if_neg (by simp [verifiedBy,
      typxProtocolV1IsVerified]), if_pos above]
    refine ⟨Program.exists_exec servedBy_total _ _, ?_⟩
    intro trace result after execution
    exact (Program.exec_done_iff.mp execution).2.1

theorem Decodes.acceptable {header : Header} {records : List Record}
    (decodes : Decodes hash limits bytes header records) :
    AcceptableV1 limits hash bytes ∧ headerOf bytes = header := by
  have size : (UInt64.ofNat bytes.length).toNat = bytes.length := by
    rw [UInt64.toNat_ofNat', Nat.mod_eq_of_lt decodes.length_lt]
  have equal := (typxProtocolV1Verify_returns size).unique
    (decodes.verified _ size)
  cases decided : verdict hash limits bytes with
  | error error =>
      rw [decided] at equal
      cases equal
  | ok decoded =>
      rw [decided] at equal
      have same : decoded = header :=
        congrArg VerifiedSchedule.header (Except.ok.inj equal)
      rcases (verdict_eq_ok_iff decodes.length_lt).mp decided with
        ⟨acceptable, rfl⟩
      exact ⟨acceptable, same⟩

theorem Decodes.recordsOf_eq {header : Header} {records : List Record}
    (decodes : Decodes hash limits bytes header records) :
    recordsOf bytes = records := by
  rcases decodes.acceptable with ⟨acceptable, rfl⟩
  have size : (UInt64.ofNat bytes.length).toNat = bytes.length := by
    rw [UInt64.toNat_ofNat', Nat.mod_eq_of_lt decodes.length_lt]
  have count := acceptable.decodes.actionCount
  have lengths : (recordsOf bytes).length = records.length := by
    rw [← count, decodes.actionCount]
  apply List.ext_getElem lengths
  intro index within bound
  have small := (headerOf bytes).actionCount.toNat_lt
  have position : (UInt32.ofNat index).toNat = index := by
    rw [UInt32.toNat_ofNat', Nat.mod_eq_of_lt (by omega)]
  have first := acceptable.decodes.read _ size (UInt32.ofNat index)
    (by rw [position]; exact within)
  have second := decodes.read _ size (UInt32.ofNat index)
    (by rw [position]; exact bound)
  simp only [position] at first second
  exact Except.ok.inj (first.unique second)

/-- Decoding is the inverse of encoding: a byte string decodes to a header and
records exactly when it is their encoding and they satisfy the rules. -/
theorem decodes_iff {header : Header} {records : List Record} :
    Decodes hash limits bytes header records ↔
      V1Rules hash header records ∧ Sufficient limits records ∧
        bytes = encode header records := by
  constructor
  · intro decodes
    rcases decodes.acceptable with ⟨acceptable, rfl⟩
    rw [← decodes.recordsOf_eq]
    exact ⟨acceptable.rules, acceptable.sufficient, acceptable.eq_encode⟩
  · intro encoded
    rcases encoded with ⟨rules, sufficient, rfl⟩
    have decodes := (acceptableV1_encode rules sufficient).decodes
    rw [headerOf_encode, recordsOf_encode header records rules.actionCount]
      at decodes
    exact decodes

end Decoding

/-! ## The format -/

/-- Encoding and decoding are inverse, with `hash` computing the payload
digest. -/
structure Canonical (hash : List UInt8 → Vector UInt8 32) : Prop where
  accepted : ∀ limits header records, V1Rules hash header records →
    Sufficient limits records →
    Decodes hash limits (encode header records) header records
  encoded : ∀ limits bytes (sizeBytes : UInt64) before trace schedule after,
    sizeBytes.toNat = bytes.length →
    Program.Exec (servedBy bytes hash)
      (typxProtocolV1Verify (Reader.ofCallback sizeBytes) limits) before trace
      (.ok schedule) after →
    ∃ records, Decodes hash limits bytes schedule.header records ∧
      V1Rules hash schedule.header records ∧ Sufficient limits records ∧
      bytes = encode schedule.header records
  determined : ∀ limits otherLimits bytes otherBytes header records,
    Decodes hash limits bytes header records →
    Decodes hash otherLimits otherBytes header records → bytes = otherBytes

/-- The V1 format is canonical. -/
theorem v1Format_isCanonical (hash : List UInt8 → Vector UInt8 32) :
    Canonical hash where
  accepted := by
    intro limits header records rules sufficient
    exact decodes_iff.mpr ⟨rules, sufficient, rfl⟩
  encoded := by
    intro limits bytes sizeBytes before trace schedule after size execution
    have fits : bytes.length < 2 ^ 64 := size ▸ sizeBytes.toNat_lt
    have result := (typxProtocolV1Verify_returns size before).2 _ _ _ execution
    cases decided : verdict hash limits bytes with
    | error error =>
        rw [decided] at result
        cases result
    | ok header =>
        rw [decided] at result
        cases result
        have decodes := ((verdict_eq_ok_iff fits).mp decided).1.decodes
        rw [← ((verdict_eq_ok_iff fits).mp decided).2] at decodes
        exact ⟨recordsOf bytes, decodes, decodes_iff.mp decodes⟩
  determined := by
    intro limits otherLimits bytes otherBytes header records decodes other
    rw [(decodes_iff.mp decodes).2.2, (decodes_iff.mp other).2.2]

end Typxen.Protocol
