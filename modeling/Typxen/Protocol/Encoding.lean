import Typxen.Foundation.Layout
import Typxen.Protocol.Acceptance

/-! # The V1 encoding

The byte layout of a header and its records, the rules they must satisfy, and
that a byte string is acceptable exactly when it is the encoding of a header
and records that satisfy them. -/

namespace Typxen.Protocol

open Interaction ByteString

/-! ## The layout -/

def encodeHeader (header : Header) : List UInt8 :=
  magic.toList ++
    [header.protocolMajor, header.protocolMinor, header.scheduleFormatVersion,
      1] ++
    numberBytes 2 96 ++ numberBytes 2 32 ++ numberBytes 4 3 ++
    numberBytes 4 header.actionCount.toNat ++
    numberBytes 4 header.payloadBytes.toNat ++
    numberBytes 4 header.totalSourceCharacters.toNat ++
    numberBytes 8 header.totalExpectedDurationUs.toNat ++
    header.jobId.toList ++ header.payloadSha256.toList ++ List.replicate 8 0

def encodeRecord (record : Record) : List UInt8 :=
  numberBytes 4 record.waitBeforeKeyDownUs.toNat ++
    numberBytes 4 record.keyDownHoldUs.toNat ++
    numberBytes 4 record.waitAfterReleaseUs.toNat ++
    numberBytes 4 record.sourceIndex.toNat ++
    [record.modifier, record.keycode] ++
    numberBytes 2 record.flags.toNat ++ [1, 1] ++ List.replicate 10 0

def encodePayload (records : List Record) : List UInt8 :=
  records.flatMap encodeRecord

def encode (header : Header) (records : List Record) : List UInt8 :=
  encodeHeader header ++ encodePayload records

theorem encodeHeader_length (header : Header) :
    (encodeHeader header).length = 96 := by
  simp [encodeHeader]

theorem encodeRecord_length (record : Record) :
    (encodeRecord record).length = 32 := by
  simp [encodeRecord]

theorem encode_length (header : Header) (records : List Record) :
    (encode header records).length = 96 + 32 * records.length := by
  rw [encode, List.length_append, encodeHeader_length, encodePayload,
    flatMap_length encodeRecord_length]

/-! ## Reading the layout -/

structure HeaderConstants (bytes : List UInt8) : Prop where
  magic : block bytes 0 8 = magic
  byteOrder : byteAt bytes 11 = 1
  headerLength : littleEndian bytes 12 2 = 96
  recordLength : littleEndian bytes 14 2 = 32
  requiredFlags : littleEndian bytes 16 4 = 3
  reserved : ∀ position, 88 ≤ position → position < 96 →
    byteAt bytes position = 0

structure RecordConstants (bytes : List UInt8) (index : Nat) : Prop where
  actionKind : byteAt bytes (recordStart index + 20) = 1
  progressPolicy : byteAt bytes (recordStart index + 21) = 1
  reserved : ∀ position, recordStart index + 22 ≤ position →
    position < recordStart index + 32 → byteAt bytes position = 0

theorem headerOf_eq_iff (bytes : List UInt8) (header : Header) :
    headerOf bytes = header ↔
      byteAt bytes 8 = header.protocolMajor ∧
        byteAt bytes 9 = header.protocolMinor ∧
        byteAt bytes 10 = header.scheduleFormatVersion ∧
        littleEndian bytes 20 4 = header.actionCount.toNat ∧
        littleEndian bytes 24 4 = header.payloadBytes.toNat ∧
        littleEndian bytes 28 4 = header.totalSourceCharacters.toNat ∧
        littleEndian bytes 32 8 = header.totalExpectedDurationUs.toNat ∧
        block bytes 40 16 = header.jobId ∧
        block bytes 56 32 = header.payloadSha256 := by
  cases header
  simp only [headerOf, headerFields, Header.mk.injEq, block_getElem,
    ← UInt32.toNat_inj, ← UInt64.toNat_inj, readU32Le_block, readU64Le_block,
    window_block, Nat.zero_add]

theorem recordAt_eq_iff (bytes : List UInt8) (index : Nat) (record : Record) :
    recordAt bytes index = record ↔
      waitBeforeAt bytes index = record.waitBeforeKeyDownUs.toNat ∧
        holdAt bytes index = record.keyDownHoldUs.toNat ∧
        waitAfterAt bytes index = record.waitAfterReleaseUs.toNat ∧
        sourceIndexAt bytes index = record.sourceIndex.toNat ∧
        modifierAt bytes index = record.modifier ∧
        keycodeAt bytes index = record.keycode ∧
        flagsAt bytes index = record.flags.toNat := by
  cases record
  simp only [recordAt, recordFields, Record.mk.injEq, block_getElem,
    ← UInt32.toNat_inj, ← UInt16.toNat_inj, readU32Le_block, readU16Le_block,
    Nat.add_zero]
  rfl

theorem holds_encodeHeader_iff (bytes : List UInt8) (header : Header) :
    Holds bytes 0 (encodeHeader header) ↔
      HeaderConstants bytes ∧ headerOf bytes = header := by
  have count := Nat.mod_eq_of_lt header.actionCount.toNat_lt
  have payload := Nat.mod_eq_of_lt header.payloadBytes.toNat_lt
  have sources := Nat.mod_eq_of_lt header.totalSourceCharacters.toNat_lt
  have duration := Nat.mod_eq_of_lt header.totalExpectedDurationUs.toNat_lt
  simp only [Nat.reducePow] at count payload sources duration
  simp only [encodeHeader, holds_append, holds_cons, holds_nil, holds_vector,
    holds_numberBytes, holds_replicate, List.length_append, List.length_cons,
    List.length_nil, Vector.length_toList, numberBytes_length,
    Nat.reduceAdd, Nat.reducePow, Nat.reduceMod, count, payload, sources,
    duration, headerOf_eq_iff]
  constructor
  · intro holds
    rcases holds with ⟨⟨⟨⟨⟨⟨⟨⟨⟨⟨⟨magic, major, minor, format, order, _⟩,
      headerLength⟩, recordLength⟩, required⟩, actions⟩, size⟩, characters⟩,
      total⟩, job⟩, digest⟩, reserved⟩
    exact ⟨⟨magic, order, headerLength, recordLength, required, reserved⟩,
      major, minor, format, actions, size, characters, total, job, digest⟩
  · intro read
    rcases read with ⟨⟨magic, order, headerLength, recordLength, required,
      reserved⟩, major, minor, format, actions, size, characters, total, job,
      digest⟩
    exact ⟨⟨⟨⟨⟨⟨⟨⟨⟨⟨⟨magic, major, minor, format, order, trivial⟩,
      headerLength⟩, recordLength⟩, required⟩, actions⟩, size⟩, characters⟩,
      total⟩, job⟩, digest⟩, reserved⟩

theorem holds_encodeRecord_iff (bytes : List UInt8) (index : Nat)
    (record : Record) :
    Holds bytes (recordStart index) (encodeRecord record) ↔
      RecordConstants bytes index ∧ recordAt bytes index = record := by
  have before := Nat.mod_eq_of_lt record.waitBeforeKeyDownUs.toNat_lt
  have hold := Nat.mod_eq_of_lt record.keyDownHoldUs.toNat_lt
  have after := Nat.mod_eq_of_lt record.waitAfterReleaseUs.toNat_lt
  have source := Nat.mod_eq_of_lt record.sourceIndex.toNat_lt
  have flags := Nat.mod_eq_of_lt record.flags.toNat_lt
  simp only [Nat.reducePow] at before hold after source flags
  simp only [encodeRecord, holds_append, holds_cons, holds_nil,
    holds_numberBytes, holds_replicate, List.length_append, List.length_cons,
    List.length_nil, numberBytes_length, Nat.reduceAdd, Nat.reducePow, before,
    hold, after, source, flags, recordAt_eq_iff]
  constructor
  · intro holds
    rcases holds with ⟨⟨⟨⟨⟨⟨⟨before, hold⟩, after⟩, source⟩, modifier, keycode,
      _⟩, flags⟩, kind, policy, _⟩, reserved⟩
    exact ⟨⟨kind, policy, reserved⟩, before, hold, after, source, modifier,
      keycode, flags⟩
  · intro read
    rcases read with ⟨⟨kind, policy, reserved⟩, before, hold, after, source,
      modifier, keycode, flags⟩
    exact ⟨⟨⟨⟨⟨⟨⟨before, hold⟩, after⟩, source⟩, modifier, keycode, trivial⟩,
      flags⟩, kind, policy, trivial⟩, reserved⟩

/-- What stands in the encoding of a header and records, and in no other byte
string: the constants, the header and each record, and nothing after them. -/
theorem eq_encode_iff (bytes : List UInt8) (header : Header)
    (records : List Record) :
    bytes = encode header records ↔
      bytes.length = 96 + 32 * records.length ∧
        HeaderConstants bytes ∧ headerOf bytes = header ∧
        ∀ index, (within : index < records.length) →
          RecordConstants bytes index ∧
            recordAt bytes index = records[index] := by
  have holds : Holds bytes 0 (encode header records) ↔
      (HeaderConstants bytes ∧ headerOf bytes = header) ∧
        ∀ index, (within : index < records.length) →
          RecordConstants bytes index ∧
            recordAt bytes index = records[index] := by
    rw [encode, holds_append, holds_encodeHeader_iff, encodeHeader_length,
      encodePayload, holds_flatMap encodeRecord_length, Nat.zero_add]
    apply and_congr_right
    intro _
    apply forall_congr'
    intro index
    apply forall_congr'
    intro within
    exact holds_encodeRecord_iff bytes index records[index]
  constructor
  · intro equal
    have stands : Holds bytes 0 (encode header records) := by
      rw [← equal]
      exact holds_self bytes
    rcases holds.mp stands with ⟨⟨constants, decoded⟩, read⟩
    refine ⟨?_, constants, decoded, read⟩
    rw [equal, encode_length]
  · intro read
    rcases read with ⟨length, constants, decoded, read⟩
    apply eq_of_holds (holds.mpr ⟨⟨constants, decoded⟩, read⟩)
    rw [length, encode_length]

/-! ## The decoded records -/

def recordsOf (bytes : List UInt8) : List Record :=
  (List.range (actionCountOf bytes)).map (recordAt bytes)

@[simp] theorem recordsOf_length (bytes : List UInt8) :
    (recordsOf bytes).length = actionCountOf bytes := by
  simp [recordsOf]

theorem recordsOf_getElem (bytes : List UInt8) (index : Nat)
    (within : index < (recordsOf bytes).length) :
    (recordsOf bytes)[index] = recordAt bytes index := by
  simp [recordsOf]

section Encoded

variable (header : Header) (records : List Record)

theorem headerConstants_encode : HeaderConstants (encode header records) :=
  ((eq_encode_iff _ header records).mp rfl).2.1

@[simp] theorem headerOf_encode : headerOf (encode header records) = header :=
  ((eq_encode_iff _ header records).mp rfl).2.2.1

theorem recordConstants_encode (index : Nat)
    (within : index < records.length) :
    RecordConstants (encode header records) index :=
  (((eq_encode_iff _ header records).mp rfl).2.2.2 index within).1

theorem recordAt_encode (index : Nat) (within : index < records.length) :
    recordAt (encode header records) index = records[index] :=
  (((eq_encode_iff _ header records).mp rfl).2.2.2 index within).2

@[simp] theorem payloadOf_encode :
    payloadOf (encode header records) = encodePayload records := by
  rw [payloadOf, encode, List.drop_left' (encodeHeader_length header)]

@[simp] theorem actionCountOf_encode :
    actionCountOf (encode header records) = header.actionCount.toNat := by
  rw [← headerOf_actionCount, headerOf_encode]

theorem recordsOf_encode (counted : header.actionCount.toNat = records.length) :
    recordsOf (encode header records) = records := by
  apply List.ext_getElem
  · rw [recordsOf_length, actionCountOf_encode, counted]
  · intro index _ within
    rw [recordsOf_getElem, recordAt_encode header records index within]

end Encoded

end Typxen.Protocol
