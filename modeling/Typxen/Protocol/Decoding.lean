import Typxen.Protocol.Verifier

/-! # What the field readers read

The field readers and masks of the verifier as numbers and bounds, so that no
later proof mentions a shift or a bitwise and. -/

namespace Typxen.Protocol

open Interaction ByteString

/-! ## Little-endian fields -/

section Blocks

variable (bytes : List UInt8) (start size offset : Nat)

theorem readU16Le_block (within : offset + 2 ≤ size) :
    (readU16Le (block bytes start size) offset within).toNat =
      littleEndian bytes (start + offset) 2 := by
  simp [readU16Le_toNat, littleEndian_two, Nat.add_assoc]

theorem readU32Le_block (within : offset + 4 ≤ size) :
    (readU32Le (block bytes start size) offset within).toNat =
      littleEndian bytes (start + offset) 4 := by
  simp [readU32Le_toNat, littleEndian_four, Nat.add_assoc]

theorem readU64Le_block (within : offset + 8 ≤ size) :
    (readU64Le (block bytes start size) offset within).toNat =
      littleEndian bytes (start + offset) 8 := by
  rw [readU64Le_toNat, readU32Le_block, readU32Le_block, littleEndian_eight,
    Nat.add_assoc]

theorem window_block (length : Nat) (within : offset + length ≤ size) :
    window (block bytes start size) offset length within =
      block bytes (start + offset) length := by
  apply Vector.ext
  intro index indexBound
  simp [window, Nat.add_assoc]

end Blocks

theorem allZero_iff {size : Nat} (bytes : Vector UInt8 size) :
    allZero bytes = true ↔ ∀ index, (within : index < size) → bytes[index] = 0 := by
  simp [allZero, Vector.all_eq_true]

theorem allZero_block_iff (bytes : List UInt8) (start size : Nat) :
    allZero (block bytes start size) = true ↔
      ∀ index, start ≤ index → index < start + size → byteAt bytes index = 0 := by
  rw [allZero_iff]
  constructor
  · intro zero index lower upper
    have atIndex := zero (index - start) (by omega)
    rw [block_getElem] at atIndex
    rwa [Nat.add_sub_cancel' lower] at atIndex
  · intro zero index within
    rw [block_getElem]
    exact zero _ (by omega) (by omega)

/-! ## Masks -/

theorem modifier_mask_iff (modifier : UInt8) :
    modifier &&& ~~~0x03 = 0 ↔ modifier ≤ 0x03 := by
  revert modifier
  apply forall_byte
  decide +kernel

/-- The values of a record's flags word that `decode_record` lets through, as
conditions on its bits. -/
structure FlagsAllowed (flags : Nat) : Prop where
  within : flags ≤ 0x0f
  releaseAll : flags.testBit 3 = true
  sourceOrTechnical : flags.testBit 0 = !flags.testBit 1
  cleanupTechnical : flags.testBit 2 = true → flags.testBit 1 = true

private theorem flags_small_iff (flags : UInt16) :
    flags &&& ~~~recordAllowedFlags = 0 ↔ flags.toNat ≤ 0x0f := by
  have mask : (flags &&& ~~~recordAllowedFlags).toNat = flags.toNat &&& 65520 := by
    rw [UInt16.toNat_and]
    rfl
  rw [← UInt16.toNat_inj, mask]
  have split : flags.toNat = (flags.toNat &&& 65520) ||| (flags.toNat &&& 15) := by
    rw [← Nat.and_or_distrib_left]
    have whole := Nat.and_two_pow_sub_one_of_lt_two_pow flags.toNat_lt
    simpa using whole.symm
  constructor
  · intro zero
    rw [split, zero]
    simpa using Nat.and_le_right (n := flags.toNat) (m := 15)
  · intro small
    generalize flags.toNat = value at small
    revert value
    decide

/-- The condition under which `decode_record` rejects a flags word. -/
def flagsRejected (flags : UInt16) : Bool :=
  let classification := flags &&& (recordFlagSource ||| recordFlagTechnical)
  flags &&& ~~~recordAllowedFlags != 0 ||
    flags &&& recordFlagReleaseAll == 0 ||
    (classification != recordFlagSource &&
      classification != recordFlagTechnical) ||
    (flags &&& recordFlagFinalCleanup != 0 &&
      classification != recordFlagTechnical)

instance (flags : Nat) : Decidable (FlagsAllowed flags) :=
  decidable_of_iff
    (flags ≤ 0x0f ∧ flags.testBit 3 = true ∧
      flags.testBit 0 = (!flags.testBit 1) ∧
      (flags.testBit 2 = true → flags.testBit 1 = true))
    ⟨fun ⟨within, releaseAll, classified, cleanup⟩ =>
        ⟨within, releaseAll, classified, cleanup⟩,
      fun ⟨within, releaseAll, classified, cleanup⟩ =>
        ⟨within, releaseAll, classified, cleanup⟩⟩

theorem flagsRejected_eq_false_iff (flags : UInt16) :
    flagsRejected flags = false ↔ FlagsAllowed flags.toNat := by
  by_cases small : flags.toNat ≤ 0x0f
  · have every : ∀ value : Fin 16,
        flagsRejected (UInt16.ofNat value.val) = false ↔
          FlagsAllowed value.val := by
      decide +kernel
    have atFlags := every ⟨flags.toNat, by omega⟩
    simpa using atFlags
  · have masked := mt (flags_small_iff flags).mp small
    constructor
    · intro accepted
      simp [flagsRejected, masked] at accepted
    · intro allowed
      exact absurd allowed.within small

theorem source_mask_iff {flags : UInt16} (allowed : FlagsAllowed flags.toNat) :
    flags &&& recordFlagSource ≠ 0 ↔ flags.toNat.testBit 0 = true := by
  have every : ∀ value : Fin 16,
      UInt16.ofNat value.val &&& recordFlagSource ≠ 0 ↔
        value.val.testBit 0 = true := by
    decide +kernel
  have atFlags := every ⟨flags.toNat, by have := allowed.within; omega⟩
  simpa using atFlags

theorem finalCleanup_mask_iff {flags : UInt16}
    (allowed : FlagsAllowed flags.toNat) :
    flags &&& recordFlagFinalCleanup ≠ 0 ↔ flags.toNat.testBit 2 = true := by
  have every : ∀ value : Fin 16,
      UInt16.ofNat value.val &&& recordFlagFinalCleanup ≠ 0 ↔
        value.val.testBit 2 = true := by
    decide +kernel
  have atFlags := every ⟨flags.toNat, by have := allowed.within; omega⟩
  simpa using atFlags

end Typxen.Protocol
