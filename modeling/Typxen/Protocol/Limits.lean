import Typxen.Protocol.Acceptance

/-! # Limits only restrict

A verification under narrower limits decides what it decides under wider ones,
or stops earlier with an error that only a limit gives. -/

namespace Typxen.Protocol

open Interaction ByteString

/-! ## Outcomes under two limits -/

inductive LimitError : ProtocolError → Prop
  | scheduleLimitExceeded : LimitError .scheduleLimitExceeded
  | delayInvalid : LimitError .delayInvalid

inductive Restricts {α : Type} :
    (narrow wide : Except ProtocolError α) → Prop
  | same (outcome : Except ProtocolError α) : Restricts outcome outcome
  | limited {error : ProtocolError} {wide : Except ProtocolError α} :
      LimitError error → Restricts (.error error) wide

section Outcomes

variable {α : Type} {narrow wide otherNarrow otherWide : Except ProtocolError α}

theorem Restricts.accepted {value : α} (restricts : Restricts narrow wide)
    (ok : narrow = .ok value) : wide = .ok value := by
  cases restricts with
  | same outcome => exact ok
  | limited limit => cases ok

theorem Restricts.refused {value : α} {error : ProtocolError}
    (restricts : Restricts narrow wide) (ok : wide = .ok value)
    (refused : narrow = .error error) : LimitError error := by
  cases restricts with
  | same outcome => cases ok.symm.trans refused
  | limited limit =>
      cases refused
      exact limit

theorem Restricts.check {condition : Prop} [Decidable condition]
    (failed : Restricts narrow wide)
    (passed : Restricts otherNarrow otherWide) :
    Restricts (if condition then narrow else otherNarrow)
      (if condition then wide else otherWide) := by
  split
  · exact failed
  · exact passed

theorem Restricts.limit {overNarrow overWide : Prop} [Decidable overNarrow]
    [Decidable overWide] {error : ProtocolError} (limitError : LimitError error)
    (wider : overWide → overNarrow) (passed : Restricts narrow wide) :
    Restricts (if overNarrow then .error error else narrow)
      (if overWide then .error error else wide) := by
  by_cases exceeds : overNarrow
  · rw [if_pos exceeds]
    exact .limited limitError
  · rw [if_neg exceeds, if_neg (fun overWide => exceeds (wider overWide))]
    exact passed

end Outcomes

/-! ## Limits -/

structure Limits.Within (limits wider : Limits) : Prop where
  encodedBytes : limits.maxEncodedBytes ≤ wider.maxEncodedBytes
  recordCount : limits.maxRecordCount ≤ wider.maxRecordCount
  individualDelayUs : limits.maxIndividualDelayUs ≤ wider.maxIndividualDelayUs

section Checks

variable {limits wider : Limits}

theorem Limits.WellFormed.widen (wellFormed : limits.WellFormed)
    (within : limits.Within wider) : wider.WellFormed where
  encodedBytes := wellFormed.encodedBytes.trans
    (UInt64.le_iff_toNat_le.mp within.encodedBytes)
  recordCount := wellFormed.recordCount.trans_le
    (UInt32.le_iff_toNat_le.mp within.recordCount)
  individualDelay := wellFormed.individualDelay.trans_le
    (UInt32.le_iff_toNat_le.mp within.individualDelayUs)

theorem Limits.WellFormed.checkSize_eq (wellFormed : limits.WellFormed)
    (sizeBytes : UInt64) :
    checkSize sizeBytes limits =
      if sizeBytes < headerBytes then
        .error .headerInvalid
      else if sizeBytes > limits.maxEncodedBytes then
        .error .scheduleLimitExceeded
      else
        .ok () := by
  have large : ¬limits.maxEncodedBytes < headerBytes :=
    UInt64.not_lt.mpr (UInt64.le_iff_toNat_le.mpr wellFormed.encodedBytes)
  have counts : limits.maxRecordCount ≠ 0 :=
    fun zero => wellFormed.recordCount.ne' (congrArg UInt32.toNat zero)
  have delays : limits.maxIndividualDelayUs ≠ 0 :=
    fun zero => wellFormed.individualDelay.ne' (congrArg UInt32.toNat zero)
  rw [checkSize, if_neg (by simp [large, counts, delays])]

theorem checkSize_restricts (wellFormed : limits.WellFormed)
    (within : limits.Within wider) (sizeBytes : UInt64) :
    Restricts (checkSize sizeBytes limits) (checkSize sizeBytes wider) := by
  rw [wellFormed.checkSize_eq, (wellFormed.widen within).checkSize_eq]
  apply Restricts.check (.same _)
  apply Restricts.limit .scheduleLimitExceeded
  · intro exceeds
    exact UInt64.lt_of_le_of_lt within.encodedBytes exceeds
  exact .same _

theorem checkHeader_restricts (within : limits.Within wider)
    (bytes : Vector UInt8 96) (sizeBytes : UInt64) :
    Restricts (checkHeader bytes sizeBytes limits)
      (checkHeader bytes sizeBytes wider) := by
  rw [checkHeader, checkHeader]
  apply Restricts.check (.same _)
  apply Restricts.check (.same _)
  apply Restricts.check (.same _)
  apply Restricts.check (.same _)
  apply Restricts.check (.same _)
  apply Restricts.limit .scheduleLimitExceeded
  · simp only [Bool.or_eq_true, decide_eq_true_eq]
    intro exceeds
    exact exceeds.imp_right (UInt32.lt_of_le_of_lt within.recordCount)
  apply Restricts.check (.same _)
  apply Restricts.check (.same _)
  apply Restricts.check (.same _)
  apply Restricts.check (.same _)
  apply Restricts.limit .scheduleLimitExceeded
  · intro exceeds
    exact UInt64.lt_of_le_of_lt within.encodedBytes exceeds
  exact .same _

theorem decodeRecord_restricts (bytes : Vector UInt8 32)
    {maxDelayUs widerDelayUs : UInt32} (within : maxDelayUs ≤ widerDelayUs) :
    Restricts (decodeRecord bytes maxDelayUs)
      (decodeRecord bytes widerDelayUs) := by
  rw [decodeRecord, decodeRecord]
  apply Restricts.check (.same _)
  apply Restricts.check (.same _)
  apply Restricts.limit .delayInvalid
  · have longer {delay : UInt32} : delay > widerDelayUs → delay > maxDelayUs :=
      UInt32.lt_of_le_of_lt within
    simp only [Bool.or_eq_true, decide_eq_true_eq]
    intro exceeds
    exact exceeds.imp_left (.imp (.imp longer longer) longer)
  exact .same _

/-! ## Schedules -/

theorem recordsVerdict_restricts (within : limits.Within wider)
    (bytes : List UInt8) (header : Header) (remaining : Nat)
    (index previousSourceIndex : UInt32) (totalDuration : UInt64) :
    Restricts
      (recordsVerdict bytes limits header remaining index previousSourceIndex
        totalDuration)
      (recordsVerdict bytes wider header remaining index previousSourceIndex
        totalDuration) := by
  induction remaining generalizing index previousSourceIndex totalDuration with
  | zero => exact .same _
  | succ remaining induction =>
      have decoded := decodeRecord_restricts
        (block bytes (recordStart index.toNat) 32) within.individualDelayUs
      rw [recordsVerdict, recordsVerdict]
      generalize decodeRecord _ limits.maxIndividualDelayUs = narrow at decoded ⊢
      cases decoded with
      | limited limit => exact .limited limit
      | same =>
      cases decodeRecord (block bytes (recordStart index.toNat) 32)
          wider.maxIndividualDelayUs with
      | error error => exact .same _
      | ok record =>
      simp only
      cases checkRecord header index previousSourceIndex totalDuration
          record with
      | error error => exact .same _
      | ok newTotal => exact induction _ _ _

theorem scheduleVerdict_restricts (within : limits.Within wider)
    (bytes : List UInt8) (header : Header) :
    Restricts (scheduleVerdict bytes limits header)
      (scheduleVerdict bytes wider header) := by
  rw [scheduleVerdict, scheduleVerdict]
  apply Restricts.check (.same _)
  have walked := recordsVerdict_restricts within bytes header
    header.actionCount.toNat 0 0 0
  generalize recordsVerdict bytes limits _ _ _ _ _ = narrow at walked ⊢
  cases walked with
  | limited limit => exact .limited limit
  | same => exact .same _

theorem verdict_restricts (wellFormed : limits.WellFormed)
    (within : limits.Within wider) (hash : List UInt8 → Vector UInt8 32)
    (bytes : List UInt8) :
    Restricts (verdict hash limits bytes) (verdict hash wider bytes) := by
  have sized := checkSize_restricts wellFormed within (UInt64.ofNat bytes.length)
  have headed := checkHeader_restricts within (block bytes 0 96)
    (UInt64.ofNat bytes.length)
  rw [verdict, verdict]
  generalize checkSize _ limits = narrow at sized ⊢
  cases sized with
  | limited limit => exact .limited limit
  | same =>
  cases checkSize (UInt64.ofNat bytes.length) wider with
  | error error => exact .same _
  | ok _ =>
  simp only
  generalize checkHeader _ _ limits = narrow at headed ⊢
  cases headed with
  | limited limit => exact .limited limit
  | same =>
  cases checkHeader (block bytes 0 96) (UInt64.ofNat bytes.length) wider with
  | error error => exact .same _
  | ok header =>
  simp only
  cases payloadVerdict hash bytes header with
  | error error => exact .same _
  | ok _ =>
  simp only
  have scheduled := scheduleVerdict_restricts within bytes header
  generalize scheduleVerdict bytes limits header = narrow at scheduled ⊢
  cases scheduled with
  | limited limit => exact .limited limit
  | same => exact .same _

end Checks

/-! ## Verifications -/

section Verifications

variable {σ : Type} {environment : Environment callbacks σ} {valid : σ → Prop}
  {absorbed : σ → List UInt8} {reader : Reader} {bytes : List UInt8}
  {hash : List UInt8 → Vector UInt8 32} {limits wider : Limits}
  {before beforeWider : σ}

/-- A verification under `limits` and one under `wider` of what `reader`
reads. -/
structure OnlyRestricts (environment : Environment callbacks σ) (reader : Reader)
    (limits wider : Limits) (before beforeWider : σ) : Prop where
  returns : (∃ trace result after, Program.Exec environment
      (typxProtocolV1Verify reader limits) before trace result after) ∧
    ∃ trace result after, Program.Exec environment
      (typxProtocolV1Verify reader wider) beforeWider trace result after
  accepted : ∀ trace schedule after, Program.Exec environment
      (typxProtocolV1Verify reader limits) before trace (.ok schedule) after →
    ∀ trace result after, Program.Exec environment
      (typxProtocolV1Verify reader wider) beforeWider trace result after →
    ∃ widerSchedule, result = .ok widerSchedule ∧
      widerSchedule.header = schedule.header
  refused : ∀ trace schedule after, Program.Exec environment
      (typxProtocolV1Verify reader wider) beforeWider trace (.ok schedule)
      after →
    ∀ trace error after, Program.Exec environment
      (typxProtocolV1Verify reader limits) before trace (.error error) after →
    error = .scheduleLimitExceeded ∨ error = .delayInvalid

theorem typxProtocolV1Verify_verdict
    (serves : Serves environment (fun _ => False) valid absorbed reader bytes)
    (hashes : Hashes environment (fun _ => False) valid absorbed hash)
    (holds : valid before) :
    Program.Ensures environment (typxProtocolV1Verify reader limits) before
      fun _ result _ =>
        result = (verdict hash limits bytes).map (verifiedBy reader limits) := by
  refine (typxProtocolV1Verify_ensures serves hashes before holds).mono ?_
  intro trace result after outcome
  exact outcome.2.eq_of_not_faulted (by simp [Faulted])

theorem verdict_onlyRestricts
    (serves : Serves environment (fun _ => False) valid absorbed reader bytes)
    (hashes : Hashes environment (fun _ => False) valid absorbed hash)
    (total : environment.Total) (holds : valid before)
    (holdsWider : valid beforeWider) (wellFormed : limits.WellFormed)
    (within : limits.Within wider) :
    OnlyRestricts environment reader limits wider before beforeWider := by
  have restricts := verdict_restricts wellFormed within hash bytes
  have decides {limits : Limits} {start : σ} (holds : valid start) :
      Program.Ensures environment (typxProtocolV1Verify reader limits) start
        fun _ result _ =>
          result = (verdict hash limits bytes).map (verifiedBy reader limits) :=
    typxProtocolV1Verify_verdict serves hashes holds
  refine ⟨⟨Program.exists_exec total _ _, Program.exists_exec total _ _⟩, ?_, ?_⟩
  · intro _ schedule _ execution _ result _ wide
    have ok := decides holds _ _ _ execution
    have same := decides holdsWider _ _ _ wide
    cases decided : verdict hash limits bytes with
    | error error =>
        rw [decided] at ok
        cases ok
    | ok header =>
        rw [decided] at ok
        rw [restricts.accepted decided] at same
        cases ok
        exact ⟨_, same, rfl⟩
  · intro _ schedule _ wide _ error _ execution
    have ok := decides holdsWider _ _ _ wide
    have refused := decides holds _ _ _ execution
    cases decided : verdict hash wider bytes with
    | error other =>
        rw [decided] at ok
        cases ok
    | ok header =>
        cases stopped : verdict hash limits bytes with
        | ok header =>
            rw [stopped] at refused
            cases refused
        | error other =>
            rw [stopped] at refused
            cases refused
            cases restricts.refused decided stopped with
            | scheduleLimitExceeded => exact .inl rfl
            | delayInvalid => exact .inr rfl

/-- Limits only ever restrict, those of the board among them. -/
theorem typxProtocolV1Verify_limitsRestrict
    (serves : Serves environment (fun _ => False) valid absorbed reader bytes)
    (hashes : Hashes environment (fun _ => False) valid absorbed hash)
    (total : environment.Total) (holds : valid before)
    (holdsWider : valid beforeWider) :
    (∀ limits wider : Limits, limits.WellFormed → limits.Within wider →
      OnlyRestricts environment reader limits wider before beforeWider) ∧
    OnlyRestricts environment reader typxProtocolV1Esp32CamLimits
      typxProtocolV1GenericLimits before beforeWider := by
  have only : ∀ limits wider : Limits, limits.WellFormed → limits.Within wider →
      OnlyRestricts environment reader limits wider before beforeWider := by
    intro limits wider wellFormed within
    exact verdict_onlyRestricts serves hashes total holds holdsWider wellFormed within
  refine ⟨only, only _ _ ?_ ?_⟩
  · constructor <;> decide
  · constructor <;> decide

theorem typxProtocolV1Verify_limitsRestrict_letterSchedule :
    OnlyRestricts (servedBy letterSchedule fun _ => letterDigest)
      (Reader.ofCallback 224) typxProtocolV1Esp32CamLimits
      typxProtocolV1GenericLimits [] [] :=
  (typxProtocolV1Verify_limitsRestrict (servedBy_serves (by decide +kernel))
    servedBy_hashes servedBy_total trivial trivial).2

end Verifications

end Typxen.Protocol
