import Typxen.BleIdentity.ValidConfig
import Typxen.Foundation.Transition

/-! # The effective identity

What `typx_ble_identity_load` yields is valid whatever the overrides hold, and
it stays valid while requests are committed and the battery is simulated. -/

namespace Typxen.BleIdentity

open CString Transition

structure StoredText {capacity : Nat} (text : Vector UInt8 capacity) : Prop where
  terminated : 0 ∈ text.toList
  nonempty : string text.toList ≠ []
  printable : ∀ character ∈ string text.toList,
    0x20 ≤ character ∧ character ≤ 0x7e

structure Effective (config : Config) : Prop where
  valid : typxBleIdentityValidate config false = .valid
  deviceName : StoredText config.deviceName
  manufacturerName : StoredText config.manufacturerName
  modelNumber : StoredText config.modelNumber
  serialNumber : StoredText config.serialNumber
  hardwareRevision : StoredText config.hardwareRevision
  softwareRevision : StoredText config.softwareRevision
  minimum : config.batteryMinimumPercent ≤ config.batteryCurrentPercent
  maximum : config.batteryCurrentPercent ≤ config.batteryMaximumPercent

/-! ## Texts -/

theorem terminated_of_length {bytes : List UInt8}
    (shorter : (string bytes).length < bytes.length) : 0 ∈ bytes := by
  by_contra unterminated
  have whole : string bytes = bytes := by
    rw [string, List.takeWhile_eq_self_iff]
    intro character member
    have other : character ≠ 0 := fun zero => unterminated (zero ▸ member)
    simpa using other
  rw [whole] at shorter
  exact absurd shorter (Nat.lt_irrefl _)

theorem textValid_stored {capacity : Nat} {text : Vector UInt8 capacity}
    (valid : textValid text false) : StoredText text := by
  have fits := textValid_length valid
  simp only [textValid, Bool.and_eq_true, Bool.false_or, Bool.not_eq_true',
    List.isEmpty_eq_false_iff, List.all_eq_true, decide_eq_true_eq] at valid
  rcases valid with ⟨⟨⟨⟨_, nonempty⟩, _⟩, _⟩, printable⟩
  exact {
    terminated := terminated_of_length (by simpa using fits)
    nonempty := nonempty
    printable := printable }

theorem ValidConfig.effective {config : Config}
    (valid : ValidConfig false config) : Effective config where
  valid := (validate_eq_valid_iff config false).mpr valid
  deviceName := textValid_stored valid.deviceName
  manufacturerName := textValid_stored valid.manufacturerName
  modelNumber := textValid_stored valid.modelNumber
  serialNumber := textValid_stored valid.serialNumber
  hardwareRevision := textValid_stored valid.hardwareRevision
  softwareRevision := textValid_stored valid.softwareRevision
  minimum := valid.current.1
  maximum := valid.current.2

/-! ## Changes -/

inductive IdentityChange
  | commit (requested : Config)
  | successfulReport (nowMs : UInt64) (executionActive : Bool)
  | endActivity
  | resetBattery

inductive Changes : State → IdentityChange → State → Prop
  | committed {before after : State} {requested effective : Config}
      {restartRequired : Bool} :
      typxBleIdentityPrepareUpdate before requested =
        .ok (effective, restartRequired) →
      after.config = effective →
      after.boardIdentifier = before.boardIdentifier →
      Changes before (.commit requested) after
  | reported {before after : State} {nowMs : UInt64}
      {executionActive changed : Bool} :
      typxBleIdentityRecordSuccessfulReport before nowMs executionActive =
        some (after, changed) →
      Changes before (.successfulReport nowMs executionActive) after
  | ended {before : State} :
      Changes before .endActivity (typxBleIdentityEndActivity before)
  | reset {before : State} :
      Changes before .resetBattery (typxBleIdentityResetBattery before).1

structure Sound (chipIdentity : Vector UInt8 6) (state : State) : Prop where
  board : state.boardIdentifier = typxBleIdentityBoardIdentifier chipIdentity
  valid : ValidConfig false state.config

section Runs

variable {chipIdentity : Vector UInt8 6} {before after : State}

theorem Continues.sound {level : UInt8} (continues : Continues before level after)
    (sound : Sound chipIdentity before) : Sound chipIdentity after where
  board := continues.boardIdentifier.trans sound.board
  valid := continues.valid sound.valid

theorem Changes.sound {change : IdentityChange}
    (changes : Changes before change after) (sound : Sound chipIdentity before) :
    Sound chipIdentity after := by
  cases changes with
  | committed prepared config board =>
      exact {
        board := board.trans sound.board
        valid := config ▸ (prepareUpdate_ok prepared).valid sound.board }
  | reported recorded =>
      rcases recordSuccessfulReport_continues sound.valid recorded with
        ⟨level, continues, _⟩
      exact continues.sound sound
  | ended => exact (endActivity_continues sound.valid).sound sound
  | reset => exact (resetBattery_continues sound.valid).sound sound

theorem changes_sound {changes : List IdentityChange}
    (run : Run Changes before changes after)
    (sound : Sound chipIdentity before) : Sound chipIdentity after := by
  apply run.invariant (Sound chipIdentity) (fun _ => True)
  · exact fun _ _ _ _ holds step => step.sound holds
  · exact fun _ _ => trivial
  · exact sound

end Runs

/-! ## Loading -/

theorem load_sound (chipIdentity : Vector UInt8 6)
    (firmwareRevision : Option (List UInt8)) (overrides : Option Overrides) :
    Sound chipIdentity
      (typxBleIdentityLoad chipIdentity firmwareRevision overrides) := by
  have fallback : Sound chipIdentity (defaults chipIdentity firmwareRevision) :=
    ⟨rfl, defaults_valid chipIdentity firmwareRevision⟩
  rw [typxBleIdentityLoad]
  split
  · exact fallback
  · rename_i accepted
    have valid := (validate_eq_valid_iff _ _).mp (not_not.mp accepted)
    cases overrides with
    | none => exact fallback
    | some overrides => exact ⟨rfl, valid⟩

theorem load_invalid {chipIdentity : Vector UInt8 6}
    {firmwareRevision : Option (List UInt8)} {overrides : Overrides}
    (invalid : typxBleIdentityValidate (applyOverrides
      (defaults chipIdentity firmwareRevision) overrides).config false ≠
        .valid) :
    typxBleIdentityLoad chipIdentity firmwareRevision (some overrides) =
      defaults chipIdentity firmwareRevision :=
  if_pos invalid

structure Untouched (state : State) : Prop where
  sourceDeviceNameNvs : state.sourceDeviceNameNvs = false
  sourceManufacturerNvs : state.sourceManufacturerNvs = false
  sourceModelNvs : state.sourceModelNvs = false
  sourceSerialNvs : state.sourceSerialNvs = false
  batteryActiveMs : state.batteryActiveMs = 0

theorem defaults_untouched (chipIdentity : Vector UInt8 6)
    (firmwareRevision : Option (List UInt8)) :
    Untouched (defaults chipIdentity firmwareRevision) :=
  ⟨rfl, rfl, rfl, rfl, rfl⟩

/-- The effective identity is valid when it is loaded and after every sequence
of changes, and a report can always be recorded. -/
theorem bleIdentity_isEffective (chipIdentity : Vector UInt8 6)
    (firmwareRevision : Option (List UInt8)) (overrides : Option Overrides) :
    Effective (typxBleIdentityLoad chipIdentity firmwareRevision
      overrides).config ∧
    (∀ given, overrides = some given →
      typxBleIdentityValidate (applyOverrides
        (defaults chipIdentity firmwareRevision) given).config false ≠ .valid →
      typxBleIdentityLoad chipIdentity firmwareRevision overrides =
          defaults chipIdentity firmwareRevision ∧
        Untouched (typxBleIdentityLoad chipIdentity firmwareRevision
          overrides)) ∧
    ∀ changes after, Run Changes
        (typxBleIdentityLoad chipIdentity firmwareRevision overrides) changes
        after →
      Effective after.config ∧
      ∀ nowMs executionActive, ∃ result,
        typxBleIdentityRecordSuccessfulReport after nowMs executionActive =
          some result := by
  have sound := load_sound chipIdentity firmwareRevision overrides
  refine ⟨sound.valid.effective, ?_, ?_⟩
  · intro given same invalid
    rw [same, load_invalid invalid]
    exact ⟨rfl, defaults_untouched chipIdentity firmwareRevision⟩
  · intro changes after run
    have valid := (changes_sound run sound).valid
    exact ⟨valid.effective, recordSuccessfulReport_returns valid⟩

end Typxen.BleIdentity
