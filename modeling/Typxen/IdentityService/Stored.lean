import Typxen.IdentityService.Overrides

/-! # The namespace and the identity in memory

While every NVS call succeeds, the namespace holds the identity in memory but
for the activity counted since the battery was last written. -/

namespace Typxen.IdentityService

open BleIdentity CString KeyValue

/-! ## The invariant -/

def loadedConfig (chipIdentity : Vector UInt8 6) (overrides : Overrides) :
    Config :=
  (applyOverrides (defaults chipIdentity none) overrides).config

theorem applyOverrides_config (chipIdentity : Vector UInt8 6)
    (firmwareRevision : Option (List UInt8)) (overrides : Overrides) :
    (applyOverrides (defaults chipIdentity firmwareRevision) overrides).config =
      loadedConfig chipIdentity overrides := by
  simp only [applyOverrides, defaults, loadedConfig]

theorem loadedConfig_default (chipIdentity : Vector UInt8 6)
    (firmwareRevision : Option (List UInt8)) :
    loadedConfig chipIdentity {} =
      (defaults chipIdentity firmwareRevision).config := by
  simp only [loadedConfig, applyOverrides, defaults, Option.getD_none]

structure Stored (service : Service) (overrides : Overrides) : Prop where
  board : service.state.boardIdentifier =
    typxBleIdentityBoardIdentifier service.chipIdentity
  created : service.nvs.created = true
  reads : Reads service.nvs.entries overrides
  valid : ValidConfig false service.state.config
  config : SameConfig service.state.config
    (loadedConfig service.chipIdentity overrides)
  sourceDeviceNameNvs :
    service.state.sourceDeviceNameNvs = overrides.deviceName.isSome
  sourceManufacturerNvs :
    service.state.sourceManufacturerNvs = overrides.manufacturerName.isSome
  sourceModelNvs : service.state.sourceModelNvs = overrides.modelNumber.isSome
  sourceSerialNvs :
    service.state.sourceSerialNvs = overrides.serialNumber.isSome

def ActivityStored (service : Service) (overrides : Overrides) : Prop :=
  service.state.batteryActiveMs = overrides.batteryActiveMs.getD 0

/-- A valid candidate is not replaced by the defaults. -/
theorem bootState_valid {chipIdentity : Vector UInt8 6}
    {description : Option (List UInt8)} {overrides : Overrides}
    (valid : ValidConfig false (loadedConfig chipIdentity overrides)) :
    bootState chipIdentity description overrides =
      applyOverrides (defaults chipIdentity
        (some (description.getD (ascii "unknown")))) overrides := by
  rw [← applyOverrides_config chipIdentity
    (some (description.getD (ascii "unknown")))] at valid
  have accepted := (validate_eq_valid_iff _ _).mpr valid
  rw [bootState, typxBleIdentityLoad]
  exact if_neg (not_not.mpr accepted)

theorem init_stored {chipIdentity : Vector UInt8 6}
    {description : Option (List UInt8)} {nvs : Nvs} {overrides : Overrides}
    (found : bootOverrides nvs = .ok overrides)
    (reads : Reads nvs.entries overrides)
    (valid : ValidConfig false (loadedConfig chipIdentity overrides)) :
    ∃ service, typxIdentityServiceInit chipIdentity description noFaults nvs =
        .ok service ∧
      service.chipIdentity = chipIdentity ∧
      service.state = applyOverrides (defaults chipIdentity
        (some (description.getD (ascii "unknown")))) overrides ∧
      Stored service overrides ∧ ActivityStored service overrides := by
  rw [typxIdentityServiceInit, found]
  refine ⟨_, rfl, rfl, bootState_valid valid, ?_, ?_⟩
  · rw [bootState_valid valid, nvsSession_noFaults]
    exact {
      board := rfl
      created := rfl
      reads := reads.restartReq none
      valid := by
        rw [applyOverrides_config]
        exact valid
      config := by
        rw [applyOverrides_config]
        exact .refl _
      sourceDeviceNameNvs := rfl
      sourceManufacturerNvs := rfl
      sourceModelNvs := rfl
      sourceSerialNvs := rfl }
  · rw [ActivityStored, bootState_valid valid]
    rfl

/-- A boot after a save finds the saved configuration, with the serial number
of the defaults where none was requested. -/
theorem savedOverrides_config {chipIdentity : Vector UInt8 6}
    {requested effective : Config}
    (generated : string requested.serialNumber.toList = [] →
      effective.serialNumber = typxBleIdentityGeneratedSerial chipIdentity) :
    SameConfig effective
      (loadedConfig chipIdentity (savedOverrides requested effective)) := by
  constructor
  case texts =>
    simp only [Config.texts, loadedConfig, applyOverrides, savedOverrides,
      Option.getD_some, string_copy, IdentityTexts.mk.injEq, true_and, and_true]
    by_cases empty : string requested.serialNumber.toList = []
    · rw [if_pos empty, generated empty]
      rfl
    · rw [if_neg empty, Option.getD_some, string_copy]
  all_goals simp only [loadedConfig, applyOverrides, savedOverrides,
    Option.getD_some]

/-! ## Every operation keeps it -/

section Operations

variable {service : Service} {overrides : Overrides} {state : State}
  {level : UInt8}

theorem Stored.withLevel (stored : Stored service overrides)
    (continues : Continues service.state level state)
    {nvs : Nvs} {next : Overrides} (created : nvs.created = true)
    (reads : Reads nvs.entries next)
    (replaced : ∃ activeMs, next = { overrides with
      batteryCurrentPercent := some level, batteryActiveMs := activeMs }) :
    Stored { service with state := state, nvs := nvs } next := by
  rcases replaced with ⟨activeMs, same⟩
  exact {
    board := continues.boardIdentifier.trans stored.board
    created := created
    reads := reads
    valid := continues.valid stored.valid
    config := by
      have config := stored.config
      change SameConfig state.config _
      rw [continues.config, same]
      exact ⟨config.texts, config.enabled, config.minimum, config.maximum, rfl,
        config.interval⟩
    sourceDeviceNameNvs := by
      rw [same]
      exact continues.sourceDeviceNameNvs.trans stored.sourceDeviceNameNvs
    sourceManufacturerNvs := by
      rw [same]
      exact continues.sourceManufacturerNvs.trans stored.sourceManufacturerNvs
    sourceModelNvs := by
      rw [same]
      exact continues.sourceModelNvs.trans stored.sourceModelNvs
    sourceSerialNvs := by
      rw [same]
      exact continues.sourceSerialNvs.trans stored.sourceSerialNvs }

/-- After `persist_activity_locked` the activity is stored too. -/
theorem Stored.persisted (stored : Stored service overrides)
    (continues : Continues service.state level state) :
    ∃ next, Stored { service with
        state := state
        nvs := (nvsSession noFaults (persistActivityLocked state)
          service.nvs).2 } next ∧
      ActivityStored { service with
        state := state
        nvs := (nvsSession noFaults (persistActivityLocked state)
          service.nvs).2 } next := by
  have current : state.config.batteryCurrentPercent = level := by
    rw [continues.config]
  rw [nvsSession_noFaults]
  refine ⟨_, stored.withLevel continues rfl (stored.reads.activity state) ?_,
    rfl⟩
  exact ⟨_, by rw [current]⟩

theorem Stored.unpersisted (stored : Stored service overrides)
    (continues : Continues service.state
      service.state.config.batteryCurrentPercent state) :
    Stored { service with state := state } overrides := by
  have config : state.config = service.state.config := continues.config
  exact {
    board := continues.boardIdentifier.trans stored.board
    created := stored.created
    reads := stored.reads
    valid := continues.valid stored.valid
    config := by
      change SameConfig state.config _
      rw [config]
      exact stored.config
    sourceDeviceNameNvs :=
      continues.sourceDeviceNameNvs.trans stored.sourceDeviceNameNvs
    sourceManufacturerNvs :=
      continues.sourceManufacturerNvs.trans stored.sourceManufacturerNvs
    sourceModelNvs := continues.sourceModelNvs.trans stored.sourceModelNvs
    sourceSerialNvs := continues.sourceSerialNvs.trans stored.sourceSerialNvs }

theorem Stored.saved (stored : Stored service overrides)
    {requested effective : Config} {restartRequired : Bool}
    (prepared : Prepared service.state requested effective restartRequired) :
    Stored { service with
        state := savedState service.state requested effective restartRequired
        nvs := {
          created := true
          entries := savedEntries requested effective restartRequired } }
      (savedOverrides requested effective) := by
  have valid := prepared.valid stored.board
  exact {
    board := stored.board
    created := rfl
    reads := reads_saved requested restartRequired valid
    valid := valid
    config := savedOverrides_config
      fun empty => prepared.serial stored.board empty
    sourceDeviceNameNvs := rfl
    sourceManufacturerNvs := rfl
    sourceModelNvs := rfl
    sourceSerialNvs := by
      change (!(string requested.serialNumber.toList).isEmpty) = _
      by_cases empty : string requested.serialNumber.toList = []
      · simp [savedOverrides, empty]
      · simp [savedOverrides, empty] }

theorem reset_stored (service : Service) (restartRequired : Bool) :
    Stored { service with
        state := { resetDefaults service with
          restartRequired := restartRequired }
        nvs := { created := true, entries := resetEntries restartRequired } }
      {} := by
  have valid := defaults_valid service.chipIdentity
    (some (string service.state.firmwareRevision.toList))
  rw [resetDefaults_eq]
  exact {
    board := rfl
    created := rfl
    reads := reads_erased fun key other => by
      cases key with
      | restartReq => exact absurd rfl other
      | _ => rfl
    valid := valid
    config := by
      rw [loadedConfig_default service.chipIdentity
        (some (string service.state.firmwareRevision.toList))]
      exact .refl _
    sourceDeviceNameNvs := rfl
    sourceManufacturerNvs := rfl
    sourceModelNvs := rfl
    sourceSerialNvs := rfl }

end Operations

def Operation.Persists : Operation → Except IdentityError Unit → Prop
  | .save _, .ok () => True
  | .reset, _ => True
  | .batteryReset _, _ => True
  | .endActivity, _ => True
  | _, _ => False

theorem Stored.perform {service after : Service} {overrides : Overrides}
    {operation : Operation} {result : Except IdentityError Unit}
    (stored : Stored service overrides)
    (performed : operation.perform noFaults service = some (result, after)) :
    after.chipIdentity = service.chipIdentity ∧
      ∃ next, Stored after next ∧
        (operation.Persists result → ActivityStored after next) := by
  cases operation with
  | save requested =>
      simp only [Operation.perform, Option.some.injEq,
        typxIdentityServiceSave, nvsSession_noFaults, applyAll_save]
        at performed
      cases prepared : typxBleIdentityPrepareUpdate service.state requested with
      | error validation =>
          rw [prepared] at performed
          cases performed
          exact ⟨rfl, overrides, stored, False.elim⟩
      | ok accepted =>
          rw [prepared] at performed
          cases performed
          exact ⟨rfl, _, stored.saved (prepareUpdate_ok prepared),
            fun _ => rfl⟩
  | reset =>
      simp only [Operation.perform, Option.some.injEq,
        typxIdentityServiceReset, nvsSession_noFaults, applyAll_reset]
        at performed
      cases performed
      refine ⟨rfl, {}, reset_stored service _, fun _ => ?_⟩
      rw [ActivityStored, resetDefaults_eq]
      rfl
  | batteryReset hidFailure =>
      have ends := batteryReset_after noFaults hidFailure service
      rw [Option.some.inj performed] at ends
      rcases stored.persisted (resetBattery_continues stored.valid) with
        ⟨next, kept, activity⟩
      rw [show after = _ from ends]
      exact ⟨rfl, next, kept, fun _ => activity⟩
  | bindHid device hidFailure =>
      have ends := bindHid_after device hidFailure service
      rw [Option.some.inj performed] at ends
      rw [show after = _ from ends]
      exact ⟨rfl, overrides, { stored with }, False.elim⟩
  | recordSuccessfulReport nowMs executionActive =>
      rcases recordSuccessfulReport_returns stored.valid nowMs executionActive
        with ⟨⟨state, changed⟩, recorded⟩
      rcases recordSuccessfulReport_continues stored.valid recorded with
        ⟨level, continues, unchanged⟩
      simp only [Operation.perform, typxIdentityServiceRecordSuccessfulReport,
        recorded] at performed
      cases changed with
      | false =>
          cases performed
          rw [unchanged rfl] at continues
          exact ⟨rfl, overrides, stored.unpersisted continues, False.elim⟩
      | true =>
          cases performed
          rcases stored.persisted continues with ⟨next, kept, _⟩
          exact ⟨rfl, next, kept, False.elim⟩
  | endActivity =>
      cases performed
      rcases stored.persisted (endActivity_continues stored.valid) with
        ⟨next, kept, activity⟩
      exact ⟨rfl, next, kept, fun _ => activity⟩

end Typxen.IdentityService
