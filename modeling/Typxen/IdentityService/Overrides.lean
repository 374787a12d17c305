import Typxen.BleIdentity.ValidConfig
import Typxen.IdentityService.Namespace

/-! # What the next boot finds

The overrides that each writer of the namespace leaves. -/

namespace Typxen.IdentityService

open BleIdentity CString KeyValue

/-! ## Reading what was written -/

section Reading

variable {entries later : Entries} {key : NvsKey}

theorem getOptionalString_congr {capacity : Nat} (same : later key = entries key) :
    getOptionalString later key capacity =
      getOptionalString entries key capacity := by
  simp only [getOptionalString, nvsGetStr, same]

theorem getOptionalU8_congr (same : later key = entries key) :
    getOptionalU8 later key = getOptionalU8 entries key := by
  simp only [getOptionalU8, nvsGetU8, same]

theorem getOptionalU16_congr (same : later key = entries key) :
    getOptionalU16 later key = getOptionalU16 entries key := by
  simp only [getOptionalU16, nvsGetU16, same]

theorem getOptionalU64_congr (same : later key = entries key) :
    optional (nvsGetU64 later key) = optional (nvsGetU64 entries key) := by
  simp only [nvsGetU64, same]

theorem getOptionalString_stored {capacity : Nat} {text : List UInt8}
    (stored : entries key = some (.str text)) (fits : text.length < capacity) :
    getOptionalString entries key capacity =
      .ok (some (charArray capacity text)) := by
  simp [getOptionalString, nvsGetStr, stored, fits, optional]

theorem getOptionalU8_stored {value : UInt8}
    (stored : entries key = some (.u8 value)) :
    getOptionalU8 entries key = .ok (some value) := by
  simp [getOptionalU8, nvsGetU8, stored, optional]

theorem getOptionalU16_stored {value : UInt16}
    (stored : entries key = some (.u16 value)) :
    getOptionalU16 entries key = .ok (some value) := by
  simp [getOptionalU16, nvsGetU16, stored, optional]

theorem getOptionalU64_stored {value : UInt64}
    (stored : entries key = some (.u64 value)) :
    optional (nvsGetU64 entries key) = .ok (some value) := by
  simp [nvsGetU64, stored, optional]

end Reading

theorem reads_erased {entries : Entries}
    (erased : ∀ key, key ≠ .restartReq → entries key = none) :
    Reads entries {} where
  deviceName := by
    simp [getOptionalString, nvsGetStr, erased .name, optional]
  manufacturerName := by
    simp [getOptionalString, nvsGetStr, erased .manufacturer, optional]
  modelNumber := by
    simp [getOptionalString, nvsGetStr, erased .model, optional]
  serialNumber := by
    simp [getOptionalString, nvsGetStr, erased .serial, optional]
  hardwareRevision := by
    simp [getOptionalString, nvsGetStr, erased .hwRev, optional]
  softwareRevision := by
    simp [getOptionalString, nvsGetStr, erased .swRev, optional]
  batterySimulationEnabled :=
    ⟨none, by simp [getOptionalU8, nvsGetU8, erased .battEnabled, optional],
      rfl⟩
  batteryMinimumPercent := by
    simp [getOptionalU8, nvsGetU8, erased .battMin, optional]
  batteryMaximumPercent := by
    simp [getOptionalU8, nvsGetU8, erased .battMax, optional]
  batteryCurrentPercent := by
    simp [getOptionalU8, nvsGetU8, erased .battCurrent, optional]
  batteryDropActiveMinutes := by
    simp [getOptionalU16, nvsGetU16, erased .battInterval, optional]
  batteryActiveMs := by
    simp [nvsGetU64, erased .battActiveMs, optional]

theorem Reads.withActivity {entries later : Entries} {overrides : Overrides}
    (reads : Reads entries overrides)
    (elsewhere : ∀ key ∉ [NvsKey.battCurrent, .battActiveMs, .restartReq],
      later key = entries key)
    {current : Option UInt8} {activeMs : Option UInt64}
    (level : getOptionalU8 later .battCurrent = .ok current)
    (activity : optional (nvsGetU64 later .battActiveMs) = .ok activeMs) :
    Reads later { overrides with
      batteryCurrentPercent := current
      batteryActiveMs := activeMs } where
  deviceName := (getOptionalString_congr (elsewhere .name (by decide))).trans
    reads.deviceName
  manufacturerName :=
    (getOptionalString_congr (elsewhere .manufacturer (by decide))).trans
      reads.manufacturerName
  modelNumber := (getOptionalString_congr (elsewhere .model (by decide))).trans
    reads.modelNumber
  serialNumber :=
    (getOptionalString_congr (elsewhere .serial (by decide))).trans
      reads.serialNumber
  hardwareRevision :=
    (getOptionalString_congr (elsewhere .hwRev (by decide))).trans
      reads.hardwareRevision
  softwareRevision :=
    (getOptionalString_congr (elsewhere .swRev (by decide))).trans
      reads.softwareRevision
  batterySimulationEnabled := by
    rcases reads.batterySimulationEnabled with ⟨stored, read, same⟩
    have unchanged := getOptionalU8_congr (elsewhere .battEnabled (by decide))
    exact ⟨stored, unchanged.trans read, same⟩
  batteryMinimumPercent :=
    (getOptionalU8_congr (elsewhere .battMin (by decide))).trans
      reads.batteryMinimumPercent
  batteryMaximumPercent :=
    (getOptionalU8_congr (elsewhere .battMax (by decide))).trans
      reads.batteryMaximumPercent
  batteryCurrentPercent := level
  batteryDropActiveMinutes :=
    (getOptionalU16_congr (elsewhere .battInterval (by decide))).trans
      reads.batteryDropActiveMinutes
  batteryActiveMs := activity

theorem Reads.restartReq {entries : Entries} {overrides : Overrides}
    (reads : Reads entries overrides) (value : Option NvsValue) :
    Reads (Function.update entries .restartReq value) overrides := by
  refine reads.withActivity ?_
    ((getOptionalU8_congr rfl).trans reads.batteryCurrentPercent)
    ((getOptionalU64_congr rfl).trans reads.batteryActiveMs)
  intro key other
  apply Function.update_of_ne
  intro same
  simp [same] at other

/-- `persist_activity_locked` replaces two of the overrides. -/
theorem Reads.activity {entries : Entries} {overrides : Overrides}
    (reads : Reads entries overrides) (state : State) :
    Reads (applyAll (writesOf (persistActivityLocked state)) entries)
      { overrides with
        batteryCurrentPercent := some state.config.batteryCurrentPercent
        batteryActiveMs := some state.batteryActiveMs } := by
  apply reads.withActivity _ (getOptionalU8_stored rfl)
    (getOptionalU64_stored rfl)
  intro key other
  cases key with
  | battCurrent => simp at other
  | battActiveMs => simp at other
  | _ => rfl

def savedEntries (requested effective : Config) (restartRequired : Bool) :
    Entries
  | .name => some (.str (string effective.deviceName.toList))
  | .manufacturer => some (.str (string effective.manufacturerName.toList))
  | .model => some (.str (string effective.modelNumber.toList))
  | .serial =>
      if string requested.serialNumber.toList = [] then none
      else some (.str (string effective.serialNumber.toList))
  | .hwRev => some (.str (string effective.hardwareRevision.toList))
  | .swRev => some (.str (string effective.softwareRevision.toList))
  | .battEnabled =>
      some (.u8 (if effective.batterySimulationEnabled then 1 else 0))
  | .battMin => some (.u8 effective.batteryMinimumPercent)
  | .battMax => some (.u8 effective.batteryMaximumPercent)
  | .battCurrent => some (.u8 effective.batteryCurrentPercent)
  | .battInterval => some (.u16 effective.batteryDropActiveMinutes)
  | .battActiveMs => some (.u64 0)
  | .restartReq => some (.u8 (if restartRequired then 1 else 0))

theorem applyAll_save (requested effective : Config) (restartRequired : Bool)
    (entries : Entries) :
    applyAll (writesOf (saveConfigLocked requested effective restartRequired))
        entries =
      savedEntries requested effective restartRequired := by
  funext key
  by_cases empty : string requested.serialNumber.toList = []
  · rw [saveConfigLocked, if_pos empty]
    cases key with
    | serial => exact (if_pos empty).symm
    | _ => rfl
  · rw [saveConfigLocked, if_neg empty]
    cases key with
    | serial => exact (if_neg empty).symm
    | _ => rfl

def resetEntries (restartRequired : Bool) : Entries
  | .restartReq => if restartRequired then some (.u8 1) else none
  | _ => none

theorem applyAll_reset (restartRequired : Bool) (entries : Entries) :
    applyAll (writesOf (resetCalls restartRequired)) entries =
      resetEntries restartRequired := by
  funext key
  cases restartRequired <;> cases key <;> rfl

def savedOverrides (requested effective : Config) : Overrides where
  deviceName := some (charArray 30 (string effective.deviceName.toList))
  manufacturerName :=
    some (charArray 33 (string effective.manufacturerName.toList))
  modelNumber := some (charArray 33 (string effective.modelNumber.toList))
  serialNumber :=
    if string requested.serialNumber.toList = [] then none
    else some (charArray 33 (string effective.serialNumber.toList))
  hardwareRevision :=
    some (charArray 17 (string effective.hardwareRevision.toList))
  softwareRevision :=
    some (charArray 17 (string effective.softwareRevision.toList))
  batterySimulationEnabled := some effective.batterySimulationEnabled
  batteryMinimumPercent := some effective.batteryMinimumPercent
  batteryMaximumPercent := some effective.batteryMaximumPercent
  batteryCurrentPercent := some effective.batteryCurrentPercent
  batteryDropActiveMinutes := some effective.batteryDropActiveMinutes
  batteryActiveMs := some 0

theorem reads_saved (requested : Config) {effective : Config}
    (restartRequired : Bool) (valid : ValidConfig false effective) :
    Reads (savedEntries requested effective restartRequired)
      (savedOverrides requested effective) where
  deviceName :=
    getOptionalString_stored rfl (textValid_length valid.deviceName)
  manufacturerName :=
    getOptionalString_stored rfl (textValid_length valid.manufacturerName)
  modelNumber :=
    getOptionalString_stored rfl (textValid_length valid.modelNumber)
  serialNumber := by
    by_cases empty : string requested.serialNumber.toList = []
    · simp [getOptionalString, nvsGetStr, savedEntries, savedOverrides, empty,
        optional]
    · have overridden : (savedOverrides requested effective).serialNumber =
          some (charArray 33 (string effective.serialNumber.toList)) :=
        if_neg empty
      rw [overridden]
      exact getOptionalString_stored (if_neg empty)
        (textValid_length valid.serialNumber)
  hardwareRevision :=
    getOptionalString_stored rfl (textValid_length valid.hardwareRevision)
  softwareRevision :=
    getOptionalString_stored rfl (textValid_length valid.softwareRevision)
  batterySimulationEnabled := by
    refine ⟨_, getOptionalU8_stored rfl, ?_⟩
    cases enabled : effective.batterySimulationEnabled <;>
      simp [savedOverrides, enabled]
  batteryMinimumPercent := getOptionalU8_stored rfl
  batteryMaximumPercent := getOptionalU8_stored rfl
  batteryCurrentPercent := getOptionalU8_stored rfl
  batteryDropActiveMinutes := getOptionalU16_stored rfl
  batteryActiveMs := getOptionalU64_stored rfl

end Typxen.IdentityService
