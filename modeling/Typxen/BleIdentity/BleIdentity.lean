import Typxen.Foundation.CNumber
import Typxen.Foundation.CString

/-! # The Bluetooth identity

`typx_ble_identity.c`. A `char` array is a fixed-size vector; results returned
as a flag together with output parameters are `Except` or `Option` values. -/

namespace Typxen.BleIdentity

open CNumber CString

/-- `typx_ble_identity_config_t`. -/
structure Config where
  deviceName : Vector UInt8 30
  manufacturerName : Vector UInt8 33
  modelNumber : Vector UInt8 33
  serialNumber : Vector UInt8 33
  hardwareRevision : Vector UInt8 17
  softwareRevision : Vector UInt8 17
  batterySimulationEnabled : Bool
  batteryMinimumPercent : UInt8
  batteryMaximumPercent : UInt8
  batteryCurrentPercent : UInt8
  batteryDropActiveMinutes : UInt16
  deriving DecidableEq

/-- `typx_ble_identity_overrides_t`. A value whose flag is clear is `none`. -/
structure Overrides where
  deviceName : Option (Vector UInt8 30) := none
  manufacturerName : Option (Vector UInt8 33) := none
  modelNumber : Option (Vector UInt8 33) := none
  serialNumber : Option (Vector UInt8 33) := none
  hardwareRevision : Option (Vector UInt8 17) := none
  softwareRevision : Option (Vector UInt8 17) := none
  batterySimulationEnabled : Option Bool := none
  batteryMinimumPercent : Option UInt8 := none
  batteryMaximumPercent : Option UInt8 := none
  batteryCurrentPercent : Option UInt8 := none
  batteryDropActiveMinutes : Option UInt16 := none
  batteryActiveMs : Option UInt64 := none

/-- `typx_ble_identity_validation_t`. -/
inductive Validation
  | valid
  | invalidDeviceName
  | invalidManufacturer
  | invalidModel
  | invalidSerial
  | invalidHardwareRevision
  | invalidSoftwareRevision
  | invalidBatteryRange
  | invalidBatteryCurrent
  | invalidBatteryInterval
  deriving DecidableEq, Repr

/-- `typx_ble_identity_state_t`. -/
structure State where
  config : Config
  firmwareRevision : Vector UInt8 33
  boardIdentifier : Vector UInt8 15
  sourceDeviceNameNvs : Bool
  sourceManufacturerNvs : Bool
  sourceModelNvs : Bool
  sourceSerialNvs : Bool
  restartRequired : Bool
  batteryActiveMs : UInt64
  lastSuccessMs : UInt64
  activityOpen : Bool
  deriving DecidableEq

/-! ## Generated identifiers -/

def identityHash (chipIdentity : Vector UInt8 6) : UInt32 :=
  let mix (hash : UInt32) (byte : UInt8) : UInt32 :=
    (hash ^^^ byte.toUInt32) * 16777619
  let salted := (ascii "TypxenIdentityV1").foldl mix 2166136261
  chipIdentity.toList.foldl mix salted

/-- One digit of the conversion `%X`. -/
def hexDigit (value : UInt32) : UInt8 :=
  if value < 10 then 0x30 + value.toUInt8 else 0x37 + value.toUInt8

/-- The conversion `%08lX`. -/
def hex8 (value : UInt32) : List UInt8 :=
  ([28, 24, 20, 16, 12, 8, 4, 0] : List UInt32).map fun place =>
    hexDigit ((value >>> place) &&& 0xf)

/-- `snprintf` of a text into a `char` array. -/
def snprintf (capacity : Nat) (text : List UInt8) : Vector UInt8 capacity :=
  charArray capacity (text.take (capacity - 1))

def typxBleIdentityGeneratedSerial (chipIdentity : Vector UInt8 6) :
    Vector UInt8 33 :=
  snprintf 33 (ascii "TYPX-" ++ hex8 (identityHash chipIdentity))

def typxBleIdentityBoardIdentifier (chipIdentity : Vector UInt8 6) :
    Vector UInt8 15 :=
  snprintf 15 (ascii "BOARD-" ++ hex8 (identityHash chipIdentity))

/-! ## Validation -/

def textValid {capacity : Nat} (text : Vector UInt8 capacity)
    (emptyAllowed : Bool) : Bool :=
  let characters := string text.toList
  decide (characters.length < capacity) &&
    (emptyAllowed || !characters.isEmpty) &&
    !characters.head?.any isSpace && !characters.getLast?.any isSpace &&
    characters.all fun value => 0x20 ≤ value && value ≤ 0x7e

def typxBleIdentityScanResponseBytes {capacity : Nat}
    (deviceName : Vector UInt8 capacity) : Nat :=
  (string deviceName.toList).length + 2

def typxBleIdentityAdvertisingFits {capacity : Nat}
    (deviceName : Vector UInt8 capacity) : Bool :=
  decide (31 ≤ 31 ∧ typxBleIdentityScanResponseBytes deviceName ≤ 31)

def typxBleIdentityValidate (config : Config) (serialMayBeEmpty : Bool) :
    Validation :=
  if !textValid config.deviceName false ||
      !typxBleIdentityAdvertisingFits config.deviceName then
    .invalidDeviceName
  else if !textValid config.manufacturerName false then .invalidManufacturer
  else if !textValid config.modelNumber false then .invalidModel
  else if !textValid config.serialNumber serialMayBeEmpty then .invalidSerial
  else if !textValid config.hardwareRevision false then
    .invalidHardwareRevision
  else if !textValid config.softwareRevision false then
    .invalidSoftwareRevision
  else if config.batteryMinimumPercent > 99 ||
      config.batteryMaximumPercent < 1 || config.batteryMaximumPercent > 100 ||
      config.batteryMinimumPercent ≥ config.batteryMaximumPercent then
    .invalidBatteryRange
  else if config.batteryCurrentPercent < config.batteryMinimumPercent ||
      config.batteryCurrentPercent > config.batteryMaximumPercent then
    .invalidBatteryCurrent
  else if config.batteryDropActiveMinutes < 1 ||
      config.batteryDropActiveMinutes > 1440 then
    .invalidBatteryInterval
  else .valid

/-! ## Loading -/

def defaults (chipIdentity : Vector UInt8 6)
    (firmwareRevision : Option (List UInt8)) : State where
  config := {
    deviceName := charArray 30 (ascii "Typxen Keyboard")
    manufacturerName := charArray 33 (ascii "Typxen")
    modelNumber := charArray 33 (ascii "Typxen ESP32-CAM")
    serialNumber := typxBleIdentityGeneratedSerial chipIdentity
    hardwareRevision := charArray 17 (ascii "1.0")
    softwareRevision := charArray 17 (ascii "1.0.0")
    batterySimulationEnabled := true
    batteryMinimumPercent := 50
    batteryMaximumPercent := 90
    batteryCurrentPercent := 90
    batteryDropActiveMinutes := 20 }
  firmwareRevision := snprintf 33 (firmwareRevision.getD (ascii "unknown"))
  boardIdentifier := typxBleIdentityBoardIdentifier chipIdentity
  sourceDeviceNameNvs := false
  sourceManufacturerNvs := false
  sourceModelNvs := false
  sourceSerialNvs := false
  restartRequired := false
  batteryActiveMs := 0
  lastSuccessMs := 0
  activityOpen := false

/-- `candidate` of `typx_ble_identity_load` once the overrides are applied. -/
def applyOverrides (candidate : State) (overrides : Overrides) : State :=
  { candidate with
    config := {
      deviceName := overrides.deviceName.getD candidate.config.deviceName
      manufacturerName :=
        overrides.manufacturerName.getD candidate.config.manufacturerName
      modelNumber := overrides.modelNumber.getD candidate.config.modelNumber
      serialNumber := overrides.serialNumber.getD candidate.config.serialNumber
      hardwareRevision :=
        overrides.hardwareRevision.getD candidate.config.hardwareRevision
      softwareRevision :=
        overrides.softwareRevision.getD candidate.config.softwareRevision
      batterySimulationEnabled := overrides.batterySimulationEnabled.getD
        candidate.config.batterySimulationEnabled
      batteryMinimumPercent := overrides.batteryMinimumPercent.getD
        candidate.config.batteryMinimumPercent
      batteryMaximumPercent := overrides.batteryMaximumPercent.getD
        candidate.config.batteryMaximumPercent
      batteryCurrentPercent := overrides.batteryCurrentPercent.getD
        candidate.config.batteryCurrentPercent
      batteryDropActiveMinutes := overrides.batteryDropActiveMinutes.getD
        candidate.config.batteryDropActiveMinutes }
    batteryActiveMs := overrides.batteryActiveMs.getD candidate.batteryActiveMs
    sourceDeviceNameNvs := overrides.deviceName.isSome
    sourceManufacturerNvs := overrides.manufacturerName.isSome
    sourceModelNvs := overrides.modelNumber.isSome
    sourceSerialNvs := overrides.serialNumber.isSome }

def typxBleIdentityLoad (chipIdentity : Vector UInt8 6)
    (firmwareRevision : Option (List UInt8)) (overrides : Option Overrides) :
    State :=
  let candidate := overrides.elim (defaults chipIdentity firmwareRevision)
    (applyOverrides (defaults chipIdentity firmwareRevision))
  if typxBleIdentityValidate candidate.config false ≠ .valid then
    defaults chipIdentity firmwareRevision
  else
    candidate

/-! ## Updates -/

/-- `strcmp(left, right) != 0`. -/
def textDiffers {capacity : Nat} (left right : Vector UInt8 capacity) : Bool :=
  string left.toList != string right.toList

def identityTextChanged (oldConfig newConfig : Config) : Bool :=
  textDiffers oldConfig.deviceName newConfig.deviceName ||
    textDiffers oldConfig.manufacturerName newConfig.manufacturerName ||
    textDiffers oldConfig.modelNumber newConfig.modelNumber ||
    textDiffers oldConfig.serialNumber newConfig.serialNumber ||
    textDiffers oldConfig.hardwareRevision newConfig.hardwareRevision ||
    textDiffers oldConfig.softwareRevision newConfig.softwareRevision

def typxBleIdentityPrepareUpdate (state : State) (requested : Config) :
    Except Validation (Config × Bool) :=
  if typxBleIdentityValidate requested true ≠ .valid then
    .error (typxBleIdentityValidate requested true)
  else
    let effective :=
      if string requested.serialNumber.toList = [] then
        { requested with
          serialNumber := snprintf 33
            (ascii "TYPX-" ++ string (state.boardIdentifier.toList.drop 6)) }
      else requested
    .ok (effective,
      state.restartRequired || identityTextChanged state.config effective)

def typxBleIdentityRestartClearsBonds (state : State) : Bool :=
  state.restartRequired

/-! ## The simulated battery -/

/-- The loop of `typx_ble_identity_record_successful_report`; `none` where it
has taken more than `fuel` rounds. -/
def batteryDrops (minimum maximum : UInt8) (intervalMs : UInt64) :
    (fuel : Nat) → (activeMs : UInt64) → (current : UInt8) → (changed : Bool) →
    Option (UInt64 × UInt8 × Bool)
  | 0, _, _, _ => none
  | fuel + 1, activeMs, current, changed =>
      if activeMs ≥ intervalMs then
        batteryDrops minimum maximum intervalMs fuel (activeMs - intervalMs)
          (if current ≤ minimum then maximum else current - 1) true
      else
        some (activeMs, current, changed)

/-- `none` where the loop does not end. -/
def typxBleIdentityRecordSuccessfulReport (state : State) (nowMs : UInt64)
    (executionActive : Bool) : Option (State × Bool) :=
  if !executionActive || !state.config.batterySimulationEnabled then
    some ({ state with activityOpen := false }, false)
  else if !state.activityOpen then
    some ({ state with lastSuccessMs := nowMs, activityOpen := true }, false)
  else
    let activeMs := state.batteryActiveMs + (nowMs - state.lastSuccessMs)
    let intervalMs := state.config.batteryDropActiveMinutes.toUInt64 * 60000
    match batteryDrops state.config.batteryMinimumPercent
        state.config.batteryMaximumPercent intervalMs (activeMs.toNat + 1)
        activeMs state.config.batteryCurrentPercent false with
    | none => none
    | some (remainingMs, current, changed) =>
        some ({ state with
          lastSuccessMs := nowMs
          batteryActiveMs := remainingMs
          config := { state.config with batteryCurrentPercent := current } },
          changed)

def typxBleIdentityEndActivity (state : State) : State :=
  { state with activityOpen := false }

def typxBleIdentityResetBattery (state : State) : State × Bool :=
  let changed := state.config.batteryCurrentPercent !=
    state.config.batteryMaximumPercent
  ({ state with
    config := { state.config with
      batteryCurrentPercent := state.config.batteryMaximumPercent }
    batteryActiveMs := 0
    activityOpen := false }, changed)

end Typxen.BleIdentity
