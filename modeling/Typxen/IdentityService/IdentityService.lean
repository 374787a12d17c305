import Typxen.BleIdentity.BleIdentity
import Typxen.Foundation.KeyValue

/-! # The identity service

`typx_identity_service.c` from a successful `typx_identity_service_init` on.
The mutex makes every operation one step. A failing NVS call has no effect; the
first call of an operation is the one that `faults` numbers 0. -/

namespace Typxen.IdentityService

open BleIdentity CString KeyValue

/-! ## The namespace `ble_identity` -/

inductive NvsKey
  | name
  | manufacturer
  | model
  | serial
  | hwRev
  | swRev
  | battEnabled
  | battMin
  | battMax
  | battCurrent
  | battInterval
  | battActiveMs
  | restartReq
  deriving DecidableEq, Repr

inductive NvsValue
  | str (text : List UInt8)
  | u8 (value : UInt8)
  | u16 (value : UInt16)
  | u64 (value : UInt64)
  deriving DecidableEq, Repr

abbrev Entries := NvsKey → Option NvsValue

/-- A namespace exists once it has been opened for writing. -/
structure Nvs where
  created : Bool
  entries : Entries

/-- `esp_err_t` other than `ESP_OK`. With `ESP_ERR_INVALID_ARG` the caller gets
the validation of its request. -/
inductive IdentityError
  | nvsNotFound
  | nvsTypeMismatch
  | nvsInvalidLength
  | invalidArg (validation : Validation)
  /-- Any other error of an NVS call. -/
  | nvs (code : Int)
  /-- The error of `esp_hidd_dev_battery_set`. -/
  | hid (code : Int)
  deriving DecidableEq, Repr

/-- How each NVS call of an operation fails, if it does. -/
abbrev Faults := Nat → Option Int

def noFaults : Faults := fun _ => none

inductive NvsCall
  | setStr (key : NvsKey) (text : List UInt8)
  | setU8 (key : NvsKey) (value : UInt8)
  | setU16 (key : NvsKey) (value : UInt16)
  | setU64 (key : NvsKey) (value : UInt64)
  | eraseKey (key : NvsKey)
  | commit
  deriving DecidableEq, Repr

def NvsCall.perform (call : NvsCall) (entries : Entries) :
    Except IdentityError Entries :=
  match call with
  | .setStr key text => .ok ((Write.set key (.str text)).apply entries)
  | .setU8 key value => .ok ((Write.set key (.u8 value)).apply entries)
  | .setU16 key value => .ok ((Write.set key (.u16 value)).apply entries)
  | .setU64 key value => .ok ((Write.set key (.u64 value)).apply entries)
  | .eraseKey key =>
      match entries key with
      | none => .error .nvsNotFound
      | some _ => .ok ((Write.erase key).apply entries)
  | .commit => .ok entries

/-- The errors after which the service goes on: `ESP_ERR_NVS_NOT_FOUND` of
`nvs_erase_key`. -/
def NvsCall.ignores : NvsCall → IdentityError → Bool
  | .eraseKey _, .nvsNotFound => true
  | _, _ => false

/-- NVS calls each made only if the ones before gave `ESP_OK`. -/
def performCalls (faults : Faults) :
    (index : Nat) → List NvsCall → Entries →
    Except IdentityError Unit × Entries
  | _, [], entries => (.ok (), entries)
  | index, call :: rest, entries =>
      match faults index with
      | some code => (.error (.nvs code), entries)
      | none =>
          match call.perform entries with
          | .ok next => performCalls faults (index + 1) rest next
          | .error error =>
              if call.ignores error then
                performCalls faults (index + 1) rest entries
              else
                (.error error, entries)

/-- `nvs_open` for writing, the calls and `nvs_close`. -/
def nvsSession (faults : Faults) (calls : List NvsCall) (nvs : Nvs) :
    Except IdentityError Unit × Nvs :=
  match faults 0 with
  | some code => (.error (.nvs code), nvs)
  | none =>
      let (result, entries) := performCalls faults 1 calls nvs.entries
      (result, { created := true, entries := entries })

/-! ## Loading -/

def nvsGetStr (entries : Entries) (key : NvsKey) (capacity : Nat) :
    Except IdentityError (Vector UInt8 capacity) :=
  match entries key with
  | none => .error .nvsNotFound
  | some (.str text) =>
      if text.length < capacity then .ok (charArray capacity text)
      else .error .nvsInvalidLength
  | some _ => .error .nvsTypeMismatch

def nvsGetU8 (entries : Entries) (key : NvsKey) : Except IdentityError UInt8 :=
  match entries key with
  | none => .error .nvsNotFound
  | some (.u8 value) => .ok value
  | some _ => .error .nvsTypeMismatch

def nvsGetU16 (entries : Entries) (key : NvsKey) :
    Except IdentityError UInt16 :=
  match entries key with
  | none => .error .nvsNotFound
  | some (.u16 value) => .ok value
  | some _ => .error .nvsTypeMismatch

def nvsGetU64 (entries : Entries) (key : NvsKey) :
    Except IdentityError UInt64 :=
  match entries key with
  | none => .error .nvsNotFound
  | some (.u64 value) => .ok value
  | some _ => .error .nvsTypeMismatch

def optional {α : Type} (value : Except IdentityError α) :
    Except IdentityError (Option α) :=
  match value with
  | .ok value => .ok (some value)
  | .error .nvsNotFound => .ok none
  | .error error => .error error

def getOptionalString (entries : Entries) (key : NvsKey) (capacity : Nat) :
    Except IdentityError (Option (Vector UInt8 capacity)) :=
  optional (nvsGetStr entries key capacity)

def getOptionalU8 (entries : Entries) (key : NvsKey) :
    Except IdentityError (Option UInt8) :=
  optional (nvsGetU8 entries key)

def getOptionalU16 (entries : Entries) (key : NvsKey) :
    Except IdentityError (Option UInt16) :=
  optional (nvsGetU16 entries key)

def loadOverrides (nvs : Nvs) : Except IdentityError Overrides :=
  if nvs.created then do
    let name ← getOptionalString nvs.entries .name 30
    let manufacturer ← getOptionalString nvs.entries .manufacturer 33
    let model ← getOptionalString nvs.entries .model 33
    let serial ← getOptionalString nvs.entries .serial 33
    let hwRev ← getOptionalString nvs.entries .hwRev 17
    let swRev ← getOptionalString nvs.entries .swRev 17
    let battEnabled ← getOptionalU8 nvs.entries .battEnabled
    let battMin ← getOptionalU8 nvs.entries .battMin
    let battMax ← getOptionalU8 nvs.entries .battMax
    let battCurrent ← getOptionalU8 nvs.entries .battCurrent
    let battInterval ← getOptionalU16 nvs.entries .battInterval
    let battActiveMs ← optional (nvsGetU64 nvs.entries .battActiveMs)
    return {
      deviceName := name
      manufacturerName := manufacturer
      modelNumber := model
      serialNumber := serial
      hardwareRevision := hwRev
      softwareRevision := swRev
      batterySimulationEnabled := battEnabled.map (· != 0)
      batteryMinimumPercent := battMin
      batteryMaximumPercent := battMax
      batteryCurrentPercent := battCurrent
      batteryDropActiveMinutes := battInterval
      batteryActiveMs := battActiveMs }
  else .error .nvsNotFound

/-- The overrides as `typx_identity_service_init` takes them: none where the
namespace does not exist. -/
def bootOverrides (nvs : Nvs) : Except IdentityError Overrides :=
  match loadOverrides nvs with
  | .error .nvsNotFound => .ok {}
  | result => result

/-! ## The service -/

/-- The static variables `s_chip_identity`, `s_state` and whether
`s_hid_device` is set, with the namespace. -/
structure Service where
  chipIdentity : Vector UInt8 6
  state : State
  hidDevice : Bool
  nvs : Nvs

/-- The identity that `typx_identity_service_init` loads. `description` is the
version in `esp_app_get_description`. -/
def bootState (chipIdentity : Vector UInt8 6)
    (description : Option (List UInt8)) (overrides : Overrides) : State :=
  typxBleIdentityLoad chipIdentity
    (some (description.getD (ascii "unknown"))) (some overrides)

def typxIdentityServiceInit (chipIdentity : Vector UInt8 6)
    (description : Option (List UInt8)) (faults : Faults) (nvs : Nvs) :
    Except IdentityError Service :=
  match bootOverrides nvs with
  | .error error => .error error
  | .ok overrides =>
      .ok {
        chipIdentity := chipIdentity
        state := bootState chipIdentity description overrides
        hidDevice := false
        nvs := (nvsSession faults [.eraseKey .restartReq, .commit] nvs).2 }

def persistActivityLocked (state : State) : List NvsCall :=
  [.setU8 .battCurrent state.config.batteryCurrentPercent,
    .setU64 .battActiveMs state.batteryActiveMs,
    .commit]

def saveConfigLocked (requested effective : Config) (restartRequired : Bool) :
    List NvsCall :=
  [.setStr .name (string effective.deviceName.toList),
    .setStr .manufacturer (string effective.manufacturerName.toList),
    .setStr .model (string effective.modelNumber.toList),
    if string requested.serialNumber.toList = [] then .eraseKey .serial
    else .setStr .serial (string effective.serialNumber.toList),
    .setStr .hwRev (string effective.hardwareRevision.toList),
    .setStr .swRev (string effective.softwareRevision.toList),
    .setU8 .battEnabled (if effective.batterySimulationEnabled then 1 else 0),
    .setU8 .battMin effective.batteryMinimumPercent,
    .setU8 .battMax effective.batteryMaximumPercent,
    .setU8 .battCurrent effective.batteryCurrentPercent,
    .setU16 .battInterval effective.batteryDropActiveMinutes,
    .setU64 .battActiveMs 0,
    .setU8 .restartReq (if restartRequired then 1 else 0),
    .commit]

def eraseIdentityKeys : List NvsCall :=
  [.eraseKey .name, .eraseKey .manufacturer, .eraseKey .model,
    .eraseKey .serial, .eraseKey .hwRev, .eraseKey .swRev,
    .eraseKey .battEnabled, .eraseKey .battMin, .eraseKey .battMax,
    .eraseKey .battCurrent, .eraseKey .battInterval, .eraseKey .battActiveMs,
    .eraseKey .restartReq]

def savedState (state : State) (requested effective : Config)
    (restartRequired : Bool) : State :=
  { state with
    config := effective
    restartRequired := restartRequired
    batteryActiveMs := 0
    activityOpen := false
    sourceDeviceNameNvs := true
    sourceManufacturerNvs := true
    sourceModelNvs := true
    sourceSerialNvs := !(string requested.serialNumber.toList).isEmpty }

def typxIdentityServiceSave (faults : Faults) (requested : Config)
    (service : Service) : Except IdentityError Unit × Service :=
  match typxBleIdentityPrepareUpdate service.state requested with
  | .error validation => (.error (.invalidArg validation), service)
  | .ok (effective, restartRequired) =>
      match nvsSession faults
          (saveConfigLocked requested effective restartRequired)
          service.nvs with
      | (.error error, nvs) => (.error error, { service with nvs := nvs })
      | (.ok (), nvs) =>
          (.ok (), { service with
            state := savedState service.state requested effective
              restartRequired
            nvs := nvs })

/-- `defaults` of `typx_identity_service_reset`. -/
def resetDefaults (service : Service) : State :=
  typxBleIdentityLoad service.chipIdentity
    (some (string service.state.firmwareRevision.toList)) none

/-- `restart_required` of `typx_identity_service_reset`. -/
def resetRestartRequired (service : Service) : Bool :=
  identityTextChanged service.state.config (resetDefaults service).config

def resetCalls (restartRequired : Bool) : List NvsCall :=
  eraseIdentityKeys ++
    (if restartRequired then [.setU8 .restartReq 1] else []) ++ [.commit]

def typxIdentityServiceReset (faults : Faults) (service : Service) :
    Except IdentityError Unit × Service :=
  let restartRequired := resetRestartRequired service
  match nvsSession faults (resetCalls restartRequired) service.nvs with
  | (.error error, nvs) => (.error error, { service with nvs := nvs })
  | (.ok (), nvs) =>
      (.ok (), { service with
        state := { resetDefaults service with
          restartRequired := restartRequired }
        nvs := nvs })

/-- `hidFailure` is the error of `esp_hidd_dev_battery_set`, if it fails. -/
def typxIdentityServiceBatteryReset (faults : Faults)
    (hidFailure : Option Int) (service : Service) :
    Except IdentityError Unit × Service :=
  let (state, changed) := typxBleIdentityResetBattery service.state
  match nvsSession faults (persistActivityLocked state) service.nvs with
  | (.error error, nvs) =>
      (.error error, { service with state := state, nvs := nvs })
  | (.ok (), nvs) =>
      let after := { service with state := state, nvs := nvs }
      if changed && service.hidDevice then
        (match hidFailure with
        | some code => (.error (.hid code), after)
        | none => (.ok (), after))
      else
        (.ok (), after)

def typxIdentityServiceBindHid (device : Bool) (hidFailure : Option Int)
    (service : Service) : Except IdentityError Unit × Service :=
  let after := { service with hidDevice := device }
  match device, hidFailure with
  | true, some code => (.error (.hid code), after)
  | _, _ => (.ok (), after)

/-- `none` where the battery loop does not end. -/
def typxIdentityServiceRecordSuccessfulReport (faults : Faults)
    (nowMs : UInt64) (executionActive : Bool) (service : Service) :
    Option Service :=
  match typxBleIdentityRecordSuccessfulReport service.state nowMs
      executionActive with
  | none => none
  | some (state, false) => some { service with state := state }
  | some (state, true) =>
      some { service with
        state := state
        nvs := (nvsSession faults (persistActivityLocked state)
          service.nvs).2 }

def typxIdentityServiceEndActivity (faults : Faults) (service : Service) :
    Service :=
  let state := typxBleIdentityEndActivity service.state
  { service with
    state := state
    nvs := (nvsSession faults (persistActivityLocked state) service.nvs).2 }

/-! ## Runs -/

inductive Operation
  | save (requested : Config)
  | reset
  | batteryReset (hidFailure : Option Int)
  | bindHid (device : Bool) (hidFailure : Option Int)
  | recordSuccessfulReport (nowMs : UInt64) (executionActive : Bool)
  | endActivity

/-- An operation and what it returns; one without a result counts as
successful. `none` where it does not return. -/
def Operation.perform (faults : Faults) (service : Service) :
    Operation → Option (Except IdentityError Unit × Service)
  | .save requested => some (typxIdentityServiceSave faults requested service)
  | .reset => some (typxIdentityServiceReset faults service)
  | .batteryReset hidFailure =>
      some (typxIdentityServiceBatteryReset faults hidFailure service)
  | .bindHid device hidFailure =>
      some (typxIdentityServiceBindHid device hidFailure service)
  | .recordSuccessfulReport nowMs executionActive =>
      (typxIdentityServiceRecordSuccessfulReport faults nowMs executionActive
        service).map (.ok (), ·)
  | .endActivity => some (.ok (), typxIdentityServiceEndActivity faults service)

inductive IdentityEvent
  | operate (operation : Operation) (faults : Faults)
      (result : Except IdentityError Unit)
  /-- Into the firmware whose version is `description`. -/
  | reboot (description : Option (List UInt8)) (faults : Faults)

inductive IdentityStep : Service → IdentityEvent → Service → Prop
  | operate {before after : Service} {operation : Operation} {faults : Faults}
      {result : Except IdentityError Unit} :
      operation.perform faults before = some (result, after) →
      IdentityStep before (.operate operation faults result) after
  | reboot {before after : Service} {description : Option (List UInt8)}
      {faults : Faults} :
      typxIdentityServiceInit before.chipIdentity description faults
        before.nvs = .ok after →
      IdentityStep before (.reboot description faults) after

end Typxen.IdentityService
