import Typxen.Foundation.CJson
import Typxen.Foundation.Threads
import Typxen.IdentityService.IdentityService

/-! # The identity over HTTP

`typx_identity_http.c`. A handler is a program that calls the server, cJSON,
the identity service and the HID runtime; the HID device uses the service
beside it. What cJSON finds in a tree is left to a library. -/

namespace Typxen.IdentityHttp

open BleIdentity CJson CString IdentityService Interaction Threads

variable {Tree : Type}

/-! ## Bodies -/

def errorItems (code : String) (field : Option String) :
    List (String × Item Tree) :=
  [("ok", .bool false), ("error", .string (ascii code))] ++
    (field.map fun name => ("field", .string (ascii name))).toList

def typxBleIdentityValidationCode : Validation → String
  | .valid => "OK"
  | .invalidDeviceName => "INVALID_DEVICE_NAME"
  | .invalidManufacturer => "INVALID_MANUFACTURER"
  | .invalidModel => "INVALID_MODEL"
  | .invalidSerial => "INVALID_SERIAL"
  | .invalidHardwareRevision => "INVALID_HARDWARE_REVISION"
  | .invalidSoftwareRevision => "INVALID_SOFTWARE_REVISION"
  | .invalidBatteryRange => "INVALID_BATTERY_RANGE"
  | .invalidBatteryCurrent => "INVALID_BATTERY_CURRENT"
  | .invalidBatteryInterval => "INVALID_BATTERY_INTERVAL"

def validationField : Validation → Option String
  | .valid => none
  | .invalidDeviceName => some "deviceName"
  | .invalidManufacturer => some "manufacturerName"
  | .invalidModel => some "modelNumber"
  | .invalidSerial => some "serialNumber"
  | .invalidHardwareRevision => some "hardwareRevision"
  | .invalidSoftwareRevision => some "softwareRevision"
  | .invalidBatteryRange => some "battery"
  | .invalidBatteryCurrent => some "currentPercent"
  | .invalidBatteryInterval => some "dropActiveMinutes"

def text {capacity : Nat} (name : String) (array : Vector UInt8 capacity) :
    String × Item Tree :=
  (name, .string (CString.string array.toList))

def sourceText (name : String) (fromNvs : Bool) (otherwise : String) :
    String × Item Tree :=
  (name, .string (ascii (if fromNvs then "nvs" else otherwise)))

/-! The members of `identity_json`, in the order of its calls. -/

def identityItems (state : State) : List (String × Item Tree) := [
  ("ok", .bool true),
  text "deviceName" state.config.deviceName,
  text "manufacturerName" state.config.manufacturerName,
  text "modelNumber" state.config.modelNumber,
  text "serialNumber" state.config.serialNumber,
  text "hardwareRevision" state.config.hardwareRevision,
  text "firmwareRevision" state.firmwareRevision,
  text "softwareRevision" state.config.softwareRevision,
  text "boardIdentifier" state.boardIdentifier]

def batteryItems (config : Config) : List (String × Item Tree) := [
  ("simulationEnabled", .bool config.batterySimulationEnabled),
  ("minimumPercent", .number config.batteryMinimumPercent.toNat),
  ("maximumPercent", .number config.batteryMaximumPercent.toNat),
  ("currentPercent", .number config.batteryCurrentPercent.toNat),
  ("dropActiveMinutes", .number config.batteryDropActiveMinutes.toNat)]

def statusItems (state : State) (connected : Bool) :
    List (String × Item Tree) := [
  ("bleConnected", .bool connected),
  ("restartRequired", .bool state.restartRequired)]

def sourceItems (state : State) : List (String × Item Tree) := [
  sourceText "deviceName" state.sourceDeviceNameNvs "default",
  sourceText "manufacturerName" state.sourceManufacturerNvs "default",
  sourceText "modelNumber" state.sourceModelNvs "default",
  sourceText "serialNumber" state.sourceSerialNvs "generated"]

def restartItems (clearBonds : Bool) : List (String × Item Tree) := [
  ("ok", .bool true),
  ("rebooting", .bool true),
  ("restartMode", .string (ascii "boardReboot")),
  ("bondsClearing", .bool clearBonds)]

/-! ## Requests -/

section Requests

variable (json : Library Tree)

def copyString (root : Option Tree) (name : String) (capacity : Nat)
    (emptyAllowed : Bool) : Option (Vector UInt8 capacity) := do
  let characters ← json.text (json.getObjectItemCaseSensitive root name)
  if characters.length ≥ capacity ||
      (!emptyAllowed && characters.length == 0) then
    none
  else
    some (charArray capacity characters)

def copyInteger (root : Option Tree) (name : String) (minimum maximum : Int) :
    Option Int := do
  let item := json.getObjectItemCaseSensitive root name
  guard (json.isNumber item)
  let number ← item
  if !json.integral number || json.valueInt number < minimum ||
      json.valueInt number > maximum then
    none
  else
    some (json.valueInt number)

def parseConfig (root : Tree) : Option Config := do
  guard (json.isObject (some root) &&
    !json.hasObjectItem (some root) "firmwareRevision")
  let deviceName ← copyString json (some root) "deviceName" 30 false
  let manufacturerName ← copyString json (some root) "manufacturerName" 33 false
  let modelNumber ← copyString json (some root) "modelNumber" 33 false
  let serialNumber ← copyString json (some root) "serialNumber" 33 true
  let hardwareRevision ← copyString json (some root) "hardwareRevision" 17 false
  let softwareRevision ← copyString json (some root) "softwareRevision" 17 false
  let battery := json.getObjectItemCaseSensitive (some root) "battery"
  let enabled := json.getObjectItemCaseSensitive battery "simulationEnabled"
  guard (json.isObject battery && json.isBool enabled)
  let minimum ← copyInteger json battery "minimumPercent" 0 99
  let maximum ← copyInteger json battery "maximumPercent" 1 100
  let current ← copyInteger json battery "currentPercent" 0 100
  let interval ← copyInteger json battery "dropActiveMinutes" 1 1440
  return {
    deviceName := deviceName
    manufacturerName := manufacturerName
    modelNumber := modelNumber
    serialNumber := serialNumber
    hardwareRevision := hardwareRevision
    softwareRevision := softwareRevision
    batterySimulationEnabled := json.isTrue enabled
    batteryMinimumPercent := minimum.toNat.toUInt8
    batteryMaximumPercent := maximum.toNat.toUInt8
    batteryCurrentPercent := current.toNat.toUInt8
    batteryDropActiveMinutes := interval.toNat.toUInt16 }

end Requests

/-! ## Calls -/

/-- `esp_err_t` other than `ESP_OK` of a handler. -/
inductive ReplyError
  | noMem
  | httpd (code : Int)
  deriving DecidableEq, Repr

abbrev Reply := Except ReplyError Unit

inductive HandlerCall (Tree : Type)
  /-- `typx_wifi_service_job_locked`. -/
  | jobLocked
  /-- `typx_hid_runtime_is_idle` of the runtime. -/
  | hidIdle
  | bleConnected
  /-- `httpd_req_recv` of at most so many bytes; `none` is a negative result. -/
  | recv (length : Nat)
  /-- `cJSON_ParseWithLength`; `none` is the null pointer. -/
  | parse (body : List UInt8)
  /-- `cJSON_Delete` of the tree that was parsed. -/
  | deleteRequest
  /-- `cJSON_CreateObject`, if there is memory. -/
  | createObject
  /-- `cJSON_Add…ToObject` of that name, if there is memory. -/
  | add (name : String)
  | snapshot
  | save (requested : Config)
  | reset
  | batteryReset
  /-- `xTaskCreate` of `reboot_task`. -/
  | createRebootTask
  | prepareReboot
  | clearIdentityBonds
  | notifyRebootTask
  | deleteRebootTask
  /-- The printed tree, sent with the status. -/
  | send (status : String) (body : Tree)
  /-- What the HID device makes of the service beside the handlers. -/
  | device (operation : Operation)

@[reducible] def HandlerCall.Answer : HandlerCall Tree → Type
  | .jobLocked => Bool
  | .hidIdle => Bool
  | .bleConnected => Bool
  | .recv _ => Option (List UInt8)
  | .parse _ => Option Tree
  | .deleteRequest => Unit
  | .createObject => Bool
  | .add _ => Bool
  | .snapshot => State
  | .save _ => Except IdentityError Unit
  | .reset => Except IdentityError Unit
  | .batteryReset => Except IdentityError Unit
  | .createRebootTask => Bool
  | .prepareReboot => Bool
  | .clearIdentityBonds => Bool
  | .notifyRebootTask => Unit
  | .deleteRebootTask => Unit
  | .send _ _ => Reply
  | .device _ => Except IdentityError Unit

@[reducible] def handlerCalls (Tree : Type) : Signature where
  Call := HandlerCall Tree
  Answer := HandlerCall.Answer

abbrev Handling (Tree α : Type) := Program (handlerCalls Tree) α

def Handling.call (request : HandlerCall Tree) :
    Handling Tree (HandlerCall.Answer request) :=
  Program.call (S := handlerCalls Tree) request

/-! ## Handlers -/

section Handlers

variable (json : Library Tree)

/-- Calls of `cJSON_Add…ToObject`, none of which is checked; where there is no
memory for a member the object stays as it is. -/
def addItems : Tree → List (String × Item Tree) → Handling Tree Tree
  | object, [] => return object
  | object, (name, item) :: items => do
      if ← Handling.call (.add name) then
        addItems (json.addToObject object name item) items
      else
        addItems object items

def sendError (status code : String) (field : Option String) :
    Handling Tree Reply := do
  if ← Handling.call .createObject then
    let root ← addItems json json.createObject (errorItems code field)
    Handling.call (.send status root)
  else
    return .error .noMem

/-- `identity_json` once there are its three objects. -/
def buildIdentity : Handling Tree Tree := do
  let state ← Handling.call .snapshot
  let root ← addItems json json.createObject (identityItems state)
  let battery ← addItems json json.createObject (batteryItems state.config)
  let root ← addItems json root [("battery", .tree battery)]
  let connected ← Handling.call .bleConnected
  let root ← addItems json root (statusItems state connected)
  let source ← addItems json json.createObject (sourceItems state)
  addItems json root [("source", .tree source)]

def identityJson : Handling Tree (Option Tree) := do
  let root ← Handling.call .createObject
  let battery ← Handling.call .createObject
  let source ← Handling.call .createObject
  if root && battery && source then
    let identity ← buildIdentity json
    return some identity
  else
    return none

/-- `send_json(request, "200 OK", identity_json())`. -/
def sendIdentity : Handling Tree Reply := do
  match ← identityJson json with
  | some body => Handling.call (.send "200 OK" body)
  | none => return .error .noMem

def getHandler : Handling Tree Reply := sendIdentity json

/-- The loop of `read_json` while `missing` bytes of the body have not come.
Every round takes one at least, so `fuel` is their number. -/
def receive : (fuel missing : Nat) → Handling Tree (Option (List UInt8))
  | 0, _ => return some []
  | fuel + 1, missing =>
      if missing = 0 then
        return some []
      else do
        match ← Handling.call (.recv missing) with
        | none => return none
        | some [] => return none
        | some bytes =>
            let rest ← receive fuel (missing - bytes.length)
            return rest.map (bytes ++ ·)

def readJson (contentLength : Nat) : Handling Tree (Option Tree) := do
  if contentLength = 0 ∨ contentLength > 1024 then
    return none
  else
    match ← receive contentLength contentLength with
    | none => return none
    | some body => Handling.call (.parse body)

/-- `cJSON_Delete`, which does nothing with a null pointer. -/
def deleteRequest (root : Option Tree) : Handling Tree Unit :=
  if root.isSome then Handling.call .deleteRequest else return ()

/-- `put_handler` once the request is copied. -/
def saveRequested (requested : Config) : Handling Tree Reply := do
  match ← Handling.call (.save requested) with
  | .error (.invalidArg validation) =>
      sendError json "422 Unprocessable Entity"
        (typxBleIdentityValidationCode validation) (validationField validation)
  | .error _ => sendError json "500 Internal Server Error" "SAVE_FAILED" none
  | .ok () => sendIdentity json

/-- `put_handler` where no job holds the board. -/
def copyRequest (root : Option Tree) : Handling Tree Reply :=
  match root.bind (parseConfig json) with
  | none => do
      deleteRequest root
      sendError json "400 Bad Request" "INVALID_IDENTITY_REQUEST" none
  | some requested => do
      deleteRequest root
      saveRequested json requested

def putHandler (contentLength : Nat) : Handling Tree Reply := do
  let root ← readJson contentLength
  if ← Handling.call .jobLocked then
    sendError json "409 Conflict" "DEDICATED_JOB_ACTIVE" none
  else
    copyRequest json root

def resetHandler : Handling Tree Reply := do
  if ← Handling.call .jobLocked then
    sendError json "409 Conflict" "DEDICATED_JOB_ACTIVE" none
  else
    match ← Handling.call .reset with
    | .error _ => sendError json "500 Internal Server Error" "RESET_FAILED" none
    | .ok () => sendIdentity json

def batteryResetHandler : Handling Tree Reply := do
  if ← Handling.call .jobLocked then
    sendError json "409 Conflict" "DEDICATED_JOB_ACTIVE" none
  else
    match ← Handling.call .batteryReset with
    | .error _ =>
        sendError json "500 Internal Server Error" "BATTERY_RESET_FAILED" none
    | .ok () => sendIdentity json

/-- `vTaskDelete(task)` and the error. -/
def refuseRestart (code : String) : Handling Tree Reply := do
  Handling.call .deleteRebootTask
  sendError json "500 Internal Server Error" code none

def sendRestart (clearBonds : Bool) : Handling Tree Reply := do
  if ← Handling.call .createObject then
    let root ← addItems json json.createObject (restartItems clearBonds)
    Handling.call (.send "202 Accepted" root)
  else
    return .error .noMem

/-- `restart_handler` from the answer on. -/
def acceptRestart (clearBonds : Bool) : Handling Tree Reply := do
  let error ← sendRestart json clearBonds
  match error with
  | .ok () => Handling.call .notifyRebootTask
  | .error _ => Handling.call .deleteRebootTask
  return error

/-- `restart_handler` once all keys are released. -/
def clearAndRestart (clearBonds : Bool) : Handling Tree Reply :=
  if clearBonds then do
    if ← Handling.call .clearIdentityBonds then
      acceptRestart json clearBonds
    else
      refuseRestart json "BOND_CLEAR_FAILED"
  else
    acceptRestart json clearBonds

def restartHandler : Handling Tree Reply := do
  if ← Handling.call .jobLocked then
    sendError json "409 Conflict" "DEDICATED_JOB_ACTIVE" none
  else if !(← Handling.call .hidIdle) then
    sendError json "409 Conflict" "HID_EXECUTION_ACTIVE" none
  else
    let identity ← Handling.call .snapshot
    let clearBonds := typxBleIdentityRestartClearsBonds identity
    if !(← Handling.call .createRebootTask) then
      sendError json "500 Internal Server Error" "RESTART_UNAVAILABLE" none
    else if !(← Handling.call .prepareReboot) then
      refuseRestart json "HID_RELEASE_FAILED"
    else
      clearAndRestart json clearBonds

end Handlers

/-! ## The service -/

/-- An operation whose NVS calls fail as some `faults` say. -/
def Operates (operation : Operation) (before : Service)
    (result : Except IdentityError Unit) (after : Service) : Prop :=
  ∃ faults, operation.perform faults before = some (result, after)

def handlerEnvironment : Environment (handlerCalls Tree) Service
  | .recv length, before, answer, after =>
      (∀ bytes, answer = some bytes → bytes.length ≤ length) ∧ after = before
  | .snapshot, before, state, after => state = before.state ∧ after = before
  | .save requested, before, result, after =>
      Operates (.save requested) before result after
  | .reset, before, result, after => Operates .reset before result after
  | .batteryReset, before, result, after =>
      ∃ hidFailure, Operates (.batteryReset hidFailure) before result after
  | .device operation, before, result, after =>
      Operates operation before result after
  | _, before, _, after => after = before

/-! ## Who runs -/

inductive Request
  | get
  | put (contentLength : Nat)
  | reset
  | batteryReset
  | restart
  deriving DecidableEq, Repr

def Request.handler (json : Library Tree) : Request → Handling Tree Reply
  | .get => getHandler json
  | .put contentLength => putHandler json contentLength
  | .reset => resetHandler json
  | .batteryReset => batteryResetHandler json
  | .restart => restartHandler json

def Request.serve (json : Library Tree) (request : Request) :
    Handling Tree Unit := do
  let _ ← request.handler json
  return ()

def ofDevice : Operation → Bool
  | .bindHid _ _ => true
  | .recordSuccessfulReport _ _ => true
  | .endActivity => true
  | _ => false

def operate (operation : Operation) : Handling Tree Unit := do
  let _ ← Handling.call (.device operation)
  return ()

inductive HttpRole
  | server
  | device
  deriving DecidableEq, Repr

inductive Begins (json : Library Tree) : HttpRole → Handling Tree Unit → Prop
  | server (request : Request) : Begins json .server (request.serve json)
  | device {operation : Operation} : ofDevice operation = true →
      Begins json .device (operate operation)

/-- The server handles one request at a time. -/
def identityDesign (json : Library Tree) :
    Design (handlerCalls Tree) HttpRole Service where
  environment := handlerEnvironment
  creates := fun _ => none
  begins processes role program :=
    (role = .server → ∀ slot process, processes slot = some process →
      process.role ≠ .server) ∧ Begins json role program

end Typxen.IdentityHttp
