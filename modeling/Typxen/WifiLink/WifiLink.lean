import Typxen.BoardSetup.StationCommand
import Typxen.Foundation.Interaction

/-! # The Wi-Fi link

The network side of `typx_wifi_service.c`: the recovery access point and the
phone hotspot, the HTTP server and mDNS, the event handler and the tasks that
it creates. Nothing guards the static variables, so every access to them is a
call: a condition reads them, a statement writes one of them. -/

namespace Typxen.WifiLink

open Interaction CString BoardSetup

/-! ## The static variables -/

/-- `esp_err_t`. -/
inductive EspErr
  | ok
  | noMem
  | invalidArg
  | invalidState
  | nvsNotFound
  | other (code : Int)
  deriving DecidableEq, Repr

inductive WifiMode
  | stopped
  | ap
  | sta
  deriving DecidableEq, Repr

structure StationConfig where
  ssid : List UInt8
  password : List UInt8
  configured : Bool
  deriving DecidableEq, Repr

/-- `none` where the arguments are refused. -/
def typxWifiStationConfigSet (ssid password : List UInt8) :
    Option StationConfig :=
  if typxWifiStationCredentialsValid (some ssid) (some password) then
    some ⟨string ssid, string password, true⟩
  else
    none

def typxWifiStationConfigClear : StationConfig := ⟨[], [], false⟩

/-- Pointers are whether they are set, and an address of zero is the string
`0.0.0.0`. -/
structure Link where
  wifiMode : WifiMode
  wifiInitialized : Bool
  wifiStarted : Bool
  executionWifiPause : Bool
  fallbackTaskPending : Bool
  httpRestartTaskPending : Bool
  mdnsStarted : Bool
  postJobStationReconnect : Bool
  staConnectAttempts : Nat
  station : StationConfig
  apSsid : List UInt8
  apPassword : List UInt8
  activeIp : UInt32
  mdnsHostname : List UInt8
  http : Bool
  httpPort : UInt16
  executionTask : Bool
  deriving DecidableEq, Repr

inductive Update
  | wifiMode (mode : WifiMode)
  | wifiInitialized (value : Bool)
  | wifiStarted (value : Bool)
  | executionWifiPause (value : Bool)
  | fallbackTaskPending (value : Bool)
  | httpRestartTaskPending (value : Bool)
  | mdnsStarted (value : Bool)
  | postJobStationReconnect (value : Bool)
  | resetAttempts
  | countAttempt
  | station (config : StationConfig)
  | activeIp (address : UInt32)
  | noHttp
  | httpPort (port : UInt16)
  | noExecutionTask
  deriving DecidableEq, Repr

def Update.apply (link : Link) : Update → Link
  | .wifiMode mode => { link with wifiMode := mode }
  | .wifiInitialized value => { link with wifiInitialized := value }
  | .wifiStarted value => { link with wifiStarted := value }
  | .executionWifiPause value => { link with executionWifiPause := value }
  | .fallbackTaskPending value => { link with fallbackTaskPending := value }
  | .httpRestartTaskPending value =>
      { link with httpRestartTaskPending := value }
  | .mdnsStarted value => { link with mdnsStarted := value }
  | .postJobStationReconnect value =>
      { link with postJobStationReconnect := value }
  | .resetAttempts => { link with staConnectAttempts := 0 }
  | .countAttempt =>
      { link with staConnectAttempts := link.staConnectAttempts + 1 }
  | .station config => { link with station := config }
  | .activeIp address => { link with activeIp := address }
  | .noHttp => { link with http := false }
  | .httpPort port => { link with httpPort := port }
  | .noExecutionTask => { link with executionTask := false }

/-! ## Calls -/

inductive HttpMethod
  | get
  | put
  | post
  deriving DecidableEq, Repr

/-- `wifi_config_t` as `start_mode` fills it. -/
inductive WifiConfig
  | ap (ssid password : List UInt8) (ssidLen channel maxConnection : Nat)
  | sta (ssid password : List UInt8)
  deriving DecidableEq, Repr

/-- The calls of other components that return an `esp_err_t` and leave the
variables alone. -/
inductive DriverCall
  | mdnsInit
  | mdnsHostnameSet (hostname : List UInt8)
  | mdnsInstanceNameSet (name : List UInt8)
  | mdnsServiceAdd (instanceName : List UInt8) (service protocol : String)
      (port : UInt16) (txt : List (String × String))
  | registerUri (uri : String) (method : HttpMethod)
  | httpdStop
  | netifInit
  | eventLoopCreateDefault
  | wifiInit
  | wifiEventHandlerRegister
  | ipEventHandlerRegister
  | setMode (mode : WifiMode)
  | setConfig (config : WifiConfig)
  | wifiStop
  deriving DecidableEq, Repr

inductive WifiTask
  | fallback
  | httpRestart
  deriving DecidableEq, Repr

inductive WifiEvent
  | staStart
  | staDisconnected
  | gotIp (address : UInt32)
  | other
  deriving DecidableEq, Repr

inductive NvsKey
  | staSsid
  | staPass
  deriving DecidableEq, Repr

inductive WifiCall
  /-- The reads of one condition or one expression. -/
  | look
  | assign (update : Update)
  | driver (request : DriverCall)
  | mdnsFree
  /-- `httpd_start`, which writes `s_http`. -/
  | httpdStart
  | wifiStart
  | wifiConnect
  /-- The two network interfaces, if they are created. -/
  | createNetifs
  /-- `esp_netif_get_ip_info` of the access point. -/
  | apIpInfo
  | createTask (task : WifiTask)
  | delay (milliseconds : Nat)
  /-- The event loop takes an event off its queue. -/
  | dispatch (event : WifiEvent)
  /-- `typx_wifi_service_job_locked`. -/
  | jobLocked
  | nvsOpen
  | nvsSetStr (key : NvsKey) (text : List UInt8)
  | nvsEraseKey (key : NvsKey)
  | nvsCommit
  /-- `typx_wifi_upload_prepare_start` under the mutex, and whether it returns
  OK. -/
  | prepareStart
  | markExecutionActive
  /-- `xTaskCreate` of `execution_task`, which writes `s_execution_task`. -/
  | createExecutionTask
  | sendAccepted
  /-- The notification on which `execution_task` goes on. -/
  | notifyExecutionTask
  /-- `vTaskDelete` of a task that waits for its notification. -/
  | deleteExecutionTask
  /-- `typx_wifi_upload_start_failed` under the mutex. -/
  | startFailed
  /-- `typx_ble_hid_run_schedule_countdown_observed`. -/
  | runSchedule
  | markExecutionTerminal
  /-- `typx_wifi_upload_complete` under the mutex. -/
  | complete
  deriving DecidableEq, Repr

@[reducible] def WifiCall.Answer : WifiCall → Type
  | .look => Link
  | .driver _ => EspErr
  | .httpdStart => EspErr
  | .wifiStart => EspErr
  | .wifiConnect => EspErr
  | .createNetifs => Bool × Bool
  | .apIpInfo => Option UInt32
  | .createTask _ => Bool
  | .jobLocked => Bool
  | .nvsOpen => EspErr
  | .nvsSetStr _ _ => EspErr
  | .nvsEraseKey _ => EspErr
  | .nvsCommit => EspErr
  | .prepareStart => Bool
  | .markExecutionActive => Bool
  | .createExecutionTask => Bool
  | .sendAccepted => Bool
  | .markExecutionTerminal => Bool
  | _ => Unit

@[reducible] def wifiCalls : Signature where
  Call := WifiCall
  Answer := WifiCall.Answer

abbrev Wifi (α : Type) := Program wifiCalls α

def Wifi.call (request : WifiCall) : Wifi (WifiCall.Answer request) :=
  Program.call (S := wifiCalls) request

def look : Wifi Link := Wifi.call .look

def assign (update : Update) : Wifi Unit := Wifi.call (.assign update)

def driver (request : DriverCall) : Wifi EspErr := Wifi.call (.driver request)

def next (first second : Wifi EspErr) : Wifi EspErr := do
  let error ← first
  if error = .ok then second else return error

/-! ## Discovery -/

def typxMdnsService : String := "_typx"

def typxMdnsProtocol : String := "_tcp"

def typxDiscoveryTxt : List (String × String) :=
  [("board", "esp32_cam"), ("protocol", "1.0"), ("schedule", "1")]

def typxDiscoveryShouldStart (httpAvailable stationMode stationHasIp : Bool) :
    Bool :=
  httpAvailable && (!stationMode || stationHasIp)

def stopMdns : Wifi Unit := do
  let link ← look
  if link.mdnsStarted then
    Wifi.call .mdnsFree
    assign (.mdnsStarted false)
  else
    return ()

/-- The calls of `start_mdns` from `mdns_init` on, each if the ones before gave
`ESP_OK`. -/
def announce : Wifi EspErr :=
  next (driver .mdnsInit) <|
  next (do driver (.mdnsHostnameSet (← look).mdnsHostname)) <|
  next (do driver (.mdnsInstanceNameSet (← look).mdnsHostname)) <| do
    let link ← look
    driver (.mdnsServiceAdd link.mdnsHostname typxMdnsService typxMdnsProtocol
      link.httpPort typxDiscoveryTxt)

def startMdns : Wifi Unit := do
  let link ← look
  if link.mdnsStarted || !link.wifiStarted ||
      !typxDiscoveryShouldStart link.http (link.wifiMode == .sta)
        (link.activeIp != 0) then
    return ()
  else if typxDiscoveryTxt.length > 3 then
    return ()
  else
    let error ← announce
    if error ≠ .ok then
      Wifi.call .mdnsFree
    else
      assign (.mdnsStarted true)

/-! ## The HTTP server -/

/-- What `start_http` and `typx_identity_http_register` register. -/
def uris : List (String × HttpMethod) :=
  [("/v1/info", .get), ("/v1/jobs", .post), ("/v1/jobs/chunks", .put),
    ("/v1/jobs/finalize", .post), ("/v1/jobs/start", .post),
    ("/v1/jobs/stop", .post), ("/v1/jobs/cancel", .post),
    ("/v1/hid/safety-release", .post), ("/v1/status", .get),
    ("/v1/result", .get), ("/v1/device-identity", .get),
    ("/v1/device-identity", .put), ("/v1/device-identity/reset", .post),
    ("/v1/device-identity/battery-reset", .post), ("/v1/ble/restart", .post)]

def registerUris : List (String × HttpMethod) → Wifi EspErr
  | [] => return .ok
  | (uri, method) :: rest =>
      next (driver (.registerUri uri method)) (registerUris rest)

def startHttp : Wifi EspErr := do
  let link ← look
  if link.http then
    return .ok
  else
    assign (.httpPort 80)
    next (Wifi.call .httpdStart) do
      let error ← registerUris uris
      if error ≠ .ok then
        let _ ← driver .httpdStop
        assign .noHttp
        return error
      else
        return .ok

def stopHttp : Wifi EspErr := do
  stopMdns
  let link ← look
  if !link.http then
    return .ok
  else
    assign .noHttp
    driver .httpdStop

def serveStation : Wifi Unit := do
  let link ← look
  if link.wifiMode == .sta && link.wifiStarted && link.activeIp != 0 then
    let startError ← startHttp
    if startError = .ok then startMdns else return ()
  else
    return ()

def httpRestartTask : Wifi Unit := do
  let _ ← stopHttp
  serveStation
  assign (.httpRestartTaskPending false)

def scheduleHttpRestart : Wifi Unit := do
  let link ← look
  if link.httpRestartTaskPending then
    return ()
  else
    assign (.httpRestartTaskPending true)
    let created ← Wifi.call (.createTask .httpRestart)
    if !created then
      assign (.httpRestartTaskPending false)
    else
      return ()

/-! ## Starting and stopping -/

/-- `ESP_ERR_INVALID_STATE` says that it has been done before. -/
def tolerate (error : EspErr) : EspErr :=
  if error = .invalidState then .ok else error

def initializeWifi : Wifi EspErr := do
  let link ← look
  if link.wifiInitialized then
    return .ok
  else
    next (do return tolerate (← driver .netifInit)) <|
    next (do return tolerate (← driver .eventLoopCreateDefault)) <| do
      let (apNetif, staNetif) ← Wifi.call .createNetifs
      if !apNetif || !staNetif then
        return .noMem
      else
        next (driver .wifiInit) <|
        next (driver .wifiEventHandlerRegister) <|
        next (driver .ipEventHandlerRegister) <| do
          assign (.wifiInitialized true)
          return .ok

def modeConfig (link : Link) : WifiMode → WifiConfig
  | .ap => .ap link.apSsid link.apPassword link.apSsid.length 1 2
  | _ => .sta link.station.ssid link.station.password

/-- The end of `start_mode` where one of its calls fails. -/
def startFailedWith (error : EspErr) : Wifi EspErr := do
  assign (.executionWifiPause false)
  assign (.wifiMode .stopped)
  return error

def showApIp : Wifi Unit := do
  match ← Wifi.call .apIpInfo with
  | some address => assign (.activeIp address)
  | none => return ()

/-- `start_mode` from `s_wifi_started = true` on. -/
def modeStarted (mode : WifiMode) : Wifi EspErr := do
  assign (.wifiStarted true)
  if mode = .ap then
    showApIp
    next startHttp do
      startMdns
      return .ok
  else
    startHttp

/-- `start_mode` once everything is stopped. -/
def startStopped (mode : WifiMode) : Wifi EspErr := do
  assign (.activeIp 0)
  let link ← look
  let error ← driver (.setMode mode)
  if error ≠ .ok then
    startFailedWith error
  else
    let error ← driver (.setConfig (modeConfig link mode))
    if error ≠ .ok then
      startFailedWith error
    else
      assign (.wifiMode mode)
      assign .resetAttempts
      assign (.executionWifiPause false)
      let error ← Wifi.call .wifiStart
      if error ≠ .ok then
        startFailedWith error
      else
        modeStarted mode

/-- `esp_wifi_stop` where Wi-Fi is started; `error` is what came before. -/
def stopForMode (error : EspErr) : Wifi EspErr := do
  let link ← look
  if link.wifiStarted then
    assign (.wifiMode .stopped)
    let stopError ← driver .wifiStop
    assign (.wifiStarted false)
    return if error = .ok then stopError else error
  else
    return error

def startMode (mode : WifiMode) : Wifi EspErr := do
  let link ← look
  if link.executionTask && !link.executionWifiPause then
    return .invalidState
  else
    let link ← look
    if mode = .sta ∧ link.station.configured = false then
      return .invalidState
    else
      next initializeWifi do
        assign (.executionWifiPause true)
        let error ← stopForMode (← stopHttp)
        if error ≠ .ok then
          assign (.executionWifiPause false)
          return error
        else
          startStopped mode

def typxWifiServiceStartStation : Wifi EspErr := startMode .sta

def typxWifiServiceStartAp : Wifi EspErr := do
  assign (.postJobStationReconnect false)
  startMode .ap

def typxWifiServiceStart : Wifi EspErr := do
  let link ← look
  if link.station.configured then typxWifiServiceStartStation
  else typxWifiServiceStartAp

def typxWifiServiceStop : Wifi EspErr := do
  if ← Wifi.call .jobLocked then
    return .invalidState
  else
    assign (.postJobStationReconnect false)
    assign (.wifiMode .stopped)
    assign (.executionWifiPause true)
    let result ← stopHttp
    let link ← look
    if link.wifiStarted then
      let wifiError ← driver .wifiStop
      assign (.wifiStarted false)
      assign (.activeIp 0)
      assign (.executionWifiPause false)
      return if result = .ok then wifiError else result
    else
      assign (.activeIp 0)
      assign (.executionWifiPause false)
      return result

/-! ## The saved hotspot -/

/-- `typx_wifi_station_config_set` of `s_station`. -/
def setStation (ssid password : List UInt8) : Wifi Unit :=
  match typxWifiStationConfigSet ssid password with
  | some config => assign (.station config)
  | none => return ()

def typxWifiServiceConfigureStation (ssid password : List UInt8) :
    Wifi EspErr := do
  if ← Wifi.call .jobLocked then
    return .invalidState
  else if !typxWifiStationCredentialsValid (some ssid) (some password) then
    return .invalidArg
  else
    next (Wifi.call .nvsOpen) <|
    next (Wifi.call (.nvsSetStr .staSsid (string ssid))) <|
    next (Wifi.call (.nvsSetStr .staPass (string password))) <|
    next (Wifi.call .nvsCommit) <| do
      setStation ssid password
      return .ok

/-- A key that is not there need not be erased. -/
def forgetKey (key : NvsKey) : Wifi EspErr := do
  let error ← Wifi.call (.nvsEraseKey key)
  return if error = .nvsNotFound then .ok else error

def typxWifiServiceForgetStation : Wifi EspErr := do
  if ← Wifi.call .jobLocked then
    return .invalidState
  else
    assign (.postJobStationReconnect false)
    next (Wifi.call .nvsOpen) do
      let ssidError ← forgetKey .staSsid
      let passwordError ← forgetKey .staPass
      next (return ssidError) <|
      next (return passwordError) <|
      next (Wifi.call .nvsCommit) <| do
        let link ← look
        assign (.station typxWifiStationConfigClear)
        if link.wifiMode = .sta then typxWifiServiceStartAp else return .ok

/-! ## Reconnecting -/

/-- `STA_CONNECT_RETRIES`. -/
def staConnectRetries : Nat := 5

/-- `ACTIVE_JOB_STA_RETRY_DELAY_MS`. -/
def activeJobStaRetryDelayMs : Nat := 2000

/-- `POST_JOB_STA_RETRY_DELAY_MS`. -/
def postJobStaRetryDelayMs : Nat := 10000

inductive RetryAction
  | retryNow
  | retryDelayed
  | recoveryAp
  deriving DecidableEq, Repr

def typxWifiStationRetryAction (postJobReconnect : Bool)
    (attempts retryLimit : Nat) : RetryAction :=
  if attempts < retryLimit then .retryNow
  else if postJobReconnect then .retryDelayed
  else .recoveryAp

def scheduleStationFallback : Wifi Unit := do
  let link ← look
  if link.fallbackTaskPending then
    return ()
  else
    assign (.fallbackTaskPending true)
    let created ← Wifi.call (.createTask .fallback)
    if !created then
      assign (.fallbackTaskPending false)
    else
      return ()

def retryStation : Wifi EspErr := do
  let link ← look
  if link.wifiMode == .sta && link.wifiStarted then
    Wifi.call .wifiConnect
  else
    typxWifiServiceStartStation

def retryDuringJob : Wifi Bool := do
  let link ← look
  if link.executionTask && link.wifiMode == .sta && link.wifiStarted &&
      link.activeIp == 0 then
    let _ ← Wifi.call .wifiConnect
    return true
  else
    return false

/-- The action of `station_fallback_task`; whether it is to be repeated. -/
def fallbackAction : Wifi Bool := do
  let link ← look
  if link.executionTask && link.station.configured then
    Wifi.call (.delay activeJobStaRetryDelayMs)
    retryDuringJob
  else
    let link ← look
    if link.postJobStationReconnect && link.station.configured then
      Wifi.call (.delay postJobStaRetryDelayMs)
      let link ← look
      if link.postJobStationReconnect && link.station.configured &&
          !link.executionWifiPause && !link.executionTask then
        assign .resetAttempts
        let error ← retryStation
        return error != .ok
      else
        return false
    else
      let link ← look
      if link.wifiMode == .sta && !link.executionWifiPause then
        let _ ← startMode .ap
        return false
      else
        return false

/-- The end of `station_fallback_task`. -/
def fallbackEnd (retryNeeded : Bool) : Wifi Unit := do
  assign (.fallbackTaskPending false)
  if retryNeeded then
    let link ← look
    if link.executionTask || link.postJobStationReconnect then
      scheduleStationFallback
    else
      return ()
  else
    return ()

def stationFallbackTask : Wifi Unit := do
  fallbackEnd (← fallbackAction)

def wifiEventHandler : WifiEvent → Wifi Unit
  | .staStart => do
      let link ← look
      if link.wifiMode == .sta && !link.executionWifiPause then
        assign .resetAttempts
        let _ ← Wifi.call .wifiConnect
        return ()
      else
        return ()
  | .staDisconnected => do
      let link ← look
      if link.wifiMode == .sta && !link.executionWifiPause then
        assign (.activeIp 0)
        let link ← look
        match typxWifiStationRetryAction link.postJobStationReconnect
            link.staConnectAttempts staConnectRetries with
        | .retryNow =>
            assign .countAttempt
            let _ ← Wifi.call .wifiConnect
            return ()
        | _ => scheduleStationFallback
      else
        return ()
  | .gotIp address => do
      let link ← look
      if link.wifiMode == .sta then
        assign (.activeIp address)
        assign .resetAttempts
        assign (.postJobStationReconnect false)
        scheduleHttpRestart
      else
        return ()
  | .other => return ()

def handleEvent (event : WifiEvent) : Wifi Unit := do
  Wifi.call (.dispatch event)
  wifiEventHandler event

/-! ## The job -/

/-- `start_handler`, as far as the link sees it. -/
def startHandler : Wifi Unit := do
  if !(← Wifi.call .prepareStart) then
    return ()
  else if !(← Wifi.call .markExecutionActive) then
    Wifi.call .startFailed
  else if !(← Wifi.call .createExecutionTask) then
    let _ ← Wifi.call .markExecutionTerminal
    Wifi.call .startFailed
  else if ← Wifi.call .sendAccepted then
    Wifi.call .notifyExecutionTask
  else
    Wifi.call .deleteExecutionTask
    assign .noExecutionTask
    let _ ← Wifi.call .markExecutionTerminal
    Wifi.call .startFailed

/-- `execution_task` after its notification. -/
def executionTask : Wifi Unit := do
  stopMdns
  Wifi.call .runSchedule
  let _ ← Wifi.call .markExecutionTerminal
  Wifi.call .complete
  assign .noExecutionTask
  startMdns

end Typxen.WifiLink
