import Typxen.Foundation.Threads
import Typxen.WifiLink.WifiLink

/-! # The board around the link

What the calls of the link may answer and what they change, and who makes them:
the console, the event loop, the HTTP server and the tasks. The driver, the
flash and the upload are seen as far as the link depends on them. -/

namespace Typxen.WifiLink

open Interaction Threads Transition

structure Board where
  link : Link
  /-- The driver is to report how a station's start or connection went. -/
  awaiting : Bool
  /-- The upload is in COUNTDOWN, EXECUTING or STOPPING. -/
  jobActive : Bool
  /-- The saved hotspot in the namespace `typx_wifi`. -/
  nvs : NvsKey → Option (List UInt8)

def Board.withLink (board : Board) (link : Link) : Board :=
  { board with link := link }

def Board.assign (board : Board) (update : Update) : Board :=
  board.withLink (update.apply board.link)

def Board.await (board : Board) (accepted : Bool) : Board :=
  { board with awaiting := board.awaiting || accepted }

def Board.withJob (board : Board) (active : Bool) : Board :=
  { board with jobActive := active }

def Board.store (board : Board) (key : NvsKey) (text : Option (List UInt8)) :
    Board :=
  { board with nvs := Function.update board.nvs key text }

def wifiEnvironment : Environment wifiCalls Board
  | .look, before, answer, after => answer = before.link ∧ after = before
  | .assign update, before, _, after => after = before.assign update
  | .httpdStart, before, error, after =>
      after = if error = .ok then
        before.withLink { before.link with http := true } else before
  | .wifiStart, before, error, after =>
      after = before.await (error == .ok && before.link.wifiMode == .sta)
  | .wifiConnect, before, error, after => after = before.await (error == .ok)
  | .dispatch event, before, _, after =>
      after = { before with awaiting := before.awaiting && event == .other }
  | .jobLocked, before, locked, after =>
      (before.jobActive = true → locked = true) ∧ after = before
  | .nvsSetStr key text, before, error, after =>
      after = if error = .ok then before.store key (some text) else before
  | .nvsEraseKey key, before, error, after =>
      (error = .nvsNotFound → before.nvs key = none) ∧
        after = if error = .ok then before.store key none else before
  | .prepareStart, before, accepted, after =>
      (accepted = true → before.jobActive = false) ∧
        after = before.withJob (accepted || before.jobActive)
  | .createExecutionTask, before, created, after =>
      after = before.withLink { before.link with
        executionTask := created || before.link.executionTask }
  -- A job that is being stopped already is not taken back.
  | .startFailed, before, _, after =>
      ∃ taken, after = before.withJob (before.jobActive && !taken)
  | .complete, before, _, after => after = before.withJob false
  | _, before, _, after => after = before

/-! ## Who runs -/

inductive Role
  | console
  | eventLoop
  | httpServer
  | fallback
  | httpRestart
  | execution
  deriving DecidableEq, Repr

/-- The commands of the console, and `start` of `app_main`. -/
inductive Command
  | start
  | startStation
  | startAp
  | stop
  | configureStation (ssid password : List UInt8)
  | forgetStation
  deriving DecidableEq, Repr

def Command.result : Command → Wifi EspErr
  | .start => typxWifiServiceStart
  | .startStation => typxWifiServiceStartStation
  | .startAp => typxWifiServiceStartAp
  | .stop => typxWifiServiceStop
  | .configureStation ssid password =>
      typxWifiServiceConfigureStation ssid password
  | .forgetStation => typxWifiServiceForgetStation

def Command.perform (command : Command) : Wifi Unit := do
  let _ ← command.result
  return ()

/-- An address that a station got is not zero. -/
inductive Begins : Role → Wifi Unit → Prop
  | console (command : Command) : Begins .console command.perform
  | eventLoop {event : WifiEvent} : event ≠ .gotIp 0 →
      Begins .eventLoop (handleEvent event)
  | httpServer : Begins .httpServer startHandler

def created : Interaction.Event wifiCalls → Option (Role × Wifi Unit)
  | ⟨.createTask .fallback, true⟩ => some (.fallback, stationFallbackTask)
  | ⟨.createTask .httpRestart, true⟩ => some (.httpRestart, httpRestartTask)
  | ⟨.notifyExecutionTask, _⟩ => some (.execution, executionTask)
  | _ => none

/-- The console, the event loop and the HTTP server do one thing at a time. -/
def wifiDesign : Design wifiCalls Role Board where
  environment := wifiEnvironment
  creates := created
  begins processes role program :=
    (∀ slot process, processes slot = some process → process.role ≠ role) ∧
      Begins role program

/-- What `load_credentials` leaves in the variables. -/
structure Credentials where
  station : StationConfig
  apSsid : List UInt8
  apPassword : List UInt8
  mdnsHostname : List UInt8

/-- The variables when `typx_wifi_service_init` comes to start the service. -/
def bootLink (credentials : Credentials) : Link where
  wifiMode := .stopped
  wifiInitialized := false
  wifiStarted := false
  executionWifiPause := false
  fallbackTaskPending := false
  httpRestartTaskPending := false
  mdnsStarted := false
  postJobStationReconnect := false
  staConnectAttempts := 0
  station := credentials.station
  apSsid := credentials.apSsid
  apPassword := credentials.apPassword
  activeIp := 0
  mdnsHostname := credentials.mdnsHostname
  http := false
  httpPort := 80
  executionTask := false

def boot (credentials : Credentials) (nvs : NvsKey → Option (List UInt8)) :
    Board :=
  ⟨bootLink credentials, false, false, nvs⟩

theorem created_cases {event : Interaction.Event wifiCalls} {role : Role}
    {program : Wifi Unit} (creates : created event = some (role, program)) :
    program = stationFallbackTask ∨ program = httpRestartTask ∨
      program = executionTask := by
  unfold created at creates
  split at creates
  · cases creates
    exact .inl rfl
  · cases creates
    exact .inr (.inl rfl)
  · cases creates
    exact .inr (.inr rfl)
  · cases creates

/-! ## When nothing fails -/

def obligingAnswer : (request : WifiCall) → Board →
    WifiCall.Answer request × Board
  | .look, board => (board.link, board)
  | .assign update, board => ((), board.assign update)
  | .driver _, board => (.ok, board)
  | .mdnsFree, board => ((), board)
  | .httpdStart, board =>
      (.ok, board.withLink { board.link with http := true })
  | .wifiStart, board => (.ok, board.await (board.link.wifiMode == .sta))
  | .wifiConnect, board => (.ok, board.await true)
  | .createNetifs, board => ((true, true), board)
  | .apIpInfo, board => (some 0x0104a8c0, board)
  | .createTask _, board => (true, board)
  | .delay _, board => ((), board)
  | .dispatch event, board =>
      ((), { board with awaiting := board.awaiting && event == .other })
  | .jobLocked, board => (board.jobActive, board)
  | .nvsOpen, board => (.ok, board)
  | .nvsSetStr key text, board => (.ok, board.store key (some text))
  | .nvsEraseKey key, board => (.ok, board.store key none)
  | .nvsCommit, board => (.ok, board)
  | .prepareStart, board => (!board.jobActive, board.withJob true)
  | .markExecutionActive, board => (true, board)
  | .createExecutionTask, board =>
      (true, board.withLink { board.link with executionTask := true })
  | .sendAccepted, board => (true, board)
  | .notifyExecutionTask, board => ((), board)
  | .deleteExecutionTask, board => ((), board)
  | .startFailed, board => ((), board.withJob false)
  | .runSchedule, board => ((), board)
  | .markExecutionTerminal, board => (true, board)
  | .complete, board => ((), board.withJob false)

theorem obligingAnswer_answers (request : WifiCall) (before : Board) :
    wifiEnvironment request before (obligingAnswer request before).1
      (obligingAnswer request before).2 := by
  cases request with
  | look => exact ⟨rfl, rfl⟩
  | jobLocked => exact ⟨id, rfl⟩
  | nvsEraseKey key =>
      constructor
      · intro failed
        cases failed
      · rfl
  | prepareStart =>
      have taken : (!before.jobActive || before.jobActive) = true := by simp
      constructor
      · intro accepted
        have free : (!before.jobActive) = true := accepted
        simpa using free
      · change before.withJob true =
          before.withJob (!before.jobActive || before.jobActive)
        rw [taken]
  | startFailed =>
      have active : before.withJob false =
          before.withJob (before.jobActive && false) := by
        rw [Bool.and_false]
      exact ⟨true, active⟩
  | _ => rfl

def savedHotspot : Board :=
  boot ⟨⟨[0x68, 0x6f, 0x6d, 0x65],
    [0x70, 0x61, 0x73, 0x73, 0x77, 0x6f, 0x72, 0x64], true⟩, [], [], []⟩
    fun _ => none

theorem obliging_alone (board : Board) {role : Role} {program : Wifi Unit}
    (begins : Begins role program)
    (plain : (program.run obligingAnswer board).1.all
      (fun event => (created event).isNone) = true) :
    Run (Alone wifiDesign) (quiet board)
      (.begin 0 role :: ((program.run obligingAnswer board).1.map
        (.call 0 role) ++ [.finish 0 role]))
      (quiet (program.run obligingAnswer board).2.2) := by
  have execution : Program.Exec wifiEnvironment program board
      (program.run obligingAnswer board).1
      (program.run obligingAnswer board).2.1
      (program.run obligingAnswer board).2.2 := by
    apply (Program.exec_run obligingAnswer program board).weaken
    intro request before answer after same
    have answered := obligingAnswer_answers request before
    rw [show obligingAnswer request before = (answer, after) from same]
      at answered
    exact answered
  refine Exec.run_alone (by exact execution) 0 role ?_ ?_
  · constructor
    · intro slot process there
      cases there
    · exact begins
  · intro event member
    exact Option.isNone_iff_eq_none.mp (List.all_eq_true.mp plain event member)

end Typxen.WifiLink
