import Typxen.WifiLink.Board

/-! # No flag stays set

`s_execution_wifi_pause`, `s_fallback_task_pending` and
`s_http_restart_task_pending` each make others hold back. Whatever fails and in
whatever order the parties make their calls, each is set only as long as
someone is left who clears it. -/

namespace Typxen.WifiLink

open Interaction Threads Transition

inductive Guard
  | executionWifiPause
  | pending (task : WifiTask)
  deriving DecidableEq, Repr

def Guard.update : Guard → Bool → Update
  | .executionWifiPause, value => .executionWifiPause value
  | .pending .fallback, value => .fallbackTaskPending value
  | .pending .httpRestart, value => .httpRestartTaskPending value

def Guard.flag : Guard → Board → Bool
  | .executionWifiPause, board => board.link.executionWifiPause
  | .pending .fallback, board => board.link.fallbackTaskPending
  | .pending .httpRestart, board => board.link.httpRestartTaskPending

def Guard.duty (guard : Guard) : Duty wifiCalls where
  raises
    | ⟨.assign update, _⟩ => update == guard.update true
    | _ => false
  lowers
    | ⟨.assign update, _⟩ => update == guard.update false
    | _ => false
  hands
    | ⟨.createTask task, answer⟩ => guard == .pending task && answer
    | _ => false

def ordinary : WifiCall → Bool
  | .assign (.executionWifiPause true) => false
  | .assign (.fallbackTaskPending true) => false
  | .assign (.httpRestartTaskPending true) => false
  | .assign .countAttempt => false
  | .assign (.station _) => false
  | .nvsSetStr _ _ => false
  | .nvsEraseKey _ => false
  | _ => true

theorem raises_not_ordinary {guard : Guard} {event : Interaction.Event wifiCalls}
    (raises : guard.duty.raises event = true) : ordinary event.call = false := by
  rcases event with ⟨request, answer⟩
  cases request with
  | assign update =>
      rw [eq_of_beq (show (update == guard.update true) = true from raises)]
      cases guard with
      | executionWifiPause => rfl
      | pending task => cases task <;> rfl
  | _ => cases raises

section Programs

variable {guard : Guard} {α β : Type}

abbrev Calm (program : Wifi α) : Prop :=
  Program.OnlyCalls (fun request => ordinary request = true) program

theorem Calm.tidy {program : Wifi α} (calm : Calm program) :
    Tidy guard.duty program := by
  induction program with
  | done value => exact trivial
  | ask request next induction =>
      intro answer
      constructor
      · intro raises
        have extraordinary := raises_not_ordinary raises
        rw [calm.1] at extraordinary
        cases extraordinary
      · exact induction answer (calm.2 answer)

theorem calm_call {request : WifiCall} (usual : ordinary request = true) :
    Calm (Wifi.call request) :=
  ⟨usual, fun _ => trivial⟩

theorem next_calm {first second : Wifi EspErr} (one : Calm first)
    (two : Calm second) : Calm (next first second) := by
  apply one.bind
  intro error
  split
  · exact two
  · exact trivial

theorem next_tidy {first second : Wifi EspErr} (one : Tidy guard.duty first)
    (two : Tidy guard.duty second) : Tidy guard.duty (next first second) := by
  apply one.bind
  intro error
  split
  · exact two
  · exact trivial

theorem look_calm : Calm look := calm_call rfl

theorem driver_calm (request : DriverCall) : Calm (driver request) :=
  calm_call rfl

theorem stopMdns_calm : Calm stopMdns := by
  apply look_calm.bind
  intro link
  split
  · apply (calm_call rfl).bind
    intro freed
    exact calm_call rfl
  · exact trivial

theorem announce_calm : Calm announce := by
  apply next_calm (driver_calm _)
  apply next_calm
  · exact look_calm.bind fun link => driver_calm _
  apply next_calm
  · exact look_calm.bind fun link => driver_calm _
  · exact look_calm.bind fun link => driver_calm _

theorem startMdns_calm : Calm startMdns := by
  apply look_calm.bind
  intro link
  split
  · exact trivial
  split
  · exact trivial
  apply announce_calm.bind
  intro error
  split
  · exact calm_call rfl
  · exact calm_call rfl

theorem registerUris_calm (remaining : List (String × HttpMethod)) :
    Calm (registerUris remaining) := by
  induction remaining with
  | nil => exact trivial
  | cons uri remaining induction => exact next_calm (driver_calm _) induction

theorem startHttp_calm : Calm startHttp := by
  apply look_calm.bind
  intro link
  split
  · exact trivial
  apply (calm_call rfl).bind
  intro set
  apply next_calm (calm_call rfl)
  apply (registerUris_calm uris).bind
  intro error
  split
  · apply (driver_calm _).bind
    intro stopped
    apply (calm_call rfl).bind
    intro cleared
    exact trivial
  · exact trivial

theorem stopHttp_calm : Calm stopHttp := by
  apply stopMdns_calm.bind
  intro stopped
  apply look_calm.bind
  intro link
  split
  · exact trivial
  · apply (calm_call rfl).bind
    intro cleared
    exact driver_calm _

theorem serveStation_calm : Calm serveStation := by
  apply look_calm.bind
  intro link
  split
  · apply startHttp_calm.bind
    intro error
    split
    · exact startMdns_calm
    · exact trivial
  · exact trivial

theorem httpRestartTask_calm : Calm httpRestartTask := by
  apply stopHttp_calm.bind
  intro stopped
  apply serveStation_calm.bind
  intro served
  exact calm_call rfl

theorem initializeWifi_calm : Calm initializeWifi := by
  apply look_calm.bind
  intro link
  split
  · exact trivial
  have tolerated (request : DriverCall) :
      Calm (do return tolerate (← driver request)) := by
    apply (driver_calm request).bind
    intro error
    exact trivial
  apply next_calm (tolerated _)
  apply next_calm (tolerated _)
  apply (calm_call rfl).bind
  intro netifs
  rcases netifs with ⟨apNetif, staNetif⟩
  change Calm (if (!apNetif || !staNetif) = true then _ else _)
  split
  · exact trivial
  apply next_calm (driver_calm _)
  apply next_calm (driver_calm _)
  apply next_calm (driver_calm _)
  apply (calm_call rfl).bind
  intro set
  exact trivial

theorem startFailedWith_calm (error : EspErr) : Calm (startFailedWith error) := by
  apply (calm_call rfl).bind
  intro cleared
  apply (calm_call rfl).bind
  intro stopped
  exact trivial

theorem showApIp_calm : Calm showApIp := by
  apply (calm_call rfl).bind
  intro address
  cases address with
  | some address => exact calm_call rfl
  | none => exact trivial

theorem modeStarted_calm (mode : WifiMode) : Calm (modeStarted mode) := by
  apply (calm_call rfl).bind
  intro started
  split
  · apply showApIp_calm.bind
    intro shown
    exact next_calm startHttp_calm (startMdns_calm.bind fun _ => trivial)
  · exact startHttp_calm

theorem startStopped_calm (mode : WifiMode) : Calm (startStopped mode) := by
  apply (calm_call rfl).bind
  intro cleared
  apply look_calm.bind
  intro link
  apply (driver_calm _).bind
  intro error
  split
  · exact startFailedWith_calm error
  apply (driver_calm _).bind
  intro error
  split
  · exact startFailedWith_calm error
  apply (calm_call rfl).bind
  intro set
  apply (calm_call rfl).bind
  intro reset
  apply (calm_call rfl).bind
  intro resumed
  apply (calm_call rfl).bind
  intro error
  split
  · exact startFailedWith_calm error
  · exact modeStarted_calm mode

theorem stopForMode_calm (error : EspErr) : Calm (stopForMode error) := by
  apply look_calm.bind
  intro link
  split
  · apply (calm_call rfl).bind
    intro set
    apply (driver_calm _).bind
    intro stopError
    apply (calm_call rfl).bind
    intro stopped
    exact trivial
  · exact trivial

/-! ## The flags -/

theorem lowers_owes (next : Unit → Wifi α) :
    Owes guard.duty (assign (guard.update false) >>= next) := by
  intro answer
  exact .inl (beq_self_eq_true _)

theorem startFailedWith_owes (error : EspErr) :
    Owes (Guard.duty .executionWifiPause) (startFailedWith error) :=
  lowers_owes _

theorem startStopped_owes (mode : WifiMode) :
    Owes (Guard.duty .executionWifiPause) (startStopped mode) := by
  apply owes_bind
  intro cleared
  apply owes_bind
  intro link
  apply owes_bind
  intro error
  split
  · exact startFailedWith_owes error
  apply owes_bind
  intro error
  split
  · exact startFailedWith_owes error
  apply owes_bind
  intro set
  apply owes_bind
  intro reset
  exact lowers_owes _

theorem raise_tidy {update : Update} {program : Wifi α}
    (owes : update = guard.update true → Owes guard.duty program)
    (tidy : Tidy guard.duty program) :
    Tidy guard.duty (assign update >>= fun _ => program) := by
  intro answer
  exact ⟨fun raises => owes (eq_of_beq raises), tidy⟩

theorem pause_tidy {program : Wifi α}
    (owes : Owes (Guard.duty .executionWifiPause) program)
    (tidy : Tidy guard.duty program) :
    Tidy guard.duty
      (assign (.executionWifiPause true) >>= fun _ => program) := by
  refine raise_tidy ?_ tidy
  intro same
  cases guard with
  | executionWifiPause => exact owes
  | pending task => cases task <;> cases same

theorem startMode_tidy (mode : WifiMode) :
    Tidy guard.duty (startMode mode) := by
  apply (Calm.tidy look_calm).bind
  intro link
  split
  · exact trivial
  apply (Calm.tidy look_calm).bind
  intro link
  split
  · exact trivial
  apply next_tidy initializeWifi_calm.tidy
  apply pause_tidy
  · apply owes_bind
    intro stopped
    apply owes_bind
    intro error
    split
    · exact lowers_owes _
    · exact startStopped_owes mode
  · apply stopHttp_calm.tidy.bind
    intro stopped
    apply (stopForMode_calm _).tidy.bind
    intro error
    split
    · exact Calm.tidy ((calm_call rfl).bind fun _ => trivial)
    · exact (startStopped_calm mode).tidy

theorem typxWifiServiceStartAp_tidy :
    Tidy guard.duty typxWifiServiceStartAp := by
  apply (Calm.tidy (calm_call rfl)).bind
  intro set
  exact startMode_tidy .ap

theorem typxWifiServiceStart_tidy : Tidy guard.duty typxWifiServiceStart := by
  apply (Calm.tidy look_calm).bind
  intro link
  split
  · exact startMode_tidy .sta
  · exact typxWifiServiceStartAp_tidy

theorem typxWifiServiceStop_tidy : Tidy guard.duty typxWifiServiceStop := by
  apply (Calm.tidy (calm_call rfl)).bind
  intro locked
  split
  · exact trivial
  apply (Calm.tidy (calm_call rfl)).bind
  intro set
  apply (Calm.tidy (calm_call rfl)).bind
  intro stopped
  apply pause_tidy
  · apply owes_bind
    intro result
    apply owes_bind
    intro link
    split
    · apply owes_bind
      intro wifiError
      apply owes_bind
      intro stopped
      apply owes_bind
      intro cleared
      exact lowers_owes _
    · apply owes_bind
      intro cleared
      exact lowers_owes _
  · apply Calm.tidy
    apply stopHttp_calm.bind
    intro result
    apply look_calm.bind
    intro link
    split
    · apply (driver_calm _).bind
      intro wifiError
      apply (calm_call rfl).bind
      intro stopped
      apply (calm_call rfl).bind
      intro cleared
      apply (calm_call rfl).bind
      intro resumed
      exact trivial
    · apply (calm_call rfl).bind
      intro cleared
      apply (calm_call rfl).bind
      intro resumed
      exact trivial

theorem assignStation_tidy (config : StationConfig) :
    Tidy guard.duty (assign (.station config)) := by
  apply tidy_call
  intro answer
  cases guard with
  | executionWifiPause => rfl
  | pending task => cases task <;> rfl

theorem setStation_tidy (ssid password : List UInt8) :
    Tidy guard.duty (setStation ssid password) := by
  unfold setStation
  split
  · exact assignStation_tidy _
  · exact trivial

theorem typxWifiServiceConfigureStation_tidy (ssid password : List UInt8) :
    Tidy guard.duty (typxWifiServiceConfigureStation ssid password) := by
  apply (Calm.tidy (calm_call rfl)).bind
  intro locked
  split
  · exact trivial
  split
  · exact trivial
  apply next_tidy (Calm.tidy (calm_call rfl))
  apply next_tidy (tidy_call fun answer => rfl)
  apply next_tidy (tidy_call fun answer => rfl)
  apply next_tidy (Calm.tidy (calm_call rfl))
  exact (setStation_tidy ssid password).bind fun set => trivial

theorem forgetKey_tidy (key : NvsKey) : Tidy guard.duty (forgetKey key) := by
  apply Tidy.bind
  · exact tidy_call fun answer => rfl
  · exact fun error => trivial

theorem typxWifiServiceForgetStation_tidy :
    Tidy guard.duty typxWifiServiceForgetStation := by
  apply (Calm.tidy (calm_call rfl)).bind
  intro locked
  split
  · exact trivial
  apply (Calm.tidy (calm_call rfl)).bind
  intro set
  apply next_tidy (Calm.tidy (calm_call rfl))
  apply (forgetKey_tidy _).bind
  intro ssidError
  apply (forgetKey_tidy _).bind
  intro passwordError
  have given (error : EspErr) :
      Tidy guard.duty (return error : Wifi EspErr) := trivial
  apply next_tidy (given ssidError)
  apply next_tidy (given passwordError)
  apply next_tidy (Calm.tidy (calm_call rfl))
  apply (Calm.tidy look_calm).bind
  intro link
  apply (assignStation_tidy _).bind
  intro cleared
  split
  · exact typxWifiServiceStartAp_tidy
  · exact trivial

theorem perform_tidy (command : Command) :
    Tidy guard.duty command.perform := by
  have result : Tidy guard.duty command.result := by
    cases command with
    | start => exact typxWifiServiceStart_tidy
    | startStation => exact startMode_tidy .sta
    | startAp => exact typxWifiServiceStartAp_tidy
    | stop => exact typxWifiServiceStop_tidy
    | configureStation ssid password =>
        exact typxWifiServiceConfigureStation_tidy ssid password
    | forgetStation => exact typxWifiServiceForgetStation_tidy
  exact result.bind fun _ => trivial

/-- A task that is created clears its flag; where it is not, its creator does. -/
theorem schedule_tidy (task : WifiTask) :
    Tidy guard.duty (do
      assign ((Guard.pending task).update true)
      let created ← Wifi.call (.createTask task)
      if !created then assign ((Guard.pending task).update false)
      else return ()) := by
  apply raise_tidy
  · intro same
    have mine : guard = .pending task := by
      cases guard with
      | executionWifiPause => cases task <;> cases same
      | pending other => cases task <;> cases other <;> first | rfl | cases same
    rw [mine]
    intro created
    cases created with
    | true => exact .inr (.inl (by simp [Guard.duty]))
    | false => exact .inr (.inr fun _ => .inl (beq_self_eq_true _))
  · apply Calm.tidy
    apply (calm_call rfl).bind
    intro created
    split
    · apply calm_call
      cases task <;> rfl
    · exact trivial

theorem scheduleStationFallback_tidy :
    Tidy guard.duty scheduleStationFallback := by
  apply (Calm.tidy look_calm).bind
  intro link
  split
  · exact trivial
  · exact schedule_tidy .fallback

theorem scheduleHttpRestart_tidy : Tidy guard.duty scheduleHttpRestart := by
  apply (Calm.tidy look_calm).bind
  intro link
  split
  · exact trivial
  · exact schedule_tidy .httpRestart

theorem retryStation_tidy : Tidy guard.duty retryStation := by
  apply (Calm.tidy look_calm).bind
  intro link
  split
  · exact Calm.tidy (calm_call rfl)
  · exact startMode_tidy .sta

theorem fallbackAction_tidy : Tidy guard.duty fallbackAction := by
  apply (Calm.tidy look_calm).bind
  intro link
  split
  · apply (Calm.tidy (calm_call rfl)).bind
    intro waited
    apply (Calm.tidy look_calm).bind
    intro link
    split
    · exact Calm.tidy ((calm_call rfl).bind fun _ => trivial)
    · exact trivial
  apply (Calm.tidy look_calm).bind
  intro link
  split
  · apply (Calm.tidy (calm_call rfl)).bind
    intro waited
    apply (Calm.tidy look_calm).bind
    intro link
    split
    · apply (Calm.tidy (calm_call rfl)).bind
      intro reset
      exact retryStation_tidy.bind fun _ => trivial
    · exact trivial
  apply (Calm.tidy look_calm).bind
  intro link
  split
  · exact (startMode_tidy .ap).bind fun _ => trivial
  · exact trivial

theorem stationFallbackTask_tidy : Tidy guard.duty stationFallbackTask := by
  apply fallbackAction_tidy.bind
  intro retryNeeded
  apply (Calm.tidy (calm_call rfl)).bind
  intro cleared
  split
  · apply (Calm.tidy look_calm).bind
    intro link
    split
    · exact scheduleStationFallback_tidy
    · exact trivial
  · exact trivial

theorem stationFallbackTask_owes :
    Owes (Guard.pending .fallback).duty stationFallbackTask := by
  apply owes_bind
  intro retryNeeded
  exact lowers_owes _

theorem httpRestartTask_owes :
    Owes (Guard.pending .httpRestart).duty httpRestartTask := by
  apply owes_bind
  intro stopped
  apply owes_bind
  intro served answer
  exact .inl (beq_self_eq_true _)

theorem wifiEventHandler_tidy (event : WifiEvent) :
    Tidy guard.duty (wifiEventHandler event) := by
  cases event with
  | staStart =>
      apply (Calm.tidy look_calm).bind
      intro link
      split
      · apply Calm.tidy
        apply (calm_call rfl).bind
        intro reset
        exact (calm_call rfl).bind fun _ => trivial
      · exact trivial
  | staDisconnected =>
      apply (Calm.tidy look_calm).bind
      intro link
      split
      · apply (Calm.tidy (calm_call rfl)).bind
        intro cleared
        apply (Calm.tidy look_calm).bind
        intro link
        split
        · apply raise_tidy
          · intro same
            cases guard with
            | executionWifiPause => cases same
            | pending task => cases task <;> cases same
          · exact Calm.tidy ((calm_call rfl).bind fun _ => trivial)
        · exact scheduleStationFallback_tidy
      · exact trivial
  | gotIp address =>
      apply (Calm.tidy look_calm).bind
      intro link
      split
      · apply (Calm.tidy (calm_call rfl)).bind
        intro set
        apply (Calm.tidy (calm_call rfl)).bind
        intro reset
        apply (Calm.tidy (calm_call rfl)).bind
        intro cleared
        exact scheduleHttpRestart_tidy
      · exact trivial
  | other => exact trivial

theorem startHandler_calm : Calm startHandler := by
  apply (calm_call rfl).bind
  intro accepted
  split
  · exact trivial
  apply (calm_call rfl).bind
  intro marked
  split
  · exact calm_call rfl
  apply (calm_call rfl).bind
  intro created
  split
  · exact (calm_call rfl).bind fun _ => calm_call rfl
  apply (calm_call rfl).bind
  intro sent
  split
  · exact calm_call rfl
  apply (calm_call rfl).bind
  intro deleted
  apply (calm_call rfl).bind
  intro cleared
  exact (calm_call rfl).bind fun _ => calm_call rfl

theorem executionTask_calm : Calm executionTask := by
  apply stopMdns_calm.bind
  intro stopped
  apply (calm_call rfl).bind
  intro ran
  apply (calm_call rfl).bind
  intro marked
  apply (calm_call rfl).bind
  intro completed
  apply (calm_call rfl).bind
  intro cleared
  exact startMdns_calm

theorem begins_tidy {role : Role} {program : Wifi Unit}
    (begins : Begins role program) : Tidy guard.duty program := by
  cases begins with
  | console command => exact perform_tidy command
  | @eventLoop event real =>
      exact (Calm.tidy (calm_call rfl)).bind fun _ => wifiEventHandler_tidy event
  | httpServer => exact startHandler_calm.tidy

theorem created_tidy {event : Interaction.Event wifiCalls} {role : Role}
    {program : Wifi Unit} (creates : created event = some (role, program)) :
    Tidy guard.duty program := by
  rcases created_cases creates with rfl | rfl | rfl
  · exact stationFallbackTask_tidy
  · exact httpRestartTask_calm.tidy
  · exact executionTask_calm.tidy

end Programs

/-! ## The board -/

theorem flag_assign_true {guard : Guard} {board : Board} {update : Update}
    (set : guard.flag (board.assign update) = true) :
    guard.flag board = true ∨ update = guard.update true := by
  cases guard with
  | executionWifiPause =>
      cases update with
      | executionWifiPause value => exact .inr (congrArg _ set)
      | _ => exact .inl set
  | pending task =>
      cases task with
      | fallback =>
          cases update with
          | fallbackTaskPending value => exact .inr (congrArg _ set)
          | _ => exact .inl set
      | httpRestart =>
          cases update with
          | httpRestartTaskPending value => exact .inr (congrArg _ set)
          | _ => exact .inl set

theorem flag_assign_false (guard : Guard) (board : Board) :
    guard.flag (board.assign (guard.update false)) = false := by
  cases guard with
  | executionWifiPause => rfl
  | pending task => cases task <;> rfl

theorem flag_kept {request : WifiCall} {before after : Board}
    {answer : WifiCall.Answer request}
    (answered : wifiEnvironment request before answer after)
    (other : ∀ update, request ≠ .assign update) (guard : Guard) :
    guard.flag after = guard.flag before := by
  have linked : after.link.executionWifiPause = before.link.executionWifiPause ∧
      after.link.fallbackTaskPending = before.link.fallbackTaskPending ∧
      after.link.httpRestartTaskPending =
        before.link.httpRestartTaskPending := by
    cases request with
    | assign update => exact absurd rfl (other update)
    | httpdStart =>
        rw [show after = _ from answered]
        split <;> exact ⟨rfl, rfl, rfl⟩
    | nvsSetStr key text =>
        rw [show after = _ from answered]
        split <;> exact ⟨rfl, rfl, rfl⟩
    | nvsEraseKey key =>
        rw [answered.2]
        split <;> exact ⟨rfl, rfl, rfl⟩
    | look =>
        rw [answered.2]
        exact ⟨rfl, rfl, rfl⟩
    | jobLocked =>
        rw [answered.2]
        exact ⟨rfl, rfl, rfl⟩
    | prepareStart =>
        rw [answered.2]
        exact ⟨rfl, rfl, rfl⟩
    | startFailed =>
        rcases answered with ⟨taken, same⟩
        rw [same]
        exact ⟨rfl, rfl, rfl⟩
    | _ =>
        rw [show after = _ from answered]
        exact ⟨rfl, rfl, rfl⟩
  cases guard with
  | executionWifiPause => exact linked.1
  | pending task =>
      cases task with
      | fallback => exact linked.2.1
      | httpRestart => exact linked.2.2

theorem guard_lawful (guard : Guard) :
    Lawful wifiDesign guard.duty guard.flag where
  raised := by
    intro request before answer after answered set
    by_cases assigns : ∃ update, request = .assign update
    · rcases assigns with ⟨update, rfl⟩
      rw [show after = before.assign update from answered] at set
      rcases flag_assign_true set with already | same
      · exact .inl already
      · exact .inr (beq_iff_eq.mpr same)
    · have other : ∀ update, request ≠ .assign update :=
        fun update same => assigns ⟨update, same⟩
      rw [flag_kept answered other guard] at set
      exact .inl set
  lowered := by
    intro request before answer after answered lowers
    cases request with
    | assign update =>
        rw [show after = before.assign update from answered,
          show update = guard.update false from eq_of_beq lowers]
        exact flag_assign_false guard before
    | _ => cases lowers
  handed := by
    intro event hands
    rcases event with ⟨request, answer⟩
    cases request with
    | createTask task =>
        rcases Bool.and_eq_true_iff.mp hands with ⟨mine, made⟩
        rw [show answer = true from made, eq_of_beq mine]
        cases task with
        | fallback => exact ⟨_, _, rfl, stationFallbackTask_owes⟩
        | httpRestart => exact ⟨_, _, rfl, httpRestartTask_owes⟩
    | _ => cases hands
  created event role program creates := created_tidy creates
  begun processes role program begins := begins_tidy begins.2

theorem assign_alone {board : Board} {slot : Nat} {role : Role} {fresh : Bool}
    {update : Update} {next : Unit → Wifi Unit} :
    Alone wifiDesign (only board slot ⟨role, fresh, .ask (.assign update) next⟩)
      (.call slot role ⟨.assign update, ()⟩)
      (only (board.assign update) slot ⟨role, false, next ()⟩) :=
  only_call rfl rfl

theorem jobLocked_alone {board : Board} {slot : Nat} {role : Role} {fresh : Bool}
    {next : Bool → Wifi Unit} (idle : board.jobActive = false) :
    Alone wifiDesign (only board slot ⟨role, fresh, .ask .jobLocked next⟩)
      (.call slot role ⟨.jobLocked, false⟩)
      (only board slot ⟨role, false, next false⟩) := by
  refine only_call ⟨?_, rfl⟩ rfl
  intro active
  rw [idle] at active
  cases active

theorem run_guarded {credentials : Credentials}
    {nvs : NvsKey → Option (List UInt8)}
    {labels : List (Label wifiCalls Role)} {after : State wifiCalls Role Board}
    (run : Run (Step wifiDesign) (quiet (boot credentials nvs)) labels after)
    (guard : Guard) : Dutiful guard.duty guard.flag after := by
  have clear : guard.flag (boot credentials nvs) = false := by
    cases guard with
    | executionWifiPause => rfl
    | pending task => cases task <;> rfl
  exact run_dutiful (guard_lawful guard) run clear

/-- In every state that the parties can reach, each flag that is set is one
that a party which has not ended yet will clear, whatever its calls answer. -/
theorem flags_owed {credentials : Credentials}
    {nvs : NvsKey → Option (List UInt8)}
    {labels : List (Label wifiCalls Role)} {after : State wifiCalls Role Board}
    (run : Run (Step wifiDesign) (quiet (boot credentials nvs)) labels after)
    (guard : Guard) (set : guard.flag after.shared = true) :
    ∃ slot process, after.processes slot = some process ∧
      Owes guard.duty process.program :=
  (run_guarded run guard).owed set

theorem flags_owed_stop : ∃ labels after,
    Run (Step wifiDesign) (quiet savedHotspot) labels after ∧
      after.shared.link.executionWifiPause = true ∧
      ∃ slot process, after.processes slot = some process ∧
        Owes Guard.executionWifiPause.duty process.program := by
  have begun : Alone wifiDesign (quiet savedHotspot) (.begin 0 .console)
      (only savedHotspot 0 ⟨.console, true, Command.stop.perform⟩) := by
    apply only_begin
    exact ⟨by simp, .console .stop⟩
  have run := Run.cons begun (.cons (jobLocked_alone rfl)
    (.cons assign_alone (.cons assign_alone (.cons assign_alone (.nil _)))))
  have steps := run.mono (fun _ => True) (fun _ _ _ _ alone => alone.taken)
    fun _ _ => trivial
  exact ⟨_, _, steps, rfl, flags_owed steps .executionWifiPause rfl⟩

end Typxen.WifiLink
