import Typxen.WifiLink.Flags

/-! # What each party calls

Which calls each program may make: ordinary ones, those that raise a flag,
those that change the saved hotspot, and the count of an attempt. -/

namespace Typxen.WifiLink

open Interaction Threads

def storing : WifiCall → Bool
  | .assign (.station _) => true
  | .nvsSetStr _ _ => true
  | .nvsEraseKey _ => true
  | _ => false

structure Admits (allowed : WifiCall → Prop) : Prop where
  ordinary : ∀ request, ordinary request = true → allowed request
  raising : ∀ guard : Guard, allowed (.assign (guard.update true))

section Programs

variable {allowed : WifiCall → Prop} {α : Type}

abbrev Within (allowed : WifiCall → Prop) (program : Wifi α) : Prop :=
  Program.OnlyCalls allowed program

theorem Calm.within {program : Wifi α} (calm : Calm program)
    (admits : Admits allowed) : Within allowed program :=
  Program.OnlyCalls.mono calm admits.ordinary

theorem within_call {request : WifiCall} (mine : allowed request) :
    Within allowed (Wifi.call request) :=
  ⟨mine, fun _ => trivial⟩

theorem Admits.call (admits : Admits allowed) {request : WifiCall}
    (usual : WifiLink.ordinary request = true) :
    Within allowed (Wifi.call request) :=
  within_call (admits.ordinary request usual)

theorem next_within {first second : Wifi EspErr} (one : Within allowed first)
    (two : Within allowed second) : Within allowed (next first second) := by
  apply one.bind
  intro error
  split
  · exact two
  · exact trivial

theorem startMode_within (admits : Admits allowed) (mode : WifiMode) :
    Within allowed (startMode mode) := by
  apply (look_calm.within admits).bind
  intro link
  split
  · exact trivial
  apply (look_calm.within admits).bind
  intro link
  split
  · exact trivial
  apply next_within (initializeWifi_calm.within admits)
  apply (within_call (admits.raising .executionWifiPause)).bind
  intro paused
  apply (stopHttp_calm.within admits).bind
  intro stopped
  apply ((stopForMode_calm _).within admits).bind
  intro error
  split
  · exact (admits.call rfl).bind fun resumed => trivial
  · exact (startStopped_calm mode).within admits

theorem typxWifiServiceStartAp_within (admits : Admits allowed) :
    Within allowed typxWifiServiceStartAp := by
  apply (admits.call rfl).bind
  intro set
  exact startMode_within admits .ap

theorem typxWifiServiceStart_within (admits : Admits allowed) :
    Within allowed typxWifiServiceStart := by
  apply (look_calm.within admits).bind
  intro link
  split
  · exact startMode_within admits .sta
  · exact typxWifiServiceStartAp_within admits

theorem typxWifiServiceStop_within (admits : Admits allowed) :
    Within allowed typxWifiServiceStop := by
  apply (admits.call rfl).bind
  intro locked
  split
  · exact trivial
  apply (admits.call rfl).bind
  intro set
  apply (admits.call rfl).bind
  intro stopped
  apply (within_call (admits.raising .executionWifiPause)).bind
  intro paused
  apply (stopHttp_calm.within admits).bind
  intro result
  apply (look_calm.within admits).bind
  intro link
  split
  · apply ((driver_calm _).within admits).bind
    intro wifiError
    apply (admits.call rfl).bind
    intro stopped
    apply (admits.call rfl).bind
    intro cleared
    exact (admits.call rfl).bind fun resumed => trivial
  · apply (admits.call rfl).bind
    intro cleared
    exact (admits.call rfl).bind fun resumed => trivial

theorem typxWifiServiceConfigureStation_within (admits : Admits allowed)
    (stores : ∀ request, storing request = true → allowed request)
    (ssid password : List UInt8) :
    Within allowed (typxWifiServiceConfigureStation ssid password) := by
  apply (admits.call rfl).bind
  intro locked
  split
  · exact trivial
  split
  · exact trivial
  apply next_within (admits.call rfl)
  apply next_within (within_call (stores _ rfl))
  apply next_within (within_call (stores _ rfl))
  apply next_within (admits.call rfl)
  apply Program.OnlyCalls.bind
  · unfold setStation
    split
    · exact within_call (stores _ rfl)
    · exact trivial
  · exact fun set => trivial

theorem forgetKey_within
    (stores : ∀ request, storing request = true → allowed request)
    (key : NvsKey) : Within allowed (forgetKey key) := by
  apply (within_call (stores _ rfl)).bind
  exact fun error => trivial

theorem typxWifiServiceForgetStation_within (admits : Admits allowed)
    (stores : ∀ request, storing request = true → allowed request) :
    Within allowed typxWifiServiceForgetStation := by
  apply (admits.call rfl).bind
  intro locked
  split
  · exact trivial
  apply (admits.call rfl).bind
  intro set
  apply next_within (admits.call rfl)
  apply (forgetKey_within stores _).bind
  intro ssidError
  apply (forgetKey_within stores _).bind
  intro passwordError
  have given (error : EspErr) :
      Within allowed (return error : Wifi EspErr) := trivial
  apply next_within (given ssidError)
  apply next_within (given passwordError)
  apply next_within (admits.call rfl)
  apply (look_calm.within admits).bind
  intro link
  apply (within_call (stores _ rfl)).bind
  intro cleared
  split
  · exact typxWifiServiceStartAp_within admits
  · exact trivial

theorem perform_within (admits : Admits allowed)
    (stores : ∀ request, storing request = true → allowed request)
    (command : Command) : Within allowed command.perform := by
  have result : Within allowed command.result := by
    cases command with
    | start => exact typxWifiServiceStart_within admits
    | startStation => exact startMode_within admits .sta
    | startAp => exact typxWifiServiceStartAp_within admits
    | stop => exact typxWifiServiceStop_within admits
    | configureStation ssid password =>
        exact typxWifiServiceConfigureStation_within admits stores ssid password
    | forgetStation =>
        exact typxWifiServiceForgetStation_within admits stores
  exact result.bind fun _ => trivial

theorem scheduleStationFallback_within (admits : Admits allowed) :
    Within allowed scheduleStationFallback := by
  apply (look_calm.within admits).bind
  intro link
  split
  · exact trivial
  apply (within_call (admits.raising (.pending .fallback))).bind
  intro raised
  apply (admits.call rfl).bind
  intro created
  split
  · exact admits.call rfl
  · exact trivial

theorem scheduleHttpRestart_within (admits : Admits allowed) :
    Within allowed scheduleHttpRestart := by
  apply (look_calm.within admits).bind
  intro link
  split
  · exact trivial
  apply (within_call (admits.raising (.pending .httpRestart))).bind
  intro raised
  apply (admits.call rfl).bind
  intro created
  split
  · exact admits.call rfl
  · exact trivial

theorem fallbackAction_within (admits : Admits allowed) :
    Within allowed fallbackAction := by
  apply (look_calm.within admits).bind
  intro link
  split
  · apply (admits.call rfl).bind
    intro waited
    apply (look_calm.within admits).bind
    intro link
    split
    · exact (admits.call rfl).bind fun error => trivial
    · exact trivial
  apply (look_calm.within admits).bind
  intro link
  split
  · apply (admits.call rfl).bind
    intro waited
    apply (look_calm.within admits).bind
    intro link
    split
    · apply (admits.call rfl).bind
      intro reset
      apply Program.OnlyCalls.bind
      · apply (look_calm.within admits).bind
        intro link
        split
        · exact admits.call rfl
        · exact startMode_within admits .sta
      · exact fun error => trivial
    · exact trivial
  apply (look_calm.within admits).bind
  intro link
  split
  · exact (startMode_within admits .ap).bind fun _ => trivial
  · exact trivial

theorem stationFallbackTask_within (admits : Admits allowed) :
    Within allowed stationFallbackTask := by
  apply (fallbackAction_within admits).bind
  intro retryNeeded
  apply (admits.call rfl).bind
  intro cleared
  split
  · apply (look_calm.within admits).bind
    intro link
    split
    · exact scheduleStationFallback_within admits
    · exact trivial
  · exact trivial

theorem handleEvent_within (admits : Admits allowed)
    (counts : allowed (.assign .countAttempt)) (event : WifiEvent) :
    Within allowed (handleEvent event) := by
  apply (admits.call rfl).bind
  intro dispatched
  cases event with
  | staStart =>
      apply (look_calm.within admits).bind
      intro link
      split
      · apply (admits.call rfl).bind
        intro reset
        exact (admits.call rfl).bind fun error => trivial
      · exact trivial
  | staDisconnected =>
      apply (look_calm.within admits).bind
      intro link
      split
      · apply (admits.call rfl).bind
        intro cleared
        apply (look_calm.within admits).bind
        intro link
        split
        · apply (within_call counts).bind
          intro counted
          exact (admits.call rfl).bind fun error => trivial
        · exact scheduleStationFallback_within admits
      · exact trivial
  | gotIp address =>
      apply (look_calm.within admits).bind
      intro link
      split
      · apply (admits.call rfl).bind
        intro set
        apply (admits.call rfl).bind
        intro reset
        apply (admits.call rfl).bind
        intro cleared
        exact scheduleHttpRestart_within admits
      · exact trivial
  | other => exact trivial

theorem created_within (admits : Admits allowed)
    {event : Interaction.Event wifiCalls} {role : Role} {program : Wifi Unit}
    (creates : created event = some (role, program)) :
    Within allowed program := by
  rcases created_cases creates with rfl | rfl | rfl
  · exact stationFallbackTask_within admits
  · exact httpRestartTask_calm.within admits
  · exact executionTask_calm.within admits

end Programs

theorem created_other {role : Role} (waits : role = .console ∨
    role = .eventLoop ∨ role = .httpServer)
    (event : Interaction.Event wifiCalls) (program : Wifi Unit) :
    created event ≠ some (role, program) := by
  intro creates
  unfold created at creates
  split at creates
  · cases creates
    simp at waits
  · cases creates
    simp at waits
  · cases creates
    simp at waits
  · cases creates

end Typxen.WifiLink
