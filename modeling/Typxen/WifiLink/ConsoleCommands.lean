import Typxen.WifiLink.StartMode

/-! # The console commands on a settled link

Each command that finds the variables settled leaves them settled, whichever
of its calls fail. -/

namespace Typxen.WifiLink

open Interaction Threads BoardSetup

variable {reliable : Bool} {board : Board}

theorem Settled.weaken (settled : Settled reliable board) :
    Settled false board :=
  { settled with attended := fun impossible => by cases impossible }

theorem Settled.attend (settled : Settled false board)
    (attended : reliable = true → board.link.wifiMode = .sta →
      board.link.activeIp = 0 →
      board.awaiting = true ∨ board.link.fallbackTaskPending = true) :
    Settled reliable board :=
  { settled with attended := attended }

abbrev Settles (reliable : Bool) {α : Type} (program : Wifi α)
    (board : Board) : Prop :=
  Steady reliable program board fun _ => Settled reliable

theorem jobLocked_steady {post : Bool → Board → Prop}
    (consistent : Consistent board) (locked : post true board)
    (unlocked : board.link.executionTask = false → post false board) :
    Steady reliable (Wifi.call .jobLocked) board post := by
  apply steady_plain rfl rfl
  intro answer after answered
  rw [answered.1.2]
  cases answer with
  | true => exact locked
  | false =>
      apply unlocked
      by_contra running
      have active := consistent.locked (eq_true_of_ne_false running)
      cases answered.1.1 active

theorem startMode_settles {mode : WifiMode} (actual : mode ≠ .stopped)
    (settled : Settled reliable board) :
    Settles reliable (startMode mode) board :=
  startMode_steady actual settled.toConsistent (fun _ => settled)
    fun _ _ started => started.settled

theorem typxWifiServiceStartAp_settles (settled : Settled reliable board) :
    Settles reliable typxWifiServiceStartAp board := by
  apply steady_bind
  apply steady_assign (untouched rfl)
  have unused : Settled reliable
      (board.assign (.postJobStationReconnect false)) :=
    { settled with unused := rfl }
  exact startMode_settles (by simp) unused

theorem typxWifiServiceStart_settles (settled : Settled reliable board) :
    Settles reliable typxWifiServiceStart board := by
  apply steady_bind
  apply steady_look
  split
  · exact startMode_settles (by simp) settled
  · exact typxWifiServiceStartAp_settles settled

theorem stopped_settled (idle : board.link.executionTask = false)
    (off : board.link.wifiMode = .stopped)
    (stopped : board.link.wifiStarted = false)
    (noServer : board.link.http = false)
    (silent : board.link.mdnsStarted = false)
    (unused : board.link.postJobStationReconnect = false) :
    Settled reliable ((board.assign (.activeIp 0)).assign
      (.executionWifiPause false)) where
  resumed := rfl
  locked := fun running => absurd (idle.symm.trans running) Bool.false_ne_true
  announced := fun on => absurd (silent.symm.trans on) Bool.false_ne_true
  served := fun on => absurd (noServer.symm.trans on) Bool.false_ne_true
  started := iff_of_false (ne_true_of_eq_false stopped) fun running => running off
  initialized := fun running => absurd off running
  unused := unused
  configured := fun sta => by
    have same := off.symm.trans sta
    cases same
  attended := fun _ sta => by
    have same := off.symm.trans sta
    cases same

theorem typxWifiServiceStop_settles (settled : Settled reliable board) :
    Settles reliable typxWifiServiceStop board := by
  apply steady_bind
  apply jobLocked_steady settled.toConsistent
  · exact settled
  intro idle
  apply steady_bind
  apply steady_assign (untouched rfl)
  apply steady_bind
  refine steady_assign (fun _ => idle) ?_
  apply steady_bind
  apply steady_assign (untouched rfl)
  apply steady_bind
  apply stopHttp_steady
  intro result port
  apply steady_bind
  apply steady_look
  split
  · apply steady_bind
    refine steady_driver (fun _ => idle) ?_
    intro wifiError
    apply steady_bind
    refine steady_assign (fun _ => idle) ?_
    apply steady_bind
    apply steady_assign (untouched rfl)
    apply steady_bind
    apply steady_assign (untouched rfl)
    exact stopped_settled idle rfl rfl rfl rfl rfl
  · rename_i down
    apply steady_bind
    apply steady_assign (untouched rfl)
    apply steady_bind
    apply steady_assign (untouched rfl)
    exact stopped_settled idle rfl (eq_false_of_ne_true down) rfl rfl rfl

theorem Settled.withNvs (settled : Settled reliable board)
    (nvs : NvsKey → Option (List UInt8)) :
    Settled reliable { board with nvs := nvs } :=
  { settled with }

theorem nvsOpen_steady {post : EspErr → Board → Prop}
    (rest : ∀ error, post error board) :
    Steady reliable (Wifi.call .nvsOpen) board post := by
  apply steady_plain rfl rfl
  intro error after answered
  rw [show after = board from answered.1]
  exact rest error

theorem nvsCommit_steady {post : EspErr → Board → Prop}
    (rest : ∀ error, post error board) :
    Steady reliable (Wifi.call .nvsCommit) board post := by
  apply steady_plain rfl rfl
  intro error after answered
  rw [show after = board from answered.1]
  exact rest error

theorem nvsSetStr_steady {key : NvsKey} {text : List UInt8}
    {post : EspErr → Board → Prop}
    (rest : ∀ error nvs, post error { board with nvs := nvs }) :
    Steady reliable (Wifi.call (.nvsSetStr key text)) board post := by
  apply steady_plain rfl rfl
  intro error after answered
  rw [show after = if error = .ok then _ else _ from answered.1]
  split
  · exact rest error _
  · exact rest error board.nvs

theorem forgetKey_steady {key : NvsKey} {post : EspErr → Board → Prop}
    (rest : ∀ error nvs, post error { board with nvs := nvs }) :
    Steady reliable (forgetKey key) board post := by
  apply steady_bind
  apply steady_plain rfl rfl
  intro error after answered
  have stored : ∃ nvs, after = { board with nvs := nvs } := by
    rw [answered.1.2]
    split
    · exact ⟨_, rfl⟩
    · exact ⟨board.nvs, rfl⟩
  rcases stored with ⟨nvs, same⟩
  rw [same]
  exact rest _ nvs

theorem typxWifiServiceConfigureStation_settles (ssid password : List UInt8)
    (settled : Settled reliable board) :
    Settles reliable (typxWifiServiceConfigureStation ssid password) board := by
  apply steady_bind
  apply jobLocked_steady settled.toConsistent
  · exact settled
  intro idle
  rw [if_neg Bool.false_ne_true]
  split
  · exact settled
  apply steady_next
  apply nvsOpen_steady
  intro error
  split
  case isFalse => exact settled
  apply steady_next
  apply nvsSetStr_steady
  intro error first
  split
  case isFalse => exact settled.withNvs first
  apply steady_next
  apply nvsSetStr_steady
  intro error second
  have stored : Settled reliable { board with nvs := second } :=
    settled.withNvs second
  split
  case isFalse => exact stored
  apply steady_next
  apply nvsCommit_steady
  intro error
  split
  case isFalse => exact stored
  apply steady_bind
  unfold setStation typxWifiStationConfigSet
  split
  · rename_i config valid
    apply steady_assign (untouched rfl)
    split at valid
    · cases valid
      exact { stored with configured := fun _ => rfl }
    · cases valid
  · exact stored

theorem typxWifiServiceForgetStation_settles
    (settled : Settled reliable board) :
    Settles reliable typxWifiServiceForgetStation board := by
  apply steady_bind
  apply jobLocked_steady settled.toConsistent
  · exact settled
  intro idle
  apply steady_bind
  apply steady_assign (untouched rfl)
  have unused : Settled reliable
      (board.assign (.postJobStationReconnect false)) :=
    { settled with unused := rfl }
  apply steady_next
  apply nvsOpen_steady
  intro error
  split
  case isFalse => exact unused
  apply steady_bind
  apply forgetKey_steady
  intro ssidError first
  apply steady_bind
  apply forgetKey_steady
  intro passwordError second
  have stored : Settled reliable
      { board.assign (.postJobStationReconnect false) with nvs := second } :=
    unused.withNvs second
  apply steady_next
  change if ssidError = .ok then _ else _
  split
  case isFalse => exact stored
  apply steady_next
  change if passwordError = .ok then _ else _
  split
  case isFalse => exact stored
  apply steady_next
  apply nvsCommit_steady
  intro error
  split
  case isFalse => exact stored
  apply steady_bind
  apply steady_look
  apply steady_bind
  apply steady_assign (untouched rfl)
  split
  · -- Without its configuration the station is left for the access point.
    apply steady_bind
    apply steady_assign (untouched rfl)
    apply startMode_steady (by simp)
    · exact { stored.toConsistent with unused := rfl }
    · intro refused
      rcases refused with running | station
      · exact absurd (idle.symm.trans running) Bool.false_ne_true
      · cases station.1
    · exact fun _ _ started => started.settled
  · rename_i other
    exact { stored with
      configured := fun sta => absurd sta other
      attended := fun _ sta => absurd sta other }

theorem perform_settles (command : Command) (settled : Settled reliable board) :
    Settles reliable command.perform board := by
  have result : Steady reliable command.result board
      fun _ after => Settled reliable after := by
    cases command with
    | start => exact typxWifiServiceStart_settles settled
    | startStation => exact startMode_settles (by simp) settled
    | startAp => exact typxWifiServiceStartAp_settles settled
    | stop => exact typxWifiServiceStop_settles settled
    | configureStation ssid password =>
        exact typxWifiServiceConfigureStation_settles ssid password settled
    | forgetStation => exact typxWifiServiceForgetStation_settles settled
  exact Safe.bind result fun _ _ after => after

end Typxen.WifiLink
