import Typxen.WifiLink.ConsoleCommands

/-! # Reconnecting on a settled link

The event handler and the two tasks that it creates leave settled variables
settled. -/

namespace Typxen.WifiLink

open Interaction Threads BoardSetup

variable {reliable : Bool} {board : Board}

theorem wifiConnect_steady {post : EspErr → Board → Prop}
    (rest : ∀ error accepted, (reliable = true → accepted = true) →
      post error (board.await accepted)) :
    Steady reliable (Wifi.call .wifiConnect) board post := by
  apply steady_plain rfl rfl
  intro error after answered
  rw [show after = board.await (error == .ok) from answered.1]
  apply rest
  intro sure
  rw [show error = .ok from answered.2 sure]
  rfl

theorem Settled.awaited (settled : Settled false board) {accepted : Bool}
    (sure : reliable = true → accepted = true) :
    Settled reliable (board.await accepted) :=
  { settled with
    attended := fun certain _ _ => by
      rw [sure certain]
      exact .inl (Bool.or_true _) }

theorem scheduleStationFallback_settles (settled : Settled false board) :
    Settles reliable scheduleStationFallback board := by
  apply steady_bind
  apply steady_look
  split
  · rename_i pending
    exact settled.attend fun _ _ _ => .inr pending
  apply steady_bind
  apply steady_assign (untouched rfl)
  apply steady_bind
  apply steady_plain rfl rfl
  intro created after answered
  rw [show after = _ from answered.1]
  split
  · rename_i failed
    have missing : created = false := by simpa using failed
    apply steady_assign (untouched rfl)
    exact { settled with
      attended := fun certain => by
        have sure : created = true := answered.2 certain
        rw [missing] at sure
        cases sure }
  · exact { settled with attended := fun _ _ _ => .inr rfl }

theorem scheduleHttpRestart_settles (settled : Settled reliable board) :
    Settles reliable scheduleHttpRestart board := by
  apply steady_bind
  apply steady_look
  split
  · exact settled
  apply steady_bind
  apply steady_assign (untouched rfl)
  apply steady_bind
  apply steady_plain rfl rfl
  intro created after answered
  rw [show after = _ from answered.1]
  split
  · apply steady_assign (untouched rfl)
    exact { settled with }
  · exact { settled with }

theorem httpRestartTask_settles (settled : Settled reliable board) :
    Settles reliable httpRestartTask board := by
  apply steady_bind
  apply stopHttp_steady
  intro error port
  have stopped : Settled reliable (board.serving false port false) :=
    settled.serving id (fun on => by cases on) port
  apply steady_bind
  apply serveStation_steady stopped
  intro after served
  apply steady_assign (untouched rfl)
  exact { served with }

theorem Settled.not_sta (settled : Settled false board)
    (other : ¬(board.link.wifiMode == .sta &&
      !board.link.executionWifiPause) = true) :
    Settled reliable board := by
  apply settled.attend
  intro _ sta
  rw [sta, settled.resumed] at other
  exact absurd rfl other

theorem wifiEventHandler_settles (event : WifiEvent)
    (settled : Settled false board)
    (quiet : event = .other → Settled reliable board)
    (real : event ≠ .gotIp 0) :
    Settles reliable (wifiEventHandler event) board := by
  cases event with
  | staStart =>
      apply steady_bind
      apply steady_look
      split
      · apply steady_bind
        apply steady_assign (untouched rfl)
        have reset : Settled false (board.assign .resetAttempts) :=
          { settled with }
        apply steady_bind
        apply wifiConnect_steady
        exact fun _ _ sure => reset.awaited sure
      · rename_i other
        exact settled.not_sta other
  | staDisconnected =>
      apply steady_bind
      apply steady_look
      split
      · apply steady_bind
        apply steady_assign (untouched rfl)
        apply steady_bind
        apply steady_look
        have lost : Settled false (board.assign (.activeIp 0)) :=
          { settled with attended := fun impossible => by cases impossible }
        split
        · apply steady_bind
          apply steady_assign (untouched rfl)
          have counted : Settled false
              ((board.assign (.activeIp 0)).assign .countAttempt) :=
            { lost with }
          apply steady_bind
          apply wifiConnect_steady
          exact fun _ _ sure => counted.awaited sure
        · exact scheduleStationFallback_settles lost
      · rename_i other
        exact settled.not_sta other
  | gotIp address =>
      apply steady_bind
      apply steady_look
      split
      · apply steady_bind
        apply steady_assign (untouched rfl)
        apply steady_bind
        apply steady_assign (untouched rfl)
        apply steady_bind
        apply steady_assign (untouched rfl)
        apply scheduleHttpRestart_settles
        have online : Settled false
            (((board.assign (.activeIp address)).assign .resetAttempts).assign
              (.postJobStationReconnect false)) :=
          { settled with
            unused := rfl
            attended := fun impossible => by cases impossible }
        apply online.attend
        intro _ _ none
        exact absurd (congrArg _ none) real
      · rename_i other
        apply settled.attend
        intro _ sta
        rw [sta] at other
        exact absurd rfl other
  | other => exact quiet rfl

theorem handleEvent_settles {event : WifiEvent} (real : event ≠ .gotIp 0)
    (settled : Settled reliable board) :
    Settles reliable (handleEvent event) board := by
  apply steady_bind
  apply steady_plain rfl rfl
  intro dispatched after answered
  rw [show after = _ from answered.1]
  refine wifiEventHandler_settles event ?_ ?_ real
  · exact { settled.weaken with
      attended := fun impossible => by cases impossible }
  · intro other
    rw [other]
    exact { settled with
      attended := fun certain sta none => by
        rcases settled.attended certain sta none with awaited | pending
        · exact .inl (by rw [awaited]; rfl)
        · exact .inr pending }

structure Recovered (reliable : Bool) (board : Board) : Prop where
  settled : Settled reliable board
  awaited : reliable = true → board.link.wifiMode = .sta →
    board.link.activeIp = 0 → board.awaiting = true

theorem fallbackAction_steady (settled : Settled reliable board) :
    Steady reliable fallbackAction board fun _ => Recovered reliable := by
  apply steady_bind
  apply steady_look
  split
  · apply steady_bind
    apply (safe_ask_of_rests rfl).mpr
    refine ⟨settled, ?_⟩
    intro later still resumes waited after answered
    rw [show after = later from answered.1]
    apply steady_bind
    apply steady_look
    split
    · apply steady_bind
      apply wifiConnect_steady
      intro error accepted sure
      refine ⟨still.weaken.awaited sure, ?_⟩
      intro certain _ _
      rw [sure certain]
      exact Bool.or_true _
    · rename_i idle
      refine ⟨still, ?_⟩
      intro certain sta none
      by_contra silent
      have started : later.link.wifiStarted = true := by
        apply still.started.mpr
        rw [sta]
        simp
      have noJob : later.link.executionTask = false := by
        by_contra running
        apply idle
        simp [eq_true_of_ne_false running, sta, started, none]
      exact resumes certain rfl ⟨noJob, sta, none, eq_false_of_ne_true silent⟩
  rename_i free
  apply steady_bind
  apply steady_look
  split
  · rename_i postJob
    rw [settled.unused] at postJob
    cases postJob
  apply steady_bind
  apply steady_look
  split
  · rename_i up
    have sta : board.link.wifiMode = .sta := by
      rw [Bool.and_eq_true] at up
      exact eq_of_beq up.1
    apply steady_bind
    apply startMode_steady (by simp) settled.toConsistent
    · intro refused
      rcases refused with running | station
      · rw [running, settled.configured sta] at free
        exact absurd rfl free
      · cases station.1
    · intro error after started
      refine ⟨started.settled, ?_⟩
      intro _ sta
      rcases started.result with ap | stopped
      · rw [ap] at sta
        cases sta
      · rw [stopped] at sta
        cases sta
  · rename_i other
    refine ⟨settled, ?_⟩
    intro _ sta
    rw [sta, settled.resumed] at other
    exact absurd rfl other

theorem fallbackEnd_steady (retryNeeded : Bool)
    (recovered : Recovered reliable board) :
    Settles reliable (fallbackEnd retryNeeded) board := by
  apply steady_bind
  apply steady_assign (untouched rfl)
  have cleared : Settled reliable (board.assign (.fallbackTaskPending false)) :=
    { recovered.settled with
      attended := fun certain sta none =>
        .inl (recovered.awaited certain sta none) }
  split
  · apply steady_bind
    apply steady_look
    split
    · exact scheduleStationFallback_settles cleared.weaken
    · exact cleared
  · exact cleared

theorem stationFallbackTask_settles (settled : Settled reliable board) :
    Settles reliable stationFallbackTask board :=
  (fallbackAction_steady settled).bind fun retryNeeded _ recovered =>
    fallbackEnd_steady retryNeeded recovered

end Typxen.WifiLink
