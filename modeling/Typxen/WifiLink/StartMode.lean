import Typxen.WifiLink.Settled

/-! # Starting a mode

`start_mode` on consistent variables: it refuses, or stops what runs and leaves
the link settled in the mode or stopped, whichever of its calls fail. -/

namespace Typxen.WifiLink

open Interaction Threads BoardSetup

variable {reliable : Bool} {board : Board}

structure Down (mode : WifiMode) (board : Board) : Prop where
  idle : board.link.executionTask = false
  off : board.link.wifiMode = .stopped
  stopped : board.link.wifiStarted = false
  noServer : board.link.http = false
  silent : board.link.mdnsStarted = false
  initialized : board.link.wifiInitialized = true
  configured : mode = .sta → board.link.station.configured = true
  unused : board.link.postJobStationReconnect = false

theorem Down.settled {mode : WifiMode} (down : Down mode board)
    (resumed : board.link.executionWifiPause = false) :
    Settled reliable board where
  resumed := resumed
  locked := by simp [down.idle]
  announced := by simp [down.silent]
  served := by simp [down.noServer]
  started := by simp [down.stopped, down.off]
  initialized := by simp [down.initialized]
  unused := down.unused
  configured := by simp [down.off]
  attended := by simp [down.off]

/-- How `start_mode` leaves the board where it does not refuse. -/
structure Started (reliable : Bool) (mode : WifiMode) (error : EspErr)
    (board : Board) : Prop where
  settled : Settled reliable board
  result : board.link.wifiMode = mode ∨ board.link.wifiMode = .stopped
  running : error = .ok →
    board.link.wifiMode = mode ∧ board.link.http = true

variable {mode : WifiMode} {post : EspErr → Board → Prop}

theorem startFailedWith_steady {error : EspErr} (failed : error ≠ .ok)
    (down : Down mode (board.assign (.wifiMode .stopped)))
    (rest : ∀ error after, Started reliable mode error after → post error after) :
    Steady reliable (startFailedWith error) board post := by
  have idle : board.link.executionTask = false := down.idle
  apply steady_bind
  apply steady_assign (untouched rfl)
  apply steady_bind
  refine steady_assign (fun _ => idle) ?_
  have last : Down mode ((board.assign (.executionWifiPause false)).assign
      (.wifiMode .stopped)) := { down with }
  exact rest error _ ⟨last.settled rfl, .inr rfl, fun ok => absurd ok failed⟩

theorem showApIp_steady {post : Unit → Board → Prop}
    (rest : ∀ address, post () (board.assign (.activeIp address))) :
    Steady reliable showApIp board post := by
  apply steady_bind
  apply steady_plain rfl rfl
  intro address after answered
  rw [show after = board from answered.1]
  cases address with
  | some address => exact steady_assign (untouched rfl) (rest address)
  | none => exact rest board.link.activeIp

structure Up (reliable : Bool) (mode : WifiMode) (board : Board) : Prop where
  settled : Settled reliable board
  chosen : board.link.wifiMode = mode
  started : board.link.wifiStarted = true

theorem Up.serving (up : Up reliable mode board) {http mdns : Bool}
    (announced : mdns = true → http = true) (port : UInt16) :
    Up reliable mode (board.serving http port mdns) where
  settled := up.settled.serving announced (fun _ => up.started) port
  chosen := up.chosen
  started := up.started

theorem Up.withIp (up : Up reliable .ap board) (address : UInt32) :
    Up reliable .ap (board.assign (.activeIp address)) where
  settled := { up.settled with
    attended := fun _ sta =>
      absurd (up.chosen.symm.trans sta) (by simp) }
  chosen := up.chosen
  started := up.started

theorem Up.startHttp_steady (up : Up reliable mode board)
    (rest : ∀ error after, Up reliable mode after →
      (error = .ok → after.link.http = true) → post error after) :
    Steady reliable startHttp board post := by
  apply WifiLink.startHttp_steady
  intro error http port kept running
  apply rest error
  · exact up.serving (fun on => kept (up.settled.announced on)) port
  · exact running

theorem Up.startMdns_steady (up : Up reliable mode board)
    {post : Unit → Board → Prop}
    (rest : ∀ after, Up reliable mode after →
      after.link.http = board.link.http → post () after) :
    Steady reliable startMdns board post := by
  apply WifiLink.startMdns_steady
  intro mdns available
  refine rest _ (up.serving ?_ _) rfl
  intro on
  rcases available on with already | running
  · exact up.settled.announced already
  · exact running

theorem modeStarted_steady (actual : mode ≠ .stopped)
    (down : Down mode (board.assign (.wifiMode .stopped)))
    (chosen : board.link.wifiMode = mode)
    (resumed : board.link.executionWifiPause = false)
    (awaited : mode = .sta → board.awaiting = true)
    (rest : ∀ error after, Started reliable mode error after → post error after) :
    Steady reliable (modeStarted mode) board post := by
  have idle : board.link.executionTask = false := down.idle
  have quiet : board.link.mdnsStarted = false := down.silent
  have up : Up reliable mode (board.assign (.wifiStarted true)) := {
    chosen := chosen
    started := rfl
    settled := {
      resumed := resumed
      locked := fun running =>
        absurd (idle.symm.trans running) Bool.false_ne_true
      announced := fun on => absurd (quiet.symm.trans on) Bool.false_ne_true
      served := fun _ => rfl
      started := iff_of_true rfl (chosen ▸ actual)
      initialized := fun _ => down.initialized
      unused := down.unused
      configured := fun sta => down.configured (chosen.symm.trans sta)
      attended := fun _ sta _ => .inl (awaited (chosen.symm.trans sta)) } }
  have finish : ∀ error after, Up reliable mode after →
      (error = .ok → after.link.http = true) → post error after := by
    intro error after up running
    exact rest error after ⟨up.settled, .inl up.chosen,
      fun ok => ⟨up.chosen, running ok⟩⟩
  apply steady_bind
  refine steady_assign (fun _ => idle) ?_
  split
  · rename_i isAp
    subst isAp
    apply steady_bind
    apply showApIp_steady
    intro address
    apply steady_next
    apply (up.withIp address).startHttp_steady
    intro error after up running
    split
    · rename_i ok
      apply steady_bind
      apply up.startMdns_steady
      intro last up same
      exact finish .ok last up fun _ => same.trans (running ok)
    · exact finish error after up running
  · exact up.startHttp_steady finish

theorem startStopped_steady (actual : mode ≠ .stopped) (down : Down mode board)
    (rest : ∀ error after, Started reliable mode error after → post error after) :
    Steady reliable (startStopped mode) board post := by
  have idle : board.link.executionTask = false := down.idle
  have cleared : Down mode
      ((board.assign (.activeIp 0)).assign (.wifiMode .stopped)) :=
    { down with off := rfl }
  apply steady_bind
  apply steady_assign (untouched rfl)
  apply steady_bind
  apply steady_look
  apply steady_bind
  refine steady_driver (fun _ => idle) ?_
  intro error
  split
  · rename_i failed
    exact startFailedWith_steady failed cleared rest
  apply steady_bind
  refine steady_driver (fun _ => idle) ?_
  intro error
  split
  · rename_i failed
    exact startFailedWith_steady failed cleared rest
  apply steady_bind
  refine steady_assign (fun _ => idle) ?_
  apply steady_bind
  apply steady_assign (untouched rfl)
  apply steady_bind
  apply steady_assign (untouched rfl)
  apply steady_bind
  refine steady_call rfl (fun _ => idle) ?_
  intro error after answered
  rw [show after = _ from answered.1]
  split
  · rename_i failed
    apply startFailedWith_steady failed _ rest
    exact { cleared with off := rfl }
  · rename_i fine
    rw [not_not] at fine
    apply modeStarted_steady actual _ rfl rfl _ rest
    · exact { cleared with off := rfl }
    · intro sta
      subst sta
      rw [fine]
      exact Bool.or_true _

theorem initializeWifi_steady
    (already : board.link.wifiInitialized = true → post .ok board)
    (failed : board.link.wifiInitialized = false → ∀ error, error ≠ .ok →
      post error board)
    (fresh : board.link.wifiInitialized = false →
      post .ok (board.assign (.wifiInitialized true))) :
    Steady reliable initializeWifi board post := by
  apply steady_bind
  apply steady_look
  split
  · rename_i initialized
    exact already initialized
  rename_i missing
  have uninitialized := eq_false_of_ne_true missing
  have failing := failed uninitialized
  have tolerated {request : DriverCall} {second : Wifi EspErr}
      (plain : radio (.driver request) = false)
      (later : Steady reliable second board post) :
      Steady reliable (next (do return tolerate (← driver request)) second)
        board post := by
    apply steady_next
    apply steady_bind
    apply steady_driver (untouched plain)
    intro error
    change if tolerate error = .ok then _ else _
    split
    · exact later
    · rename_i failed
      exact failing _ failed
  apply tolerated rfl
  apply tolerated rfl
  apply steady_bind
  apply steady_plain rfl rfl
  intro netifs after answered
  rw [show after = board from answered.1]
  rcases netifs with ⟨apNetif, staNetif⟩
  change Steady reliable (if (!apNetif || !staNetif) = true then _ else _) board
    post
  split
  · exact failing .noMem (by simp)
  apply steady_next_driver rfl failing
  apply steady_next_driver rfl failing
  apply steady_next_driver rfl failing
  apply steady_bind
  exact steady_assign (untouched rfl) (fresh uninitialized)

/-- After `esp_wifi_stop` the mode is stopped, whatever its result. -/
theorem stopForMode_steady {error : EspErr}
    (idle : board.link.executionTask = false)
    (off : board.link.wifiStarted = false → board.link.wifiMode = .stopped)
    (rest : ∀ error, post error
      ((board.assign (.wifiMode .stopped)).assign (.wifiStarted false))) :
    Steady reliable (stopForMode error) board post := by
  apply steady_bind
  apply steady_look
  split
  · apply steady_bind
    refine steady_assign (fun _ => idle) ?_
    apply steady_bind
    refine steady_driver (fun _ => idle) ?_
    intro stopError
    apply steady_bind
    exact steady_assign (fun _ => idle) (rest _)
  · rename_i up
    have stopped := eq_false_of_ne_true up
    have same : (board.assign (.wifiMode .stopped)).assign (.wifiStarted false) =
        board := by
      rw [← off stopped, ← stopped]
      rfl
    rw [← same]
    exact rest error

theorem startMode_steady (actual : mode ≠ .stopped)
    (consistent : Consistent board)
    (refused : board.link.executionTask = true ∨
      mode = .sta ∧ board.link.station.configured = false →
      post .invalidState board)
    (rest : ∀ error after, Started reliable mode error after → post error after) :
    Steady reliable (startMode mode) board post := by
  apply steady_bind
  apply steady_look
  split
  · rename_i busy
    rw [Bool.and_eq_true] at busy
    exact refused (.inl busy.1)
  rename_i free
  apply steady_bind
  apply steady_look
  split
  · rename_i unconfigured
    exact refused (.inr unconfigured)
  rename_i configured
  have idle : board.link.executionTask = false := by
    simpa [consistent.resumed] using free
  have off : board.link.wifiStarted = false → board.link.wifiMode = .stopped := by
    intro stopped
    by_contra running
    rw [consistent.started.mpr running] at stopped
    cases stopped
  -- The rest from the moment at which Wi-Fi is initialised.
  have proceed : ∀ middle : Board, Down mode
      (((middle.serving false 0 false).assign (.wifiMode .stopped)).assign
        (.wifiStarted false)) →
      (middle.link.wifiStarted = false → middle.link.wifiMode = .stopped) →
      Steady reliable (do
        assign (.executionWifiPause true)
        let error ← stopForMode (← stopHttp)
        if error ≠ .ok then
          assign (.executionWifiPause false)
          return error
        else
          startStopped mode) middle post := by
    intro middle down off
    have idle : middle.link.executionTask = false := down.idle
    apply steady_bind
    apply steady_assign (untouched rfl)
    apply steady_bind
    apply stopHttp_steady
    intro error port
    apply steady_bind
    refine stopForMode_steady idle off ?_
    intro error
    split
    · rename_i failed
      apply steady_bind
      apply steady_assign (untouched rfl)
      have last : Down mode (((((middle.assign (.executionWifiPause true)).serving
          false port false).assign (.wifiMode .stopped)).assign
          (.wifiStarted false)).assign (.executionWifiPause false)) :=
        { down with }
      exact rest error _ ⟨last.settled rfl, .inr rfl, fun ok => absurd ok failed⟩
    · exact startStopped_steady actual { down with } rest
  have unused := consistent.unused
  have chosen : mode = .sta → board.link.station.configured = true := by
    intro sta
    by_contra missing
    exact configured ⟨sta, eq_false_of_ne_true missing⟩
  apply steady_next
  apply initializeWifi_steady
  · intro initialized
    exact proceed board ⟨idle, rfl, rfl, rfl, rfl, initialized, chosen, unused⟩ off
  · intro uninitialized error failed
    rw [if_neg failed]
    have stopped : board.link.wifiMode = .stopped := by
      by_contra running
      rw [consistent.initialized running] at uninitialized
      cases uninitialized
    refine rest error board ⟨?_, .inr stopped, fun ok => absurd ok failed⟩
    exact { consistent with
      configured := by simp [stopped]
      attended := by simp [stopped] }
  · intro uninitialized
    exact proceed (board.assign (.wifiInitialized true))
      ⟨idle, rfl, rfl, rfl, rfl, rfl, chosen, unused⟩ off

end Typxen.WifiLink
