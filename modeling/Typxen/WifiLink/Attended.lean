import Typxen.WifiLink.Operations

/-! # Runs of the link

What holds in the runs in which one operation is under way at a time: the
variables agree, a job keeps the radio as it is, and a station that has lost
its address is being looked after. -/

namespace Typxen.WifiLink

open Interaction Threads Transition

/-- Where it is `reliable`, the driver takes every connection request, every
recovery task is created, and no such task wakes to a stranded station. -/
abbrev SerialRun (reliable : Bool) (before : State wifiCalls Role Board)
    (labels : List (Label wifiCalls Role))
    (after : State wifiCalls Role Board) : Prop :=
  Run (Turn (rules reliable) (linkDesign reliable)) before labels after

abbrev AllRest (state : State wifiCalls Role Board) : Prop :=
  ∀ slot process, state.processes slot = some process →
    process.underWay (rules false) = false

theorem boot_settled (reliable : Bool) (credentials : Credentials)
    (nvs : NvsKey → Option (List UInt8)) :
    Settled reliable (boot credentials nvs) where
  resumed := rfl
  locked := fun running => by cases running
  announced := fun on => by cases on
  served := fun on => by cases on
  started := iff_of_false (by simp [boot, bootLink]) (by simp [boot, bootLink])
  initialized := fun running => absurd rfl running
  unused := rfl
  configured := fun sta => by cases sta
  attended := fun _ sta => by cases sta

theorem obligingAnswer_link (reliable : Bool) (request : WifiCall)
    (before : Board) :
    linkEnvironment reliable request before (obligingAnswer request before).1
      (obligingAnswer request before).2 := by
  refine ⟨obligingAnswer_answers request before, fun _ => ?_⟩
  cases request with
  | wifiConnect => rfl
  | createTask task => cases task <;> first | rfl | trivial
  | _ => trivial

theorem obliging_turns (reliable : Bool) (board : Board) {role : Role}
    {program : Wifi Unit} (begins : Begins role program)
    (plain : (program.run obligingAnswer board).1.all
      (fun event => (created event).isNone && !rests event.call) = true) :
    SerialRun reliable (quiet board)
      (.begin 0 role :: ((program.run obligingAnswer board).1.map
        (.call 0 role) ++ [.finish 0 role]))
      (quiet (program.run obligingAnswer board).2.2) := by
  have execution : Program.Exec (linkDesign reliable).environment program board
      (program.run obligingAnswer board).1
      (program.run obligingAnswer board).2.1
      (program.run obligingAnswer board).2.2 := by
    apply (Program.exec_run obligingAnswer program board).weaken
    intro request before answer after same
    have answered := obligingAnswer_link reliable request before
    rw [show obligingAnswer request before = (answer, after) from same]
      at answered
    exact answered
  have both := List.all_eq_true.mp plain
  apply Exec.turns execution
  · constructor
    · intro slot process there
      cases there
    · exact begins
  · intro event member
    have holds := both event member
    simp only [Bool.and_eq_true] at holds
    exact Option.isNone_iff_eq_none.mp holds.1
  · intro event member
    have holds := both event member
    simp only [Bool.and_eq_true, Bool.not_eq_true'] at holds
    exact holds.2

theorem allRest_quiet (board : Board) : AllRest (quiet board) := by
  intro slot process there
  cases there

section Runs

variable {reliable : Bool} {credentials : Credentials}
  {nvs : NvsKey → Option (List UInt8)} {labels : List (Label wifiCalls Role)}
  {after : State wifiCalls Role Board}

theorem serial_cooperates
    (run : SerialRun reliable (quiet (boot credentials nvs)) labels after) :
    Cooperates (rules reliable) (linkDesign reliable) after :=
  run_cooperates (link_cooperative reliable) run
    (boot_settled reliable credentials nvs)

theorem serial_settled
    (run : SerialRun reliable (quiet (boot credentials nvs)) labels after)
    (rest : AllRest after) : Settled reliable after.shared :=
  (serial_cooperates run).idle rest

/-- Whatever fails: whenever all rest, mDNS is announced only for a server that
runs, the server runs only where Wi-Fi is started, which is where there is a
mode, and a station is configured. -/
theorem serial_consistent
    (run : SerialRun false (quiet (boot credentials nvs)) labels after)
    (rest : AllRest after) :
    Consistent after.shared ∧ (after.shared.link.wifiMode = .sta →
      after.shared.link.station.configured = true) :=
  have settled := serial_settled run rest
  ⟨settled.toConsistent, settled.configured⟩

theorem serial_consistent_started : ∃ labels after,
    SerialRun false (quiet savedHotspot) labels after ∧
      after.shared.link.wifiMode = .sta ∧ Consistent after.shared ∧
      (after.shared.link.wifiMode = .sta →
        after.shared.link.station.configured = true) := by
  have run := obliging_turns false savedHotspot (.console .startStation)
    (by decide +kernel)
  exact ⟨_, _, run, by decide +kernel,
    serial_consistent run (allRest_quiet _)⟩

/-- While a job has its task nobody touches the mode or the radio. -/
theorem serial_radio {here : State wifiCalls Role Board} {slot : Nat}
    {role : Role} {event : Interaction.Event wifiCalls}
    (run : SerialRun false (quiet (boot credentials nvs)) labels here)
    (turn : Turn (rules false) (linkDesign false) here
      (.call slot role event) after)
    (touches : radio event.call = true) :
    here.shared.link.executionTask = false := by
  have moves : rests event.call = false := by
    cases resting : rests event.call with
    | false => rfl
    | true =>
        unfold rests at resting
        split at resting
        · rename_i same
          rw [same] at touches
          cases touches
        · rename_i same
          rw [same] at touches
          cases touches
        · cases resting
  exact turn.admitted (serial_cooperates run) moves touches

theorem assign_turn {update : Update} {board : Board}
    {next : Unit → Wifi Unit} :
    Turn (rules false) (linkDesign false)
      (only board 0 ⟨.console, false, .ask (.assign update) next⟩)
      (.call 0 .console ⟨.assign update, ()⟩)
      (only (board.assign update) 0 ⟨.console, false, next ()⟩) := by
  have alone : Alone (linkDesign false)
      (only board 0 ⟨.console, false, .ask (.assign update) next⟩)
      (.call 0 .console ⟨.assign update, ()⟩)
      (only (board.assign update) 0 ⟨.console, false, next ()⟩) :=
    only_call ⟨rfl, fun _ => trivial⟩ rfl
  apply alone.turn
  intro slot role event called
  cases called
  rfl

theorem serial_radio_stop : ∃ labels here slot role event after,
    SerialRun false (quiet savedHotspot) labels here ∧
      Turn (rules false) (linkDesign false) here (.call slot role event) after ∧
      radio event.call = true ∧ here.shared.link.executionTask = false := by
  have begins : Turn (rules false) (linkDesign false) (quiet savedHotspot)
      (.begin 0 .console)
      (only savedHotspot 0 ⟨.console, true, Command.stop.perform⟩) := by
    apply (only_begin _).turn
    · intro slot role event called
      cases called
    · exact ⟨by simp, .console .stop⟩
  have asked : ∀ {next : Bool → Wifi Unit},
      Turn (rules false) (linkDesign false)
        (only savedHotspot 0 ⟨.console, true, .ask .jobLocked next⟩)
        (.call 0 .console ⟨.jobLocked, false⟩)
        (only savedHotspot 0 ⟨.console, false, next false⟩) := by
    intro next
    have answered : linkEnvironment false .jobLocked savedHotspot false
        savedHotspot := by
      refine ⟨⟨?_, rfl⟩, fun _ => trivial⟩
      intro active
      cases active
    apply (only_call answered rfl).turn
    intro slot role event called
    cases called
    rfl
  have run := Run.cons begins (.cons asked (.cons assign_turn (.nil _)))
  exact ⟨_, _, _, _, _, _, run, assign_turn, rfl,
    serial_radio run assign_turn rfl⟩

theorem linkDesign_step {before : State wifiCalls Role Board}
    {label : Label wifiCalls Role}
    (step : Step (linkDesign reliable) before label after) :
    Step wifiDesign before label after := by
  cases step with
  | begin free begins => exact .begin free begins
  | call here asks answered creates =>
      exact .call here asks answered.1 creates
  | create here asks answered creates apart free =>
      exact .create here asks answered.1 creates apart free
  | finish here ended => exact .finish here ended

theorem SerialRun.run {before : State wifiCalls Role Board}
    (run : SerialRun reliable before labels after) :
    Run (Step wifiDesign) before labels after :=
  run.mono (fun _ => True)
    (fun _ _ _ _ turn => linkDesign_step turn.taken) fun _ _ => trivial

/-- A station without an address is never left to itself: the driver owes an
event, or a recovery task is there. -/
theorem station_attended
    (run : SerialRun true (quiet (boot credentials nvs)) labels after)
    (rest : AllRest after) (sta : after.shared.link.wifiMode = .sta)
    (noAddress : after.shared.link.activeIp = 0) :
    after.shared.awaiting = true ∨ ∃ slot process,
      after.processes slot = some process ∧
        Owes (Guard.pending .fallback).duty process.program := by
  have settled := serial_settled run rest
  rcases settled.attended rfl sta noAddress with awaited | pending
  · exact .inl awaited
  · exact .inr ((run_guarded (SerialRun.run run) (.pending .fallback)).owed pending)

theorem station_attended_started : ∃ labels after,
    SerialRun true (quiet savedHotspot) labels after ∧
      after.shared.link.wifiMode = .sta ∧ after.shared.link.activeIp = 0 ∧
      (after.shared.awaiting = true ∨ ∃ slot process,
        after.processes slot = some process ∧
          Owes (Guard.pending .fallback).duty process.program) := by
  have run := obliging_turns true savedHotspot (.console .startStation)
    (by decide +kernel)
  exact ⟨_, _, run, by decide +kernel, by decide +kernel,
    station_attended run (allRest_quiet _) (by decide +kernel)
      (by decide +kernel)⟩

end Runs

end Typxen.WifiLink
