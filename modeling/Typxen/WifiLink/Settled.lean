import Typxen.Foundation.Cooperation
import Typxen.WifiLink.Flags

/-! # One operation at a time

An operation is under way from its first access to its last, except while it
waits. In a run in which none begins while another is under way, the variables
agree with each other whenever all of them rest. -/

namespace Typxen.WifiLink

open Interaction Threads

/-! ## The rules -/

/-- The calls during which the others go on: the delays and the job. -/
def rests : WifiCall → Bool
  | .delay _ => true
  | .runSchedule => true
  | _ => false

/-- The calls that change the mode or the state of the radio. -/
def radio : WifiCall → Bool
  | .assign (.wifiMode _) => true
  | .assign (.wifiStarted _) => true
  | .driver (.setMode _) => true
  | .driver (.setConfig _) => true
  | .driver .wifiStop => true
  | .wifiStart => true
  | _ => false

structure Consistent (board : Board) : Prop where
  resumed : board.link.executionWifiPause = false
  locked : board.link.executionTask = true → board.jobActive = true
  announced : board.link.mdnsStarted = true → board.link.http = true
  served : board.link.http = true → board.link.wifiStarted = true
  started : board.link.wifiStarted = true ↔ board.link.wifiMode ≠ .stopped
  initialized : board.link.wifiMode ≠ .stopped →
    board.link.wifiInitialized = true
  unused : board.link.postJobStationReconnect = false

/-- `reliable` adds that a station without an address is being looked after. -/
structure Settled (reliable : Bool) (board : Board) : Prop
    extends Consistent board where
  configured : board.link.wifiMode = .sta →
    board.link.station.configured = true
  attended : reliable = true → board.link.wifiMode = .sta →
    board.link.activeIp = 0 →
    board.awaiting = true ∨ board.link.fallbackTaskPending = true

/-- A station without an address, no job, and no event to come. -/
structure Stranded (board : Board) : Prop where
  noJob : board.link.executionTask = false
  station : board.link.wifiMode = .sta
  noAddress : board.link.activeIp = 0
  silent : board.awaiting = false

def Dependable : Interaction.Event wifiCalls → Prop
  | ⟨.wifiConnect, error⟩ => error = .ok
  | ⟨.createTask .fallback, created⟩ => created = true
  | _ => True

def linkEnvironment (reliable : Bool) : Environment wifiCalls Board :=
  fun request before answer after =>
    wifiEnvironment request before answer after ∧
      (reliable = true → Dependable ⟨request, answer⟩)

def linkDesign (reliable : Bool) : Design wifiCalls Role Board :=
  { wifiDesign with environment := linkEnvironment reliable }

/-- The radio is left alone while there is a job's task. Where it is
`reliable`, no recovery task wakes to find its job gone and the station
stranded. -/
def rules (reliable : Bool) : Rules wifiCalls Board where
  rests := rests
  invariant := Settled reliable
  admits request board :=
    radio request = true → board.link.executionTask = false
  resumes request board := reliable = true →
    request = .delay activeJobStaRetryDelayMs → ¬Stranded board

section Calls

variable {reliable : Bool} {α β : Type} {board : Board}

abbrev Steady (reliable : Bool) (program : Wifi α) (board : Board)
    (post : α → Board → Prop) : Prop :=
  Safe (rules reliable) (linkEnvironment reliable) program board post

theorem steady_bind {program : Wifi α} {continuation : α → Wifi β}
    {post : β → Board → Prop}
    (steady : Steady reliable program board fun value middle =>
      Steady reliable (continuation value) middle post) :
    Steady reliable (program >>= continuation) board post :=
  Safe.bind steady fun _ _ rest => rest

theorem steady_call {request : WifiCall}
    {post : WifiCall.Answer request → Board → Prop}
    (moves : rests request = false)
    (admitted : radio request = true → board.link.executionTask = false)
    (rest : ∀ answer after, linkEnvironment reliable request board answer after →
      post answer after) :
    Steady reliable (Wifi.call request) board post := by
  have moving : (rules reliable).rests request = false := moves
  exact (safe_ask moving).mpr ⟨admitted, rest⟩

theorem steady_plain {request : WifiCall}
    {post : WifiCall.Answer request → Board → Prop}
    (moves : rests request = false) (plain : radio request = false)
    (rest : ∀ answer after, linkEnvironment reliable request board answer after →
      post answer after) :
    Steady reliable (Wifi.call request) board post := by
  apply steady_call moves _ rest
  intro touches
  rw [plain] at touches
  cases touches

theorem steady_look {post : Link → Board → Prop}
    (rest : post board.link board) : Steady reliable look board post := by
  apply steady_plain rfl rfl
  intro link after answered
  rw [answered.1.1, answered.1.2]
  exact rest

theorem steady_assign {update : Update} {post : Unit → Board → Prop}
    (admitted : radio (.assign update) = true →
      board.link.executionTask = false)
    (rest : post () (board.assign update)) :
    Steady reliable (assign update) board post := by
  apply steady_call rfl admitted
  intro done after answered
  rw [show after = board.assign update from answered.1]
  exact rest

theorem steady_driver {request : DriverCall} {post : EspErr → Board → Prop}
    (admitted : radio (.driver request) = true →
      board.link.executionTask = false)
    (rest : ∀ error, post error board) :
    Steady reliable (driver request) board post := by
  apply steady_call rfl admitted
  intro error after answered
  rw [show after = board from answered.1]
  exact rest error

theorem untouched {request : WifiCall} {idle : Prop}
    (plain : radio request = false) : radio request = true → idle := by
  intro touches
  rw [plain] at touches
  cases touches

theorem steady_next {first second : Wifi EspErr}
    {post : EspErr → Board → Prop}
    (steady : Steady reliable first board fun error middle =>
      if error = .ok then Steady reliable second middle post
      else post error middle) :
    Steady reliable (next first second) board post := by
  apply Safe.bind steady
  intro error middle rest
  by_cases ok : error = .ok
  · rw [if_pos ok] at rest ⊢
    exact rest
  · rw [if_neg ok] at rest ⊢
    exact rest

theorem steady_next_driver {request : DriverCall} {second : Wifi EspErr}
    {post : EspErr → Board → Prop} (plain : radio (.driver request) = false)
    (failed : ∀ error, error ≠ .ok → post error board)
    (rest : Steady reliable second board post) :
    Steady reliable (next (driver request) second) board post := by
  apply steady_next
  apply steady_driver (untouched plain)
  intro error
  by_cases ok : error = .ok
  · rw [if_pos ok]
    exact rest
  · rw [if_neg ok]
    exact failed error ok

end Calls

/-! ## The server -/

def Board.serving (board : Board) (http : Bool) (port : UInt16)
    (mdns : Bool) : Board :=
  board.withLink { board.link with
    http := http, httpPort := port, mdnsStarted := mdns }

section Server

variable {reliable : Bool} {board : Board}

theorem serving_self (board : Board) :
    board.serving board.link.http board.link.httpPort board.link.mdnsStarted =
      board := rfl

theorem stopMdns_steady {post : Unit → Board → Prop}
    (rest : post () (board.serving board.link.http board.link.httpPort false)) :
    Steady reliable stopMdns board post := by
  apply steady_bind
  apply steady_look
  split
  · apply steady_bind
    apply steady_plain rfl rfl
    intro freed after answered
    rw [show after = board from answered.1]
    exact steady_assign (untouched rfl) rest
  · rename_i silent
    rw [← eq_false_of_ne_true silent, serving_self] at rest
    exact rest

theorem announce_steady {post : EspErr → Board → Prop}
    (rest : ∀ error, post error board) : Steady reliable announce board post := by
  have named {request : Link → DriverCall} {second : Wifi EspErr}
      (plain : ∀ link, radio (.driver (request link)) = false)
      (later : Steady reliable second board post) :
      Steady reliable (next (do driver (request (← look))) second) board post := by
    apply steady_next
    apply steady_bind
    apply steady_look
    apply steady_driver (untouched (plain _))
    intro error
    split
    · exact later
    · exact rest error
  apply steady_next_driver rfl (fun error _ => rest error)
  apply named (fun _ => rfl)
  apply named (fun _ => rfl)
  apply steady_bind
  apply steady_look
  exact steady_driver (untouched rfl) rest

theorem startMdns_steady {post : Unit → Board → Prop}
    (rest : ∀ mdns, (mdns = true → board.link.mdnsStarted = true ∨
      board.link.http = true) →
      post () (board.serving board.link.http board.link.httpPort mdns)) :
    Steady reliable startMdns board post := by
  have unchanged : post () board := by
    rw [← serving_self board]
    exact rest _ .inl
  apply steady_bind
  apply steady_look
  split
  · exact unchanged
  rename_i starts
  split
  · exact unchanged
  apply steady_bind
  apply announce_steady
  intro error
  split
  · apply steady_plain rfl rfl
    intro freed after answered
    rw [show after = board from answered.1]
    exact unchanged
  · have available : board.link.http = true := by
      by_contra missing
      simp [typxDiscoveryShouldStart, missing] at starts
    exact steady_assign (untouched rfl) (rest true fun _ => .inr available)

theorem registerUris_steady {post : EspErr → Board → Prop}
    (rest : ∀ error, post error board) (remaining : List (String × HttpMethod)) :
    Steady reliable (registerUris remaining) board post := by
  induction remaining with
  | nil => exact rest .ok
  | cons uri remaining induction =>
      exact steady_next_driver rfl (fun error _ => rest error) induction

theorem startHttp_steady {post : EspErr → Board → Prop}
    (rest : ∀ error http port, (board.link.http = true → http = true) →
      (error = .ok → http = true) →
      post error (board.serving http port board.link.mdnsStarted)) :
    Steady reliable startHttp board post := by
  apply steady_bind
  apply steady_look
  split
  · rename_i up
    exact rest .ok board.link.http board.link.httpPort id fun _ => up
  rename_i down
  have stopped : board.link.http = false := by simpa using down
  apply steady_bind
  apply steady_assign (untouched rfl)
  apply steady_next
  apply steady_plain rfl rfl
  intro error after answered
  have whole := answered.1
  by_cases ok : error = .ok
  · rw [if_pos ok]
    change after = if error = .ok then _ else _ at whole
    rw [if_pos ok] at whole
    rw [whole]
    apply steady_bind
    apply registerUris_steady
    intro error
    split
    · rename_i failed
      apply steady_bind
      apply steady_driver (untouched rfl)
      intro stopError
      apply steady_bind
      apply steady_assign (untouched rfl)
      apply rest error false 80
      · rw [stopped]
        exact id
      · exact fun fine => absurd fine failed
    · exact rest .ok true 80 (fun _ => rfl) fun _ => rfl
  · rw [if_neg ok]
    change after = if error = .ok then _ else _ at whole
    rw [if_neg ok] at whole
    rw [whole]
    have same : board.assign (.httpPort 80) =
        board.serving false 80 board.link.mdnsStarted := by
      rw [← stopped]
      rfl
    rw [same]
    apply rest
    · rw [stopped]
      exact id
    · exact fun fine => absurd fine ok

theorem stopHttp_steady {post : EspErr → Board → Prop}
    (rest : ∀ error port, post error (board.serving false port false)) :
    Steady reliable stopHttp board post := by
  apply steady_bind
  apply stopMdns_steady
  apply steady_bind
  apply steady_look
  split
  · rename_i down
    have stopped : board.link.http = false := by
      simpa [Board.serving, Board.withLink] using down
    rw [stopped]
    exact rest .ok _
  · apply steady_bind
    apply steady_assign (untouched rfl)
    exact steady_driver (untouched rfl) fun error => rest error _

theorem Settled.serving (settled : Settled reliable board) {http mdns : Bool}
    (announced : mdns = true → http = true)
    (served : http = true → board.link.wifiStarted = true) (port : UInt16) :
    Settled reliable (board.serving http port mdns) :=
  { settled with announced := announced, served := served }

theorem serveStation_steady (settled : Settled reliable board)
    {post : Unit → Board → Prop}
    (rest : ∀ after, Settled reliable after → post () after) :
    Steady reliable serveStation board post := by
  apply steady_bind
  apply steady_look
  split
  · rename_i up
    have started : board.link.wifiStarted = true := by
      simp only [Bool.and_eq_true] at up
      exact up.1.2
    apply steady_bind
    apply startHttp_steady
    intro error http port kept _
    have served : Settled reliable
        (board.serving http port board.link.mdnsStarted) :=
      settled.serving (fun on => kept (settled.announced on))
        (fun _ => started) port
    split
    · apply startMdns_steady
      intro mdns available
      apply rest
      apply served.serving
      · intro on
        rcases available on with already | up
        · exact served.announced already
        · exact up
      · exact fun _ => started
    · exact rest _ served
  · exact rest _ settled

end Server

end Typxen.WifiLink
