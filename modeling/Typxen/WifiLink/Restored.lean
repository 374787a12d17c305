import Typxen.Foundation.Ownership
import Typxen.WifiLink.Credentials
import Typxen.WifiLink.Footprints

/-! # What a restart finds

Only the console changes the saved hotspot, in the flash and in `s_station`,
and it does so one key at a time. Whatever the others do meanwhile and wherever
the power is lost, a restart comes up with the station in use unless a key was
changed since `s_station` was last assigned. -/

namespace Typxen.WifiLink

open Interaction Threads Transition CString BoardSetup

/-! ## The part that the console owns -/

/-- `torn` while a stored key has changed since `s_station` was assigned. -/
structure Store where
  nvs : NvsKey → Option (List UInt8)
  station : StationConfig
  torn : Bool

def store (state : Board × Bool) : Store :=
  ⟨state.1.nvs, state.1.link.station, state.2⟩

def observeTorn (torn : Bool) : Interaction.Event wifiCalls → Bool
  | ⟨.nvsSetStr _ _, .ok⟩ => true
  | ⟨.nvsEraseKey _, .ok⟩ => true
  | ⟨.assign (.station _), _⟩ => false
  | _ => torn

def torn (labels : List (Label wifiCalls Role)) : Bool :=
  labels.foldl (observed observeTorn) false

def Succeeds : Interaction.Event wifiCalls → Prop
  | ⟨.nvsOpen, error⟩ => error = .ok
  | ⟨.nvsSetStr _ _, error⟩ => error = .ok
  | ⟨.nvsEraseKey _, error⟩ => error = .ok ∨ error = .nvsNotFound
  | ⟨.nvsCommit, error⟩ => error = .ok
  | _ => True

/-- Where it is `faultless`, no call of the flash fails. -/
def storingDesign (faultless : Bool) : Design wifiCalls Role Board :=
  { wifiDesign with
    environment := fun request before answer after =>
      wifiEnvironment request before answer after ∧
        (faultless = true → Succeeds ⟨request, answer⟩) }

abbrev storingEnvironment (faultless : Bool) :
    Environment wifiCalls (Board × Bool) :=
  ((storingDesign faultless).observing observeTorn).environment

def Store.after (part : Store) : Interaction.Event wifiCalls → Store
  | ⟨.nvsSetStr key text, .ok⟩ =>
      { part with nvs := Function.update part.nvs key (some text), torn := true }
  | ⟨.nvsEraseKey key, .ok⟩ =>
      { part with nvs := Function.update part.nvs key none, torn := true }
  | ⟨.assign (.station config), _⟩ =>
      { part with station := config, torn := false }
  | _ => part

/-- A restart comes up with the station in use. -/
def Restorable (part : Store) : Prop :=
  part.torn = false → storedStation part.nvs = part.station

def Untorn (faultless : Bool) (part : Store) : Prop :=
  Restorable part ∧ (faultless = true → part.torn = false)

section Calls

variable {faultless : Bool} {request : WifiCall} {before after : Board × Bool}
  {answer : WifiCall.Answer request}

theorem store_after
    (answered : storingEnvironment faultless request before answer after) :
    store after = (store before).after ⟨request, answer⟩ := by
  rcases answered with ⟨⟨answered, _⟩, observed⟩
  rcases after with ⟨board, torn⟩
  rw [show torn = _ from observed]
  cases request with
  | nvsSetStr key text =>
      rw [show board = _ from answered]
      cases answer <;> rfl
  | nvsEraseKey key =>
      rw [show board = _ from answered.2]
      cases answer <;> rfl
  | assign update =>
      rw [show board = _ from answered]
      cases update <;> rfl
  | look => rw [show board = before.1 from answered.2]; rfl
  | jobLocked => rw [show board = before.1 from answered.2]; rfl
  | prepareStart => rw [show board = _ from answered.2]; rfl
  | startFailed =>
      rcases answered with ⟨taken, same⟩
      rw [show board = _ from same]
      rfl
  | httpdStart =>
      rw [show board = _ from answered]
      split <;> rfl
  | _ =>
      rw [show board = _ from answered]
      rfl

theorem foreign_of_other (other : storing request = false) :
    Foreign (storingEnvironment faultless) store request := by
  intro before answer after answered
  rw [store_after answered]
  cases request with
  | assign update =>
      cases update with
      | station config => cases other
      | _ => rfl
  | nvsSetStr key text => cases other
  | nvsEraseKey key => cases other
  | _ => rfl

theorem foreign_admits :
    Admits (Foreign (storingEnvironment faultless) store) where
  ordinary := by
    intro request usual
    apply foreign_of_other
    cases request with
    | assign update =>
        cases update with
        | station config => cases usual
        | _ => rfl
    | nvsSetStr key text => cases usual
    | nvsEraseKey key => cases usual
    | _ => rfl
  raising := by
    intro guard
    apply foreign_of_other
    cases guard with
    | executionWifiPause => rfl
    | pending task => cases task <;> rfl

end Calls

/-! ## The commands -/

section Commands

variable {faultless : Bool} {α : Type} {part : Store}

abbrev Guards (faultless : Bool) (program : Wifi α) (part : Store)
    (post : α → Store → Prop) : Prop :=
  Keeps (storingEnvironment faultless) store Restorable program part post

theorem next_guards {first second : Wifi EspErr}
    {post : EspErr → Store → Prop}
    (guards : Guards faultless first part fun error middle =>
      (error = .ok → Guards faultless second middle post) ∧
        (error ≠ .ok → post error middle)) :
    Guards faultless (next first second) part post := by
  apply Keeps.bind
  apply guards.mono
  intro error middle both
  split
  · rename_i succeeded
    exact both.1 succeeded
  · rename_i failed
    exact both.2 failed

theorem other_guards {request : WifiCall}
    {post : WifiCall.Answer request → Store → Prop}
    (other : storing request = false) (now : Restorable part)
    (rest : ∀ answer,
      (faultless = true → Succeeds ⟨request, answer⟩) → post answer part) :
    Guards faultless (Wifi.call request) part post := by
  apply keeps_call now
  intro before answer after same answered
  have kept := foreign_of_other other before answer after answered
  rw [kept, same]
  exact rest answer answered.1.2

theorem storing_guards {request : WifiCall}
    {post : WifiCall.Answer request → Store → Prop} (now : Restorable part)
    (rest : ∀ answer,
      (faultless = true → Succeeds ⟨request, answer⟩) →
      post answer (part.after ⟨request, answer⟩)) :
    Guards faultless (Wifi.call request) part post := by
  apply keeps_call now
  intro before answer after same answered
  rw [store_after answered, same]
  exact rest answer answered.1.2

theorem restorable_of_torn (torn : part.torn = true) : Restorable part := by
  intro untorn
  rw [torn] at untorn
  cases untorn

theorem untorn_of_failure {error : EspErr} (failed : error ≠ .ok)
    (succeeds : faultless = true → error = .ok) (now : Restorable part) :
    Untorn faultless part :=
  ⟨now, fun reliable => absurd (succeeds reliable) failed⟩

theorem storedStation_configured {nvs : NvsKey → Option (List UInt8)}
    {ssid password : List UInt8}
    (valid : typxWifiStationCredentialsValid (some ssid) (some password) = true)
    (first : nvs .staSsid = some (string ssid))
    (second : nvs .staPass = some (string password)) :
    storedStation nvs = ⟨string ssid, string password, true⟩ := by
  have lengths (text : List UInt8) :
      stringLength (some (string text)) = stringLength (some text) := by
    simp [stringLength, string_string]
  have same : typxWifiStationCredentialsValid (some (string ssid))
      (some (string password)) = true := by
    unfold typxWifiStationCredentialsValid
    rw [lengths, lengths]
    exact valid
  unfold storedStation
  rw [first, second]
  exact if_pos same

theorem setStr_failed {key : NvsKey} {text : List UInt8} {error : EspErr}
    (failed : error ≠ .ok) : part.after ⟨.nvsSetStr key text, error⟩ = part := by
  cases error with
  | ok => exact absurd rfl failed
  | _ => rfl

theorem configureStation_guards (untorn : Untorn faultless part)
    (ssid password : List UInt8) :
    Guards faultless (typxWifiServiceConfigureStation ssid password) part
      fun _ => Untorn faultless := by
  apply Keeps.bind
  apply other_guards rfl untorn.1
  intro locked _
  split
  · exact untorn
  split
  · exact untorn
  rename_i valid
  have accepted : typxWifiStationCredentialsValid (some ssid) (some password) =
      true := by simpa using valid
  apply next_guards
  apply other_guards rfl untorn.1
  intro error succeeds
  refine ⟨fun _ => ?_, fun failed => untorn⟩
  apply next_guards
  apply storing_guards untorn.1
  intro error succeeds
  by_cases stored : error = .ok
  case neg =>
    refine ⟨fun ok => absurd ok stored, fun failed => ?_⟩
    rw [setStr_failed failed]
    exact untorn
  rw [stored]
  refine ⟨fun _ => ?_, fun failed => absurd rfl failed⟩
  apply next_guards
  apply storing_guards (restorable_of_torn rfl)
  intro error succeeds
  by_cases stored : error = .ok
  case neg =>
    refine ⟨fun ok => absurd ok stored, fun failed => ?_⟩
    apply untorn_of_failure failed succeeds
    apply restorable_of_torn
    cases error <;> rfl
  rw [stored]
  refine ⟨fun _ => ?_, fun failed => absurd rfl failed⟩
  apply next_guards
  apply other_guards rfl (restorable_of_torn rfl)
  intro error succeeds
  refine ⟨fun _ => ?_, fun failed => ?_⟩
  · apply Keeps.bind
    unfold setStation
    rw [typxWifiStationConfigSet, if_pos accepted]
    apply storing_guards (restorable_of_torn rfl)
    intro set _
    refine ⟨fun _ => ?_, fun _ => rfl⟩
    exact storedStation_configured accepted rfl rfl
  · exact untorn_of_failure failed succeeds (restorable_of_torn rfl)

structure Forgotten (key : NvsKey) (before after : Store) : Prop where
  restorable : Restorable after
  gone : after.nvs key = none
  others : ∀ other, before.nvs other = none → after.nvs other = none

/-- One key of `forget`: afterwards it is gone, or nothing has changed. -/
theorem forgetKey_guards (key : NvsKey) (now : Restorable part)
    {post : EspErr → Store → Prop}
    (gone : ∀ after, Forgotten key part after → post .ok after)
    (kept : ∀ error, error ≠ .ok → (faultless = true → error = .ok) →
      post error part) :
    Guards faultless (forgetKey key) part post := by
  have erased : Guards faultless (Wifi.call (.nvsEraseKey key)) part
      fun error after => post (if error = .nvsNotFound then .ok else error)
        after := by
    apply keeps_call now
    intro before error after same answered
    have absent := answered.1.1.1
    have succeeds := answered.1.2
    rw [store_after answered, same]
    cases error with
    | ok =>
        apply gone
        refine ⟨restorable_of_torn rfl, Function.update_self .., ?_⟩
        intro other missing
        by_cases erased : other = key
        · rw [erased]
          exact Function.update_self ..
        · change Function.update part.nvs key none other = none
          rw [Function.update_of_ne erased]
          exact missing
    | nvsNotFound =>
        have missing : part.nvs key = none := by
          rw [← same]
          exact absent rfl
        exact gone part ⟨now, missing, fun _ => id⟩
    | _ =>
        apply kept
        · simp
        · intro reliable
          simpa [Succeeds] using succeeds reliable
  apply Keeps.bind
  exact erased

theorem given_guards {error : EspErr} {rest : Wifi EspErr}
    {post : EspErr → Store → Prop}
    (succeeded : error = .ok → Guards faultless rest part post)
    (failed : error ≠ .ok → post error part) :
    Guards faultless (next (return error) rest) part post := by
  apply next_guards
  exact ⟨succeeded, failed⟩

theorem forgotten_guards {rest : Wifi EspErr} (now : Restorable part)
    (none : part.nvs .staSsid = none)
    (untouched : Within (Foreign (storingEnvironment faultless) store) rest) :
    Guards faultless
      (next (Wifi.call .nvsCommit) (do
        let link ← look
        assign (.station typxWifiStationConfigClear)
        if link.wifiMode = .sta then rest else return .ok)) part
      fun _ => Untorn faultless := by
  apply next_guards
  apply other_guards rfl now
  intro error succeeds
  refine ⟨fun _ => ?_, fun failed => untorn_of_failure failed succeeds now⟩
  apply Keeps.bind
  apply other_guards rfl now
  intro link _
  apply Keeps.bind
  apply storing_guards now
  intro cleared _
  have untorn : Untorn faultless
      { part with station := typxWifiStationConfigClear, torn := false } :=
    ⟨fun _ => storedStation_absent (.inl none), fun _ => rfl⟩
  split
  · exact foreign_keeps untouched untorn.1 fun _ => untorn
  · exact untorn

theorem forgetStation_guards (untorn : Untorn faultless part) :
    Guards faultless typxWifiServiceForgetStation part
      fun _ => Untorn faultless := by
  apply Keeps.bind
  apply other_guards rfl untorn.1
  intro locked _
  split
  · exact untorn
  apply Keeps.bind
  apply other_guards rfl untorn.1
  intro set _
  apply next_guards
  apply other_guards rfl untorn.1
  intro error _
  refine ⟨fun _ => ?_, fun _ => untorn⟩
  apply Keeps.bind
  apply forgetKey_guards .staSsid untorn.1
  · intro first ssidGone
    apply Keeps.bind
    apply forgetKey_guards .staPass ssidGone.restorable
    · intro second passwordGone
      apply given_guards
      · intro _
        apply given_guards
        · intro _
          exact forgotten_guards passwordGone.restorable
            (passwordGone.others _ ssidGone.gone)
            (typxWifiServiceStartAp_within foreign_admits)
        · exact fun failed => absurd rfl failed
      · exact fun failed => absurd rfl failed
    · intro error failed succeeds
      apply given_guards
      · intro _
        apply given_guards
        · exact fun ok => absurd ok failed
        · exact fun _ =>
            untorn_of_failure failed succeeds ssidGone.restorable
      · exact fun failed => absurd rfl failed
  · intro ssidError failed succeeds
    apply Keeps.bind
    have ends : ∀ (after : Store) (rest : Wifi EspErr), Restorable after →
        Guards faultless (next (return ssidError) rest) after
          fun _ => Untorn faultless := by
      intro after rest now
      apply given_guards
      · exact fun ok => absurd ok failed
      · exact fun _ => untorn_of_failure failed succeeds now
    apply forgetKey_guards .staPass untorn.1
    · intro second passwordGone
      exact ends second _ passwordGone.restorable
    · intro error _ _
      exact ends part _ untorn.1

theorem perform_guards (untorn : Untorn faultless part) (command : Command) :
    Guards faultless command.perform part fun _ => Untorn faultless := by
  have foreign : ∀ {program : Wifi EspErr},
      Within (Foreign (storingEnvironment faultless) store) program →
      Guards faultless program part fun _ => Untorn faultless := by
    intro program within
    exact foreign_keeps within untorn.1 fun _ => untorn
  have result : Guards faultless command.result part
      fun _ => Untorn faultless := by
    cases command with
    | start => exact foreign (typxWifiServiceStart_within foreign_admits)
    | startStation => exact foreign (startMode_within foreign_admits .sta)
    | startAp => exact foreign (typxWifiServiceStartAp_within foreign_admits)
    | stop => exact foreign (typxWifiServiceStop_within foreign_admits)
    | configureStation ssid password =>
        exact configureStation_guards untorn ssid password
    | forgetStation => exact forgetStation_guards untorn
  exact Keeps.bind (result.mono fun _ _ kept => kept)

end Commands

/-! ## Runs -/

theorem console_owner (faultless : Bool) :
    Owner ((storingDesign faultless).observing observeTorn) .console store
      Restorable (Untorn faultless) where
  alone processes program begins := begins.1
  uncreated := created_other (.inl rfl)
  begun := by
    intro processes program begins part untorn
    rcases begins.2 with command | _ | _
    exact perform_guards untorn command
  others := by
    intro processes other program begins apart
    cases begins.2 with
    | console command => exact absurd rfl apart
    | eventLoop real =>
        exact handleEvent_within foreign_admits (foreign_of_other rfl) _
    | httpServer => exact startHandler_calm.within foreign_admits
  created event other program creates := created_within foreign_admits creates
  implies part untorn := untorn.1

section Runs

variable {credentials : Credentials} {nvs : NvsKey → Option (List UInt8)}
  {labels : List (Label wifiCalls Role)} {after : State wifiCalls Role Board}

theorem run_guarded_store {faultless : Bool}
    (run : Run (Step (storingDesign faultless)) (quiet (boot credentials nvs))
      labels after)
    (loaded : credentials.station = storedStation nvs) :
    Owned ((storingDesign faultless).observing observeTorn) .console store
      Restorable (Untorn faultless) (State.beside after (torn labels)) := by
  have start : Untorn faultless (store (boot credentials nvs, false)) :=
    ⟨fun _ => loaded.symm, fun _ => rfl⟩
  exact run_owned (console_owner faultless) (run_observing run false) start

theorem storingDesign_step {faultless : Bool}
    {before after : State wifiCalls Role Board} {label : Label wifiCalls Role}
    (step : Step wifiDesign before label after)
    (succeeds : faultless = true → ∀ slot role event,
      label = .call slot role event → Succeeds event) :
    Step (storingDesign faultless) before label after := by
  cases step with
  | begin free begins => exact .begin free begins
  | call here asks answered creates =>
      exact .call here asks ⟨answered, fun reliable =>
        succeeds reliable _ _ _ rfl⟩ creates
  | create here asks answered creates apart free =>
      exact .create here asks ⟨answered, fun reliable =>
        succeeds reliable _ _ _ rfl⟩ creates apart free
  | finish here ended => exact .finish here ended

/-- At every moment a restart comes up with the station in use, if no stored key
has changed since it was assigned. -/
theorem run_restorable
    (run : Run (Step wifiDesign) (quiet (boot credentials nvs)) labels after)
    (loaded : credentials.station = storedStation nvs)
    (untorn : torn labels = false) :
    storedStation after.shared.nvs = after.shared.link.station := by
  have steps : Run (Step (storingDesign false)) (quiet (boot credentials nvs))
      labels after := by
    apply run.mono (fun _ => True)
    · intro before label after _ step
      apply storingDesign_step step
      intro impossible
      cases impossible
    · exact fun _ _ => trivial
  exact (run_guarded_store steps loaded).part_holds (console_owner false) untorn

/-- Where no call of the flash fails, no key is left changed by a command that
has ended: then a restart comes up with the station in use. -/
theorem idle_restorable
    (run : Run (Step wifiDesign) (quiet (boot credentials nvs)) labels after)
    (loaded : credentials.station = storedStation nvs)
    (succeed : ∀ slot role event, .call slot role event ∈ labels →
      Succeeds event)
    (idle : ∀ slot process, after.processes slot = some process →
      process.role ≠ .console) :
    storedStation after.shared.nvs = after.shared.link.station := by
  have steps : Run (Step (storingDesign true)) (quiet (boot credentials nvs))
      labels after := by
    apply run.mono (fun label => ∀ slot role event,
      label = .call slot role event → Succeeds event)
    · intro before label after succeeds step
      exact storingDesign_step step fun _ => succeeds
    · intro label member slot role event same
      rw [same] at member
      exact succeed slot role event member
  have untorn := (run_guarded_store steps loaded).idle idle
  exact untorn.1 (untorn.2 rfl)

end Runs

/-! ## When nothing fails -/

theorem obliging_succeeds {α : Type} (program : Wifi α) (board : Board) :
    ∀ event ∈ (program.run obligingAnswer board).1, Succeeds event := by
  induction program generalizing board with
  | done value =>
      intro event member
      cases member
  | ask request next induction =>
      intro event member
      rcases List.mem_cons.mp member with first | later
      · rw [first]
        cases request with
        | nvsEraseKey key => exact .inl rfl
        | nvsOpen => rfl
        | nvsSetStr key text => rfl
        | nvsCommit => rfl
        | _ => trivial
      · exact induction _ _ event later

def factoryCredentials : Credentials where
  station := typxWifiStationConfigClear
  apSsid := apSsid (Vector.replicate 6 0)
  apPassword := List.replicate 16 0x41
  mdnsHostname := typxDiscoveryHostname (Vector.replicate 6 0)

def configureHome : Command :=
  .configureStation [0x68, 0x6f, 0x6d, 0x65]
    [0x70, 0x61, 0x73, 0x73, 0x77, 0x6f, 0x72, 0x64]

def homeBoard : Board :=
  (configureHome.perform.run obligingAnswer
    (boot factoryCredentials fun _ => none)).2.2

def homeLabels : List (Label wifiCalls Role) :=
  .begin 0 .console :: ((configureHome.perform.run obligingAnswer
    (boot factoryCredentials fun _ => none)).1.map (.call 0 .console) ++
      [.finish 0 .console])

theorem home_run :
    Run (Step wifiDesign) (quiet (boot factoryCredentials fun _ => none))
      homeLabels (quiet homeBoard) := by
  have alone := obliging_alone (boot factoryCredentials fun _ => none)
    (.console configureHome) (by decide +kernel)
  exact alone.mono (fun _ => True) (fun _ _ _ _ alone => alone.taken)
    fun _ _ => trivial

theorem idle_restorable_home :
    storedStation homeBoard.nvs = homeBoard.link.station := by
  apply idle_restorable home_run rfl
  · intro slot role event member
    rcases List.mem_cons.mp member with first | later
    · cases first
    rcases List.mem_append.mp later with made | ended
    · rcases List.mem_map.mp made with ⟨call, called, same⟩
      cases same
      exact obliging_succeeds _ _ _ called
    · cases List.mem_singleton.mp ended
  · intro slot process there
    cases there

def flashAnswer : (request : CredentialCall) → Flash →
    CredentialCall.Answer request × Flash
  | .readMac, flash => (.ok (Vector.replicate 6 0), flash)
  | .nvsOpen, flash => (.ok, flash)
  | .nvsGetStr key capacity, flash =>
      (match flash.get key with
        | some text =>
            if text.length < capacity then .ok text else .error .invalidArg
        | none => .error .nvsNotFound, flash)
  | .random, flash => ((0 : UInt32), flash)
  | .nvsSetApPass text, flash => (.ok, { flash with apPass := some text })
  | .nvsCommit, flash => (.ok, flash)

theorem flashAnswer_exec {α : Type} (program : Loading α) (flash : Flash) :
    Program.Exec flashEnvironment program flash
      (program.run flashAnswer flash).1 (program.run flashAnswer flash).2.1
      (program.run flashAnswer flash).2.2 := by
  apply (Program.exec_run flashAnswer program flash).weaken
  intro request before answer after same
  cases request with
  | nvsGetStr key capacity =>
      cases same
      refine ⟨rfl, ?_⟩
      cases stored : before.get key with
      | none => rfl
      | some text =>
          dsimp only
          by_cases fits : text.length < capacity
          · rw [if_pos fits]
            exact ⟨rfl, fits⟩
          · rw [if_neg fits]
            exact nofun
  | nvsSetApPass text =>
      cases same
      rfl
  | _ =>
      cases same
      rfl

def factoryFlash : Flash :=
  ⟨none, fun _ => none⟩

def homeFlash : Flash :=
  ⟨some factoryCredentials.apPassword, homeBoard.nvs⟩

def homeCredentials : Credentials :=
  { factoryCredentials with station := homeBoard.link.station }

theorem factory_on :
    PowerStep factoryFlash (.on factoryCredentials homeLabels homeBoard)
      homeFlash := by
  have execution := flashAnswer_exec loadCredentials factoryFlash
  exact .on execution home_run

theorem home_on :
    PowerStep homeFlash (.on homeCredentials [] (boot homeCredentials
      homeBoard.nvs)) homeFlash := by
  have execution := flashAnswer_exec loadCredentials homeFlash
  exact .on execution (.nil _)

/-! ## Restarts -/

section Restarts

variable {flash cut again last : Flash}

theorem PowerStep.loaded {credentials : Credentials}
    {labels : List (Label wifiCalls Role)} {board : Board}
    (step : PowerStep flash (.on credentials labels board) cut) :
    ∃ loaded after, Loaded flash loaded (.ok credentials) ∧
      Run (Step wifiDesign) (quiet (boot credentials loaded.station)) labels
        after ∧
      board = after.shared ∧ cut = { loaded with station := board.nvs } := by
  cases step with
  | on execution run =>
      exact ⟨_, _, loadCredentials_ensures flash _ _ _ execution, run, rfl, rfl⟩

theorem PowerStep.kept {error : EspErr}
    (step : PowerStep flash (.failed error) cut) : PasswordKept flash cut := by
  cases step with
  | failed execution =>
      exact (loadCredentials_ensures flash _ _ _ execution).password

theorem failures_station {errors : List PowerEvent}
    (failures : Run PowerStep cut errors again)
    (failed : ∀ event ∈ errors, ∃ error, event = .failed error) :
    again.station = cut.station := by
  refine failures.invariant (fun flash => flash.station = cut.station)
    (fun event => ∃ error, event = .failed error) ?_ failed rfl
  intro before event after isFailure same step
  rcases isFailure with ⟨error, equal⟩
  rw [equal] at step
  rw [step.kept.station, same]

/-- Wherever the power is lost, the next boot that succeeds comes up with the
station that was in use, if no stored key had changed since it was assigned. -/
theorem station_restored {credentials next : Credentials}
    {labels rest : List (Label wifiCalls Role)} {board other : Board}
    {errors : List PowerEvent}
    (on : PowerStep flash (.on credentials labels board) cut)
    (failures : Run PowerStep cut errors again)
    (failed : ∀ event ∈ errors, ∃ error, event = .failed error)
    (restart : PowerStep again (.on next rest other) last)
    (untorn : torn labels = false) : next.station = board.link.station := by
  rcases on.loaded with ⟨loaded, after, first, run, same, left⟩
  rcases restart.loaded with ⟨_, _, second, _⟩
  have found : credentials.station = storedStation loaded.station := by
    rw [first.password.station]
    exact (first.credentials _ rfl).2.2.2
  have kept : again.station = board.nvs := by
    rw [failures_station failures failed, left]
  calc next.station
      = storedStation again.station := (second.credentials _ rfl).2.2.2
    _ = storedStation after.shared.nvs := by rw [kept, same]
    _ = after.shared.link.station := run_restorable run found untorn
    _ = board.link.station := by rw [same]

theorem station_restored_home :
    homeCredentials.station = homeBoard.link.station :=
  station_restored factory_on (.nil _) (by simp) home_on (by decide +kernel)

/-! ## The password of the access point -/

structure PasswordFixed (events : List PowerEvent) (flash : Flash) : Prop where
  known : ∀ credentials labels board, .on credentials labels board ∈ events →
    flash.apPass = some credentials.apPassword
  generated : ∀ password, flash.apPass = some password → Generated password

theorem PasswordKept.fixed {before after : Flash} {events : List PowerEvent}
    (kept : PasswordKept before after) (fixed : PasswordFixed events before) :
    PasswordFixed events after where
  known := by
    intro credentials labels board member
    have known := fixed.known credentials labels board member
    rw [kept.kept (by simp [known]), known]
  generated := by
    intro password stored
    cases earlier : before.apPass with
    | none =>
        rcases kept.fresh earlier with none | ⟨found, generated, same⟩
        · rw [none] at stored
          cases stored
        · rw [same] at stored
          rw [← Option.some.inj stored]
          exact generated
    | some password =>
        apply fixed.generated
        rw [← kept.kept (by simp [earlier])]
        exact stored

theorem PowerStep.fixed {before after : Flash} {past : List PowerEvent}
    {event : PowerEvent} (step : PowerStep before event after)
    (fixed : PasswordFixed past before) :
    PasswordFixed (past ++ [event]) after := by
  cases event with
  | failed error =>
      have still := step.kept.fixed fixed
      refine ⟨?_, still.generated⟩
      intro credentials labels board member
      apply still.known credentials labels board
      simpa using member
  | on credentials labels board =>
      rcases step.loaded with ⟨loaded, _, facts, _, _, left⟩
      have still := facts.password.fixed fixed
      have mine := (facts.credentials _ rfl).1
      rw [left]
      refine ⟨?_, still.generated⟩
      intro other _ _ member
      rcases List.mem_append.mp member with earlier | now
      · exact still.known _ _ _ earlier
      · cases List.mem_singleton.mp now
        exact mine

end Restarts

end Typxen.WifiLink
