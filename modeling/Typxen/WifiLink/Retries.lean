import Typxen.WifiLink.Footprints

/-! # How often a station is reconnected

The handler of a lost connection counts its attempts, and others set the count
back between any two of its accesses. -/

namespace Typxen.WifiLink

open Interaction Threads Exclusion Transition

abbrev Uncounted {α : Type} (program : Wifi α) : Prop :=
  Program.OnlyCalls (fun request : WifiCall => request ≠ .assign .countAttempt)
    program

section Programs

variable {α β : Type}

theorem uncounted_admits :
    Admits (fun request => request ≠ .assign .countAttempt) where
  ordinary := by
    intro request usual counts
    rw [counts] at usual
    cases usual
  raising := by
    intro guard
    cases guard with
    | executionWifiPause => simp [Guard.update]
    | pending task => cases task <;> simp [Guard.update]

theorem uncounted_stores (request : WifiCall) (stores : storing request = true) :
    request ≠ .assign .countAttempt := by
  intro counts
  rw [counts] at stores
  cases stores

theorem uncounted_call {request : WifiCall}
    (other : request ≠ .assign .countAttempt) :
    Uncounted (Wifi.call request) :=
  within_call other

/-! ## The handler -/

/-- `below` once the count has been seen below the limit since the last attempt
was counted. -/
inductive RetryMonitor : Monitor wifiCalls Bool
  | look (below : Bool) (link : Link) :
      RetryMonitor below ⟨.look, link⟩
        (below || decide (link.staConnectAttempts < staConnectRetries))
  | count (answer : Unit) :
      RetryMonitor true ⟨.assign .countAttempt, answer⟩ false
  | other {below : Bool} {request : WifiCall}
      (answer : WifiCall.Answer request) : request ≠ .look →
      request ≠ .assign .countAttempt →
      RetryMonitor below ⟨request, answer⟩ below

abbrev Counts (program : Wifi α) (below : Bool) : Prop :=
  Program.Obeys RetryMonitor program below fun _ _ => True

theorem Uncounted.counts {program : Wifi α} (uncounted : Uncounted program)
    (below : Bool) : Counts program below := by
  induction program generalizing below with
  | done value => exact trivial
  | ask request next induction =>
      intro answer
      by_cases looks : request = .look
      · subst looks
        exact ⟨_, .look below answer, induction answer (uncounted.2 answer) _⟩
      · exact ⟨below, .other answer looks uncounted.1,
          induction answer (uncounted.2 answer) below⟩

theorem other_counts {request : WifiCall} {below : Bool}
    {continued : WifiCall.Answer request → Wifi α} (reads : request ≠ .look)
    (counts : request ≠ .assign .countAttempt)
    (rest : ∀ answer, Counts (continued answer) below) :
    Counts (Wifi.call request >>= continued) below :=
  fun answer => ⟨below, .other answer reads counts, rest answer⟩

theorem handleEvent_counts (event : WifiEvent) :
    Counts (handleEvent event) false := by
  apply other_counts (by simp) (by simp)
  intro dispatched
  cases event with
  | staStart =>
      apply Uncounted.counts
      apply (look_calm.within uncounted_admits).bind
      intro link
      split
      · apply (uncounted_call (by simp)).bind
        intro reset
        exact (uncounted_call (by simp)).bind fun _ => trivial
      · exact trivial
  | staDisconnected =>
      intro link
      refine ⟨_, .look _ link, ?_⟩
      change Counts (if link.wifiMode == .sta && !link.executionWifiPause then _
        else _) _
      split
      · apply other_counts (by simp) (by simp)
        intro cleared link
        refine ⟨_, .look _ link, ?_⟩
        dsimp only [Program.bind]
        cases action : typxWifiStationRetryAction link.postJobStationReconnect
            link.staConnectAttempts staConnectRetries with
        | retryNow =>
            have below : link.staConnectAttempts < staConnectRetries := by
              by_contra reached
              unfold typxWifiStationRetryAction at action
              rw [if_neg reached] at action
              split at action <;> cases action
            rw [decide_eq_true below, Bool.or_true]
            intro counted
            refine ⟨false, .count counted, ?_⟩
            exact other_counts (by simp) (by simp) fun _ => trivial
        | retryDelayed =>
            exact Uncounted.counts
              (scheduleStationFallback_within uncounted_admits) _
        | recoveryAp =>
            exact Uncounted.counts
              (scheduleStationFallback_within uncounted_admits) _
      · exact trivial
  | gotIp address =>
      apply Uncounted.counts
      apply (look_calm.within uncounted_admits).bind
      intro link
      split
      · apply (uncounted_call (by simp)).bind
        intro set
        apply (uncounted_call (by simp)).bind
        intro reset
        apply (uncounted_call (by simp)).bind
        intro cleared
        exact scheduleHttpRestart_within uncounted_admits
      · exact trivial
  | other => exact trivial

end Programs

theorem begins_uncounted {role : Role} {program : Wifi Unit}
    (begins : Begins role program) (other : role ≠ .eventLoop) :
    Uncounted program := by
  cases begins with
  | console command =>
      exact perform_within uncounted_admits uncounted_stores command
  | eventLoop real => exact absurd rfl other
  | httpServer => exact startHandler_calm.within uncounted_admits

/-! ## The count -/

def countAfter (count : Nat) : WifiCall → Nat
  | .assign .resetAttempts => 0
  | .assign .countAttempt => count + 1
  | _ => count

theorem attempts_answered {request : WifiCall} {before after : Board}
    {answer : WifiCall.Answer request}
    (answered : wifiEnvironment request before answer after) :
    after.link.staConnectAttempts =
      countAfter before.link.staConnectAttempts request := by
  cases request with
  | look => rw [answered.2]; rfl
  | jobLocked => rw [answered.2]; rfl
  | prepareStart => rw [answered.2]; rfl
  | startFailed =>
      rcases answered with ⟨taken, same⟩
      rw [same]
      rfl
  | assign update =>
      rw [show after = before.assign update from answered]
      cases update <;> rfl
  | httpdStart =>
      rw [show after = _ from answered]
      split <;> rfl
  | nvsSetStr key text =>
      rw [show after = _ from answered]
      split <;> rfl
  | nvsEraseKey key =>
      rw [answered.2]
      split <;> rfl
  | _ => rw [show after = _ from answered]; rfl

def counted : Label wifiCalls Role → Bool
  | .call _ _ event => event.call == WifiCall.assign .countAttempt
  | _ => false

def setBack : Label wifiCalls Role → Bool
  | .call _ _ event => event.call == WifiCall.assign .resetAttempts
  | _ => false

def attempts (state : State wifiCalls Role Board) : Nat :=
  state.shared.link.staConnectAttempts

structure Bounded (state : State wifiCalls Role Board) : Prop where
  limit : attempts state ≤ staConnectRetries
  single : Single .eventLoop state
  others : Everyone
    (fun role program => role ≠ .eventLoop → Uncounted program) state
  loop : ∀ slot process, state.processes slot = some process →
    process.role = .eventLoop → ∃ below, Counts process.program below ∧
      (below = true → attempts state < staConnectRetries)

theorem bounded_quiet {board : Board}
    (limit : board.link.staConnectAttempts ≤ staConnectRetries) :
    Bounded (quiet board) where
  limit := limit
  single := by
    intro first second one other atFirst
    cases atFirst
  others := everyone_quiet _ board
  loop := by
    intro slot process here
    cases here

theorem Bounded.called {before : State wifiCalls Role Board}
    (bounded : Bounded before) {slot : Nat} {process : Process wifiCalls Role}
    {request : WifiCall} {continued : WifiCall.Answer request → Wifi Unit}
    {answer : WifiCall.Answer request} {shared : Board}
    (here : before.processes slot = some process)
    (asks : process.program = .ask request continued)
    (answered : wifiEnvironment request before.shared answer shared) :
    shared.link.staConnectAttempts ≤ staConnectRetries ∧
      (process.role = .eventLoop → ∃ below, Counts (continued answer) below ∧
        (below = true →
          shared.link.staConnectAttempts < staConnectRetries)) ∧
      (process.role ≠ .eventLoop →
        shared.link.staConnectAttempts ≤ attempts before) := by
  have after := attempts_answered answered
  have limit := bounded.limit
  by_cases mine : process.role = .eventLoop
  · rcases bounded.loop slot process here mine with ⟨below, counts, room⟩
    rw [asks] at counts
    rcases counts answer with ⟨next, rule, rest⟩
    have result : shared.link.staConnectAttempts ≤ staConnectRetries ∧
        (next = true →
          shared.link.staConnectAttempts < staConnectRetries) := by
      rw [after]
      cases rule with
      | look _ link =>
          have same : link = before.shared.link := answered.1
          rw [same]
          refine ⟨limit, ?_⟩
          intro seen
          rcases Bool.or_eq_true_iff.mp seen with already | now
          · exact room already
          · exact of_decide_eq_true now
      | count _ => exact ⟨room rfl, fun impossible => by cases impossible⟩
      | other _ _ notCount =>
          have kept : countAfter before.shared.link.staConnectAttempts request ≤
              before.shared.link.staConnectAttempts := by
            unfold countAfter
            split
            · exact Nat.zero_le _
            · exact absurd rfl notCount
            · exact Nat.le_refl _
          exact ⟨kept.trans limit, fun seen =>
            Nat.lt_of_le_of_lt kept (room seen)⟩
    exact ⟨result.1, fun _ => ⟨next, rest, result.2⟩,
      fun other => absurd mine other⟩
  · have silent := bounded.others slot process here mine
    rw [asks] at silent
    have kept : shared.link.staConnectAttempts ≤ attempts before := by
      rw [after]
      unfold countAfter
      split
      · exact Nat.zero_le _
      · exact absurd rfl silent.1
      · exact Nat.le_refl _
    exact ⟨kept.trans limit, fun loop => absurd loop mine, fun _ => kept⟩

theorem Bounded.put {before : State wifiCalls Role Board}
    (bounded : Bounded before) {slot : Nat} {process : Process wifiCalls Role}
    {request : WifiCall} {continued : WifiCall.Answer request → Wifi Unit}
    {answer : WifiCall.Answer request} {shared : Board}
    (here : before.processes slot = some process)
    (asks : process.program = .ask request continued)
    (answered : wifiEnvironment request before.shared answer shared)
    {other : Nat} {found : Process wifiCalls Role}
    (there : ((before.withShared shared).put slot
      (process.continue (continued answer))).processes other = some found)
    (loop : found.role = .eventLoop) :
    ∃ below, Counts found.program below ∧
      (below = true → shared.link.staConnectAttempts < staConnectRetries) := by
  have called := bounded.called here asks answered
  rcases put_cases there with ⟨_, same⟩ | ⟨different, earlier⟩
  · rw [same] at loop ⊢
    exact called.2.1 loop
  · rcases bounded.loop other found earlier loop with ⟨below, counts, room⟩
    have notMine : process.role ≠ .eventLoop := by
      intro mine
      exact different (bounded.single other slot found process earlier here
        loop mine)
    exact ⟨below, counts, fun seen =>
      Nat.lt_of_le_of_lt (called.2.2 notMine) (room seen)⟩

theorem step_bounded {before after : State wifiCalls Role Board}
    {label : Label wifiCalls Role} (step : Step wifiDesign before label after)
    (bounded : Bounded before) : Bounded after := by
  have single : Single .eventLoop after := by
    refine step.single ?_ (created_other (.inr (.inl rfl))) bounded.single
    intro processes program begins
    exact begins.1
  have others : Everyone
      (fun role program => role ≠ .eventLoop → Uncounted program) after := by
    refine step.everyone ?_ ?_ ?_ bounded.others
    · intro processes role program begins other
      exact begins_uncounted begins.2 other
    · intro event role program creates other
      exact created_within uncounted_admits creates
    · intro role request continued answer uncounted other
      exact (uncounted other).2 answer
  cases step with
  | @begin slot role program free begins =>
      refine ⟨bounded.limit, single, others, ?_⟩
      intro other found there loop
      rcases put_cases there with ⟨_, same⟩ | ⟨_, earlier⟩
      · rw [same] at loop ⊢
        have mine : role = .eventLoop := loop
        rcases begins.2 with _ | real | _
        · cases mine
        · exact ⟨false, handleEvent_counts _, fun impossible => by
            cases impossible⟩
        · cases mine
      · exact bounded.loop other found earlier loop
  | call here asks answered creates =>
      refine ⟨(bounded.called here asks answered).1, single, others, ?_⟩
      intro other found there loop
      exact bounded.put here asks answered there loop
  | @create slot child process request next answer shared role program here
      asks answered creates apart free =>
      refine ⟨(bounded.called here asks answered).1, single, others, ?_⟩
      intro other found there loop
      rcases put_cases there with ⟨_, same⟩ | ⟨_, earlier⟩
      · rw [same] at loop
        have mine : role = .eventLoop := loop
        rw [mine] at creates
        exact absurd creates ((created_other (.inr (.inl rfl))) _ _)
      · exact bounded.put here asks answered earlier loop
  | finish here ended =>
      refine ⟨bounded.limit, single, others, ?_⟩
      intro other found there loop
      exact bounded.loop other found (drop_cases there).2 loop

theorem step_attempts {before after : State wifiCalls Role Board}
    {label : Label wifiCalls Role} (step : Step wifiDesign before label after)
    (bounded : Bounded before) :
    (if counted label then 1 else 0) + attempts before ≤
      staConnectRetries * (if setBack label then 1 else 0) + attempts after := by
  have limit := bounded.limit
  have called : ∀ {slot : Nat} {role : Role} {request : WifiCall}
      {answer : WifiCall.Answer request} {shared : Board},
      wifiEnvironment request before.shared answer shared →
      (if counted (.call slot role ⟨request, answer⟩) then 1 else 0) +
          attempts before ≤
        staConnectRetries *
            (if setBack (.call slot role ⟨request, answer⟩) then 1 else 0) +
          shared.link.staConnectAttempts := by
    intro slot role request answer shared answered
    rw [attempts_answered answered]
    by_cases resets : request = .assign .resetAttempts
    · subst resets
      simpa [counted, setBack, countAfter] using limit
    by_cases counts : request = .assign .countAttempt
    · subst counts
      simp [counted, setBack, countAfter, attempts, Nat.add_comm]
    · have kept : countAfter before.shared.link.staConnectAttempts request =
          before.shared.link.staConnectAttempts := by
        unfold countAfter
        split
        · exact absurd rfl resets
        · exact absurd rfl counts
        · rfl
      simp [counted, setBack, kept, resets, counts, attempts]
  cases step with
  | begin _ _ => simp [counted, setBack, attempts, Pool.put]
  | call _ _ answered _ => exact called answered
  | create _ _ answered _ _ _ => exact called answered
  | finish _ _ => simp [counted, setBack, attempts, Pool.drop]

/-- In any stretch of any run the handler of a lost connection retries at most
five times for each time that the count is set back, and five times more. -/
theorem retries_bounded {credentials : Credentials}
    {nvs : NvsKey → Option (List UInt8)}
    {past labels : List (Label wifiCalls Role)}
    {here after : State wifiCalls Role Board}
    (start : Run (Step wifiDesign) (quiet (boot credentials nvs)) past here)
    (run : Run (Step wifiDesign) here labels after) :
    labels.countP counted + attempts here ≤
        staConnectRetries * labels.countP setBack + attempts after ∧
      attempts after ≤ staConnectRetries := by
  have bounded : Bounded here :=
    start.invariant Bounded (fun _ => True)
      (fun _ _ _ _ holds step => step_bounded step holds)
      (fun _ _ => trivial) (bounded_quiet (Nat.zero_le _))
  clear start
  induction run with
  | nil state => exact ⟨by simp, bounded.limit⟩
  | @cons before middle after label labels step rest induction =>
      have first := step_attempts step bounded
      have later := induction (step_bounded step bounded)
      refine ⟨?_, later.2⟩
      rw [List.countP_cons, List.countP_cons, Nat.mul_add]
      omega

theorem retries_bounded_once : ∃ past here labels after,
    Run (Step wifiDesign) (quiet savedHotspot) past here ∧
      Run (Step wifiDesign) here labels after ∧
      labels.countP counted = 1 ∧
      labels.countP counted + attempts here ≤
        staConnectRetries * labels.countP setBack + attempts after ∧
      attempts after ≤ staConnectRetries := by
  have start := obliging_alone savedHotspot (.console .startStation)
    (by decide +kernel)
  have real : WifiEvent.staDisconnected ≠ .gotIp 0 := by simp
  have lost := obliging_alone
    (Program.run obligingAnswer Command.startStation.perform savedHotspot).2.2
    (.eventLoop real) (by decide +kernel)
  have before := start.mono (fun _ => True)
    (fun _ _ _ _ alone => alone.taken) fun _ _ => trivial
  have later := lost.mono (fun _ => True)
    (fun _ _ _ _ alone => alone.taken) fun _ _ => trivial
  exact ⟨_, _, _, _, before, later, by decide +kernel,
    retries_bounded before later⟩

end Typxen.WifiLink
