import Typxen.ExecutionSafety.Confirmation

/-! # Accepted releases

A release that `schedule_safety_release` accepts is carried out by a task that
is still in its loop, unless the call finds its generation registered by a
task that has left the loop. -/

namespace Typxen.ExecutionSafety

open Exclusion Transition

/-! ## Who serves a waiting automaton -/

def Safety.waiting (safety : Safety) : Bool :=
  safety.connected && safety.authenticated &&
    safety.hidState == .waitingForReportPath

/-- A release task for the current connection has not left its loop. -/
def Served (system : System) : Prop :=
  ∃ task point, point ≠ .leave ∧
    system.processes task =
      some (.task system.shared.safety.connectionGeneration point)

def Calling (system : System) (caller : Nat) : Prop :=
  ∃ point, point ≠ .abandon ∧
    system.processes caller =
      some (.call system.shared.safety.connectionGeneration point)

/-- `schedule_safety_release` returns true for the current connection. -/
def System.returnsTrue (system : System) : SafetyEvent → Bool
  | .schedule caller =>
      system.processes caller ==
          some (.call system.shared.safety.connectionGeneration .enter) &&
        system.shared.safety.connectionGeneration != 0 &&
        system.shared.safetyTaskGeneration ==
          system.shared.safety.connectionGeneration
  | .createTask caller true =>
      system.processes caller ==
        some (.call system.shared.safety.connectionGeneration .create)
  | _ => false

/-- `accepted` once a call has returned true for the automaton that is waiting
now. -/
structure Watched where
  system : System
  accepted : Bool

def WatchedStep (before : Watched) (event : SafetyEvent) (after : Watched) :
    Prop :=
  SafetyStep before.system event after.system ∧
    after.accepted = (after.system.shared.safety.waiting &&
      (before.system.shared.safety.waiting && before.accepted ||
        before.system.returnsTrue event))

def watchedInitial (active : Option Bool) (cleared : Bool) : Watched :=
  ⟨initial active cleared, false⟩

structure Carried (watched : Watched) : Prop where
  accepted : watched.accepted = true → Served watched.system
  waiting : watched.system.shared.safety.waiting = true →
    Served watched.system ∨ ∃ caller, Calling watched.system caller

/-- While the automaton is waiting, a call finds its generation registered only
by a task that is still in its loop, and a task that nobody else can replace is
created. -/
def Punctual (system : System) (event : SafetyEvent) : Prop :=
  system.shared.safety.waiting = true →
    (∀ caller, event = .schedule caller →
      system.processes caller =
        some (.call system.shared.safety.connectionGeneration .enter) →
      system.shared.safetyTaskGeneration =
        system.shared.safety.connectionGeneration →
      Served system) ∧
    ∀ caller, event = .createTask caller false →
      system.processes caller =
        some (.call system.shared.safety.connectionGeneration .create) →
      Served system ∨ ∃ other, other ≠ caller ∧ Calling system other

def PunctualStep (before : Watched) (event : SafetyEvent) (after : Watched) :
    Prop :=
  WatchedStep before event after ∧ Punctual before.system event

/-! ## The waiting automaton -/

theorem waiting_iff {safety : Safety} :
    safety.waiting = true ↔ safety.connected = true ∧
      safety.authenticated = true ∧ safety.hidState = .waitingForReportPath := by
  simp [Safety.waiting, and_assoc]

structure Fresh (safety : Safety) : Prop where
  numbered : safety.connected = true → safety.connectionGeneration ≠ 0
  attempts : safety.hidState = .waitingForReportPath →
    safety.releaseAttempts = 0

section Fresh

variable {safety next : Safety} {generation : UInt32}

theorem Fresh.authenticated (fresh : Fresh safety) (success : Bool) :
    Fresh (typxExecutionSafetyAuthenticated safety success) := by
  rw [typxExecutionSafetyAuthenticated]
  split
  · exact fresh
  · exact ⟨fresh.numbered, fun _ => rfl⟩

theorem Fresh.beginRelease {begun : Bool} (fresh : Fresh safety)
    (result : typxExecutionSafetyBeginRelease safety generation =
      (begun, next)) : Fresh next := by
  rcases beginRelease_cases safety generation with
    same | ⟨_, _, _, _, _, _, started⟩
  · cases result.symm.trans same
    exact fresh
  · cases result.symm.trans started
    exact ⟨fresh.numbered, nofun⟩

theorem Fresh.completeRelease {confirmed keyboard consumer : Bool}
    (fresh : Fresh safety)
    (result : typxExecutionSafetyCompleteRelease safety generation keyboard
      consumer = (confirmed, next)) : Fresh next := by
  rcases completeRelease_cases safety generation keyboard consumer with
    same | ⟨_, _, _, _, ⟨_, _, done⟩ | ⟨_, _, failed⟩⟩
  · cases result.symm.trans same
    exact fresh
  · cases result.symm.trans done
    exact ⟨fresh.numbered, nofun⟩
  · cases result.symm.trans failed
    exact ⟨fresh.numbered, nofun⟩

theorem Fresh.requestRetry {accepted : Bool} (fresh : Fresh safety)
    (result : typxExecutionSafetyRequestRetry safety = (accepted, next)) :
    Fresh next := by
  rcases requestRetry_cases safety with refused | ⟨kept, _⟩ | ⟨_, _, again⟩
  · cases result.symm.trans refused
    exact fresh
  · cases result.symm.trans kept
    exact fresh
  · cases result.symm.trans again
    exact ⟨fresh.numbered, fun _ => rfl⟩

end Fresh

theorem SafetyStep.fresh {before after : System} {event : SafetyEvent}
    (step : SafetyStep before event after) (fresh : Fresh before.shared.safety) :
    Fresh after.shared.safety := by
  cases step with
  | connected => exact ⟨fun _ => nextGeneration_ne_zero _, nofun⟩
  | disconnected => exact ⟨nofun, nofun⟩
  | authenticationFailed => exact fresh.authenticated false
  | authenticated same _ => exact same ▸ fresh.authenticated true
  | retryDone result _ => exact fresh.requestRetry result
  | retry result _ _ => exact fresh.requestRetry result
  | schedule _ =>
      rw [scheduleSafetyRelease_safety]
      exact fresh
  | beginRelease _ result => exact fresh.beginRelease result
  | completeRelease _ result => exact fresh.completeRelease result
  | _ => exact fresh

theorem fresh_initial (active : Option Bool) (cleared : Bool) :
    Fresh (initial active cleared).shared.safety := by
  cases active with
  | none => exact ⟨nofun, nofun⟩
  | some active => cases active <;> exact ⟨nofun, nofun⟩

/-! ## Steps of a waiting automaton -/

section Steps

variable {before after : System} {event : SafetyEvent} {slot : Nat}
  {thread : Thread}

theorem scheduleSafetyRelease_elsewhere (system : System) {caller : Nat}
    (generation : UInt32) (other : slot ≠ caller) :
    (scheduleSafetyRelease system caller generation).processes slot =
      system.processes slot := by
  rw [scheduleSafetyRelease]
  split_ifs
  · exact drop_of_ne _ other
  · exact drop_of_ne _ other
  · exact put_of_ne _ other _
  · exact drop_of_ne _ other

theorem SafetyStep.elsewhere (step : SafetyStep before event after)
    (other : event.slot ≠ some slot) (here : before.processes slot = some thread) :
    after.processes slot = some thread := by
  have moved : ∀ {mover : Nat}, some mover ≠ some slot → slot ≠ mover :=
    fun different same => different (congrArg some same.symm)
  have free : ∀ {caller : Nat}, before.processes caller = none → slot ≠ caller := by
    intro caller idle same
    rw [← same, here] at idle
    cases idle
  cases step with
  | authenticated _ idle => exact (put_of_ne _ (free idle) _).trans here
  | retry _ _ idle => exact (put_of_ne _ (free idle) _).trans here
  | schedule _ =>
      exact (scheduleSafetyRelease_elsewhere _ _ (moved other)).trans here
  | taskCreated _ => exact (put_of_ne _ (moved other) _).trans here
  | taskNotCreated _ => exact (put_of_ne _ (moved other) _).trans here
  | abandonTask _ => exact (drop_of_ne _ (moved other)).trans here
  | beginRelease _ _ => exact (put_of_ne _ (moved other) _).trans here
  | sendKeyboard _ => exact (put_of_ne _ (moved other) _).trans here
  | sendConsumer _ => exact (put_of_ne _ (moved other) _).trans here
  | completeRelease _ _ => exact (put_of_ne _ (moved other) _).trans here
  | leave _ => exact (drop_of_ne _ (moved other)).trans here
  | _ => exact here

theorem SafetyStep.waiting_generation (step : SafetyStep before event after)
    (waiting : after.shared.safety.waiting = true) :
    after.shared.safety.connectionGeneration =
      before.shared.safety.connectionGeneration := by
  rw [step.generation, if_neg]
  intro connection
  have state := (waiting_iff.mp waiting).2.2
  cases step with
  | connected => cases state
  | disconnected => cases state
  | _ => cases connection

/-- Who makes the automaton wait has a call to make. -/
theorem SafetyStep.becomes_waiting (step : SafetyStep before event after)
    (waiting : after.shared.safety.waiting = true) :
    before.shared.safety.waiting = true ∨ ∃ caller, Calling after caller := by
  cases step with
  | connected => cases (waiting_iff.mp waiting).2.2
  | disconnected => cases (waiting_iff.mp waiting).2.2
  | authenticationFailed =>
      rw [withSafety_safety, typxExecutionSafetyAuthenticated] at waiting
      split at waiting
      · exact .inl waiting
      · cases (waiting_iff.mp waiting).2.2
  | @authenticated caller _ _ _ =>
      exact .inr ⟨caller, .enter, by simp, put_self ..⟩
  | retryDone result done =>
      left
      rcases requestRetry_cases before.shared.safety with
        refused | ⟨kept, _⟩ | ⟨_, _, again⟩
      · cases result.symm.trans refused
        exact waiting
      · cases result.symm.trans kept
        exact waiting
      · cases result.symm.trans again
        rcases done with refused | ready
        · cases refused
        · cases (snapshot_ready_iff.mp ready).2.2
  | @retry caller _ _ _ _ => exact .inr ⟨caller, .enter, by simp, put_self ..⟩
  | schedule _ =>
      rw [scheduleSafetyRelease_safety] at waiting
      exact .inl waiting
  | @beginRelease task generation _ _ _ result =>
      rcases beginRelease_cases before.shared.safety generation with
        same | ⟨_, _, _, _, _, _, begun⟩
      · cases result.symm.trans same
        exact .inl waiting
      · cases result.symm.trans begun
        cases (waiting_iff.mp waiting).2.2
  | @completeRelease task generation keyboard consumer _ _ _ result =>
      rcases completeRelease_cases before.shared.safety generation keyboard
        consumer with
        same | ⟨_, _, _, _, ⟨_, _, done⟩ | ⟨_, _, failed⟩⟩
      · cases result.symm.trans same
        exact .inl waiting
      · cases result.symm.trans done
        cases (waiting_iff.mp waiting).2.2
      · cases result.symm.trans failed
        cases (waiting_iff.mp waiting).2.2
  | _ => exact .inl waiting

theorem beginRelease_waiting {safety : Safety} (fresh : Fresh safety)
    (waiting : safety.waiting = true) :
    typxExecutionSafetyBeginRelease safety safety.connectionGeneration =
      (true, { safety with
        releaseAttempts := safety.releaseAttempts + 1
        hidState := .releasing }) := by
  rcases waiting_iff.mp waiting with ⟨connected, authenticated, state⟩
  rw [typxExecutionSafetyBeginRelease, if_neg]
  simp [connected, authenticated, state, fresh.numbered connected,
    fresh.attempts state, releaseMaxAttempts]

theorem afterRelease_waiting {safety : Safety} (fresh : Fresh safety)
    (waiting : safety.waiting = true) :
    afterRelease (typxExecutionSafetySnapshot safety)
      safety.connectionGeneration = .beginRelease := by
  rcases waiting_iff.mp waiting with ⟨connected, authenticated, state⟩
  rw [afterRelease, if_neg, if_neg]
  · simp [typxExecutionSafetySnapshot, connected, fresh.attempts state,
      releaseMaxAttempts]
  · simp [typxExecutionSafetySnapshot, state]

/-- A task in its loop serves the automaton as long as it waits. -/
theorem SafetyStep.served (step : SafetyStep before event after)
    (fresh : Fresh before.shared.safety)
    (waits : before.shared.safety.waiting = true)
    (waiting : after.shared.safety.waiting = true) (served : Served before) :
    Served after := by
  rcases served with ⟨task, point, looping, here⟩
  have same := step.waiting_generation waiting
  by_cases own : event.slot = some task
  case neg =>
    refine ⟨task, point, looping, ?_⟩
    rw [same]
    exact step.elsewhere own here
  cases step with
  | beginRelease there result =>
      cases own
      cases here.symm.trans there
      cases result.symm.trans (beginRelease_waiting fresh waits)
      cases (waiting_iff.mp waiting).2.2
  | sendKeyboard there =>
      cases own
      cases here.symm.trans there
      exact ⟨task, .consumer _, by simp, put_self ..⟩
  | sendConsumer there =>
      cases own
      cases here.symm.trans there
      exact ⟨task, .complete _ _, by simp, put_self ..⟩
  | @completeRelease _ generation keyboard consumer _ _ there result =>
      cases own
      cases here.symm.trans there
      have freshAfter := fresh.completeRelease result
      refine ⟨task, .beginRelease, by simp, ?_⟩
      rw [put_self .., ← same,
        ← afterRelease_waiting freshAfter waiting]
      rfl
  | leave there =>
      cases own
      cases here.symm.trans there
      exact absurd rfl looping
  | schedule there =>
      cases own
      cases here.symm.trans there
  | taskCreated there =>
      cases own
      cases here.symm.trans there
  | taskNotCreated there =>
      cases own
      cases here.symm.trans there
  | abandonTask there =>
      cases own
      cases here.symm.trans there
  | _ => cases own

theorem scheduleSafetyRelease_waiting {system : System} {caller : Nat}
    (fresh : Fresh system.shared.safety)
    (waits : system.shared.safety.waiting = true) :
    system.shared.safetyTaskGeneration =
        system.shared.safety.connectionGeneration ∧
        scheduleSafetyRelease system caller
          system.shared.safety.connectionGeneration = system.drop caller ∨
      system.shared.safetyTaskGeneration ≠
          system.shared.safety.connectionGeneration ∧
        scheduleSafetyRelease system caller
          system.shared.safety.connectionGeneration =
          (system.register system.shared.safety.connectionGeneration).put
            caller (.call system.shared.safety.connectionGeneration .create) := by
  rcases waiting_iff.mp waits with ⟨connected, authenticated, _⟩
  have numbered := fresh.numbered connected
  by_cases registered :
      system.shared.safetyTaskGeneration =
        system.shared.safety.connectionGeneration
  · left
    simp [scheduleSafetyRelease, registered]
  · right
    simp [scheduleSafetyRelease, registered, numbered, connected, authenticated]

/-- A call on its way goes on to a task, unless the generation is registered
already or the task is not created. -/
theorem SafetyStep.calling (step : SafetyStep before event after)
    (fresh : Fresh before.shared.safety)
    (waits : before.shared.safety.waiting = true)
    (waiting : after.shared.safety.waiting = true)
    (punctual : Punctual before event)
    {caller : Nat} (calling : Calling before caller) :
    Served after ∨ ∃ other, Calling after other := by
  have same := step.waiting_generation waiting
  have later : ∀ {other : Nat}, event.slot ≠ some other → Calling before other →
      Calling after other := by
    intro other elsewhere calls
    rcases calls with ⟨point, ahead, here⟩
    refine ⟨point, ahead, ?_⟩
    rw [same]
    exact step.elsewhere elsewhere here
  have served : Served before → Served after :=
    step.served fresh waits waiting
  by_cases own : event.slot = some caller
  case neg => exact .inr ⟨caller, later own calling⟩
  rcases calling with ⟨point, ahead, here⟩
  cases step with
  | schedule there =>
      cases own
      cases here.symm.trans there
      rcases scheduleSafetyRelease_waiting fresh waits with
        ⟨registered, _⟩ | ⟨_, moved⟩
      · exact .inl (served ((punctual waits).1 caller rfl here registered))
      · rw [moved]
        exact .inr ⟨caller, .create, by simp, put_self ..⟩
  | taskCreated there =>
      cases own
      cases here.symm.trans there
      exact .inl ⟨caller, .beginRelease, by simp, put_self ..⟩
  | taskNotCreated there =>
      cases own
      cases here.symm.trans there
      rcases (punctual waits).2 caller rfl here with
        serves | ⟨other, different, calls⟩
      · exact .inl (served serves)
      · refine .inr ⟨other, later ?_ calls⟩
        exact fun equal => different (Option.some.inj equal).symm
  | abandonTask there =>
      cases own
      cases here.symm.trans there
      exact absurd rfl ahead
  | beginRelease there _ =>
      cases own
      cases here.symm.trans there
  | sendKeyboard there =>
      cases own
      cases here.symm.trans there
  | sendConsumer there =>
      cases own
      cases here.symm.trans there
  | completeRelease there _ =>
      cases own
      cases here.symm.trans there
  | leave there =>
      cases own
      cases here.symm.trans there
  | _ => cases own

end Steps

/-! ## Whole runs -/

theorem returnsTrue_safety {before after : System} {event : SafetyEvent}
    (step : SafetyStep before event after)
    (returned : before.returnsTrue event = true) :
    after.shared.safety = before.shared.safety := by
  cases step with
  | schedule _ => exact scheduleSafetyRelease_safety _ _ _
  | taskCreated _ => rfl
  | _ => cases returned

theorem returnsTrue_served {before after : System} {event : SafetyEvent}
    (step : SafetyStep before event after) (fresh : Fresh before.shared.safety)
    (waiting : after.shared.safety.waiting = true)
    (punctual : Punctual before event)
    (returned : before.returnsTrue event = true) : Served after := by
  have waits : before.shared.safety.waiting = true := by
    rw [← returnsTrue_safety step returned]
    exact waiting
  cases step with
  | @schedule caller generation there =>
      simp only [System.returnsTrue, Bool.and_eq_true, beq_iff_eq] at returned
      rcases returned with ⟨⟨here, _⟩, registered⟩
      have served := (punctual waits).1 caller rfl here registered
      exact (SafetyStep.schedule there).served fresh waits waiting served
  | @taskCreated caller _ there =>
      cases (eq_of_beq returned).symm.trans there
      exact ⟨caller, .beginRelease, by simp, put_self ..⟩
  | _ => cases returned

theorem SafetyStep.served_registered {before after : System} {caller : Nat}
    (step : SafetyStep before (.schedule caller) after)
    (fresh : Fresh before.shared.safety)
    (waits : before.shared.safety.waiting = true)
    (here : before.processes caller =
      some (.call before.shared.safety.connectionGeneration .enter))
    (registered :
      before.shared.safetyTaskGeneration =
        before.shared.safety.connectionGeneration)
    (served : Served after) : Served before := by
  cases step with
  | schedule there =>
      cases here.symm.trans there
      rcases scheduleSafetyRelease_waiting fresh waits with
        ⟨_, dropped⟩ | ⟨unregistered, _⟩
      · rw [dropped] at served
        rcases served with ⟨task, point, looping, found⟩
        exact ⟨task, point, looping, (drop_cases found).2⟩
      · exact absurd registered unregistered

theorem SafetyStep.served_uncreated {before after : System} {caller : Nat}
    (step : SafetyStep before (.createTask caller false) after)
    (kept : Served after ∨ ∃ other, Calling after other) :
    Served before ∨ ∃ other, other ≠ caller ∧ Calling before other := by
  cases step with
  | taskNotCreated there =>
      rcases kept with
        ⟨task, point, looping, found⟩ | ⟨other, point, ahead, found⟩
      · rcases put_cases found with ⟨_, equal⟩ | ⟨_, was⟩
        · cases equal
        · exact .inl ⟨task, point, looping, was⟩
      · rcases put_cases found with ⟨_, equal⟩ | ⟨different, was⟩
        · exact absurd (Thread.call.inj equal).2 ahead
        · exact .inr ⟨other, different, point, ahead, was⟩

section Runs

variable {before after : Watched} {event : SafetyEvent}

theorem Carried.step (carried : Carried before)
    (step : WatchedStep before event after)
    (fresh : Fresh before.system.shared.safety)
    (punctual : Punctual before.system event) : Carried after := by
  constructor
  · intro accepted
    rw [step.2] at accepted
    simp only [Bool.and_eq_true, Bool.or_eq_true] at accepted
    rcases accepted with ⟨waiting, ⟨waits, accepted⟩ | returned⟩
    · exact step.1.served fresh waits waiting (carried.accepted accepted)
    · exact returnsTrue_served step.1 fresh waiting punctual returned
  · intro waiting
    rcases step.1.becomes_waiting waiting with waits | calls
    · rcases carried.waiting waits with served | ⟨caller, calling⟩
      · exact .inl (step.1.served fresh waits waiting served)
      · exact step.1.calling fresh waits waiting punctual calling
    · exact .inr calls

theorem Carried.punctual (carried : Carried after)
    (step : WatchedStep before event after)
    (fresh : Fresh before.system.shared.safety) : Punctual before.system event := by
  intro waits
  constructor
  · intro caller isSchedule here registered
    rcases step with ⟨moved, counted⟩
    rw [isSchedule] at moved counted
    have returned : before.system.returnsTrue (.schedule caller) = true := by
      have connected := (waiting_iff.mp waits).1
      simp [System.returnsTrue, here, registered, fresh.numbered connected]
    apply moved.served_registered fresh waits here registered
    apply carried.accepted
    rw [counted, returned, returnsTrue_safety moved returned, waits]
    simp
  · intro caller isCreate _
    have moved := step.1
    rw [isCreate] at moved
    apply moved.served_uncreated
    apply carried.waiting
    generalize after.system = next at moved
    cases moved with
    | taskNotCreated _ => exact waits

end Runs

theorem carried_initial (active : Option Bool) (cleared : Bool) :
    Carried (watchedInitial active cleared) where
  accepted := nofun
  waiting waiting := by
    cases active with
    | none => cases waiting
    | some active => cases active <;> cases waiting

/-- The runs in which every accepted release is carried out are those whose
steps are all in time. -/
theorem safetyRelease_carriesOutAcceptedReleases {active : Option Bool}
    {cleared : Bool} {events : List SafetyEvent} {after : Watched} :
    Run (Within Carried WatchedStep) (watchedInitial active cleared) events
        after ↔
      Run PunctualStep (watchedInitial active cleared) events after := by
  have start := fresh_initial active cleared
  constructor
  · intro run
    have guarded := run.guarded
      (fun watched => Fresh watched.system.shared.safety)
      (fun _ => True) ?_ (fun _ _ => trivial) start
    · apply guarded.mono (fun _ => True) _ fun _ _ => trivial
      intro here event next _ step
      have taken := step.taken
      exact ⟨taken.2.1, taken.2.2.punctual taken.2.1 step.holds⟩
    · intro here event next _ fresh step
      exact step.2.1.1.fresh fresh
  · intro run
    have guarded := run.guarded
      (fun watched => Fresh watched.system.shared.safety ∧ Carried watched)
      (fun _ => True) ?_ (fun _ _ => trivial)
      ⟨start, carried_initial active cleared⟩
    · apply guarded.mono (fun _ => True) _ fun _ _ => trivial
      intro here event next _ step
      exact ⟨step.holds.2, step.taken.1, step.still.2⟩
    · intro here event next _ holds step
      exact ⟨step.1.1.fresh holds.1, holds.2.step step.1 holds.1 step.2⟩

theorem watchedStep {before after : System} {event : SafetyEvent} {accepted : Bool}
    (step : SafetyStep before event after) :
    WatchedStep ⟨before, accepted⟩ event ⟨after, after.shared.safety.waiting &&
      (before.shared.safety.waiting && accepted || before.returnsTrue event)⟩ :=
  ⟨step, rfl⟩

def lostRelease : List SafetyEvent :=
  [.connected, .authenticated true, .schedule 0, .createTask 0 true,
    .beginRelease 0 true, .sendKeyboard 0 true, .sendConsumer 0 true,
    .completeRelease 0, .authenticated true, .schedule 1, .leave 0]

theorem safetyRelease_losesAcceptedReleases :
    ¬∀ events after, Run WatchedStep (watchedInitial (some false) true) events
      after → Carried after := by
  intro always
  have lost : ∃ after,
      Run WatchedStep (watchedInitial (some false) true) lostRelease after ∧
      after.accepted = true ∧ ∀ slot, after.system.processes slot = none := by
    apply Exists.intro
    apply And.intro
    · apply Run.cons (watchedStep .connected)
      apply Run.cons (watchedStep (@SafetyStep.authenticated _ 0 _ rfl rfl))
      apply Run.cons (watchedStep (.schedule rfl))
      apply Run.cons (watchedStep (.taskCreated rfl))
      apply Run.cons (watchedStep (@SafetyStep.beginRelease _ 0 1 _ _ rfl rfl))
      apply Run.cons (watchedStep (.sendKeyboard rfl))
      apply Run.cons (watchedStep (.sendConsumer rfl))
      apply Run.cons (watchedStep (.completeRelease rfl rfl))
      apply Run.cons (watchedStep (@SafetyStep.authenticated _ 1 _ rfl rfl))
      apply Run.cons (watchedStep (.schedule rfl))
      apply Run.cons (watchedStep (.leave rfl))
      exact .nil _
    · refine ⟨rfl, ?_⟩
      intro slot
      match slot with
      | 0 => rfl
      | 1 => rfl
      | _ + 2 => rfl
  rcases lost with ⟨after, run, accepted, nobody⟩
  rcases (always lostRelease after run).accepted accepted with
    ⟨task, _, _, here⟩
  rw [nobody task] at here
  cases here

end Typxen.ExecutionSafety
