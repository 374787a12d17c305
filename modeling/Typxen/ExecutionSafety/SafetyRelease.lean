import Typxen.ExecutionSafety.ExecutionSafety
import Typxen.Foundation.Exclusion
import Typxen.Foundation.Transition

/-! # The safety release

`schedule_safety_release` and `safety_release_task` of `typx_ble_hid.c` among
the BLE callbacks and manual retries. A step is one critical section of
`s_safety_lock` or one report sent outside it. -/

namespace Typxen.ExecutionSafety

open Exclusion Transition

/-! ## Threads -/

/-- Where a call of `schedule_safety_release` is: before its critical section,
before the task is created, or before it undoes a creation that failed. -/
inductive CallPoint
  | enter
  | create
  | abandon
  deriving DecidableEq, Repr

/-- Where a `safety_release_task` is: before `begin_release`, before its two
reports, before `complete_release`, or out of its loop. -/
inductive TaskPoint
  | beginRelease
  | keyboard
  | consumer (keyboardReleased : Bool)
  | complete (keyboardReleased consumerReleased : Bool)
  | leave
  deriving DecidableEq, Repr

inductive Thread
  | call (generation : UInt32) (point : CallPoint)
  | task (generation : UInt32) (point : TaskPoint)
  deriving DecidableEq, Repr

def Thread.holds : Thread → Option UInt32
  | .call _ .enter => none
  | .call generation _ => some generation
  | .task generation _ => some generation

/-- What `s_safety_lock` protects. -/
structure Protected where
  safety : Safety
  safetyTaskGeneration : UInt32

abbrev System := Pool Protected Thread

def System.withSafety (system : System) (safety : Safety) : System :=
  system.withShared { system.shared with safety := safety }

def System.register (system : System) (generation : UInt32) : System :=
  system.withShared { system.shared with safetyTaskGeneration := generation }

section Threads

variable {system : System} {safety : Safety}

@[simp] theorem withSafety_safety :
    (system.withSafety safety).shared.safety = safety := rfl

@[simp] theorem withSafety_processes :
    (system.withSafety safety).processes = system.processes := rfl

end Threads

/-! ## Steps -/

inductive SafetyEvent
  | connected
  | disconnected
  | authenticated (success : Bool)
  | retry
  | schedule (caller : Nat)
  | createTask (caller : Nat) (created : Bool)
  | abandonTask (caller : Nat)
  | beginRelease (task : Nat) (begun : Bool)
  | sendKeyboard (task : Nat) (released : Bool)
  | sendConsumer (task : Nat) (released : Bool)
  | completeRelease (task : Nat)
  | leave (task : Nat)
  deriving DecidableEq, Repr

/-- `s_safety_task_generation` after the task for `generation` gave it up. -/
def clearTaskGeneration (current generation : UInt32) : UInt32 :=
  if current == generation then 0 else current

/-- The critical section of `schedule_safety_release`. -/
def scheduleSafetyRelease (system : System) (caller : Nat) (generation : UInt32) :
    System :=
  if generation == 0 then
    system.drop caller
  else if system.shared.safetyTaskGeneration == generation then
    system.drop caller
  else if system.shared.safety.connectionGeneration == generation &&
      system.shared.safety.connected && system.shared.safety.authenticated then
    (system.register generation).put caller (.call generation .create)
  else
    system.drop caller

theorem scheduleSafetyRelease_safety (system : System) (caller : Nat)
    (generation : UInt32) :
    (scheduleSafetyRelease system caller generation).shared.safety =
      system.shared.safety := by
  rw [scheduleSafetyRelease]
  split_ifs <;> rfl

/-- The decision after `complete_release`, on the snapshot taken with it. -/
def afterRelease (status : Snapshot) (generation : UInt32) : TaskPoint :=
  if status.ready then .leave
  else if status.generation != generation || !status.connected ||
      status.attempts ≥ releaseMaxAttempts then .leave
  else .beginRelease

inductive SafetyStep : System → SafetyEvent → System → Prop
  | connected {system : System} :
      SafetyStep system .connected
        (system.withSafety (typxExecutionSafetyConnected system.shared.safety))
  | disconnected {system : System} :
      SafetyStep system .disconnected
        (system.withSafety
          (typxExecutionSafetyDisconnected system.shared.safety))
  | authenticationFailed {system : System} :
      SafetyStep system (.authenticated false)
        (system.withSafety
          (typxExecutionSafetyAuthenticated system.shared.safety false))
  /-- The callback goes on to schedule the release. -/
  | authenticated {system : System} {caller : Nat} {safety : Safety} :
      safety = typxExecutionSafetyAuthenticated system.shared.safety true →
      system.processes caller = none →
      SafetyStep system (.authenticated true)
        ((system.withSafety safety).put caller
          (.call safety.connectionGeneration .enter))
  | retryDone {system : System} {accepted : Bool} {safety : Safety} :
      typxExecutionSafetyRequestRetry system.shared.safety =
        (accepted, safety) →
      accepted = false ∨ (typxExecutionSafetySnapshot safety).ready = true →
      SafetyStep system .retry (system.withSafety safety)
  | retry {system : System} {caller : Nat} {safety : Safety} :
      typxExecutionSafetyRequestRetry system.shared.safety = (true, safety) →
      (typxExecutionSafetySnapshot safety).ready = false →
      system.processes caller = none →
      SafetyStep system .retry
        ((system.withSafety safety).put caller
          (.call (typxExecutionSafetySnapshot safety).generation .enter))
  | schedule {system : System} {caller : Nat} {generation : UInt32} :
      system.processes caller = some (.call generation .enter) →
      SafetyStep system (.schedule caller)
        (scheduleSafetyRelease system caller generation)
  /-- The caller returns and the task takes its place. -/
  | taskCreated {system : System} {caller : Nat} {generation : UInt32} :
      system.processes caller = some (.call generation .create) →
      SafetyStep system (.createTask caller true)
        (system.put caller (.task generation .beginRelease))
  | taskNotCreated {system : System} {caller : Nat} {generation : UInt32} :
      system.processes caller = some (.call generation .create) →
      SafetyStep system (.createTask caller false)
        (system.put caller (.call generation .abandon))
  | abandonTask {system : System} {caller : Nat} {generation : UInt32} :
      system.processes caller = some (.call generation .abandon) →
      SafetyStep system (.abandonTask caller)
        ((system.register (clearTaskGeneration
          system.shared.safetyTaskGeneration generation)).drop caller)
  | beginRelease {system : System} {task : Nat} {generation : UInt32}
      {begun : Bool} {safety : Safety} :
      system.processes task = some (.task generation .beginRelease) →
      typxExecutionSafetyBeginRelease system.shared.safety generation =
        (begun, safety) →
      SafetyStep system (.beginRelease task begun)
        ((system.withSafety safety).put task
          (.task generation (if begun then .keyboard else .leave)))
  | sendKeyboard {system : System} {task : Nat} {generation : UInt32}
      {released : Bool} :
      system.processes task = some (.task generation .keyboard) →
      SafetyStep system (.sendKeyboard task released)
        (system.put task (.task generation (.consumer released)))
  | sendConsumer {system : System} {task : Nat} {generation : UInt32}
      {keyboardReleased released : Bool} :
      system.processes task =
        some (.task generation (.consumer keyboardReleased)) →
      SafetyStep system (.sendConsumer task released)
        (system.put task (.task generation (.complete keyboardReleased released)))
  | completeRelease {system : System} {task : Nat} {generation : UInt32}
      {keyboardReleased consumerReleased confirmed : Bool} {safety : Safety} :
      system.processes task =
        some (.task generation (.complete keyboardReleased consumerReleased)) →
      typxExecutionSafetyCompleteRelease system.shared.safety generation
        keyboardReleased consumerReleased = (confirmed, safety) →
      SafetyStep system (.completeRelease task)
        ((system.withSafety safety).put task
          (.task generation
            (afterRelease (typxExecutionSafetySnapshot safety) generation)))
  | leave {system : System} {task : Nat} {generation : UInt32} :
      system.processes task = some (.task generation .leave) →
      SafetyStep system (.leave task)
        ((system.register (clearTaskGeneration
          system.shared.safetyTaskGeneration generation)).drop task)

def initial (active : Option Bool) (cleared : Bool) : System where
  shared := ⟨(typxExecutionSafetyInit active cleared).2, 0⟩
  processes := fun _ => none

def SafetyEvent.isConnection : SafetyEvent → Bool
  | .connected => true
  | .disconnected => true
  | _ => false

def SafetyEvent.resets : SafetyEvent → Bool
  | .connected => true
  | .disconnected => true
  | .authenticated _ => true
  | _ => false

/-! ## What the threads can rely on -/

/-- Along a run without wrap-around: generations only grow, and no two threads
are the release task for one generation. -/
structure Sound (system : System) : Prop where
  attached : Attached system.shared.safety
  past : system.shared.safetyTaskGeneration.toNat ≤
    system.shared.safety.connectionGeneration.toNat
  /-- The task for a generation is registered, unless the connection has moved
  on. -/
  registered : ∀ slot thread generation, system.processes slot = some thread →
    thread.holds = some generation →
    system.shared.safetyTaskGeneration = generation ∨
      generation.toNat < system.shared.safety.connectionGeneration.toNat
  single : ∀ first second thread other generation,
    system.processes first = some thread → thread.holds = some generation →
    system.processes second = some other → other.holds = some generation →
    first = second

section Soundness

variable {system before after : System} {event : SafetyEvent} {slot : Nat}
  {thread : Thread} {safety : Safety}

theorem SafetyStep.generation (step : SafetyStep before event after) :
    after.shared.safety.connectionGeneration =
      if event.isConnection then
        nextGeneration before.shared.safety.connectionGeneration
      else before.shared.safety.connectionGeneration := by
  cases step with
  | connected => rfl
  | disconnected => rfl
  | authenticationFailed => exact authenticated_generation _ _
  | authenticated same _ =>
      rw [put_shared, withSafety_safety, same]
      exact authenticated_generation _ _
  | retryDone result _ =>
      have kept := requestRetry_generation before.shared.safety
      rw [result] at kept
      exact kept
  | retry result _ _ =>
      have kept := requestRetry_generation before.shared.safety
      rw [result] at kept
      exact kept
  | schedule _ =>
      rw [scheduleSafetyRelease_safety]
      rfl
  | @beginRelease task generation _ _ _ result =>
      have kept := beginRelease_generation before.shared.safety generation
      rw [result] at kept
      exact kept
  | @completeRelease task generation keyboard consumer _ _ _ result =>
      have kept := completeRelease_generation before.shared.safety generation
        keyboard consumer
      rw [result] at kept
      exact kept
  | _ => rfl

theorem Sound.of_threads (sound : Sound before)
    (sameSafety : after.shared.safety = before.shared.safety)
    (sameTask : after.shared.safetyTaskGeneration =
      before.shared.safetyTaskGeneration)
    (inherited : ∀ slot thread generation, after.processes slot = some thread →
      thread.holds = some generation →
      ∃ old, before.processes slot = some old ∧ old.holds = some generation) :
    Sound after where
  attached := by rw [sameSafety]; exact sound.attached
  past := by rw [sameSafety, sameTask]; exact sound.past
  registered := by
    intro slot thread generation here holds
    rcases inherited slot thread generation here holds with ⟨old, was, held⟩
    rw [sameSafety, sameTask]
    exact sound.registered slot old generation was held
  single := by
    intro first second thread other generation here holds there otherHolds
    rcases inherited first thread generation here holds with ⟨_, was, held⟩
    rcases inherited second other generation there otherHolds with
      ⟨_, otherWas, otherHeld⟩
    exact sound.single first second _ _ generation was held otherWas otherHeld

theorem Sound.put (sound : Sound system)
    (inherited : ∀ generation, thread.holds = some generation →
      ∃ old, system.processes slot = some old ∧ old.holds = some generation) :
    Sound (system.put slot thread) := by
  refine sound.of_threads rfl rfl ?_
  intro other now generation here holds
  rcases put_cases here with ⟨same, equal⟩ | ⟨_, was⟩
  · rw [same]
    exact inherited generation (equal ▸ holds)
  · exact ⟨now, was, holds⟩

theorem Sound.drop (sound : Sound system) (slot : Nat) :
    Sound (system.drop slot) := by
  refine sound.of_threads rfl rfl ?_
  intro other now generation here holds
  exact ⟨now, (drop_cases here).2, holds⟩

theorem Sound.withSafety (sound : Sound system)
    (attached : Attached safety)
    (grows : system.shared.safety.connectionGeneration.toNat ≤
      safety.connectionGeneration.toNat) :
    Sound (system.withSafety safety) where
  attached := attached
  past := Nat.le_trans sound.past grows
  registered := by
    intro slot thread generation here holds
    rcases sound.registered slot thread generation here holds with same | earlier
    · exact .inl same
    · exact .inr (Nat.lt_of_lt_of_le earlier grows)
  single := sound.single

theorem Sound.clear (sound : Sound system) {generation : UInt32}
    (here : system.processes slot = some thread)
    (holds : thread.holds = some generation) :
    Sound ((system.register (clearTaskGeneration
      system.shared.safetyTaskGeneration generation)).drop slot) := by
  have dropped := sound.drop slot
  refine {
    attached := sound.attached
    past := ?_
    registered := ?_
    single := dropped.single }
  · have past := sound.past
    change (clearTaskGeneration _ _).toNat ≤
      system.shared.safety.connectionGeneration.toNat
    rw [clearTaskGeneration]
    split
    · exact Nat.zero_le _
    · exact past
  · intro other now held there otherHolds
    rcases drop_cases there with ⟨different, was⟩
    rcases sound.registered other now held was otherHolds with same | earlier
    · left
      change clearTaskGeneration _ _ = held
      rw [clearTaskGeneration, if_neg]
      · exact same
      · intro cleared
        have equal : generation = held :=
          (eq_of_beq cleared).symm.trans same
        rw [equal] at holds
        exact different
          (sound.single other slot _ _ held was otherHolds here holds)
    · exact .inr earlier

/-- A registration is always for the current connection, and replaces only
those of earlier ones. -/
theorem Sound.schedule (sound : Sound system) (slot : Nat) (generation : UInt32) :
    Sound (scheduleSafetyRelease system slot generation) := by
  rw [scheduleSafetyRelease]
  split
  · exact sound.drop slot
  split
  · exact sound.drop slot
  split
  case isFalse => exact sound.drop slot
  rename_i _ unregistered current
  have same : system.shared.safety.connectionGeneration = generation := by
    simp only [Bool.and_eq_true, beq_iff_eq] at current
    exact current.1.1
  have other : system.shared.safetyTaskGeneration ≠ generation := by
    simpa using unregistered
  -- Whoever holds another generation holds one of an earlier connection.
  have earlier : ∀ slot thread held, system.processes slot = some thread →
      thread.holds = some held →
      held.toNat < system.shared.safety.connectionGeneration.toNat := by
    intro slot thread held here holds
    rcases sound.registered slot thread held here holds with equal | older
    · have past := sound.past
      have different : held.toNat ≠
          system.shared.safety.connectionGeneration.toNat := by
        rw [same]
        intro equalNat
        exact other (equal.trans (UInt32.toNat_inj.mp equalNat))
      rw [equal] at past
      omega
    · exact older
  have put : ∀ other thread held,
      ((system.register generation).put slot
        (.call generation .create)).processes other = some thread →
      thread.holds = some held →
      other = slot ∧ held = generation ∨
        other ≠ slot ∧ system.processes other = some thread := by
    intro other thread held there holds
    rcases put_cases there with ⟨equal, mine⟩ | elsewhere
    · rw [mine] at holds
      exact .inl ⟨equal, (Option.some.inj holds).symm⟩
    · exact .inr elsewhere
  refine {
    attached := sound.attached
    past := Nat.le_of_eq (congrArg UInt32.toNat same.symm)
    registered := ?_
    single := ?_ }
  · intro other thread held there holds
    rcases put other thread held there holds with ⟨_, equal⟩ | ⟨_, was⟩
    · exact .inl equal.symm
    · exact .inr (earlier other thread held was holds)
  · intro first second thread otherThread held there holds otherThere otherHolds
    rcases put first thread held there holds with ⟨equal, mine⟩ | ⟨_, was⟩
    · rcases put second otherThread held otherThere otherHolds with
        ⟨otherEqual, _⟩ | ⟨_, otherWas⟩
      · exact equal.trans otherEqual.symm
      · have older := earlier second otherThread held otherWas otherHolds
        rw [mine, same] at older
        omega
    · rcases put second otherThread held otherThere otherHolds with
        ⟨_, mine⟩ | ⟨_, otherWas⟩
      · have older := earlier first thread held was holds
        rw [mine, same] at older
        omega
      · exact sound.single first second thread otherThread held was holds otherWas
          otherHolds

theorem SafetyStep.sound (step : SafetyStep before event after)
    (room : before.shared.safety.connectionGeneration.toNat + 1 < 2 ^ 32)
    (sound : Sound before) : Sound after := by
  have next := nextGeneration_toNat room
  cases step with
  | connected =>
      apply sound.withSafety (connected_attached _)
      change _ ≤ (nextGeneration _).toNat
      omega
  | disconnected =>
      apply sound.withSafety (disconnected_attached _)
      change _ ≤ (nextGeneration _).toNat
      omega
  | authenticationFailed =>
      apply sound.withSafety (authenticated_attached _ _ sound.attached)
      rw [authenticated_generation]
  | authenticated same _ =>
      apply Sound.put
      · rw [same]
        apply sound.withSafety (authenticated_attached _ _ sound.attached)
        rw [authenticated_generation]
      · intro generation holds
        cases holds
  | retryDone result _ =>
      have attached := requestRetry_attached before.shared.safety sound.attached
      have kept := requestRetry_generation before.shared.safety
      rw [result] at attached kept
      exact sound.withSafety attached (Nat.le_of_eq (by rw [kept]))
  | retry result _ _ =>
      have attached := requestRetry_attached before.shared.safety sound.attached
      have kept := requestRetry_generation before.shared.safety
      rw [result] at attached kept
      apply (sound.withSafety attached (Nat.le_of_eq (by rw [kept]))).put
      intro generation holds
      cases holds
  | @schedule caller generation _ => exact sound.schedule caller generation
  | taskCreated here => exact sound.put fun _ holds => ⟨_, here, holds⟩
  | taskNotCreated here => exact sound.put fun _ holds => ⟨_, here, holds⟩
  | abandonTask here => exact sound.clear here rfl
  | @beginRelease task generation _ _ here result =>
      have attached := beginRelease_attached before.shared.safety generation
        sound.attached
      have kept := beginRelease_generation before.shared.safety generation
      rw [result] at attached kept
      apply (sound.withSafety attached (Nat.le_of_eq (by rw [kept]))).put
      exact fun _ holds => ⟨_, here, holds⟩
  | sendKeyboard here => exact sound.put fun _ holds => ⟨_, here, holds⟩
  | sendConsumer here => exact sound.put fun _ holds => ⟨_, here, holds⟩
  | @completeRelease task generation keyboard consumer _ _ here result =>
      have attached := completeRelease_attached before.shared.safety generation
        keyboard consumer sound.attached
      have kept := completeRelease_generation before.shared.safety generation
        keyboard consumer
      rw [result] at attached kept
      apply (sound.withSafety attached (Nat.le_of_eq (by rw [kept]))).put
      exact fun _ holds => ⟨_, here, holds⟩
  | leave here => exact sound.clear here rfl

theorem sound_initial (active : Option Bool) (cleared : Bool) :
    Sound (initial active cleared) where
  attached := init_attached active cleared
  past := Nat.zero_le _
  registered := by
    intro slot thread generation here
    cases here
  single := by
    intro first second thread other generation here
    cases here

/-- While there is room for its connection events, a run keeps the invariant
and counts them. -/
theorem sound_run {events : List SafetyEvent}
    (run : Run SafetyStep before events after)
    (room : before.shared.safety.connectionGeneration.toNat +
      events.countP SafetyEvent.isConnection + 1 < 2 ^ 32)
    (sound : Sound before) :
    Run (Guarded Sound (fun _ => True) SafetyStep) before events after ∧
      after.shared.safety.connectionGeneration.toNat =
        before.shared.safety.connectionGeneration.toNat +
          events.countP SafetyEvent.isConnection := by
  induction run with
  | nil state => exact ⟨.nil state, rfl⟩
  | @cons before middle after event events taken _ induction =>
      rw [List.countP_cons] at room ⊢
      have here :
          before.shared.safety.connectionGeneration.toNat + 1 < 2 ^ 32 := by
        omega
      have moved : middle.shared.safety.connectionGeneration.toNat =
          before.shared.safety.connectionGeneration.toNat +
            (if event.isConnection then 1 else 0) := by
        rw [taken.generation]
        split
        · exact nextGeneration_toNat here
        · rfl
      have still := taken.sound here sound
      rcases induction (by omega) still with ⟨rest, counted⟩
      exact ⟨.cons ⟨trivial, sound, taken, still⟩ rest, by omega⟩

end Soundness

end Typxen.ExecutionSafety
