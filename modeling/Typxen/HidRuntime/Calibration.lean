import Typxen.HidRuntime.CalibrationFlags
import Typxen.HidRuntime.LastReport

/-! # Calibration runs

No calibration run leaves a key down: the monitor separates its keys, the
flags stop it, and its last report releases all keys. -/

namespace Typxen.HidRuntime

open Interaction WifiService Transition

/-! ## Runs -/

structure Typed (characters : List Char) (trace : Interaction.Trace hidCalls) :
    Prop where
  keys : keyAttempts trace =
    characters.map fun character => (keyReport character, true)
  released : ∀ first event second, trace = first ++ event :: second →
    IsKey event → ReleaseFollows second
  last : ∃ first second, trace = first ++ attempt allZero true :: second ∧
    ∀ report, attempt report true ∉ second

structure Calibrated (characters : List Char) (before : Host)
    (trace : Interaction.Trace hidCalls) (result : HidError) (after : Host) :
    Prop where
  passed : Run calibrationEnvironment.step before trace after
  separated : ∀ first event second other third,
    trace = first ++ event :: (second ++ other :: third) →
    IsKey event → IsKey other → attempt allZero true ∈ second
  complete : result = .ok → Typed characters trace
  released : after.runtime.connected = true → (∃ event ∈ trace, IsKey event) →
    LastReleases trace
  stopped : ∀ first second here, trace = first ++ second →
    Run calibrationEnvironment.step before first here →
    Run calibrationEnvironment.step here second after →
    here.raised → ∀ event ∈ second, ¬IsKey event
  idle : result ≠ .busy → after.runtime.running = false

section Runs

variable {host after : Host} {trace : Interaction.Trace hidCalls}
  {characters : List Char} {holdMs : UInt32}

theorem exists_last {α : Type} {property : α → Prop} {items : List α}
    (some : ∃ item ∈ items, property item) :
    ∃ first item second, items = first ++ item :: second ∧ property item ∧
      ∀ other ∈ second, ¬property other := by
  induction items with
  | nil => simp at some
  | cons item rest induction =>
      by_cases later : ∃ other ∈ rest, property other
      · rcases induction later with ⟨first, last, second, rfl, holds, none⟩
        exact ⟨item :: first, last, second, rfl, holds, none⟩
      · have none : ∀ other ∈ rest, ¬property other :=
          fun other member holds => later ⟨other, member, holds⟩
        rcases some with ⟨found, member, holds⟩
        rcases List.mem_cons.mp member with rfl | within
        · exact ⟨[], found, rest, rfl, holds, none⟩
        · exact absurd holds (none found within)

theorem typed_of_run {start final : CalibrationPhase}
    (run : Monitor.Run CalibrationMonitor start trace final)
    (pending : start.pending = some (characters.map keyReport))
    (finished : final.pending = some [] ∧ final.held = false)
    (some : characters ≠ []) : Typed characters trace := by
  have keys : keyAttempts trace =
      characters.map fun character => (keyReport character, true) := by
    rcases keyAttempts_eq run finished.1 with ⟨typed, before, attempts⟩
    rw [pending, List.append_nil] at before
    rw [attempts, ← Option.some.inj before, List.map_map]
    rfl
  have released : ∀ first event second, trace = first ++ event :: second →
      IsKey event → ReleaseFollows second := by
    intro first event second split key
    rw [split] at run
    exact key_released run key finished.2
  refine ⟨keys, released, ?_⟩
  have succeeded : ∃ event ∈ trace, ∃ report, event = attempt report true := by
    rcases List.exists_mem_of_ne_nil characters some with ⟨character, member⟩
    have sent : (keyReport character, true) ∈ keyAttempts trace := by
      rw [keys]
      exact List.mem_map_of_mem member
    exact ⟨_, attempt_mem sent, _, rfl⟩
  rcases exists_last succeeded with ⟨first, _, second, split, ⟨report, rfl⟩, none⟩
  have releases : report = allZero := by
    by_contra nonzero
    rcases released first _ second split (isKey_attempt_iff.mpr nonzero) with
      ⟨between, rest, rfl, _⟩
    exact none (attempt allZero true) (by simp) ⟨allZero, rfl⟩
  rw [releases] at split
  exact ⟨first, second, split, fun report member => none _ member ⟨report, rfl⟩⟩

theorem runTaken_calibrated (calm : ¬host.raised) (some : characters ≠ [])
    (typable : ∀ character ∈ characters, Typable character) :
    Program.Ensures calibrationEnvironment (runTaken holdMs characters) host
      (Calibrated characters host) := by
  intro trace result after execution
  rcases (runTaken_calibrates holdMs characters typable).run execution with
    ⟨final, run, finished⟩
  have steps := execution.steps
  have watches : Watches (startPhase characters) host :=
    ⟨fun _ raised => absurd raised calm, nofun, nofun⟩
  exact {
    passed := steps
    separated := by
      intro first event second other third split key otherKey
      rw [split] at run
      exact keys_separated run key otherKey
    complete := fun ok => typed_of_run run rfl (finished.2 ok) some
    released := by
      intro connected _
      exact @runTaken_endsReleased (fun _ => True) holdMs characters host _ _ _
        execution trivial connected
    stopped := by
      intro first second here split start rest raised
      rw [split] at run
      rcases run_append_iff.mp run with ⟨phase, earlier, later⟩
      have watching := Watches.run watches (earlier.beside start)
      exact no_key_after watching raised (later.beside rest)
    idle := fun _ => (Watches.run watches (run.beside steps)).ended finished.1 }

theorem split_of_key {first second : Interaction.Trace hidCalls}
    {event other : Interaction.Event hidCalls} (notKey : ¬IsKey other)
    (split : other :: trace = first ++ event :: second) (key : IsKey event) :
    ∃ rest, first = other :: rest ∧ trace = rest ++ event :: second := by
  cases first with
  | nil =>
      cases split
      exact absurd key notKey
  | cons head rest =>
      cases split
      exact ⟨rest, rfl, rfl⟩

theorem acquire_notKey (answer : HidError) :
    ¬IsKey (⟨.acquire, answer⟩ : Interaction.Event hidCalls) := by
  intro key
  rcases key with ⟨report, answer, _, same⟩
  cases same

theorem refused_calibrated {answer : HidError} (refused : answer ≠ .ok)
    (step : calibrationEnvironment.step host ⟨.acquire, answer⟩ after)
    (idle : answer ≠ .busy → after.runtime.running = false) :
    Calibrated characters host [⟨.acquire, answer⟩] answer after := by
  have keyless : ∀ event ∈ [(⟨.acquire, answer⟩ : Interaction.Event hidCalls)],
      ¬IsKey event := by
    intro event member
    rw [List.mem_singleton.mp member]
    exact acquire_notKey answer
  exact {
    passed := .cons step (.nil _)
    separated := by
      intro first event second other third split key _
      rcases split_of_key (acquire_notKey answer) split key with ⟨rest, _, none⟩
      simp at none
    complete := fun ok => absurd ok refused
    released := by
      intro _ some
      rcases some with ⟨event, member, key⟩
      exact absurd key (keyless event member)
    stopped := by
      intro first second here split _ _ _ event member
      apply keyless event
      rw [split]
      exact List.mem_append_right _ member
    idle := idle }

theorem acquire_deterministic {answer : HidError} {next other : Host}
    (step : calibrationEnvironment.step host ⟨.acquire, answer⟩ next)
    (otherStep : calibrationEnvironment.step host ⟨.acquire, answer⟩ other) :
    next = other := by
  rcases next with ⟨runtime, raised⟩
  rcases other with ⟨otherRuntime, otherRaised⟩
  have sameRuntime : runtime = otherRuntime := step.1.2.trans otherStep.1.2.symm
  have sameRaised : raised = otherRaised := step.2.trans otherStep.2.symm
  rw [sameRuntime, sameRaised]

theorem Calibrated.acquired {middle : Host} {result : HidError}
    (calibrated : Calibrated characters middle trace result after)
    (calm : ¬host.raised)
    (step : calibrationEnvironment.step host ⟨.acquire, .ok⟩ middle) :
    Calibrated characters host (⟨.acquire, .ok⟩ :: trace) result after where
  passed := .cons step calibrated.passed
  separated := by
    intro first event second other third split key otherKey
    rcases split_of_key (acquire_notKey .ok) split key with ⟨rest, _, within⟩
    exact calibrated.separated rest event second other third within key otherKey
  complete := by
    intro ok
    have typed := calibrated.complete ok
    refine ⟨typed.keys, ?_, ?_⟩
    · intro first event second split key
      rcases split_of_key (acquire_notKey .ok) split key with ⟨rest, _, within⟩
      exact typed.released rest event second within key
    · rcases typed.last with ⟨first, second, split, none⟩
      exact ⟨_ :: first, second, congrArg _ split, none⟩
  released := by
    intro connected some
    rcases some with ⟨event, member, key⟩
    rcases List.mem_cons.mp member with rfl | later
    · exact absurd key (acquire_notKey .ok)
    · exact (calibrated.released connected ⟨event, later, key⟩).prepend [_]
  stopped := by
    intro first second here split start rest raised
    cases first with
    | nil =>
        rw [run_nil_iff.mp start] at raised
        exact absurd raised calm
    | cons head first =>
        cases split
        rcases run_cons_iff.mp start with ⟨next, taken, start⟩
        rw [acquire_deterministic taken step] at start
        exact calibrated.stopped first second here rfl start rest raised
  idle := calibrated.idle

theorem runCharacters_calibrated (initialised : Initialised host.runtime)
    (calm : ¬host.raised) (some : characters ≠ [])
    (typable : ∀ character ∈ characters, Typable character) :
    Program.Ensures calibrationEnvironment (runCharacters holdMs characters) host
      (Calibrated characters host) := by
  refine Program.ensures_ask.mpr ?_
  intro answer middle step
  change Program.Ensures calibrationEnvironment
    (if answer != .ok then _ else runTaken holdMs characters) _ _
  split
  · rename_i refused
    have notOk : answer ≠ .ok := by simpa using refused
    refine Program.ensures_done.mpr (refused_calibrated notOk step ?_)
    intro notBusy
    have kept : middle.runtime = host.runtime := step.1.2.trans (if_neg notOk)
    rw [kept]
    by_contra running
    have connected := initialised.connected (by simpa using running)
    have answered := step.1.1
    simp only [connected, (by simpa using running : host.runtime.running = true)]
      at answered
    exact notBusy answered
  · rename_i acquired
    have ok : answer = .ok := by simpa using acquired
    subst ok
    have still : ¬middle.raised := by
      rw [step.2]
      exact calm
    refine (runTaken_calibrated still some typable).mono ?_
    intro trace result after calibrated
    exact calibrated.acquired calm step

theorem typable_of_all {characters : List Char}
    (every : characters.all (fun character => decide (Typable character)) = true) :
    ∀ character ∈ characters, Typable character := by
  intro character member
  exact of_decide_eq_true (List.all_eq_true.mp every character member)

theorem calibrationPattern_typable :
    ∀ character ∈ calibrationPattern, Typable character :=
  typable_of_all (by decide)

def testCharacters (characterCount : UInt32) : List Char :=
  (List.range characterCount.toNat).map fun index =>
    calibrationPattern[index % calibrationPattern.length]!

theorem testCharacters_typable (characterCount : UInt32) :
    ∀ character ∈ testCharacters characterCount, Typable character := by
  intro character member
  rcases List.mem_map.mp member with ⟨index, _, rfl⟩
  apply calibrationPattern_typable
  have within : index % calibrationPattern.length < calibrationPattern.length :=
    Nat.mod_lt _ (by decide)
  rw [getElem!_pos calibrationPattern _ within]
  exact List.getElem_mem within

def shiftCharacters : List Char := ['A', 'a', '!', '_', '\x7b', '\x7d']

/-- No calibration run leaves a key down, whatever the callbacks answer and
whatever happens during them. -/
theorem calibration_keysReleased (initialised : Initialised host.runtime)
    (calm : ¬host.raised) (supported : typxHidHoldSupported holdMs = true) :
    (∀ characterCount : UInt32, 1 ≤ characterCount → characterCount ≤ 1080 →
      Program.Ensures calibrationEnvironment
        (typxHidRunTest holdMs characterCount) host
        (Calibrated (testCharacters characterCount) host)) ∧
    Program.Ensures calibrationEnvironment (typxHidRunShiftTest holdMs) host
      (Calibrated shiftCharacters host) := by
  constructor
  · intro characterCount positive bounded
    have accepted : (!typxHidHoldSupported holdMs || characterCount == 0 ||
        characterCount > calibrationMaxCharacters) = false := by
      have nonzero : characterCount ≠ 0 := by
        intro zero
        rw [zero] at positive
        exact absurd positive (by decide)
      have within : ¬characterCount > calibrationMaxCharacters :=
        UInt32.not_lt.mpr bounded
      simp [supported, nonzero, within]
    have some : testCharacters characterCount ≠ [] := by
      intro none
      have empty : characterCount.toNat = 0 := by
        simpa [testCharacters] using none
      rw [UInt32.le_iff_toNat_le, empty] at positive
      exact absurd positive (by decide)
    rw [typxHidRunTest, accepted]
    exact runCharacters_calibrated initialised calm some
      (testCharacters_typable characterCount)
  · rw [typxHidRunShiftTest, supported]
    exact runCharacters_calibrated initialised calm (by decide)
      (typable_of_all (by decide))

end Runs

/-! ## One run -/

def quietAnswer : (request : HidCall) → Host → HidCall.Answer request × Host
  | .acquire, host =>
      if !host.runtime.connected then (.disconnected, host)
      else if host.runtime.running then (.busy, host)
      else (.ok, { host with runtime := taken host.runtime })
  | .runtime, host => (host.runtime, host)
  | .sendReport _, host => (true, host.happen [])
  | .waitMs _, host => (true, host.happen [])
  | .countdown _, host => ((), host.happen [])
  | .giveUp clearStop, host =>
      ((), { host with runtime := givenUp host.runtime clearStop })

theorem quietAnswer_calibrates (request : HidCall) (before : Host)
    (answer : HidCall.Answer request) (after : Host)
    (step : quietAnswer request before = (answer, after)) :
    calibrationEnvironment request before answer after := by
  cases request with
  | acquire =>
      simp only [quietAnswer] at step
      split at step
      · rename_i gone
        cases step
        refine ⟨⟨?_, ?_⟩, rfl⟩
        · exact (if_pos gone).symm
        · rfl
      · rename_i connected
        split at step
        · rename_i running
          cases step
          exact ⟨⟨by rw [if_neg connected, if_pos running], rfl⟩, rfl⟩
        · rename_i free
          cases step
          exact ⟨⟨by rw [if_neg connected, if_neg free], rfl⟩, rfl⟩
  | runtime =>
      cases step
      exact ⟨⟨rfl, rfl⟩, rfl⟩
  | giveUp clearStop =>
      cases step
      exact ⟨rfl, rfl⟩
  | _ =>
      cases step
      exact ⟨[], rfl⟩

def connectedHost : Host := ⟨⟨true, false, false⟩, False⟩

def shiftRun : Interaction.Trace hidCalls × HidError × Host :=
  (typxHidRunShiftTest 8).run quietAnswer connectedHost

theorem calibration_keysReleased_shift :
    shiftRun.2.1 = .ok ∧
      Calibrated shiftCharacters connectedHost shiftRun.1 .ok shiftRun.2.2 := by
  have result : shiftRun.2.1 = .ok := by decide +kernel
  have execution := (Program.exec_run quietAnswer (typxHidRunShiftTest 8)
    connectedHost).weaken quietAnswer_calibrates
  have initialised : Initialised connectedHost.runtime :=
    .happened .connected .init
  have calibrated := (calibration_keysReleased initialised id (by decide)).2
    _ _ _ execution
  rw [← shiftRun, result] at calibrated
  exact ⟨result, calibrated⟩

end Typxen.HidRuntime
