import Typxen.HidRuntime.Host

/-! # What a calibration run may do next

A monitor that lets a key be attempted only on flags that were found clear
after the last callback, with a release sent since the key before. The runs
obey it. -/

namespace Typxen.HidRuntime

open Interaction WifiService Transition

/-! ## The monitor -/

structure CalibrationPhase where
  /-- The keys still to come, as long as none has failed. -/
  pending : Option (List (Vector UInt8 8))
  /-- A key was attempted, and no release has succeeded since. -/
  held : Bool
  /-- The flags were found clear, and no callback was made since. -/
  clear : Bool
  ended : Bool

inductive CalibrationMonitor : Monitor hidCalls CalibrationPhase
  | look {phase : CalibrationPhase} (runtime : HidRuntime) : phase.ended = false →
      CalibrationMonitor phase ⟨.runtime, runtime⟩
        { phase with
          clear := phase.clear || runtime.connected && !runtime.stopRequested }
  | release {phase : CalibrationPhase} (answer : Bool) : phase.ended = false →
      CalibrationMonitor phase (attempt allZero answer)
        { phase with held := phase.held && !answer, clear := false }
  | press {report : Vector UInt8 8} {rest : List (Vector UInt8 8)}
      (answer : Bool) : report ≠ allZero →
      CalibrationMonitor ⟨some (report :: rest), false, true, false⟩
        (attempt report answer)
        ⟨if answer then some rest else none, true, false, false⟩
  | wait {phase : CalibrationPhase} {delayMs : UInt32} (answer : Bool) :
      phase.ended = false →
      CalibrationMonitor phase ⟨.waitMs delayMs, answer⟩
        { phase with clear := false }
  | countdown {phase : CalibrationPhase} {secondsLeft : Nat} (answer : Unit) :
      phase.ended = false →
      CalibrationMonitor phase ⟨.countdown secondsLeft, answer⟩
        { phase with clear := false }
  | giveUp {phase : CalibrationPhase} {clearStop : Bool} (answer : Unit) :
      phase.ended = false →
      CalibrationMonitor phase ⟨.giveUp clearStop, answer⟩
        { phase with clear := false, ended := true }

section Obedience

variable {phase : CalibrationPhase}

structure Continues (before after : CalibrationPhase) : Prop where
  ended : after.ended = false
  pending : after.pending = before.pending
  held : before.held = false → after.held = false

theorem Continues.trans {before middle after : CalibrationPhase}
    (first : Continues before middle) (second : Continues middle after) :
    Continues before after where
  ended := second.ended
  pending := second.pending.trans first.pending
  held := fun up => second.held (first.held up)

def Released (before : CalibrationPhase) (error : HidError)
    (after : CalibrationPhase) : Prop :=
  Continues before after ∧ (error = .ok → after.held = false)

theorem waitMs_calibrates (delayMs : UInt32) (running : phase.ended = false) :
    Program.Obeys CalibrationMonitor (waitMs delayMs) phase
      fun _ final => Continues phase final := by
  intro runtime
  refine ⟨_, .look runtime running, ?_⟩
  change Program.Obeys CalibrationMonitor
    (if runtime.stopRequested || !runtime.connected then _ else _) _ _
  split
  · exact ⟨running, rfl, id⟩
  · intro answer
    exact ⟨_, .wait answer running, running, rfl, id⟩

theorem releaseAttempts_calibrates (attempts : Nat)
    (running : phase.ended = false) :
    Program.Obeys CalibrationMonitor (releaseAttempts attempts) phase
      (Released phase) := by
  induction attempts generalizing phase with
  | zero => exact ⟨⟨running, rfl, id⟩, by simp⟩
  | succ attempts induction =>
      intro answer
      refine ⟨_, .release answer running, ?_⟩
      have tried : Continues phase
          { phase with held := phase.held && !answer, clear := false } :=
        ⟨running, rfl, fun up => by simp [up]⟩
      cases answer with
      | true => exact ⟨tried, by simp⟩
      | false =>
          refine (@induction
            { phase with held := phase.held && !false, clear := false }
            running).mono ?_
          intro error final released
          exact ⟨tried.trans released.1, released.2⟩

theorem typxHidReleaseAll_calibrates (running : phase.ended = false) :
    Program.Obeys CalibrationMonitor typxHidReleaseAll phase
      (Released phase) := by
  intro runtime
  refine ⟨_, .look runtime running, ?_⟩
  have looked : Continues phase { phase with
      clear := phase.clear || runtime.connected && !runtime.stopRequested } :=
    ⟨running, rfl, id⟩
  change Program.Obeys CalibrationMonitor
    (if !runtime.connected then _ else _) _ _
  split
  · exact ⟨looked, by simp⟩
  · refine (releaseAttempts_calibrates 3 looked.ended).mono ?_
    intro error final released
    exact ⟨looked.trans released.1, released.2⟩

theorem releaseAndReturn_calibrates (error : HidError)
    (running : phase.ended = false) :
    Program.Obeys CalibrationMonitor (releaseAndReturn error) phase
      fun result final => result = error ∧ final.ended = false := by
  apply (typxHidReleaseAll_calibrates running).bind
  intro _ final released
  exact ⟨rfl, released.1.ended⟩

def Sent (rest : List (Vector UInt8 8)) (error : HidError)
    (after : CalibrationPhase) : Prop :=
  after.ended = false ∧
    (error = .ok → after.pending = some rest ∧ after.held = false)

theorem guarded_calibrates {error : HidError} {continued : Hid HidError}
    {rest : List (Vector UInt8 8)} (running : phase.ended = false)
    (passed : error = .ok →
      Program.Obeys CalibrationMonitor continued phase (Sent rest)) :
    Program.Obeys CalibrationMonitor
      (if error != .ok then releaseAndReturn error else continued) phase
      (Sent rest) := by
  split
  · rename_i failed
    refine (releaseAndReturn_calibrates error running).mono ?_
    intro result final returned
    refine ⟨returned.2, ?_⟩
    intro ok
    rw [← returned.1, ok] at failed
    cases failed
  · rename_i passes
    exact passed (by simpa using passes)

theorem sendCharacter_calibrates {character : Char}
    (typable : Typable character) (holdMs : UInt32)
    (rest : List (Vector UInt8 8)) :
    Program.Obeys CalibrationMonitor (sendCharacter character holdMs)
      ⟨some (keyReport character :: rest), false, true, false⟩ (Sent rest) := by
  rcases typable with ⟨known, nonzero⟩
  rcases Option.isSome_iff_exists.mp known with ⟨⟨modifier, keycode⟩, found⟩
  have report : keyReport character = #v[modifier, 0, keycode, 0, 0, 0, 0, 0] := by
    rw [keyReport, found]
    rfl
  rw [report] at nonzero ⊢
  rw [sendCharacter, found]
  simp only
  have presses : Program.Obeys CalibrationMonitor (typxHidKeyDown modifier keycode)
      ⟨some (#v[modifier, 0, keycode, 0, 0, 0, 0, 0] :: rest), false, true, false⟩
      fun error final => final.ended = false ∧
        (error = .ok → final.pending = some rest) := by
    intro runtime
    refine ⟨_, .look runtime rfl, ?_⟩
    change Program.Obeys CalibrationMonitor
      (if !runtime.connected then _ else _) _ _
    split
    · exact ⟨rfl, by simp⟩
    · intro answer
      refine ⟨_, .press answer nonzero, rfl, ?_⟩
      cases answer <;> simp
  apply presses.bind
  intro error pressed result
  apply guarded_calibrates result.1
  intro ok
  apply (waitMs_calibrates holdMs result.1).bind
  intro error held waited
  apply guarded_calibrates waited.ended
  intro _
  apply (typxHidReleaseAll_calibrates waited.ended).bind
  intro error up released
  apply guarded_calibrates released.1.ended
  intro releasedOk
  apply (waitMs_calibrates 60 released.1.ended).bind
  intro error final rested
  apply guarded_calibrates rested.ended
  intro _
  refine ⟨rested.ended, ?_⟩
  intro _
  have pending := rested.pending.trans
    (released.1.pending.trans (waited.pending.trans (result.2 ok)))
  exact ⟨pending, rested.held (released.2 releasedOk)⟩

def Finished (error : HidError) (after : CalibrationPhase) : Prop :=
  after.ended = true ∧
    (error = .ok → after.pending = some [] ∧ after.held = false)

theorem giveUp_calibrates {α : Type} {value : α} (clearStop : Bool)
    {post : α → CalibrationPhase → Prop} (running : phase.ended = false)
    (ends : post value { phase with clear := false, ended := true }) :
    Program.Obeys CalibrationMonitor
      (do Hid.call (.giveUp clearStop); return value) phase post := by
  intro answer
  exact ⟨_, .giveUp answer running, ends⟩

theorem finishTest_calibrates {error : HidError} (running : phase.ended = false)
    (typed : error = .ok → phase.pending = some []) :
    Program.Obeys CalibrationMonitor (finishTest error) phase Finished := by
  apply (typxHidReleaseAll_calibrates running).bind
  intro releaseError final released
  apply giveUp_calibrates true released.1.ended
  refine ⟨rfl, ?_⟩
  intro ok
  have both : error = .ok ∧ releaseError = .ok := by
    split at ok
    · rename_i failed
      simp [ok] at failed
    · rename_i passed
      simpa [ok] using passed
  exact ⟨released.1.pending.trans (typed both.1), released.2 both.2⟩

theorem sendCharacters_calibrates (holdMs : UInt32) (characters : List Char)
    (typable : ∀ character ∈ characters, Typable character)
    (running : phase.ended = false) (up : phase.held = false)
    (pending : phase.pending = some (characters.map keyReport)) :
    Program.Obeys CalibrationMonitor (sendCharacters holdMs characters) phase
      Finished := by
  induction characters generalizing phase with
  | nil => exact finishTest_calibrates running fun _ => pending
  | cons character rest induction =>
      intro runtime
      refine ⟨_, .look runtime running, ?_⟩
      change Program.Obeys CalibrationMonitor
        (if runtime.stopRequested || !runtime.connected then _ else _) _ _
      split
      · apply finishTest_calibrates
        · exact running
        · intro ok
          split at ok <;> cases ok
      · rename_i goesOn
        have clear : runtime.connected = true ∧ runtime.stopRequested = false := by
          simpa [and_comm] using goesOn
        have ready : { phase with clear := phase.clear ||
            runtime.connected && !runtime.stopRequested } =
            ⟨some (keyReport character :: rest.map keyReport), false, true,
              false⟩ := by
          simp [pending, up, running, clear]
        rw [ready]
        apply (sendCharacter_calibrates (typable character (.head _)) holdMs
          _).bind
        intro error sent result
        split
        · rename_i failed
          apply finishTest_calibrates result.1
          intro ok
          simp [ok] at failed
        · rename_i passed
          rcases result.2 (by simpa using passed) with ⟨pending, up⟩
          exact induction (fun other member => typable other (.tail _ member))
            result.1 up pending

def Begins (before : CalibrationPhase) (error : HidError)
    (after : CalibrationPhase) : Prop :=
  if error = .ok then Continues before after else after.ended = true

theorem countdownFrom_calibrates (secondsLeft : Nat)
    (running : phase.ended = false) :
    Program.Obeys CalibrationMonitor (countdownFrom secondsLeft) phase
      (Begins phase) := by
  induction secondsLeft generalizing phase with
  | zero => exact ⟨running, rfl, id⟩
  | succ secondsLeft induction =>
      intro answer
      refine ⟨_, .countdown answer running, ?_⟩
      have ticked : Continues phase { phase with clear := false } :=
        ⟨running, rfl, id⟩
      apply (waitMs_calibrates 1000 ticked.ended).bind
      intro error middle waited
      split
      · rename_i failed
        apply (typxHidReleaseAll_calibrates waited.ended).bind
        intro _ _ released
        apply giveUp_calibrates false released.1.ended
        rw [Begins, if_neg (by simpa using failed)]
      · refine (induction waited.ended).mono ?_
        intro error final begins
        have counted := ticked.trans waited
        rw [Begins] at begins ⊢
        split
        · rename_i ok
          rw [if_pos ok] at begins
          exact counted.trans begins
        · rename_i failed
          rwa [if_neg failed] at begins

theorem beginTaken_calibrates (running : phase.ended = false) :
    Program.Obeys CalibrationMonitor beginTaken phase (Begins phase) := by
  apply (typxHidReleaseAll_calibrates running).bind
  intro error middle released
  split
  · rename_i failed
    apply giveUp_calibrates false released.1.ended
    rw [Begins, if_neg (by simpa using failed)]
  · refine (countdownFrom_calibrates 5 released.1.ended).mono ?_
    intro error final begins
    rw [Begins] at begins ⊢
    split
    · rename_i ok
      rw [if_pos ok] at begins
      exact released.1.trans begins
    · rename_i failed
      rwa [if_neg failed] at begins

def startPhase (characters : List Char) : CalibrationPhase :=
  ⟨some (characters.map keyReport), false, false, false⟩

theorem runTaken_calibrates (holdMs : UInt32) (characters : List Char)
    (typable : ∀ character ∈ characters, Typable character) :
    Program.Obeys CalibrationMonitor (runTaken holdMs characters)
      (startPhase characters) Finished := by
  apply (beginTaken_calibrates rfl).bind
  intro error middle begins
  rw [Begins] at begins
  split
  · rename_i failed
    have notOk : error ≠ .ok := by simpa using failed
    rw [if_neg notOk] at begins
    exact ⟨begins, fun ok => absurd ok notOk⟩
  · rename_i passed
    rw [if_pos (by simpa using passed)] at begins
    exact sendCharacters_calibrates holdMs characters typable begins.ended
      (begins.held rfl) begins.pending

end Obedience

/-! ## What the monitor accepts -/

section Laws

variable {before after : CalibrationPhase} {event : Interaction.Event hidCalls}
  {trace : Interaction.Trace hidCalls}

theorem isKey_attempt_iff {report : Vector UInt8 8} {answer : Bool} :
    IsKey (attempt report answer) ↔ report ≠ allZero := by
  constructor
  · intro key
    rcases key with ⟨other, otherAnswer, nonzero, same⟩
    cases same
    exact nonzero
  · intro nonzero
    exact ⟨report, answer, nonzero, rfl⟩

theorem CalibrationMonitor.of_key (step : CalibrationMonitor before event after)
    (key : IsKey event) : before.held = false ∧ before.clear = true ∧
      before.ended = false ∧ after.held = true := by
  cases step with
  | press answer nonzero => exact ⟨rfl, rfl, rfl, rfl⟩
  | release answer running => exact absurd rfl (isKey_attempt_iff.mp key)
  | _ =>
      rcases key with ⟨report, answer, _, same⟩
      cases same

theorem CalibrationMonitor.of_held (step : CalibrationMonitor before event after)
    (held : before.held = true) :
    after.held = true ∧ ¬IsKey event ∨ event = attempt allZero true := by
  have notKey : ¬IsKey event := by
    intro key
    rw [(step.of_key key).1] at held
    cases held
  cases step with
  | release answer running =>
      cases answer with
      | true => exact .inr rfl
      | false => exact .inl ⟨by simp [held], notKey⟩
  | press answer nonzero => cases held
  | _ => exact .inl ⟨held, notKey⟩

def ReleaseFollows (trace : Interaction.Trace hidCalls) : Prop :=
  ∃ between rest, trace = between ++ attempt allZero true :: rest ∧
    ∀ event ∈ between, ¬IsKey event

theorem release_between (run : Monitor.Run CalibrationMonitor before trace after)
    (held : before.held = true) (up : after.held = false) :
    ReleaseFollows trace := by
  induction run with
  | nil =>
      rw [held] at up
      cases up
  | @cons before middle after event trace step _ induction =>
      rcases step.of_held held with ⟨still, notKey⟩ | rfl
      · rcases induction still up with ⟨between, rest, rfl, quiet⟩
        refine ⟨event :: between, rest, rfl, ?_⟩
        intro other member
        rcases List.mem_cons.mp member with rfl | later
        · exact notKey
        · exact quiet other later
      · exact ⟨[], trace, rfl, by simp⟩

theorem key_released {first second : Interaction.Trace hidCalls}
    (run : Monitor.Run CalibrationMonitor before (first ++ event :: second) after)
    (key : IsKey event) (up : after.held = false) : ReleaseFollows second := by
  rcases run_middle_iff.mp run with ⟨here, next, _, step, rest⟩
  exact release_between rest (step.of_key key).2.2.2 up

theorem keys_separated {first second third : Interaction.Trace hidCalls}
    {other : Interaction.Event hidCalls}
    (run : Monitor.Run CalibrationMonitor before
      (first ++ event :: (second ++ other :: third)) after)
    (key : IsKey event) (otherKey : IsKey other) :
    attempt allZero true ∈ second := by
  rw [← List.cons_append, ← List.append_assoc] at run
  rcases run_middle_iff.mp run with ⟨here, next, start, step, _⟩
  rcases key_released start key (step.of_key otherKey).1 with
    ⟨between, rest, rfl, _⟩
  simp

theorem keyAttempts_append (first second : Interaction.Trace hidCalls) :
    keyAttempts (first ++ second) = keyAttempts first ++ keyAttempts second :=
  List.filterMap_append

theorem attempt_mem {report : Vector UInt8 8} {answer : Bool}
    (member : (report, answer) ∈ keyAttempts trace) :
    attempt report answer ∈ trace := by
  rcases List.mem_filterMap.mp member with ⟨⟨request, other⟩, within, found⟩
  cases request with
  | sendReport sent =>
      simp only at found
      split at found
      · cases found
      · cases found
        exact within
  | _ => cases found

theorem CalibrationMonitor.keyAttempts (step : CalibrationMonitor before event after)
    {rest : List (Vector UInt8 8)} (pending : after.pending = some rest) :
    ∃ typed, before.pending = some (typed ++ rest) ∧
      HidRuntime.keyAttempts [event] = typed.map (·, true) := by
  cases step with
  | @press report others answer nonzero =>
      cases answer with
      | true =>
          cases pending
          exact ⟨[report], rfl, by simp [HidRuntime.keyAttempts, attempt, nonzero]⟩
      | false => cases pending
  | release answer running =>
      exact ⟨[], pending, by simp [HidRuntime.keyAttempts, attempt]⟩
  | _ => exact ⟨[], pending, rfl⟩

theorem keyAttempts_eq (run : Monitor.Run CalibrationMonitor before trace after)
    {rest : List (Vector UInt8 8)} (pending : after.pending = some rest) :
    ∃ typed, before.pending = some (typed ++ rest) ∧
      keyAttempts trace = typed.map (·, true) := by
  induction run with
  | nil => exact ⟨[], pending, rfl⟩
  | @cons before middle after event trace step _ induction =>
      rcases induction pending with ⟨later, middlePending, attempts⟩
      rcases step.keyAttempts middlePending with ⟨now, beforePending, attempted⟩
      refine ⟨now ++ later, by rw [List.append_assoc, beforePending], ?_⟩
      rw [← List.singleton_append, keyAttempts_append, attempted, attempts,
        List.map_append]

end Laws

end Typxen.HidRuntime
