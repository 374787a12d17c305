import Typxen.Executor.KeySafety

/-! # The stop boundary

Every press and every wait follows a poll that found no stop, with nothing
between the two but reads of the clock. A stop flag that rises in any other
callback is therefore seen before the next key or wait. -/

namespace Typxen.Executor

open Interaction Protocol ByteString

/-! ## The stop monitor -/

inductive StopPhase
  /-- A poll found no stop, and only the clock was read since. -/
  | clear
  | busy
  /-- A poll found the stop. -/
  | told
  | aborting (released : Bool)
  | released
  | over (result : ExecutorError)

def StopPhase.Running (phase : StopPhase) : Prop :=
  phase = .clear ∨ phase = .busy ∨ phase = .released

def Bounded : Callback → Bool
  | .stopRequested => true
  | .waitUs _ => true
  | .keyDown _ _ => true
  | .releaseAll => true
  | .terminal _ _ _ => true
  | _ => false

def abortError (released : Bool) : ExecutorError :=
  if released then .stopped else .releaseFailed

def abortStatus (released : Bool) : TerminalStatus :=
  if released then .aborted else .error

inductive StopMonitor : Monitor callbacks StopPhase
  | poll {phase : StopPhase} (answer : Bool) : phase.Running →
      StopMonitor phase ⟨.stopRequested, answer⟩ (if answer then .told else .clear)
  | clock (time : UInt64) : StopMonitor .clear ⟨.nowUs, time⟩ .clear
  | press {modifier keycode : UInt8} (answer : Bool) :
      StopMonitor .clear ⟨.keyDown modifier keycode, answer⟩ .busy
  | wait {delayUs : UInt32} (answer : Bool) :
      StopMonitor .clear ⟨.waitUs delayUs, answer⟩ .busy
  | release {phase : StopPhase} (answer : Bool) : phase.Running →
      StopMonitor phase ⟨.releaseAll, answer⟩ .released
  | report (status : TerminalStatus) (error : ExecutorError)
      (protocolError : ProtocolError) (answer : Unit) :
      StopMonitor .released ⟨.terminal status error protocolError, answer⟩
        (.over error)
  | abort (released : Bool) :
      StopMonitor .told ⟨.releaseAll, released⟩ (.aborting released)
  | reportStop (released : Bool) (answer : Unit) :
      StopMonitor (.aborting released)
        ⟨.terminal (abortStatus released) (abortError released) .ok, answer⟩
        (.over (abortError released))
  | other {phase : StopPhase} {call : Callback} (answer : Callback.Answer call) :
      phase.Running → Bounded call = false →
      StopMonitor phase ⟨call, answer⟩ .busy

def Closed (result : ExecutorError) (phase : StopPhase) : Prop :=
  phase = .over result

section Obedience

variable {phase : StopPhase}

theorem StopPhase.Running.clear : StopPhase.clear.Running := .inl rfl

theorem StopPhase.Running.busy : StopPhase.busy.Running := .inr (.inl rfl)

theorem StopPhase.Running.released : StopPhase.released.Running :=
  .inr (.inr rfl)

theorem finish_bounded (status : TerminalStatus) (error : ExecutorError)
    (protocolError : ProtocolError) (running : phase.Running) :
    Program.Obeys StopMonitor (finish status error protocolError) phase
      Closed := by
  intro released
  refine ⟨.released, .release released running, ?_⟩
  intro answered
  exact ⟨_, .report _ _ protocolError answered, rfl⟩

theorem finish_told :
    Program.Obeys StopMonitor (finish .aborted .stopped .ok) .told Closed := by
  intro released
  refine ⟨.aborting released, .abort released, ?_⟩
  intro answered
  exact ⟨_, .reportStop released answered, rfl⟩

def WaitPost (waitError : ExecutorError) (phase : StopPhase) : Prop :=
  waitError = .stopped ∧ phase = .told ∨ waitError ≠ .stopped ∧ phase.Running

theorem waitChecked_bounded (delayUs : UInt32) (running : phase.Running) :
    Program.Obeys StopMonitor (waitChecked delayUs) phase WaitPost := by
  unfold waitChecked
  split
  · exact .inr ⟨by simp, running⟩
  intro stopped
  refine ⟨_, .poll stopped running, ?_⟩
  cases stopped with
  | true => exact .inl ⟨rfl, rfl⟩
  | false =>
  intro before
  refine ⟨_, .clock before, ?_⟩
  intro waited
  refine ⟨_, .wait waited, ?_⟩
  cases waited with
  | true =>
      intro after
      refine ⟨_, @StopMonitor.other .busy .nowUs after .busy rfl, ?_⟩
      apply Or.inr
      constructor
      · split <;> simp
      · exact .busy
  | false =>
      intro stopped
      refine ⟨_, .poll stopped .busy, ?_⟩
      cases stopped with
      | true => exact .inl ⟨rfl, rfl⟩
      | false => exact .inr ⟨by simp, .clear⟩

theorem wait_bounded {delayUs : UInt32} {continued : Firmware ExecutorError}
    (running : phase.Running)
    (rest : ∀ later : StopPhase, later.Running →
      Program.Obeys StopMonitor continued later Closed) :
    Program.Obeys StopMonitor
      (waitChecked delayUs >>= fun waitError =>
        if waitError != .ok then finishWait waitError else continued)
      phase Closed := by
  apply (waitChecked_bounded delayUs running).bind
  intro waitError later result
  rcases result with ⟨told, same⟩ | ⟨_, still⟩
  · rw [told, same]
    exact finish_told
  · split
    · exact finish_bounded _ _ _ still
    · exact rest later still

theorem quiet_bounded {α : Type} {program : Firmware α} (quiet : Quiet program)
    (running : phase.Running) :
    Program.Obeys StopMonitor program phase fun _ final => final.Running := by
  induction program generalizing phase with
  | done value => exact running
  | ask request next induction =>
      intro answer
      have other : Bounded request = false := by
        cases request <;> first | rfl | cases quiet.1
      exact ⟨.busy, .other answer running other,
        induction answer (quiet.2 answer) .busy⟩

theorem executeRecord_bounded {schedule : VerifiedSchedule} {index : UInt32}
    {record : Record} {continued : Firmware ExecutorError}
    (running : phase.Running)
    (rest : ∀ later : StopPhase, later.Running →
      Program.Obeys StopMonitor continued later Closed) :
    Program.Obeys StopMonitor (executeRecord schedule index record continued)
      phase Closed := by
  unfold executeRecord
  apply wait_bounded running
  intro phase running stopped
  refine ⟨_, .poll stopped running, ?_⟩
  cases stopped with
  | true => exact finish_told
  | false =>
  intro accepted
  refine ⟨_, .press accepted, ?_⟩
  cases accepted with
  | false => exact finish_bounded _ _ _ .busy
  | true =>
  apply wait_bounded .busy
  intro phase running released
  refine ⟨_, .release released running, ?_⟩
  cases released with
  | false =>
      intro again
      refine ⟨_, .release again .released, ?_⟩
      intro answered
      exact ⟨_, .report _ _ _ answered, rfl⟩
  | true =>
  intro reported
  refine ⟨_, @StopMonitor.other .released (.progress _ _ _) reported .released rfl,
    ?_⟩
  intro stopped
  refine ⟨_, .poll stopped .busy, ?_⟩
  cases stopped with
  | true => exact finish_told
  | false => exact wait_bounded .clear rest

theorem executeFrom_bounded (schedule : VerifiedSchedule) (remaining : Nat)
    (index : UInt32) (running : phase.Running) :
    Program.Obeys StopMonitor (executeFrom schedule remaining index) phase
      Closed := by
  induction remaining generalizing index phase with
  | zero => exact finish_bounded _ _ _ running
  | succ remaining induction =>
      intro stopped
      refine ⟨_, .poll stopped running, ?_⟩
      cases stopped with
      | true => exact finish_told
      | false =>
          apply (quiet_bounded (typxProtocolV1ReadRecord_quiet schedule index)
            .clear).bind
          intro result later still
          cases result with
          | error protocolError => exact finish_bounded _ _ _ still
          | ok record =>
              exact executeRecord_bounded still fun _ =>
                induction (index + 1)

theorem typxExecutorRun_bounded (schedule : VerifiedSchedule) :
    Program.Obeys StopMonitor (typxExecutorRun schedule) .busy Closed := by
  unfold typxExecutorRun
  split
  · exact finish_bounded _ _ _ .busy
  · exact executeFrom_bounded _ _ _ .busy

end Obedience

/-! ## What the monitor accepts -/

section Laws

variable {phase final : StopPhase} {event : Event} {result : ExecutorError}
  {trace : Trace}

theorem StopMonitor.clear_of_keyDown (step : StopMonitor phase event final)
    (pressed : IsKeyDown event) : phase = .clear := by
  rcases pressed with ⟨modifier, keycode, equal⟩
  cases step with
  | press answer => rfl
  | other answer running unbounded =>
      cases equal
      cases unbounded
  | _ => cases equal

theorem StopMonitor.clear_of_wait (step : StopMonitor phase event final)
    (waited : IsWait event) : phase = .clear := by
  rcases waited with ⟨delayUs, equal⟩
  cases step with
  | wait answer => rfl
  | other answer running unbounded =>
      cases equal
      cases unbounded
  | _ => cases equal

theorem StopMonitor.told_of_poll
    (step : StopMonitor phase ⟨.stopRequested, true⟩ final) : final = .told := by
  cases step with
  | poll answer running => rfl
  | other answer running unbounded => cases unbounded

theorem StopPhase.Running.ne_told (running : phase.Running) : phase ≠ .told := by
  rcases running with equal | equal | equal <;> simp [equal]

theorem StopPhase.Running.ne_aborting (running : phase.Running)
    (released : Bool) : phase ≠ .aborting released := by
  rcases running with equal | equal | equal <;> simp [equal]

theorem StopPhase.Running.ne_over (running : phase.Running) :
    phase ≠ .over result := by
  rcases running with equal | equal | equal <;> simp [equal]

theorem StopMonitor.of_told (step : StopMonitor .told event final) :
    ∃ released, event = ⟨.releaseAll, released⟩ ∧ final = .aborting released := by
  cases step with
  | abort released => exact ⟨released, rfl, rfl⟩
  | poll answer running => exact absurd rfl running.ne_told
  | release answer running => exact absurd rfl running.ne_told
  | other answer running unbounded => exact absurd rfl running.ne_told

theorem StopMonitor.of_aborting {released : Bool}
    (step : StopMonitor (.aborting released) event final) :
    event = ⟨.terminal (abortStatus released) (abortError released) .ok, ()⟩ ∧
      final = .over (abortError released) := by
  cases step with
  | reportStop answer => exact ⟨rfl, rfl⟩
  | poll answer running => exact absurd rfl (running.ne_aborting released)
  | release answer running => exact absurd rfl (running.ne_aborting released)
  | other answer running unbounded =>
      exact absurd rfl (running.ne_aborting released)

theorem StopMonitor.over_stuck : ¬StopMonitor (.over result) event final := by
  intro step
  cases step with
  | poll answer running => exact running.ne_over rfl
  | release answer running => exact running.ne_over rfl
  | other answer running unbounded => exact running.ne_over rfl

def StopPhase.Releasing (phase : StopPhase) : Prop :=
  phase = .released ∨ ∃ released, phase = .aborting released

theorem StopMonitor.terminal_of_over
    (step : StopMonitor phase event (.over result)) :
    phase.Releasing ∧ ∃ status protocolError,
      event = ⟨.terminal status result protocolError, ()⟩ := by
  generalize equal : StopPhase.over result = next at step
  cases step with
  | report status error protocolError answer =>
      cases equal
      exact ⟨.inl rfl, status, protocolError, rfl⟩
  | reportStop released answer =>
      cases equal
      exact ⟨.inr ⟨released, rfl⟩, _, _, rfl⟩
  | poll answer running => cases answer <;> cases equal
  | _ => cases equal

theorem StopMonitor.release_of_releasing
    (step : StopMonitor phase event final) (releasing : final.Releasing) :
    ∃ answer, event = ⟨.releaseAll, answer⟩ := by
  cases step with
  | release answer running => exact ⟨answer, rfl⟩
  | abort released => exact ⟨released, rfl⟩
  | poll answer running =>
      rcases releasing with equal | ⟨_, equal⟩ <;> cases answer <;> cases equal
  | _ => rcases releasing with equal | ⟨_, equal⟩ <;> cases equal

theorem release_then_terminal
    (run : Monitor.Run StopMonitor .busy trace (.over result)) :
    ∃ prior answer status protocolError,
      trace = prior ++ [⟨.releaseAll, answer⟩,
        ⟨.terminal status result protocolError, ()⟩] := by
  rcases List.eq_nil_or_concat' trace with rfl | ⟨earlier, report, rfl⟩
  · cases Transition.run_nil_iff.mp run
  rcases Transition.run_append_iff.mp run with ⟨middle, start, last⟩
  rcases Transition.run_cons_iff.mp last with ⟨ended, step, rest⟩
  cases Transition.run_nil_iff.mp rest
  rcases step.terminal_of_over with ⟨releasing, status, protocolError, rfl⟩
  have outside : ¬StopPhase.busy.Releasing := by
    intro releasing
    rcases releasing with equal | ⟨_, equal⟩ <;> cases equal
  have enters : ∀ before event after, StopMonitor before event after →
      after.Releasing → ∃ answer, event = ⟨.releaseAll, answer⟩ :=
    fun _ _ _ step => step.release_of_releasing
  rcases start.last_label enters outside releasing with
    ⟨prior, _, rfl, answer, rfl⟩
  exact ⟨prior, answer, status, protocolError, by simp⟩

/-- From any call before the report on, a release comes right before it. -/
theorem release_follows {first second : Trace} (notTerminal : ¬IsTerminal event)
    (run : Monitor.Run StopMonitor .busy (first ++ event :: second)
      (.over result)) :
    ∃ prior answer status protocolError,
      event :: second = prior ++ [⟨.releaseAll, answer⟩,
        ⟨.terminal status result protocolError, ()⟩] := by
  rcases release_then_terminal run with
    ⟨prior, answer, status, protocolError, split⟩
  rcases List.append_eq_append_iff.mp split with
    ⟨more, _, tail⟩ | ⟨more, _, tail⟩
  · exact ⟨more, answer, status, protocolError, tail⟩
  · cases more with
    | nil => exact ⟨[], answer, status, protocolError, tail.symm⟩
    | cons release more =>
        cases more with
        | nil =>
            cases tail
            exact absurd ⟨status, result, protocolError, rfl⟩ notTerminal
        | cons report more => simp at tail

theorem after_told_poll {first second : Trace}
    (run : Monitor.Run StopMonitor .busy
      (first ++ (⟨.stopRequested, true⟩ : Event) :: second) (.over result)) :
    ∃ released,
      second = [⟨.releaseAll, released⟩,
        ⟨.terminal (abortStatus released) result .ok, ()⟩] ∧
      result = abortError released := by
  rcases Transition.run_middle_iff.mp run with ⟨here, next, _, poll, rest⟩
  rw [poll.told_of_poll] at rest
  cases rest with | cons release rest =>
  rcases release.of_told with ⟨released, rfl, rfl⟩
  cases rest with | cons report rest =>
  rcases report.of_aborting with ⟨rfl, rfl⟩
  cases rest with
  | nil => exact ⟨released, rfl, rfl⟩
  | cons step _ => exact absurd step StopMonitor.over_stuck

end Laws

/-! ## The stop flag -/

/-- A flag behind the callbacks that the polls read. Once up it stays up, and
it rises neither in a poll nor while the clock is read; it may rise in any
other callback. -/
structure StopFlag {σ : Type} (environment : Environment callbacks σ)
    (flag : σ → Bool) : Prop where
  stays : ∀ request before answer after,
    environment request before answer after →
    flag before = true → flag after = true
  polled : ∀ before answer after,
    environment .stopRequested before answer after →
    answer = flag before ∧ flag after = flag before
  clock : ∀ before time after,
    environment .nowUs before time after → flag after = flag before

structure StopBoundary {σ : Type} (environment : Environment callbacks σ)
    (flag : σ → Bool) (before : σ) (trace : Trace) (result : ExecutorError)
    (after : σ) : Prop where
  passed : Transition.Run environment.step before trace after
  afterwards : ∀ first second here, trace = first ++ second →
    Transition.Run environment.step before first here →
    Transition.Run environment.step here second after →
    flag here = true → ∀ event ∈ second, ¬IsKeyDown event ∧ ¬IsWait event
  released : ∀ first event second, trace = first ++ event :: second →
    ¬IsTerminal event → ∃ prior answer status protocolError,
      event :: second = prior ++ [⟨.releaseAll, answer⟩,
        ⟨.terminal status result protocolError, ()⟩]
  answered : ∀ first second,
    trace = first ++ ⟨.stopRequested, true⟩ :: second → ∃ released,
      second = [⟨.releaseAll, released⟩,
        ⟨.terminal (abortStatus released) result .ok, ()⟩] ∧
      result = abortError released

section Flag

variable {σ : Type} {environment : Environment callbacks σ} {flag : σ → Bool}

def Unflagged (flag : σ → Bool) (pair : StopPhase × σ) : Prop :=
  pair.1 = .clear → flag pair.2 = false

theorem StopFlag.unflagged (stop : StopFlag environment flag)
    {before after : StopPhase × σ} {event : Event}
    (holds : Unflagged flag before)
    (step : Transition.Beside StopMonitor environment.step before event after) :
    Unflagged flag after := by
  rcases before with ⟨phase, before⟩
  rcases after with ⟨next, after⟩
  rcases step with ⟨monitored, answered⟩
  intro clear
  change next = .clear at clear
  change flag after = false
  cases monitored with
  | poll answer running =>
      rcases stop.polled _ _ _ answered with ⟨read, kept⟩
      cases answer with
      | true => cases clear
      | false => exact kept.trans read.symm
  | clock time => exact (stop.clock _ _ _ answered).trans (holds rfl)
  | _ => cases clear

theorem StopFlag.raised (stop : StopFlag environment flag) {first second : Trace}
    {before here after : σ} {final : StopPhase}
    (run : Monitor.Run StopMonitor .busy (first ++ second) final)
    (start : Transition.Run environment.step before first here)
    (rest : Transition.Run environment.step here second after)
    (raised : flag here = true) :
    ∀ event ∈ second, ¬IsKeyDown event ∧ ¬IsWait event := by
  rcases Transition.run_append_iff.mp run with ⟨phase, earlier, later⟩
  have unflagged : Unflagged flag (phase, here) := by
    refine (earlier.beside start).invariant (Unflagged flag) (fun _ => True)
      ?_ (fun _ _ => trivial) ?_
    · exact fun _ _ _ _ holds step => stop.unflagged holds step
    · intro clear
      cases clear
  intro event member
  rcases (later.beside rest).step_of_mem
    (fun pair => Unflagged flag pair ∧ flag pair.2 = true)
    (fun _ _ _ holds step =>
      ⟨stop.unflagged holds.1 step, stop.stays _ _ _ _ step.2 holds.2⟩)
    ⟨unflagged, raised⟩ member with ⟨pair, next, ⟨holds, up⟩, step⟩
  have notClear : pair.1 ≠ .clear := by
    intro clear
    rw [holds clear] at up
    cases up
  exact ⟨fun pressed => notClear (step.1.clear_of_keyDown pressed),
    fun waited => notClear (step.1.clear_of_wait waited)⟩

end Flag

theorem typxExecutorRun_stopBoundary {σ : Type}
    {environment : Environment callbacks σ} {flag : σ → Bool}
    (stop : StopFlag environment flag) (schedule : VerifiedSchedule)
    (before : σ) :
    Program.Ensures environment (typxExecutorRun schedule) before
      (StopBoundary environment flag before) := by
  intro trace result after execution
  rcases (typxExecutorRun_bounded schedule).run execution with ⟨_, run, rfl⟩
  exact {
    passed := execution.steps
    afterwards := by
      intro first second here split start rest raised
      rw [split] at run
      exact stop.raised run start rest raised
    released := by
      intro first event second split notTerminal
      rw [split] at run
      exact release_follows notTerminal run
    answered := by
      intro first second split
      rw [split] at run
      exact after_told_poll run }

/-- Callbacks over the stored `letterSchedule` that all succeed; the stop flag
rises during the first press. -/
def raisedInPress : (request : Callback) → Bool → Callback.Answer request × Bool
  | .readAt offset length, raised =>
      (some (block letterSchedule offset.toNat length), raised)
  | .sha256Finish, raised => (none, raised)
  | .read _ _, raised => (none, raised)
  | .nowUs, raised => (0, raised)
  | .stopRequested, raised => (raised, raised)
  | .keyDown _ _, _ => (true, true)
  | .progress _ _ _, raised => ((), raised)
  | .terminal _ _ _, raised => ((), raised)
  | .sha256Begin, raised => (true, raised)
  | .sha256Update _, raised => (true, raised)
  | .erase, raised => (true, raised)
  | .eraseRange _ _, raised => (true, raised)
  | .write _ _, raised => (true, raised)
  | .waitUs _, raised => (true, raised)
  | .releaseAll, raised => (true, raised)

theorem raisedInPress_stopFlag : StopFlag (Program.answering raisedInPress) id where
  stays request before answer after step up := by
    cases request <;> cases step <;> first | exact up | rfl
  polled before answer after step := by
    cases step
    exact ⟨rfl, rfl⟩
  clock before time after step := by
    cases step
    rfl

theorem typxExecutorRun_raisedInPress :
    ∃ trace, StopBoundary (Program.answering raisedInPress) id false trace
        .stopped true ∧
      trace.countP (fun event => event.call == .keyDown 0x00 0x04) = 1 ∧
      trace.countP (fun event => event.call == .terminal .aborted .stopped .ok) =
        1 := by
  have returned : ((typxExecutorRun letterVerified).run raisedInPress
      false).2 = (.stopped, true) := by
    decide +kernel
  have boundary := typxExecutorRun_stopBoundary raisedInPress_stopFlag
    letterVerified false _ _ _
    (Program.exec_run raisedInPress (typxExecutorRun letterVerified) false)
  rw [returned] at boundary
  exact ⟨_, boundary, by decide +kernel, by decide +kernel⟩

end Typxen.Executor
