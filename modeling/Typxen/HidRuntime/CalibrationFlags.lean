import Typxen.HidRuntime.CalibrationMonitor

/-! # Stop requests under a calibration run

What the phase of the monitor says about the flags of the host: once a stop
request or a disconnect has happened, no key is attempted. -/

namespace Typxen.HidRuntime

open Interaction WifiService Transition

variable {host next : Host}

theorem happen_stopRequested (runtime : HidRuntime) (happenings : List Happening)
    (stops : runtime.stopRequested = true ∨
      ∃ happening ∈ happenings, happening.Raises) :
    (happenings.foldl Happening.apply runtime).stopRequested = true := by
  induction happenings generalizing runtime with
  | nil => simpa using stops
  | cons happening rest induction =>
      apply induction
      rcases stops with already | ⟨raising, member, raises⟩
      · left
        cases happening with
        | connected => exact already
        | _ => rfl
      · rcases List.mem_cons.mp member with rfl | later
        · left
          cases raising with
          | connected => exact absurd rfl raises
          | _ => rfl
        · exact .inr ⟨raising, later, raises⟩

structure Watches (phase : CalibrationPhase) (host : Host) : Prop where
  raised : phase.ended = false → host.raised →
    host.runtime.stopRequested = true
  clear : phase.clear = true →
    host.runtime.connected = true ∧ host.runtime.stopRequested = false
  ended : phase.ended = true → host.runtime.running = false

theorem Watches.callback {phase after : CalibrationPhase}
    (watches : Watches phase host) (called : Callbacked host next)
    (running : phase.ended = false) (unclear : after.clear = false)
    (still : after.ended = false) : Watches after next := by
  rcases called with ⟨happenings, rfl⟩
  refine ⟨?_, ?_, ?_⟩
  · intro _ raised
    apply happen_stopRequested
    exact raised.imp_left (watches.raised running)
  · intro clear
    rw [unclear] at clear
    cases clear
  · intro ended
    rw [still] at ended
    cases ended

theorem Watches.step {before after : CalibrationPhase × Host}
    {event : Interaction.Event hidCalls} (watches : Watches before.1 before.2)
    (step : Beside CalibrationMonitor calibrationEnvironment.step before event
      after) : Watches after.1 after.2 := by
  rcases before with ⟨phase, host⟩
  rcases after with ⟨later, next⟩
  rcases step with ⟨monitored, answered⟩
  cases monitored with
  | release answer running => exact watches.callback answered running rfl running
  | press answer nonzero => exact watches.callback answered rfl rfl rfl
  | wait answer running => exact watches.callback answered running rfl running
  | countdown answer running =>
      exact watches.callback answered running rfl running
  | look runtime running =>
      rcases answered with ⟨⟨same, kept⟩, raised⟩
      refine ⟨?_, ?_, ?_⟩
      · rw [raised, kept]
        exact watches.raised
      · intro clear
        rw [kept]
        rcases Bool.or_eq_true_iff.mp clear with already | found
        · exact watches.clear already
        · rw [← same]
          simpa using found
      · rw [kept]
        exact watches.ended
  | giveUp answer running =>
      refine ⟨by simp, by simp, ?_⟩
      intro _
      rw [show next.runtime = _ from answered.1]
      rfl

theorem Watches.run {before after : CalibrationPhase × Host}
    {trace : Interaction.Trace hidCalls} (watches : Watches before.1 before.2)
    (run : Run (Beside CalibrationMonitor calibrationEnvironment.step) before
      trace after) : Watches after.1 after.2 :=
  run.invariant (fun pair => Watches pair.1 pair.2) (fun _ => True)
    (fun _ _ _ _ holds step => holds.step step) (fun _ _ => trivial) watches

theorem raised_step {event : Interaction.Event hidCalls} (raised : host.raised)
    (step : calibrationEnvironment.step host event next) : next.raised := by
  have called (callbacked : Callbacked host next) : next.raised := by
    rcases callbacked with ⟨happenings, rfl⟩
    exact .inl raised
  have kept (same : next.raised = host.raised) : next.raised := by
    rw [same]
    exact raised
  rcases event with ⟨request, answer⟩
  cases request with
  | sendReport report => exact called step
  | waitMs delayMs => exact called step
  | countdown secondsLeft => exact called step
  | _ => exact kept step.2

/-- Once a stop request or a disconnect has happened, no key is attempted. -/
theorem no_key_after {phase final : CalibrationPhase}
    {trace : Interaction.Trace hidCalls} (watches : Watches phase host)
    (raised : host.raised)
    (run : Run (Beside CalibrationMonitor calibrationEnvironment.step)
      (phase, host) trace (final, next)) :
    ∀ event ∈ trace, ¬IsKey event := by
  intro event member key
  rcases run.step_of_mem
    (fun pair => Watches pair.1 pair.2 ∧ pair.2.raised)
    (fun _ _ _ holds step => ⟨holds.1.step step, raised_step holds.2 step.2⟩)
    ⟨watches, raised⟩ member with ⟨here, later, ⟨watches, raised⟩, step⟩
  rcases step.1.of_key key with ⟨_, clear, running, _⟩
  have stopped := watches.raised running raised
  rw [(watches.clear clear).2] at stopped
  cases stopped

end Typxen.HidRuntime
