import Typxen.Executor.Polling

/-! # What a result says about the run

The executor reports the records one after the other. It returns OK only after
all of them, with no poll or wait that told it to stop, and STOPPED only after
a poll that did. -/

namespace Typxen.Executor

open Interaction Protocol

structure RunState where
  reported : Nat
  told : Bool
  halted : Bool

def Tracked : Callback → Bool
  | .stopRequested => true
  | .waitUs _ => true
  | .progress _ _ _ => true
  | _ => false

inductive OutcomeMonitor (total : UInt32) : Monitor callbacks RunState
  | poll {state : RunState} (answer : Bool) :
      OutcomeMonitor total state ⟨.stopRequested, answer⟩
        { state with
          told := state.told || answer
          halted := state.halted || answer }
  | wait {state : RunState} (delayUs : UInt32) (answer : Bool) :
      OutcomeMonitor total state ⟨.waitUs delayUs, answer⟩
        { state with halted := state.halted || !answer }
  | report {state : RunState} {completedRecords : UInt32}
      (sourceIndex : UInt32) (answer : Unit) :
      completedRecords.toNat = state.reported + 1 →
      state.reported < total.toNat →
      OutcomeMonitor total state
        ⟨.progress sourceIndex completedRecords total, answer⟩
        { state with reported := state.reported + 1 }
  | other {state : RunState} {call : Callback} (answer : Callback.Answer call) :
      Tracked call = false → OutcomeMonitor total state ⟨call, answer⟩ state

structure Outcome (total : UInt32) (error : ExecutorError) (state : RunState) :
    Prop where
  complete : error = .ok → state.reported = total.toNat
  unhalted : error = .ok → state.halted = false
  told : error = .stopped → state.told = true

theorem Outcome.failed {total : UInt32} {error : ExecutorError}
    {state : RunState} (notOk : error ≠ .ok) (notStopped : error ≠ .stopped) :
    Outcome total error state where
  complete ok := absurd ok notOk
  unhalted ok := absurd ok notOk
  told stopped := absurd stopped notStopped

theorem Outcome.stopped {total : UInt32} {state : RunState}
    (told : state.told = true) : Outcome total .stopped state where
  complete := nofun
  unhalted := nofun
  told _ := told

def runningAt (reported : Nat) : RunState := ⟨reported, false, false⟩

section Obedience

variable {total : UInt32}

theorem finish_outcome {status : TerminalStatus} {error : ExecutorError}
    {protocolError : ProtocolError} {state : RunState}
    (outcome : Outcome total error state) :
    Program.Obeys (OutcomeMonitor total) (finish status error protocolError)
      state (Outcome total) := by
  intro released
  refine ⟨state, @OutcomeMonitor.other total state .releaseAll released rfl, ?_⟩
  intro reported
  refine ⟨state, @OutcomeMonitor.other total state (.terminal _ _ _) reported rfl,
    ?_⟩
  cases released with
  | true => exact outcome
  | false => exact .failed nofun nofun

theorem finishWait_outcome {waitError : ExecutorError} {state : RunState}
    (outcome : Outcome total waitError state) :
    Program.Obeys (OutcomeMonitor total) (finishWait waitError) state
      (Outcome total) :=
  finish_outcome outcome

theorem waitChecked_outcome (delayUs : UInt32) (reported : Nat) :
    Program.Obeys (OutcomeMonitor total) (waitChecked delayUs)
      (runningAt reported) fun waitError state =>
        waitError = .ok ∧ state = runningAt reported ∨
          waitError ≠ .ok ∧ Outcome total waitError state := by
  unfold waitChecked
  split
  · exact .inl ⟨rfl, rfl⟩
  intro stopped
  refine ⟨_, .poll stopped, ?_⟩
  cases stopped with
  | true => exact .inr ⟨nofun, .stopped rfl⟩
  | false =>
  intro before
  refine ⟨_, @OutcomeMonitor.other total _ .nowUs before rfl, ?_⟩
  intro waited
  refine ⟨_, .wait delayUs waited, ?_⟩
  cases waited with
  | true =>
      intro after
      refine ⟨_, @OutcomeMonitor.other total _ .nowUs after rfl, ?_⟩
      change _ ∨ _
      by_cases backwards : after < before
      · rw [if_pos backwards]
        exact .inr ⟨nofun, .failed nofun nofun⟩
      · rw [if_neg backwards]
        exact .inl ⟨rfl, rfl⟩
  | false =>
      intro stopped
      refine ⟨_, .poll stopped, ?_⟩
      cases stopped with
      | true => exact .inr ⟨nofun, .stopped rfl⟩
      | false => exact .inr ⟨nofun, .failed nofun nofun⟩

theorem wait_outcome {delayUs : UInt32} {reported : Nat}
    {continued : Firmware ExecutorError}
    (rest : Program.Obeys (OutcomeMonitor total) continued (runningAt reported)
      (Outcome total)) :
    Program.Obeys (OutcomeMonitor total)
      (waitChecked delayUs >>= fun waitError =>
        if waitError != .ok then finishWait waitError else continued)
      (runningAt reported) (Outcome total) := by
  apply (waitChecked_outcome delayUs reported).bind
  intro waitError state result
  rcases result with ⟨ok, same⟩ | ⟨bad, outcome⟩
  · rw [ok, same]
    exact rest
  · rw [if_pos (bne_iff_ne.mpr bad)]
    exact finishWait_outcome outcome

theorem quiet_outcome {α : Type} {program : Firmware α} (quiet : Quiet program)
    (state : RunState) :
    Program.Obeys (OutcomeMonitor total) program state
      fun _ final => final = state := by
  apply quiet.obeys
  intro request answer silent
  apply OutcomeMonitor.other
  cases request <;> first | rfl | cases silent

theorem typxProtocolV1ReadRecord_outcome (schedule : VerifiedSchedule)
    (recordIndex : UInt32) (state : RunState) :
    Program.Obeys (OutcomeMonitor total)
      (typxProtocolV1ReadRecord schedule recordIndex) state
      fun _ final => final = state :=
  quiet_outcome (typxProtocolV1ReadRecord_quiet schedule recordIndex) state

theorem executeRecord_outcome {schedule : VerifiedSchedule} {index : UInt32}
    {record : Record} {continued : Firmware ExecutorError}
    (count : schedule.header.actionCount = total)
    (within : index.toNat < total.toNat)
    (rest : Program.Obeys (OutcomeMonitor total) continued
      (runningAt (index.toNat + 1)) (Outcome total)) :
    Program.Obeys (OutcomeMonitor total)
      (executeRecord schedule index record continued) (runningAt index.toNat)
      (Outcome total) := by
  have next : (index + 1).toNat = index.toNat + 1 := by
    have bound := total.toNat_lt
    rw [UInt32.toNat_add, UInt32.toNat_one]
    omega
  unfold executeRecord
  apply wait_outcome
  intro stopped
  refine ⟨_, .poll stopped, ?_⟩
  cases stopped with
  | true => exact finish_outcome (.stopped rfl)
  | false =>
  intro accepted
  refine ⟨_, @OutcomeMonitor.other total _ (.keyDown _ _) accepted rfl, ?_⟩
  cases accepted with
  | false => exact finish_outcome (.failed nofun nofun)
  | true =>
  apply wait_outcome
  intro released
  refine ⟨_, @OutcomeMonitor.other total _ .releaseAll released rfl, ?_⟩
  cases released with
  | false =>
      intro again
      refine ⟨_, @OutcomeMonitor.other total _ .releaseAll again rfl, ?_⟩
      intro reported
      exact ⟨_, @OutcomeMonitor.other total _ (.terminal _ _ _) reported rfl,
        .failed nofun nofun⟩
  | true =>
  intro reported
  rw [count]
  refine ⟨_, .report record.sourceIndex reported next within, ?_⟩
  intro stopped
  refine ⟨_, .poll stopped, ?_⟩
  cases stopped with
  | true => exact finish_outcome (.stopped rfl)
  | false => exact wait_outcome rest

theorem executeFrom_outcome {schedule : VerifiedSchedule}
    (count : schedule.header.actionCount = total) (remaining : Nat)
    (index : UInt32) (all : index.toNat + remaining = total.toNat) :
    Program.Obeys (OutcomeMonitor total) (executeFrom schedule remaining index)
      (runningAt index.toNat) (Outcome total) := by
  induction remaining generalizing index with
  | zero =>
      apply finish_outcome
      exact ⟨fun _ => all, fun _ => rfl, nofun⟩
  | succ remaining induction =>
      have next : (index + 1).toNat = index.toNat + 1 := by
        have bound := total.toNat_lt
        rw [UInt32.toNat_add, UInt32.toNat_one]
        omega
      have rest := induction (index + 1) (by omega)
      rw [next] at rest
      intro stopped
      refine ⟨_, .poll stopped, ?_⟩
      cases stopped with
      | true => exact finish_outcome (.stopped rfl)
      | false =>
          apply (typxProtocolV1ReadRecord_outcome schedule index _).bind
          intro result state same
          rw [same]
          cases result with
          | error protocolError => exact finish_outcome (.failed nofun nofun)
          | ok record => exact executeRecord_outcome count (by omega) rest

theorem typxExecutorRun_outcome (schedule : VerifiedSchedule) :
    Program.Obeys (OutcomeMonitor schedule.header.actionCount)
      (typxExecutorRun schedule) (runningAt 0)
      (Outcome schedule.header.actionCount) := by
  unfold typxExecutorRun
  split
  · exact finish_outcome (.failed nofun nofun)
  · exact executeFrom_outcome rfl _ 0 (Nat.zero_add _)

end Obedience

end Typxen.Executor
