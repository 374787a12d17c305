import Typxen.Executor.Executor
import Typxen.Protocol.Acceptance

/-! # A key is pressed only after a poll

The executor polls `stop_requested` right before every `key_down`, with no
other call between the two. -/

namespace Typxen.Executor

open Interaction Protocol

def Polls : Callback → Bool
  | .stopRequested => true
  | .keyDown _ _ => true
  | _ => false

inductive PollMonitor : Monitor callbacks Bool
  | poll {polled : Bool} (answer : Bool) :
      PollMonitor polled ⟨.stopRequested, answer⟩ (!answer)
  | press {modifier keycode : UInt8} (answer : Bool) :
      PollMonitor true ⟨.keyDown modifier keycode, answer⟩ false
  | other {polled : Bool} {call : Callback} (answer : Callback.Answer call) :
      Polls call = false → PollMonitor polled ⟨call, answer⟩ false

def Polite {α : Type} (program : Firmware α) : Prop :=
  ∀ polled, Program.Obeys PollMonitor program polled fun _ _ => True

section Politeness

variable {α β : Type}

theorem polite_done (value : α) : Polite (Program.done value : Firmware α) :=
  fun _ => trivial

theorem Polite.bind {program : Firmware α} {continuation : α → Firmware β}
    (start : Polite program) (rest : ∀ value, Polite (continuation value)) :
    Polite (program >>= continuation) :=
  fun polled => (start polled).bind fun value middle _ => rest value middle

theorem polite_ask {request : Callback}
    {next : Callback.Answer request → Firmware α} (other : Polls request = false)
    (rest : ∀ answer, Polite (next answer)) :
    Polite (Program.ask (S := callbacks) request next) :=
  fun _ answer => ⟨false, .other answer other, rest answer false⟩

theorem polite_poll {next : Bool → Firmware α}
    (rest : ∀ answer, Polite (next answer)) :
    Polite (Program.ask (S := callbacks) .stopRequested next) :=
  fun _ answer => ⟨!answer, .poll answer, rest answer (!answer)⟩

theorem polite_of_quiet {program : Firmware α} (quiet : Quiet program) :
    Polite program := by
  induction program with
  | done value => exact polite_done value
  | ask request next induction =>
      have other : Polls request = false := by
        cases request <;> first | rfl | cases quiet.1
      exact polite_ask other fun answer => induction answer (quiet.2 answer)

theorem finish_polite (status : TerminalStatus) (error : ExecutorError)
    (protocolError : ProtocolError) : Polite (finish status error protocolError) :=
  polite_ask rfl fun _ => polite_ask rfl fun _ => polite_done _

theorem waitChecked_polite (delayUs : UInt32) : Polite (waitChecked delayUs) := by
  unfold waitChecked
  split
  · exact polite_done _
  apply polite_poll
  intro stopped
  cases stopped with
  | true => exact polite_done _
  | false =>
  apply polite_ask rfl
  intro before
  apply polite_ask rfl
  intro waited
  cases waited with
  | true => exact polite_ask rfl fun _ => polite_done _
  | false =>
      apply polite_poll
      intro stopped
      cases stopped with
      | true => exact polite_done _
      | false => exact polite_done _

theorem typxProtocolV1ReadRecord_polite (schedule : VerifiedSchedule)
    (recordIndex : UInt32) :
    Polite (typxProtocolV1ReadRecord schedule recordIndex) :=
  polite_of_quiet (typxProtocolV1ReadRecord_quiet schedule recordIndex)

theorem wait_polite {delayUs : UInt32} {continued : Firmware ExecutorError}
    (rest : Polite continued) :
    Polite (waitChecked delayUs >>= fun waitError =>
      if waitError != .ok then finishWait waitError else continued) := by
  apply (waitChecked_polite delayUs).bind
  intro waitError
  split
  · exact finish_polite _ _ _
  · exact rest

theorem executeRecord_polite {schedule : VerifiedSchedule} {index : UInt32}
    {record : Record} {continued : Firmware ExecutorError}
    (rest : Polite continued) :
    Polite (executeRecord schedule index record continued) := by
  unfold executeRecord
  apply wait_polite
  intro polled stopped
  refine ⟨!stopped, .poll stopped, ?_⟩
  cases stopped with
  | true => exact finish_polite _ _ _ _
  | false =>
  -- The one press, right after the poll.
  intro accepted
  refine ⟨false, .press accepted, ?_⟩
  cases accepted with
  | false => exact finish_polite _ _ _ _
  | true =>
  refine wait_polite ?_ false
  apply polite_ask rfl
  intro released
  cases released with
  | false => exact polite_ask rfl fun _ => polite_ask rfl fun _ => polite_done _
  | true =>
  apply polite_ask rfl
  intro _
  apply polite_poll
  intro stopped
  cases stopped with
  | true => exact finish_polite _ _ _
  | false => exact wait_polite rest

theorem executeFrom_polite (schedule : VerifiedSchedule) (remaining : Nat)
    (index : UInt32) : Polite (executeFrom schedule remaining index) := by
  induction remaining generalizing index with
  | zero => exact finish_polite _ _ _
  | succ remaining induction =>
      apply polite_poll
      intro stopped
      cases stopped with
      | true => exact finish_polite _ _ _
      | false =>
          apply (typxProtocolV1ReadRecord_polite schedule index).bind
          intro result
          cases result with
          | error protocolError => exact finish_polite _ _ _
          | ok record => exact executeRecord_polite (induction (index + 1))

theorem typxExecutorRun_polite (schedule : VerifiedSchedule) :
    Polite (typxExecutorRun schedule) := by
  unfold typxExecutorRun
  split
  · exact finish_polite _ _ _
  · exact executeFrom_polite _ _ _

end Politeness

end Typxen.Executor
