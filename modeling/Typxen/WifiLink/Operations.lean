import Typxen.WifiLink.Reconnecting

/-! # The operations on a settled link

The job's handler and task, and with them every operation: each that finds the
variables settled leaves them settled, whichever of its calls fail. -/

namespace Typxen.WifiLink

open Interaction Threads BoardSetup

variable {reliable : Bool} {board : Board}

/-! ## The job -/

section Job

theorem startHandler_settles (settled : Settled reliable board) :
    Settles reliable startHandler board := by
  apply steady_bind
  apply steady_plain rfl rfl
  intro accepted after answered
  rw [answered.1.2]
  split
  · rename_i refused
    have same : accepted = false := by simpa using refused
    rw [same]
    exact { settled with }
  rename_i started
  have same : accepted = true := by simpa using started
  have idle : board.link.executionTask = false := by
    by_contra running
    have active := settled.locked (eq_true_of_ne_false running)
    rw [answered.1.1 same] at active
    cases active
  rw [same]
  -- The job is active, and may be taken back as long as it has no task.
  have back : ∀ {board : Board}, Settled reliable board →
      board.link.executionTask = false →
      Settles reliable (Wifi.call .startFailed) board := by
    intro board settled idle
    apply steady_plain rfl rfl
    intro failed after answered
    rcases answered.1 with ⟨taken, same⟩
    rw [same]
    exact { settled with
      locked := fun running =>
        absurd (idle.symm.trans running) Bool.false_ne_true }
  have marked : ∀ {board : Board}, Settled reliable board →
      board.link.executionTask = false →
      Settles reliable (do
        let _ ← Wifi.call .markExecutionTerminal
        Wifi.call .startFailed) board := by
    intro board settled idle
    apply steady_bind
    apply steady_plain rfl rfl
    intro terminal after answered
    rw [show after = board from answered.1]
    exact back settled idle
  have active : Settled reliable (board.withJob (true || board.jobActive)) :=
    { settled with locked := fun _ => rfl }
  apply steady_bind
  apply steady_plain rfl rfl
  intro written after answered
  rw [show after = _ from answered.1]
  split
  · exact back active idle
  apply steady_bind
  apply steady_plain rfl rfl
  intro created after answered
  rw [show after = _ from answered.1]
  split
  · rename_i failed
    have missing : created = false := by simpa using failed
    rw [missing]
    exact marked { active with } idle
  have running : ∀ executing, Settled reliable
      ((board.withJob (true || board.jobActive)).withLink
        { (board.withJob (true || board.jobActive)).link with
          executionTask := executing }) :=
    fun _ => { active with locked := fun _ => rfl }
  apply steady_bind
  apply steady_plain rfl rfl
  intro sent after answered
  rw [show after = _ from answered.1]
  split
  · apply steady_plain rfl rfl
    intro notified after answered
    rw [show after = _ from answered.1]
    exact running _
  apply steady_bind
  apply steady_plain rfl rfl
  intro deleted after answered
  rw [show after = _ from answered.1]
  apply steady_bind
  apply steady_assign (untouched rfl)
  exact marked (running false) rfl

theorem executionTask_settles (settled : Settled reliable board) :
    Settles reliable executionTask board := by
  apply steady_bind
  apply stopMdns_steady
  apply steady_bind
  apply (safe_ask_of_rests rfl).mpr
  refine ⟨?_, ?_⟩
  · exact settled.serving (fun on => by cases on) settled.served _
  intro later still resumes ran after answered
  rw [show after = later from answered.1]
  apply steady_bind
  apply steady_plain rfl rfl
  intro marked after answered
  rw [show after = later from answered.1]
  apply steady_bind
  apply steady_plain rfl rfl
  intro completed after answered
  rw [show after = _ from answered.1]
  apply steady_bind
  apply steady_assign (untouched rfl)
  have ended : Settled reliable
      ((later.withJob false).assign .noExecutionTask) :=
    { still with locked := fun running => by cases running }
  apply startMdns_steady
  intro mdns available
  apply ended.serving
  · intro on
    rcases available on with already | up
    · exact ended.announced already
    · exact up
  · exact ended.served

end Job

/-! ## Everyone -/

theorem link_cooperative (reliable : Bool) :
    Cooperative (rules reliable) (linkDesign reliable) where
  begun := by
    intro processes role program begins board settled
    rcases begins.2 with command | real | _
    · exact perform_settles command settled
    · exact handleEvent_settles real settled
    · exact startHandler_settles settled
  created := by
    intro event role program creates board settled
    rcases created_cases creates with rfl | rfl | rfl
    · exact stationFallbackTask_settles settled
    · exact httpRestartTask_settles settled
    · exact executionTask_settles settled

end Typxen.WifiLink
