import Typxen.WifiLink.Board
import Typxen.WifiService.Stop
import Typxen.WifiUpload.History

/-! # The job that the link sees

The link knows of a job whether it is active and whether its task is there.
Each step of the service of jobs shows on the board as calls of the link that
the board allows. -/

namespace Typxen.WifiLink

open Interaction Transition WifiUpload WifiService

variable {σ : Type} {environment : Environment callbacks σ}

def Answers (before : Board) (event : Interaction.Event wifiCalls)
    (after : Board) : Prop :=
  wifiEnvironment event.call before event.answer after

structure Shows (service : Service σ) (board : Board) : Prop where
  active : board.jobActive = true ↔ Active service.upload.status
  task : board.link.executionTask = true ↔ service.execution ≠ .none

def linkCalls : ServiceEvent → List (Interaction.Event wifiCalls)
  | .prepareStart _ _ accepted => [⟨.prepareStart, accepted⟩]
  | .markActive marked => [⟨.markExecutionActive, marked⟩]
  | .createTask created => [⟨.createExecutionTask, created⟩]
  | .respond true => [⟨.sendAccepted, true⟩]
  | .respond false =>
      [⟨.sendAccepted, false⟩, ⟨.deleteExecutionTask, ()⟩,
        ⟨.assign .noExecutionTask, ()⟩]
  | .notify => [⟨.notifyExecutionTask, ()⟩]
  | .startFailed => [⟨.startFailed, ()⟩]
  | .execute ⟨.inr .markTerminal, marked⟩ => [⟨.markExecutionTerminal, marked⟩]
  | .execute ⟨.inr (.complete _), _⟩ =>
      [⟨.complete, ()⟩, ⟨.assign .noExecutionTask, ()⟩]
  | _ => []

def Board.withoutJob (board : Board) : Board :=
  { board with
    jobActive := false
    link := { board.link with executionTask := false } }

section Steps

variable {before after : Service σ} {event : ServiceEvent} {board : Board}

structure Shown (event : ServiceEvent) (after : Service σ) (board next : Board) :
    Prop where
  calls : Run Answers board (linkCalls event) next
  shows : Shows after next
  elsewhere : next.withoutJob = board.withoutJob

theorem Shows.silent (shows : Shows before board)
    (none : linkCalls event = [])
    (active : Active after.upload.status ↔ Active before.upload.status)
    (task : after.execution ≠ .none ↔ before.execution ≠ .none) :
    Shown event after board board where
  calls := by
    rw [none]
    exact .nil board
  shows := ⟨shows.active.trans active.symm, shows.task.trans task.symm⟩
  elsewhere := rfl

theorem Shows.unchanged (shows : Shows before board)
    {call : Interaction.Event wifiCalls} (one : linkCalls event = [call])
    (answers : Answers board call board)
    (active : Active after.upload.status ↔ Active before.upload.status)
    (task : after.execution ≠ .none ↔ before.execution ≠ .none) :
    Shown event after board board where
  calls := by
    rw [one]
    exact .cons answers (.nil board)
  shows := ⟨shows.active.trans active.symm, shows.task.trans task.symm⟩
  elsewhere := rfl

theorem complete_unactive (upload : Upload) (executorError : ExecutorError) :
    ¬Active (typxWifiUploadComplete upload executorError).status := by
  rcases typxWifiUploadComplete_status upload executorError with
    status | status | status <;> simp [Active, status]

/-- The other handlers make no job active, and leave an active one so. -/
theorem moves_active_iff {upload next : Upload} {op : UploadOp}
    {error : UploadError} (moves : Moves upload op error next)
    (other : otherHandlers op = true) :
    Active next.status ↔ Active upload.status := by
  constructor
  · intro active
    cases moves with
    | kept _ same =>
        rw [← same.status]
        exact active
    | begun => simp [Active, begun] at active
    | beginFailed => simp [Active] at active
    | promoted => simp [Active, promoted] at active
    | rejected _ _ status => simp [Active, status] at active
    | cancelled => simp [Active] at active
    | _ => cases other
  · intro active
    rw [otherHandlers_status moves other active]
    exact active

theorem task_shown (sound : Sound before) (shows : Shows before board)
    {device : Device σ} {request : taskCalls.Call}
    {next : taskCalls.Answer request → WifiService.Task Unit}
    {answer : taskCalls.Answer request}
    (here : before.execution = .running (.ask request next))
    (answered : taskEnvironment environment request before.toDevice answer
      device) :
    ∃ after, Shown (.execute ⟨request, answer⟩)
      { before with
        toDevice := device
        execution := .after (next answer) } board after := by
  rcases sound.execute here answer with ⟨_, phase, middle, rule, follows⟩
  have running : before.execution ≠ .none := by
    rw [here]
    simp
  have job : Active before.upload.status := sound.active (.inr running)
  by_cases last : middle = .completed
  · rw [last] at follows rule
    cases rule with
    | complete executorError _ =>
        rw [show device = _ from answered]
        refine ⟨(board.withJob false).assign .noExecutionTask, ?_, ?_, rfl⟩
        · have completed : Answers board ⟨.complete, ()⟩ (board.withJob false) :=
            rfl
          exact .cons completed (.cons rfl (.nil _))
        · constructor
          · exact iff_of_false (by simp [Board.assign, Board.withLink,
              Board.withJob]) (complete_unactive _ executorError)
          · exact iff_of_false (by simp [Board.assign, Board.withLink,
              Update.apply]) (by simp [follows.after])
  · have task : Execution.after (next answer) ≠ .none := by
      intro none
      apply last
      cases program : next answer with
      | done value =>
          rw [program] at follows
          exact follows
      | ask request next =>
          rw [program] at none
          cases none
    have active : Active device.upload.status := by
      rcases task_status answered rule with complete | same | counting
      · exact absurd complete last
      · rw [same]
        exact job
      · exact .inr (.inl counting.2)
    have same : Active device.upload.status ↔ Active before.upload.status :=
      iff_of_true active job
    have there : Execution.after (next answer) ≠ .none ↔
        before.execution ≠ .none := iff_of_true task running
    refine ⟨board, ?_⟩
    cases request with
    | inl request => exact shows.silent rfl same there
    | inr request =>
        cases request with
        | markTerminal => exact shows.unchanged rfl rfl same there
        | complete executorError =>
            cases rule
            exact absurd rfl last
        | _ => exact shows.silent rfl same there

theorem step_shown (step : ServiceStep environment before event after)
    (sound : Sound before) (shows : Shows before board) :
    ∃ next, Shown event after board next := by
  have coherent := sound.coherent
  cases step with
  | @prepared jobId hidReadiness schedule next idle prepared =>
      rcases prepareStart_ok prepared with ⟨ready, countdown⟩
      have inactive : ¬Active before.upload.status := by simp [Active, ready]
      have free : board.jobActive = false := by
        simpa using fun active => inactive (shows.active.mp active)
      have taken : Answers board ⟨.prepareStart, true⟩ (board.withJob true) :=
        ⟨fun _ => free, rfl⟩
      refine ⟨board.withJob true, ?_, ?_, rfl⟩
      · exact .cons taken (.nil _)
      · exact ⟨iff_of_true rfl (.inl countdown), shows.task⟩
  | refused refused =>
      rw [prepareStart_error refused]
      have same : Answers board ⟨.prepareStart, false⟩ board :=
        ⟨by simp, rfl⟩
      exact ⟨board, shows.unchanged rfl same .rfl .rfl⟩
  | markActive marked here =>
      exact ⟨board, shows.unchanged rfl rfl .rfl .rfl⟩
  | taskCreated here =>
      refine ⟨board.withLink { board.link with executionTask := true }, ?_, ?_,
        rfl⟩
      · exact .cons rfl (.nil _)
      · exact ⟨shows.active, iff_of_true rfl (by simp)⟩
  | taskNotCreated here =>
      exact ⟨board, shows.unchanged rfl rfl .rfl .rfl⟩
  | responded here =>
      exact ⟨board, shows.unchanged rfl rfl .rfl .rfl⟩
  | notResponded here =>
      refine ⟨board.assign .noExecutionTask, ?_, ?_, rfl⟩
      · have refused : Answers board ⟨.sendAccepted, false⟩ board := rfl
        have deleted : Answers board ⟨.deleteExecutionTask, ()⟩ board := rfl
        exact .cons refused (.cons deleted (.cons rfl (.nil _)))
      · exact ⟨shows.active, iff_of_false (by simp [Board.assign,
          Board.withLink, Update.apply]) (by simp)⟩
  | notify here =>
      have waiting := coherent.waiting (.inr here)
      refine ⟨board, shows.unchanged rfl rfl .rfl ?_⟩
      rw [waiting]
      simp
  | startFailed here =>
      rcases @startFailed_status before.upload with same | counting
      · have kept : Answers board ⟨.startFailed, ()⟩ board :=
          ⟨false, by simp [Board.withJob]⟩
        refine ⟨board, shows.unchanged rfl kept ?_ .rfl⟩
        change Active (typxWifiUploadStartFailed before.upload).2.status ↔ _
        rw [same]
      · have status : (typxWifiUploadStartFailed before.upload).2.status =
            .ready := by
          simp [typxWifiUploadStartFailed, counting]
        have taken : Answers board ⟨.startFailed, ()⟩ (board.withJob false) :=
          ⟨true, by simp [Board.withJob]⟩
        refine ⟨board.withJob false, ?_, ?_, rfl⟩
        · exact .cons taken (.nil _)
        · constructor
          · refine iff_of_false (by simp [Board.withJob]) ?_
            change ¬Active (typxWifiUploadStartFailed before.upload).2.status
            rw [status]
            simp [Active]
          · exact shows.task
  | @requestUploadStop invocation error next _ stopped =>
      refine ⟨board, shows.silent rfl ?_ .rfl⟩
      change Active next.status ↔ _
      rcases requestStop_status stopped with same | ⟨active, stopping⟩
      · rw [same]
      · exact iff_of_true (.inr (.inr stopping)) active
  | requestHidStop _ => exact ⟨board, shows.silent rfl .rfl .rfl⟩
  | execute here answered => exact task_shown sound shows here answered
  | upload other taken =>
      exact ⟨board, shows.silent rfl (moves_active_iff taken.moves other) .rfl⟩
  | connected => exact ⟨board, shows.silent rfl .rfl .rfl⟩
  | disconnected => exact ⟨board, shows.silent rfl .rfl .rfl⟩
  | consoleStop => exact ⟨board, shows.silent rfl .rfl .rfl⟩

end Steps

theorem shows_boot (world : σ) (credentials : Credentials)
    (nvs : NvsKey → Option (List UInt8)) :
    Shows (WifiService.boot world) (boot credentials nvs) where
  active := iff_of_false (by simp [boot])
    (by simp [Active, WifiService.boot, initial, Device.upload,
      typxWifiUploadInit])
  task := iff_of_false (by simp [boot, bootLink]) (by simp [WifiService.boot])

/-- Every run of the service shows on the board as a run of calls of the link
that the board allows, which leaves everything but the job alone; and what the
link is told of a job agrees with the upload. -/
theorem service_showsJob {world : σ} {events : List ServiceEvent}
    {service : Service σ}
    (run : Run (ServiceStep environment) (WifiService.boot world) events
      service)
    (credentials : Credentials) (nvs : NvsKey → Option (List UInt8)) :
    ∃ board, Run Answers (boot credentials nvs) (events.flatMap linkCalls) board ∧
      Shows service board ∧
      Answers board ⟨.jobLocked, typxWifiUploadJobLocked service.upload⟩ board ∧
      board.withoutJob = (boot credentials nvs).withoutJob := by
  have matched := run.simulate
    (fun service board => Sound service ∧ Shows service board ∧
      board.withoutJob = (boot credentials nvs).withoutJob) linkCalls
    (by
      intro before event after board related step
      rcases related with ⟨sound, shows, same⟩
      rcases step_shown step sound shows with ⟨next, calls, still, elsewhere⟩
      exact ⟨next, calls, step.sound sound, still, elsewhere.trans same⟩)
    ⟨sound_boot world, shows_boot world credentials nvs, rfl⟩
  rcases matched with ⟨board, calls, _, shows, same⟩
  refine ⟨board, calls, shows, ⟨?_, rfl⟩, same⟩
  intro active
  rcases shows.active.mp active with status | status | status <;>
    simp [typxWifiUploadJobLocked, status]

theorem service_showsJob_letter :
    ∃ board, Run Answers savedHotspot
        ((letterReady.1.map ServiceEvent.upload ++
          startEvents letterJob).flatMap linkCalls)
        board ∧
      Shows (started letterReady.2) board ∧
      Answers board ⟨.jobLocked, typxWifiUploadJobLocked
        (started letterReady.2).upload⟩ board ∧
      board.withoutJob = savedHotspot.withoutJob :=
  service_showsJob letterStarted_run _ _

end Typxen.WifiLink
