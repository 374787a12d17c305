import Typxen.WifiService.TaskPhase
import Typxen.WifiService.WifiService

/-! # One run at a time

While `start_handler` or its task is at work the job is active, so no other
start is accepted; and the task keeps to its phases. -/

namespace Typxen.WifiService

open Interaction Protocol WifiUpload

variable {σ : Type} {environment : Environment callbacks σ}

def Active (status : UploadStatus) : Prop :=
  status = .countdown ∨ status = .executing ∨ status = .stopping

/-! ## What a step does to the status -/

section Status

variable {upload next : Upload}

theorem prepareStart_ok {jobId : Vector UInt8 16} {hidReadiness : HidReadiness}
    {schedule : VerifiedSchedule}
    (prepared : typxWifiUploadPrepareStart upload jobId hidReadiness =
      (.ok schedule, next)) :
    upload.status = .ready ∧ next.status = .countdown := by
  rw [typxWifiUploadPrepareStart] at prepared
  split_ifs at prepared with idle
  all_goals cases prepared
  exact ⟨by simpa using idle, rfl⟩

theorem prepareStart_ready {jobId : Vector UInt8 16}
    (ready : upload.status = .ready) (same : upload.jobId = jobId)
    (verified : typxProtocolV1IsVerified upload.verifiedSchedule = true) :
    typxWifiUploadPrepareStart upload jobId .ready =
      (.ok upload.verifiedSchedule,
        { upload with status := .countdown, stopRequested := false }) := by
  simp [typxWifiUploadPrepareStart, sameJob, ready, same, verified]

theorem prepareStart_error {jobId : Vector UInt8 16}
    {hidReadiness : HidReadiness} {error : UploadError}
    (refused : typxWifiUploadPrepareStart upload jobId hidReadiness =
      (.error error, next)) : next = upload := by
  rw [typxWifiUploadPrepareStart] at refused
  split_ifs at refused
  all_goals cases refused
  all_goals rfl

theorem requestStop_status {error : UploadError}
    (stopped : typxWifiUploadRequestStop upload = (error, next)) :
    next.status = upload.status ∨
      Active upload.status ∧ next.status = .stopping := by
  rw [typxWifiUploadRequestStop] at stopped
  split_ifs at stopped with already active
  · cases stopped
    exact .inl rfl
  · cases stopped
    exact .inl rfl
  · cases stopped
    right
    refine ⟨?_, rfl⟩
    simp only [Bool.and_eq_true, bne_iff_ne, not_and, not_not] at active
    by_cases counting : upload.status = .countdown
    · exact .inl counting
    · exact .inr (.inl (active counting))

theorem requestStop_active
    (active : upload.status = .countdown ∨ upload.status = .executing) :
    (typxWifiUploadRequestStop upload).2.status = .stopping := by
  rcases active with status | status <;> simp [typxWifiUploadRequestStop, status]

theorem startFailed_status :
    (typxWifiUploadStartFailed upload).2.status = upload.status ∨
      upload.status = .countdown := by
  rw [typxWifiUploadStartFailed]
  split_ifs with other
  · exact .inl rfl
  · exact .inr (by simpa using other)

theorem markExecuting_status :
    (typxWifiUploadMarkExecuting upload).2.status = upload.status ∨
      upload.status = .countdown ∧
        (typxWifiUploadMarkExecuting upload).2.status = .executing := by
  rw [typxWifiUploadMarkExecuting]
  split_ifs with other
  · exact .inl rfl
  · exact .inr ⟨by simpa using other, rfl⟩

theorem recordProgress_status (sourceIndex completed total : UInt32) :
    (typxWifiUploadRecordProgress upload sourceIndex completed total).status =
      upload.status := by
  rw [typxWifiUploadRecordProgress]
  split_ifs <;> rfl

/-- The other handlers do not touch an active job. -/
theorem otherHandlers_status {op : UploadOp} {error : UploadError}
    (moves : Moves upload op error next)
    (other : otherHandlers op = true) (active : Active upload.status) :
    next.status = upload.status := by
  cases moves with
  | kept _ same => exact same.status
  | begun _ unlocked =>
      rcases active with status | status | status <;>
        simp [typxWifiUploadJobLocked, status] at unlocked
  | beginFailed _ unlocked =>
      rcases active with status | status | status <;>
        simp [typxWifiUploadJobLocked, status] at unlocked
  | promoted receiving =>
      rcases active with status | status | status <;>
        cases receiving.symm.trans status
  | rejected receiving _ _ =>
      rcases active with status | status | status <;>
        cases receiving.symm.trans status
  | cancelled ready =>
      rcases active with status | status | status <;>
        cases ready.symm.trans status
  | _ => cases other

end Status

theorem executor_device {request : Callback} {before after : Device σ}
    {answer : Callback.Answer request}
    (step : taskEnvironment environment (.inl request) before answer after) :
    after.runtime = before.runtime ∧
      after.upload.status = before.upload.status := by
  cases request with
  | stopRequested => exact step.2 ▸ ⟨rfl, rfl⟩
  | waitUs _ => exact step.2 ▸ ⟨rfl, rfl⟩
  | keyDown _ _ => exact step.2 ▸ ⟨rfl, rfl⟩
  | releaseAll => exact step.2 ▸ ⟨rfl, rfl⟩
  | nowUs => exact step ▸ ⟨rfl, rfl⟩
  | terminal _ _ _ => exact step ▸ ⟨rfl, rfl⟩
  | progress _ _ _ => exact step ▸ ⟨rfl, recordProgress_status _ _ _⟩
  | _ =>
      rcases step with ⟨world, _, same⟩
      exact same ▸ ⟨rfl, rfl⟩

/-- Until it completes the job, a task moves it on to EXECUTING at most. -/
theorem task_status {request : taskCalls.Call} {before after : Device σ}
    {answer : taskCalls.Answer request} {phase middle : TaskPhase}
    (step : taskEnvironment environment request before answer after)
    (rule : TaskMonitor phase ⟨request, answer⟩ middle) :
    middle = .completed ∨ after.upload.status = before.upload.status ∨
      before.upload.status = .countdown ∧ after.upload.status = .executing := by
  cases rule with
  | acquired =>
      rw [step.2]
      split <;> exact .inr (.inl rfl)
  | refused =>
      rw [step.2]
      split <;> exact .inr (.inl rfl)
  | executor _ => exact .inr (.inl (executor_device step).2)
  | wait _ _ => exact .inr (.inl (step.2 ▸ rfl))
  | stopFlag _ => exact .inr (.inl (step.2 ▸ rfl))
  | countdownComplete _ =>
      rw [show after = _ from step]
      exact .inr markExecuting_status
  | giveUp _ _ => exact .inr (.inl (step ▸ rfl))
  | markTerminal _ => exact .inr (.inl (step ▸ rfl))
  | complete _ _ => exact .inl rfl

/-! ## The invariant -/

inductive Coherent : StartPoint → Execution → Prop
  | before {point : StartPoint} :
      point = .markActive ∨ point = .createTask ∨ point = .startFailed →
      Coherent point .none
  | created {point : StartPoint} : point = .respond ∨ point = .notify →
      Coherent point .waiting
  | idle : Coherent .idle .none
  | running {task : Task Unit} {phase : TaskPhase} : Follows task phase →
      Coherent .idle (.running task)

theorem execution_after {task left : Task Unit}
    (running : Execution.after task = .running left) : task = left := by
  cases task with
  | done value => cases running
  | ask request next => exact Execution.running.inj running

theorem Follows.after {task : Task Unit} (follows : Follows task .completed) :
    Execution.after task = .none := by
  rw [show task = .done () from Follows.done follows]
  rfl

theorem Coherent.after {task : Task Unit} {phase : TaskPhase}
    (follows : Follows task phase) : Coherent .idle (.after task) := by
  cases task with
  | done value => exact .idle
  | ask request next => exact .running follows

theorem Coherent.none {point : StartPoint} {execution : Execution}
    (coherent : Coherent point execution)
    (early : point = .markActive ∨ point = .createTask ∨ point = .startFailed) :
    execution = .none := by
  cases coherent with
  | before _ => rfl
  | created points => rcases points with rfl | rfl <;> simp at early
  | idle => rfl
  | running _ => simp at early

theorem Coherent.waiting {point : StartPoint} {execution : Execution}
    (coherent : Coherent point execution)
    (late : point = .respond ∨ point = .notify) : execution = .waiting := by
  cases coherent with
  | before points => rcases points with rfl | rfl | rfl <;> simp at late
  | created _ => rfl
  | idle => simp at late
  | running _ => simp at late

theorem Coherent.follows {point : StartPoint} {task : Task Unit}
    (coherent : Coherent point (.running task)) :
    point = .idle ∧ ∃ phase, Follows task phase := by
  cases coherent with
  | running follows => exact ⟨rfl, _, follows⟩

structure Sound (service : Service σ) : Prop where
  coherent : Coherent service.start service.execution
  active : service.start ≠ .idle ∨ service.execution ≠ .none →
    Active service.upload.status

theorem sound_boot (world : σ) : Sound (boot world) where
  coherent := .idle
  active busy := by
    rcases busy with busy | busy
    · exact absurd rfl busy
    · exact absurd rfl busy

section Preservation

variable {before after : Service σ} {event : ServiceEvent}

theorem Sound.free (sound : Sound before)
    (inactive : ¬Active before.upload.status) :
    before.start = .idle ∧ before.execution = .none := by
  constructor
  · by_contra busy
    exact inactive (sound.active (.inl busy))
  · by_contra busy
    exact inactive (sound.active (.inr busy))

theorem Sound.advance (sound : Sound before) (busy : before.start ≠ .idle)
    (status : after.upload.status = before.upload.status)
    (coherent : Coherent after.start after.execution) : Sound after where
  coherent := coherent
  active _ := by
    rw [status]
    exact sound.active (.inl busy)

theorem Sound.elsewhere (sound : Sound before)
    (sameStart : after.start = before.start)
    (sameExecution : after.execution = before.execution)
    (active : Active before.upload.status → Active after.upload.status) :
    Sound after where
  coherent := by
    rw [sameStart, sameExecution]
    exact sound.coherent
  active busy := by
    rw [sameStart, sameExecution] at busy
    exact active (sound.active busy)

theorem Sound.execute (sound : Sound before) {request : taskCalls.Call}
    {next : taskCalls.Answer request → Task Unit}
    (here : before.execution = .running (.ask request next))
    (answer : taskCalls.Answer request) :
    before.start = .idle ∧ ∃ phase middle,
      TaskMonitor phase ⟨request, answer⟩ middle ∧
        Follows (next answer) middle := by
  have coherent := sound.coherent
  rw [here] at coherent
  rcases coherent.follows with ⟨start, phase, follows⟩
  rcases follows answer with ⟨middle, rule, rest⟩
  exact ⟨start, phase, middle, rule, rest⟩

theorem ServiceStep.sound (step : ServiceStep environment before event after)
    (sound : Sound before) : Sound after := by
  have coherent := sound.coherent
  cases step with
  | prepared idle prepared =>
      rcases prepareStart_ok prepared with ⟨ready, countdown⟩
      have free := sound.free (by simp [Active, ready])
      refine ⟨?_, fun _ => .inl countdown⟩
      change Coherent .markActive before.execution
      rw [free.2]
      exact .before (.inl rfl)
  | refused refused =>
      rw [prepareStart_error refused]
      exact sound
  | markActive marked here =>
      refine sound.advance (by simp [here]) rfl ?_
      rw [coherent.none (.inl here)]
      cases marked with
      | false => exact .before (.inr (.inr rfl))
      | true => exact .before (.inr (.inl rfl))
  | taskCreated here =>
      exact sound.advance (by simp [here]) rfl (.created (.inl rfl))
  | taskNotCreated here =>
      refine sound.advance (by simp [here]) rfl ?_
      rw [coherent.none (.inr (.inl here))]
      exact .before (.inr (.inr rfl))
  | responded here =>
      refine sound.advance (by simp [here]) rfl ?_
      rw [coherent.waiting (.inl here)]
      exact .created (.inr rfl)
  | notResponded here =>
      exact sound.advance (by simp [here]) rfl (.before (.inr (.inr rfl)))
  | notify here =>
      rcases executionTask_follows before.upload.verifiedSchedule with
        ⟨phase, _, follows⟩
      exact sound.advance (by simp [here]) rfl (.running follows)
  | startFailed here =>
      have none := coherent.none (.inr (.inr here))
      constructor
      · change Coherent .idle before.execution
        rw [none]
        exact .idle
      · intro busy
        rcases busy with busy | busy
        · exact absurd rfl busy
        · exact absurd none busy
  | requestUploadStop _ stopped =>
      refine sound.elsewhere rfl rfl ?_
      intro active
      rcases requestStop_status stopped with same | ⟨_, stopping⟩
      · exact same ▸ active
      · exact .inr (.inr stopping)
  | requestHidStop _ => exact sound.elsewhere rfl rfl id
  | @execute device request next answer here taken =>
      rcases sound.execute here answer with ⟨start, phase, middle, rule, rest⟩
      have active := sound.active (.inr (by simp [here]))
      refine ⟨start ▸ .after rest, ?_⟩
      intro busy
      rcases task_status taken rule with rfl | same | ⟨_, executing⟩
      · rcases busy with busy | busy
        · exact absurd start busy
        · exact absurd (Follows.after rest) busy
      · change Active device.upload.status
        rw [same]
        exact active
      · exact .inr (.inl executing)
  | @upload event job other taken =>
      refine sound.elsewhere rfl rfl ?_
      intro active
      change Active job.upload.status
      rw [otherHandlers_status taken.moves other active]
      exact active
  | connected => exact sound.elsewhere rfl rfl id
  | disconnected => exact sound.elsewhere rfl rfl id
  | consoleStop => exact sound.elsewhere rfl rfl id

end Preservation

end Typxen.WifiService
