import Typxen.Executor.Executor
import Typxen.Protocol.Acceptance

/-! # No key stays down

The executor's calls are read by a monitor that knows only whether a key may
be held. The executor obeys it for every schedule and whatever the callbacks
answer; what the monitor accepts is what a host must see. -/

namespace Typxen.Executor

open Interaction Protocol ByteString

/-! ## The key monitor -/

inductive KeyPhase
  | released
  | pressed
  | releaseFailed
  | over (status : TerminalStatus) (error : ExecutorError)

def statusOf : ExecutorError → TerminalStatus
  | .ok => .completed
  | .stopped => .aborted
  | _ => .error

def KeyPhase.Live (phase : KeyPhase) : Prop :=
  phase = .released ∨ phase = .pressed

def Unmonitored (call : Callback) : Prop :=
  call = .nowUs ∨ call = .stopRequested ∨ call.isIo = false

/-- While no release has failed, a key may be pressed once the last one is
released, waits are bounded, and the run may end released; after a failed
release only further releases and the error report may follow. -/
inductive KeyMonitor (maxDelay : UInt32) : Monitor callbacks KeyPhase
  | release {phase : KeyPhase} : phase.Live →
      KeyMonitor maxDelay phase ⟨.releaseAll, true⟩ .released
  | releaseFails {phase : KeyPhase} : phase.Live →
      KeyMonitor maxDelay phase ⟨.releaseAll, false⟩ .releaseFailed
  | releaseAgain (answer : Bool) :
      KeyMonitor maxDelay .releaseFailed ⟨.releaseAll, answer⟩ .releaseFailed
  | press {modifier keycode : UInt8} (answer : Bool) :
      modifier ≤ 0x03 → SupportedKeycode keycode →
      KeyMonitor maxDelay .released ⟨.keyDown modifier keycode, answer⟩ .pressed
  | wait {phase : KeyPhase} {delay : UInt32} (answer : Bool) :
      phase.Live → delay ≤ maxDelay →
      KeyMonitor maxDelay phase ⟨.waitUs delay, answer⟩ phase
  | progress (sourceIndex completed total : UInt32) (answer : Unit) :
      KeyMonitor maxDelay .released
        ⟨.progress sourceIndex completed total, answer⟩ .released
  | finish (error : ExecutorError) (protocolError : ProtocolError)
      (answer : Unit) :
      KeyMonitor maxDelay .released
        ⟨.terminal (statusOf error) error protocolError, answer⟩
        (.over (statusOf error) error)
  | report (protocolError : ProtocolError) (answer : Unit) :
      KeyMonitor maxDelay .releaseFailed
        ⟨.terminal .error .releaseFailed protocolError, answer⟩
        (.over .error .releaseFailed)
  | other {phase : KeyPhase} {call : Callback} (answer : Callback.Answer call) :
      phase.Live → Unmonitored call →
      KeyMonitor maxDelay phase ⟨call, answer⟩ phase

def Ended (result : ExecutorError) (final : KeyPhase) : Prop :=
  final = .over (statusOf result) result

structure SafeRecord (maxDelay : UInt32) (record : Record) : Prop where
  waitBefore : record.waitBeforeKeyDownUs ≤ maxDelay
  hold : record.keyDownHoldUs ≤ maxDelay
  waitAfter : record.waitAfterReleaseUs ≤ maxDelay
  modifier : record.modifier ≤ 0x03
  keycode : SupportedKeycode record.keycode

/-- The decoder checks every record again, so what the storage holds by now
does not matter. -/
theorem decodeRecord_safe {bytes : Vector UInt8 32} {maxDelay : UInt32}
    {record : Record} (decoded : decodeRecord bytes maxDelay = .ok record) :
    SafeRecord maxDelay record := by
  simp only [decodeRecord, guard_eq_ok_iff, Bool.or_eq_true, bne_iff_ne,
    ne_eq, not_or, not_not, decide_eq_true_eq, UInt32.not_lt, gt_iff_lt,
    Bool.not_eq_true', Bool.not_eq_false, supportedKeycode_iff,
    modifier_mask_iff, Except.ok.injEq] at decoded
  rcases decoded with ⟨_, _, ⟨⟨⟨before, hold⟩, after⟩, _⟩, modifier, keycode,
    _, rfl⟩
  exact ⟨before, hold, after, modifier, keycode⟩

section Obedience

variable {maxDelay : UInt32} {phase : KeyPhase}

theorem quiet_obeys {α : Type} {program : Firmware α} (live : phase.Live)
    (quiet : Quiet program) :
    Program.Obeys (KeyMonitor maxDelay) program phase
      fun _ final => final = phase :=
  quiet.obeys fun _ answer silent => .other answer live (.inr (.inr silent))

theorem finish_obeys {status : TerminalStatus} {error : ExecutorError}
    (protocolError : ProtocolError) (live : phase.Live)
    (agrees : status = statusOf error) :
    Program.Obeys (KeyMonitor maxDelay) (finish status error protocolError)
      phase Ended := by
  subst agrees
  intro released
  cases released with
  | true =>
      exact ⟨.released, .release live, fun answered =>
        ⟨_, .finish error protocolError answered, rfl⟩⟩
  | false =>
      exact ⟨.releaseFailed, .releaseFails live, fun answered =>
        ⟨_, .report protocolError answered, rfl⟩⟩

theorem finishWait_obeys {waitError : ExecutorError} (live : phase.Live)
    (failed : waitError ≠ .ok) :
    Program.Obeys (KeyMonitor maxDelay) (finishWait waitError) phase Ended := by
  refine finish_obeys .ok live ?_
  cases waitError with
  | ok => exact absurd rfl failed
  | _ => rfl

theorem waitChecked_obeys {delayUs : UInt32} (live : phase.Live)
    (bounded : delayUs ≤ maxDelay) :
    Program.Obeys (KeyMonitor maxDelay) (waitChecked delayUs) phase
      fun _ final => final = phase := by
  have asks (stopped : Bool) :
      KeyMonitor maxDelay phase ⟨.stopRequested, stopped⟩ phase :=
    .other stopped live (.inr (.inl rfl))
  have reads (time : UInt64) : KeyMonitor maxDelay phase ⟨.nowUs, time⟩ phase :=
    .other time live (.inl rfl)
  unfold waitChecked
  split
  case isTrue => rfl
  intro stopped
  refine ⟨phase, asks stopped, ?_⟩
  cases stopped with
  | true => rfl
  | false =>
  intro before
  refine ⟨phase, reads before, ?_⟩
  intro waited
  refine ⟨phase, .wait waited live bounded, ?_⟩
  cases waited with
  | true => exact fun after => ⟨phase, reads after, rfl⟩
  | false =>
      intro stopped
      refine ⟨phase, asks stopped, ?_⟩
      cases stopped with
      | true => rfl
      | false => rfl

theorem wait_obeys {delayUs : UInt32} {continued : Firmware ExecutorError}
    (live : phase.Live) (bounded : delayUs ≤ maxDelay)
    (rest : Program.Obeys (KeyMonitor maxDelay) continued phase Ended) :
    Program.Obeys (KeyMonitor maxDelay)
      (waitChecked delayUs >>= fun waitError =>
        if waitError != .ok then finishWait waitError else continued)
      phase Ended := by
  apply (waitChecked_obeys live bounded).bind
  intro waitError final same
  rw [same]
  by_cases waited : waitError = .ok
  · rw [if_neg (by simpa using waited)]
    exact rest
  · rw [if_pos (by simpa using waited)]
    exact finishWait_obeys live waited

theorem typxProtocolV1ReadRecord_obeys (schedule : VerifiedSchedule)
    (recordIndex : UInt32) (live : phase.Live) :
    Program.Obeys (KeyMonitor maxDelay)
      (typxProtocolV1ReadRecord schedule recordIndex) phase
      fun result final => final = phase ∧ ∀ record, result = .ok record →
        SafeRecord schedule.limits.maxIndividualDelayUs record := by
  unfold typxProtocolV1ReadRecord
  split
  case isTrue => exact ⟨rfl, by rintro record ⟨⟩⟩
  split
  case isTrue => exact ⟨rfl, by rintro record ⟨⟩⟩
  split
  case h_1 => exact ⟨rfl, by rintro record ⟨⟩⟩
  refine (quiet_obeys live (readExact_quiet _ _ 32)).bind ?_
  rintro answer final rfl
  cases answer with
  | none => exact ⟨rfl, by rintro record ⟨⟩⟩
  | some bytes => exact ⟨rfl, fun record decoded => decodeRecord_safe decoded⟩

variable {schedule : VerifiedSchedule}

/-- One record, pressed and released, leads back to a released phase or to
the end of the run. -/
theorem executeRecord_obeys {index : UInt32} {record : Record}
    {continued : Firmware ExecutorError} (safe : SafeRecord maxDelay record)
    (rest : Program.Obeys (KeyMonitor maxDelay) continued .released Ended) :
    Program.Obeys (KeyMonitor maxDelay)
      (executeRecord schedule index record continued) .released Ended := by
  have released : KeyPhase.released.Live := .inl rfl
  have pressed : KeyPhase.pressed.Live := .inr rfl
  have asks (stopped : Bool) :
      KeyMonitor maxDelay .released ⟨.stopRequested, stopped⟩ .released :=
    .other stopped released (.inr (.inl rfl))
  unfold executeRecord
  apply wait_obeys released safe.waitBefore
  intro stopped
  refine ⟨.released, asks stopped, ?_⟩
  cases stopped with
  | true => exact finish_obeys .ok released rfl
  | false =>
  intro accepted
  refine ⟨.pressed, .press accepted safe.modifier safe.keycode, ?_⟩
  cases accepted with
  | false => exact finish_obeys .ok pressed rfl
  | true =>
  apply wait_obeys pressed safe.hold
  intro answer
  cases answer with
  | false =>
      -- A failed release: one more attempt, then the report.
      exact ⟨.releaseFailed, .releaseFails pressed, fun again =>
        ⟨.releaseFailed, .releaseAgain again, fun reported =>
          ⟨_, .report .ok reported, rfl⟩⟩⟩
  | true =>
  refine ⟨.released, .release pressed, fun progressed =>
    ⟨.released, .progress _ _ _ progressed, ?_⟩⟩
  intro stopped
  refine ⟨.released, asks stopped, ?_⟩
  cases stopped with
  | true => exact finish_obeys .ok released rfl
  | false =>
  exact wait_obeys released safe.waitAfter rest

theorem executeFrom_obeys (remaining : Nat) (index : UInt32) :
    Program.Obeys (KeyMonitor schedule.limits.maxIndividualDelayUs)
      (executeFrom schedule remaining index) .released Ended := by
  have released : KeyPhase.released.Live := .inl rfl
  induction remaining generalizing index with
  | zero => exact finish_obeys .ok released rfl
  | succ remaining induction =>
      intro stopped
      refine ⟨.released, .other stopped released (.inr (.inl rfl)), ?_⟩
      cases stopped with
      | true => exact finish_obeys .ok released rfl
      | false =>
          refine (typxProtocolV1ReadRecord_obeys schedule index released).bind ?_
          rintro result final ⟨rfl, safe⟩
          cases result with
          | error protocolError => exact finish_obeys protocolError released rfl
          | ok record =>
              exact executeRecord_obeys (safe record rfl) (induction (index + 1))

theorem typxExecutorRun_obeys (schedule : VerifiedSchedule) :
    Program.Obeys (KeyMonitor schedule.limits.maxIndividualDelayUs)
      (typxExecutorRun schedule) .released Ended := by
  unfold typxExecutorRun
  split
  · exact finish_obeys _ (.inl rfl) rfl
  · exact executeFrom_obeys _ 0

end Obedience

/-! ## What the host sees -/

def IsKeyDown (event : Event) : Prop :=
  ∃ modifier keycode, event.call = .keyDown modifier keycode

def IsWait (event : Event) : Prop := ∃ delayUs, event.call = .waitUs delayUs

def IsProgress (event : Event) : Prop :=
  ∃ sourceIndex completed total, event.call = .progress sourceIndex completed total

def IsTerminal (event : Event) : Prop :=
  ∃ status error protocolError, event.call = .terminal status error protocolError

/-- The laws of a run of `schedule` that returned `result` after `trace`. -/
structure NoStuckKeys (schedule : VerifiedSchedule) (trace : Trace)
    (result : ExecutorError) : Prop where
  terminalLast : ∃ prior protocolError,
    trace = prior ++ [⟨.terminal (statusOf result) result protocolError, ()⟩] ∧
      ∀ event ∈ prior, ¬IsTerminal event
  releasedBetween : ∀ before first between second after,
    trace = before ++ first :: (between ++ second :: after) →
    IsKeyDown first → IsKeyDown second → ⟨.releaseAll, true⟩ ∈ between
  releasedAfter : ∀ before press after, trace = before ++ press :: after →
    IsKeyDown press → ∃ event ∈ after, event.call = .releaseAll
  failedRelease : ∀ before after, trace = before ++ ⟨.releaseAll, false⟩ :: after →
    result = .releaseFailed ∧ ∀ event ∈ after,
      ¬IsKeyDown event ∧ ¬IsWait event ∧ ¬IsProgress event
  keys : ∀ modifier keycode answer,
    ⟨.keyDown modifier keycode, answer⟩ ∈ trace →
    modifier ≤ 0x03 ∧ SupportedKeycode keycode
  waits : ∀ delayUs answer, ⟨.waitUs delayUs, answer⟩ ∈ trace →
    delayUs ≤ schedule.limits.maxIndividualDelayUs
  unverified : typxProtocolV1IsVerified schedule = false →
    ∃ answer, trace = [⟨.releaseAll, answer⟩,
        ⟨.terminal .error result .notVerified, ()⟩] ∧
      result = if answer then .notVerified else .releaseFailed

section Laws

variable {maxDelay : UInt32} {trace : Trace} {result : ExecutorError}
  {phase final : KeyPhase}

theorem KeyPhase.Live.ne_over (live : phase.Live) (status : TerminalStatus)
    (error : ExecutorError) : phase ≠ .over status error := by
  rcases live with rfl | rfl
  · exact KeyPhase.noConfusion
  · exact KeyPhase.noConfusion

def KeyPhase.Failing (phase : KeyPhase) : Prop :=
  phase = .releaseFailed ∨ phase = .over .error .releaseFailed

theorem KeyPhase.Live.not_failing (live : phase.Live) : ¬phase.Failing := by
  rintro (failed | ended)
  · rcases live with equal | equal
    · cases equal.symm.trans failed
    · cases equal.symm.trans failed
  · exact live.ne_over _ _ ended

theorem not_unmonitored {call : Callback} (io : call.isIo = true)
    (timed : call ≠ .nowUs) (asked : call ≠ .stopRequested) :
    ¬Unmonitored call := by
  intro unmonitored
  rcases unmonitored with equal | equal | silent
  · exact timed equal
  · exact asked equal
  · exact Bool.noConfusion (io.symm.trans silent)

theorem not_unmonitored_releaseAll : ¬Unmonitored .releaseAll :=
  not_unmonitored rfl nofun nofun

theorem not_unmonitored_keyDown {modifier keycode : UInt8} :
    ¬Unmonitored (.keyDown modifier keycode) :=
  not_unmonitored rfl nofun nofun

theorem not_unmonitored_waitUs {delayUs : UInt32} :
    ¬Unmonitored (.waitUs delayUs) :=
  not_unmonitored rfl nofun nofun

theorem not_unmonitored_terminal {status : TerminalStatus}
    {error : ExecutorError} {protocolError : ProtocolError} :
    ¬Unmonitored (.terminal status error protocolError) :=
  not_unmonitored rfl nofun nofun

theorem KeyMonitor.terminal_of_over {event : Event} {status : TerminalStatus}
    {error : ExecutorError} (step : KeyMonitor maxDelay phase event final)
    (ended : final = .over status error) :
    status = statusOf error ∧
      ∃ protocolError, event = ⟨.terminal status error protocolError, ()⟩ := by
  cases step with
  | finish error protocolError answer =>
      cases ended
      exact ⟨rfl, protocolError, rfl⟩
  | report protocolError answer =>
      cases ended
      exact ⟨rfl, protocolError, rfl⟩
  | wait answer live bounded => exact absurd ended (live.ne_over status error)
  | other answer live unmonitored =>
      exact absurd ended (live.ne_over status error)
  | _ => cases ended

theorem KeyMonitor.over_of_terminal {event : Event}
    (step : KeyMonitor maxDelay phase event final) (terminal : IsTerminal event) :
    ∃ status error, final = .over status error := by
  rcases terminal with ⟨status, error, protocolError, equal⟩
  cases step with
  | finish error protocolError answer => exact ⟨_, _, rfl⟩
  | report protocolError answer => exact ⟨_, _, rfl⟩
  | other answer live unmonitored =>
      cases equal
      exact absurd unmonitored not_unmonitored_terminal
  | _ => cases equal

theorem KeyMonitor.of_keyDown {event : Event}
    (step : KeyMonitor maxDelay phase event final) (pressed : IsKeyDown event) :
    phase = .released ∧ final = .pressed := by
  rcases pressed with ⟨modifier, keycode, equal⟩
  cases step with
  | press answer modifier keycode => exact ⟨rfl, rfl⟩
  | other answer live unmonitored =>
      cases equal
      exact absurd unmonitored not_unmonitored_keyDown
  | _ => cases equal

theorem KeyMonitor.stays_unreleased {event : Event}
    (step : KeyMonitor maxDelay phase event final)
    (unreleased : event ≠ ⟨.releaseAll, true⟩) (held : phase ≠ .released) :
    final ≠ .released := by
  cases step with
  | release live => exact absurd rfl unreleased
  | wait answer live bounded => exact held
  | other answer live unmonitored => exact held
  | progress => exact held
  | _ =>
      intro equal
      cases equal

theorem KeyMonitor.stays_pressed {event : Event}
    (step : KeyMonitor maxDelay phase event final)
    (kept : event.call ≠ .releaseAll) (held : phase = .pressed) :
    final = .pressed := by
  cases step with
  | release live => exact absurd rfl kept
  | releaseFails live => exact absurd rfl kept
  | wait answer live bounded => exact held
  | other answer live unmonitored => exact held
  | _ => cases held

theorem closing_call {event : Event}
    (closing : event.call = .releaseAll ∨ IsTerminal event) :
    ¬IsKeyDown event ∧ ¬IsWait event ∧ ¬IsProgress event := by
  have other {call : Callback} (equal : event.call = call)
      (notRelease : call ≠ .releaseAll)
      (notTerminal : ∀ status error protocolError,
        call ≠ .terminal status error protocolError) : False := by
    rcases closing with same | ⟨_, _, _, same⟩
    · exact notRelease (equal.symm.trans same)
    · exact notTerminal _ _ _ (equal.symm.trans same)
  refine ⟨?_, ?_, ?_⟩
  · intro pressed
    rcases pressed with ⟨_, _, equal⟩
    exact other equal (by simp) (by simp)
  · intro waited
    rcases waited with ⟨_, equal⟩
    exact other equal (by simp) (by simp)
  · intro progressed
    rcases progressed with ⟨_, _, _, equal⟩
    exact other equal (by simp) (by simp)

theorem KeyMonitor.of_failing {event : Event}
    (step : KeyMonitor maxDelay phase event final) (failing : phase.Failing) :
    final.Failing ∧ ¬IsKeyDown event ∧ ¬IsWait event ∧ ¬IsProgress event := by
  cases step with
  | releaseAgain answer => exact ⟨.inl rfl, closing_call (.inl rfl)⟩
  | report protocolError answer =>
      exact ⟨.inr rfl, closing_call (.inr ⟨_, _, _, rfl⟩)⟩
  | release live => exact absurd failing live.not_failing
  | releaseFails live => exact absurd failing live.not_failing
  | wait answer live bounded => exact absurd failing live.not_failing
  | other answer live unmonitored => exact absurd failing live.not_failing
  | _ => rcases failing with equal | equal <;> cases equal

section Accepted

variable {schedule : VerifiedSchedule}
  (run : Monitor.Run (KeyMonitor maxDelay) .released trace
    (.over (statusOf result) result))

include run

theorem terminal_last :
    ∃ prior protocolError,
      trace = prior ++ [⟨.terminal (statusOf result) result protocolError, ()⟩] ∧
        ∀ event ∈ prior, ¬IsTerminal event := by
  have enters : ∀ before event after, KeyMonitor maxDelay before event after →
      ((∃ status error, after = .over status error) ↔ IsTerminal event) := by
    intro before event after step
    constructor
    · rintro ⟨status, error, ended⟩
      rcases (step.terminal_of_over ended).2 with ⟨protocolError, rfl⟩
      exact ⟨_, _, _, rfl⟩
    · exact step.over_of_terminal
  have stuck : ∀ before event after,
      (∃ status error, before = .over status error) →
      ¬KeyMonitor maxDelay before event after := by
    rintro before event after ⟨status, error, rfl⟩ step
    cases step with
    | release live => exact live.ne_over _ _ rfl
    | releaseFails live => exact live.ne_over _ _ rfl
    | wait answer live bounded => exact live.ne_over _ _ rfl
    | other answer live unmonitored => exact live.ne_over _ _ rfl
  have opened : ¬∃ status error, KeyPhase.released = .over status error := by
    rintro ⟨status, error, equal⟩
    cases equal
  rcases run.closes enters stuck opened ⟨_, _, rfl⟩ with
    ⟨prior, event, rfl, _, others⟩
  rcases Transition.run_append_iff.mp run with ⟨middle, _, last⟩
  rcases Transition.run_cons_iff.mp last with ⟨final, step, rest⟩
  rcases (step.terminal_of_over (Transition.run_nil_iff.mp rest).symm).2 with
    ⟨protocolError, rfl⟩
  exact ⟨prior, protocolError, rfl, others⟩

theorem released_between {before between after : Trace} {first second : Event}
    (split : trace = before ++ first :: (between ++ second :: after))
    (pressedFirst : IsKeyDown first) (pressedSecond : IsKeyDown second) :
    ⟨.releaseAll, true⟩ ∈ between := by
  subst split
  rcases Transition.run_append_iff.mp run with ⟨_, _, rest⟩
  rcases Transition.run_cons_iff.mp rest with ⟨held, down, rest⟩
  rcases Transition.run_append_iff.mp rest with ⟨later, middle, rest⟩
  rcases Transition.run_cons_iff.mp rest with ⟨_, again, _⟩
  by_contra unreleased
  have stillHeld : later ≠ .released := by
    refine middle.invariant (· ≠ .released)
      (fun event : Event => event ≠ ⟨.releaseAll, true⟩) ?_ ?_ ?_
    · exact fun _ _ _ other held step => step.stays_unreleased other held
    · exact fun event member equal => unreleased (equal ▸ member)
    · rw [(down.of_keyDown pressedFirst).2]
      exact KeyPhase.noConfusion
  exact stillHeld (again.of_keyDown pressedSecond).1

theorem released_after {before after : Trace} {press : Event}
    (split : trace = before ++ press :: after) (pressed : IsKeyDown press) :
    ∃ event ∈ after, event.call = .releaseAll := by
  subst split
  rcases Transition.run_append_iff.mp run with ⟨_, _, rest⟩
  rcases Transition.run_cons_iff.mp rest with ⟨held, down, rest⟩
  by_contra none
  have stillPressed : KeyPhase.over (statusOf result) result = .pressed := by
    refine rest.invariant (· = .pressed)
      (fun event : Event => event.call ≠ .releaseAll) ?_ ?_ ?_
    · exact fun _ _ _ other held step => step.stays_pressed other held
    · exact fun event member equal => none ⟨event, member, equal⟩
    · exact (down.of_keyDown pressed).2
  cases stillPressed

theorem failed_release {before after : Trace}
    (split : trace = before ++ (⟨.releaseAll, false⟩ : Event) :: after) :
    result = .releaseFailed ∧ ∀ event ∈ after,
      ¬IsKeyDown event ∧ ¬IsWait event ∧ ¬IsProgress event := by
  subst split
  rcases Transition.run_append_iff.mp run with ⟨_, _, rest⟩
  rcases Transition.run_cons_iff.mp rest with ⟨failed, step, rest⟩
  have failing : failed.Failing := by
    generalize equal : (⟨.releaseAll, false⟩ : Event) = event at step
    cases step with
    | releaseFails live => exact .inl rfl
    | releaseAgain answer => exact .inl rfl
    | other answer live unmonitored =>
        cases equal
        exact absurd unmonitored not_unmonitored_releaseAll
    | _ => cases equal
  have preserved : ∀ before event after, before.Failing →
      KeyMonitor maxDelay before event after → after.Failing :=
    fun _ _ _ failing step => (step.of_failing failing).1
  constructor
  · have last := rest.invariant KeyPhase.Failing (fun _ => True)
      (fun before event after _ => preserved before event after)
      (fun _ _ => trivial) failing
    rcases last with equal | equal
    · cases equal
    · injection equal
  · intro event member
    rcases rest.step_of_mem _ preserved failing member with
      ⟨here, next, failing, step⟩
    exact (step.of_failing failing).2

theorem keys_supported {modifier keycode : UInt8} {answer : Bool}
    (member : (⟨.keyDown modifier keycode, answer⟩ : Event) ∈ trace) :
    modifier ≤ 0x03 ∧ SupportedKeycode keycode := by
  rcases run.step_of_mem (fun _ => True) (fun _ _ _ _ _ => trivial) trivial
    member with ⟨here, next, _, step⟩
  generalize equal : (⟨.keyDown modifier keycode, answer⟩ : Event) = event at step
  cases step with
  | press answer modifier keycode =>
      cases equal
      exact ⟨modifier, keycode⟩
  | other answer live unmonitored =>
      cases equal
      exact absurd unmonitored not_unmonitored_keyDown
  | _ => cases equal

theorem waits_bounded {delayUs : UInt32} {answer : Bool}
    (member : (⟨.waitUs delayUs, answer⟩ : Event) ∈ trace) :
    delayUs ≤ maxDelay := by
  rcases run.step_of_mem (fun _ => True) (fun _ _ _ _ _ => trivial) trivial
    member with ⟨here, next, _, step⟩
  generalize equal : (⟨.waitUs delayUs, answer⟩ : Event) = event at step
  cases step with
  | wait answer live bounded =>
      cases equal
      exact bounded
  | other answer live unmonitored =>
      cases equal
      exact absurd unmonitored not_unmonitored_waitUs
  | _ => cases equal

end Accepted

end Laws

theorem typxExecutorRun_unverified {σ : Type}
    {environment : Environment callbacks σ} {schedule : VerifiedSchedule}
    (unverified : typxProtocolV1IsVerified schedule = false) (before : σ) :
    Program.Ensures environment (typxExecutorRun schedule) before
      fun trace result _ => ∃ answer,
        trace = [⟨.releaseAll, answer⟩, ⟨.terminal .error result .notVerified, ()⟩] ∧
          result = if answer then .notVerified else .releaseFailed := by
  rw [typxExecutorRun, if_pos (by simp [unverified])]
  rw [finish, releaseBestEffort]
  simp only [Io.releaseAll_bind, Io.terminal_bind, Program.pure_eq_done,
    Program.ensures_ask, Program.ensures_done]
  intro answer middle _ reported after _
  cases answer with
  | true => exact ⟨true, rfl, rfl⟩
  | false => exact ⟨false, rfl, rfl⟩

/-- Whatever the callbacks answer, a run leaves no key down. -/
theorem typxExecutorRun_noStuckKeys {σ : Type}
    (environment : Environment callbacks σ) (schedule : VerifiedSchedule)
    (before : σ) :
    Program.Ensures environment (typxExecutorRun schedule) before
      fun trace result _ => NoStuckKeys schedule trace result := by
  intro trace result after execution
  rcases (typxExecutorRun_obeys schedule).run execution with ⟨final, run, rfl⟩
  exact {
    terminalLast := terminal_last run
    releasedBetween := fun _ _ _ _ _ => released_between run
    releasedAfter := fun _ _ _ => released_after run
    failedRelease := fun _ _ => failed_release run
    keys := fun _ _ _ => keys_supported run
    waits := fun _ _ => waits_bounded run
    unverified := fun unverified =>
      typxExecutorRun_unverified unverified before _ _ _ execution }

def letterVerified : VerifiedSchedule :=
  verifiedBy (Reader.ofCallback 224) typxProtocolV1Esp32CamLimits
    (headerOf letterSchedule)

/-- Callbacks over the stored `letterSchedule` that all succeed but the second
release; the state counts releases. -/
def secondReleaseFails : (request : Callback) → Nat →
    Callback.Answer request × Nat
  | .readAt offset length, releases =>
      (some (block letterSchedule offset.toNat length), releases)
  | .sha256Finish, releases => (none, releases)
  | .read _ _, releases => (none, releases)
  | .nowUs, releases => (0, releases)
  | .stopRequested, releases => (false, releases)
  | .progress _ _ _, releases => ((), releases)
  | .terminal _ _ _, releases => ((), releases)
  | .releaseAll, releases => (releases != 1, releases + 1)
  | .sha256Begin, releases => (true, releases)
  | .sha256Update _, releases => (true, releases)
  | .erase, releases => (true, releases)
  | .eraseRange _ _, releases => (true, releases)
  | .write _ _, releases => (true, releases)
  | .waitUs _, releases => (true, releases)
  | .keyDown _ _, releases => (true, releases)

theorem typxExecutorRun_secondReleaseFails :
    ∃ trace, NoStuckKeys letterVerified trace .releaseFailed ∧
      trace.countP (fun event => event.call == .keyDown 0x00 0x04) = 1 ∧
      trace.countP (fun event => event.call == .releaseAll) = 3 := by
  have returned : ((typxExecutorRun letterVerified).run secondReleaseFails
      0).2.1 = .releaseFailed := by
    decide +kernel
  have laws := typxExecutorRun_noStuckKeys _ letterVerified 0 _ _ _
    (Program.exec_run secondReleaseFails (typxExecutorRun letterVerified) 0)
  rw [returned] at laws
  exact ⟨_, laws, by decide +kernel, by decide +kernel⟩

end Typxen.Executor
