import Typxen.Executor.KeySafety
import Typxen.LocalSchedule.LocalSchedule

/-! # From bytes to keystrokes

The typing monitor knows the schedule: it allows the keys of its records in
order, each report right after its release, and success only at the end. The
executor obeys it on every acceptable schedule, so what it accepts is what a
run types. -/

namespace Typxen.LocalSchedule

open Interaction Protocol Executor ByteString

/-! ## The typing monitor -/

inductive Stage
  | ready
  | pressed
  | released
  | closing
  | over (error : ExecutorError)

structure TypingState where
  stage : Stage
  pressed : Nat
  reported : Nat
  waits : List UInt32

def TypingState.Typing (state : TypingState) : Prop :=
  state.stage = .ready ∨ state.stage = .pressed

section Monitor

variable (bytes : List UInt8)

def durationBefore (count : Nat) : Nat :=
  ∑ index ∈ Finset.range count, durationAt bytes index

def waitedFor (waits : List UInt32) : Nat := (waits.map UInt32.toNat).sum

def TypingState.Complete (state : TypingState) : Prop :=
  state.reported = actionCountOf bytes ∧
    waitedFor state.waits = durationBefore bytes (actionCountOf bytes)

inductive TypingMonitor : Monitor callbacks TypingState
  | press {state : TypingState} (answer : Bool) :
      state.stage = .ready → state.pressed < actionCountOf bytes →
      TypingMonitor state
        ⟨.keyDown (modifierAt bytes state.pressed)
          (keycodeAt bytes state.pressed), answer⟩
        { state with stage := .pressed, pressed := state.pressed + 1 }
  | wait {state : TypingState} (delayUs : UInt32) (answer : Bool) :
      state.Typing →
      TypingMonitor state ⟨.waitUs delayUs, answer⟩
        { state with waits := state.waits ++ [delayUs] }
  | release {state : TypingState} : state.stage = .pressed →
      TypingMonitor state ⟨.releaseAll, true⟩ { state with stage := .released }
  | progress {state : TypingState} {sourceIndex completed total : UInt32}
      (answer : Unit) :
      state.stage = .released →
      sourceIndex.toNat = sourceIndexAt bytes state.reported →
      completed.toNat = state.reported + 1 →
      total.toNat = actionCountOf bytes →
      TypingMonitor state ⟨.progress sourceIndex completed total, answer⟩
        { state with stage := .ready, reported := state.reported + 1 }
  | close {state : TypingState} (answer : Bool) : state.stage = .ready →
      TypingMonitor state ⟨.releaseAll, answer⟩ { state with stage := .closing }
  | releaseFails {state : TypingState} : state.stage = .pressed →
      TypingMonitor state ⟨.releaseAll, false⟩ { state with stage := .closing }
  | releaseAgain {state : TypingState} (answer : Bool) :
      state.stage = .closing → TypingMonitor state ⟨.releaseAll, answer⟩ state
  | finish {state : TypingState} {status : TerminalStatus}
      {error : ExecutorError} {protocolError : ProtocolError} (answer : Unit) :
      state.stage = .closing → (error = .ok → state.Complete bytes) →
      TypingMonitor state ⟨.terminal status error protocolError, answer⟩
        { state with stage := .over error }
  | abandon {state : TypingState} {status : TerminalStatus}
      {error : ExecutorError} {protocolError : ProtocolError} (answer : Unit) :
      state.stage = .released → error ≠ .ok →
      TypingMonitor state ⟨.terminal status error protocolError, answer⟩
        { state with stage := .over error }
  | other {state : TypingState} {call : Callback}
      (answer : Callback.Answer call) : state.Typing → Unmonitored call →
      TypingMonitor state ⟨call, answer⟩ state

end Monitor

/-! ## The executor obeys it -/

def EndedTyping (result : ExecutorError) (final : TypingState) : Prop :=
  final.stage = .over result

section Obedience

variable {bytes : List UInt8} {state : TypingState}

theorem finish_types {status : TerminalStatus} {error : ExecutorError}
    (protocolError : ProtocolError) (typing : state.Typing)
    (complete : error = .ok → state.stage = .ready ∧ state.Complete bytes) :
    Program.Obeys (TypingMonitor bytes) (finish status error protocolError)
      state EndedTyping := by
  intro released
  cases released with
  | false =>
      have closed : TypingMonitor bytes state ⟨.releaseAll, false⟩
          { state with stage := .closing } := by
        rcases typing with ready | pressed
        · exact .close false ready
        · exact .releaseFails pressed
      refine ⟨_, closed, fun answered => ⟨_, .finish answered rfl ?_, rfl⟩⟩
      intro equal
      cases equal
  | true =>
      rcases typing with ready | pressed
      · refine ⟨_, .close true ready, fun answered =>
          ⟨_, .finish answered rfl ?_, rfl⟩⟩
        intro equal
        exact (complete equal).2
      · refine ⟨_, .release pressed, fun answered =>
          ⟨_, .abandon answered rfl ?_, rfl⟩⟩
        intro equal
        have ready := (complete equal).1
        rw [pressed] at ready
        cases ready

theorem finishWait_types {waitError : ExecutorError} (typing : state.Typing)
    (failed : waitError ≠ .ok) :
    Program.Obeys (TypingMonitor bytes) (finishWait waitError) state
      EndedTyping :=
  finish_types .ok typing fun equal => absurd equal failed

theorem waitChecked_types {delayUs : UInt32} (typing : state.Typing) :
    Program.Obeys (TypingMonitor bytes) (waitChecked delayUs) state
      fun result final => ∃ waits, final = { state with waits := waits } ∧
        (result = .ok →
          waitedFor waits = waitedFor state.waits + delayUs.toNat) := by
  have asks (stopped : Bool) :
      TypingMonitor bytes state ⟨.stopRequested, stopped⟩ state :=
    .other stopped typing (.inr (.inl rfl))
  unfold waitChecked
  split
  case isTrue skipped =>
    refine ⟨state.waits, rfl, fun _ => ?_⟩
    rw [beq_iff_eq.mp skipped]
    rfl
  intro stopped
  refine ⟨state, asks stopped, ?_⟩
  cases stopped with
  | true => exact ⟨state.waits, rfl, ExecutorError.noConfusion⟩
  | false =>
  intro before
  refine ⟨state, .other before typing (.inl rfl), ?_⟩
  intro waited
  refine ⟨_, .wait delayUs waited typing, ?_⟩
  have total : waitedFor (state.waits ++ [delayUs]) =
      waitedFor state.waits + delayUs.toNat := by
    simp [waitedFor]
  have stillTyping : TypingState.Typing
      { state with waits := state.waits ++ [delayUs] } := typing
  cases waited with
  | true =>
      exact fun after => ⟨_, .other after stillTyping (.inl rfl),
        state.waits ++ [delayUs], rfl, fun _ => total⟩
  | false =>
      intro stopped
      refine ⟨_, .other stopped stillTyping (.inr (.inl rfl)), ?_⟩
      cases stopped with
      | true => exact ⟨_, rfl, ExecutorError.noConfusion⟩
      | false => exact ⟨_, rfl, ExecutorError.noConfusion⟩

theorem wait_types {delayUs : UInt32} {continued : Firmware ExecutorError}
    (typing : state.Typing)
    (rest : ∀ waits, waitedFor waits = waitedFor state.waits + delayUs.toNat →
      Program.Obeys (TypingMonitor bytes) continued
        { state with waits := waits } EndedTyping) :
    Program.Obeys (TypingMonitor bytes)
      (waitChecked delayUs >>= fun waitError =>
        if waitError != .ok then finishWait waitError else continued)
      state EndedTyping := by
  apply (waitChecked_types typing).bind
  intro waitError final waited
  rcases waited with ⟨waits, same, total⟩
  rw [same]
  by_cases succeeded : waitError = .ok
  · rw [if_neg (by simpa using succeeded)]
    exact rest waits (total succeeded)
  · rw [if_pos (by simpa using succeeded)]
    exact finishWait_types typing succeeded

def beforeRecord (index : Nat) (waits : List UInt32) : TypingState where
  stage := .ready
  pressed := index
  reported := index
  waits := waits

/-- One record of the schedule is pressed, released and reported. -/
theorem executeRecord_types {schedule : VerifiedSchedule} {index : UInt32}
    {record : Record} {waits : List UInt32}
    {continued : Firmware ExecutorError}
    (total : schedule.header.actionCount.toNat = actionCountOf bytes)
    (more : index.toNat < actionCountOf bytes)
    (isRecord : record = recordAt bytes index.toNat)
    (rest : ∀ later, waitedFor later =
        waitedFor waits + durationAt bytes index.toNat →
      Program.Obeys (TypingMonitor bytes) continued
        (beforeRecord (index.toNat + 1) later) EndedTyping) :
    Program.Obeys (TypingMonitor bytes)
      (executeRecord schedule index record continued)
      (beforeRecord index.toNat waits) EndedTyping := by
  have ready (waits : List UInt32) (index : Nat) :
      (beforeRecord index waits).Typing := .inl rfl
  have modifier : record.modifier = modifierAt bytes index.toNat := by
    rw [isRecord, recordAt_modifier]
  have keycode : record.keycode = keycodeAt bytes index.toNat := by
    rw [isRecord, recordAt_keycode]
  have sourceIndex : record.sourceIndex.toNat =
      sourceIndexAt bytes index.toNat := by
    rw [isRecord, recordAt_sourceIndex]
  have duration : record.waitBeforeKeyDownUs.toNat +
      record.keyDownHoldUs.toNat + record.waitAfterReleaseUs.toNat =
        durationAt bytes index.toNat := by
    rw [isRecord, recordAt_waitBefore, recordAt_hold, recordAt_waitAfter]
    rfl
  have next : (index + 1).toNat = index.toNat + 1 := by
    have bound := schedule.header.actionCount.toNat_lt
    rw [UInt32.toNat_add, UInt32.toNat_one]
    omega
  clear isRecord
  unfold executeRecord
  apply wait_types (ready waits index.toNat)
  intro waitsBefore beforeTotal stopped
  refine ⟨_, .other stopped (.inl rfl) (.inr (.inl rfl)), ?_⟩
  cases stopped with
  | true => exact finish_types .ok (.inl rfl) ExecutorError.noConfusion
  | false =>
  intro accepted
  rw [modifier, keycode]
  refine ⟨_, .press accepted rfl more, ?_⟩
  cases accepted with
  | false => exact finish_types .ok (.inr rfl) ExecutorError.noConfusion
  | true =>
  apply wait_types (.inr rfl)
  intro waitsHeld heldTotal released
  cases released with
  | false =>
      exact ⟨_, .releaseFails rfl, fun again => ⟨_, .releaseAgain again rfl,
        fun reported => ⟨_, .finish reported rfl ExecutorError.noConfusion, rfl⟩⟩⟩
  | true =>
  refine ⟨_, .release rfl, fun progressed => ⟨_, .progress progressed rfl
    sourceIndex next total, ?_⟩⟩
  intro stopped
  refine ⟨_, .other stopped (.inl rfl) (.inr (.inl rfl)), ?_⟩
  cases stopped with
  | true => exact finish_types .ok (.inl rfl) ExecutorError.noConfusion
  | false =>
  apply wait_types (.inl rfl)
  intro waitsAfter afterTotal
  apply rest waitsAfter
  simp only [beforeRecord] at beforeTotal heldTotal afterTotal
  omega

end Obedience

/-! ## The bytes in memory -/

section Memory

variable {memory : Blob}

theorem readMemory_eq {offset : UInt64} {length : Nat}
    (within : offset.toNat + length ≤ memory.data.length) :
    readMemory memory offset length =
      some (block memory.data offset.toNat length) := by
  have size := memory.size_eq
  have below : offset ≤ memory.size := by
    rw [UInt64.le_iff_toNat_le]
    omega
  have room : length ≤ (memory.size - offset).toNat := by
    rw [UInt64.toNat_sub_of_le _ _ below]
    omega
  rw [readMemory, if_neg]
  simp [UInt64.not_lt.mpr below, room]

theorem memoryReader_serves {σ : Type} {environment : Environment callbacks σ}
    {fault : Event → Prop} {valid : σ → Prop} {absorbed : σ → List UInt8} :
    Serves environment fault valid absorbed (memoryReader memory)
      memory.data where
  size := memory.size_eq
  read offset length before holds within := by
    rw [memoryReader_readAt, Program.ensures_done]
    exact ⟨holds, rfl, .inl ⟨readMemory_eq within, faulted_nil⟩⟩

variable {limits : Limits} {hash : List UInt8 → Vector UInt8 32}

theorem typxProtocolV1ReadRecord_memory
    (acceptable : AcceptableV1 limits hash memory.data) {index : UInt32}
    (more : index.toNat < actionCountOf memory.data) :
    typxProtocolV1ReadRecord
        (verifiedBy (memoryReader memory) limits (headerOf memory.data)) index =
      .done (.ok (recordAt memory.data index.toNat)) := by
  have below : ¬index ≥ (headerOf memory.data).actionCount := by
    rw [ge_iff_le, UInt32.le_iff_toNat_le, headerOf_actionCount]
    omega
  have start := recordOffset_toNat index
  have within : recordStart index.toNat + 32 ≤ memory.data.length := by
    have length := acceptable.length
    simp only [recordStart]
    omega
  have read : readExact (memoryReader memory)
      (headerBytes + index.toUInt64 * recordBytes) 32 =
      .done (some (block memory.data (recordStart index.toNat) 32)) := by
    rw [readExact_of_within, memoryReader_readAt, readMemory_eq, start]
    · rw [start]
      exact within
    · rw [memoryReader_sizeBytes, start, memory.size_eq]
      exact within
  have decoded := (decodeRecord_eq_ok_iff memory.data index.toNat
    limits.maxIndividualDelayUs _).mpr ⟨acceptable.records _ more, rfl⟩
  simp only [typxProtocolV1ReadRecord, verifiedBy, readRecordUnverified, read,
    typxProtocolV1IsVerified, beq_self_eq_true, Bool.not_true,
    Bool.false_eq_true, if_false, if_neg below, Program.done_bind, decoded]
  rfl

theorem executeFrom_types (acceptable : AcceptableV1 limits hash memory.data)
    (remaining : Nat) (index : UInt32) (waits : List UInt32)
    (position : index.toNat + remaining = actionCountOf memory.data)
    (waited : waitedFor waits = durationBefore memory.data index.toNat) :
    Program.Obeys (TypingMonitor memory.data)
      (executeFrom
        (verifiedBy (memoryReader memory) limits (headerOf memory.data))
        remaining index)
      (beforeRecord index.toNat waits) EndedTyping := by
  induction remaining generalizing index waits with
  | zero =>
      have last : index.toNat = actionCountOf memory.data := by omega
      apply finish_types .ok (.inl rfl)
      intro _
      refine ⟨rfl, last, ?_⟩
      rw [← last]
      exact waited
  | succ remaining induction =>
      have more : index.toNat < actionCountOf memory.data := by omega
      have countBound := acceptable.count_lt
      have next : (index + 1).toNat = index.toNat + 1 := by
        rw [UInt32.toNat_add, UInt32.toNat_one]
        omega
      intro stopped
      refine ⟨_, .other stopped (.inl rfl) (.inr (.inl rfl)), ?_⟩
      cases stopped with
      | true => exact finish_types .ok (.inl rfl) ExecutorError.noConfusion
      | false =>
          have total : (verifiedBy (memoryReader memory) limits
              (headerOf memory.data)).header.actionCount.toNat =
              actionCountOf memory.data := headerOf_actionCount memory.data
          rw [typxProtocolV1ReadRecord_memory acceptable more,
            Program.done_bind]
          generalize isRecord : recordAt memory.data index.toNat = record
          apply executeRecord_types total more isRecord.symm
          intro later laterWaited
          have rest := induction (index + 1) later (by omega) (by
            rw [laterWaited, waited, next, durationBefore, durationBefore,
              Finset.sum_range_succ])
          rw [next] at rest
          exact rest

end Memory

/-! ## What a run types -/

def keyDownOf : Event → List (UInt8 × UInt8)
  | ⟨.keyDown modifier keycode, _⟩ => [(modifier, keycode)]
  | _ => []

def reportOf : Event → List (Nat × Nat × Nat)
  | ⟨.progress sourceIndex completed total, _⟩ =>
      [(sourceIndex.toNat, completed.toNat, total.toNat)]
  | _ => []

def waitOf : Event → List UInt32
  | ⟨.waitUs delayUs, _⟩ => [delayUs]
  | _ => []

def keyDowns (trace : Trace) : List (UInt8 × UInt8) := trace.flatMap keyDownOf

def reports (trace : Trace) : List (Nat × Nat × Nat) := trace.flatMap reportOf

def waits (trace : Trace) : List UInt32 := trace.flatMap waitOf

section Accepted

variable (bytes : List UInt8)

def keysOf (count : Nat) : List (UInt8 × UInt8) :=
  (List.range count).map fun index =>
    (modifierAt bytes index, keycodeAt bytes index)

def reportsOf (count : Nat) : List (Nat × Nat × Nat) :=
  (List.range count).map fun index =>
    (sourceIndexAt bytes index, index + 1, actionCountOf bytes)

structure Consistent (state : TypingState) : Prop where
  lower : state.reported ≤ state.pressed
  upper : state.pressed ≤ state.reported + 1
  bound : state.pressed ≤ actionCountOf bytes
  ready : state.stage = .ready → state.pressed = state.reported
  held : state.stage = .pressed ∨ state.stage = .released →
    state.pressed = state.reported + 1
  completed : state.stage = .over .ok → state.Complete bytes

variable {bytes} {state final : TypingState} {event : Event}

theorem TypingMonitor.consistent (step : TypingMonitor bytes state event final)
    (consistent : Consistent bytes state) : Consistent bytes final := by
  rcases consistent with ⟨lower, upper, bound, ready, held, completed⟩
  cases step with
  | press answer stage more =>
      have even := ready stage
      refine ⟨?_, ?_, more, ?_, ?_, ?_⟩
      all_goals simp [even]
  | wait delayUs answer typing =>
      refine ⟨lower, upper, bound, ready, held, ?_⟩
      intro ended
      rcases typing with stage | stage
      · cases stage.symm.trans ended
      · cases stage.symm.trans ended
  | release stage =>
      have odd := held (.inl stage)
      refine ⟨lower, upper, bound, ?_, fun _ => odd, ?_⟩
      all_goals simp
  | progress answer stage _ _ _ =>
      have odd := held (.inr stage)
      refine ⟨odd.ge, by simp [odd], bound, fun _ => odd, ?_, ?_⟩
      all_goals simp
  | close answer stage =>
      refine ⟨lower, upper, bound, ?_, ?_, ?_⟩
      all_goals simp
  | releaseFails stage =>
      refine ⟨lower, upper, bound, ?_, ?_, ?_⟩
      all_goals simp
  | releaseAgain answer stage =>
      exact ⟨lower, upper, bound, ready, held, completed⟩
  | finish answer stage complete =>
      refine ⟨lower, upper, bound, ?_, ?_, ?_⟩
      · simp
      · simp
      · intro ended
        injection ended with equal
        exact complete equal
  | abandon answer stage failed =>
      refine ⟨lower, upper, bound, ?_, ?_, ?_⟩
      · simp
      · simp
      · intro ended
        injection ended with equal
        exact absurd equal failed
  | other answer typing unmonitored =>
      exact ⟨lower, upper, bound, ready, held, completed⟩

theorem emits_nothing {call : Callback} {answer : Callback.Answer call}
    (unmonitored : Unmonitored call) :
    keyDownOf ⟨call, answer⟩ = [] ∧ reportOf ⟨call, answer⟩ = [] ∧
      waitOf ⟨call, answer⟩ = [] := by
  cases call with
  | keyDown modifier keycode => exact absurd unmonitored not_unmonitored_keyDown
  | waitUs delayUs => exact absurd unmonitored not_unmonitored_waitUs
  | progress sourceIndex completed total =>
      exact absurd unmonitored (not_unmonitored rfl nofun nofun)
  | _ => exact ⟨rfl, rfl, rfl⟩

theorem TypingMonitor.keys (step : TypingMonitor bytes state event final) :
    keysOf bytes final.pressed = keysOf bytes state.pressed ++ keyDownOf event := by
  cases step with
  | press answer stage more =>
      simp [keysOf, List.range_succ, keyDownOf]
  | other answer typing unmonitored =>
      rw [(emits_nothing unmonitored).1, List.append_nil]
  | _ => exact (List.append_nil _).symm

theorem TypingMonitor.reports (step : TypingMonitor bytes state event final) :
    reportsOf bytes final.reported =
      reportsOf bytes state.reported ++ reportOf event := by
  cases step with
  | progress answer stage source completed total =>
      simp [reportsOf, List.range_succ, reportOf, source, completed, total]
  | other answer typing unmonitored =>
      rw [(emits_nothing unmonitored).2.1, List.append_nil]
  | _ => exact (List.append_nil _).symm

theorem TypingMonitor.waits (step : TypingMonitor bytes state event final) :
    final.waits = state.waits ++ waitOf event := by
  cases step with
  | wait delayUs answer typing => rfl
  | other answer typing unmonitored =>
      rw [(emits_nothing unmonitored).2.2, List.append_nil]
  | _ => exact (List.append_nil _).symm

theorem TypingMonitor.released (step : TypingMonitor bytes state event final)
    (stage : final.stage = .released) : event = ⟨.releaseAll, true⟩ := by
  cases step with
  | release pressed => rfl
  | wait delayUs answer typing =>
      rcases typing with ready | pressed
      · cases ready.symm.trans stage
      · cases pressed.symm.trans stage
  | releaseAgain answer closing => cases closing.symm.trans stage
  | other answer typing unmonitored =>
      rcases typing with ready | pressed
      · cases ready.symm.trans stage
      · cases pressed.symm.trans stage
  | _ => cases stage

@[simp] theorem keysOf_length (count : Nat) :
    (keysOf bytes count).length = count := by
  simp [keysOf]

@[simp] theorem reportsOf_length (count : Nat) :
    (reportsOf bytes count).length = count := by
  simp [reportsOf]

theorem keysOf_succ (count : Nat) : keysOf bytes (count + 1) =
    keysOf bytes count ++ [(modifierAt bytes count, keycodeAt bytes count)] := by
  simp [keysOf, List.range_succ]

theorem keysOf_prefix {few many : Nat} (le : few ≤ many) :
    keysOf bytes few <+: keysOf bytes many := by
  induction le with
  | refl => exact List.prefix_refl _
  | step _ induction =>
      rw [Nat.succ_eq_add_one, keysOf_succ]
      exact induction.trans (List.prefix_append _ _)

theorem keysOf_cleanup {limits : Limits} {hash : List UInt8 → Vector UInt8 32}
    (acceptable : AcceptableV1 limits hash bytes) :
    (keysOf bytes (actionCountOf bytes)).drop (actionCountOf bytes - 3) =
      [(0x00, 0x29), (0x03, 0x4d), (0x00, 0x4c)] := by
  have late (offset : Nat) (within : offset < 3) :
      (modifierAt bytes (actionCountOf bytes - 3 + offset),
        keycodeAt bytes (actionCountOf bytes - 3 + offset)) =
        cleanupKey offset := by
    have lower := acceptable.countLower
    have key := (acceptable.positions (actionCountOf bytes - 3 + offset)
      (by omega)).cleanupKey (by omega)
    rw [key]
    congr 1
    omega
  have split : actionCountOf bytes = actionCountOf bytes - 3 + 1 + 1 + 1 := by
    have lower := acceptable.countLower
    omega
  have whole : keysOf bytes (actionCountOf bytes) =
      keysOf bytes (actionCountOf bytes - 3) ++
        [cleanupKey 0, cleanupKey 1, cleanupKey 2] := by
    conv_lhs => rw [split]
    rw [keysOf_succ, keysOf_succ, keysOf_succ, ← late 0 (by omega),
      ← late 1 (by omega), ← late 2 (by omega)]
    simp
  rw [whole, List.drop_left' (keysOf_length _)]
  rfl

end Accepted

/-- What the host and the reports have received after a run on the schedule
`bytes` that returned `result`. -/
structure Faithful (bytes : List UInt8) (trace : Trace)
    (result : ExecutorError) : Prop where
  keys : keyDowns trace <+: keysOf bytes (actionCountOf bytes)
  reported : reports trace = reportsOf bytes (reports trace).length
  lower : (reports trace).length ≤ (keyDowns trace).length
  upper : (keyDowns trace).length ≤ (reports trace).length + 1
  afterRelease : ∀ before sourceIndex completed total answer after,
    trace = before ++ ⟨.progress sourceIndex completed total, answer⟩ :: after →
      (∃ prior, before = prior ++ [⟨.releaseAll, true⟩]) ∧
        (keyDowns before).length = completed.toNat
  completed : result = .ok →
    (keyDowns trace).length = actionCountOf bytes ∧
      (reports trace).length = actionCountOf bytes ∧
      (keyDowns trace).drop (actionCountOf bytes - 3) =
        [(0x00, 0x29), (0x03, 0x4d), (0x00, 0x4c)] ∧
      waitedFor (waits trace) = (headerOf bytes).totalExpectedDurationUs.toNat

section Fidelity

variable {bytes : List UInt8} {trace : Trace} {final : TypingState}

theorem consistent_of_run
    (run : Monitor.Run (TypingMonitor bytes) (beforeRecord 0 []) trace final) :
    Consistent bytes final := by
  apply run.invariant (Consistent bytes) (fun _ => True)
  · exact fun _ _ _ _ holds step => step.consistent holds
  · exact fun _ _ => trivial
  · refine ⟨Nat.le_refl _, Nat.zero_le _, Nat.zero_le _, fun _ => rfl, ?_, ?_⟩
    all_goals simp [beforeRecord]

theorem keyDowns_of_run
    (run : Monitor.Run (TypingMonitor bytes) (beforeRecord 0 []) trace final) :
    keyDowns trace = keysOf bytes final.pressed :=
  (run.emits fun _ _ _ step => step.keys).symm

theorem reports_of_run
    (run : Monitor.Run (TypingMonitor bytes) (beforeRecord 0 []) trace final) :
    reports trace = reportsOf bytes final.reported :=
  (run.emits fun _ _ _ step => step.reports).symm

theorem waits_of_run
    (run : Monitor.Run (TypingMonitor bytes) (beforeRecord 0 []) trace final) :
    waits trace = final.waits :=
  (run.emits fun _ _ _ step => step.waits).symm

theorem faithful_of_run {limits : Limits}
    {hash : List UInt8 → Vector UInt8 32} {result : ExecutorError}
    (acceptable : AcceptableV1 limits hash bytes)
    (run : Monitor.Run (TypingMonitor bytes) (beforeRecord 0 []) trace final)
    (ended : EndedTyping result final) : Faithful bytes trace result := by
  have consistent := consistent_of_run run
  have keys := keyDowns_of_run run
  have reported := reports_of_run run
  have pressedCount : (keyDowns trace).length = final.pressed := by
    rw [keys, keysOf_length]
  have reportedCount : (reports trace).length = final.reported := by
    rw [reported, reportsOf_length]
  constructor
  case keys =>
    rw [keys]
    exact keysOf_prefix consistent.bound
  case reported => rw [reportedCount, reported]
  case lower =>
    rw [reportedCount, pressedCount]
    exact consistent.lower
  case upper =>
    rw [reportedCount, pressedCount]
    exact consistent.upper
  case afterRelease =>
    intro before sourceIndex completed total answer after split
    subst split
    rcases Transition.run_append_iff.mp run with ⟨here, start, rest⟩
    rcases Transition.run_cons_iff.mp rest with ⟨_, step, _⟩
    have stage : here.stage = .released ∧
        completed.toNat = here.reported + 1 := by
      generalize equal : (⟨.progress sourceIndex completed total, answer⟩ :
        Event) = event at step
      cases step with
      | progress answer stage source count total =>
          cases equal
          exact ⟨stage, count⟩
      | other answer typing unmonitored =>
          cases equal
          exact absurd unmonitored (not_unmonitored rfl nofun nofun)
      | _ => cases equal
    constructor
    · have last := start.last_label
        (fun before event after (step : TypingMonitor bytes before event after)
          (stage : after.stage = .released) => step.released stage)
        (by simp [beforeRecord]) stage.1
      rcases last with ⟨prior, event, rfl, rfl⟩
      exact ⟨prior, rfl⟩
    · rw [keyDowns_of_run start, keysOf_length, stage.2]
      exact (consistent_of_run start).held (.inr stage.1)
  case completed =>
    intro succeeded
    rw [succeeded] at ended
    have complete := consistent.completed ended
    have all : final.pressed = actionCountOf bytes := by
      have lower := consistent.lower
      have bound := consistent.bound
      rw [complete.1] at lower
      omega
    refine ⟨pressedCount.trans all, reportedCount.trans complete.1, ?_, ?_⟩
    · rw [keys, all]
      exact keysOf_cleanup acceptable
    · rw [waits_of_run run, complete.2, headerOf_totalExpectedDurationUs]
      exact acceptable.duration

end Fidelity

/-- Verification and execution together are one accepted run of the monitor. -/
theorem faithful_of_execution {σ : Type}
    {environment : Environment callbacks σ} {memory : Blob} {limits : Limits}
    {hash : List UInt8 → Vector UInt8 32}
    (acceptable : AcceptableV1 limits hash memory.data)
    {before middle after : σ} {first second : Trace}
    {verified : Except ProtocolError VerifiedSchedule} {result : ExecutorError}
    (verification : Program.Exec environment
      (typxProtocolV1Verify (memoryReader memory) limits) before first verified
      middle)
    (execution : Program.Exec environment
      (typxExecutorRun (verifiedBy (memoryReader memory) limits
        (headerOf memory.data))) middle second result after) :
    Faithful memory.data (first ++ second) result := by
  have silent : Program.Obeys (TypingMonitor memory.data)
      (typxProtocolV1Verify (memoryReader memory) limits) (beforeRecord 0 [])
      fun _ idle => idle = beforeRecord 0 [] :=
    (typxProtocolV1Verify_quiet (memoryReader memory) limits).obeys
      fun _ answer quiet => .other answer (.inl rfl) (.inr (.inr quiet))
  rcases silent.run verification with ⟨idle, start, rfl⟩
  have typed : Program.Obeys (TypingMonitor memory.data)
      (typxExecutorRun (verifiedBy (memoryReader memory) limits
        (headerOf memory.data))) (beforeRecord 0 []) EndedTyping := by
    rw [typxExecutorRun, if_neg (by simp [typxProtocolV1IsVerified, verifiedBy])]
    apply executeFrom_types acceptable _ 0 []
    · rw [verifiedBy, headerOf_actionCount, UInt32.toNat_zero, Nat.zero_add]
    · simp [waitedFor, durationBefore]
  rcases typed.run execution with ⟨final, rest, ended⟩
  exact faithful_of_run acceptable
    (Transition.run_append_iff.mpr ⟨_, start, rest⟩) ended

/-- From a blob to keystrokes: nothing reaches the runner's interface unless
the blob is acceptable, and then the run types its records. -/
theorem typxLocalScheduleVerifyAndRun_faithful {σ : Type}
    (environment : Environment callbacks σ) (absorbed : σ → List UInt8)
    (hash : List UInt8 → Vector UInt8 32)
    (hashes : Hashes environment (fun _ => False) (fun _ => True) absorbed hash)
    (blob : Blob) (limits : Limits) (before : σ) :
    Program.Ensures environment
      (typxLocalScheduleVerifyAndRun blob limits typxExecutorRun) before
      fun trace result _ =>
        (¬AcceptableV1 limits hash blob.data → result.executionStarted = false ∧
          ∀ event ∈ trace, event.call.isIo = false) ∧
        (AcceptableV1 limits hash blob.data → result.executionStarted = true ∧
          Faithful blob.data trace result.executorError) := by
  intro trace result after execution
  unfold typxLocalScheduleVerifyAndRun at execution
  by_cases empty : blob.size = 0
  · rw [if_pos (by simp [empty])] at execution
    rcases Program.exec_done_iff.mp execution with ⟨rfl, rfl, _⟩
    refine ⟨fun _ => ⟨rfl, by simp⟩, fun acceptable => ?_⟩
    have length := acceptable.length
    rw [← blob.size_eq, empty, UInt64.toNat_zero] at length
    omega
  rw [if_neg (by simpa using empty)] at execution
  rcases Program.exec_bind_iff.mp execution with
    ⟨first, verified, middle, second, start, finish, rfl⟩
  have quiet := (typxProtocolV1Verify_quiet (memoryReader blob) limits).of_mem
    start
  have outcome := typxProtocolV1Verify_ensures memoryReader_serves hashes
    before trivial first verified middle start
  have agreed := outcome.2.eq_of_not_faulted (by simp [Faulted])
  have fits : blob.data.length < 2 ^ 64 :=
    blob.size_eq ▸ blob.size.toNat_lt
  rw [agreed] at finish
  cases decided : verdict hash limits blob.data with
  | error error =>
      rw [decided] at finish
      rcases Program.exec_done_iff.mp finish with ⟨rfl, rfl, _⟩
      rw [List.append_nil]
      refine ⟨fun _ => ⟨rfl, quiet⟩, fun acceptable => ?_⟩
      have accepted := (verdict_eq_ok_iff fits).mpr ⟨acceptable, rfl⟩
      rw [decided] at accepted
      cases accepted
  | ok header =>
      rcases (verdict_eq_ok_iff fits).mp decided with ⟨acceptable, isHeader⟩
      refine ⟨fun refused => absurd acceptable refused, fun _ => ?_⟩
      rw [decided, isHeader] at finish
      rcases Program.exec_bind_iff.mp finish with
        ⟨ran, executorError, later, rest, run, returned, rfl⟩
      rcases Program.exec_done_iff.mp returned with ⟨rfl, rfl, _⟩
      rw [List.append_nil]
      exact ⟨rfl, faithful_of_execution acceptable start run⟩

def letterBlob : Blob where
  data := letterSchedule
  size := 224
  size_eq := by decide +kernel

def willing : (request : Callback) → List UInt8 →
    Callback.Answer request × List UInt8
  | .sha256Begin, _ => (true, [])
  | .sha256Update data, absorbed => (true, absorbed ++ data)
  | .sha256Finish, absorbed => (some letterDigest, absorbed)
  | .readAt _ _, absorbed => (none, absorbed)
  | .read _ _, absorbed => (none, absorbed)
  | .nowUs, absorbed => (0, absorbed)
  | .stopRequested, absorbed => (false, absorbed)
  | .progress _ _ _, absorbed => ((), absorbed)
  | .terminal _ _ _, absorbed => ((), absorbed)
  | .erase, absorbed => (true, absorbed)
  | .eraseRange _ _, absorbed => (true, absorbed)
  | .write _ _, absorbed => (true, absorbed)
  | .waitUs _, absorbed => (true, absorbed)
  | .keyDown _ _, absorbed => (true, absorbed)
  | .releaseAll, absorbed => (true, absorbed)

theorem willing_hashes :
    Hashes (Program.answering (S := callbacks) willing) (fun _ => False)
      (fun _ => True) id fun _ => letterDigest where
  begin before answer after _ step := by
    cases step
    exact ⟨trivial, .inl ⟨rfl, rfl, id⟩⟩
  update data before answer after _ step := by
    cases step
    exact ⟨trivial, .inl ⟨rfl, rfl, id⟩⟩
  finish before answer after _ step := by
    cases step
    exact ⟨trivial, .inl ⟨rfl, id⟩⟩

theorem typxLocalScheduleVerifyAndRun_letterBlob :
    ∃ trace, Faithful letterSchedule trace .ok ∧
      keyDowns trace = [(0x00, 0x04), (0x00, 0x29), (0x03, 0x4d), (0x00, 0x4c)] := by
  have returned : ((typxLocalScheduleVerifyAndRun letterBlob
      typxProtocolV1Esp32CamLimits typxExecutorRun).run willing []).2.1 =
      ⟨true, .ok, .ok⟩ := by
    decide +kernel
  have laws := typxLocalScheduleVerifyAndRun_faithful _ id
    (fun _ => letterDigest) willing_hashes letterBlob
    typxProtocolV1Esp32CamLimits [] _ _ _
    (Program.exec_run willing (typxLocalScheduleVerifyAndRun letterBlob
      typxProtocolV1Esp32CamLimits typxExecutorRun) [])
  rw [returned] at laws
  exact ⟨_, (laws.2 letterSchedule_accepted).2, by decide +kernel⟩

end Typxen.LocalSchedule
