import Typxen.Foundation.Interaction
import Typxen.Foundation.Transition

/-! # Monitors of traces

A monitor is a set of rules for reading a trace event by event; it refuses an
event that no rule allows. A safety property of traces is a monitor that
accepts them, and a program obeys it when no answer can drive the program to a
refused event. -/

namespace Interaction

/-- The rules of a monitor: from which state an event is allowed, and the
state it leads to. -/
abbrev Monitor (S : Signature) (State : Type) :=
  State → Event S → State → Prop

abbrev Monitor.Run {S : Signature} {State : Type} (monitor : Monitor S State) :
    State → Trace S → State → Prop :=
  Transition.Run monitor

def Environment.step {S : Signature} {σ : Type} (environment : Environment S σ) :
    σ → Event S → σ → Prop :=
  fun before event after => environment event.call before event.answer after

/-! ## Programs under a monitor -/

namespace Program

variable {S : Signature} {State : Type} {α β : Type} {monitor : Monitor S State}

/-- Whatever the answers, the monitor accepts every event of the program, and
`post` holds of the result and the state it is left in. -/
def Obeys (monitor : Monitor S State) :
    Program S α → State → (α → State → Prop) → Prop
  | done value, state, post => post value state
  | ask request next, state, post =>
      ∀ answer, ∃ middle, monitor state ⟨request, answer⟩ middle ∧
        Obeys monitor (next answer) middle post

@[simp] theorem obeys_done {value : α} {state : State}
    {post : α → State → Prop} :
    Obeys monitor (done value) state post ↔ post value state := Iff.rfl

@[simp] theorem obeys_ask {request : S.Call} {next : S.Answer request → Program S α}
    {state : State} {post : α → State → Prop} :
    Obeys monitor (ask request next) state post ↔
      ∀ answer, ∃ middle, monitor state ⟨request, answer⟩ middle ∧
        Obeys monitor (next answer) middle post := Iff.rfl

theorem Obeys.bind {program : Program S α} {continuation : α → Program S β}
    {state : State} {middlePost : α → State → Prop} {post : β → State → Prop}
    (start : Obeys monitor program state middlePost)
    (rest : ∀ value middle, middlePost value middle →
      Obeys monitor (continuation value) middle post) :
    Obeys monitor (program >>= continuation) state post := by
  induction program generalizing state with
  | done value => exact rest value state start
  | ask request next induction =>
      intro answer
      rcases start answer with ⟨middle, step, later⟩
      exact ⟨middle, step, induction answer later⟩

theorem Obeys.mono {program : Program S α} {state : State}
    {post weaker : α → State → Prop} (obeys : Obeys monitor program state post)
    (implies : ∀ value final, post value final → weaker value final) :
    Obeys monitor program state weaker := by
  induction program generalizing state with
  | done value => exact implies value state obeys
  | ask request next induction =>
      intro answer
      rcases obeys answer with ⟨middle, step, later⟩
      exact ⟨middle, step, induction answer later⟩

/-- Obedience in terms of executions: every trace is accepted. -/
theorem Obeys.run {σ : Type} {environment : Environment S σ}
    {program : Program S α} {state : State} {post : α → State → Prop}
    (obeys : Obeys monitor program state post)
    {before after : σ} {trace : Trace S} {value : α}
    (execution : Exec environment program before trace value after) :
    ∃ final, Monitor.Run monitor state trace final ∧ post value final := by
  induction execution generalizing state with
  | done => exact ⟨state, .nil state, obeys⟩
  | ask _ _ induction =>
      rcases obeys _ with ⟨middle, step, later⟩
      rcases induction later with ⟨final, run, holds⟩
      exact ⟨final, .cons step run, holds⟩

theorem Exec.steps {σ : Type} {environment : Environment S σ}
    {program : Program S α} {before after : σ} {trace : Trace S} {value : α}
    (execution : Exec environment program before trace value after) :
    Transition.Run environment.step before trace after := by
  induction execution with
  | done => exact .nil _
  | ask step _ induction => exact .cons step induction

theorem Obeys.inject {T : Signature} {Wider : Type}
    {wider : Monitor (S.sum T) Wider} (embed : State → Wider)
    (follows : ∀ before event after, monitor before event after →
      wider (embed before) ⟨.inl event.call, event.answer⟩ (embed after))
    {program : Program S α} {state : State} {post : α → State → Prop}
    (obeys : Obeys monitor program state post) :
    Obeys wider (program.inject T) (embed state) fun value final =>
      ∃ inner, final = embed inner ∧ post value inner := by
  induction program generalizing state with
  | done value => exact ⟨state, rfl, obeys⟩
  | ask request next induction =>
      intro answer
      rcases obeys answer with ⟨middle, step, later⟩
      exact ⟨embed middle, follows _ _ _ step, induction answer later⟩

def OnlyCalls (allowed : S.Call → Prop) : Program S α → Prop
  | done _ => True
  | ask request next =>
      allowed request ∧ ∀ answer, OnlyCalls allowed (next answer)

variable {allowed : S.Call → Prop}

@[simp] theorem onlyCalls_done (value : α) :
    OnlyCalls allowed (done value : Program S α) := trivial

@[simp] theorem onlyCalls_ask {request : S.Call}
    {next : S.Answer request → Program S α} :
    OnlyCalls allowed (ask request next) ↔
      allowed request ∧ ∀ answer, OnlyCalls allowed (next answer) := Iff.rfl

theorem OnlyCalls.bind {program : Program S α} {continuation : α → Program S β}
    (start : OnlyCalls allowed program)
    (rest : ∀ value, OnlyCalls allowed (continuation value)) :
    OnlyCalls allowed (program >>= continuation) := by
  induction program with
  | done value => exact rest value
  | ask request next induction =>
      exact ⟨start.1, fun answer => induction answer (start.2 answer)⟩

theorem OnlyCalls.mono {wider : S.Call → Prop} {program : Program S α}
    (only : OnlyCalls allowed program)
    (implies : ∀ request, allowed request → wider request) :
    OnlyCalls wider program := by
  induction program with
  | done value => exact trivial
  | ask request next induction =>
      exact ⟨implies request only.1,
        fun answer => induction answer (only.2 answer)⟩

theorem OnlyCalls.of_mem {σ : Type} {environment : Environment S σ}
    {program : Program S α} (only : OnlyCalls allowed program)
    {before after : σ} {trace : Trace S} {value : α}
    (execution : Exec environment program before trace value after) :
    ∀ event ∈ trace, allowed event.call := by
  induction execution with
  | done =>
      intro event member
      cases member
  | ask _ _ induction =>
      intro event member
      rcases List.mem_cons.mp member with rfl | later
      · exact only.1
      · exact induction (only.2 _) event later

theorem OnlyCalls.obeys {program : Program S α} {state : State}
    (only : OnlyCalls allowed program)
    (ignores : ∀ request answer, allowed request →
      monitor state ⟨request, answer⟩ state) :
    Obeys monitor program state fun _ final => final = state := by
  induction program with
  | done value => rfl
  | ask request next induction =>
      exact fun answer =>
        ⟨state, ignores request answer only.1, induction answer (only.2 answer)⟩

end Program

end Interaction
