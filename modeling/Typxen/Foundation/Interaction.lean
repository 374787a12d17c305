import Mathlib.Logic.Basic

/-! # Programs that call out to an environment

A program is a tree: it either returns or makes one call and continues with
the answer. The tree fixes nothing about the answers, so the same program can
be run against any environment, deterministic or not, and its trace of calls
and answers can be inspected. -/

namespace Interaction

structure Signature where
  Call : Type
  Answer : Call → Type

structure Event (S : Signature) where
  call : S.Call
  answer : S.Answer call

abbrev Trace (S : Signature) := List (Event S)

@[reducible] def Signature.sum (S T : Signature) : Signature where
  Call := S.Call ⊕ T.Call
  Answer := Sum.elim S.Answer T.Answer

inductive Program (S : Signature) (α : Type) : Type
  | done (value : α)
  | ask (call : S.Call) (next : S.Answer call → Program S α)

/-- What an environment with internal state `σ` may answer, and the state it
is left in. -/
abbrev Environment (S : Signature) (σ : Type) :=
  (call : S.Call) → σ → S.Answer call → σ → Prop

def Environment.Total {S : Signature} {σ : Type}
    (environment : Environment S σ) : Prop :=
  ∀ request before, ∃ answer after, environment request before answer after

namespace Program

variable {S : Signature} {α β γ σ : Type}

def bind : Program S α → (α → Program S β) → Program S β
  | done value, continuation => continuation value
  | ask call next, continuation =>
      ask call fun answer => (next answer).bind continuation

instance : Monad (Program S) where
  pure := done
  bind := bind

def inject (T : Signature) : Program S α → Program (S.sum T) α
  | done value => done value
  | ask request next =>
      ask (S := S.sum T) (.inl request) fun answer => (next answer).inject T

def call (request : S.Call) : Program S (S.Answer request) :=
  ask request done

@[simp] theorem pure_eq_done (value : α) :
    (pure value : Program S α) = done value := rfl

@[simp] theorem done_bind (value : α) (continuation : α → Program S β) :
    (done value >>= continuation) = continuation value := rfl

@[simp] theorem ask_bind (request : S.Call) (next : S.Answer request → Program S α)
    (continuation : α → Program S β) :
    (ask request next >>= continuation) =
      ask request fun answer => next answer >>= continuation := rfl

@[simp] theorem call_bind (request : S.Call)
    (continuation : S.Answer request → Program S β) :
    (call request >>= continuation) = ask request continuation := rfl

theorem bind_assoc (program : Program S α) (first : α → Program S β)
    (second : β → Program S γ) :
    program >>= first >>= second =
      program >>= fun value => first value >>= second := by
  induction program with
  | done value => rfl
  | ask request next induction =>
      simp only [ask_bind, induction]

/-! ## Executions -/

/-- `Exec environment program before trace value after`: the program can
return `value` after the calls and answers of `trace`, with the environment
passing from `before` to `after`. -/
inductive Exec (environment : Environment S σ) :
    Program S α → σ → Trace S → α → σ → Prop
  | done {value : α} {state : σ} :
      Exec environment (done value) state [] value state
  | ask {request : S.Call} {next : S.Answer request → Program S α}
      {before middle after : σ} {answer : S.Answer request}
      {trace : Trace S} {value : α} :
      environment request before answer middle →
      Exec environment (next answer) middle trace value after →
      Exec environment (ask request next) before
        (⟨request, answer⟩ :: trace) value after

/-- Every execution from `before` ends as `post` says. Trees are well founded,
so a program never diverges; `exists_exec` supplies the execution. -/
def Ensures (environment : Environment S σ) (program : Program S α)
    (before : σ) (post : Trace S → α → σ → Prop) : Prop :=
  ∀ trace value after,
    Exec environment program before trace value after → post trace value after

variable {environment : Environment S σ}

theorem exec_done_iff {value result : α} {before after : σ} {trace : Trace S} :
    Exec environment (done value) before trace result after ↔
      trace = [] ∧ result = value ∧ after = before := by
  constructor
  · intro execution
    cases execution
    exact ⟨rfl, rfl, rfl⟩
  · rintro ⟨rfl, rfl, rfl⟩
    exact .done

theorem exec_ask_iff {request : S.Call} {next : S.Answer request → Program S α}
    {result : α} {before after : σ} {trace : Trace S} :
    Exec environment (ask request next) before trace result after ↔
      ∃ answer middle rest, environment request before answer middle ∧
        Exec environment (next answer) middle rest result after ∧
        trace = ⟨request, answer⟩ :: rest := by
  constructor
  · intro execution
    cases execution with
    | ask step rest => exact ⟨_, _, _, step, rest, rfl⟩
  · rintro ⟨answer, middle, rest, step, execution, rfl⟩
    exact .ask step execution

theorem Exec.bind {program : Program S α} {continuation : α → Program S β}
    {before middle after : σ} {first second : Trace S} {value : α} {result : β}
    (start : Exec environment program before first value middle)
    (rest : Exec environment (continuation value) middle second result after) :
    Exec environment (program >>= continuation) before (first ++ second)
      result after := by
  induction start with
  | done => exact rest
  | ask step _ induction => exact .ask step (induction rest)

theorem exec_bind_iff {program : Program S α} {continuation : α → Program S β}
    {result : β} {before after : σ} {trace : Trace S} :
    Exec environment (program >>= continuation) before trace result after ↔
      ∃ first value middle second,
        Exec environment program before first value middle ∧
        Exec environment (continuation value) middle second result after ∧
        trace = first ++ second := by
  constructor
  · intro execution
    induction program generalizing before trace with
    | done value => exact ⟨[], value, before, trace, .done, execution, rfl⟩
    | ask request next induction =>
        rw [ask_bind] at execution
        rcases exec_ask_iff.mp execution with
          ⟨answer, middle, rest, step, continued, rfl⟩
        rcases induction answer continued with
          ⟨first, value, later, second, start, finish, rfl⟩
        exact ⟨_, value, later, second, .ask step start, finish, rfl⟩
  · rintro ⟨first, value, middle, second, start, finish, rfl⟩
    exact start.bind finish

/-! ## Weakest preconditions

`Ensures` computes through the constructors and through `bind`, so a program
without loops is verified by rewriting with the lemmas below. -/

@[simp] theorem ensures_done {value : α} {before : σ}
    {post : Trace S → α → σ → Prop} :
    Ensures environment (done value) before post ↔ post [] value before := by
  constructor
  · intro ensures
    exact ensures _ _ _ .done
  · intro holds trace result after execution
    rcases exec_done_iff.mp execution with ⟨rfl, rfl, rfl⟩
    exact holds

@[simp] theorem ensures_ask {request : S.Call}
    {next : S.Answer request → Program S α} {before : σ}
    {post : Trace S → α → σ → Prop} :
    Ensures environment (ask request next) before post ↔
      ∀ answer middle, environment request before answer middle →
        Ensures environment (next answer) middle fun trace =>
          post (⟨request, answer⟩ :: trace) := by
  constructor
  · intro ensures answer middle step trace value after execution
    exact ensures _ _ _ (.ask step execution)
  · intro ensures trace value after execution
    rcases exec_ask_iff.mp execution with
      ⟨answer, middle, rest, step, continued, rfl⟩
    exact ensures answer middle step rest value after continued

theorem ensures_call {request : S.Call} {before : σ}
    {post : Trace S → S.Answer request → σ → Prop} :
    Ensures environment (call request) before post ↔
      ∀ answer after, environment request before answer after →
        post [⟨request, answer⟩] answer after := by
  simp [call]

theorem ensures_bind {program : Program S α} {continuation : α → Program S β}
    {before : σ} {post : Trace S → β → σ → Prop} :
    Ensures environment (program >>= continuation) before post ↔
      Ensures environment program before fun first value middle =>
        Ensures environment (continuation value) middle fun second =>
          post (first ++ second) := by
  constructor
  · intro ensures first value middle start second result after finish
    exact ensures _ _ _ (start.bind finish)
  · intro ensures trace result after execution
    rcases exec_bind_iff.mp execution with
      ⟨first, value, middle, second, start, finish, rfl⟩
    exact ensures _ _ _ start _ _ _ finish

theorem Ensures.mono {program : Program S α} {before : σ}
    {weaker stronger : Trace S → α → σ → Prop}
    (ensures : Ensures environment program before stronger)
    (implies : ∀ trace value after,
      stronger trace value after → weaker trace value after) :
    Ensures environment program before weaker :=
  fun trace value after execution =>
    implies trace value after (ensures trace value after execution)

theorem ensures_true {program : Program S α} {before : σ} :
    Ensures environment program before fun _ _ _ => True :=
  fun _ _ _ _ => trivial

theorem Ensures.and {program : Program S α} {before : σ}
    {left right : Trace S → α → σ → Prop}
    (leftEnsures : Ensures environment program before left)
    (rightEnsures : Ensures environment program before right) :
    Ensures environment program before fun trace value after =>
      left trace value after ∧ right trace value after :=
  fun trace value after execution =>
    ⟨leftEnsures trace value after execution,
      rightEnsures trace value after execution⟩

/-- The rule for sequencing: a specification of the first part carries the
second. -/
theorem Ensures.bind {program : Program S α} {continuation : α → Program S β}
    {before : σ} {middlePost : Trace S → α → σ → Prop}
    {post : Trace S → β → σ → Prop}
    (start : Ensures environment program before middlePost)
    (rest : ∀ first value middle, middlePost first value middle →
      Ensures environment (continuation value) middle fun second =>
        post (first ++ second)) :
    Ensures environment (program >>= continuation) before post :=
  ensures_bind.mpr (start.mono rest)

/-! ## Existence of executions -/

theorem exists_exec (total : environment.Total)
    (program : Program S α) (before : σ) :
    ∃ trace value after, Exec environment program before trace value after := by
  induction program generalizing before with
  | done value => exact ⟨[], value, before, .done⟩
  | ask request next induction =>
      rcases total request before with ⟨answer, middle, step⟩
      rcases induction answer middle with ⟨trace, value, after, rest⟩
      exact ⟨_, value, after, .ask step rest⟩

/-- A larger environment has every execution of a smaller one. -/
theorem Exec.weaken {other : Environment S σ}
    (implies : ∀ request before answer after,
      environment request before answer after →
      other request before answer after)
    {program : Program S α} {before after : σ} {trace : Trace S} {value : α}
    (execution : Exec environment program before trace value after) :
    Exec other program before trace value after := by
  induction execution with
  | done => exact .done
  | ask step _ induction => exact .ask (implies _ _ _ _ step) induction

theorem Exec.forall_events (property : Event S → Prop)
    (holds : ∀ request before answer after,
      environment request before answer after → property ⟨request, answer⟩)
    {program : Program S α} {before after : σ} {trace : Trace S} {value : α}
    (execution : Exec environment program before trace value after) :
    ∀ event ∈ trace, property event := by
  induction execution with
  | done =>
      intro event member
      cases member
  | ask step _ induction =>
      intro event member
      rcases List.mem_cons.mp member with equal | later
      · exact equal ▸ holds _ _ _ _ step
      · exact induction event later

/-! ## Deterministic environments -/

def answering (handler : (request : S.Call) → σ → S.Answer request × σ) :
    Environment S σ :=
  fun request before answer after => handler request before = (answer, after)

def run (handler : (request : S.Call) → σ → S.Answer request × σ) :
    Program S α → σ → Trace S × α × σ
  | done value, state => ([], value, state)
  | ask request next, state =>
      let (answer, middle) := handler request state
      let (trace, value, after) := (next answer).run handler middle
      (⟨request, answer⟩ :: trace, value, after)

theorem exec_run (handler : (request : S.Call) → σ → S.Answer request × σ)
    (program : Program S α) (before : σ) :
    Exec (answering handler) program before (program.run handler before).1
      (program.run handler before).2.1 (program.run handler before).2.2 := by
  induction program generalizing before with
  | done value => exact .done
  | ask request next induction => exact .ask rfl (induction _ _)

end Program

end Interaction
