import Typxen.Foundation.Threads

/-! # What one role owns

Programs beside each other of which one role alone changes a part of the state.
Its programs can be read as if nobody else were there, as far as this part is
concerned. Ghost state is added by an observer of the events. -/

namespace Threads

open Interaction Exclusion Transition

variable {S : Signature} {Role σ τ γ α β : Type}

/-! ## Programs of the owner -/

section Programs

variable {environment : Environment S σ} {own : σ → τ} {holds : τ → Prop}

/-- The owned part satisfies `holds` before every call, and at the end `post`,
whatever the others make of the rest. -/
def Keeps (environment : Environment S σ) (own : σ → τ) (holds : τ → Prop) :
    Program S α → τ → (α → τ → Prop) → Prop
  | .done value, part, post => post value part
  | .ask request next, part, post => holds part ∧
      ∀ before answer after, own before = part →
        environment request before answer after →
        Keeps environment own holds (next answer) (own after) post

theorem Keeps.mono {program : Program S α} {part : τ} {first second : α → τ → Prop}
    (keeps : Keeps environment own holds program part first)
    (implies : ∀ value part, first value part → second value part) :
    Keeps environment own holds program part second := by
  induction program generalizing part with
  | done value => exact implies value part keeps
  | ask request next induction =>
      refine ⟨keeps.1, ?_⟩
      intro before answer after same answered
      exact induction answer (keeps.2 before answer after same answered)

theorem Keeps.bind {program : Program S α} {continuation : α → Program S β}
    {part : τ} {post : β → τ → Prop}
    (keeps : Keeps environment own holds program part fun value middle =>
      Keeps environment own holds (continuation value) middle post) :
    Keeps environment own holds (program >>= continuation) part post := by
  induction program generalizing part with
  | done value => exact keeps
  | ask request next induction =>
      refine ⟨keeps.1, ?_⟩
      intro before answer after same answered
      exact induction answer (keeps.2 before answer after same answered)

theorem keeps_call {request : S.Call} {part : τ}
    {post : S.Answer request → τ → Prop} (now : holds part)
    (rest : ∀ before answer after, own before = part →
      environment request before answer after → post answer (own after)) :
    Keeps environment own holds (Program.call request) part post :=
  ⟨now, rest⟩

def Foreign (environment : Environment S σ) (own : σ → τ) (request : S.Call) :
    Prop :=
  ∀ before answer after, environment request before answer after →
    own after = own before

theorem Foreign.keeps {request : S.Call} {part : τ}
    {post : S.Answer request → τ → Prop} (foreign : Foreign environment own request)
    (now : holds part) (rest : ∀ answer, post answer part) :
    Keeps environment own holds (Program.call request) part post := by
  apply keeps_call now
  intro before answer after same answered
  rw [foreign before answer after answered, same]
  exact rest answer

theorem foreign_keeps {program : Program S α} {part : τ} {post : α → τ → Prop}
    (foreign : Program.OnlyCalls (Foreign environment own) program)
    (now : holds part) (rest : ∀ value, post value part) :
    Keeps environment own holds program part post := by
  induction program with
  | done value => exact rest value
  | ask request next induction =>
      refine ⟨now, ?_⟩
      intro before answer after same answered
      rw [foreign.1 before answer after answered, same]
      exact induction answer (foreign.2 answer)

end Programs

/-! ## Runs -/

section Runs

variable {design : Design S Role σ} {role : Role} {own : σ → τ}
  {holds idle : τ → Prop}

/-- One process at a time has the role, and nobody else touches what it
owns. -/
structure Owner (design : Design S Role σ) (role : Role) (own : σ → τ)
    (holds idle : τ → Prop) : Prop where
  alone : ∀ processes program, design.begins processes role program →
    ∀ slot process, processes slot = some process → process.role ≠ role
  uncreated : ∀ event program, design.creates event ≠ some (role, program)
  begun : ∀ processes program, design.begins processes role program →
    ∀ part, idle part →
      Keeps design.environment own holds program part fun _ => idle
  others : ∀ processes other program, design.begins processes other program →
    other ≠ role → Program.OnlyCalls (Foreign design.environment own) program
  created : ∀ event other program,
    design.creates event = some (other, program) →
    Program.OnlyCalls (Foreign design.environment own) program
  implies : ∀ part, idle part → holds part

structure Owned (design : Design S Role σ) (role : Role) (own : σ → τ)
    (holds idle : τ → Prop) (state : State S Role σ) : Prop where
  single : Single role state
  others : Everyone (fun other program => other ≠ role →
    Program.OnlyCalls (Foreign design.environment own) program) state
  during : ∀ slot process, state.processes slot = some process →
    process.role = role →
    Keeps design.environment own holds process.program (own state.shared)
      fun _ => idle
  idle : (∀ slot process, state.processes slot = some process →
    process.role ≠ role) → idle (own state.shared)

theorem Owned.quiet {shared : σ} (holds' : idle (own shared)) :
    Owned design role own holds idle (quiet shared) where
  single := by
    intro first second one other atFirst
    cases atFirst
  others := everyone_quiet _ shared
  during := by
    intro slot process here
    cases here
  idle := fun _ => holds'

theorem Owned.part_holds {state : State S Role σ}
    (owner : Owner design role own holds idle)
    (owned : Owned design role own holds idle state) :
    holds (own state.shared) := by
  by_cases there : ∃ slot process, state.processes slot = some process ∧
      process.role = role
  · rcases there with ⟨slot, process, here, mine⟩
    have keeps := owned.during slot process here mine
    cases program : process.program with
    | done value =>
        rw [program] at keeps
        exact owner.implies _ keeps
    | ask request next =>
        rw [program] at keeps
        exact keeps.1
  · apply owner.implies
    apply owned.idle
    intro slot process here mine
    exact there ⟨slot, process, here, mine⟩

theorem Owned.called {before : State S Role σ}
    (owned : Owned design role own holds idle before) {slot : Nat}
    {process : Process S Role} {request : S.Call}
    {next : S.Answer request → Program S Unit} {answer : S.Answer request}
    {shared : σ} (here : before.processes slot = some process)
    (asks : process.program = .ask request next)
    (answered : design.environment request before.shared answer shared) :
    (∀ other found, ((before.withShared shared).put slot
        (process.continue (next answer))).processes other = some found →
      found.role = role →
      Keeps design.environment own holds found.program (own shared)
        fun _ => idle) ∧
    ((∀ other found, ((before.withShared shared).put slot
        (process.continue (next answer))).processes other = some found →
      found.role ≠ role) → idle (own shared)) := by
  by_cases mine : process.role = role
  · have keeps := owned.during slot process here mine
    rw [asks] at keeps
    have later := keeps.2 _ _ _ rfl answered
    constructor
    · intro other found there same
      rcases put_cases there with ⟨_, equal⟩ | ⟨different, earlier⟩
      · rw [equal]
        exact later
      · exact absurd (owned.single other slot found process earlier here same
          mine) different
    · intro nobody
      have there := put_self (before.withShared shared) slot
        (process.continue (next answer))
      have stranger := nobody slot _ there
      exact absurd mine stranger
  · have foreign := owned.others slot process here mine
    rw [asks] at foreign
    have same := foreign.1 _ _ _ answered
    rw [same]
    constructor
    · intro other found there role
      rcases put_cases there with ⟨_, equal⟩ | ⟨_, earlier⟩
      · rw [equal] at role
        exact absurd role mine
      · exact owned.during other found earlier role
    · intro nobody
      apply owned.idle
      intro other found there role
      by_cases atSlot : other = slot
      · rw [atSlot, here] at there
        rw [← Option.some.inj there] at role
        exact mine role
      · apply nobody other found ?_ role
        rw [put_of_ne _ atSlot]
        exact there

theorem Step.owned (owner : Owner design role own holds idle)
    {before after : State S Role σ} {label : Label S Role}
    (step : Step design before label after)
    (owned : Owned design role own holds idle before) :
    Owned design role own holds idle after := by
  have single : Single role after :=
    step.single owner.alone owner.uncreated owned.single
  have others : Everyone (fun other program => other ≠ role →
      Program.OnlyCalls (Foreign design.environment own) program) after := by
    refine step.everyone ?_ ?_ ?_ owned.others
    · exact owner.others
    · intro event other program creates _
      exact owner.created event other program creates
    · intro other request next answer foreign apart
      exact (foreign apart).2 answer
  cases step with
  | @begin slot newcomer program free begins =>
      refine ⟨single, others, ?_, ?_⟩
      · intro other found there mine
        rcases put_cases there with ⟨_, same⟩ | ⟨_, earlier⟩
        · rw [same] at mine ⊢
          have begun : newcomer = role := mine
          rw [begun] at begins
          exact owner.begun _ _ begins _
            (owned.idle (owner.alone _ _ begins))
        · exact owned.during other found earlier mine
      · intro nobody
        apply owned.idle
        intro other found there mine
        by_cases atSlot : other = slot
        · rw [atSlot, free] at there
          cases there
        · apply nobody other found ?_ mine
          rw [put_of_ne before atSlot]
          exact there
  | call here asks answered creates =>
      have called := owned.called here asks answered
      exact ⟨single, others, called.1, called.2⟩
  | @create slot child process request next answer shared newcomer program here
      asks answered creates apart free =>
      have called := owned.called here asks answered
      have stranger : newcomer ≠ role := by
        intro same
        rw [same] at creates
        exact owner.uncreated _ _ creates
      refine ⟨single, others, ?_, ?_⟩
      · intro other found there mine
        rcases put_cases there with ⟨_, same⟩ | ⟨_, earlier⟩
        · rw [same] at mine
          exact absurd mine stranger
        · exact called.1 other found earlier mine
      · intro nobody
        apply called.2
        intro other found there mine
        by_cases atChild : other = child
        · rw [atChild, put_of_ne _ apart] at there
          exact absurd there (by simp [Pool.withShared, free])
        · apply nobody other found ?_ mine
          rw [put_of_ne _ atChild]
          exact there
  | @finish slot process here ended =>
      refine ⟨single, others, ?_, ?_⟩
      · intro other found there mine
        exact owned.during other found (drop_cases there).2 mine
      · intro nobody
        by_cases mine : process.role = role
        · have keeps := owned.during slot process here mine
          rw [ended] at keeps
          exact keeps
        · apply owned.idle
          intro other found there role
          by_cases atSlot : other = slot
          · rw [atSlot, here] at there
            rw [← Option.some.inj there] at role
            exact mine role
          · apply nobody other found ?_ role
            rw [drop_of_ne before atSlot]
            exact there

/-- The rule for runs. -/
theorem run_owned (owner : Owner design role own holds idle) {shared : σ}
    {labels : List (Label S Role)} {after : State S Role σ}
    (run : Run (Step design) (quiet shared) labels after)
    (start : idle (own shared)) : Owned design role own holds idle after :=
  run.invariant (Owned design role own holds idle) (fun _ => True)
    (fun _ _ _ _ owned step => step.owned owner owned)
    (fun _ _ => trivial) (.quiet start)

end Runs

/-! ## Ghost state -/

section Ghosts

variable {design : Design S Role σ} {observe : γ → Event S → γ}

def Design.observing (design : Design S Role σ) (observe : γ → Event S → γ) :
    Design S Role (σ × γ) where
  environment request before answer after :=
    design.environment request before.1 answer after.1 ∧
      after.2 = observe before.2 ⟨request, answer⟩
  creates := design.creates
  begins := design.begins

def observed (observe : γ → Event S → γ) (ghost : γ) : Label S Role → γ
  | .call _ _ event => observe ghost event
  | _ => ghost

def State.beside (state : State S Role σ) (ghost : γ) : State S Role (σ × γ) :=
  ⟨(state.shared, ghost), state.processes⟩

theorem Step.observing {before after : State S Role σ} {label : Label S Role}
    (step : Step design before label after) (ghost : γ) :
    Step (design.observing observe) (State.beside before ghost) label
      (State.beside after (observed observe ghost label)) := by
  cases step with
  | begin free begins => exact .begin free begins
  | call here asks answered creates =>
      exact .call here asks ⟨answered, rfl⟩ creates
  | create here asks answered creates apart free =>
      exact .create here asks ⟨answered, rfl⟩ creates apart free
  | finish here ended => exact .finish here ended

theorem run_observing {before after : State S Role σ}
    {labels : List (Label S Role)}
    (run : Run (Step design) before labels after) (ghost : γ) :
    Run (Step (design.observing observe)) (State.beside before ghost) labels
      (State.beside after (labels.foldl (observed observe) ghost)) := by
  induction run generalizing ghost with
  | nil => exact .nil _
  | cons step _ induction => exact .cons (step.observing ghost) (induction _)

end Ghosts

end Threads
