import Typxen.Foundation.Threads

/-! # Processes that take turns

Processes rest before their first call, at the calls said to rest, and when
they are done. In a run in which one process at a time is not at rest, an
invariant that every process restores before it rests holds whenever all of
them rest, and every other call finds the state that its process left. -/

namespace Threads

open Interaction Exclusion Transition

variable {S : Signature} {Role σ α β : Type}

/-- `admits` is asked of the calls that do not rest; `resumes` is granted to
those that do. -/
structure Rules (S : Signature) (σ : Type) where
  rests : S.Call → Bool
  invariant : σ → Prop
  admits : S.Call → σ → Prop
  resumes : S.Call → σ → Prop

section Programs

variable {rules : Rules S σ} {environment : Environment S σ}

/-- From `state` the program keeps the rules, and returns as `post` says. -/
def Safe (rules : Rules S σ) (environment : Environment S σ) :
    Program S α → σ → (α → σ → Prop) → Prop
  | .done value, state, post => post value state
  | .ask request next, state, post =>
      match rules.rests request with
      | true => rules.invariant state ∧ ∀ later, rules.invariant later →
          rules.resumes request later →
          ∀ answer after, environment request later answer after →
            Safe rules environment (next answer) after post
      | false => rules.admits request state ∧
          ∀ answer after, environment request state answer after →
            Safe rules environment (next answer) after post

@[simp] theorem safe_done {value : α} {state : σ} {post : α → σ → Prop} :
    Safe rules environment (.done value) state post ↔ post value state :=
  Iff.rfl

theorem safe_ask_of_rests {request : S.Call}
    {next : S.Answer request → Program S α} {state : σ} {post : α → σ → Prop}
    (rests : rules.rests request = true) :
    Safe rules environment (.ask request next) state post ↔
      rules.invariant state ∧ ∀ later, rules.invariant later →
        rules.resumes request later →
        ∀ answer after, environment request later answer after →
          Safe rules environment (next answer) after post := by
  rw [Safe, rests]

theorem safe_ask {request : S.Call} {next : S.Answer request → Program S α}
    {state : σ} {post : α → σ → Prop} (moves : rules.rests request = false) :
    Safe rules environment (.ask request next) state post ↔
      rules.admits request state ∧
        ∀ answer after, environment request state answer after →
          Safe rules environment (next answer) after post := by
  rw [Safe, moves]

theorem Safe.mono {program : Program S α} {state : σ}
    {post weaker : α → σ → Prop} (safe : Safe rules environment program state post)
    (implies : ∀ value after, post value after → weaker value after) :
    Safe rules environment program state weaker := by
  induction program generalizing state with
  | done value => exact implies value state safe
  | ask request next induction =>
      cases rests : rules.rests request with
      | true =>
          rw [safe_ask_of_rests rests] at safe ⊢
          exact ⟨safe.1, fun later holds resumes answer after answered =>
            induction answer (safe.2 later holds resumes answer after answered)⟩
      | false =>
          rw [safe_ask rests] at safe ⊢
          exact ⟨safe.1, fun answer after answered =>
            induction answer (safe.2 answer after answered)⟩

theorem Safe.bind {program : Program S α} {continuation : α → Program S β}
    {state : σ} {middlePost : α → σ → Prop} {post : β → σ → Prop}
    (safe : Safe rules environment program state middlePost)
    (rest : ∀ value middle, middlePost value middle →
      Safe rules environment (continuation value) middle post) :
    Safe rules environment (program >>= continuation) state post := by
  induction program generalizing state with
  | done value => exact rest value state safe
  | ask request next induction =>
      rw [Program.ask_bind]
      cases rests : rules.rests request with
      | true =>
          rw [safe_ask_of_rests rests] at safe ⊢
          exact ⟨safe.1, fun later holds resumes answer after answered =>
            induction answer (safe.2 later holds resumes answer after answered)⟩
      | false =>
          rw [safe_ask rests] at safe ⊢
          exact ⟨safe.1, fun answer after answered =>
            induction answer (safe.2 answer after answered)⟩

/-- What a call of a safe program leaves, also where the call rested and
nothing happened meanwhile. -/
theorem Safe.answered {request : S.Call} {next : S.Answer request → Program S α}
    {state after : σ} {answer : S.Answer request} {post : α → σ → Prop}
    (safe : Safe rules environment (.ask request next) state post)
    (resumes : rules.rests request = true → rules.resumes request state)
    (answers : environment request state answer after) :
    Safe rules environment (next answer) after post := by
  cases rests : rules.rests request with
  | true =>
      rw [safe_ask_of_rests rests] at safe
      exact safe.2 state safe.1 (resumes rests) answer after answers
  | false =>
      rw [safe_ask rests] at safe
      exact safe.2 answer after answers

theorem Safe.ensures {program : Program S α} {state : σ}
    {post : α → σ → Prop}
    (moves : Program.OnlyCalls (fun request => rules.rests request = false)
      program)
    (safe : Safe rules environment program state post) :
    Program.Ensures environment program state fun _ => post := by
  induction program generalizing state with
  | done value => exact Program.ensures_done.mpr safe
  | ask request next induction =>
      rw [Program.ensures_ask]
      intro answer after answered
      rw [safe_ask moves.1] at safe
      exact induction answer (moves.2 answer) (safe.2 answer after answered)

end Programs

/-! ## Turns -/

variable {rules : Rules S σ} {design : Design S Role σ}

def atRest (rules : Rules S σ) : Program S α → Bool
  | .done _ => true
  | .ask request _ => rules.rests request

def Process.underWay (rules : Rules S σ) (process : Process S Role) : Bool :=
  !process.fresh && !atRest rules process.program

structure Turn (rules : Rules S σ) (design : Design S Role σ)
    (before : State S Role σ) (label : Label S Role) (after : State S Role σ) :
    Prop where
  taken : Step design before label after
  alone : ∀ slot role event, label = .call slot role event →
    ∀ other process, other ≠ slot → before.processes other = some process →
      process.underWay rules = false
  resumed : ∀ slot role event, label = .call slot role event →
    rules.rests event.call = true → rules.resumes event.call before.shared

abbrev Restores (rules : Rules S σ) (design : Design S Role σ)
    (program : Program S Unit) (state : σ) : Prop :=
  Safe rules design.environment program state fun _ => rules.invariant

def Ready (rules : Rules S σ) (design : Design S Role σ)
    (process : Process S Role) : Prop :=
  match process.fresh, process.program with
  | true, program => ∀ state, rules.invariant state →
      Restores rules design program state
  | false, .done _ => True
  | false, .ask request next => ∀ state, rules.invariant state →
      rules.resumes request state → ∀ answer after,
        design.environment request state answer after →
          Restores rules design (next answer) after

structure Cooperates (rules : Rules S σ) (design : Design S Role σ)
    (state : State S Role σ) : Prop where
  idle : (∀ slot process, state.processes slot = some process →
      process.underWay rules = false) → rules.invariant state.shared
  ready : ∀ slot process, state.processes slot = some process →
    process.underWay rules = false → Ready rules design process
  moving : ∀ slot process, state.processes slot = some process →
    process.underWay rules = true →
      Restores rules design process.program state.shared

structure Cooperative (rules : Rules S σ) (design : Design S Role σ) :
    Prop where
  begun : ∀ processes role program, design.begins processes role program →
    ∀ state, rules.invariant state → Restores rules design program state
  created : ∀ event role program,
    design.creates event = some (role, program) →
    ∀ state, rules.invariant state → Restores rules design program state

theorem Cooperates.quiet {shared : σ} (holds : rules.invariant shared) :
    Cooperates rules design (quiet shared) where
  idle := fun _ => holds
  ready := by
    intro slot process here
    cases here
  moving := by
    intro slot process here
    cases here

theorem start_underWay (role : Role) (program : Program S Unit) :
    (Process.start role program).underWay rules = false := rfl

theorem Cooperates.turn {before : State S Role σ}
    (cooperates : Cooperates rules design before) {slot : Nat}
    {process : Process S Role} {request : S.Call}
    {next : S.Answer request → Program S Unit}
    (here : before.processes slot = some process)
    (asks : process.program = .ask request next)
    (alone : ∀ other found, other ≠ slot →
      before.processes other = some found → found.underWay rules = false) :
    Restores rules design process.program before.shared ∨
      process.underWay rules = false ∧ process.fresh = false ∧
        rules.rests request = true ∧ rules.invariant before.shared := by
  cases under : process.underWay rules with
  | true => exact .inl (cooperates.moving slot process here under)
  | false =>
  have everyone : ∀ other found, before.processes other = some found →
      found.underWay rules = false := by
    intro other found there
    by_cases same : other = slot
    · rw [same, here] at there
      rw [← Option.some.inj there]
      exact under
    · exact alone other found same there
  have holds := cooperates.idle everyone
  have ready := cooperates.ready slot process here under
  cases fresh : process.fresh with
  | true =>
      unfold Ready at ready
      rw [fresh] at ready
      exact .inl (ready before.shared holds)
  | false =>
      refine .inr ⟨rfl, rfl, ?_, holds⟩
      rw [Process.underWay, fresh, asks] at under
      simpa [atRest] using under

theorem Cooperates.next {before : State S Role σ}
    (cooperates : Cooperates rules design before) {slot : Nat}
    {process : Process S Role} {request : S.Call}
    {next : S.Answer request → Program S Unit} {answer : S.Answer request}
    {shared : σ} (here : before.processes slot = some process)
    (asks : process.program = .ask request next)
    (answered : design.environment request before.shared answer shared)
    (alone : ∀ other found, other ≠ slot →
      before.processes other = some found → found.underWay rules = false)
    (resumes : rules.rests request = true →
      rules.resumes request before.shared) :
    Restores rules design (next answer) shared := by
  rcases cooperates.turn here asks alone with safe | ⟨under, fresh, rests, holds⟩
  · rw [asks] at safe
    exact Safe.answered safe resumes answered
  · have ready := cooperates.ready slot process here under
    unfold Ready at ready
    rw [fresh, asks] at ready
    exact ready before.shared holds (resumes rests) answer shared answered

theorem Restores.ready {process : Process S Role} {program : Program S Unit}
    {shared : σ} (restores : Restores rules design program shared)
    (under : (process.continue program).underWay rules = false) :
    rules.invariant shared ∧ Ready rules design (process.continue program) := by
  cases program with
  | done value => exact ⟨restores, trivial⟩
  | ask request next =>
      have rests : rules.rests request = true := by
        simpa [Process.underWay, Process.continue, atRest] using under
      have both := (safe_ask_of_rests rests).mp restores
      exact ⟨both.1, both.2⟩

theorem cooperates_put {before : State S Role σ} {slot : Nat}
    {process : Process S Role} {program : Program S Unit} {shared : σ}
    (cooperates : Cooperates rules design before)
    (alone : ∀ other found, other ≠ slot →
      before.processes other = some found → found.underWay rules = false)
    (restores : Restores rules design program shared) :
    Cooperates rules design
      ((before.withShared shared).put slot (process.continue program)) := by
  constructor
  · intro everyone
    exact (restores.ready (everyone slot _ (put_self _ _ _))).1
  · intro other found there under
    rcases put_cases there with ⟨_, same⟩ | ⟨different, earlier⟩
    · rw [same] at under ⊢
      exact (restores.ready under).2
    · exact cooperates.ready other found earlier under
  · intro other found there under
    rcases put_cases there with ⟨_, same⟩ | ⟨different, earlier⟩
    · rw [same]
      exact restores
    · rw [alone other found different earlier] at under
      cases under

theorem Cooperates.start {state : State S Role σ}
    (cooperates : Cooperates rules design state) {slot : Nat}
    (free : state.processes slot = none) {role : Role}
    {program : Program S Unit}
    (restores : ∀ state, rules.invariant state →
      Restores rules design program state) :
    Cooperates rules design (state.put slot (.start role program)) := by
  constructor
  · intro everyone
    apply cooperates.idle
    intro other found there
    apply everyone other found
    rw [put_of_ne state]
    · exact there
    · intro same
      rw [same, free] at there
      cases there
  · intro other found there under
    rcases put_cases there with ⟨_, same⟩ | ⟨_, earlier⟩
    · rw [same]
      exact restores
    · exact cooperates.ready other found earlier under
  · intro other found there under
    rcases put_cases there with ⟨_, same⟩ | ⟨_, earlier⟩
    · rw [same, start_underWay] at under
      cases under
    · exact cooperates.moving other found earlier under

theorem Turn.cooperates (cooperative : Cooperative rules design)
    {before after : State S Role σ} {label : Label S Role}
    (turn : Turn rules design before label after)
    (cooperates : Cooperates rules design before) :
    Cooperates rules design after := by
  rcases turn with ⟨taken, alone, resumed⟩
  cases taken with
  | begin free begins =>
      exact cooperates.start free (cooperative.begun _ _ _ begins)
  | call here asks answered creates =>
      have others := alone _ _ _ rfl
      exact cooperates_put cooperates others
        (cooperates.next here asks answered others (resumed _ _ _ rfl))
  | @create slot child process request next answer shared role program here
      asks answered creates apart free =>
      have others := alone _ _ _ rfl
      have called : Cooperates rules design
          ((before.withShared shared).put slot
            (process.continue (next answer))) :=
        cooperates_put cooperates others
          (cooperates.next here asks answered others (resumed _ _ _ rfl))
      apply called.start
      · rw [put_of_ne _ apart]
        exact free
      · exact cooperative.created _ _ _ creates
  | @finish slot process here ended =>
      have resting : process.underWay rules = false := by
        simp [Process.underWay, ended, atRest]
      constructor
      · intro everyone
        apply cooperates.idle
        intro other found there
        by_cases same : other = slot
        · rw [same, here] at there
          rw [← Option.some.inj there]
          exact resting
        · apply everyone other found
          rw [drop_of_ne before same]
          exact there
      · intro other found there
        exact cooperates.ready other found (drop_cases there).2
      · intro other found there
        exact cooperates.moving other found (drop_cases there).2

/-- The rule for runs. -/
theorem run_cooperates (cooperative : Cooperative rules design) {shared : σ}
    {labels : List (Label S Role)} {after : State S Role σ}
    (run : Run (Turn rules design) (quiet shared) labels after)
    (holds : rules.invariant shared) : Cooperates rules design after :=
  run.invariant (Cooperates rules design) (fun _ => True)
    (fun _ _ _ _ cooperates turn => turn.cooperates cooperative cooperates)
    (fun _ _ => trivial) (.quiet holds)

theorem Turn.admitted {before after : State S Role σ} {slot : Nat} {role : Role}
    {event : Event S}
    (turn : Turn rules design before (.call slot role event) after)
    (cooperates : Cooperates rules design before)
    (moves : rules.rests event.call = false) :
    rules.admits event.call before.shared := by
  rcases turn with ⟨taken, alone, _⟩
  have others := alone _ _ _ rfl
  have admitted : ∀ (process : Process S Role) (request : S.Call)
      (next : S.Answer request → Program S Unit),
      before.processes slot = some process →
      process.program = .ask request next → rules.rests request = false →
      rules.admits request before.shared := by
    intro process request next here asks moves
    rcases cooperates.turn here asks others with safe | ⟨_, _, rests, _⟩
    · rw [asks] at safe
      exact ((safe_ask moves).mp safe).1
    · rw [moves] at rests
      cases rests
  cases taken with
  | call here asks _ _ => exact admitted _ _ _ here asks moves
  | create here asks _ _ _ _ => exact admitted _ _ _ here asks moves

/-! ## Alone -/

theorem Alone.turn {before after : State S Role σ} {label : Label S Role}
    (alone : Alone design before label after)
    (moves : ∀ slot role event, label = .call slot role event →
      rules.rests event.call = false) :
    Turn rules design before label after where
  taken := alone.taken
  alone := by
    intro slot role event called other process different there
    rw [alone.nobody slot role event called other different] at there
    cases there
  resumed := by
    intro slot role event called resting
    rw [moves slot role event called] at resting
    cases resting

theorem Exec.turns {program : Program S Unit} {before after : σ}
    {trace : Trace S} {value : Unit}
    (execution : Program.Exec design.environment program before trace value
      after) (slot : Nat) (role : Role)
    (begins : design.begins (fun _ => none) role program)
    (plain : ∀ event ∈ trace, design.creates event = none)
    (moves : ∀ event ∈ trace, rules.rests event.call = false) :
    Run (Turn rules design) (quiet before)
      (.begin slot role :: (trace.map (.call slot role) ++ [.finish slot role]))
      (quiet after) := by
  apply (Exec.run_alone execution slot role begins plain).mono
    (fun label => ∀ slot role event, label = .call slot role event →
      rules.rests event.call = false)
  · intro before label after moving alone
    exact alone.turn moving
  · intro label member place role' event called
    rw [called] at member
    rcases List.mem_cons.mp member with impossible | member
    · cases impossible
    rcases List.mem_append.mp member with member | member
    · rcases List.mem_map.mp member with ⟨found, there, same⟩
      cases same
      exact moves event there
    · rcases List.mem_singleton.mp member with impossible
      cases impossible

end Threads
