import Typxen.Foundation.Exclusion

/-! # Programs beside each other

Processes that run programs over one shared state, one call at a time, and two
rules for their runs. By the first a flag that every process lowers again never
stays set after them. By the second an invariant that every process restores
before it rests holds whenever all of them rest, provided that one process is
under way at a time. -/

namespace Threads

open Interaction Exclusion Transition

variable {S : Signature} {Role σ α β : Type}

/-- `fresh` until its first call. -/
structure Process (S : Signature) (Role : Type) where
  role : Role
  fresh : Bool
  program : Program S Unit

def Process.start (role : Role) (program : Program S Unit) : Process S Role :=
  ⟨role, true, program⟩

def Process.continue (process : Process S Role) (program : Program S Unit) :
    Process S Role :=
  ⟨process.role, false, program⟩

/-- `creates` gives the process that an event creates; `begins` says which one
may begin beside the others of its own accord. -/
structure Design (S : Signature) (Role σ : Type) where
  environment : Environment S σ
  creates : Event S → Option (Role × Program S Unit)
  begins : (Nat → Option (Process S Role)) → Role → Program S Unit → Prop

inductive Label (S : Signature) (Role : Type)
  | begin (slot : Nat) (role : Role)
  | call (slot : Nat) (role : Role) (event : Event S)
  | finish (slot : Nat) (role : Role)

abbrev State (S : Signature) (Role σ : Type) := Pool σ (Process S Role)

inductive Step (design : Design S Role σ) :
    State S Role σ → Label S Role → State S Role σ → Prop
  | begin {before : State S Role σ} {slot : Nat} {role : Role}
      {program : Program S Unit} :
      before.processes slot = none →
      design.begins before.processes role program →
      Step design before (.begin slot role)
        (before.put slot (.start role program))
  | call {before : State S Role σ} {slot : Nat} {process : Process S Role}
      {request : S.Call} {next : S.Answer request → Program S Unit}
      {answer : S.Answer request} {shared : σ} :
      before.processes slot = some process →
      process.program = .ask request next →
      design.environment request before.shared answer shared →
      design.creates ⟨request, answer⟩ = none →
      Step design before (.call slot process.role ⟨request, answer⟩)
        ((before.withShared shared).put slot (process.continue (next answer)))
  | create {before : State S Role σ} {slot child : Nat}
      {process : Process S Role} {request : S.Call}
      {next : S.Answer request → Program S Unit} {answer : S.Answer request}
      {shared : σ} {role : Role} {program : Program S Unit} :
      before.processes slot = some process →
      process.program = .ask request next →
      design.environment request before.shared answer shared →
      design.creates ⟨request, answer⟩ = some (role, program) →
      child ≠ slot → before.processes child = none →
      Step design before (.call slot process.role ⟨request, answer⟩)
        (((before.withShared shared).put slot
          (process.continue (next answer))).put child (.start role program))
  | finish {before : State S Role σ} {slot : Nat} {process : Process S Role} :
      before.processes slot = some process → process.program = .done () →
      Step design before (.finish slot process.role) (before.drop slot)

def quiet (shared : σ) : State S Role σ := ⟨shared, fun _ => none⟩

/-! ## What every process has -/

section Everyone

variable {design : Design S Role σ}

def Everyone (property : Role → Program S Unit → Prop)
    (state : State S Role σ) : Prop :=
  ∀ slot process, state.processes slot = some process →
    property process.role process.program

theorem everyone_quiet (property : Role → Program S Unit → Prop) (shared : σ) :
    Everyone property (quiet shared) := by
  intro slot process here
  cases here

theorem Everyone.put {property : Role → Program S Unit → Prop}
    {state : State S Role σ} (everyone : Everyone property state) {slot : Nat}
    {process : Process S Role}
    (holds : property process.role process.program) :
    Everyone property (state.put slot process) := by
  intro other found here
  rcases put_cases here with ⟨_, same⟩ | ⟨_, earlier⟩
  · rw [same]
    exact holds
  · exact everyone other found earlier

theorem Step.everyone {property : Role → Program S Unit → Prop}
    (begun : ∀ processes role program,
      design.begins processes role program → property role program)
    (created : ∀ event role program,
      design.creates event = some (role, program) → property role program)
    (continued : ∀ role request next answer,
      property role (.ask request next) → property role (next answer))
    {before after : State S Role σ} {label : Label S Role}
    (step : Step design before label after)
    (everyone : Everyone property before) : Everyone property after := by
  cases step with
  | begin _ begins => exact everyone.put (begun _ _ _ begins)
  | @call slot process request next answer shared here asks _ _ =>
      have mine := everyone slot process here
      rw [asks] at mine
      have called : Everyone property (before.withShared shared) := everyone
      exact called.put (continued _ _ _ _ mine)
  | @create slot child process request next answer shared role program here
      asks _ creates _ _ =>
      have mine := everyone slot process here
      rw [asks] at mine
      have called : Everyone property (before.withShared shared) := everyone
      have others : Everyone property ((before.withShared shared).put slot
          (process.continue (next answer))) :=
        called.put (continued _ _ _ _ mine)
      exact others.put (created _ _ _ creates)
  | finish here _ =>
      intro other found still
      exact everyone other found (drop_cases still).2

end Everyone

/-! ## Roles that one process has -/

def Single (role : Role) (state : State S Role σ) : Prop :=
  ∀ first second one other, state.processes first = some one →
    state.processes second = some other → one.role = role →
    other.role = role → first = second

theorem Step.single {design : Design S Role σ} {role : Role}
    (begun : ∀ processes program, design.begins processes role program →
      ∀ slot process, processes slot = some process → process.role ≠ role)
    (created : ∀ event program, design.creates event ≠ some (role, program))
    {before after : State S Role σ} {label : Label S Role}
    (step : Step design before label after) (single : Single role before) :
    Single role after := by
  -- A process of this role was there before, or it is the only one.
  have kept : ∀ {state : State S Role σ}, Single role state →
      ∀ (shared : σ) {slot : Nat} {process : Process S Role}
        (program : Program S Unit), state.processes slot = some process →
      Single role ((state.withShared shared).put slot
        (process.continue program)) := by
    intro state single shared slot process program here first second one other
      atFirst atSecond mine also
    have earlier : ∀ {place found},
        ((state.withShared shared).put slot
          (process.continue program)).processes place = some found →
        ∃ same, state.processes place = some same ∧ same.role = found.role := by
      intro place found there
      rcases put_cases there with ⟨atSlot, equal⟩ | ⟨_, before⟩
      · rw [atSlot, equal]
        exact ⟨process, here, rfl⟩
      · exact ⟨found, before, rfl⟩
    rcases earlier atFirst with ⟨one', before, same⟩
    rcases earlier atSecond with ⟨other', too, alike⟩
    exact single first second one' other' before too (same.trans mine)
      (alike.trans also)
  have joined : ∀ {state : State S Role σ}, Single role state →
      ∀ {slot : Nat} {newcomer : Role} {program : Program S Unit},
      (newcomer = role → ∀ place found, state.processes place = some found →
        found.role ≠ role) →
      Single role (state.put slot (.start newcomer program)) := by
    intro state single slot newcomer program nobody first second one other
      atFirst atSecond mine also
    rcases put_cases atFirst with ⟨firstHere, equal⟩ | ⟨_, before⟩
    · rcases put_cases atSecond with ⟨secondHere, _⟩ | ⟨_, earlier⟩
      · exact firstHere.trans secondHere.symm
      · rw [equal] at mine
        exact absurd also (nobody mine second other earlier)
    · rcases put_cases atSecond with ⟨_, equal⟩ | ⟨_, earlier⟩
      · rw [equal] at also
        exact absurd mine (nobody also first one before)
      · exact single first second one other before earlier mine also
  cases step with
  | begin free begins =>
      apply joined single
      intro same
      rw [same] at begins
      exact begun _ _ begins
  | call here asks answered creates => exact kept single _ _ here
  | create here asks answered creates apart free =>
      apply joined (kept single _ _ here)
      intro same
      rw [same] at creates
      exact absurd creates (created _ _)
  | finish here ended =>
      intro first second one other atFirst atSecond
      exact single first second one other (drop_cases atFirst).2
        (drop_cases atSecond).2

/-! ## Flags that are lowered again -/

/-- The events that raise a flag, lower it, or create a process that is to
lower it. -/
structure Duty (S : Signature) where
  raises : Event S → Bool
  lowers : Event S → Bool
  hands : Event S → Bool

section Duties

variable {duty : Duty S} {design : Design S Role σ} {flag : σ → Bool}

/-- Whatever the answers, the program lowers the flag or hands the duty on
before it ends. -/
def Owes (duty : Duty S) : Program S α → Prop
  | .done _ => False
  | .ask request next => ∀ answer,
      duty.lowers ⟨request, answer⟩ = true ∨
        duty.hands ⟨request, answer⟩ = true ∨ Owes duty (next answer)

/-- The program owes whatever it raises. -/
def Tidy (duty : Duty S) : Program S α → Prop
  | .done _ => True
  | .ask request next => ∀ answer,
      (duty.raises ⟨request, answer⟩ = true → Owes duty (next answer)) ∧
        Tidy duty (next answer)

theorem Owes.bind {program : Program S α} (owes : Owes duty program)
    (continuation : α → Program S β) : Owes duty (program >>= continuation) := by
  induction program with
  | done value => exact owes.elim
  | ask request next induction =>
      intro answer
      rcases owes answer with lowered | handed | later
      · exact .inl lowered
      · exact .inr (.inl handed)
      · exact .inr (.inr (induction answer later))

theorem owes_bind {continuation : α → Program S β} (program : Program S α)
    (owes : ∀ value, Owes duty (continuation value)) :
    Owes duty (program >>= continuation) := by
  induction program with
  | done value => exact owes value
  | ask request next induction =>
      exact fun answer => .inr (.inr (induction answer))

theorem Tidy.bind {program : Program S α} {continuation : α → Program S β}
    (tidy : Tidy duty program) (rest : ∀ value, Tidy duty (continuation value)) :
    Tidy duty (program >>= continuation) := by
  induction program with
  | done value => exact rest value
  | ask request next induction =>
      intro answer
      have both := tidy answer
      exact ⟨fun raised => (both.1 raised).bind continuation,
        induction answer both.2⟩

theorem tidy_call {request : S.Call}
    (silent : ∀ answer, duty.raises ⟨request, answer⟩ = false) :
    Tidy duty (Program.call request) := by
  intro answer
  constructor
  · intro raised
    rw [silent answer] at raised
    cases raised
  · exact trivial

structure Lawful (design : Design S Role σ) (duty : Duty S) (flag : σ → Bool) :
    Prop where
  raised : ∀ request before answer after,
    design.environment request before answer after → flag after = true →
    flag before = true ∨ duty.raises ⟨request, answer⟩ = true
  lowered : ∀ request before answer after,
    design.environment request before answer after →
    duty.lowers ⟨request, answer⟩ = true → flag after = false
  handed : ∀ event, duty.hands event = true → ∃ role program,
    design.creates event = some (role, program) ∧ Owes duty program
  created : ∀ event role program,
    design.creates event = some (role, program) → Tidy duty program
  begun : ∀ processes role program,
    design.begins processes role program → Tidy duty program

structure Dutiful (duty : Duty S) (flag : σ → Bool)
    (state : State S Role σ) : Prop where
  tidy : Everyone (fun _ program => Tidy duty program) state
  owed : flag state.shared = true → ∃ slot process,
    state.processes slot = some process ∧ Owes duty process.program

theorem Dutiful.quiet {shared : σ} (clear : flag shared = false) :
    Dutiful duty flag (quiet shared : State S Role σ) := by
  constructor
  · exact everyone_quiet _ shared
  · intro set
    change flag shared = true at set
    rw [clear] at set
    cases set

theorem owed_after (lawful : Lawful design duty flag)
    {before : State S Role σ} (dutiful : Dutiful duty flag before)
    {slot : Nat} {process : Process S Role} {request : S.Call}
    {next : S.Answer request → Program S Unit} {answer : S.Answer request}
    {shared : σ} (here : before.processes slot = some process)
    (asks : process.program = .ask request next)
    (answered : design.environment request before.shared answer shared)
    (set : flag shared = true) :
    (∃ other found, other ≠ slot ∧ before.processes other = some found ∧
        Owes duty found.program) ∨
      duty.hands ⟨request, answer⟩ = true ∨ Owes duty (next answer) := by
  have mine := dutiful.tidy slot process here
  rw [asks] at mine
  rcases lawful.raised _ _ _ _ answered set with already | raised
  · rcases dutiful.owed already with ⟨other, found, there, owes⟩
    by_cases same : other = slot
    · rw [same, here] at there
      rw [← Option.some.inj there, asks] at owes
      rcases owes answer with lowered | handed | later
      · rw [lawful.lowered _ _ _ _ answered lowered] at set
        cases set
      · exact .inr (.inl handed)
      · exact .inr (.inr later)
    · exact .inl ⟨other, found, same, there, owes⟩
  · exact .inr (.inr ((mine answer).1 raised))

theorem Step.dutiful (lawful : Lawful design duty flag)
    {before after : State S Role σ} {label : Label S Role}
    (step : Step design before label after)
    (dutiful : Dutiful duty flag before) : Dutiful duty flag after := by
  constructor
  · exact step.everyone (fun processes role program => lawful.begun _ _ _)
      (fun event role program => lawful.created _ _ _)
      (fun role request next answer tidy => (tidy answer).2) dutiful.tidy
  intro set
  cases step with
  | @begin slot role program free begins =>
      rcases dutiful.owed set with ⟨other, found, there, owes⟩
      refine ⟨other, found, ?_, owes⟩
      rw [put_of_ne before]
      · exact there
      · intro same
        rw [same, free] at there
        cases there
  | @call slot process request next answer shared here asks answered creates =>
      rcases owed_after lawful dutiful here asks answered set with
        ⟨other, found, different, there, owes⟩ | handed | owes
      · refine ⟨other, found, ?_, owes⟩
        rw [put_of_ne _ different]
        exact there
      · rcases lawful.handed _ handed with ⟨role, program, created, _⟩
        rw [creates] at created
        cases created
      · exact ⟨slot, _, put_self _ _ _, owes⟩
  | @create slot child process request next answer shared role program here
      asks answered creates apart free =>
      rcases owed_after lawful dutiful here asks answered set with
        ⟨other, found, different, there, owes⟩ | handed | owes
      · refine ⟨other, found, ?_, owes⟩
        have elsewhere : other ≠ child := by
          intro same
          rw [same, free] at there
          cases there
        rw [put_of_ne _ elsewhere, put_of_ne _ different]
        exact there
      · rcases lawful.handed _ handed with ⟨role', program', created, owes⟩
        rw [creates] at created
        cases created
        exact ⟨child, _, put_self _ _ _, owes⟩
      · refine ⟨slot, process.continue (next answer), ?_, owes⟩
        rw [put_of_ne _ (Ne.symm apart), put_self]
  | @finish slot process here ended =>
      rcases dutiful.owed set with ⟨other, found, there, owes⟩
      refine ⟨other, found, ?_, owes⟩
      rw [drop_of_ne before]
      · exact there
      · intro same
        rw [same, here] at there
        rw [← Option.some.inj there, ended] at owes
        exact owes

/-- The rule for runs: in every state of a run that starts with nobody there,
someone is to lower the flag as long as it is set. -/
theorem run_dutiful (lawful : Lawful design duty flag) {shared : σ}
    {labels : List (Label S Role)} {after : State S Role σ}
    (run : Run (Step design) (quiet shared) labels after)
    (clear : flag shared = false) : Dutiful duty flag after :=
  run.invariant (Dutiful duty flag) (fun _ => True)
    (fun _ _ _ _ dutiful step => step.dutiful lawful dutiful)
    (fun _ _ => trivial) (.quiet clear)

end Duties

/-! ## Alone -/

structure Alone (design : Design S Role σ) (before : State S Role σ)
    (label : Label S Role) (after : State S Role σ) : Prop where
  taken : Step design before label after
  nobody : ∀ slot role event, label = .call slot role event →
    ∀ other, other ≠ slot → before.processes other = none

section Solo

variable {design : Design S Role σ}

def only (shared : σ) (slot : Nat) (process : Process S Role) :
    State S Role σ :=
  (quiet shared).put slot process

theorem only_call {shared after : σ} {slot : Nat} {role : Role} {fresh : Bool}
    {request : S.Call} {next : S.Answer request → Program S Unit}
    {answer : S.Answer request}
    (answered : design.environment request shared answer after)
    (creates : design.creates ⟨request, answer⟩ = none) :
    Alone design (only shared slot ⟨role, fresh, .ask request next⟩)
      (.call slot role ⟨request, answer⟩)
      (only after slot ⟨role, false, next answer⟩) := by
  have same : ((only shared slot ⟨role, fresh, .ask request next⟩).withShared
      after).put slot ⟨role, false, next answer⟩ =
        only after slot ⟨role, false, next answer⟩ := by
    simp [only, Pool.put, Pool.withShared, quiet, Function.update_idem]
  constructor
  · rw [← same]
    exact .call (put_self (quiet shared) slot
      (⟨role, fresh, .ask request next⟩ : Process S Role)) rfl answered creates
  · intro place role event label other different
    cases label
    exact put_of_ne (quiet shared) different _

theorem only_finish {shared : σ} {slot : Nat} {role : Role} {fresh : Bool} :
    Alone design (only shared slot ⟨role, fresh, .done ()⟩)
      (.finish slot role) (quiet shared) := by
  have same : (only shared slot
      (⟨role, fresh, .done ()⟩ : Process S Role)).drop slot = quiet shared := by
    simp [only, Pool.put, Pool.drop, quiet, Function.update_idem]
  constructor
  · rw [← same]
    exact .finish (put_self (quiet shared) slot
      (⟨role, fresh, .done ()⟩ : Process S Role)) rfl
  · intro place role event label
    cases label

theorem only_begin {shared : σ} {slot : Nat} {role : Role}
    {program : Program S Unit}
    (begins : design.begins (fun _ => none) role program) :
    Alone design (quiet shared) (.begin slot role)
      (only shared slot ⟨role, true, program⟩) := by
  constructor
  · exact .begin rfl begins
  · intro place role event label
    cases label

theorem Exec.alone {program : Program S Unit} {before after : σ}
    {trace : Trace S} {value : Unit}
    (execution : Program.Exec design.environment program before trace value
      after) (slot : Nat) (role : Role) (fresh : Bool)
    (plain : ∀ event ∈ trace, design.creates event = none) :
    Run (Alone design) (only before slot ⟨role, fresh, program⟩)
      (trace.map (.call slot role) ++ [.finish slot role]) (quiet after) := by
  induction execution generalizing fresh with
  | done => exact .cons only_finish (.nil _)
  | ask answered rest induction =>
      exact .cons (only_call answered (plain _ (.head _)))
        (induction false fun event member => plain event (.tail _ member))

theorem Exec.run_alone {program : Program S Unit} {before after : σ}
    {trace : Trace S} {value : Unit}
    (execution : Program.Exec design.environment program before trace value
      after) (slot : Nat) (role : Role)
    (begins : design.begins (fun _ => none) role program)
    (plain : ∀ event ∈ trace, design.creates event = none) :
    Run (Alone design) (quiet before)
      (.begin slot role :: (trace.map (.call slot role) ++ [.finish slot role]))
      (quiet after) :=
  .cons (only_begin begins) (Exec.alone execution slot role true plain)

end Solo

end Threads
