import Mathlib.Logic.Function.Basic
import Typxen.Foundation.Monitor

/-! # A resource that one process holds

Processes share a flag. A process takes the resource by testing and setting
the flag in one step and gives it up by clearing it; as long as nobody else
clears the flag under a holder, there is one holder at most. -/

namespace Exclusion

open Interaction

/-! ## Programs that take and give up -/

structure Discipline (S : Signature) where
  takes : Event S → Bool
  gives : Event S → Bool

section Programs

variable {S : Signature} {α β : Type} {discipline : Discipline S}

def Discipline.after (discipline : Discipline S) (held : Bool)
    (event : Event S) : Bool :=
  (held || discipline.takes event) && !discipline.gives event

inductive HoldMonitor (discipline : Discipline S) : Monitor S Bool
  | take {event : Event S} : discipline.takes event = true →
      discipline.gives event = false →
      HoldMonitor discipline false event true
  | give {event : Event S} : discipline.takes event = false →
      discipline.gives event = true →
      HoldMonitor discipline true event false
  | other {held : Bool} {event : Event S} : discipline.takes event = false →
      discipline.gives event = false → HoldMonitor discipline held event held

theorem HoldMonitor.after {before after : Bool} {event : Event S}
    (rule : HoldMonitor discipline before event after) :
    discipline.after before event = after := by
  cases rule with
  | take takes gives => simp [Discipline.after, takes, gives]
  | give takes gives => simp [Discipline.after, gives]
  | other takes gives => simp [Discipline.after, takes, gives]

abbrev Disciplined (discipline : Discipline S) (program : Program S α)
    (held : Bool) : Prop :=
  Program.Obeys (HoldMonitor discipline) program held fun _ final => final = false

def Discipline.Neutral (discipline : Discipline S) (request : S.Call) : Prop :=
  ∀ answer, discipline.takes ⟨request, answer⟩ = false ∧
    discipline.gives ⟨request, answer⟩ = false

theorem neutral_obeys {program : Program S α}
    (neutral : Program.OnlyCalls discipline.Neutral program) (held : Bool) :
    Program.Obeys (HoldMonitor discipline) program held
      fun _ final => final = held :=
  neutral.obeys fun _ answer free => .other (free answer).1 (free answer).2

theorem neutral_bind {program : Program S α} {continuation : α → Program S β}
    {held : Bool} {post : β → Bool → Prop}
    (neutral : Program.OnlyCalls discipline.Neutral program)
    (rest : ∀ value, Program.Obeys (HoldMonitor discipline)
      (continuation value) held post) :
    Program.Obeys (HoldMonitor discipline) (program >>= continuation) held
      post := by
  apply (neutral_obeys neutral held).bind
  intro value final same
  rw [same]
  exact rest value

end Programs

/-! ## Pools of processes -/

structure Pool (Shared Process : Type) where
  shared : Shared
  processes : Nat → Option Process

section Pools

variable {Shared Process : Type}

def Pool.put (pool : Pool Shared Process) (slot : Nat) (process : Process) :
    Pool Shared Process :=
  { pool with processes := Function.update pool.processes slot (some process) }

def Pool.drop (pool : Pool Shared Process) (slot : Nat) : Pool Shared Process :=
  { pool with processes := Function.update pool.processes slot none }

def Pool.withShared (pool : Pool Shared Process) (shared : Shared) :
    Pool Shared Process :=
  { pool with shared := shared }

@[simp] theorem put_shared (pool : Pool Shared Process) (slot : Nat)
    (process : Process) : (pool.put slot process).shared = pool.shared := rfl

@[simp] theorem drop_shared (pool : Pool Shared Process) (slot : Nat) :
    (pool.drop slot).shared = pool.shared := rfl

@[simp] theorem put_self (pool : Pool Shared Process) (slot : Nat)
    (process : Process) :
    (pool.put slot process).processes slot = some process :=
  Function.update_self ..

theorem put_of_ne (pool : Pool Shared Process) {slot other : Nat}
    (different : other ≠ slot) (process : Process) :
    (pool.put slot process).processes other = pool.processes other :=
  Function.update_of_ne different ..

@[simp] theorem drop_self (pool : Pool Shared Process) (slot : Nat) :
    (pool.drop slot).processes slot = none :=
  Function.update_self ..

theorem drop_of_ne (pool : Pool Shared Process) {slot other : Nat}
    (different : other ≠ slot) :
    (pool.drop slot).processes other = pool.processes other :=
  Function.update_of_ne different ..

theorem put_cases {pool : Pool Shared Process} {slot other : Nat}
    {process found : Process}
    (here : (pool.put slot process).processes other = some found) :
    other = slot ∧ found = process ∨
      other ≠ slot ∧ pool.processes other = some found := by
  by_cases same : other = slot
  · rw [same, put_self] at here
    exact .inl ⟨same, (Option.some.inj here).symm⟩
  · rw [put_of_ne pool same] at here
    exact .inr ⟨same, here⟩

theorem drop_cases {pool : Pool Shared Process} {slot other : Nat}
    {found : Process}
    (here : (pool.drop slot).processes other = some found) :
    other ≠ slot ∧ pool.processes other = some found := by
  by_cases same : other = slot
  · rw [same, drop_self] at here
    cases here
  · rw [drop_of_ne pool same] at here
    exact ⟨same, here⟩

variable {flag : Shared → Bool} {holding : Process → Bool}

inductive Move (flag : Shared → Bool) (holding : Process → Bool) :
    Pool Shared Process → Pool Shared Process → Prop
  | outside {pool : Pool Shared Process} {shared : Shared} :
      flag shared = flag pool.shared →
      Move flag holding pool (pool.withShared shared)
  /-- The flag is changed from outside while nobody holds. -/
  | unheld {pool : Pool Shared Process} {shared : Shared} :
      (∀ slot process, pool.processes slot = some process →
        holding process = false) →
      Move flag holding pool (pool.withShared shared)
  | enter {pool : Pool Shared Process} {slot : Nat} {process : Process} :
      holding process = false → Move flag holding pool (pool.put slot process)
  | leave {pool : Pool Shared Process} {slot : Nat} :
      Move flag holding pool (pool.drop slot)
  | step {pool : Pool Shared Process} {slot : Nat} {process next : Process}
      {shared : Shared} :
      pool.processes slot = some process → holding next = holding process →
      flag shared = flag pool.shared →
      Move flag holding pool ((pool.withShared shared).put slot next)
  | take {pool : Pool Shared Process} {slot : Nat} {next : Process}
      {shared : Shared} :
      flag pool.shared = false → flag shared = true →
      Move flag holding pool ((pool.withShared shared).put slot next)
  | give {pool : Pool Shared Process} {slot : Nat} {process next : Process}
      {shared : Shared} :
      pool.processes slot = some process → holding process = true →
      holding next = false →
      Move flag holding pool ((pool.withShared shared).put slot next)

structure Exclusive (flag : Shared → Bool) (holding : Process → Bool)
    (pool : Pool Shared Process) : Prop where
  flagged : ∀ slot process, pool.processes slot = some process →
    holding process = true → flag pool.shared = true
  single : ∀ first second holder other, pool.processes first = some holder →
    pool.processes second = some other → holding holder = true →
    holding other = true → first = second

theorem Exclusive.idle {pool : Pool Shared Process}
    (none : ∀ slot process, pool.processes slot = some process →
      holding process = false) : Exclusive flag holding pool where
  flagged slot process here holds := by
    rw [none slot process here] at holds
    cases holds
  single first _ holder _ here _ holds _ := by
    rw [none first holder here] at holds
    cases holds

theorem Move.exclusive {before after : Pool Shared Process}
    (move : Move flag holding before after)
    (exclusive : Exclusive flag holding before) :
    Exclusive flag holding after := by
  cases move with
  | outside same =>
      constructor
      · intro slot process here holds
        exact same.trans (exclusive.flagged slot process here holds)
      · exact exclusive.single
  | unheld none => exact .idle none
  | enter idle =>
      constructor
      · intro slot process here holds
        rcases put_cases here with ⟨_, equal⟩ | ⟨_, earlier⟩
        · rw [equal, idle] at holds
          cases holds
        · exact exclusive.flagged slot process earlier holds
      · intro first second holder other here there holds also
        rcases put_cases here with ⟨_, equal⟩ | ⟨_, earlier⟩
        · rw [equal, idle] at holds
          cases holds
        · rcases put_cases there with ⟨_, equal⟩ | ⟨_, before⟩
          · rw [equal, idle] at also
            cases also
          · exact exclusive.single first second holder other earlier before
              holds also
  | leave =>
      constructor
      · intro slot process here holds
        exact exclusive.flagged slot process (drop_cases here).2 holds
      · intro first second holder other here there holds also
        exact exclusive.single first second holder other (drop_cases here).2
          (drop_cases there).2 holds also
  | @step moved process next shared running same kept =>
      have resume : ∀ slot found,
          ((before.withShared shared).put moved next).processes slot =
            some found →
          holding found = true → ∃ earlier,
            before.processes slot = some earlier ∧ holding earlier = true := by
        intro slot found here holds
        rcases put_cases here with ⟨atSlot, equal⟩ | ⟨_, earlier⟩
        · rw [equal, same] at holds
          exact ⟨process, atSlot ▸ running, holds⟩
        · exact ⟨found, earlier, holds⟩
      constructor
      · intro slot found here holds
        rcases resume slot found here holds with ⟨earlier, there, held⟩
        exact kept.trans (exclusive.flagged slot earlier there held)
      · intro first second holder other here there holds also
        rcases resume first holder here holds with ⟨_, one, held⟩
        rcases resume second other there also with ⟨_, two, too⟩
        exact exclusive.single first second _ _ one two held too
  | @take slot next shared free set =>
      -- Nobody held while the flag was clear.
      have none : ∀ slot process, before.processes slot = some process →
          holding process = false := by
        intro slot process here
        cases holds : holding process with
        | false => rfl
        | true =>
            have flagged := exclusive.flagged slot process here holds
            rw [free] at flagged
            cases flagged
      constructor
      · exact fun _ _ _ _ => set
      · intro first second holder other here there holds also
        rcases put_cases here with ⟨firstHere, _⟩ | ⟨_, earlier⟩
        · rcases put_cases there with ⟨secondHere, _⟩ | ⟨_, earlier⟩
          · exact firstHere.trans secondHere.symm
          · rw [none second other earlier] at also
            cases also
        · rw [none first holder earlier] at holds
          cases holds
  | @give slot process next shared running held given =>
      apply Exclusive.idle
      intro other found here
      cases holds : holding found with
      | false => rfl
      | true =>
          rcases put_cases here with ⟨_, equal⟩ | ⟨different, earlier⟩
          · rw [equal, given] at holds
            cases holds
          · exact absurd (exclusive.single other slot found process earlier
              running holds held) different

end Pools

end Exclusion
