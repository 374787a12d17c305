import Mathlib.Logic.Function.Basic

/-! # Key/value stores

A store in which every write takes effect at once, what a list of writes
leaves of it, and lists of calls that stop at the first one that fails. -/

namespace KeyValue

section Writes

variable {Key Value : Type}

inductive Write (Key Value : Type)
  | set (key : Key) (value : Value)
  | erase (key : Key)
  deriving DecidableEq, Repr

def Write.key : Write Key Value → Key
  | .set key _ => key
  | .erase key => key

def Write.value : Write Key Value → Option Value
  | .set _ value => some value
  | .erase _ => none

variable [DecidableEq Key]

def Write.apply (write : Write Key Value) (store : Key → Option Value) :
    Key → Option Value :=
  Function.update store write.key write.value

def applyAll : List (Write Key Value) → (Key → Option Value) →
    Key → Option Value
  | [], store => store
  | write :: rest, store => applyAll rest (write.apply store)

def written (key : Key) : List (Write Key Value) → Option (Option Value)
  | [] => none
  | write :: rest =>
      (written key rest).or (if write.key = key then some write.value else none)

/-- A key holds what was last written to it, or else what it held before. -/
theorem applyAll_apply (writes : List (Write Key Value))
    (store : Key → Option Value) (key : Key) :
    applyAll writes store key = (written key writes).getD (store key) := by
  induction writes generalizing store with
  | nil => rfl
  | cons write rest induction =>
      rw [applyAll, induction, written]
      cases later : written key rest with
      | some value => rfl
      | none =>
          by_cases here : write.key = key
          · simp [Write.apply, ← here]
          · simp [Write.apply, here, Ne.symm here]

def Unaltered (writes : List (Write Key Value)) (store : Key → Option Value) :
    Prop :=
  ∀ key value, written key writes = some value → store key = value

theorem applyAll_eq_self_iff (writes : List (Write Key Value))
    (store : Key → Option Value) :
    applyAll writes store = store ↔ Unaltered writes store := by
  constructor
  · intro same key value last
    rw [← same, applyAll_apply, last]
    rfl
  · intro unaltered
    funext key
    rw [applyAll_apply]
    cases last : written key writes with
    | none => rfl
    | some value => exact (unaltered key value last).symm

end Writes

/-! ## Calls that may fail -/

section Attempts

variable {Call Failure : Type}

/-- The calls made before the first one that fails, and how that one fails.
`faults` gives the failure of each call by its index. -/
def attempt (faults : Nat → Option Failure) : Nat → List Call →
    List Call × Option Failure
  | _, [] => ([], none)
  | index, call :: rest =>
      match faults index with
      | some failure => ([], some failure)
      | none =>
          let (made, stopped) := attempt faults (index + 1) rest
          (call :: made, stopped)

variable {faults : Nat → Option Failure} {index : Nat} {calls : List Call}

theorem attempt_faultless (faultless : ∀ index, faults index = none) :
    attempt faults index calls = (calls, none) := by
  induction calls generalizing index with
  | nil => rfl
  | cons call rest induction => simp [attempt, faultless, induction]

end Attempts

end KeyValue
