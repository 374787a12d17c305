import Mathlib.Data.List.Basic

/-! # Runs of a labelled transition system

A step relation over states and labels, its runs, and the rules by which a
property of one step becomes a property of a run. -/

namespace Transition

variable {State Label : Type} {step : State → Label → State → Prop}

inductive Run (step : State → Label → State → Prop) :
    State → List Label → State → Prop
  | nil (state : State) : Run step state [] state
  | cons {before middle after : State} {label : Label} {labels : List Label} :
      step before label middle →
      Run step middle labels after →
      Run step before (label :: labels) after

theorem run_nil_iff {before after : State} :
    Run step before [] after ↔ after = before := by
  constructor
  · intro run
    cases run
    rfl
  · intro equal
    rw [equal]
    exact .nil _

theorem run_cons_iff {before after : State} {label : Label}
    {labels : List Label} :
    Run step before (label :: labels) after ↔
      ∃ middle, step before label middle ∧ Run step middle labels after := by
  constructor
  · intro run
    cases run with
    | cons first rest => exact ⟨_, first, rest⟩
  · intro split
    rcases split with ⟨middle, first, rest⟩
    exact .cons first rest

theorem run_append_iff {before after : State} {first second : List Label} :
    Run step before (first ++ second) after ↔
      ∃ middle, Run step before first middle ∧ Run step middle second after := by
  induction first generalizing before with
  | nil => simp [run_nil_iff]
  | cons label rest induction =>
      simp only [List.cons_append, run_cons_iff, induction]
      constructor
      · intro split
        rcases split with ⟨next, taken, middle, start, finish⟩
        exact ⟨middle, ⟨next, taken, start⟩, finish⟩
      · intro split
        rcases split with ⟨middle, ⟨next, taken, start⟩, finish⟩
        exact ⟨next, taken, middle, start, finish⟩

theorem run_middle_iff {before after : State} {first second : List Label}
    {label : Label} :
    Run step before (first ++ label :: second) after ↔
      ∃ here next, Run step before first here ∧ step here label next ∧
        Run step next second after := by
  rw [run_append_iff]
  constructor
  · intro split
    rcases split with ⟨here, start, rest⟩
    rcases run_cons_iff.mp rest with ⟨next, taken, finish⟩
    exact ⟨here, next, start, taken, finish⟩
  · intro split
    rcases split with ⟨here, next, start, taken, finish⟩
    exact ⟨here, start, .cons taken finish⟩

theorem Run.deterministic
    (functional : ∀ before label after other, step before label after →
      step before label other → other = after)
    {before after other : State} {labels : List Label}
    (run : Run step before labels after) (twin : Run step before labels other) :
    other = after := by
  induction run with
  | nil state => exact run_nil_iff.mp twin
  | cons taken _ induction =>
      rcases run_cons_iff.mp twin with ⟨middle, first, rest⟩
      rw [functional _ _ _ _ taken first] at rest
      exact induction rest

/-! ## Invariants -/

/-- A property of states that every step keeps, as long as the labels are
`admissible`. -/
theorem Run.invariant (property : State → Prop) (admissible : Label → Prop)
    (preserved : ∀ before label after, admissible label → property before →
      step before label after → property after)
    {before after : State} {labels : List Label}
    (run : Run step before labels after)
    (all : ∀ label ∈ labels, admissible label) (holds : property before) :
    property after := by
  induction run with
  | nil => exact holds
  | cons taken _ induction =>
      apply induction
      · exact fun label member => all label (.tail _ member)
      · exact preserved _ _ _ (all _ (.head _)) holds taken

theorem Run.mono {other : State → Label → State → Prop}
    (admissible : Label → Prop)
    (implies : ∀ before label after, admissible label →
      step before label after → other before label after)
    {before after : State} {labels : List Label}
    (run : Run step before labels after)
    (all : ∀ label ∈ labels, admissible label) :
    Run other before labels after := by
  induction run with
  | nil state => exact .nil state
  | cons taken _ induction =>
      exact .cons (implies _ _ _ (all _ (.head _)) taken)
        (induction fun label member => all label (.tail _ member))

/-- Forward simulation: where each step of one system is a run of another, so
is each run. -/
theorem Run.simulate {Abstract Observed : Type}
    {target : Abstract → Observed → Abstract → Prop}
    (related : State → Abstract → Prop) (observe : Label → List Observed)
    (matched : ∀ before label after abstract, related before abstract →
      step before label after →
      ∃ next, Run target abstract (observe label) next ∧ related after next)
    {before after : State} {labels : List Label}
    (run : Run step before labels after) {abstract : Abstract}
    (holds : related before abstract) :
    ∃ next, Run target abstract (labels.flatMap observe) next ∧
      related after next := by
  induction run generalizing abstract with
  | nil => exact ⟨abstract, .nil _, holds⟩
  | cons taken _ induction =>
      rcases matched _ _ _ abstract holds taken with ⟨middle, first, still⟩
      rcases induction still with ⟨next, rest, last⟩
      exact ⟨next, run_append_iff.mpr ⟨middle, first, rest⟩, last⟩

theorem Run.history (property : List Label → State → Prop)
    (preserved : ∀ past before label after, property past before →
      step before label after → property (past ++ [label]) after)
    {before after : State} {labels : List Label}
    (run : Run step before labels after) {past : List Label}
    (holds : property past before) : property (past ++ labels) after := by
  induction run generalizing past with
  | nil =>
      rw [List.append_nil]
      exact holds
  | @cons before middle after label labels taken _ induction =>
      have extended := induction (preserved past before label middle holds taken)
      rw [List.append_assoc] at extended
      exact extended

/-- The history is one with `earlier`, then `label`, then only `quiet`
labels. -/
def Since (quiet : Label → Prop) (earlier : List Label → Prop) (label : Label)
    (labels : List Label) : Prop :=
  ∃ past later : List Label, labels = past ++ label :: later ∧ earlier past ∧
    ∀ other ∈ later, quiet other

section Since

variable {quiet : Label → Prop} {earlier : List Label → Prop}
  {label other : Label} {labels : List Label}

theorem since_now (holds : earlier labels) :
    Since quiet earlier label (labels ++ [label]) :=
  ⟨labels, [], rfl, holds, by simp⟩

theorem Since.later (since : Since quiet earlier label labels)
    (still : quiet other) : Since quiet earlier label (labels ++ [other]) := by
  rcases since with ⟨past, later, split, holds, silent⟩
  refine ⟨past, later ++ [other], ?_, holds, ?_⟩
  · rw [split, List.append_assoc, List.cons_append]
  · intro member within
    rcases List.mem_append.mp within with before | last
    · exact silent member before
    · rw [List.mem_singleton.mp last]
      exact still

theorem since_append_singleton_iff {last : Label} :
    Since quiet earlier label (labels ++ [last]) ↔
      label = last ∧ earlier labels ∨
        quiet last ∧ Since quiet earlier label labels := by
  constructor
  · intro since
    rcases since with ⟨past, later, split, holds, silent⟩
    rcases List.eq_nil_or_concat' later with rfl | ⟨prior, final, rfl⟩
    · rcases List.append_inj' split rfl with ⟨same, one⟩
      cases one
      exact .inl ⟨rfl, same ▸ holds⟩
    · rw [← List.cons_append, ← List.append_assoc] at split
      rcases List.append_inj' split rfl with ⟨same, one⟩
      cases one
      refine .inr ⟨silent last (by simp), past, prior, same, holds, ?_⟩
      exact fun other member => silent other (by simp [member])
  · intro either
    rcases either with ⟨rfl, holds⟩ | ⟨still, since⟩
    · exact since_now holds
    · exact since.later still

end Since

structure Guarded (property : State → Prop) (admissible : Label → Prop)
    (step : State → Label → State → Prop) (before : State) (label : Label)
    (after : State) : Prop where
  admitted : admissible label
  holds : property before
  taken : step before label after
  still : property after

/-- An invariant may be assumed at every step of a run. -/
theorem Run.guarded (property : State → Prop) (admissible : Label → Prop)
    (preserved : ∀ before label after, admissible label → property before →
      step before label after → property after)
    {before after : State} {labels : List Label}
    (run : Run step before labels after)
    (all : ∀ label ∈ labels, admissible label) (holds : property before) :
    Run (Guarded property admissible step) before labels after := by
  induction run with
  | nil state => exact .nil state
  | cons taken _ induction =>
      have admitted := all _ (.head _)
      have next := preserved _ _ _ admitted holds taken
      exact .cons ⟨admitted, holds, taken, next⟩
        (induction (fun label member => all label (.tail _ member)) next)

theorem Run.still {property : State → Prop} {admissible : Label → Prop}
    {before after : State} {labels : List Label}
    (run : Run (Guarded property admissible step) before labels after)
    (holds : property before) : property after := by
  induction run with
  | nil => exact holds
  | cons taken _ induction => exact induction taken.still

theorem Run.constant {β : Type} (measure : State → β)
    (kept : ∀ before label after, step before label after →
      measure after = measure before)
    {before after : State} {labels : List Label}
    (run : Run step before labels after) : measure after = measure before := by
  induction run with
  | nil => rfl
  | cons taken _ induction => exact induction.trans (kept _ _ _ taken)

theorem Run.step_of_mem (property : State → Prop)
    (preserved : ∀ before label after, property before →
      step before label after → property after)
    {before after : State} {labels : List Label}
    (run : Run step before labels after) (holds : property before)
    {label : Label} (member : label ∈ labels) :
    ∃ here next, property here ∧ step here label next := by
  induction run with
  | nil => cases member
  | cons taken _ induction =>
      rcases List.mem_cons.mp member with equal | later
      · exact ⟨_, _, holds, equal ▸ taken⟩
      · exact induction (preserved _ _ _ holds taken) later

theorem Run.emits {β : Type} {measure : State → List β} {emit : Label → List β}
    (gains : ∀ before label after, step before label after →
      measure after = measure before ++ emit label)
    {before after : State} {labels : List Label}
    (run : Run step before labels after) :
    measure after = measure before ++ labels.flatMap emit := by
  induction run with
  | nil => simp
  | cons taken _ induction =>
      rw [induction, gains _ _ _ taken, List.flatMap_cons, List.append_assoc]

def Beside {Other : Type} (step : State → Label → State → Prop)
    (other : Other → Label → Other → Prop) :
    State × Other → Label → State × Other → Prop :=
  fun before label after =>
    step before.1 label after.1 ∧ other before.2 label after.2

theorem Run.beside {Other : Type} {other : Other → Label → Other → Prop}
    {before after : State} {left right : Other} {labels : List Label}
    (run : Run step before labels after)
    (otherRun : Run other left labels right) :
    Run (Beside step other) (before, left) labels (after, right) := by
  induction run generalizing left with
  | nil state =>
      rw [run_nil_iff.mp otherRun]
      exact .nil _
  | cons taken _ induction =>
      rcases run_cons_iff.mp otherRun with ⟨middle, otherTaken, rest⟩
      exact .cons ⟨taken, otherTaken⟩ (induction rest)

/-! ## Entering and leaving -/

theorem Run.last_label {entered : State → Prop} {entering : Label → Prop}
    (enters : ∀ before label after, step before label after →
      entered after → entering label)
    {before after : State} {labels : List Label}
    (run : Run step before labels after) (outside : ¬entered before)
    (inside : entered after) :
    ∃ prior label, labels = prior ++ [label] ∧ entering label := by
  rcases List.eq_nil_or_concat' labels with rfl | ⟨prior, label, rfl⟩
  · rw [run_nil_iff.mp run] at inside
    exact absurd inside outside
  · rcases run_append_iff.mp run with ⟨middle, _, last⟩
    rcases run_cons_iff.mp last with ⟨final, taken, rest⟩
    rw [run_nil_iff.mp rest] at inside
    exact ⟨prior, label, rfl, enters _ _ _ taken inside⟩

/-- Where nothing follows a closing label, a run that ends closed has its only
closing label last. -/
theorem Run.closes {closed : State → Prop} {closing : Label → Prop}
    (enters : ∀ before label after, step before label after →
      (closed after ↔ closing label))
    (stuck : ∀ before label after, closed before → ¬step before label after)
    {before after : State} {labels : List Label}
    (run : Run step before labels after) (opened : ¬closed before)
    (shut : closed after) :
    ∃ prior label, labels = prior ++ [label] ∧ closing label ∧
      ∀ other ∈ prior, ¬closing other := by
  induction run with
  | nil => exact absurd shut opened
  | @cons before middle after label labels taken rest induction =>
      by_cases already : closed middle
      · cases rest with
        | nil =>
            refine ⟨[], label, rfl, (enters _ _ _ taken).mp already, ?_⟩
            intro other member
            cases member
        | cons next _ => exact absurd next (stuck _ _ _ already)
      · rcases induction already shut with ⟨prior, last, rfl, isClosing, others⟩
        refine ⟨label :: prior, last, rfl, isClosing, ?_⟩
        intro other member
        rcases List.mem_cons.mp member with equal | later
        · rw [equal]
          exact fun closes => already ((enters _ _ _ taken).mpr closes)
        · exact others other later

def Within (property : State → Prop) (step : State → Label → State → Prop) :
    State → Label → State → Prop :=
  fun before label after =>
    property before ∧ step before label after ∧ property after

theorem Run.within_of_mem {property : State → Prop} {before after : State}
    {labels : List Label} (run : Run (Within property step) before labels after)
    {label : Label} (member : label ∈ labels) :
    ∃ here next, property here ∧ step here label next ∧ property next := by
  rcases run.step_of_mem (fun _ => True) (fun _ _ _ _ _ => trivial) trivial
    member with ⟨here, next, _, taken⟩
  exact ⟨here, next, taken⟩

/-- The last step of a run into `property`, which has held ever since. -/
structure LastEntry (property : State → Prop)
    (step : State → Label → State → Prop) (before : State) (labels : List Label)
    (after : State) where
  first : List Label
  label : Label
  second : List Label
  here : State
  next : State
  split : labels = first ++ label :: second
  start : Run step before first here
  outside : ¬property here
  taken : step here label next
  inside : property next
  rest : Run (Within property step) next second after

theorem LastEntry.mem {property : State → Prop} {before after : State}
    {labels : List Label} (entry : LastEntry property step before labels after) :
    entry.label ∈ labels := by
  rcases entry with ⟨first, label, second, here, next, split, _, _, _, _, _⟩
  simp [split]

/-- A property that holds at the end of a run but not at its start was
entered for the last time by some step. -/
theorem Run.last_entry (property : State → Prop) {before after : State}
    {labels : List Label} (run : Run step before labels after)
    (outside : ¬property before) (inside : property after) :
    Nonempty (LastEntry property step before labels after) := by
  have held_or_entered :
      property before ∧ Run (Within property step) before labels after ∨
        Nonempty (LastEntry property step before labels after) := by
    clear outside
    induction run with
    | nil state => exact .inl ⟨inside, .nil state⟩
    | @cons before middle after label labels taken rest induction =>
        rcases induction inside with ⟨holds, held⟩ | later
        · by_cases earlier : property before
          · exact .inl ⟨earlier, .cons ⟨earlier, taken, holds⟩ held⟩
          · exact .inr ⟨{
              first := []
              label := label
              second := labels
              here := before
              next := middle
              split := rfl
              start := .nil before
              outside := earlier
              taken := taken
              inside := holds
              rest := held }⟩
        · cases later with | intro later =>
          exact .inr ⟨{ later with
            first := label :: later.first
            split := congrArg (label :: ·) later.split
            start := .cons taken later.start }⟩
  rcases held_or_entered with ⟨holds, _⟩ | entered
  · exact absurd holds outside
  · exact entered

end Transition
