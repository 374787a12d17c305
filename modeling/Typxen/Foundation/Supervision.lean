import Mathlib.Data.List.Induction
import Typxen.Foundation.Monitor
import Typxen.Foundation.Threads

/-! # Processes under a monitor

However the programs run beside each other, the calls that each of them makes
itself are a trace of it. So where every program obeys a monitor, the monitor
accepts what each process has called since it began. -/

namespace Threads

open Interaction Exclusion Transition

variable {S : Signature} {Role σ M : Type}

/-! ## The calls of one process -/

def ownNext (slot : Nat) (trace : Trace S) : Label S Role → Trace S
  | .begin _ _ => trace
  | .call caller _ event => if caller = slot then trace ++ [event] else trace
  | .finish caller _ => if caller = slot then [] else trace

def own (slot : Nat) (labels : List (Label S Role)) : Trace S :=
  labels.foldl (ownNext slot) []

section Own

variable (slot : Nat) (labels : List (Label S Role))

theorem own_concat (label : Label S Role) :
    own slot (labels ++ [label]) = ownNext slot (own slot labels) label := by
  rw [own, List.foldl_append]
  rfl

theorem own_begin (other : Nat) (role : Role) :
    own slot (labels ++ [.begin other role]) = own slot labels :=
  own_concat ..

theorem own_call (role : Role) (event : Event S) :
    own slot (labels ++ [.call slot role event]) =
      own slot labels ++ [event] := by
  rw [own_concat]
  exact if_pos rfl

theorem own_finish (role : Role) :
    own slot (labels ++ [.finish slot role]) = [] := by
  rw [own_concat]
  exact if_pos rfl

variable {slot}

theorem own_call_of_ne {other : Nat} (apart : slot ≠ other) (role : Role)
    (event : Event S) :
    own slot (labels ++ [.call other role event]) = own slot labels := by
  rw [own_concat]
  exact if_neg (Ne.symm apart)

theorem own_finish_of_ne {other : Nat} (apart : slot ≠ other) (role : Role) :
    own slot (labels ++ [.finish other role]) = own slot labels := by
  rw [own_concat]
  exact if_neg (Ne.symm apart)

end Own

theorem own_subset {slot : Nat} (labels : List (Label S Role))
    {more : List (Label S Role)} (still : ∀ role, .finish slot role ∉ more) :
    own slot labels ⊆ own slot (labels ++ more) := by
  induction more generalizing labels with
  | nil => simp
  | cons label more induction =>
      have next : own slot labels ⊆ own slot (labels ++ [label]) := by
        cases label with
        | begin other role =>
            rw [own_begin]
            exact List.Subset.refl _
        | call caller role event =>
            by_cases mine : slot = caller
            · rw [← mine, own_call]
              exact List.subset_append_left _ _
            · rw [own_call_of_ne labels mine]
              exact List.Subset.refl _
        | finish other role =>
            have apart : slot ≠ other := by
              intro same
              rw [same] at still
              exact still role (.head _)
            rw [own_finish_of_ne labels apart]
            exact List.Subset.refl _
      rw [← List.singleton_append, ← List.append_assoc]
      apply List.Subset.trans next
      exact induction _ fun role member => still role (.tail _ member)

theorem split_concat {α : Type} {past first rest : List α} {last entry : α}
    (split : past ++ [last] = first ++ entry :: rest) :
    (∃ rest', rest = rest' ++ [last] ∧ past = first ++ entry :: rest') ∨
      (rest = [] ∧ past = first ∧ last = entry) := by
  rcases List.eq_nil_or_concat' rest with none | ⟨rest', final, some⟩
  · rw [none] at split
    rcases List.append_inj' split rfl with ⟨same, one⟩
    exact .inr ⟨none, same, List.head_eq_of_cons_eq one⟩
  · rw [some, ← List.cons_append, ← List.append_assoc] at split
    rcases List.append_inj' split rfl with ⟨same, one⟩
    rw [List.head_eq_of_cons_eq one]
    exact .inl ⟨rest', some, same⟩

theorem mem_own {slot : Nat} {event : Event S} {labels : List (Label S Role)}
    (called : event ∈ own slot labels) :
    ∃ first role rest, labels = first ++ .call slot role event :: rest ∧
      ∀ role, .finish slot role ∉ rest := by
  induction labels using List.reverseRecOn with
  | nil => cases called
  | append_singleton past label induction =>
      have earlier : event ∈ own slot past →
          (∀ role, label ≠ .finish slot role) →
          ∃ first role rest,
            past ++ [label] = first ++ .call slot role event :: rest ∧
              ∀ role, .finish slot role ∉ rest := by
        intro before other
        rcases induction before with ⟨first, role, rest, split, still⟩
        refine ⟨first, role, rest ++ [label], by simp [split], ?_⟩
        intro ended member
        rcases List.mem_append.mp member with within | last
        · exact still ended within
        · exact other ended (List.mem_singleton.mp last).symm
      cases label with
      | begin other role =>
          rw [own_begin] at called
          apply earlier called
          intro ended same
          cases same
      | call caller role found =>
          by_cases mine : slot = caller
          · rw [← mine, own_call] at called
            rcases List.mem_append.mp called with before | last
            · apply earlier before
              intro ended same
              cases same
            · rw [List.mem_singleton.mp last, ← mine]
              exact ⟨past, role, [], rfl, by simp⟩
          · rw [own_call_of_ne past mine] at called
            apply earlier called
            intro ended same
            cases same
      | finish other role =>
          by_cases mine : slot = other
          · rw [← mine, own_finish] at called
            cases called
          · rw [own_finish_of_ne past mine] at called
            apply earlier called
            intro ended same
            cases same
            exact mine rfl

/-! ## Runs -/

section Runs

variable {design : Design S Role σ} {monitor : Monitor S M} {start : M}
  {ended : M → Prop}

structure Supervised (design : Design S Role σ) (monitor : Monitor S M)
    (start : M) (ended : M → Prop) : Prop where
  begun : ∀ processes role program, design.begins processes role program →
    Program.Obeys monitor program start fun _ => ended
  created : ∀ event role program,
    design.creates event = some (role, program) →
    Program.Obeys monitor program start fun _ => ended

/-- The monitor has accepted the calls of a process, and will accept those to
come. -/
def Accepted (monitor : Monitor S M) (start : M) (ended : M → Prop)
    (trace : Trace S) (program : Program S Unit) : Prop :=
  ∃ seen, monitor.Run start trace seen ∧
    Program.Obeys monitor program seen fun _ => ended

def Judged (monitor : Monitor S M) (start : M) (ended : M → Prop)
    (past : List (Label S Role)) : Label S Role → Prop
  | .begin _ _ => True
  | .call slot _ event => ∃ seen next,
      monitor.Run start (own slot past) seen ∧ monitor seen event next
  | .finish slot _ => ∃ seen, monitor.Run start (own slot past) seen ∧ ended seen

structure Watched (monitor : Monitor S M) (start : M) (ended : M → Prop)
    (past : List (Label S Role)) (state : State S Role σ) : Prop where
  current : ∀ slot process, state.processes slot = some process →
    Accepted monitor start ended (own slot past) process.program
  free : ∀ slot, state.processes slot = none → own slot past = []
  judged : ∀ first label rest, past = first ++ label :: rest →
    Judged monitor start ended first label

theorem put_free {state : State S Role σ} {slot other : Nat}
    {process : Process S Role}
    (free : (state.put slot process).processes other = none) :
    other ≠ slot ∧ state.processes other = none := by
  by_cases same : other = slot
  · rw [same, put_self] at free
    cases free
  · rw [put_of_ne state same] at free
    exact ⟨same, free⟩

theorem Accepted.begins {program : Program S Unit}
    (obeys : Program.Obeys monitor program start fun _ => ended) :
    Accepted monitor start ended [] program :=
  ⟨start, .nil start, obeys⟩

theorem Accepted.calls {trace : Trace S} {request : S.Call}
    {next : S.Answer request → Program S Unit}
    (accepted : Accepted monitor start ended trace (.ask request next))
    (answer : S.Answer request) :
    (∃ seen after, monitor.Run start trace seen ∧
        monitor seen ⟨request, answer⟩ after) ∧
      Accepted monitor start ended (trace ++ [⟨request, answer⟩])
        (next answer) := by
  rcases accepted with ⟨seen, run, obeys⟩
  rcases obeys answer with ⟨after, taken, rest⟩
  refine ⟨⟨seen, after, run, taken⟩, after, ?_, rest⟩
  exact run_append_iff.mpr ⟨seen, run, .cons taken (.nil after)⟩

theorem Watched.concat {state : State S Role σ} {past : List (Label S Role)}
    (watched : Watched monitor start ended past state) {label : Label S Role}
    (now : Judged monitor start ended past label) :
    ∀ first other rest, past ++ [label] = first ++ other :: rest →
      Judged monitor start ended first other := by
  intro first other rest split
  rcases split_concat split with ⟨rest, _, earlier⟩ | ⟨_, same, last⟩
  · exact watched.judged first other rest earlier
  · rw [← same, ← last]
    exact now

structure Called (monitor : Monitor S M) (start : M) (ended : M → Prop)
    (slot : Nat) (past now : List (Label S Role)) (rest : Program S Unit) :
    Prop where
  judged : ∀ first label rest, now = first ++ label :: rest →
    Judged monitor start ended first label
  rest : Accepted monitor start ended (own slot now) rest
  others : ∀ other, other ≠ slot → own other now = own other past

theorem Watched.called {state : State S Role σ} {past : List (Label S Role)}
    (watched : Watched monitor start ended past state) {slot : Nat}
    {process : Process S Role} {request : S.Call}
    {next : S.Answer request → Program S Unit}
    (here : state.processes slot = some process)
    (asks : process.program = .ask request next) (answer : S.Answer request) :
    Called monitor start ended slot past
      (past ++ [.call slot process.role ⟨request, answer⟩]) (next answer) := by
  have mine := watched.current slot process here
  rw [asks] at mine
  rcases mine.calls answer with ⟨now, rest⟩
  constructor
  · exact watched.concat now
  · rw [own_call]
    exact rest
  · intro other apart
    exact own_call_of_ne past apart _ _

theorem Step.watched (supervised : Supervised design monitor start ended)
    {before after : State S Role σ} {label : Label S Role}
    (step : Step design before label after) {past : List (Label S Role)}
    (watched : Watched monitor start ended past before) :
    Watched monitor start ended (past ++ [label]) after := by
  cases step with
  | @begin slot role program free begins =>
      constructor
      · intro other found there
        rw [own_begin]
        rcases put_cases there with ⟨same, mine⟩ | ⟨_, theirs⟩
        · rw [same, mine, watched.free slot free]
          exact .begins (supervised.begun _ _ _ begins)
        · exact watched.current other found theirs
      · intro other still
        rw [own_begin]
        exact watched.free other (put_free still).2
      · exact watched.concat trivial
  | @call slot process request next answer shared here asks answered creates =>
      have called := watched.called here asks answer
      constructor
      · intro other found there
        rcases put_cases there with ⟨same, mine⟩ | ⟨apart, theirs⟩
        · rw [same, mine]
          exact called.rest
        · rw [called.others other apart]
          exact watched.current other found theirs
      · intro other still
        rcases put_free still with ⟨apart, free⟩
        rw [called.others other apart]
        exact watched.free other free
      · exact called.judged
  | @create slot child process request next answer shared role program here
      asks answered creates apart free =>
      have called := watched.called here asks answer
      constructor
      · intro other found there
        rcases put_cases there with ⟨same, mine⟩ | ⟨_, others⟩
        · rw [same, mine, called.others child apart, watched.free child free]
          exact .begins (supervised.created _ _ _ creates)
        rcases put_cases others with ⟨same, mine⟩ | ⟨distinct, theirs⟩
        · rw [same, mine]
          exact called.rest
        · rw [called.others other distinct]
          exact watched.current other found theirs
      · intro other still
        rcases put_free (put_free still).2 with ⟨distinct, none⟩
        rw [called.others other distinct]
        exact watched.free other none
      · exact called.judged
  | @finish slot process here done =>
      have mine := watched.current slot process here
      rw [done] at mine
      constructor
      · intro other found there
        have distinct : other ≠ slot := by
          intro same
          rw [same, drop_self] at there
          cases there
        rw [own_finish_of_ne past distinct]
        exact watched.current other found (drop_cases there).2
      · intro other still
        by_cases same : other = slot
        · rw [same]
          exact own_finish slot past _
        · rw [own_finish_of_ne past same]
          rw [drop_of_ne before same] at still
          exact watched.free other still
      · exact watched.concat mine

theorem run_watched (supervised : Supervised design monitor start ended)
    {shared : σ} {labels : List (Label S Role)} {after : State S Role σ}
    (run : Run (Step design) (quiet shared) labels after) :
    Watched monitor start ended labels after := by
  have first : Watched monitor start ended ([] : List (Label S Role))
      (quiet shared : State S Role σ) := by
    constructor
    · intro slot process here
      cases here
    · intro slot free
      rfl
    · intro first label rest split
      simp at split
  exact run.history (Watched monitor start ended)
    (fun _ _ _ _ watched step => step.watched supervised watched) first

end Runs

/-! ## A process that has not ended -/

theorem Step.occupied {design : Design S Role σ} {before after : State S Role σ}
    {label : Label S Role} (step : Step design before label after) {slot : Nat}
    (here : before.processes slot ≠ none)
    (still : ∀ role, label ≠ .finish slot role) :
    (∀ role, label ≠ .begin slot role) ∧ after.processes slot ≠ none := by
  have kept : ∀ {state : State S Role σ} (other : Nat)
      (process : Process S Role), state.processes slot ≠ none →
      (state.put other process).processes slot ≠ none := by
    intro state other process there none
    exact there (put_free none).2
  cases step with
  | @begin other role program free begins =>
      refine ⟨?_, kept other _ here⟩
      intro role same
      cases same
      exact here free
  | call => exact ⟨nofun, kept _ _ here⟩
  | create => exact ⟨nofun, kept _ _ (kept _ _ here)⟩
  | @finish other process there done =>
      refine ⟨nofun, ?_⟩
      by_cases same : slot = other
      · rw [same] at still
        exact absurd rfl (still _)
      · rw [drop_of_ne before same]
        exact here

/-- No process begins where another one has not ended. -/
theorem run_occupied {design : Design S Role σ} {before after : State S Role σ}
    {labels : List (Label S Role)} (run : Run (Step design) before labels after)
    {slot : Nat} (here : before.processes slot ≠ none)
    (still : ∀ role, .finish slot role ∉ labels) :
    ∀ role, .begin slot role ∉ labels := by
  induction run with
  | nil => simp
  | cons step _ induction =>
      have first := step.occupied here
        fun role same => still role (same ▸ .head _)
      have rest := induction first.2
        fun role member => still role (.tail _ member)
      intro role member
      rcases List.mem_cons.mp member with same | later
      · exact first.1 role same.symm
      · exact rest role later

/-! ## Rules about what a process has called -/

section Recording

variable {design : Design S Role σ} {due : Trace S → Event S → Prop}
  {ended : Trace S → Prop}

def recording (due : Trace S → Event S → Prop) : Monitor S (Trace S) :=
  fun seen event next => due seen event ∧ next = seen ++ [event]

theorem recording_run {start trace seen : Trace S}
    (run : (recording due).Run start trace seen) : seen = start ++ trace := by
  induction run with
  | nil => exact (List.append_nil _).symm
  | cons taken _ induction => rw [induction, taken.2, List.append_assoc,
      List.singleton_append]

theorem recording_onlyCalls {allowed : S.Call → Prop} {α : Type}
    {program : Program S α} (only : Program.OnlyCalls allowed program)
    (always : ∀ seen request answer, allowed request →
      due seen ⟨request, answer⟩) (seen : Trace S) :
    Program.Obeys (recording due) program seen fun _ final =>
      ∃ more, final = seen ++ more ∧ ∀ event ∈ more, allowed event.call := by
  induction program generalizing seen with
  | done value => exact ⟨[], (List.append_nil _).symm, by simp⟩
  | ask request next induction =>
      intro answer
      refine ⟨_, ⟨always seen request answer only.1, rfl⟩, ?_⟩
      apply (induction answer (only.2 answer) _).mono
      intro value final ends
      rcases ends with ⟨more, same, within⟩
      refine ⟨⟨request, answer⟩ :: more, ?_, ?_⟩
      · rw [same, List.append_assoc, List.singleton_append]
      · intro event member
        rcases List.mem_cons.mp member with first | later
        · rw [first]
          exact only.1
        · exact within event later

/-- In every run each call is due, and each process ends as it should. -/
theorem run_recorded (supervised : Supervised design (recording due) [] ended)
    {shared : σ} {labels : List (Label S Role)} {after : State S Role σ}
    (run : Run (Step design) (quiet shared) labels after) :
    (∀ first slot role event rest,
        labels = first ++ .call slot role event :: rest →
        due (own slot first) event) ∧
      ∀ first slot role rest, labels = first ++ .finish slot role :: rest →
        ended (own slot first) := by
  have watched := run_watched supervised run
  constructor
  · intro first slot role event rest split
    rcases watched.judged first _ rest split with ⟨seen, next, run, taken⟩
    rw [recording_run run] at taken
    exact taken.1
  · intro first slot role rest split
    rcases watched.judged first _ rest split with ⟨seen, run, done⟩
    rw [recording_run run] at done
    exact done

end Recording

end Threads
