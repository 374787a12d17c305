import Typxen.IdentityHttp.Answered

/-! # Parsed trees

`put_handler` asks whether a job holds the board only after it has parsed the
body, and it returns from there without a `cJSON_Delete`. -/

namespace Typxen.IdentityHttp

open CJson Interaction Json Transition

variable {Tree : Type} {json : Library Tree}

/-! ## Counting -/

/-- The trees on the heap; all answers are open, so whatever runs beside a
handler is left out. -/
def treeEnvironment : Environment (handlerCalls Tree) Nat
  | .parse _, before, root, after => after = before + root.isSome.toNat
  | .deleteRequest, before, _, after => after = before - 1
  | _, before, _, after => after = before

def isParsed : Interaction.Event (handlerCalls Tree) → Bool
  | ⟨.parse _, some _⟩ => true
  | _ => false

def isLocked : Interaction.Event (handlerCalls Tree) → Bool
  | ⟨.jobLocked, true⟩ => true
  | _ => false

def leaks (trace : Calls Tree) : Bool :=
  trace.any isParsed && trace.any isLocked

/-! ## Handlers -/

section Programs

variable {α : Type} {trees : Nat}

abbrev Counts (program : Handling Tree α) (trees : Nat)
    (post : Calls Tree → α → Nat → Prop) : Prop :=
  Program.Ensures treeEnvironment program trees post

def handsOff : HandlerCall Tree → Bool
  | .parse _ => false
  | .deleteRequest => false
  | _ => true

def treeless : HandlerCall Tree → Bool
  | .jobLocked => false
  | request => handsOff request

theorem exec_handsOff {program : Handling Tree α}
    {trace : Calls Tree}
    {value : α} {after : Nat}
    (execution : Program.Exec treeEnvironment program trees trace value after)
    (away : ∀ event ∈ trace, handsOff event.call = true) :
    after = trees ∧ trace.any isParsed = false := by
  induction execution with
  | done => exact ⟨rfl, rfl⟩
  | @ask request next before middle after answer trace value answered _
      induction =>
      have mine : handsOff request = true := away ⟨request, answer⟩ (.head _)
      have still : middle = before ∧ isParsed ⟨request, answer⟩ = false := by
        cases request with
        | parse body => cases mine
        | deleteRequest => cases mine
        | _ => exact ⟨answered, rfl⟩
      rcases induction fun event member => away event (.tail _ member) with
        ⟨same, unparsed⟩
      rw [List.any_cons, still.2, unparsed, same, still.1]
      exact ⟨rfl, rfl⟩

abbrev OnlyTreeless (program : Handling Tree α) : Prop :=
  Program.OnlyCalls (fun request => treeless request = true) program

structure Treeless (trees : Nat) (trace : Calls Tree)
    (after : Nat) : Prop where
  trees : after = trees
  unparsed : trace.any isParsed = false
  unlocked : trace.any isLocked = false

theorem treeless_counts {program : Handling Tree α}
    (only : OnlyTreeless program) (trees : Nat) :
    Counts program trees fun trace _ after => Treeless trees trace after := by
  intro trace value after execution
  have within := only.of_mem execution
  have away : ∀ event ∈ trace, handsOff event.call = true ∧
      isLocked event = false := by
    intro event member
    have mine := within event member
    rcases event with ⟨request, answer⟩
    cases request with
    | jobLocked => cases mine
    | _ => exact ⟨mine, rfl⟩
  rcases exec_handsOff execution fun event member => (away event member).1 with
    ⟨same, unparsed⟩
  refine ⟨same, unparsed, ?_⟩
  rw [List.any_eq_false]
  intro event member
  rw [(away event member).2]
  exact Bool.false_ne_true

theorem receive_treeless (fuel missing : Nat) :
    OnlyTreeless (receive fuel missing : Handling Tree _) := by
  induction fuel generalizing missing with
  | zero => exact trivial
  | succ fuel induction =>
      rw [receive]
      split
      · exact trivial
      refine ⟨rfl, ?_⟩
      intro answer
      rcases answer with none | bytes
      · exact trivial
      cases bytes with
      | nil => exact trivial
      | cons first rest =>
          apply (induction _).bind
          exact fun _ => trivial

theorem addItems_treeless (object : Tree)
    (items : List (String × Item Tree)) :
    OnlyTreeless (addItems json object items) := by
  induction items generalizing object with
  | nil => exact trivial
  | cons item items induction =>
      refine ⟨rfl, ?_⟩
      intro supplied
      cases supplied with
      | false => exact induction object
      | true => exact induction _

theorem sendError_treeless (status code : String) (field : Option String) :
    OnlyTreeless (sendError json status code field) := by
  refine ⟨rfl, ?_⟩
  intro created
  cases created with
  | false => exact trivial
  | true =>
      apply (addItems_treeless _ _).bind
      exact fun root => ⟨rfl, fun _ => trivial⟩

theorem buildIdentity_treeless : OnlyTreeless (buildIdentity json) := by
  refine ⟨rfl, ?_⟩
  intro state
  apply (addItems_treeless _ _).bind
  intro texts
  apply (addItems_treeless _ _).bind
  intro battery
  apply (addItems_treeless _ _).bind
  intro joined
  refine ⟨rfl, ?_⟩
  intro connected
  apply (addItems_treeless _ _).bind
  intro status
  apply (addItems_treeless _ _).bind
  exact fun source => addItems_treeless _ _

theorem sendIdentity_treeless : OnlyTreeless (sendIdentity json) := by
  have body : OnlyTreeless (identityJson json) := by
    refine ⟨rfl, fun root => ⟨rfl, fun battery => ⟨rfl, fun source => ?_⟩⟩⟩
    change Program.OnlyCalls _ (if (root && battery && source) = true then _
      else _)
    split
    · apply buildIdentity_treeless.bind
      exact fun identity => trivial
    · exact trivial
  apply body.bind
  intro tree
  cases tree with
  | none => exact trivial
  | some tree => exact ⟨rfl, fun _ => trivial⟩

theorem saveRequested_treeless (requested : BleIdentity.Config) :
    OnlyTreeless (saveRequested json requested) := by
  refine ⟨rfl, ?_⟩
  intro result
  cases result with
  | ok _ => exact sendIdentity_treeless
  | error error =>
      cases error with
      | invalidArg validation => exact sendError_treeless _ _ _
      | _ => exact sendError_treeless _ _ _

theorem readJson_counts (contentLength trees : Nat) :
    Counts (readJson contentLength : Handling Tree _) trees
      fun trace root after => after = trees + root.isSome.toNat ∧
        trace.any isParsed = root.isSome ∧
        trace.any isLocked = false := by
  unfold readJson
  split
  · exact Program.ensures_done.mpr ⟨rfl, rfl, rfl⟩
  refine Program.Ensures.bind
    (treeless_counts (receive_treeless _ _) trees) ?_
  intro first body middle counts
  rw [counts.trees]
  cases body with
  | none =>
      refine Program.ensures_done.mpr ⟨rfl, ?_, ?_⟩
      · rw [List.append_nil, counts.unparsed]
        rfl
      · rw [List.append_nil, counts.unlocked]
  | some body =>
      refine Program.ensures_ask.mpr ?_
      intro root after parsed
      refine Program.ensures_done.mpr ⟨parsed, ?_, ?_⟩
      · rw [List.any_append, counts.unparsed]
        cases root <;> rfl
      · rw [List.any_append, counts.unlocked]
        rfl

theorem deleteRequest_counts (root : Option Tree) {rest : Handling Tree α}
    (only : OnlyTreeless rest) (trees : Nat) :
    Counts (do
      deleteRequest root
      rest) (trees + root.isSome.toNat)
      fun trace _ after => after = trees ∧ trace.any isLocked = false := by
  cases root with
  | none =>
      refine Program.Ensures.mono (treeless_counts only trees) ?_
      exact fun trace value after counts => ⟨counts.trees, counts.unlocked⟩
  | some tree =>
      refine Program.ensures_ask.mpr ?_
      intro answer middle deleted
      have restored : middle = trees := deleted
      rw [restored]
      refine Program.Ensures.mono (treeless_counts only trees) ?_
      exact fun trace value after counts => ⟨counts.trees, counts.unlocked⟩

theorem copyRequest_counts (root : Option Tree) (trees : Nat) :
    Counts (copyRequest json root) (trees + root.isSome.toNat)
      fun trace _ after => after = trees ∧ trace.any isLocked = false := by
  unfold copyRequest
  split
  · exact deleteRequest_counts root (sendError_treeless _ _ _) trees
  · exact deleteRequest_counts root (saveRequested_treeless _) trees

theorem putHandler_counts (contentLength trees : Nat) :
    Counts (putHandler json contentLength) trees fun trace _ after =>
      after = trees + (leaks trace).toNat := by
  refine Program.Ensures.bind (readJson_counts contentLength trees) ?_
  intro first root middle counts
  rcases counts with ⟨parsed, some, unlocked⟩
  refine Program.ensures_ask.mpr ?_
  intro locked after same
  have still : after = middle := same
  rw [still, parsed]
  cases locked with
  | true =>
      refine Program.Ensures.mono
        (treeless_counts (sendError_treeless _ _ _) _) ?_
      intro trace value after counts
      rw [counts.trees, leaks, List.any_append, some, List.any_cons,
        counts.unparsed, List.any_append, List.any_cons]
      simp [isParsed, isLocked]
  | false =>
      refine Program.Ensures.mono (copyRequest_counts root trees) ?_
      intro trace value after counts
      have unlocked : (first ++ ⟨.jobLocked, false⟩ :: trace).any isLocked =
          false := by
        rw [List.any_append, unlocked, List.any_cons, counts.2]
        rfl
      rw [counts.1, leaks, unlocked]
      simp

abbrev HandsOff (program : Handling Tree α) : Prop :=
  Program.OnlyCalls (fun request => handsOff request = true) program

theorem handsOff_of_treeless {program : Handling Tree α}
    (only : OnlyTreeless program) : HandsOff program := by
  apply only.mono
  intro request mine
  cases request with
  | jobLocked => cases mine
  | _ => exact mine

theorem sendIdentity_handsOff : HandsOff (sendIdentity json) :=
  handsOff_of_treeless sendIdentity_treeless

theorem sendError_handsOff (status code : String) (field : Option String) :
    HandsOff (sendError json status code field) :=
  handsOff_of_treeless (sendError_treeless status code field)

theorem locked_handsOff {refusal rest : Handling Tree α}
    (refused : HandsOff refusal)
    (other : HandsOff rest) :
    HandsOff (do if ← Handling.call .jobLocked then refusal else rest) := by
  refine ⟨rfl, ?_⟩
  intro locked
  cases locked with
  | true => exact refused
  | false => exact other

theorem resetHandler_handsOff : HandsOff (resetHandler json) := by
  apply locked_handsOff (sendError_handsOff _ _ _)
  refine ⟨rfl, ?_⟩
  intro result
  cases result with
  | ok _ => exact sendIdentity_handsOff
  | error error => exact sendError_handsOff _ _ _

theorem batteryResetHandler_handsOff : HandsOff (batteryResetHandler json) := by
  apply locked_handsOff (sendError_handsOff _ _ _)
  refine ⟨rfl, ?_⟩
  intro result
  cases result with
  | ok _ => exact sendIdentity_handsOff
  | error error => exact sendError_handsOff _ _ _

theorem refuseRestart_handsOff (code : String) :
    HandsOff (refuseRestart json code) :=
  ⟨rfl, fun _ => sendError_handsOff _ _ _⟩

theorem acceptRestart_handsOff (clearBonds : Bool) :
    HandsOff (acceptRestart json clearBonds) := by
  apply Program.OnlyCalls.bind
  · refine ⟨rfl, ?_⟩
    intro created
    cases created with
    | false => exact trivial
    | true =>
        apply (handsOff_of_treeless (addItems_treeless _ _)).bind
        exact fun root => ⟨rfl, fun _ => trivial⟩
  · intro sent
    cases sent with
    | ok _ => exact ⟨rfl, fun _ => trivial⟩
    | error error => exact ⟨rfl, fun _ => trivial⟩

theorem clearAndRestart_handsOff (clearBonds : Bool) :
    HandsOff (clearAndRestart json clearBonds) := by
  unfold clearAndRestart
  split
  · refine ⟨rfl, ?_⟩
    intro cleared
    cases cleared with
    | true => exact acceptRestart_handsOff _
    | false => exact refuseRestart_handsOff _
  · exact acceptRestart_handsOff _

theorem restartHandler_handsOff : HandsOff (restartHandler json) := by
  apply locked_handsOff (sendError_handsOff _ _ _)
  refine ⟨rfl, ?_⟩
  intro idle
  cases idle with
  | false => exact sendError_handsOff _ _ _
  | true =>
  refine ⟨rfl, fun identity => ⟨rfl, ?_⟩⟩
  intro created
  cases created with
  | false => exact sendError_handsOff _ _ _
  | true =>
  refine ⟨rfl, ?_⟩
  intro released
  cases released with
  | false => exact refuseRestart_handsOff _
  | true => exact clearAndRestart_handsOff _

theorem handsOff_counts {program : Handling Tree α} (only : HandsOff program)
    (trees : Nat) :
    Counts program trees fun trace _ after =>
      after = trees + (leaks trace).toNat := by
  intro trace value after execution
  rcases exec_handsOff execution (only.of_mem execution) with ⟨same, unparsed⟩
  rw [same, leaks, unparsed]
  rfl

theorem handler_counts (request : Request) (trees : Nat) :
    Counts (request.handler json) trees fun trace _ after =>
      after = trees + (leaks trace).toNat := by
  cases request with
  | get => exact handsOff_counts sendIdentity_handsOff trees
  | put contentLength => exact putHandler_counts contentLength trees
  | reset => exact handsOff_counts resetHandler_handsOff trees
  | batteryReset => exact handsOff_counts batteryResetHandler_handsOff trees
  | restart => exact handsOff_counts restartHandler_handsOff trees

end Programs

/-! ## A series of requests -/

def ServeStep (json : Library Tree) (before : Nat)
    (served : Request × Calls Tree) (after : Nat) : Prop :=
  ∃ reply, Program.Exec treeEnvironment (served.1.handler json) before served.2
    reply after

/-- Every tree is deleted but those of the requests that were parsed while a
job held the board: they stay on the heap. -/
theorem trees_leaked {served : List (Request × Calls Tree)}
    {trees after : Nat} (run : Run (ServeStep json) trees served after) :
    after = trees + served.countP fun entry => leaks entry.2 := by
  induction run with
  | nil => rfl
  | cons taken _ induction =>
      rcases taken with ⟨reply, execution⟩
      rw [induction, handler_counts _ _ _ _ _ execution, List.countP_cons]
      rename_i entry _ _
      cases leaks entry.2 with
      | false => simp
      | true =>
          simp only [Bool.toNat_true, if_true]
          omega

def refusedTrace : Calls Value :=
  [⟨.recv 1, some [0x30]⟩, ⟨.parse [0x30], some (.number (.ofInt 0))⟩,
    ⟨.jobLocked, true⟩, ⟨.createObject, true⟩] ++
  (addCalls (errorItems "DEDICATED_JOB_ACTIVE" none) ++
    [⟨.send "409 Conflict" (ofValues.addAll ofValues.createObject
      (errorItems "DEDICATED_JOB_ACTIVE" none)), .ok ()⟩])

theorem trees_leaked_refused :
    2 = 0 + [(Request.put 1, refusedTrace),
      (Request.put 1, refusedTrace)].countP fun entry => leaks entry.2 := by
  have served : ∀ trees,
      ServeStep ofValues trees (.put 1, refusedTrace) (trees + 1) :=
    fun trees => ⟨.ok (), .ask rfl (.ask rfl (.ask rfl (.ask rfl
      ((addItems_runs (fun _ _ => rfl) _ _ _).bind (.ask rfl .done)))))⟩
  exact trees_leaked (.cons (served 0) (.cons (served 1) (.nil 2)))

end Typxen.IdentityHttp
