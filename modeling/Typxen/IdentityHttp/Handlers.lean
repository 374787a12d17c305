import Typxen.Foundation.Supervision
import Typxen.IdentityHttp.Resubmitted

/-! # What a handler may call when

The rules that every call of a handler keeps, on what it has called so far: the
identity that it answers with is the one it was given, and the board reboots
only after everything that goes before. Each handler keeps them. -/

namespace Typxen.IdentityHttp

open BleIdentity CJson IdentityService Interaction Json Threads Transition

variable {Tree : Type} {json : Library Tree}

abbrev Calls (Tree : Type) := Interaction.Trace (handlerCalls Tree)

/-! ## The rules -/

inductive Adds (json : Library Tree) :
    Tree → List (String × Item Tree) → Calls Tree → Tree → Prop
  | done (object : Tree) : Adds json object [] [] object
  | added {object final : Tree} {name : String} {item : Item Tree}
      {items : List (String × Item Tree)} {calls : Calls Tree} :
      Adds json (json.addToObject object name item) items calls final →
      Adds json object ((name, item) :: items) (⟨.add name, true⟩ :: calls)
        final
  | omitted {object final : Tree} {name : String} {item : Item Tree}
      {items : List (String × Item Tree)} {calls : Calls Tree} :
      Adds json object items calls final →
      Adds json object ((name, item) :: items) (⟨.add name, false⟩ :: calls)
        final

/-- There was memory for every member. -/
def Supplied (seen : Calls Tree) : Prop := ∀ name, ⟨.add name, false⟩ ∉ seen

def restartStart (state : BleIdentity.State) : Calls Tree :=
  [⟨.jobLocked, false⟩, ⟨.hidIdle, true⟩, ⟨.snapshot, state⟩,
    ⟨.createRebootTask, true⟩, ⟨.prepareReboot, true⟩] ++
  (if typxBleIdentityRestartClearsBonds state then
    [⟨.clearIdentityBonds, true⟩] else []) ++
  [⟨.createObject, true⟩]

def RestartCalls (json : Library Tree) (state : BleIdentity.State)
    (calls : Calls Tree) : Prop :=
  ∃ adds root, Adds json json.createObject
      (restartItems (typxBleIdentityRestartClearsBonds state)) adds root ∧
    calls = restartStart state ++ adds ++ [⟨.send "202 Accepted" root, .ok ()⟩]

def identityTree (json : Library Tree) (state : BleIdentity.State)
    (connected : Bool) : Tree :=
  let battery := json.addAll json.createObject (batteryItems state.config)
  let source := json.addAll json.createObject (sourceItems state)
  let root := json.addAll json.createObject (identityItems state)
  let root := json.addAll root [("battery", .tree battery)]
  let root := json.addAll root (statusItems state connected)
  json.addAll root [("source", .tree source)]

def Shown (json : Library Tree) (seen : Calls Tree) (tree : Tree) : Prop :=
  ∃ state connected, ⟨.snapshot, state⟩ ∈ seen ∧
    (Supplied seen → tree = identityTree json state connected)

def Objected (json : Library Tree) (seen : Calls Tree) (tree : Tree) : Prop :=
  ∃ requested validation,
    ⟨.save requested, .error (.invalidArg validation)⟩ ∈ seen ∧
      (Supplied seen → tree = json.addAll json.createObject
        (errorItems (typxBleIdentityValidationCode validation)
          (validationField validation)))

def Due (json : Library Tree) (seen : Calls Tree) :
    Interaction.Event (handlerCalls Tree) → Prop
  | ⟨.send status body, _⟩ => (status = "200 OK" → Shown json seen body) ∧
      (status = "422 Unprocessable Entity" → Objected json seen body)
  | ⟨.save requested, _⟩ => ⟨.jobLocked, false⟩ ∈ seen ∧ ∃ body root,
      ⟨.parse body, some root⟩ ∈ seen ∧ parseConfig json root = some requested
  | ⟨.reset, _⟩ => ⟨.jobLocked, false⟩ ∈ seen
  | ⟨.batteryReset, _⟩ => ⟨.jobLocked, false⟩ ∈ seen
  | ⟨.notifyRebootTask, _⟩ => ∃ state, RestartCalls json state seen
  | _ => True

def LetGo (json : Library Tree) (calls : Calls Tree) : Prop :=
  ∃ state before, RestartCalls json state before ∧
    calls = before ++ [⟨.notifyRebootTask, ()⟩]

structure Abandoned (calls : Calls Tree) : Prop where
  deleted : ⟨.deleteRebootTask, ()⟩ ∈ calls
  unnotified : ⟨.notifyRebootTask, ()⟩ ∉ calls

def Settled (json : Library Tree) (calls : Calls Tree) : Prop :=
  ⟨.createRebootTask, true⟩ ∈ calls → LetGo json calls ∨ Abandoned calls

abbrev Follows {α : Type} (json : Library Tree) (program : Handling Tree α)
    (seen : Calls Tree) (post : α → Calls Tree → Prop) : Prop :=
  Program.Obeys (recording (Due json)) program seen post

def remarkless (status : String) : Bool :=
  status != "200 OK" && status != "422 Unprocessable Entity"

def plain : HandlerCall Tree → Bool
  | .send status _ => remarkless status
  | .save _ => false
  | .reset => false
  | .batteryReset => false
  | .createRebootTask => false
  | .notifyRebootTask => false
  | .deleteRebootTask => false
  | _ => true

theorem due_of_plain {request : HandlerCall Tree}
    (easy : plain request = true) (seen : Calls Tree)
    (answer : HandlerCall.Answer request) :
    Due json seen ⟨request, answer⟩ := by
  cases request with
  | send status body =>
      constructor
      · intro same
        rw [same] at easy
        cases easy
      · intro same
        rw [same] at easy
        cases easy
  | save requested => cases easy
  | reset => cases easy
  | batteryReset => cases easy
  | notifyRebootTask => cases easy
  | _ => exact trivial

abbrev OnlyPlain {α : Type} (program : Handling Tree α) : Prop :=
  Program.OnlyCalls (fun request => plain request = true) program

def Plainly (seen final : Calls Tree) : Prop :=
  ∃ more, final = seen ++ more ∧ ∀ event ∈ more, plain event.call = true

section Programs

variable {α : Type} {seen final : Calls Tree}

theorem plain_follows {program : Handling Tree α} (only : OnlyPlain program)
    (seen : Calls Tree) : Follows json program seen fun _ => Plainly seen :=
  recording_onlyCalls only
    (fun seen _ answer easy => due_of_plain easy seen answer) seen

theorem Plainly.mem (plainly : Plainly seen final)
    {event : Interaction.Event (handlerCalls Tree)}
    (earlier : event ∈ seen) : event ∈ final := by
  rcases plainly with ⟨more, same, _⟩
  rw [same]
  exact List.mem_append_left _ earlier

theorem Plainly.not_mem (plainly : Plainly seen final)
    {event : Interaction.Event (handlerCalls Tree)} (absent : event ∉ seen)
    (special : plain event.call = false) : event ∉ final := by
  rcases plainly with ⟨more, same, within⟩
  rw [same]
  intro member
  rcases List.mem_append.mp member with earlier | later
  · exact absent earlier
  · rw [within event later] at special
    cases special

/-! ## Members -/

theorem addItems_plain (object : Tree) (items : List (String × Item Tree)) :
    OnlyPlain (addItems json object items) := by
  induction items generalizing object with
  | nil => exact trivial
  | cons item items induction =>
      refine ⟨rfl, ?_⟩
      intro supplied
      cases supplied with
      | false => exact induction object
      | true => exact induction _

theorem addItems_follows (object : Tree) (items : List (String × Item Tree))
    (seen : Calls Tree) :
    Follows json (addItems json object items) seen fun tree final =>
      ∃ calls, Adds json object items calls tree ∧ final = seen ++ calls := by
  induction items generalizing object seen with
  | nil => exact ⟨[], .done object, (List.append_nil seen).symm⟩
  | cons item items induction =>
      intro supplied
      refine ⟨_, ⟨trivial, rfl⟩, ?_⟩
      cases supplied with
      | false =>
          apply (induction object _).mono
          intro tree final ends
          rcases ends with ⟨calls, adds, same⟩
          refine ⟨_, .omitted adds, ?_⟩
          rw [same, List.append_assoc, List.singleton_append]
      | true =>
          apply (induction _ _).mono
          intro tree final ends
          rcases ends with ⟨calls, adds, same⟩
          refine ⟨_, .added adds, ?_⟩
          rw [same, List.append_assoc, List.singleton_append]

theorem Supplied.earlier (supplied : Supplied final)
    (earlier : seen <+: final) : Supplied seen :=
  fun name member => supplied name (earlier.mem member)

section Adds

variable {object tree : Tree} {items : List (String × Item Tree)}
  {calls : Calls Tree} (adds : Adds json object items calls tree)

include adds

theorem Adds.complete (supplied : Supplied calls) :
    tree = json.addAll object items := by
  induction adds with
  | done => rfl
  | added _ induction =>
      exact induction fun name member => supplied name (.tail _ member)
  | omitted _ _ => exact absurd (List.mem_cons_self) (supplied _)

theorem Adds.call_eq : ∀ event ∈ calls, ∃ name, event.call = .add name := by
  induction adds with
  | done => simp
  | added _ induction =>
      exact List.forall_mem_cons.mpr ⟨⟨_, rfl⟩, induction⟩
  | omitted _ induction =>
      exact List.forall_mem_cons.mpr ⟨⟨_, rfl⟩, induction⟩

end Adds

theorem sendError_plain {status code : String} {field : Option String}
    (other : remarkless status = true) :
    OnlyPlain (sendError json status code field) := by
  refine ⟨rfl, ?_⟩
  intro created
  cases created with
  | false => exact trivial
  | true =>
      apply (addItems_plain _ _).bind
      exact fun root => ⟨other, fun _ => trivial⟩

def Untasked (calls : Calls Tree) : Prop :=
  ⟨.createRebootTask, true⟩ ∉ calls

theorem Untasked.settled {calls : Calls Tree} (untasked : Untasked calls) :
    Settled json calls :=
  fun created => absurd created untasked

theorem Untasked.plainly (untasked : Untasked seen)
    (plainly : Plainly seen final) : Untasked final :=
  plainly.not_mem untasked rfl

theorem refuses {status code : String} {field : Option String}
    (other : remarkless status = true) (untasked : Untasked seen) :
    Follows json (sendError json status code field) seen fun _ => Untasked := by
  apply (plain_follows (sendError_plain other) seen).mono
  intro value final plainly
  exact untasked.plainly plainly

theorem Untasked.concat (untasked : Untasked seen)
    {event : Interaction.Event (handlerCalls Tree)}
    (other : event ≠ ⟨.createRebootTask, true⟩) :
    Untasked (seen ++ [event]) := by
  intro member
  rcases List.mem_append.mp member with earlier | last
  · exact untasked earlier
  · exact other (List.mem_singleton.mp last).symm

theorem ask_follows {request : HandlerCall Tree}
    {next : HandlerCall.Answer request → Handling Tree α}
    {post : α → Calls Tree → Prop} (untasked : Untasked seen)
    (due : ∀ answer, Due json seen ⟨request, answer⟩)
    (other : request ≠ .createRebootTask)
    (rest : ∀ answer, Untasked (seen ++ [⟨request, answer⟩]) →
      Follows json (next answer) (seen ++ [⟨request, answer⟩]) post) :
    Follows json (.ask request next) seen post := by
  intro answer
  refine ⟨_, ⟨due answer, rfl⟩, ?_⟩
  apply rest
  apply untasked.concat
  intro same
  exact other (congrArg Event.call same)

theorem plain_ask_follows {request : HandlerCall Tree}
    {next : HandlerCall.Answer request → Handling Tree α}
    {post : α → Calls Tree → Prop} (untasked : Untasked seen)
    (easy : plain request = true)
    (rest : ∀ answer, Untasked (seen ++ [⟨request, answer⟩]) →
      Follows json (next answer) (seen ++ [⟨request, answer⟩]) post) :
    Follows json (.ask request next) seen post := by
  refine ask_follows untasked (due_of_plain easy seen) ?_ rest
  intro same
  rw [same] at easy
  cases easy

structure Built (json : Library Tree) (seen : Calls Tree) (object : Tree)
    (items : List (String × Item Tree)) (tree : Tree) (final : Calls Tree) :
    Prop where
  earlier : seen <+: final
  untasked : Untasked final
  complete : Supplied final → tree = json.addAll object items

theorem addItems_builds (untasked : Untasked seen) (object : Tree)
    (items : List (String × Item Tree)) :
    Follows json (addItems json object items) seen
      (Built json seen object items) := by
  apply (addItems_follows object items seen).mono
  intro tree final ends
  rcases ends with ⟨calls, adds, same⟩
  rw [same]
  constructor
  · exact List.prefix_append seen calls
  · intro member
    rcases List.mem_append.mp member with earlier | later
    · exact untasked earlier
    · rcases adds.call_eq _ later with ⟨name, add⟩
      cases add
  · intro supplied
    apply adds.complete
    exact fun name member => supplied name (List.mem_append_right seen member)

/-! ## The identity -/

theorem buildIdentity_follows (untasked : Untasked seen) :
    Follows json (buildIdentity json) seen fun tree final =>
      Untasked final ∧ Shown json final tree := by
  refine plain_ask_follows untasked rfl ?_
  intro state untasked
  have looked : ⟨.snapshot, state⟩ ∈
      seen ++ [(⟨.snapshot, state⟩ :
        Interaction.Event (handlerCalls Tree))] := by simp
  apply (addItems_builds untasked _ _).bind
  intro texts first built
  apply (addItems_builds built.untasked _ _).bind
  intro battery second levels
  apply (addItems_builds levels.untasked _ _).bind
  intro root third joined
  refine plain_ask_follows joined.untasked rfl ?_
  intro connected untasked
  apply (addItems_builds untasked _ _).bind
  intro whole fourth status
  apply (addItems_builds status.untasked _ _).bind
  intro source fifth origins
  apply (addItems_builds origins.untasked _ _).mono
  intro tree final last
  have untilThird := (List.prefix_append third _).trans
    (status.earlier.trans (origins.earlier.trans last.earlier))
  have untilFirst := levels.earlier.trans (joined.earlier.trans untilThird)
  refine ⟨last.untasked, state, connected,
    untilFirst.mem (built.earlier.mem looked), ?_⟩
  intro supplied
  have fifthSupplied := supplied.earlier last.earlier
  have fourthSupplied := fifthSupplied.earlier origins.earlier
  have thirdSupplied := supplied.earlier untilThird
  have secondSupplied := thirdSupplied.earlier joined.earlier
  have firstSupplied := secondSupplied.earlier levels.earlier
  rw [last.complete supplied, origins.complete fifthSupplied,
    status.complete fourthSupplied, joined.complete thirdSupplied,
    levels.complete secondSupplied, built.complete firstSupplied]
  rfl

theorem identityJson_follows (untasked : Untasked seen) :
    Follows json (identityJson json) seen fun body final => Untasked final ∧
      ∀ tree, body = some tree → Shown json final tree := by
  refine plain_ask_follows untasked rfl ?_
  intro root untasked
  refine plain_ask_follows untasked rfl ?_
  intro battery untasked
  refine plain_ask_follows untasked rfl ?_
  intro source untasked
  change Program.Obeys _ (if (root && battery && source) = true then _ else _)
    _ _
  split
  · apply (buildIdentity_follows untasked).bind
    intro identity final facts
    refine ⟨facts.1, ?_⟩
    intro tree same
    rw [← Option.some.inj same]
    exact facts.2
  · exact ⟨untasked, by simp⟩

theorem sendIdentity_follows (untasked : Untasked seen) :
    Follows json (sendIdentity json) seen fun _ => Untasked := by
  apply (identityJson_follows untasked).bind
  intro body seen facts
  rcases facts with ⟨untasked, shown⟩
  cases body with
  | none => exact untasked
  | some tree =>
      refine ask_follows untasked ?_ nofun fun _ untasked => untasked
      intro answer
      constructor
      · exact fun _ => shown tree rfl
      · exact fun same => absurd same (by decide)

/-! ## Requests for it -/

theorem receive_plain (fuel missing : Nat) :
    OnlyPlain (receive fuel missing : Handling Tree _) := by
  induction fuel generalizing missing with
  | zero => exact trivial
  | succ fuel induction =>
      rw [receive]
      split
      · exact trivial
      refine ⟨rfl, ?_⟩
      intro answer
      rcases answer with none | bytes
      · exact trivial
      cases bytes with
      | nil => exact trivial
      | cons first rest =>
          apply (induction _).bind
          exact fun _ => trivial

theorem readJson_follows (contentLength : Nat) (untasked : Untasked seen) :
    Follows json (readJson contentLength) seen fun root final =>
      Untasked final ∧
      ∀ tree, root = some tree → ∃ body, ⟨.parse body, some tree⟩ ∈ final := by
  unfold readJson
  split
  · exact ⟨untasked, by simp⟩
  apply (plain_follows (receive_plain _ _) seen).bind
  intro body middle plainly
  have untasked := untasked.plainly plainly
  cases body with
  | none => exact ⟨untasked, by simp⟩
  | some body =>
      refine plain_ask_follows untasked rfl ?_
      intro root untasked
      refine ⟨untasked, ?_⟩
      intro tree same
      rw [same]
      exact ⟨body, by simp⟩

theorem objects {requested : Config} {validation : Validation}
    (untasked : Untasked seen)
    (saved : ⟨.save requested, .error (.invalidArg validation)⟩ ∈ seen) :
    Follows json (sendError json "422 Unprocessable Entity"
      (typxBleIdentityValidationCode validation)
      (validationField validation)) seen fun _ => Untasked := by
  refine plain_ask_follows untasked rfl ?_
  intro created untasked
  cases created with
  | false => exact untasked
  | true =>
      apply (addItems_builds untasked _ _).bind
      intro root middle built
      refine ask_follows built.untasked ?_ nofun fun _ untasked => untasked
      intro answer
      constructor
      · exact fun same => absurd same (by decide)
      · intro _
        exact ⟨requested, validation,
          built.earlier.mem (List.mem_append_left _ saved), built.complete⟩

theorem saveRequested_follows {requested : Config} (untasked : Untasked seen)
    (due : ∀ result, Due json seen ⟨.save requested, result⟩) :
    Follows json (saveRequested json requested) seen fun _ => Untasked := by
  refine ask_follows untasked due nofun ?_
  intro result untasked
  cases result with
  | ok _ => exact sendIdentity_follows untasked
  | error error =>
      cases error with
      | invalidArg validation =>
          apply objects untasked
          exact List.mem_append_right seen (List.mem_singleton_self _)
      | _ => exact refuses rfl untasked

theorem deleteRequest_follows (root : Option Tree) (seen : Calls Tree) :
    Follows json (deleteRequest root) seen fun _ => Plainly seen := by
  apply plain_follows
  unfold deleteRequest
  split
  · exact ⟨rfl, fun _ => trivial⟩
  · exact trivial

theorem copyRequest_follows {root : Option Tree} (untasked : Untasked seen)
    (unlocked : ⟨.jobLocked, false⟩ ∈ seen)
    (parsed : ∀ tree, root = some tree →
      ∃ body, ⟨.parse body, some tree⟩ ∈ seen) :
    Follows json (copyRequest json root) seen fun _ => Untasked := by
  unfold copyRequest
  split
  · apply (deleteRequest_follows root seen).bind
    intro _ middle plainly
    exact refuses rfl (untasked.plainly plainly)
  · rename_i requested copied
    rcases Option.bind_eq_some_iff.mp copied with ⟨tree, some, accepted⟩
    rcases parsed tree some with ⟨body, parsed⟩
    apply (deleteRequest_follows root seen).bind
    intro _ middle plainly
    apply saveRequested_follows (untasked.plainly plainly)
    intro result
    exact ⟨plainly.mem unlocked, body, tree, plainly.mem parsed, accepted⟩

theorem putHandler_follows (contentLength : Nat) (untasked : Untasked seen) :
    Follows json (putHandler json contentLength) seen fun _ => Untasked := by
  apply (readJson_follows contentLength untasked).bind
  intro root middle facts
  rcases facts with ⟨untasked, parsed⟩
  refine plain_ask_follows untasked rfl ?_
  intro locked untasked
  cases locked with
  | true => exact refuses rfl untasked
  | false =>
      apply copyRequest_follows untasked (by simp)
      intro tree some
      rcases parsed tree some with ⟨body, parsed⟩
      exact ⟨body, List.mem_append_left _ parsed⟩

theorem resetHandler_follows (untasked : Untasked seen) :
    Follows json (resetHandler json) seen fun _ => Untasked := by
  refine plain_ask_follows untasked rfl ?_
  intro locked untasked
  cases locked with
  | true => exact refuses rfl untasked
  | false =>
      refine ask_follows untasked (fun _ => ?_) nofun ?_
      · exact List.mem_append_right seen (List.mem_singleton_self _)
      intro result untasked
      cases result with
      | ok _ => exact sendIdentity_follows untasked
      | error error => exact refuses rfl untasked

theorem batteryResetHandler_follows (untasked : Untasked seen) :
    Follows json (batteryResetHandler json) seen fun _ => Untasked := by
  refine plain_ask_follows untasked rfl ?_
  intro locked untasked
  cases locked with
  | true => exact refuses rfl untasked
  | false =>
      refine ask_follows untasked (fun _ => ?_) nofun ?_
      · exact List.mem_append_right seen (List.mem_singleton_self _)
      intro result untasked
      cases result with
      | ok _ => exact sendIdentity_follows untasked
      | error error => exact refuses rfl untasked

/-! ## Requests for a restart -/

theorem delete_follows {next : Unit → Handling Tree α}
    {post : α → Calls Tree → Prop}
    (unnotified : ⟨.notifyRebootTask, ()⟩ ∉ seen)
    (rest : ∀ final, Abandoned final → Follows json (next ()) final post) :
    Follows json (.ask .deleteRebootTask next) seen post := by
  intro answer
  refine ⟨_, ⟨trivial, rfl⟩, rest _ ?_⟩
  constructor
  · simp
  · simpa using unnotified

theorem Abandoned.plainly (abandoned : Abandoned seen)
    (plainly : Plainly seen final) : Abandoned final :=
  ⟨plainly.mem abandoned.deleted, plainly.not_mem abandoned.unnotified rfl⟩

theorem refuseRestart_follows {code : String}
    (unnotified : ⟨.notifyRebootTask, ()⟩ ∉ seen) :
    Follows json (refuseRestart json code) seen fun _ => Settled json := by
  refine delete_follows unnotified ?_
  intro middle abandoned
  apply (plain_follows (sendError_plain rfl) middle).mono
  intro value final plainly _
  exact .inr (abandoned.plainly plainly)

theorem sendRestart_follows (state : BleIdentity.State)
    (reached : seen ++ [⟨.createObject, true⟩] = restartStart state)
    (unnotified : ⟨.notifyRebootTask, ()⟩ ∉ seen) :
    Follows json (sendRestart json (typxBleIdentityRestartClearsBonds state))
      seen fun error final => ⟨.notifyRebootTask, ()⟩ ∉ final ∧
        (error = .ok () → RestartCalls json state final) := by
  intro created
  refine ⟨_, ⟨trivial, rfl⟩, ?_⟩
  cases created with
  | false => exact ⟨by simpa using unnotified, nofun⟩
  | true =>
      have start : ⟨.notifyRebootTask, ()⟩ ∉
          (restartStart state : Calls Tree) := by
        rw [← reached]
        simpa using unnotified
      rw [reached]
      apply (addItems_follows _ _ _).bind
      intro root middle ends
      rcases ends with ⟨calls, adds, same⟩
      intro error
      refine ⟨_, ⟨by simp [Due], rfl⟩, ?_, ?_⟩
      · rw [same]
        simp only [List.mem_append, List.mem_singleton, not_or]
        refine ⟨⟨start, ?_⟩, nofun⟩
        intro member
        rcases adds.call_eq _ member with ⟨name, add⟩
        cases add
      · intro sent
        rw [show error = .ok () from sent, same]
        exact ⟨calls, root, adds, rfl⟩

theorem acceptRestart_follows (state : BleIdentity.State)
    (reached : seen ++ [⟨.createObject, true⟩] = restartStart state)
    (unnotified : ⟨.notifyRebootTask, ()⟩ ∉ seen) :
    Follows json
      (acceptRestart json (typxBleIdentityRestartClearsBonds state)) seen
      fun _ => Settled json := by
  apply (sendRestart_follows state reached unnotified).bind
  intro error middle ends
  rcases ends with ⟨unnotified, complete⟩
  cases error with
  | error error =>
      refine delete_follows unnotified ?_
      exact fun final abandoned _ => .inr abandoned
  | ok sent =>
      intro answer
      refine ⟨_, ⟨⟨state, complete rfl⟩, rfl⟩, ?_⟩
      exact fun _ => .inl ⟨state, middle, complete rfl, rfl⟩

theorem clearAndRestart_follows (state : BleIdentity.State) :
    Follows json
      (clearAndRestart json (typxBleIdentityRestartClearsBonds state))
      [⟨.jobLocked, false⟩, ⟨.hidIdle, true⟩, ⟨.snapshot, state⟩,
        ⟨.createRebootTask, true⟩, ⟨.prepareReboot, true⟩]
      fun _ => Settled json := by
  unfold clearAndRestart
  split
  · rename_i clears
    intro cleared
    refine ⟨_, ⟨trivial, rfl⟩, ?_⟩
    cases cleared with
    | false => exact refuseRestart_follows (by simp)
    | true =>
        apply acceptRestart_follows state
        · simp [restartStart, clears]
        · simp
  · rename_i kept
    apply acceptRestart_follows state
    · simp [restartStart, kept]
    · simp

theorem restartHandler_follows :
    Follows json (restartHandler json) [] fun _ => Settled json := by
  have untasked : Untasked ([] : Calls Tree) := List.not_mem_nil
  refine plain_ask_follows untasked rfl ?_
  intro locked untasked
  cases locked with
  | true => exact (refuses rfl untasked).mono fun _ _ => Untasked.settled
  | false =>
  refine plain_ask_follows untasked rfl ?_
  intro idle untasked
  cases idle with
  | false => exact (refuses rfl untasked).mono fun _ _ => Untasked.settled
  | true =>
  refine plain_ask_follows untasked rfl ?_
  intro state untasked created
  refine ⟨_, ⟨trivial, rfl⟩, ?_⟩
  cases created with
  | false =>
      have still : Untasked (_ ++ [⟨.createRebootTask, false⟩]) :=
        untasked.concat nofun
      exact (refuses rfl still).mono fun _ _ => Untasked.settled
  | true =>
  intro released
  refine ⟨_, ⟨trivial, rfl⟩, ?_⟩
  cases released with
  | false => exact refuseRestart_follows (by simp)
  | true => exact clearAndRestart_follows state

end Programs

end Typxen.IdentityHttp
