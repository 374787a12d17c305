import Typxen.IdentityHttp.Handlers

/-! # Requests beside each other

Whatever runs beside a request, its handler answers with an identity that the
service had meanwhile, changes the service only while no job holds the board,
and lets the board reboot only after everything that goes before. -/

namespace Typxen.IdentityHttp

open BleIdentity CJson IdentityService Interaction Json Threads Transition

variable {Tree : Type} {json : Library Tree}

/-! ## Runs -/

theorem identityDesign_supervised (json : Library Tree) :
    Supervised (identityDesign json) (recording (Due json)) []
      (Settled json) where
  begun := by
    intro processes role program begins
    have untasked : Untasked ([] : Calls Tree) := List.not_mem_nil
    cases begins.2 with
    | server request =>
        have handled : Follows json (request.handler json) []
            fun _ => Settled json := by
          cases request with
          | get =>
              exact (sendIdentity_follows untasked).mono
                fun _ _ => Untasked.settled
          | put contentLength =>
              exact (putHandler_follows contentLength untasked).mono
                fun _ _ => Untasked.settled
          | reset =>
              exact (resetHandler_follows untasked).mono
                fun _ _ => Untasked.settled
          | batteryReset =>
              exact (batteryResetHandler_follows untasked).mono
                fun _ _ => Untasked.settled
          | restart => exact restartHandler_follows
        exact handled.bind fun _ _ settled => settled
    | device operation =>
        refine plain_ask_follows untasked rfl ?_
        exact fun _ untasked => untasked.settled
  created := by
    intro event role program creates
    cases creates

/-! ## The service meanwhile -/

structure Sane (chipIdentity : Vector UInt8 6) (service : Service) : Prop where
  chip : service.chipIdentity = chipIdentity
  sound : Sound chipIdentity service.state

section Service

variable {chipIdentity : Vector UInt8 6} {before after : Service}

theorem perform_sound {operation : Operation} {faults : Faults}
    {result : Except IdentityError Unit}
    (performed : operation.perform faults before = some (result, after))
    (sound : Sound before.chipIdentity before.state) :
    after.chipIdentity = before.chipIdentity ∧
      Sound before.chipIdentity after.state := by
  cases operation with
  | save requested =>
      have saved := Option.some.inj performed
      rcases save_cases faults requested before with
        ⟨validation, _, same⟩ | ⟨effective, required, prepared, outcome⟩
      · cases same.symm.trans saved
        exact ⟨rfl, sound⟩
      rcases outcome with ⟨code, _, same⟩ | ⟨_, same⟩
      · cases same.symm.trans saved
        exact ⟨rfl, sound⟩
      · cases same.symm.trans saved
        exact ⟨rfl, sound.board, (prepareUpdate_ok prepared).valid sound.board⟩
  | reset =>
      have resets := Option.some.inj performed
      rcases reset_cases faults before with ⟨code, _, same⟩ | ⟨_, same⟩
      · cases same.symm.trans resets
        exact ⟨rfl, sound⟩
      · cases same.symm.trans resets
        rw [resetDefaults_eq]
        exact ⟨rfl, rfl, defaults_valid before.chipIdentity none⟩
  | batteryReset hidFailure =>
      have ends := batteryReset_after faults hidFailure before
      rw [Option.some.inj performed] at ends
      rw [show after = _ from ends]
      exact ⟨rfl, (resetBattery_continues sound.valid).sound sound⟩
  | bindHid device hidFailure =>
      have ends := bindHid_after device hidFailure before
      rw [Option.some.inj performed] at ends
      rw [show after = _ from ends]
      exact ⟨rfl, sound⟩
  | recordSuccessfulReport nowMs executionActive =>
      rcases recordSuccessfulReport_returns sound.valid nowMs executionActive
        with ⟨⟨state, changed⟩, recorded⟩
      rcases recordSuccessfulReport_continues sound.valid recorded with
        ⟨level, continues, _⟩
      simp only [Operation.perform, typxIdentityServiceRecordSuccessfulReport,
        recorded] at performed
      cases changed with
      | false =>
          cases performed
          exact ⟨rfl, continues.sound sound⟩
      | true =>
          cases performed
          exact ⟨rfl, continues.sound sound⟩
  | endActivity =>
      cases performed
      exact ⟨rfl, (endActivity_continues sound.valid).sound sound⟩

end Service

theorem handlerEnvironment_sane {chipIdentity : Vector UInt8 6}
    {request : HandlerCall Tree} {before after : Service}
    {answer : HandlerCall.Answer request}
    (answered : handlerEnvironment request before answer after)
    (sane : Sane chipIdentity before) : Sane chipIdentity after := by
  have operates : ∀ {operation result},
      Operates operation before result after → Sane chipIdentity after := by
    intro operation result operates
    rcases operates with ⟨faults, performed⟩
    have sound := sane.sound
    rw [← sane.chip] at sound
    have kept := perform_sound performed sound
    refine ⟨kept.1.trans sane.chip, ?_⟩
    rw [← sane.chip]
    exact kept.2
  cases request with
  | save requested => exact operates answered
  | reset => exact operates answered
  | batteryReset =>
      rcases answered with ⟨hidFailure, answered⟩
      exact operates answered
  | device operation => exact operates answered
  | recv length =>
      rw [show after = before from answered.2]
      exact sane
  | snapshot =>
      rw [show after = before from answered.2]
      exact sane
  | _ =>
      rw [show after = before from answered]
      exact sane

section Runs

variable {service : Service} {chipIdentity : Vector UInt8 6}
  {description : Option (List UInt8)} {faults : Faults} {nvs : Nvs}
  {labels : List (Label (handlerCalls Tree) HttpRole)}
  {after : Threads.State (handlerCalls Tree) HttpRole Service}

theorem init_sane
    (boots : typxIdentityServiceInit chipIdentity description faults nvs =
      .ok service) : Sane chipIdentity service := by
  unfold typxIdentityServiceInit at boots
  split at boots
  · cases boots
  · cases boots
    exact ⟨rfl, load_sound chipIdentity _ _⟩

theorem run_sane {start : Service}
    (run : Run (Step (identityDesign json)) (quiet start) labels after)
    (sane : Sane chipIdentity start) : Sane chipIdentity after.shared := by
  refine run.invariant (fun state => Sane chipIdentity state.shared)
    (fun _ => True) ?_ (fun _ _ => trivial) sane
  intro before label after _ sane step
  cases step with
  | begin => exact sane
  | call here asks answered => exact handlerEnvironment_sane answered sane
  | create here asks answered => exact handlerEnvironment_sane answered sane
  | finish => exact sane

theorem identityTree_value {value : Tree → Value}
    (documented : Documented json value) (state : BleIdentity.State)
    (connected : Bool) :
    value (identityTree json state connected) =
      identityValue state connected := by
  have battery := documented.addAll (batteryItems state.config)
    documented.createObject
  have source := documented.addAll (sourceItems state) documented.createObject
  have first := documented.addAll (identityItems state) documented.createObject
  have second := documented.addAll [("battery", .tree
    (json.addAll json.createObject (batteryItems state.config)))] first
  have third := documented.addAll (statusItems state connected) second
  have fourth := documented.addAll [("source", .tree
    (json.addAll json.createObject (sourceItems state)))] third
  refine fourth.trans ?_
  simp only [membersOf, List.map_cons, List.map_nil, Item.value, battery,
    source]
  rfl

def addCalls (items : List (String × Item Tree)) : Calls Tree :=
  items.map fun item => ⟨.add item.1, true⟩

theorem addItems_runs {σ : Type}
    {environment : Environment (handlerCalls Tree) σ}
    (plain : ∀ name state, environment (.add name) state true state)
    (object : Tree) (items : List (String × Item Tree)) (state : σ) :
    Program.Exec environment (addItems json object items) state
      (addCalls items) (json.addAll object items) state := by
  induction items generalizing object with
  | nil => exact .done
  | cons item items induction => exact .ask (plain _ _) (induction _)

theorem addItems_exec (object : Tree) (items : List (String × Item Tree))
    (service : Service) :
    Program.Exec handlerEnvironment (addItems json object items) service
      (addCalls items) (json.addAll object items) service :=
  addItems_runs (fun _ _ => rfl) object items service

def isOmitted : Interaction.Event (handlerCalls Tree) → Bool
  | ⟨.add _, false⟩ => true
  | _ => false

theorem supplied_of_all {calls : Calls Tree}
    (all : calls.all (fun event => !isOmitted event) = true) :
    Supplied calls := by
  intro name member
  have present := List.all_eq_true.mp all _ member
  cases present

def newTrace : Calls Value :=
  [⟨.createObject, true⟩, ⟨.createObject, true⟩, ⟨.createObject, true⟩] ++
  (⟨.snapshot, newService.state⟩ ::
  (addCalls (identityItems newService.state) ++
  (addCalls (batteryItems newService.state.config) ++
  (addCalls [("battery", .bool true)] ++
  (⟨.bleConnected, true⟩ ::
  (addCalls (statusItems newService.state true) ++
  (addCalls (sourceItems newService.state) ++
  addCalls [("source", .bool true)])))))))

def newAnswer : Interaction.Event (handlerCalls Value) :=
  ⟨.send "200 OK" (identityTree ofValues newService.state true), .ok ()⟩

def newLabels : List (Label (handlerCalls Value) HttpRole) :=
  .begin 0 .server :: newTrace.map (.call 0 .server)

theorem buildIdentity_exec : Program.Exec handlerEnvironment
    (buildIdentity ofValues) newService (newTrace.drop 3)
    (identityTree ofValues newService.state true) newService :=
  .ask ⟨rfl, rfl⟩ ((addItems_exec _ _ _).bind ((addItems_exec _ _ _).bind
    ((addItems_exec _ [("battery", .tree _)] _).bind (.ask rfl
      ((addItems_exec _ _ _).bind ((addItems_exec _ _ _).bind
        (addItems_exec _ [("source", .tree _)] _)))))))

theorem newLabels_run :
    Run (Step (identityDesign ofValues)) (quiet newService)
      (newLabels ++ .call 0 .server newAnswer :: [.finish 0 .server])
      (quiet newService) := by
  have built : Program.Exec handlerEnvironment (identityJson ofValues)
      newService newTrace
      (some (identityTree ofValues newService.state true)) newService := by
    have ends : Program.Exec handlerEnvironment
        (buildIdentity ofValues >>= fun identity =>
          (return some identity : Handling Value (Option Value))) newService
        (newTrace.drop 3 ++ [])
        (some (identityTree ofValues newService.state true)) newService :=
      buildIdentity_exec.bind .done
    rw [List.append_nil] at ends
    exact .ask rfl (.ask rfl (.ask rfl ends))
  have execution : Program.Exec (identityDesign ofValues).environment
      (Request.get.serve ofValues) newService (newTrace ++ [newAnswer] ++ []) ()
      newService :=
    (built.bind (.ask rfl .done)).bind .done
  have begins : (identityDesign ofValues).begins (fun _ => none) .server
      (Request.get.serve ofValues) := by
    constructor
    · intro server slot process there
      cases there
    · exact .server .get
  have alone := Exec.run_alone execution 0 .server begins fun _ _ => rfl
  exact alone.mono (fun _ => True) (fun _ _ _ _ alone => alone.taken)
    fun _ _ => trivial

/-- The board is let go for a reboot only after everything that goes before,
and by a request that does not do so the waiting task is deleted. -/
theorem reboot_settled
    (run : Run (Step (identityDesign json)) (quiet service) labels after) :
    (∀ first slot role rest,
      labels = first ++ .call slot role ⟨.notifyRebootTask, ()⟩ :: rest →
      ∃ state, RestartCalls json state (own slot first)) ∧
    ∀ first slot role rest, labels = first ++ .finish slot role :: rest →
      ⟨.createRebootTask, true⟩ ∈ own slot first →
      LetGo json (own slot first) ∨ Abandoned (own slot first) := by
  have recorded := run_recorded (identityDesign_supervised json) run
  constructor
  · intro first slot role rest split
    exact recorded.1 _ _ _ _ _ split
  · exact recorded.2

def rebootTrace : Calls Value :=
  restartStart newService.state ++ (addCalls (restartItems false) ++
    [⟨.send "202 Accepted"
      (ofValues.addAll ofValues.createObject (restartItems false)), .ok ()⟩])

def rebootLabels : List (Label (handlerCalls Value) HttpRole) :=
  .begin 0 .server :: rebootTrace.map (.call 0 .server)

theorem rebootLabels_run :
    Run (Step (identityDesign ofValues)) (quiet newService)
      (rebootLabels ++ .call 0 .server ⟨.notifyRebootTask, ()⟩ ::
        [.finish 0 .server])
      (quiet newService) := by
  have clears : typxBleIdentityRestartClearsBonds newService.state = false := by
    decide +kernel
  have accepted : Program.Exec handlerEnvironment
      (sendRestart ofValues false) newService
      (⟨.createObject, true⟩ :: (addCalls (restartItems false) ++
        [⟨.send "202 Accepted" (ofValues.addAll ofValues.createObject
          (restartItems false)), .ok ()⟩])) (.ok ()) newService :=
    .ask rfl ((addItems_exec _ _ _).bind (.ask rfl .done))
  have restarts : Program.Exec handlerEnvironment (clearAndRestart ofValues
      (typxBleIdentityRestartClearsBonds newService.state)) newService
      (⟨.createObject, true⟩ :: (addCalls (restartItems false) ++
        [⟨.send "202 Accepted" (ofValues.addAll ofValues.createObject
          (restartItems false)), .ok ()⟩]) ++ [⟨.notifyRebootTask, ()⟩])
      (.ok ()) newService := by
    rw [clears]
    exact accepted.bind (.ask rfl .done)
  have handled : Program.Exec handlerEnvironment (restartHandler ofValues)
      newService (rebootTrace ++ [⟨.notifyRebootTask, ()⟩]) (.ok ())
      newService := by
    rw [rebootTrace, restartStart, clears]
    exact .ask rfl (.ask rfl (.ask ⟨rfl, rfl⟩ (.ask rfl (.ask rfl restarts))))
  have execution : Program.Exec (identityDesign ofValues).environment
      (Request.restart.serve ofValues) newService
      (rebootTrace ++ [⟨.notifyRebootTask, ()⟩] ++ []) () newService :=
    handled.bind .done
  have begins : (identityDesign ofValues).begins (fun _ => none) .server
      (Request.restart.serve ofValues) := by
    constructor
    · intro server slot process there
      cases there
    · exact .server .restart
  have alone := Exec.run_alone execution 0 .server begins fun _ _ => rfl
  exact alone.mono (fun _ => True) (fun _ _ _ _ alone => alone.taken)
    fun _ _ => trivial

theorem reboot_settled_new :
    ∃ state, RestartCalls ofValues state (own 0 rebootLabels) :=
  (reboot_settled rebootLabels_run).1 _ _ _ _ rfl

end Runs

end Typxen.IdentityHttp
