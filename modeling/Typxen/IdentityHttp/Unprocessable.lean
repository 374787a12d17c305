import Typxen.IdentityHttp.Answered

/-! # Requests that the service does not accept

What `parse_config` has copied can only be wrong in ways that the client can be
told of by the name of a member of its request. -/

namespace Typxen.IdentityHttp

open BleIdentity CJson CString IdentityService Interaction Json Threads
  Transition

variable {Tree : Type} {json : Library Tree} {value : Tree → Value}

/-! ## What was copied -/

theorem copyString_found {root : Option Tree} {name : String} {capacity : Nat}
    {emptyAllowed : Bool} {array : Vector UInt8 capacity}
    (copied : copyString json root name capacity emptyAllowed = some array) :
    (json.getObjectItemCaseSensitive root name).isSome = true := by
  rcases Option.bind_eq_some_iff.mp copied with ⟨characters, text, _⟩
  cases found : json.getObjectItemCaseSensitive root name with
  | some item => rfl
  | none =>
      rw [found, Library.text] at text
      split at text
      · cases text
      · cases text

theorem copyInteger_found {root : Option Tree} {name : String}
    {minimum maximum number : Int}
    (copied : copyInteger json root name minimum maximum = some number) :
    (json.getObjectItemCaseSensitive root name).isSome = true ∧
      minimum ≤ number ∧ number ≤ maximum := by
  simp only [copyInteger, Option.bind_eq_bind, Option.bind_eq_some_iff]
    at copied
  rcases copied with ⟨_, _, item, found, copied⟩
  split at copied
  · cases copied
  · rename_i within
    cases copied
    simp only [Bool.or_eq_true, Bool.not_eq_true', decide_eq_true_eq, not_or,
      not_lt] at within
    rw [found]
    exact ⟨rfl, within.1.2, within.2⟩

def Names (root : Value) (name : String) : Prop :=
  (root.member name).isSome = true ∨
    ((root.member "battery").bind (·.member name)).isSome = true

theorem member_isSome (documented : Documented json value)
    {item : Option Tree} {name : String}
    (found : (json.getObjectItemCaseSensitive item name).isSome = true) :
    ((item.map value).bind (·.member name)).isSome = true := by
  rw [← documented.lookup, Option.isSome_map]
  exact found

structure Copied (root : Value) (requested : Config) : Prop where
  texts : ∀ name ∈ ["deviceName", "manufacturerName", "modelNumber",
    "serialNumber", "hardwareRevision", "softwareRevision"], Names root name
  battery : Names root "battery"
  current : Names root "currentPercent"
  interval : requested.batteryDropActiveMinutes ≠ 0 ∧
    requested.batteryDropActiveMinutes ≤ 1440

theorem parseConfig_copied (documented : Documented json value) {root : Tree}
    {requested : Config} (copied : parseConfig json root = some requested) :
    Copied (value root) requested := by
  simp only [parseConfig, Option.bind_eq_bind, Option.bind_eq_some_iff]
    at copied
  rcases copied with ⟨_, _, _, deviceName, _, manufacturerName, _, modelNumber,
    _, serialNumber, _, hardwareRevision, _, softwareRevision, _, battery, _,
    _, _, _, _, current, interval, minutes, same⟩
  have limits := copyInteger_found minutes
  constructor
  · intro name member
    left
    simp only [List.mem_cons, List.not_mem_nil, or_false] at member
    rcases member with same | same | same | same | same | same
    · rw [same]
      exact member_isSome documented (copyString_found deviceName)
    · rw [same]
      exact member_isSome documented (copyString_found manufacturerName)
    · rw [same]
      exact member_isSome documented (copyString_found modelNumber)
    · rw [same]
      exact member_isSome documented (copyString_found serialNumber)
    · rw [same]
      exact member_isSome documented (copyString_found hardwareRevision)
    · rw [same]
      exact member_isSome documented (copyString_found softwareRevision)
  · left
    have found : (json.getObjectItemCaseSensitive (some root)
        "battery").isSome = true := by
      cases item : json.getObjectItemCaseSensitive (some root) "battery" with
      | some tree => rfl
      | none =>
          rw [item, documented.isObject] at battery
          cases battery
    exact member_isSome documented found
  · right
    have found := member_isSome documented (copyInteger_found current).1
    rw [documented.lookup] at found
    exact found
  · cases same
    have whole : interval.toNat.toUInt16.toNat = interval.toNat :=
      UInt16.toNat_ofNat_of_lt' (by change interval.toNat < 65536; omega)
    constructor
    · intro zero
      have none := congrArg UInt16.toNat zero
      rw [whole] at none
      change interval.toNat = 0 at none
      omega
    · rw [UInt16.le_iff_toNat_le, whole]
      change interval.toNat ≤ 1440
      omega

/-! ## What can be wrong -/

theorem validate_interval {config : Config} (serialMayBeEmpty : Bool)
    (interval : config.batteryDropActiveMinutes ≠ 0 ∧
      config.batteryDropActiveMinutes ≤ 1440) :
    typxBleIdentityValidate config serialMayBeEmpty ≠
      .invalidBatteryInterval := by
  intro same
  unfold typxBleIdentityValidate at same
  split_ifs at same with _ _ _ _ _ _ _ _ outside
  simp only [Bool.or_eq_true, decide_eq_true_eq, UInt16.lt_one_iff,
    gt_iff_lt] at outside
  rcases outside with zero | above
  · exact interval.1 zero
  · exact absurd interval.2 (UInt16.not_le.mpr above)

theorem prepareUpdate_error {state : BleIdentity.State} {requested : Config}
    {validation : Validation}
    (refused : typxBleIdentityPrepareUpdate state requested =
      .error validation) :
    validation = typxBleIdentityValidate requested true ∧
      validation ≠ .valid := by
  unfold typxBleIdentityPrepareUpdate at refused
  split at refused
  · rename_i invalid
    cases refused
    exact ⟨rfl, invalid⟩
  · cases refused

theorem validationField_names {root : Value} {requested : Config}
    (copied : Copied root requested) {validation : Validation}
    (invalid : validation ≠ .valid)
    (other : validation ≠ .invalidBatteryInterval) :
    ∃ field, validationField validation = some field ∧ Names root field := by
  cases validation with
  | valid => exact absurd rfl invalid
  | invalidBatteryInterval => exact absurd rfl other
  | invalidBatteryRange => exact ⟨_, rfl, copied.battery⟩
  | invalidBatteryCurrent => exact ⟨_, rfl, copied.current⟩
  | _ => exact ⟨_, rfl, copied.texts _ (by simp)⟩

def errorValue (code field : String) : Value :=
  .object [
    (ascii "ok", .bool false),
    (ascii "error", .string (ascii code)),
    (ascii "field", .string (ascii field))]

theorem errorItems_value (documented : Documented json value)
    (code field : String) :
    value (json.addAll json.createObject (errorItems code (some field))) =
      errorValue code field :=
  documented.addAll _ documented.createObject

section Runs

variable {service : Service}
  {labels : List (Label (handlerCalls Tree) HttpRole)}
  {after : Threads.State (handlerCalls Tree) HttpRole Service}

end Runs

/-! A new board is asked for a level above its maximum. -/

def overfullConfig : Config :=
  { reread newService.state.config with batteryCurrentPercent := 95 }

def overfullRoot : Value :=
  resubmission { newService.state with config := overfullConfig } true

theorem overfullRoot_copied :
    parseConfig ofValues overfullRoot = some overfullConfig := by
  decide +kernel

theorem overfullRoot_request :
    copyRequest ofValues (some overfullRoot) = (do
      deleteRequest (some overfullRoot)
      saveRequested ofValues overfullConfig) := by
  rw [copyRequest, Option.bind_some, overfullRoot_copied]

theorem overfullConfig_refused :
    typxBleIdentityPrepareUpdate newService.state overfullConfig =
      .error .invalidBatteryCurrent := by
  decide +kernel

theorem overfullConfig_save :
    (Operation.save overfullConfig).perform noFaults newService =
      some (.error (.invalidArg .invalidBatteryCurrent), newService) := by
  rw [Operation.perform, typxIdentityServiceSave, overfullConfig_refused]

def overfullBody : Calls Value :=
  [⟨.recv 1, some [0x7b]⟩, ⟨.parse [0x7b], some overfullRoot⟩]

def overfullItems : List (String × Item Value) :=
  errorItems "INVALID_BATTERY_CURRENT" (some "currentPercent")

def overfullSave : Calls Value :=
  [⟨.deleteRequest, ()⟩,
    ⟨.save overfullConfig, .error (.invalidArg .invalidBatteryCurrent)⟩,
    ⟨.createObject, true⟩] ++ addCalls overfullItems

def overfullTrace : Calls Value :=
  overfullBody ++ ⟨.jobLocked, false⟩ :: overfullSave

def overfullAnswer : Interaction.Event (handlerCalls Value) :=
  ⟨.send "422 Unprocessable Entity"
    (ofValues.addAll ofValues.createObject overfullItems), .ok ()⟩

def overfullLabels : List (Label (handlerCalls Value) HttpRole) :=
  .begin 0 .server :: overfullTrace.map (.call 0 .server)

theorem overfullTrace_exec :
    Program.Exec handlerEnvironment (putHandler ofValues 1) newService
      (overfullTrace ++ [overfullAnswer]) (.ok ()) newService := by
  have read : Program.Exec handlerEnvironment (readJson 1) newService
      overfullBody (some overfullRoot) newService := by
    have short : ∀ bytes, some [(0x7b : UInt8)] = some bytes →
        bytes.length ≤ 1 := by
      intro bytes same
      cases same
      exact Nat.le_refl 1
    exact .ask ⟨short, rfl⟩ (.ask rfl .done)
  have answered : Program.Exec handlerEnvironment
      (sendError ofValues "422 Unprocessable Entity" "INVALID_BATTERY_CURRENT"
        (some "currentPercent")) newService
      (⟨.createObject, true⟩ :: (addCalls overfullItems ++ [overfullAnswer]))
      (.ok ()) newService :=
    .ask rfl ((addItems_exec _ _ _).bind (.ask rfl .done))
  have copied : Program.Exec handlerEnvironment
      (copyRequest ofValues (some overfullRoot)) newService
      (overfullSave ++ [overfullAnswer]) (.ok ()) newService := by
    rw [overfullRoot_request]
    exact .ask rfl (.ask ⟨noFaults, overfullConfig_save⟩ answered)
  exact read.bind (.ask rfl copied)

theorem overfullLabels_run :
    Run (Step (identityDesign ofValues)) (quiet newService)
      (overfullLabels ++ .call 0 .server overfullAnswer ::
        [.finish 0 .server]) (quiet newService) := by
  have execution : Program.Exec (identityDesign ofValues).environment
      ((Request.put 1).serve ofValues) newService
      (overfullTrace ++ [overfullAnswer] ++ []) () newService :=
    overfullTrace_exec.bind .done
  have begins : (identityDesign ofValues).begins (fun _ => none) .server
      ((Request.put 1).serve ofValues) := by
    constructor
    · intro server slot process there
      cases there
    · exact .server (.put 1)
  have alone := Exec.run_alone execution 0 .server begins fun _ _ => rfl
  exact alone.mono (fun _ => True) (fun _ _ _ _ alone => alone.taken)
    fun _ _ => trivial

end Typxen.IdentityHttp
