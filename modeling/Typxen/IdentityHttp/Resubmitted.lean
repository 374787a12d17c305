import Typxen.BleIdentity.Effective
import Typxen.IdentityHttp.IdentityHttp
import Typxen.IdentityService.RoundTrip

/-! # What was answered can be sent back

Without `firmwareRevision` every identity that is answered is a request for the
same configuration. -/

namespace Typxen.IdentityHttp

open BleIdentity CJson CString IdentityService Json

section Library

variable {Tree : Type} {json : Library Tree} {value : Tree → Value}
  (documented : Documented json value)

include documented

/-! ## Members -/

theorem copyInteger_member {root : Option Tree} {name : String} {number : Nat}
    {minimum maximum : Int}
    (found : (root.map value).bind (·.member name) =
      some (.number (.ofInt number)))
    (small : (number : Int) ≤ intMax)
    (within : minimum ≤ number ∧ number ≤ maximum) :
    copyInteger json root name minimum maximum = some (number : Int) := by
  rw [← documented.lookup] at found
  rcases Option.map_eq_some_iff.mp found with ⟨item, there, held⟩
  have kind : json.isNumber (some item) = true := by
    rw [documented.isNumber]
    exact Value.isNumber_iff.mpr ⟨_, held⟩
  have low : intMin ≤ (number : Int) := by
    unfold intMin
    omega
  have whole := documented.integral_ofInt held low small
  have same := documented.valueInt item number held low small
  rw [copyInteger, there]
  simp [kind, whole, same, within.1, within.2]

theorem copyString_member {root : Option Tree} {name : String} {capacity : Nat}
    {array : Vector UInt8 capacity} {emptyAllowed : Bool}
    (found : (root.map value).bind (·.member name) =
      some (.string (CString.string array.toList)))
    (valid : textValid array false) :
    copyString json root name capacity emptyAllowed =
      some (charArray capacity (CString.string array.toList)) := by
  have fits := textValid_length valid
  have nonempty := (textValid_stored valid).nonempty
  rw [← documented.lookup, ← documented.text_iff] at found
  rw [copyString, found]
  simp [fits, nonempty]

end Library

/-! ## The body of an identity -/

def textMember {capacity : Nat} (name : String)
    (array : Vector UInt8 capacity) : List UInt8 × Value :=
  (ascii name, .string (CString.string array.toList))

def numberMember (name : String) (number : Nat) : List UInt8 × Value :=
  (ascii name, .number (.ofInt number))

def sourceMember (name : String) (fromNvs : Bool) (otherwise : String) :
    List UInt8 × Value :=
  (ascii name, .string (ascii (if fromNvs then "nvs" else otherwise)))

def batteryMembers (config : Config) : Members := [
  (ascii "simulationEnabled", .bool config.batterySimulationEnabled),
  numberMember "minimumPercent" config.batteryMinimumPercent.toNat,
  numberMember "maximumPercent" config.batteryMaximumPercent.toNat,
  numberMember "currentPercent" config.batteryCurrentPercent.toNat,
  numberMember "dropActiveMinutes" config.batteryDropActiveMinutes.toNat]

/-- What an answer says in which nothing is missing. -/
def identityValue (state : State) (connected : Bool) : Value :=
  .object [
    (ascii "ok", .bool true),
    textMember "deviceName" state.config.deviceName,
    textMember "manufacturerName" state.config.manufacturerName,
    textMember "modelNumber" state.config.modelNumber,
    textMember "serialNumber" state.config.serialNumber,
    textMember "hardwareRevision" state.config.hardwareRevision,
    textMember "firmwareRevision" state.firmwareRevision,
    textMember "softwareRevision" state.config.softwareRevision,
    textMember "boardIdentifier" state.boardIdentifier,
    (ascii "battery", .object (batteryMembers state.config)),
    (ascii "bleConnected", .bool connected),
    (ascii "restartRequired", .bool state.restartRequired),
    (ascii "source", .object [
      sourceMember "deviceName" state.sourceDeviceNameNvs "default",
      sourceMember "manufacturerName" state.sourceManufacturerNvs "default",
      sourceMember "modelNumber" state.sourceModelNvs "default",
      sourceMember "serialNumber" state.sourceSerialNvs "generated"])]

def reread (config : Config) : Config :=
  { config with
    deviceName := charArray 30 (CString.string config.deviceName.toList)
    manufacturerName :=
      charArray 33 (CString.string config.manufacturerName.toList)
    modelNumber := charArray 33 (CString.string config.modelNumber.toList)
    serialNumber := charArray 33 (CString.string config.serialNumber.toList)
    hardwareRevision :=
      charArray 17 (CString.string config.hardwareRevision.toList)
    softwareRevision :=
      charArray 17 (CString.string config.softwareRevision.toList) }

theorem reread_same (config : Config) : SameConfig (reread config) config := by
  unfold reread
  constructor
  · unfold Config.texts
    simp only [string_copy]
  all_goals dsimp only

theorem textValid_true {capacity : Nat} {array : Vector UInt8 capacity}
    (valid : textValid array false) : textValid array true := by
  simp only [textValid, Bool.and_eq_true] at valid ⊢
  rcases valid with ⟨⟨⟨⟨fits, _⟩, head⟩, last⟩, printable⟩
  exact ⟨⟨⟨⟨fits, rfl⟩, head⟩, last⟩, printable⟩

theorem reread_reread (config : Config) :
    reread (reread config) = reread config := by
  unfold reread
  simp only [string_copy]

theorem reread_validConfig {config : Config}
    (valid : ValidConfig false config) :
    ValidConfig false (reread config) := by
  have same := reread_same config
  exact valid.congr ⟨same.texts.symm, same.enabled.symm, same.minimum.symm,
    same.maximum.symm, same.current.symm, same.interval.symm⟩

theorem reread_valid {config : Config} (valid : ValidConfig false config) :
    typxBleIdentityValidate (reread config) true = .valid := by
  have again := reread_validConfig valid
  apply (validate_eq_valid_iff _ _).mpr
  exact { again with serialNumber := textValid_true again.serialNumber }

def resubmission (state : State) (connected : Bool) : Value :=
  (identityValue state connected).without "firmwareRevision"

theorem identityValue_revision (state : State) (connected : Bool) :
    (identityValue state connected).hasAlike "firmwareRevision" = true := by
  refine List.any_eq_true.mpr
    ⟨textMember "firmwareRevision" state.firmwareRevision, ?_, rfl⟩
  simp only [List.mem_cons, true_or, or_true]

theorem resubmission_revision (state : State) (connected : Bool) :
    (resubmission state connected).hasAlike "firmwareRevision" = false := by
  rfl

theorem battery_within {config : Config} (valid : ValidConfig false config) :
    config.batteryMinimumPercent.toNat ≤ 99 ∧
      1 ≤ config.batteryMaximumPercent.toNat ∧
      config.batteryMaximumPercent.toNat ≤ 100 ∧
      config.batteryCurrentPercent.toNat ≤ 100 ∧
      1 ≤ config.batteryDropActiveMinutes.toNat ∧
      config.batteryDropActiveMinutes.toNat ≤ 1440 := by
  have minimum := UInt8.le_iff_toNat_le.mp valid.minimum
  have maximum := UInt8.le_iff_toNat_le.mp valid.maximum.2
  have current := UInt8.le_iff_toNat_le.mp valid.current.2
  have range := UInt8.lt_iff_toNat_lt.mp valid.range
  have interval := UInt16.le_iff_toNat_le.mp valid.interval.2
  have positive : config.batteryDropActiveMinutes.toNat ≠ 0 := by
    intro zero
    exact valid.interval.1 (UInt16.toNat_inj.mp zero)
  simp only [UInt8.reduceToNat, UInt16.reduceToNat] at minimum maximum interval
  omega

structure BatteryRead {Tree : Type} (json : Library Tree)
    (battery : Option Tree) (config : Config) : Prop where
  object : json.isObject battery = true
  bool : json.isBool (json.getObjectItemCaseSensitive battery
    "simulationEnabled") = true
  enabled : json.isTrue (json.getObjectItemCaseSensitive battery
    "simulationEnabled") = config.batterySimulationEnabled
  minimum : copyInteger json battery "minimumPercent" 0 99 =
    some (config.batteryMinimumPercent.toNat : Int)
  maximum : copyInteger json battery "maximumPercent" 1 100 =
    some (config.batteryMaximumPercent.toNat : Int)
  current : copyInteger json battery "currentPercent" 0 100 =
    some (config.batteryCurrentPercent.toNat : Int)
  interval : copyInteger json battery "dropActiveMinutes" 1 1440 =
    some (config.batteryDropActiveMinutes.toNat : Int)

section Library

variable {Tree : Type} {json : Library Tree} {value : Tree → Value}
  (documented : Documented json value)

include documented

theorem parseConfig_identityValue {tree : Tree} {state : State}
    {connected : Bool} (held : value tree = identityValue state connected) :
    parseConfig json tree = none := by
  have has : json.hasObjectItem (some tree) "firmwareRevision" = true := by
    rw [documented.has, Option.map_some, Option.any_some, held]
    exact identityValue_revision state connected
  unfold parseConfig
  rw [has, Bool.not_true, Bool.and_false]
  rfl

theorem batteryRead {battery : Option Tree} {config : Config}
    (held : battery.map value = some (.object (batteryMembers config)))
    (valid : ValidConfig false config) : BatteryRead json battery config := by
  have enabled : (json.getObjectItemCaseSensitive battery
      "simulationEnabled").map value =
        some (.bool config.batterySimulationEnabled) := by
    rw [documented.lookup, held]
    rfl
  have levels := battery_within valid
  have small : ∀ {number : Nat}, number ≤ 1440 → (number : Int) ≤ intMax := by
    intro number bound
    unfold intMax
    omega
  exact {
    object := by
      rw [documented.isObject, held]
      rfl
    bool := by
      rw [documented.isBool, enabled]
      rfl
    enabled := by
      rw [documented.isTrue, enabled]
      rfl
    minimum := copyInteger_member documented (by rw [held]; rfl)
      (small (by omega)) (by omega)
    maximum := copyInteger_member documented (by rw [held]; rfl)
      (small (by omega)) (by omega)
    current := copyInteger_member documented (by rw [held]; rfl)
      (small (by omega)) (by omega)
    interval := copyInteger_member documented (by rw [held]; rfl)
      (small (by omega)) (by omega) }

theorem parseConfig_resubmission {tree : Tree} {state : State}
    {connected : Bool} (valid : ValidConfig false state.config)
    (held : value tree = resubmission state connected) :
    parseConfig json tree = some (reread state.config) := by
  have root : (some tree).map value = some (resubmission state connected) :=
    congrArg some held
  have object : json.isObject (some tree) = true := by
    rw [documented.isObject, root]
    rfl
  have revision : json.hasObjectItem (some tree) "firmwareRevision" =
      false := by
    rw [documented.has, root, Option.any_some]
    exact resubmission_revision state connected
  have deviceName : copyString json (some tree) "deviceName" 30 false = _ :=
    copyString_member documented (by rw [root]; rfl) valid.deviceName
  have manufacturerName : copyString json (some tree) "manufacturerName" 33
      false = _ :=
    copyString_member documented (by rw [root]; rfl) valid.manufacturerName
  have modelNumber : copyString json (some tree) "modelNumber" 33 false = _ :=
    copyString_member documented (by rw [root]; rfl) valid.modelNumber
  have serialNumber : copyString json (some tree) "serialNumber" 33 true = _ :=
    copyString_member documented (by rw [root]; rfl) valid.serialNumber
  have hardwareRevision : copyString json (some tree) "hardwareRevision" 17
      false = _ :=
    copyString_member documented (by rw [root]; rfl) valid.hardwareRevision
  have softwareRevision : copyString json (some tree) "softwareRevision" 17
      false = _ :=
    copyString_member documented (by rw [root]; rfl) valid.softwareRevision
  have members : (json.getObjectItemCaseSensitive (some tree) "battery").map
      value = some (.object (batteryMembers state.config)) := by
    rw [documented.lookup, root]
    rfl
  have battery := batteryRead documented members valid
  unfold parseConfig
  simp only [object, revision, deviceName, manufacturerName, modelNumber,
    serialNumber, hardwareRevision, softwareRevision, battery.object,
    battery.bool, battery.enabled, battery.minimum, battery.maximum,
    battery.current, battery.interval]
  change some _ = some _
  simp [reread]

end Library

/-! ## Saving it again -/

theorem prepareUpdate_reread {state : BleIdentity.State}
    (valid : ValidConfig false state.config) :
    typxBleIdentityPrepareUpdate state (reread state.config) =
      .ok (reread state.config, state.restartRequired) := by
  have filled : CString.string (reread state.config).serialNumber.toList ≠
      [] := by
    change CString.string (charArray 33 (CString.string
      state.config.serialNumber.toList)).toList ≠ []
    rw [string_copy]
    exact (textValid_stored valid.serialNumber).nonempty
  have unchanged : identityTextChanged state.config (reread state.config) =
      false := by
    rw [Bool.eq_false_iff]
    intro changed
    exact (identityTextChanged_iff _ _).mp changed (reread_same _).texts
  unfold typxBleIdentityPrepareUpdate
  rw [if_neg (not_not.mpr (reread_valid valid)), if_neg filled]
  dsimp only
  rw [unchanged, Bool.or_false]

theorem newService_valid : ValidConfig false newService.state.config := by
  have sound := load_sound newChip (some ((none : Option (List UInt8)).getD
    (ascii "unknown"))) (some {})
  rw [newService]
  exact sound.valid

end Typxen.IdentityHttp
