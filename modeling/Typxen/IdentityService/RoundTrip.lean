import Typxen.Foundation.Transition
import Typxen.IdentityService.Stored

/-! # Identities survive a reboot

From an empty namespace on, what an operation has persisted is the identity
that the next boot loads. -/

namespace Typxen.IdentityService

open BleIdentity CString KeyValue Transition

def IdentityEvent.Faultless : IdentityEvent → Prop
  | .operate _ faults _ => faults = noFaults
  | .reboot _ faults => faults = noFaults

theorem Stored.bootOverrides {service : Service} {overrides : Overrides}
    (stored : Stored service overrides) :
    bootOverrides service.nvs = .ok overrides := by
  rw [IdentityService.bootOverrides,
    loadOverrides_ok stored.created stored.reads]

theorem bootOverrides_empty (created : Bool) :
    bootOverrides ⟨created, fun _ => none⟩ = .ok {} := by
  cases created with
  | false => rfl
  | true =>
      rw [bootOverrides, loadOverrides_ok rfl (reads_erased fun _ _ => rfl)]

theorem init_empty {chipIdentity : Vector UInt8 6}
    {description : Option (List UInt8)} {created : Bool} {start : Service}
    (boots : typxIdentityServiceInit chipIdentity description noFaults
      ⟨created, fun _ => none⟩ = .ok start) :
    start.chipIdentity = chipIdentity ∧ Stored start {} := by
  have valid := defaults_valid chipIdentity none
  rw [← loadedConfig_default] at valid
  rcases init_stored (bootOverrides_empty created)
    (reads_erased fun _ _ => rfl) valid with
    ⟨service, started, chip, _, stored, _⟩
  rw [boots] at started
  cases started
  exact ⟨chip, stored⟩

theorem Stored.reboot {service : Service} {overrides : Overrides}
    (stored : Stored service overrides) (description : Option (List UInt8)) :
    ∃ rebooted, typxIdentityServiceInit service.chipIdentity description
        noFaults service.nvs = .ok rebooted ∧
      rebooted.chipIdentity = service.chipIdentity ∧
      rebooted.state = applyOverrides (defaults service.chipIdentity
        (some (description.getD (ascii "unknown")))) overrides ∧
      Stored rebooted overrides := by
  rcases init_stored stored.bootOverrides stored.reads
    (stored.valid.congr stored.config) with
    ⟨rebooted, boots, chip, state, kept, _⟩
  exact ⟨rebooted, boots, chip, state, kept⟩

theorem IdentityStep.stored {before after : Service} {event : IdentityEvent}
    (step : IdentityStep before event after) (faultless : event.Faultless)
    {overrides : Overrides} (stored : Stored before overrides) :
    after.chipIdentity = before.chipIdentity ∧
      ∃ next, Stored after next := by
  cases step with
  | operate performed =>
      rw [show _ = noFaults from faultless] at performed
      rcases stored.perform performed with ⟨chip, next, kept, _⟩
      exact ⟨chip, next, kept⟩
  | @reboot _ description faults boots =>
      rw [show faults = noFaults from faultless] at boots
      rcases stored.reboot description with ⟨rebooted, again, chip, _, kept⟩
      rw [boots] at again
      cases again
      exact ⟨chip, overrides, kept⟩

theorem run_stored {chipIdentity : Vector UInt8 6} {start service : Service}
    {events : List IdentityEvent} (run : Run IdentityStep start events service)
    (faultless : ∀ event ∈ events, event.Faultless)
    (chip : start.chipIdentity = chipIdentity) {overrides : Overrides}
    (stored : Stored start overrides) :
    service.chipIdentity = chipIdentity ∧ ∃ next, Stored service next := by
  refine run.invariant
    (fun service => service.chipIdentity = chipIdentity ∧
      ∃ next, Stored service next)
    IdentityEvent.Faultless ?_ faultless ⟨chip, overrides, stored⟩
  intro before event after quiet holds step
  rcases holds with ⟨chip, overrides, stored⟩
  rcases step.stored quiet stored with ⟨same, kept⟩
  exact ⟨same.trans chip, kept⟩

/-- `loaded` is the identity `held`, texts compared as strings. -/
structure Reproduced (held loaded : State) : Prop where
  config : SameConfig held.config loaded.config
  batteryActiveMs : held.batteryActiveMs = loaded.batteryActiveMs
  sourceDeviceNameNvs : held.sourceDeviceNameNvs = loaded.sourceDeviceNameNvs
  sourceManufacturerNvs :
    held.sourceManufacturerNvs = loaded.sourceManufacturerNvs
  sourceModelNvs : held.sourceModelNvs = loaded.sourceModelNvs
  sourceSerialNvs : held.sourceSerialNvs = loaded.sourceSerialNvs

theorem Stored.reproduced {service : Service} {overrides : Overrides}
    (stored : Stored service overrides)
    (activity : ActivityStored service overrides)
    (firmwareRevision : Option (List UInt8)) :
    Reproduced service.state (applyOverrides
      (defaults service.chipIdentity firmwareRevision) overrides) where
  config := by
    rw [applyOverrides_config]
    exact stored.config
  batteryActiveMs := activity
  sourceDeviceNameNvs := stored.sourceDeviceNameNvs
  sourceManufacturerNvs := stored.sourceManufacturerNvs
  sourceModelNvs := stored.sourceModelNvs
  sourceSerialNvs := stored.sourceSerialNvs

theorem save_generated {service after : Service} {overrides : Overrides}
    {requested : Config} (stored : Stored service overrides)
    (performed : typxIdentityServiceSave noFaults requested service =
      (.ok (), after))
    (empty : string requested.serialNumber.toList = []) :
    after.nvs.entries .serial = none ∧
      string after.state.config.serialNumber.toList =
        string (typxBleIdentityGeneratedSerial
          service.chipIdentity).toList := by
  simp only [typxIdentityServiceSave, nvsSession_noFaults, applyAll_save]
    at performed
  cases prepared : typxBleIdentityPrepareUpdate service.state requested with
  | error validation =>
      rw [prepared] at performed
      cases performed
  | ok accepted =>
      rw [prepared] at performed
      cases performed
      have serial := (prepareUpdate_ok prepared).serial stored.board empty
      exact ⟨if_pos empty, congrArg (fun array => string array.toList) serial⟩

/-- Right after an operation that persists, a reboot into any firmware
reproduces the identity. -/
theorem identityService_reproducesIdentity {chipIdentity : Vector UInt8 6}
    {description nextDescription : Option (List UInt8)} {created : Bool}
    {start service after : Service} {events : List IdentityEvent}
    {operation : Operation} {result : Except IdentityError Unit}
    (boots : typxIdentityServiceInit chipIdentity description noFaults
      ⟨created, fun _ => none⟩ = .ok start)
    (run : Run IdentityStep start events service)
    (faultless : ∀ event ∈ events, event.Faultless)
    (performed : operation.perform noFaults service = some (result, after))
    (persists : operation.Persists result) :
    (∃ overrides rebooted,
      bootOverrides after.nvs = .ok overrides ∧
      typxBleIdentityValidate (applyOverrides (defaults chipIdentity
        (some (nextDescription.getD (ascii "unknown")))) overrides).config
        false = .valid ∧
      typxIdentityServiceInit chipIdentity nextDescription noFaults after.nvs =
        .ok rebooted ∧
      Reproduced after.state rebooted.state) ∧
    ∀ requested, operation = .save requested →
      string requested.serialNumber.toList = [] →
      after.nvs.entries .serial = none ∧
        string after.state.config.serialNumber.toList =
          string (typxBleIdentityGeneratedSerial chipIdentity).toList := by
  rcases init_empty boots with ⟨started, initial⟩
  rcases run_stored run faultless started initial with ⟨chip, before, stored⟩
  constructor
  · rcases stored.perform performed with ⟨same, overrides, kept, activity⟩
    have owner : after.chipIdentity = chipIdentity := same.trans chip
    rcases kept.reboot nextDescription with ⟨rebooted, again, _, state, _⟩
    have reproduced := kept.reproduced (activity persists)
      (some (nextDescription.getD (ascii "unknown")))
    rw [← state] at reproduced
    rw [owner] at again
    refine ⟨overrides, rebooted, kept.bootOverrides, ?_, again, reproduced⟩
    apply (validate_eq_valid_iff _ _).mpr
    rw [applyOverrides_config, ← owner]
    exact kept.valid.congr kept.config
  · intro requested saves empty
    rw [saves] at performed persists
    cases result with
    | error error => exact persists.elim
    | ok _ =>
        rw [← chip]
        exact save_generated stored (Option.some.inj performed) empty

/-! The first save on a new board, without a serial number. -/

def newChip : Vector UInt8 6 := .replicate 6 0

def newService : Service where
  chipIdentity := newChip
  state := bootState newChip none {}
  hidDevice := false
  nvs := (nvsSession noFaults [.eraseKey .restartReq, .commit]
    ⟨false, fun _ => none⟩).2

def deskRequest : Config :=
  { (defaults newChip none).config with
    deviceName := charArray 30 (ascii "Desk Keyboard")
    serialNumber := charArray 33 [] }

theorem newService_boots :
    typxIdentityServiceInit newChip none noFaults ⟨false, fun _ => none⟩ =
      .ok newService := rfl

theorem deskRequest_saved :
    (typxIdentityServiceSave noFaults deskRequest newService).1 = .ok () := by
  decide +kernel

theorem performed_save {requested : Config} {service : Service}
    {faults : Faults} {result : Except IdentityError Unit}
    (saved : (typxIdentityServiceSave faults requested service).1 = result) :
    (Operation.save requested).perform faults service =
      some (result, (typxIdentityServiceSave faults requested service).2) := by
  rw [← saved]
  rfl

theorem identityService_reproducesIdentity_desk :
    let after := (typxIdentityServiceSave noFaults deskRequest newService).2
    (∃ overrides rebooted,
      bootOverrides after.nvs = .ok overrides ∧
      typxBleIdentityValidate (applyOverrides (defaults newChip
        (some ((none : Option (List UInt8)).getD (ascii "unknown"))))
        overrides).config false = .valid ∧
      typxIdentityServiceInit newChip none noFaults after.nvs = .ok rebooted ∧
      Reproduced after.state rebooted.state) ∧
    ∀ requested, Operation.save deskRequest = .save requested →
      string requested.serialNumber.toList = [] →
      after.nvs.entries .serial = none ∧
        string after.state.config.serialNumber.toList =
          string (typxBleIdentityGeneratedSerial newChip).toList :=
  identityService_reproducesIdentity newService_boots (.nil newService)
    (by simp) (performed_save deskRequest_saved) trivial

end Typxen.IdentityService
