import Typxen.IdentityService.RoundTrip

/-! # The restart requirement

What `restart_required` says about the identity that the Bluetooth stack was
initialised with, over the saves and resets since the boot. -/

namespace Typxen.IdentityService

open BleIdentity CString KeyValue Transition

inductive Edit
  | save (requested : Config)
  | reset

/-- Successful saves and resets, the latter only in services that are
`resettable`. -/
inductive EditStep (resettable : Service → Prop) :
    Service → Edit → Service → Prop
  | save {before after : Service} {requested : Config} (faults : Faults) :
      typxIdentityServiceSave faults requested before = (.ok (), after) →
      EditStep resettable before (.save requested) after
  | reset {before after : Service} (faults : Faults) :
      resettable before →
      typxIdentityServiceReset faults before = (.ok (), after) →
      EditStep resettable before .reset after

/-- Texts that differ from those of the boot are announced: the service asks for
a restart, and the restart clears the bonds. -/
def Truthful (boot : IdentityTexts) (service : Service) : Prop :=
  service.state.config.texts ≠ boot →
    service.state.restartRequired = true ∧
      typxBleIdentityRestartClearsBonds service.state = true

/-- A reset that does not hide a change: the current texts are not the defaults
yet, or the boot had the defaults. -/
def Announces (boot : IdentityTexts) (service : Service) : Prop :=
  service.state.config.texts ≠ (resetDefaults service).config.texts ∨
    boot = (resetDefaults service).config.texts

theorem save_truthful {boot : IdentityTexts} {before after : Service}
    {requested : Config} {faults : Faults}
    (saves : typxIdentityServiceSave faults requested before = (.ok (), after))
    (truthful : Truthful boot before) : Truthful boot after := by
  rcases save_cases faults requested before with
    ⟨validation, _, refused⟩ |
    ⟨effective, restartRequired, prepared,
      ⟨code, _, refused⟩ | ⟨_, saved⟩⟩
  · cases saves.symm.trans refused
  · cases saves.symm.trans refused
  · cases saves.symm.trans saved
    intro differs
    have flag : restartRequired = true := by
      rw [(prepareUpdate_ok prepared).restart, Bool.or_eq_true,
        identityTextChanged_iff]
      by_cases moved : before.state.config.texts = boot
      · exact .inr (moved ▸ differs)
      · exact .inl (truthful moved).1
    exact ⟨flag, flag⟩

theorem reset_truthful_iff {boot : IdentityTexts} {before after : Service}
    {faults : Faults}
    (resets : typxIdentityServiceReset faults before = (.ok (), after)) :
    Truthful boot after ↔ Announces boot before := by
  rcases reset_cases faults before with ⟨code, _, refused⟩ | ⟨_, taken⟩
  · cases resets.symm.trans refused
  · cases resets.symm.trans taken
    have flag : resetRestartRequired before = true ↔
        (resetDefaults before).config.texts ≠ before.state.config.texts := by
      rw [resetRestartRequired, identityTextChanged_iff]
    simp only [Truthful, Announces, typxBleIdentityRestartClearsBonds]
    constructor
    · intro truthful
      by_cases same : (resetDefaults before).config.texts = boot
      · exact .inr same.symm
      · exact .inl (flag.mp (truthful same).1).symm
    · intro announces differs
      rcases announces with changed | same
      · have required := flag.mpr changed.symm
        exact ⟨required, required⟩
      · exact absurd same.symm differs

theorem EditStep.truthful {boot : IdentityTexts} {before after : Service}
    {edit : Edit} (step : EditStep (Announces boot) before edit after)
    (truthful : Truthful boot before) : Truthful boot after := by
  cases step with
  | save faults saves => exact save_truthful saves truthful
  | reset faults announces resets =>
      exact (reset_truthful_iff resets).mpr announces

theorem EditStep.mono {resettable other : Service → Prop}
    {before after : Service} {edit : Edit}
    (step : EditStep resettable before edit after)
    (implies : edit = .reset → other before) :
    EditStep other before edit after := by
  cases step with
  | save faults saves => exact .save faults saves
  | reset faults _ resets => exact .reset faults (implies rfl) resets

/-- Saves and resets after a boot lead through truthful states only exactly
when no reset finds the defaults in place of other boot texts. -/
theorem restartRequired_isTruthful_iff {start service : Service}
    {edits : List Edit} :
    Run (Within (Truthful start.state.config.texts)
        (EditStep fun _ => True)) start edits service ↔
      Run (EditStep (Announces start.state.config.texts)) start edits
        service := by
  constructor
  · intro run
    refine run.mono (fun _ => True) ?_ fun _ _ => trivial
    intro before edit after _ step
    rcases step with ⟨_, step, truthful⟩
    cases step with
    | save faults saves => exact .save faults saves
    | reset faults _ resets =>
        exact .reset faults ((reset_truthful_iff resets).mp truthful) resets
  · intro run
    have initially : Truthful start.state.config.texts start :=
      fun differs => absurd rfl differs
    have guarded := run.guarded (Truthful start.state.config.texts)
      (fun _ => True) (fun _ _ _ _ truthful step => step.truthful truthful)
      (fun _ _ => trivial) initially
    refine guarded.mono (fun _ => True) ?_ fun _ _ => trivial
    intro before edit after _ step
    exact ⟨step.holds, step.taken.mono fun _ => trivial, step.still⟩

/-! A board that boots with a saved identity and is reset twice. -/

def deskConfig : Config :=
  { deskRequest with serialNumber := typxBleIdentityGeneratedSerial newChip }

def deskNvs : Nvs := ⟨true, savedEntries deskRequest deskConfig true⟩

def deskService : Service where
  chipIdentity := newChip
  state := bootState newChip none (savedOverrides deskRequest deskConfig)
  hidDevice := false
  nvs := (nvsSession noFaults [.eraseKey .restartReq, .commit] deskNvs).2

theorem deskService_boots :
    typxIdentityServiceInit newChip none noFaults deskNvs =
      .ok deskService := by
  have accepted : typxBleIdentityValidate deskConfig false = .valid := by
    decide +kernel
  have reads := reads_saved deskRequest true
    ((validate_eq_valid_iff _ _).mp accepted)
  have found : bootOverrides deskNvs =
      .ok (savedOverrides deskRequest deskConfig) := by
    rw [bootOverrides, loadOverrides_ok rfl reads]
  rw [typxIdentityServiceInit, found]
  rfl

theorem reset_succeeds (service : Service) :
    typxIdentityServiceReset noFaults service =
      (.ok (), (typxIdentityServiceReset noFaults service).2) := by
  simp only [typxIdentityServiceReset, nvsSession_noFaults]

theorem restartRequired_missesSecondReset :
    ¬∀ (chipIdentity : Vector UInt8 6) (description : Option (List UInt8))
        (faults : Faults) (nvs : Nvs) (start service : Service)
        (edits : List Edit),
      typxIdentityServiceInit chipIdentity description faults nvs =
        .ok start →
      Run (EditStep fun _ => True) start edits service →
      Truthful start.state.config.texts service := by
  intro always
  let once := (typxIdentityServiceReset noFaults deskService).2
  let twice := (typxIdentityServiceReset noFaults once).2
  have first := reset_succeeds deskService
  have second := reset_succeeds once
  have truthful := always newChip none noFaults deskNvs deskService twice
    [.reset, .reset] deskService_boots
    (.cons (.reset noFaults trivial first)
      (.cons (.reset noFaults trivial second) (.nil twice)))
  have differs : twice.state.config.texts ≠ deskService.state.config.texts := by
    decide +kernel
  have unannounced : twice.state.restartRequired = false := by
    decide +kernel
  rw [(truthful differs).1] at unannounced
  cases unannounced

end Typxen.IdentityService
