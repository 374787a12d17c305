import Typxen.IdentityService.IdentityService

/-! # What the NVS calls leave

A session in the namespace is the list of writes it has made before its first
failure, and `load_overrides` reads every key by itself. -/

namespace Typxen.IdentityService

open BleIdentity CString KeyValue

/-! ## Writing -/

def NvsCall.write : NvsCall → Option (Write NvsKey NvsValue)
  | .setStr key text => some (.set key (.str text))
  | .setU8 key value => some (.set key (.u8 value))
  | .setU16 key value => some (.set key (.u16 value))
  | .setU64 key value => some (.set key (.u64 value))
  | .eraseKey key => some (.erase key)
  | .commit => none

def writesOf (calls : List NvsCall) : List (Write NvsKey NvsValue) :=
  calls.filterMap NvsCall.write

def sessionAttempt (faults : Faults) (calls : List NvsCall) :
    List NvsCall × Option Int :=
  match faults 0 with
  | some code => ([], some code)
  | none => attempt faults 1 calls

def sessionResult : Option Int → Except IdentityError Unit
  | none => .ok ()
  | some code => .error (.nvs code)

theorem perform_cases (call : NvsCall) (entries : Entries) :
    call.perform entries = .ok (applyAll (writesOf [call]) entries) ∨
      call.perform entries = .error .nvsNotFound ∧
        call.ignores .nvsNotFound = true ∧
        applyAll (writesOf [call]) entries = entries := by
  cases call with
  | eraseKey key =>
      cases present : entries key with
      | some value => exact .inl (by simp [NvsCall.perform, present]; rfl)
      | none =>
          refine .inr ⟨by simp [NvsCall.perform, present], rfl, ?_⟩
          apply (applyAll_eq_self_iff _ _).mpr
          intro other value last
          by_cases same : key = other
          · simp [writesOf, NvsCall.write, written, Write.key, Write.value,
              same] at last
            rw [← same, present, last]
          · simp [writesOf, NvsCall.write, written, Write.key, same] at last
  | _ => exact .inl rfl

theorem applyAll_cons_call (call : NvsCall) (calls : List NvsCall)
    (entries : Entries) :
    applyAll (writesOf (call :: calls)) entries =
      applyAll (writesOf calls) (applyAll (writesOf [call]) entries) := by
  cases call <;> rfl

theorem performCalls_eq (faults : Faults) (index : Nat) (calls : List NvsCall)
    (entries : Entries) :
    performCalls faults index calls entries =
      (sessionResult (attempt faults index calls).2,
        applyAll (writesOf (attempt faults index calls).1) entries) := by
  induction calls generalizing index entries with
  | nil => rfl
  | cons call rest induction =>
      rw [performCalls, attempt]
      cases faults index with
      | some code => rfl
      | none =>
          rcases perform_cases call entries with taken | ⟨absent, ignored, same⟩
          · simp only [taken, induction]
            rw [← applyAll_cons_call]
          · simp only [absent, ignored, if_true, induction]
            rw [applyAll_cons_call, same]

theorem nvsSession_eq (faults : Faults) (calls : List NvsCall) (nvs : Nvs) :
    nvsSession faults calls nvs =
      (sessionResult (sessionAttempt faults calls).2,
        { created := nvs.created || (faults 0).isNone
          entries := applyAll (writesOf (sessionAttempt faults calls).1)
            nvs.entries }) := by
  rw [nvsSession, sessionAttempt]
  cases faults 0 with
  | some code => simp [sessionResult, writesOf, applyAll]
  | none => simp [performCalls_eq]

theorem nvsSession_noFaults (calls : List NvsCall) (nvs : Nvs) :
    nvsSession noFaults calls nvs =
      (.ok (), {
        created := true
        entries := applyAll (writesOf calls) nvs.entries }) := by
  have all : sessionAttempt noFaults calls = (calls, none) := by
    rw [sessionAttempt]
    exact attempt_faultless fun _ => rfl
  rw [nvsSession_eq, all]
  simp [sessionResult, noFaults]

/-! ## Reading -/

structure Reads (entries : Entries) (overrides : Overrides) : Prop where
  deviceName :
    getOptionalString entries .name 30 = .ok overrides.deviceName
  manufacturerName : getOptionalString entries .manufacturer 33 =
    .ok overrides.manufacturerName
  modelNumber :
    getOptionalString entries .model 33 = .ok overrides.modelNumber
  serialNumber :
    getOptionalString entries .serial 33 = .ok overrides.serialNumber
  hardwareRevision :
    getOptionalString entries .hwRev 17 = .ok overrides.hardwareRevision
  softwareRevision :
    getOptionalString entries .swRev 17 = .ok overrides.softwareRevision
  batterySimulationEnabled : ∃ stored,
    getOptionalU8 entries .battEnabled = .ok stored ∧
      overrides.batterySimulationEnabled = stored.map (· != 0)
  batteryMinimumPercent :
    getOptionalU8 entries .battMin = .ok overrides.batteryMinimumPercent
  batteryMaximumPercent :
    getOptionalU8 entries .battMax = .ok overrides.batteryMaximumPercent
  batteryCurrentPercent :
    getOptionalU8 entries .battCurrent = .ok overrides.batteryCurrentPercent
  batteryDropActiveMinutes : getOptionalU16 entries .battInterval =
    .ok overrides.batteryDropActiveMinutes
  batteryActiveMs : optional (nvsGetU64 entries .battActiveMs) =
    .ok overrides.batteryActiveMs

theorem loadOverrides_ok {nvs : Nvs} {overrides : Overrides}
    (created : nvs.created = true) (reads : Reads nvs.entries overrides) :
    loadOverrides nvs = .ok overrides := by
  rcases reads.batterySimulationEnabled with ⟨stored, read, same⟩
  rw [loadOverrides, if_pos created]
  simp only [reads.deviceName, reads.manufacturerName, reads.modelNumber,
    reads.serialNumber, reads.hardwareRevision, reads.softwareRevision, read,
    reads.batteryMinimumPercent, reads.batteryMaximumPercent,
    reads.batteryCurrentPercent, reads.batteryDropActiveMinutes,
    reads.batteryActiveMs, bind, Except.bind, pure, Except.pure, ← same]

/-! ## After an operation -/

theorem batteryReset_after (faults : Faults) (hidFailure : Option Int)
    (service : Service) :
    (typxIdentityServiceBatteryReset faults hidFailure service).2 =
      { service with
        state := (typxBleIdentityResetBattery service.state).1
        nvs := (nvsSession faults (persistActivityLocked
          (typxBleIdentityResetBattery service.state).1) service.nvs).2 } := by
  rcases session : nvsSession faults (persistActivityLocked
    (typxBleIdentityResetBattery service.state).1) service.nvs with
    ⟨result, nvs⟩
  cases result with
  | error error => simp only [typxIdentityServiceBatteryReset, session]
  | ok _ =>
      simp only [typxIdentityServiceBatteryReset, session]
      split_ifs with notified
      · cases hidFailure <;> rfl
      · rfl

theorem bindHid_after (device : Bool) (hidFailure : Option Int)
    (service : Service) :
    (typxIdentityServiceBindHid device hidFailure service).2 =
      { service with hidDevice := device } := by
  cases device <;> cases hidFailure <;> rfl

theorem resetDefaults_eq (service : Service) :
    resetDefaults service = defaults service.chipIdentity
      (some (string service.state.firmwareRevision.toList)) := by
  rw [resetDefaults, typxBleIdentityLoad]
  exact ite_self _

/-- Everything a save can do. -/
theorem save_cases (faults : Faults) (requested : Config) (service : Service) :
    (∃ validation,
      typxBleIdentityPrepareUpdate service.state requested =
        .error validation ∧
      typxIdentityServiceSave faults requested service =
        (.error (.invalidArg validation), service)) ∨
    ∃ effective restartRequired,
      typxBleIdentityPrepareUpdate service.state requested =
        .ok (effective, restartRequired) ∧
      let calls := saveConfigLocked requested effective restartRequired
      let nvs := (nvsSession faults calls service.nvs).2
      ((∃ code, (sessionAttempt faults calls).2 = some code ∧
        typxIdentityServiceSave faults requested service =
          (.error (.nvs code), { service with nvs := nvs })) ∨
      (sessionAttempt faults calls).2 = none ∧
        typxIdentityServiceSave faults requested service =
          (.ok (), { service with
            state := savedState service.state requested effective
              restartRequired
            nvs := nvs })) := by
  cases prepared : typxBleIdentityPrepareUpdate service.state requested with
  | error validation =>
      exact .inl ⟨validation, rfl, by rw [typxIdentityServiceSave, prepared]⟩
  | ok accepted =>
      refine .inr ⟨accepted.1, accepted.2, rfl, ?_⟩
      simp only [typxIdentityServiceSave, prepared, nvsSession_eq]
      cases (sessionAttempt faults
          (saveConfigLocked requested accepted.1 accepted.2)).2 with
      | some code => exact .inl ⟨code, rfl, rfl⟩
      | none => exact .inr ⟨rfl, rfl⟩

/-- Everything a reset can do. -/
theorem reset_cases (faults : Faults) (service : Service) :
    let calls := resetCalls (resetRestartRequired service)
    let nvs := (nvsSession faults calls service.nvs).2
    (∃ code, (sessionAttempt faults calls).2 = some code ∧
      typxIdentityServiceReset faults service =
        (.error (.nvs code), { service with nvs := nvs })) ∨
    (sessionAttempt faults calls).2 = none ∧
      typxIdentityServiceReset faults service =
        (.ok (), { service with
          state := { resetDefaults service with
            restartRequired := resetRestartRequired service }
          nvs := nvs }) := by
  simp only [typxIdentityServiceReset, nvsSession_eq]
  cases (sessionAttempt faults
      (resetCalls (resetRestartRequired service))).2 with
  | some code => exact .inl ⟨code, rfl, rfl⟩
  | none => exact .inr ⟨rfl, rfl⟩

theorem batteryReset_failed_iff (faults : Faults) (hidFailure : Option Int)
    (service : Service) :
    (∃ error, (typxIdentityServiceBatteryReset faults hidFailure service).1 =
      .error error) ↔
    (sessionAttempt faults (persistActivityLocked
        (typxBleIdentityResetBattery service.state).1)).2.isSome ∨
      hidFailure.isSome ∧ service.hidDevice ∧
        service.state.config.batteryCurrentPercent ≠
          service.state.config.batteryMaximumPercent := by
  have outcome := congrArg Prod.fst (nvsSession_eq faults
    (persistActivityLocked (typxBleIdentityResetBattery service.state).1)
    service.nvs)
  rcases session : nvsSession faults (persistActivityLocked
    (typxBleIdentityResetBattery service.state).1) service.nvs with
    ⟨result, nvs⟩
  have changed : (typxBleIdentityResetBattery service.state).2 =
      (service.state.config.batteryCurrentPercent !=
        service.state.config.batteryMaximumPercent) := rfl
  rw [session] at outcome
  cases stopped : (sessionAttempt faults (persistActivityLocked
      (typxBleIdentityResetBattery service.state).1)).2 with
  | some code =>
      have failed : result = .error (.nvs code) := by
        rw [show result = _ from outcome, stopped, sessionResult]
      simp only [typxIdentityServiceBatteryReset, session, failed]
      simp
  | none =>
      have finished : result = .ok () := by
        rw [show result = _ from outcome, stopped, sessionResult]
      simp only [typxIdentityServiceBatteryReset, session, finished, changed]
      by_cases notified : (service.state.config.batteryCurrentPercent !=
          service.state.config.batteryMaximumPercent && service.hidDevice) =
            true
      · rw [if_pos notified]
        simp only [Bool.and_eq_true, bne_iff_ne] at notified
        cases hidFailure with
        | none => simp
        | some code => simp [notified]
      · rw [if_neg notified]
        simp only [Bool.and_eq_true, bne_iff_ne, not_and] at notified
        simp
        tauto

end Typxen.IdentityService
