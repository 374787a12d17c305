import Typxen.IdentityService.RoundTrip

/-! # Operations that fail

Keys are written one by one, and a battery reset changes the memory first. An
operation that returns an error has changed nothing exactly when what it did
before the error was already so. -/

namespace Typxen.IdentityService

open BleIdentity CString KeyValue Transition

/-- If the operation returns an error, the identity in memory and the stored
keys are as they were. -/
def AllOrNothing (operation : Operation) (faults : Faults) (service : Service) :
    Prop :=
  ∀ error after,
    operation.perform faults service = some (.error error, after) →
    after.state = service.state ∧ after.nvs.entries = service.nvs.entries

def Harmless (faults : Faults) (calls : List NvsCall) (entries : Entries) :
    Prop :=
  (sessionAttempt faults calls).2.isSome →
    Unaltered (writesOf (sessionAttempt faults calls).1) entries

structure BatteryFull (state : State) : Prop where
  level : state.config.batteryCurrentPercent =
    state.config.batteryMaximumPercent
  activity : state.batteryActiveMs = 0
  closed : state.activityOpen = false

def CleanFailure (faults : Faults) (service : Service) : Operation → Prop
  | .save requested =>
      ∀ effective restartRequired,
        typxBleIdentityPrepareUpdate service.state requested =
          .ok (effective, restartRequired) →
        Harmless faults (saveConfigLocked requested effective restartRequired)
          service.nvs.entries
  | .reset =>
      Harmless faults (resetCalls (resetRestartRequired service))
        service.nvs.entries
  | .batteryReset hidFailure =>
      let calls := persistActivityLocked
        (typxBleIdentityResetBattery service.state).1
      ((sessionAttempt faults calls).2.isSome → BatteryFull service.state) ∧
        Harmless faults calls service.nvs.entries ∧
        ((sessionAttempt faults calls).2 = none → hidFailure.isSome →
          service.hidDevice →
          service.state.config.batteryCurrentPercent =
            service.state.config.batteryMaximumPercent)
  | _ => True

theorem resetBattery_eq_self_iff (state : State) :
    (typxBleIdentityResetBattery state).1 = state ↔ BatteryFull state := by
  constructor
  · intro same
    constructor
    · have config := congrArg State.config same
      exact (congrArg Config.batteryCurrentPercent config).symm
    · exact (congrArg State.batteryActiveMs same).symm
    · exact (congrArg State.activityOpen same).symm
  · intro full
    rw [typxBleIdentityResetBattery, ← full.level, ← full.activity,
      ← full.closed]

/-- The entries that a session leaves are those before exactly when it was
harmless, given that one of its calls failed. -/
theorem session_harmless_iff {faults : Faults} {calls : List NvsCall}
    {nvs : Nvs} (stopped : (sessionAttempt faults calls).2.isSome) :
    (nvsSession faults calls nvs).2.entries = nvs.entries ↔
      Harmless faults calls nvs.entries := by
  rw [nvsSession_eq, Harmless, applyAll_eq_self_iff]
  exact ⟨fun unaltered _ => unaltered, fun harmless => harmless stopped⟩

/-! ## Operation by operation -/

theorem save_allOrNothing_iff (faults : Faults) (requested : Config)
    (service : Service) :
    AllOrNothing (.save requested) faults service ↔
      CleanFailure faults service (.save requested) := by
  rcases save_cases faults requested service with
    ⟨validation, invalid, saves⟩ |
    ⟨effective, restartRequired, prepared,
      ⟨code, failed, saves⟩ | ⟨finished, saves⟩⟩
  · constructor
    · intro _ effective restartRequired prepared
      cases invalid.symm.trans prepared
    · intro _ error after performed
      cases (Option.some.inj performed).symm.trans saves
      exact ⟨rfl, rfl⟩
  · have stopped : (sessionAttempt faults
        (saveConfigLocked requested effective restartRequired)).2.isSome := by
      rw [failed]
      rfl
    constructor
    · intro whole other flag again
      cases prepared.symm.trans again
      have kept := whole _ _ (congrArg some saves)
      exact (session_harmless_iff stopped).mp kept.2
    · intro clean error after performed
      cases (Option.some.inj performed).symm.trans saves
      have harmless := clean effective restartRequired prepared
      exact ⟨rfl, (session_harmless_iff stopped).mpr harmless⟩
  · constructor
    · intro _ other flag again stopped
      cases prepared.symm.trans again
      rw [finished] at stopped
      cases stopped
    · intro _ error after performed
      cases (Option.some.inj performed).symm.trans saves

theorem reset_allOrNothing_iff (faults : Faults) (service : Service) :
    AllOrNothing .reset faults service ↔
      CleanFailure faults service .reset := by
  rcases reset_cases faults service with
    ⟨code, failed, resets⟩ | ⟨finished, resets⟩
  · have stopped : (sessionAttempt faults
        (resetCalls (resetRestartRequired service))).2.isSome := by
      rw [failed]
      rfl
    constructor
    · intro whole
      have kept := whole _ _ (congrArg some resets)
      exact (session_harmless_iff stopped).mp kept.2
    · intro clean error after performed
      cases (Option.some.inj performed).symm.trans resets
      exact ⟨rfl, (session_harmless_iff stopped).mpr clean⟩
  · constructor
    · intro _ stopped
      rw [finished] at stopped
      cases stopped
    · intro _ error after performed
      cases (Option.some.inj performed).symm.trans resets

theorem batteryReset_allOrNothing_iff (faults : Faults)
    (hidFailure : Option Int) (service : Service) :
    AllOrNothing (.batteryReset hidFailure) faults service ↔
      CleanFailure faults service (.batteryReset hidFailure) := by
  have failed_iff := batteryReset_failed_iff faults hidFailure service
  have ends := batteryReset_after faults hidFailure service
  constructor
  · intro whole
    have kept : (∃ error, (typxIdentityServiceBatteryReset faults hidFailure
        service).1 = .error error) →
        BatteryFull service.state ∧
          (nvsSession faults (persistActivityLocked
            (typxBleIdentityResetBattery service.state).1)
            service.nvs).2.entries = service.nvs.entries := by
      intro failed
      rcases failed with ⟨error, failed⟩
      have same := whole error _ (congrArg some (Prod.ext failed ends))
      exact ⟨(resetBattery_eq_self_iff _).mp same.1, same.2⟩
    refine ⟨?_, ?_, ?_⟩
    · intro stopped
      exact (kept (failed_iff.mpr (.inl stopped))).1
    · intro stopped
      exact (session_harmless_iff stopped).mp
        (kept (failed_iff.mpr (.inl stopped))).2 stopped
    · intro _ failing bound
      by_contra differs
      exact differs
        (kept (failed_iff.mpr (.inr ⟨failing, bound, differs⟩))).1.level
  · intro clean error after performed
    rcases clean with ⟨full, harmless, level⟩
    have result := Option.some.inj performed
    rw [result] at failed_iff ends
    rw [show after = _ from ends]
    by_cases stopped : (sessionAttempt faults (persistActivityLocked
        (typxBleIdentityResetBattery service.state).1)).2.isSome
    · exact ⟨(resetBattery_eq_self_iff _).mpr (full stopped),
        (session_harmless_iff stopped).mpr harmless⟩
    · rcases failed_iff.mp ⟨error, rfl⟩ with again | ⟨failing, bound, differs⟩
      · exact absurd again stopped
      · have finished := Option.not_isSome_iff_eq_none.mp stopped
        exact absurd (level finished failing bound) differs

/-- An operation that fails has changed nothing exactly when it fails
cleanly. -/
theorem identityOperation_allOrNothing_iff (operation : Operation)
    (faults : Faults) (service : Service) :
    AllOrNothing operation faults service ↔
      CleanFailure faults service operation := by
  cases operation with
  | save requested => exact save_allOrNothing_iff faults requested service
  | reset => exact reset_allOrNothing_iff faults service
  | batteryReset hidFailure =>
      exact batteryReset_allOrNothing_iff faults hidFailure service
  | bindHid device hidFailure =>
      refine ⟨fun _ => trivial, fun _ error after performed => ?_⟩
      have ends := bindHid_after device hidFailure service
      rw [Option.some.inj performed] at ends
      rw [show after = _ from ends]
      exact ⟨rfl, rfl⟩
  | recordSuccessfulReport nowMs executionActive =>
      refine ⟨fun _ => trivial, fun _ error after performed => ?_⟩
      rcases Option.map_eq_some_iff.mp performed with ⟨_, _, returned⟩
      cases returned
  | endActivity =>
      refine ⟨fun _ => trivial, fun _ error after performed => ?_⟩
      cases performed

/-! The second NVS write of a save fails on a new board: the request is refused
with an error, and its device name is stored. -/

def secondWriteFails : Faults := fun index =>
  if index = 2 then some 1 else none

theorem identityService_storesPartOfRequest :
    ¬∀ (chipIdentity : Vector UInt8 6) (description : Option (List UInt8))
        (created : Bool) (start service : Service)
        (events : List IdentityEvent) (operation : Operation)
        (faults : Faults),
      typxIdentityServiceInit chipIdentity description noFaults
        ⟨created, fun _ => none⟩ = .ok start →
      Run IdentityStep start events service →
      AllOrNothing operation faults service := by
  intro always
  have whole := always newChip none false newService newService []
    (.save deskRequest) secondWriteFails newService_boots (.nil newService)
  have failed : (typxIdentityServiceSave secondWriteFails deskRequest
      newService).1 = .error (.nvs 1) := by
    decide +kernel
  have stored : (typxIdentityServiceSave secondWriteFails deskRequest
      newService).2.nvs.entries .name =
        some (.str (ascii "Desk Keyboard")) := by
    decide +kernel
  have kept := (whole _ _ (performed_save failed)).2
  rw [kept] at stored
  cases stored

end Typxen.IdentityService
