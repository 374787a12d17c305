import Typxen.BleIdentity.BleIdentity
import Typxen.WifiLink.Board
import Typxen.WifiService.Hex

/-! # The stored credentials

`load_credentials`, and the board from one loss of power to the next: the
namespace `typx_wifi` outlives it, the variables do not. -/

namespace Typxen.WifiLink

open Interaction Threads Transition CString BoardSetup

/-! ## The namespace -/

inductive StoredKey
  | apPass
  | station (key : NvsKey)
  deriving DecidableEq, Repr

structure Flash where
  apPass : Option (List UInt8)
  station : NvsKey → Option (List UInt8)

def Flash.get (flash : Flash) : StoredKey → Option (List UInt8)
  | .apPass => flash.apPass
  | .station key => flash.station key

inductive CredentialCall
  /-- `esp_read_mac` of the access point. -/
  | readMac
  | nvsOpen
  /-- `nvs_get_str` into a buffer of `capacity` bytes. -/
  | nvsGetStr (key : StoredKey) (capacity : Nat)
  /-- `esp_random`. -/
  | random
  | nvsSetApPass (text : List UInt8)
  | nvsCommit
  deriving DecidableEq, Repr

@[reducible] def CredentialCall.Answer : CredentialCall → Type
  | .readMac => Except EspErr (Vector UInt8 6)
  | .nvsOpen => EspErr
  | .nvsGetStr _ _ => Except EspErr (List UInt8)
  | .random => UInt32
  | .nvsSetApPass _ => EspErr
  | .nvsCommit => EspErr

@[reducible] def credentialCalls : Signature where
  Call := CredentialCall
  Answer := CredentialCall.Answer

abbrev Loading (α : Type) := Program credentialCalls α

def Loading.call (request : CredentialCall) :
    Loading (CredentialCall.Answer request) :=
  Program.call (S := credentialCalls) request

/-- A string that is there may still not be read, or not fit. -/
def flashEnvironment : Environment credentialCalls Flash
  | .nvsGetStr key capacity, before, result, after =>
      after = before ∧
        match result with
        | .ok text => before.get key = some text ∧ text.length < capacity
        | .error .nvsNotFound => before.get key = none
        | .error error => error ≠ .ok
  | .nvsSetApPass text, before, error, after =>
      after = if error = .ok then { before with apPass := some text } else before
  | _, before, _, after => after = before

/-! ## Loading -/

def passwordAlphabet : List UInt8 :=
  ascii "ABCDEFGHJKLMNPQRSTUVWXYZabcdefghijkmnopqrstuvwxyz23456789"

/-- The conversion `%02X`. -/
def upperHex (byte : UInt8) : List UInt8 :=
  [BleIdentity.hexDigit (byte >>> 4).toUInt32,
    BleIdentity.hexDigit (byte &&& 0x0f).toUInt32]

def typxDiscoveryHostname (identity : Vector UInt8 6) : List UInt8 :=
  ascii "typxen-esp32cam-" ++
    WifiService.formatHex [identity[3], identity[4], identity[5]]

def apSsid (mac : Vector UInt8 6) : List UInt8 :=
  ascii "Typxen-ESP32CAM-" ++ upperHex mac[4] ++ upperHex mac[5]

/-- The loop that fills `s_ap_password`. -/
def randomCharacters : (count : Nat) → Loading (List UInt8)
  | 0 => return []
  | count + 1 => do
      let number ← Loading.call .random
      let rest ← randomCharacters count
      return passwordAlphabet.getD (number.toNat % passwordAlphabet.length) 0 ::
        rest

def generateApPassword : Loading (Except EspErr (List UInt8)) := do
  let password ← randomCharacters 16
  let error ← Loading.call (.nvsSetApPass password)
  if error ≠ .ok then
    return .error error
  else
    let error ← Loading.call .nvsCommit
    return if error = .ok then .ok password else .error error

def loadApPassword : Loading (Except EspErr (List UInt8)) := do
  match ← Loading.call (.nvsGetStr .apPass 17) with
  | .ok password => return .ok password
  | .error .nvsNotFound => generateApPassword
  | .error error => return .error error

def errorOf : Except EspErr (List UInt8) → EspErr
  | .ok _ => .ok
  | .error error => error

/-- What becomes of `s_station` once both strings are asked for. -/
def loadStation (ssid password : Except EspErr (List UInt8)) :
    Except EspErr StationConfig :=
  match ssid, password with
  | .ok ssid, .ok password =>
      if typxWifiStationCredentialsValid (some ssid) (some password) then
        .ok ⟨ssid, password, true⟩
      else
        .ok typxWifiStationConfigClear
  | ssid, password =>
      let ssidError := errorOf ssid
      let passwordError := errorOf password
      if (ssidError = .nvsNotFound ∨ ssidError = .ok) ∧
          (passwordError = .nvsNotFound ∨ passwordError = .ok) then
        .ok typxWifiStationConfigClear
      else
        .error (if ssidError ≠ .ok then ssidError else passwordError)

def loadCredentials : Loading (Except EspErr Credentials) := do
  match ← Loading.call .readMac with
  | .error error => return .error error
  | .ok mac =>
      let error ← Loading.call .nvsOpen
      if error ≠ .ok then
        return .error error
      else
        match ← loadApPassword with
        | .error error => return .error error
        | .ok password =>
            let ssid ← Loading.call (.nvsGetStr (.station .staSsid) 33)
            let stationPassword ← Loading.call (.nvsGetStr (.station .staPass) 65)
            return (loadStation ssid stationPassword).map fun station =>
              { station := station
                apSsid := apSsid mac
                apPassword := password
                mdnsHostname := typxDiscoveryHostname mac }

/-! ## From one loss of power to the next -/

inductive PowerEvent
  /-- The board comes up, and loses its power as `board`. -/
  | on (credentials : Credentials) (labels : List (Label wifiCalls Role))
      (board : Board)
  /-- `typx_wifi_service_init` fails. -/
  | failed (error : EspErr)

/-- A loss of power while the credentials are loaded leaves what a failure of
the next call leaves. -/
inductive PowerStep : Flash → PowerEvent → Flash → Prop
  | on {flash loaded : Flash} {trace : Interaction.Trace credentialCalls}
      {credentials : Credentials} {labels : List (Label wifiCalls Role)}
      {after : State wifiCalls Role Board} :
      Program.Exec flashEnvironment loadCredentials flash trace
        (.ok credentials) loaded →
      Run (Step wifiDesign) (quiet (boot credentials loaded.station)) labels
        after →
      PowerStep flash (.on credentials labels after.shared)
        { loaded with station := after.shared.nvs }
  | failed {flash loaded : Flash} {trace : Interaction.Trace credentialCalls}
      {error : EspErr} :
      Program.Exec flashEnvironment loadCredentials flash trace
        (.error error) loaded →
      PowerStep flash (.failed error) loaded

/-! ## What is loaded -/

def storedStation (nvs : NvsKey → Option (List UInt8)) : StationConfig :=
  match nvs .staSsid, nvs .staPass with
  | some ssid, some password =>
      if typxWifiStationCredentialsValid (some ssid) (some password) then
        ⟨ssid, password, true⟩
      else
        typxWifiStationConfigClear
  | _, _ => typxWifiStationConfigClear

structure Generated (password : List UInt8) : Prop where
  length : password.length = 16
  characters : ∀ character ∈ password, character ∈ passwordAlphabet

theorem randomCharacters_ensures (count : Nat) (flash : Flash) :
    Program.Ensures flashEnvironment (randomCharacters count) flash
      fun _ password after => after = flash ∧ password.length = count ∧
        ∀ character ∈ password, character ∈ passwordAlphabet := by
  induction count generalizing flash with
  | zero => exact Program.ensures_done.mpr ⟨rfl, rfl, by simp⟩
  | succ count induction =>
      refine Program.ensures_ask.mpr ?_
      intro number middle same
      rw [show middle = flash from same]
      change Program.Ensures _ (randomCharacters count >>= _) _ _
      refine Program.Ensures.bind (induction flash) ?_
      intro trace rest after facts
      rcases facts with ⟨unchanged, length, within⟩
      refine Program.ensures_done.mpr ⟨unchanged, by simp [length], ?_⟩
      intro character member
      rcases List.mem_cons.mp member with first | later
      · rw [first]
        have bound : number.toNat % passwordAlphabet.length <
            passwordAlphabet.length := Nat.mod_lt _ (by decide)
        rw [List.getD_eq_getElem?_getD, List.getElem?_eq_getElem bound]
        exact List.getElem_mem bound
      · exact within character later

structure PasswordKept (before after : Flash) : Prop where
  station : after.station = before.station
  kept : before.apPass ≠ none → after.apPass = before.apPass
  fresh : before.apPass = none → after.apPass = none ∨
    ∃ password, Generated password ∧ after.apPass = some password

theorem PasswordKept.refl (flash : Flash) : PasswordKept flash flash :=
  ⟨rfl, fun _ => rfl, .inl⟩

theorem generateApPassword_ensures {flash : Flash}
    (absent : flash.apPass = none) :
    Program.Ensures flashEnvironment generateApPassword flash
      fun _ result after => PasswordKept flash after ∧
        ∀ password, result = .ok password → after.apPass = some password ∧
          password.length < 17 := by
  refine Program.Ensures.bind (randomCharacters_ensures 16 flash) ?_
  intro trace password middle facts
  rcases facts with ⟨unchanged, length, within⟩
  rw [unchanged]
  refine Program.ensures_ask.mpr ?_
  intro error middle stored
  have generated : PasswordKept flash { flash with apPass := some password } := by
    refine ⟨rfl, fun present => absurd absent present, ?_⟩
    exact fun _ => .inr ⟨password, ⟨length, within⟩, rfl⟩
  change Program.Ensures _ (if error ≠ .ok then _ else _) _ _
  split
  · rename_i failed
    rw [show middle = if error = .ok then _ else flash from stored,
      if_neg failed]
    exact Program.ensures_done.mpr ⟨.refl flash, by simp⟩
  · rename_i succeeded
    rw [show middle = if error = .ok then _ else flash from stored,
      if_pos (not_not.mp succeeded)]
    refine Program.ensures_ask.mpr ?_
    intro committed after same
    rw [show after = { flash with apPass := some password } from same]
    refine Program.ensures_done.mpr ⟨generated, ?_⟩
    intro found returned
    split at returned
    · cases returned
      exact ⟨rfl, by omega⟩
    · cases returned

theorem loadApPassword_ensures (flash : Flash) :
    Program.Ensures flashEnvironment loadApPassword flash
      fun _ result after => PasswordKept flash after ∧
        ∀ password, result = .ok password → after.apPass = some password ∧
          password.length < 17 := by
  refine Program.ensures_ask.mpr ?_
  intro result middle answered
  rcases answered with ⟨same, found⟩
  rw [same]
  cases result with
  | ok password =>
      refine Program.ensures_done.mpr ⟨.refl flash, ?_⟩
      intro returned equal
      cases equal
      exact found
  | error error =>
      cases error with
      | nvsNotFound => exact generateApPassword_ensures found
      | _ =>
          refine Program.ensures_done.mpr ⟨.refl flash, ?_⟩
          intro password returned
          cases returned

theorem loadStation_unread {ssid password : Except EspErr (List UInt8)}
    {station : StationConfig}
    (unread : errorOf ssid ≠ .ok ∨ errorOf password ≠ .ok)
    (loaded : loadStation ssid password = .ok station) :
    station = typxWifiStationConfigClear ∧
      (errorOf ssid = .nvsNotFound ∨ errorOf ssid = .ok) ∧
      (errorOf password = .nvsNotFound ∨ errorOf password = .ok) := by
  have eq : loadStation ssid password =
      if (errorOf ssid = .nvsNotFound ∨ errorOf ssid = .ok) ∧
          (errorOf password = .nvsNotFound ∨ errorOf password = .ok) then
        .ok typxWifiStationConfigClear
      else
        .error (if errorOf ssid ≠ .ok then errorOf ssid
          else errorOf password) := by
    cases ssid with
    | ok _ =>
        cases password with
        | ok _ => simp [errorOf] at unread
        | error _ => rfl
    | error _ => cases password <;> rfl
  rw [eq] at loaded
  split at loaded
  · rename_i tolerated
    exact ⟨(Except.ok.inj loaded).symm, tolerated⟩
  · cases loaded

theorem storedStation_absent {nvs : NvsKey → Option (List UInt8)}
    (absent : nvs .staSsid = none ∨ nvs .staPass = none) :
    storedStation nvs = typxWifiStationConfigClear := by
  unfold storedStation
  rcases absent with none | none
  · rw [none]
  · rw [none]
    cases nvs .staSsid <;> rfl

theorem loadStation_stored {flash : Flash}
    {ssid password : Except EspErr (List UInt8)} {station : StationConfig}
    (ssidRead : flashEnvironment (.nvsGetStr (.station .staSsid) 33) flash ssid
      flash)
    (passwordRead : flashEnvironment (.nvsGetStr (.station .staPass) 65) flash
      password flash)
    (loaded : loadStation ssid password = .ok station) :
    station = storedStation flash.station := by
  have absent : ∀ {key capacity error}, flashEnvironment
      (.nvsGetStr (.station key) capacity) flash (.error error) flash →
      error = .nvsNotFound ∨ error = .ok → flash.station key = none := by
    intro key capacity error read tolerated
    rcases tolerated with same | same
    · rw [same] at read
      exact read.2
    · rw [same] at read
      exact absurd rfl read.2
  have read : ∀ {key capacity error}, flashEnvironment
      (.nvsGetStr (.station key) capacity) flash (.error error) flash →
      error ≠ .ok := by
    intro key capacity error read same
    rw [same] at read
    exact absurd rfl read.2
  cases ssid with
  | error error =>
      rcases loadStation_unread (.inl (read ssidRead)) loaded with
        ⟨cleared, tolerated, _⟩
      rw [cleared, storedStation_absent (.inl (absent ssidRead tolerated))]
  | ok ssid =>
  cases password with
  | error error =>
      rcases loadStation_unread (.inr (read passwordRead)) loaded with
        ⟨cleared, _, tolerated⟩
      rw [cleared, storedStation_absent (.inr (absent passwordRead tolerated))]
  | ok password =>
      have first : flash.station .staSsid = some ssid := ssidRead.2.1
      have second : flash.station .staPass = some password := passwordRead.2.1
      rw [storedStation, first, second]
      rw [loadStation] at loaded
      split at loaded
      · rename_i valid
        rw [← Except.ok.inj loaded]
        exact (if_pos valid).symm
      · rename_i invalid
        rw [← Except.ok.inj loaded]
        exact (if_neg invalid).symm

structure Loaded (before after : Flash)
    (result : Except EspErr Credentials) : Prop where
  password : PasswordKept before after
  credentials : ∀ credentials, result = .ok credentials →
    after.apPass = some credentials.apPassword ∧
      credentials.apPassword.length < 17 ∧ credentials.apSsid.length = 20 ∧
      credentials.station = storedStation before.station

theorem loadCredentials_ensures (flash : Flash) :
    Program.Ensures flashEnvironment loadCredentials flash
      fun _ result after => Loaded flash after result := by
  have failed : ∀ {after : Flash} {error : EspErr}, PasswordKept flash after →
      Loaded flash after (.error error) := by
    intro after error kept
    refine ⟨kept, ?_⟩
    intro credentials returned
    cases returned
  refine Program.ensures_ask.mpr ?_
  intro mac middle same
  rw [show middle = flash from same]
  cases mac with
  | error error => exact Program.ensures_done.mpr (failed (.refl flash))
  | ok mac =>
  refine Program.ensures_ask.mpr ?_
  intro opened middle same
  rw [show middle = flash from same]
  change Program.Ensures _ (if opened ≠ .ok then _ else _) _ _
  split
  · exact Program.ensures_done.mpr (failed (.refl flash))
  refine Program.Ensures.bind (loadApPassword_ensures flash) ?_
  intro trace result after facts
  rcases facts with ⟨kept, returned⟩
  cases result with
  | error error => exact Program.ensures_done.mpr (failed kept)
  | ok password =>
  have stored := returned password rfl
  refine Program.ensures_ask.mpr ?_
  intro ssid middle ssidRead
  have unchanged : middle = after := ssidRead.1
  rw [unchanged] at ssidRead ⊢
  refine Program.ensures_ask.mpr ?_
  intro stationPassword middle passwordRead
  have unchanged : middle = after := passwordRead.1
  rw [unchanged] at passwordRead ⊢
  refine Program.ensures_done.mpr ⟨kept, ?_⟩
  intro credentials loaded
  cases station : loadStation ssid stationPassword with
  | error error =>
      rw [station] at loaded
      cases loaded
  | ok found =>
      rw [station] at loaded
      cases loaded
      refine ⟨stored.1, stored.2, ?_, ?_⟩
      · simp [apSsid, upperHex, ascii]
      · rw [← kept.station]
        exact loadStation_stored ssidRead passwordRead station

end Typxen.WifiLink
