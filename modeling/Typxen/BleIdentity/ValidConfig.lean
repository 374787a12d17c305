import Typxen.BleIdentity.BleIdentity

/-! # Valid configurations

What `typx_ble_identity_validate` accepts, that it only looks at the strings in
the arrays, and that the component's operations keep a configuration valid. -/

namespace Typxen.BleIdentity

open CNumber CString

/-! ## Identity texts -/

structure IdentityTexts where
  deviceName : List UInt8
  manufacturerName : List UInt8
  modelNumber : List UInt8
  serialNumber : List UInt8
  hardwareRevision : List UInt8
  softwareRevision : List UInt8
  deriving DecidableEq

def Config.texts (config : Config) : IdentityTexts where
  deviceName := string config.deviceName.toList
  manufacturerName := string config.manufacturerName.toList
  modelNumber := string config.modelNumber.toList
  serialNumber := string config.serialNumber.toList
  hardwareRevision := string config.hardwareRevision.toList
  softwareRevision := string config.softwareRevision.toList

theorem identityTextChanged_iff (oldConfig newConfig : Config) :
    identityTextChanged oldConfig newConfig = true ↔
      newConfig.texts ≠ oldConfig.texts := by
  simp only [identityTextChanged, textDiffers, Config.texts, ne_eq,
    IdentityTexts.mk.injEq, Bool.or_eq_true, bne_iff_ne]
  tauto

structure SameConfig (left right : Config) : Prop where
  texts : left.texts = right.texts
  enabled : left.batterySimulationEnabled = right.batterySimulationEnabled
  minimum : left.batteryMinimumPercent = right.batteryMinimumPercent
  maximum : left.batteryMaximumPercent = right.batteryMaximumPercent
  current : left.batteryCurrentPercent = right.batteryCurrentPercent
  interval : left.batteryDropActiveMinutes = right.batteryDropActiveMinutes

theorem SameConfig.refl (config : Config) : SameConfig config config :=
  ⟨rfl, rfl, rfl, rfl, rfl, rfl⟩

/-! ## Validity -/

structure ValidConfig (serialMayBeEmpty : Bool) (config : Config) : Prop where
  deviceName : textValid config.deviceName false
  advertising : typxBleIdentityAdvertisingFits config.deviceName
  manufacturerName : textValid config.manufacturerName false
  modelNumber : textValid config.modelNumber false
  serialNumber : textValid config.serialNumber serialMayBeEmpty
  hardwareRevision : textValid config.hardwareRevision false
  softwareRevision : textValid config.softwareRevision false
  minimum : config.batteryMinimumPercent ≤ 99
  maximum : config.batteryMaximumPercent ≠ 0 ∧
    config.batteryMaximumPercent ≤ 100
  range : config.batteryMinimumPercent < config.batteryMaximumPercent
  current : config.batteryMinimumPercent ≤ config.batteryCurrentPercent ∧
    config.batteryCurrentPercent ≤ config.batteryMaximumPercent
  interval : config.batteryDropActiveMinutes ≠ 0 ∧
    config.batteryDropActiveMinutes ≤ 1440

theorem guard_eq_valid_iff {bad : Prop} [Decidable bad]
    {failure rest : Validation} (invalid : failure ≠ .valid) :
    (if bad then failure else rest) = .valid ↔ ¬bad ∧ rest = .valid := by
  by_cases holds : bad
  · simp [holds, invalid]
  · simp [holds]

theorem validate_eq_valid_iff (config : Config) (serialMayBeEmpty : Bool) :
    typxBleIdentityValidate config serialMayBeEmpty = .valid ↔
      ValidConfig serialMayBeEmpty config := by
  rw [typxBleIdentityValidate]
  simp (disch := decide) only [guard_eq_valid_iff]
  simp only [Bool.or_eq_true, Bool.not_eq_true', Bool.not_eq_false,
    decide_eq_true_eq, not_or, gt_iff_lt, ge_iff_le, UInt8.lt_one_iff,
    UInt16.lt_one_iff, UInt8.not_lt, UInt8.not_le, UInt16.not_lt, and_true]
  constructor
  · intro valid
    rcases valid with ⟨name, manufacturer, model, serial, hardware, software,
      range, level, minutes⟩
    exact {
      deviceName := name.1
      advertising := name.2
      manufacturerName := manufacturer
      modelNumber := model
      serialNumber := serial
      hardwareRevision := hardware
      softwareRevision := software
      minimum := range.1.1.1
      maximum := ⟨range.1.1.2, range.1.2⟩
      range := range.2
      current := level
      interval := minutes }
  · intro valid
    exact ⟨⟨valid.deviceName, valid.advertising⟩, valid.manufacturerName,
      valid.modelNumber, valid.serialNumber, valid.hardwareRevision,
      valid.softwareRevision,
      ⟨⟨⟨valid.minimum, valid.maximum.1⟩, valid.maximum.2⟩, valid.range⟩,
      valid.current, valid.interval⟩

/-! ## Only strings matter -/

theorem textValid_congr {capacity : Nat} {left right : Vector UInt8 capacity}
    {emptyAllowed : Bool} (same : string left.toList = string right.toList) :
    textValid left emptyAllowed = textValid right emptyAllowed := by
  simp only [textValid, same]

theorem ValidConfig.congr {serialMayBeEmpty : Bool} {left right : Config}
    (valid : ValidConfig serialMayBeEmpty left) (same : SameConfig left right) :
    ValidConfig serialMayBeEmpty right := by
  have texts := same.texts
  simp only [Config.texts, IdentityTexts.mk.injEq] at texts
  rcases texts with ⟨name, manufacturer, model, serial, hardware, software⟩
  exact {
    deviceName := textValid_congr name ▸ valid.deviceName
    advertising := by
      have fits := valid.advertising
      rw [typxBleIdentityAdvertisingFits, typxBleIdentityScanResponseBytes,
        name] at fits
      exact fits
    manufacturerName := textValid_congr manufacturer ▸ valid.manufacturerName
    modelNumber := textValid_congr model ▸ valid.modelNumber
    serialNumber := textValid_congr serial ▸ valid.serialNumber
    hardwareRevision := textValid_congr hardware ▸ valid.hardwareRevision
    softwareRevision := textValid_congr software ▸ valid.softwareRevision
    minimum := same.minimum ▸ valid.minimum
    maximum := same.maximum ▸ valid.maximum
    range := same.minimum ▸ same.maximum ▸ valid.range
    current := same.minimum ▸ same.maximum ▸ same.current ▸ valid.current
    interval := same.interval ▸ valid.interval }

theorem textValid_length {capacity : Nat} {text : Vector UInt8 capacity}
    {emptyAllowed : Bool} (valid : textValid text emptyAllowed) :
    (string text.toList).length < capacity := by
  simp only [textValid, Bool.and_eq_true, decide_eq_true_eq] at valid
  exact valid.1.1.1.1

theorem textValid_charArray {capacity : Nat} {text : List UInt8}
    (fits : text.length < capacity) (filled : text ≠ [])
    (head : ∀ value ∈ text.head?, isSpace value = false)
    (last : ∀ value ∈ text.getLast?, isSpace value = false)
    (printable : ∀ value ∈ text, 0x20 ≤ value ∧ value ≤ 0x7e) :
    textValid (charArray capacity text) false := by
  have clean : 0 ∉ text := by
    intro member
    exact absurd (printable 0 member).1 (by decide)
  rw [textValid, string_charArray (Nat.le_of_lt fits) clean]
  simpa [fits, filled, Option.any_eq_false] using ⟨⟨head, last⟩, printable⟩

/-! ## Generated serial numbers -/

theorem hexDigit_range (value : UInt32) :
    0x30 ≤ hexDigit (value &&& 0xf) ∧ hexDigit (value &&& 0xf) ≤ 0x46 := by
  have all : ∀ digit : Fin 16, 0x30 ≤ hexDigit (UInt32.ofNat digit) ∧
      hexDigit (UInt32.ofNat digit) ≤ 0x46 := by
    decide
  have small : (value &&& 0xf).toNat < 16 := by
    rw [UInt32.toNat_and]
    exact Nat.lt_of_le_of_lt Nat.and_le_right (by decide)
  have here := all ⟨(value &&& 0xf).toNat, small⟩
  simpa using here

theorem hex8_range {value : UInt32} {character : UInt8}
    (member : character ∈ hex8 value) : 0x30 ≤ character ∧ character ≤ 0x46 := by
  rcases List.mem_map.mp member with ⟨place, _, same⟩
  rw [← same]
  exact hexDigit_range _

def serialText (chipIdentity : Vector UInt8 6) : List UInt8 :=
  ascii "TYPX-" ++ hex8 (identityHash chipIdentity)

theorem serialText_printable (chipIdentity : Vector UInt8 6) :
    ∀ character ∈ serialText chipIdentity,
      0x21 ≤ character ∧ character ≤ 0x7e := by
  intro character member
  rcases List.mem_append.mp member with leading | digit
  · have all : (ascii "TYPX-").all
        (fun character => 0x21 ≤ character && character ≤ 0x7e) := rfl
    simpa using List.all_eq_true.mp all character leading
  · have range := hex8_range digit
    exact ⟨UInt8.le_trans (by decide) range.1,
      UInt8.le_trans range.2 (by decide)⟩

theorem isSpace_eq_false {character : UInt8} (above : 0x21 ≤ character) :
    isSpace character = false := by
  have large : 33 ≤ character.toNat := UInt8.le_iff_toNat_le.mp above
  have other : character ≠ 0x20 := by
    intro space
    rw [space] at large
    exact absurd large (by decide)
  have behind : ¬character ≤ 0x0d := by
    intro low
    exact absurd (UInt8.le_trans above low) (by decide)
  simp [isSpace, other, behind]

theorem generatedSerial_valid (chipIdentity : Vector UInt8 6) :
    textValid (typxBleIdentityGeneratedSerial chipIdentity) false := by
  have printable := serialText_printable chipIdentity
  apply textValid_charArray
  · change 13 < 33
    decide
  · change serialText chipIdentity ≠ []
    simp [serialText, ascii]
  · intro value first
    exact isSpace_eq_false (printable value (List.mem_of_mem_head? first)).1
  · intro value last
    exact isSpace_eq_false (printable value (List.mem_of_mem_getLast? last)).1
  · intro value member
    exact ⟨UInt8.le_trans (by decide) (printable value member).1,
      (printable value member).2⟩

theorem boardIdentifier_digits (chipIdentity : Vector UInt8 6) :
    string ((typxBleIdentityBoardIdentifier chipIdentity).toList.drop 6) =
      hex8 (identityHash chipIdentity) := by
  have clean : 0 ∉ hex8 (identityHash chipIdentity) := by
    intro member
    exact absurd (hex8_range member).1 (by decide)
  have array : (typxBleIdentityBoardIdentifier chipIdentity).toList =
      ascii "BOARD-" ++ hex8 (identityHash chipIdentity) ++ [0] := by
    apply charArray_toList
    change 14 ≤ 15
    decide
  have digits : (ascii "BOARD-" ++ hex8 (identityHash chipIdentity) ++
      [0]).drop 6 = hex8 (identityHash chipIdentity) ++ [0] := rfl
  rw [array, digits, string, List.takeWhile_append_of_pos]
  · simp
  · intro value member
    have nonzero : value ≠ 0 := fun zero => clean (zero ▸ member)
    simpa using nonzero

/-! ## The operations of the component -/

theorem defaults_valid (chipIdentity : Vector UInt8 6)
    (firmwareRevision : Option (List UInt8)) :
    ValidConfig false (defaults chipIdentity firmwareRevision).config where
  deviceName := rfl
  advertising := rfl
  manufacturerName := rfl
  modelNumber := rfl
  serialNumber := generatedSerial_valid chipIdentity
  hardwareRevision := rfl
  softwareRevision := rfl
  minimum := by simp [defaults]
  maximum := by simp [defaults]
  range := by simp [defaults]
  current := by simp [defaults]
  interval := by simp [defaults]

/-- What `typx_ble_identity_prepare_update` gives for a request it accepts. -/
structure Prepared (state : State) (requested effective : Config)
    (restartRequired : Bool) : Prop where
  accepted : ValidConfig true requested
  restart : restartRequired =
    (state.restartRequired || identityTextChanged state.config effective)
  filled : string requested.serialNumber.toList ≠ [] → effective = requested
  generated : string requested.serialNumber.toList = [] →
    effective = { requested with
      serialNumber := snprintf 33
        (ascii "TYPX-" ++ string (state.boardIdentifier.toList.drop 6)) }

theorem prepareUpdate_ok {state : State} {requested effective : Config}
    {restartRequired : Bool}
    (prepared : typxBleIdentityPrepareUpdate state requested =
      .ok (effective, restartRequired)) :
    Prepared state requested effective restartRequired := by
  rw [typxBleIdentityPrepareUpdate] at prepared
  split_ifs at prepared with invalid empty
  · cases prepared
    exact ⟨(validate_eq_valid_iff _ _).mp (not_not.mp invalid), rfl,
      fun filled => absurd empty filled, fun _ => rfl⟩
  · cases prepared
    exact ⟨(validate_eq_valid_iff _ _).mp (not_not.mp invalid), rfl,
      fun _ => rfl, fun absent => absurd absent empty⟩

theorem Prepared.serial {state : State} {requested effective : Config}
    {restartRequired : Bool} {chipIdentity : Vector UInt8 6}
    (prepared : Prepared state requested effective restartRequired)
    (board : state.boardIdentifier =
      typxBleIdentityBoardIdentifier chipIdentity)
    (empty : string requested.serialNumber.toList = []) :
    effective.serialNumber = typxBleIdentityGeneratedSerial chipIdentity := by
  rw [prepared.generated empty, board, boardIdentifier_digits]
  rfl

theorem textValid_nonempty {capacity : Nat} {text : Vector UInt8 capacity}
    {emptyAllowed : Bool} (valid : textValid text emptyAllowed)
    (filled : string text.toList ≠ []) : textValid text false := by
  simp only [textValid, Bool.and_eq_true] at valid ⊢
  rcases valid with ⟨⟨⟨⟨fits, _⟩, head⟩, last⟩, printable⟩
  exact ⟨⟨⟨⟨fits, by simpa using filled⟩, head⟩, last⟩, printable⟩

theorem Prepared.valid {state : State} {requested effective : Config}
    {restartRequired : Bool} {chipIdentity : Vector UInt8 6}
    (prepared : Prepared state requested effective restartRequired)
    (board : state.boardIdentifier =
      typxBleIdentityBoardIdentifier chipIdentity) :
    ValidConfig false effective := by
  have accepted := prepared.accepted
  by_cases empty : string requested.serialNumber.toList = []
  · have serial := prepared.serial board empty
    rw [prepared.generated empty] at serial ⊢
    exact { accepted with
      serialNumber := by
        rw [serial]
        exact generatedSerial_valid chipIdentity }
  · rw [prepared.filled empty]
    exact { accepted with
      serialNumber := textValid_nonempty accepted.serialNumber empty }

/-! ## The battery -/

theorem drop_within {minimum maximum current : UInt8}
    (range : minimum < maximum)
    (within : minimum ≤ current ∧ current ≤ maximum) :
    minimum ≤ (if current ≤ minimum then maximum else current - 1) ∧
      (if current ≤ minimum then maximum else current - 1) ≤ maximum := by
  split_ifs with low
  · exact ⟨UInt8.le_of_lt range, UInt8.le_refl _⟩
  · rw [UInt8.le_iff_toNat_le] at low within ⊢
    rw [UInt8.le_iff_toNat_le] at within ⊢
    have above : (1 : UInt8) ≤ current := by
      rw [UInt8.le_iff_toNat_le]
      change 1 ≤ current.toNat
      omega
    rw [UInt8.toNat_sub_of_le _ _ above]
    change minimum.toNat ≤ current.toNat - 1 ∧ current.toNat - 1 ≤ maximum.toNat
    omega

/-- The loop keeps the level in range, and says so when it changes it. -/
theorem batteryDrops_some {minimum maximum : UInt8} {intervalMs : UInt64}
    {fuel : Nat} {activeMs remainingMs : UInt64} {current level : UInt8}
    {before changed : Bool} (range : minimum < maximum)
    (within : minimum ≤ current ∧ current ≤ maximum)
    (drops : batteryDrops minimum maximum intervalMs fuel activeMs current
      before = some (remainingMs, level, changed)) :
    (minimum ≤ level ∧ level ≤ maximum) ∧
      (changed = false → level = current ∧ before = false) := by
  induction fuel generalizing activeMs current before with
  | zero => cases drops
  | succ fuel induction =>
      rw [batteryDrops] at drops
      by_cases due : activeMs ≥ intervalMs
      · rw [if_pos due] at drops
        rcases induction (drop_within range within) drops with ⟨kept, still⟩
        refine ⟨kept, fun unchanged => ?_⟩
        cases (still unchanged).2
      · rw [if_neg due] at drops
        cases drops
        exact ⟨within, fun unchanged => ⟨rfl, unchanged⟩⟩

theorem batteryDrops_returns (minimum maximum : UInt8) {intervalMs : UInt64}
    {fuel : Nat} {activeMs : UInt64} (current : UInt8) (changed : Bool)
    (interval : 0 < intervalMs.toNat) (enough : activeMs.toNat < fuel) :
    ∃ result, batteryDrops minimum maximum intervalMs fuel activeMs current
      changed = some result := by
  induction fuel generalizing activeMs current changed with
  | zero => omega
  | succ fuel induction =>
      rw [batteryDrops]
      by_cases due : activeMs ≥ intervalMs
      · rw [if_pos due]
        apply induction
        have reached := UInt64.le_iff_toNat_le.mp due
        rw [UInt64.toNat_sub_of_le _ _ due]
        omega
      · rw [if_neg due]
        exact ⟨_, rfl⟩

structure Continues (before : State) (level : UInt8) (after : State) :
    Prop where
  config : after.config = { before.config with batteryCurrentPercent := level }
  boardIdentifier : after.boardIdentifier = before.boardIdentifier
  sourceDeviceNameNvs : after.sourceDeviceNameNvs = before.sourceDeviceNameNvs
  sourceManufacturerNvs :
    after.sourceManufacturerNvs = before.sourceManufacturerNvs
  sourceModelNvs : after.sourceModelNvs = before.sourceModelNvs
  sourceSerialNvs : after.sourceSerialNvs = before.sourceSerialNvs
  within : before.config.batteryMinimumPercent ≤ level ∧
    level ≤ before.config.batteryMaximumPercent

theorem Continues.valid {before after : State} {level : UInt8}
    (continues : Continues before level after)
    (valid : ValidConfig false before.config) :
    ValidConfig false after.config := by
  rw [continues.config]
  exact { valid with current := continues.within }

theorem endActivity_continues {state : State}
    (valid : ValidConfig false state.config) :
    Continues state state.config.batteryCurrentPercent
      (typxBleIdentityEndActivity state) :=
  ⟨rfl, rfl, rfl, rfl, rfl, rfl, valid.current⟩

theorem resetBattery_continues {state : State}
    (valid : ValidConfig false state.config) :
    Continues state state.config.batteryMaximumPercent
      (typxBleIdentityResetBattery state).1 :=
  ⟨rfl, rfl, rfl, rfl, rfl, rfl, UInt8.le_of_lt valid.range,
    UInt8.le_refl _⟩

theorem recordSuccessfulReport_continues {state after : State}
    {nowMs : UInt64} {executionActive changed : Bool}
    (valid : ValidConfig false state.config)
    (recorded : typxBleIdentityRecordSuccessfulReport state nowMs
      executionActive = some (after, changed)) :
    ∃ level, Continues state level after ∧
      (changed = false → level = state.config.batteryCurrentPercent) := by
  rw [typxBleIdentityRecordSuccessfulReport] at recorded
  split_ifs at recorded with inactive closed
  · cases recorded
    exact ⟨_, ⟨rfl, rfl, rfl, rfl, rfl, rfl, valid.current⟩, fun _ => rfl⟩
  · cases recorded
    exact ⟨_, ⟨rfl, rfl, rfl, rfl, rfl, rfl, valid.current⟩, fun _ => rfl⟩
  · dsimp only at recorded
    split at recorded
    · cases recorded
    · rename_i remainingMs level _ drops
      have kept := batteryDrops_some valid.range valid.current drops
      cases recorded
      exact ⟨level, ⟨rfl, rfl, rfl, rfl, rfl, rfl, kept.1⟩,
        fun unchanged => (kept.2 unchanged).1⟩

theorem interval_toNat (minutes : UInt16) :
    (minutes.toUInt64 * 60000).toNat = minutes.toNat * 60000 := by
  have small := minutes.toNat_lt
  rw [UInt64.toNat_mul, UInt16.toNat_toUInt64]
  apply Nat.mod_eq_of_lt
  change minutes.toNat * 60000 < _
  omega

theorem interval_positive {minutes : UInt16}
    (range : minutes ≠ 0 ∧ minutes ≤ 1440) :
    0 < (minutes.toUInt64 * 60000).toNat := by
  have low : 0 < minutes.toNat := by
    apply Nat.pos_of_ne_zero
    intro zero
    exact range.1 (UInt16.toNat_inj.mp zero)
  rw [interval_toNat]
  omega

theorem recordSuccessfulReport_returns {state : State}
    (valid : ValidConfig false state.config) (nowMs : UInt64)
    (executionActive : Bool) :
    ∃ result, typxBleIdentityRecordSuccessfulReport state nowMs
      executionActive = some result := by
  rw [typxBleIdentityRecordSuccessfulReport]
  split_ifs with inactive closed
  · exact ⟨_, rfl⟩
  · exact ⟨_, rfl⟩
  · have returns := batteryDrops_returns
      state.config.batteryMinimumPercent state.config.batteryMaximumPercent
      state.config.batteryCurrentPercent false
      (interval_positive valid.interval) (Nat.lt_add_one
        (state.batteryActiveMs + (nowMs - state.lastSuccessMs)).toNat)
    rcases returns with ⟨result, drops⟩
    simp only [drops]
    exact ⟨_, rfl⟩

end Typxen.BleIdentity
