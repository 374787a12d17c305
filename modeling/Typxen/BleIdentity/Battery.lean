import Typxen.BleIdentity.ValidConfig

/-! # The simulated battery

The level that a sequence of reports leaves is a function of the active time
between the first and the last of them. -/

namespace Typxen.BleIdentity

/-! ## The level -/

def descend (minimum maximum current count : Nat) : Nat :=
  maximum - (maximum - current + count) % (maximum - minimum + 1)

section Descend

variable {minimum maximum current : Nat}

theorem descend_zero (within : minimum ≤ current ∧ current ≤ maximum) :
    descend minimum maximum current 0 = current := by
  rw [descend, Nat.add_zero, Nat.mod_eq_of_lt (by omega)]
  omega

theorem descend_within (range : minimum ≤ maximum) (current count : Nat) :
    minimum ≤ descend minimum maximum current count ∧
      descend minimum maximum current count ≤ maximum := by
  have small : (maximum - current + count) % (maximum - minimum + 1) <
      maximum - minimum + 1 := Nat.mod_lt _ (Nat.succ_pos _)
  rw [descend]
  omega

theorem descend_add (range : minimum ≤ maximum) (current first second : Nat) :
    descend minimum maximum (descend minimum maximum current first) second =
      descend minimum maximum current (first + second) := by
  have small : (maximum - current + first) % (maximum - minimum + 1) <
      maximum - minimum + 1 := Nat.mod_lt _ (Nat.succ_pos _)
  have below : maximum - descend minimum maximum current first =
      (maximum - current + first) % (maximum - minimum + 1) := by
    rw [descend]
    omega
  rw [descend, below, Nat.mod_add_mod, descend, Nat.add_assoc]

theorem descend_one (within : minimum ≤ current ∧ current ≤ maximum) :
    descend minimum maximum current 1 =
      if current ≤ minimum then maximum else current - 1 := by
  rw [descend]
  split
  · have full : maximum - current + 1 = maximum - minimum + 1 := by omega
    rw [full, Nat.mod_self]
    omega
  · rw [Nat.mod_eq_of_lt (by omega)]
    omega

end Descend

/-! ## The loop -/

theorem drop_toNat {minimum maximum current : UInt8}
    (within : minimum ≤ current ∧ current ≤ maximum) :
    (if current ≤ minimum then maximum else current - 1).toNat =
      descend minimum.toNat maximum.toNat current.toNat 1 := by
  have low := UInt8.le_iff_toNat_le.mp within.1
  have high := UInt8.le_iff_toNat_le.mp within.2
  rw [descend_one ⟨low, high⟩]
  by_cases least : current ≤ minimum
  · rw [if_pos least, if_pos (UInt8.le_iff_toNat_le.mp least)]
  · have above : ¬current.toNat ≤ minimum.toNat := by
      rw [← UInt8.le_iff_toNat_le]
      exact least
    have one : (1 : UInt8) ≤ current := by
      rw [UInt8.le_iff_toNat_le]
      change 1 ≤ current.toNat
      omega
    rw [if_neg least, if_neg above, UInt8.toNat_sub_of_le _ _ one]
    rfl

/-- The loop divides the active time by the interval. -/
theorem batteryDrops_eq {minimum maximum : UInt8} {intervalMs : UInt64}
    {fuel : Nat} {activeMs : UInt64} {current : UInt8} (changed : Bool)
    (range : minimum < maximum)
    (within : minimum ≤ current ∧ current ≤ maximum)
    (interval : 0 < intervalMs.toNat) (enough : activeMs.toNat < fuel) :
    batteryDrops minimum maximum intervalMs fuel activeMs current changed =
      some (UInt64.ofNat (activeMs.toNat % intervalMs.toNat),
        UInt8.ofNat (descend minimum.toNat maximum.toNat current.toNat
          (activeMs.toNat / intervalMs.toNat)),
        changed || decide (0 < activeMs.toNat / intervalMs.toNat)) := by
  induction fuel generalizing activeMs current changed with
  | zero => omega
  | succ fuel induction =>
      rw [batteryDrops]
      by_cases due : activeMs ≥ intervalMs
      · have reached := UInt64.le_iff_toNat_le.mp due
        have rest : (activeMs - intervalMs).toNat =
            activeMs.toNat - intervalMs.toNat := UInt64.toNat_sub_of_le _ _ due
        have split : activeMs.toNat / intervalMs.toNat =
            1 + (activeMs.toNat - intervalMs.toNat) / intervalMs.toNat := by
          rw [Nat.div_eq_sub_div interval reached, Nat.add_comm]
        rw [if_pos due, induction true (drop_within range within) (by omega),
          rest, drop_toNat within, descend_add
            (Nat.le_of_lt (UInt8.lt_iff_toNat_lt.mp range)), ← split,
          ← Nat.mod_eq_sub_mod reached]
        have positive : 0 < activeMs.toNat / intervalMs.toNat :=
          Nat.div_pos reached interval
        simp [positive]
      · have early : activeMs.toNat < intervalMs.toNat :=
          UInt64.lt_iff_toNat_lt.mp (UInt64.not_le.mp due)
        have low := UInt8.le_iff_toNat_le.mp within.1
        have high := UInt8.le_iff_toNat_le.mp within.2
        rw [if_neg due, Nat.div_eq_of_lt early, Nat.mod_eq_of_lt early,
          descend_zero ⟨low, high⟩]
        simp

/-! ## Reports -/

def recordReports (state : State) :
    (times : List UInt64) → Option (State × List Bool)
  | [] => some (state, [])
  | nowMs :: times => do
      let (next, changed) ←
        typxBleIdentityRecordSuccessfulReport state nowMs true
      let (final, results) ← recordReports next times
      return (final, changed :: results)

theorem recordReports_cons {state next final : State} {nowMs : UInt64}
    {times : List UInt64} {changed : Bool} {results : List Bool}
    (reported : typxBleIdentityRecordSuccessfulReport state nowMs true =
      some (next, changed))
    (others : recordReports next times = some (final, results)) :
    recordReports state (nowMs :: times) = some (final, changed :: results) := by
  simp only [recordReports, reported, others, Option.bind_eq_bind,
    Option.bind_some]
  rfl

def State.intervalMs (state : State) : Nat :=
  state.config.batteryDropActiveMinutes.toNat * 60000

def State.drops (state : State) (elapsedMs : Nat) : Nat :=
  (state.batteryActiveMs.toNat + elapsedMs) / state.intervalMs

def State.levelAfter (state : State) (elapsedMs : Nat) : Nat :=
  descend state.config.batteryMinimumPercent.toNat
    state.config.batteryMaximumPercent.toNat
    state.config.batteryCurrentPercent.toNat (state.drops elapsedMs)

def State.settled (state : State) (elapsedMs : Nat) (nowMs : UInt64) : State :=
  { state with
    lastSuccessMs := nowMs
    activityOpen := true
    batteryActiveMs := UInt64.ofNat
      ((state.batteryActiveMs.toNat + elapsedMs) % state.intervalMs)
    config := { state.config with
      batteryCurrentPercent := UInt8.ofNat (state.levelAfter elapsedMs) } }

section Reports

variable {state : State} {serialMayBeEmpty : Bool}

/-! ### What a report leaves alone

The counter and the level are variables here. With the numbers of `settled` in
their place, comparing the two states unfolds the divisions. -/

def State.withReport (state : State) (nowMs activeMs : UInt64)
    (level : UInt8) : State :=
  { state with
    lastSuccessMs := nowMs
    activityOpen := true
    batteryActiveMs := activeMs
    config := { state.config with batteryCurrentPercent := level } }

theorem State.settled_eq (elapsedMs : Nat) (nowMs : UInt64) :
    state.settled elapsedMs nowMs = state.withReport nowMs
      (UInt64.ofNat
        ((state.batteryActiveMs.toNat + elapsedMs) % state.intervalMs))
      (UInt8.ofNat (state.levelAfter elapsedMs)) :=
  rfl

section WithReport

variable (nowMs activeMs : UInt64) (level : UInt8)

theorem State.withReport_intervalMs :
    (state.withReport nowMs activeMs level).intervalMs = state.intervalMs :=
  rfl

theorem State.withReport_range :
    (state.withReport nowMs activeMs level).config.batteryMinimumPercent =
        state.config.batteryMinimumPercent ∧
      (state.withReport nowMs activeMs level).config.batteryMaximumPercent =
        state.config.batteryMaximumPercent :=
  ⟨rfl, rfl⟩

theorem State.withReport_enabled :
    (state.withReport nowMs activeMs level).config.batterySimulationEnabled =
      state.config.batterySimulationEnabled :=
  rfl

theorem State.withReport_withReport (laterMs laterActiveMs : UInt64)
    (laterLevel : UInt8) :
    (state.withReport nowMs activeMs level).withReport laterMs laterActiveMs
        laterLevel =
      state.withReport laterMs laterActiveMs laterLevel :=
  rfl

variable {level}

theorem State.withReport_valid
    (valid : ValidConfig serialMayBeEmpty state.config)
    (within : state.config.batteryMinimumPercent ≤ level ∧
      level ≤ state.config.batteryMaximumPercent) :
    ValidConfig serialMayBeEmpty
      (state.withReport nowMs activeMs level).config :=
  { valid with current := within }

end WithReport

/-! ### The numbers -/

theorem State.intervalMs_positive
    (valid : ValidConfig serialMayBeEmpty state.config) :
    0 < state.intervalMs := by
  have positive := interval_positive valid.interval
  rw [interval_toNat] at positive
  exact positive

theorem State.intervalMs_lt (state : State) : state.intervalMs < 2 ^ 64 := by
  have small := state.config.batteryDropActiveMinutes.toNat_lt
  rw [State.intervalMs]
  omega

theorem State.levelAfter_within
    (valid : ValidConfig serialMayBeEmpty state.config) (elapsedMs : Nat) :
    state.config.batteryMinimumPercent.toNat ≤ state.levelAfter elapsedMs ∧
      state.levelAfter elapsedMs ≤ state.config.batteryMaximumPercent.toNat :=
  descend_within (Nat.le_of_lt (UInt8.lt_iff_toNat_lt.mp valid.range)) _ _

theorem State.settled_activeMs
    (valid : ValidConfig serialMayBeEmpty state.config) (elapsedMs : Nat)
    (nowMs : UInt64) :
    (state.settled elapsedMs nowMs).batteryActiveMs.toNat =
      (state.batteryActiveMs.toNat + elapsedMs) % state.intervalMs :=
  UInt64.toNat_ofNat_of_lt' (Nat.lt_trans
    (Nat.mod_lt _ (state.intervalMs_positive valid)) state.intervalMs_lt)

theorem State.settled_level
    (valid : ValidConfig serialMayBeEmpty state.config) (elapsedMs : Nat)
    (nowMs : UInt64) :
    (state.settled elapsedMs nowMs).config.batteryCurrentPercent.toNat =
      state.levelAfter elapsedMs :=
  UInt8.toNat_ofNat_of_lt' (Nat.lt_of_le_of_lt
    (state.levelAfter_within valid elapsedMs).2
    state.config.batteryMaximumPercent.toNat_lt)

theorem State.settled_valid (valid : ValidConfig serialMayBeEmpty state.config)
    (elapsedMs : Nat) (nowMs : UInt64) :
    ValidConfig serialMayBeEmpty (state.settled elapsedMs nowMs).config := by
  have within := state.levelAfter_within valid elapsedMs
  rw [← state.settled_level valid elapsedMs nowMs] at within
  rw [state.settled_eq]
  exact state.withReport_valid _ _ valid
    ⟨UInt8.le_iff_toNat_le.mpr within.1, UInt8.le_iff_toNat_le.mpr within.2⟩

/-! ### In two parts -/

theorem State.settled_drops
    (valid : ValidConfig serialMayBeEmpty state.config)
    (first second : Nat) (firstMs : UInt64) :
    state.drops first + (state.settled first firstMs).drops second =
      state.drops (first + second) := by
  have positive := state.intervalMs_positive valid
  have whole := Nat.div_add_mod (state.batteryActiveMs.toNat + first)
    state.intervalMs
  rw [State.drops, State.drops, state.settled_activeMs valid, state.settled_eq,
    state.withReport_intervalMs, ← Nat.mul_add_div positive, ← Nat.add_assoc,
    whole, Nat.add_assoc, State.drops]

theorem State.settled_levelAfter
    (valid : ValidConfig serialMayBeEmpty state.config)
    (first second : Nat) (firstMs : UInt64) :
    (state.settled first firstMs).levelAfter second =
      state.levelAfter (first + second) := by
  have range := Nat.le_of_lt (UInt8.lt_iff_toNat_lt.mp valid.range)
  rw [State.levelAfter, state.settled_level valid, State.levelAfter,
    State.levelAfter, ← state.settled_drops valid first second firstMs,
    state.settled_eq, (state.withReport_range _ _ _).1,
    (state.withReport_range _ _ _).2, descend_add range]

theorem State.settled_settled
    (valid : ValidConfig serialMayBeEmpty state.config)
    (first second : Nat) (firstMs secondMs : UInt64) :
    (state.settled first firstMs).settled second secondMs =
      state.settled (first + second) secondMs := by
  have active : ((state.settled first firstMs).batteryActiveMs.toNat + second) %
      (state.settled first firstMs).intervalMs =
        (state.batteryActiveMs.toNat + (first + second)) % state.intervalMs := by
    rw [state.settled_activeMs valid, state.settled_eq,
      state.withReport_intervalMs, ← Nat.add_assoc, Nat.mod_add_mod]
  rw [State.settled_eq, active, state.settled_levelAfter valid,
    state.settled_eq, state.withReport_withReport, ← state.settled_eq]

/-! ### A run -/

theorem recordSuccessfulReport_settled {nowMs : UInt64}
    (valid : ValidConfig serialMayBeEmpty state.config)
    (enabled : state.config.batterySimulationEnabled = true)
    (opened : state.activityOpen = true) (later : state.lastSuccessMs ≤ nowMs)
    (room : state.batteryActiveMs.toNat +
      (nowMs.toNat - state.lastSuccessMs.toNat) < 2 ^ 64) :
    typxBleIdentityRecordSuccessfulReport state nowMs true =
      some (state.settled (nowMs.toNat - state.lastSuccessMs.toNat) nowMs,
        decide (0 < state.drops
          (nowMs.toNat - state.lastSuccessMs.toNat))) := by
  have active : (state.batteryActiveMs + (nowMs - state.lastSuccessMs)).toNat =
      state.batteryActiveMs.toNat +
        (nowMs.toNat - state.lastSuccessMs.toNat) := by
    rw [UInt64.toNat_add, UInt64.toNat_sub_of_le _ _ later]
    exact Nat.mod_eq_of_lt room
  have drops := batteryDrops_eq false valid.range valid.current
    (interval_positive valid.interval) (Nat.lt_succ_self
      (state.batteryActiveMs + (nowMs - state.lastSuccessMs)).toNat)
  rw [interval_toNat, active] at drops
  rw [typxBleIdentityRecordSuccessfulReport, if_neg (by simp [enabled]),
    if_neg (by simp [opened])]
  simp only [active, drops, Bool.false_or, State.settled, State.levelAfter,
    State.drops, State.intervalMs, opened]
  rfl

/-- Reports during an open activity amount to one report at the last. -/
theorem recordReports_settled {between : List UInt64} {last : UInt64}
    (valid : ValidConfig serialMayBeEmpty state.config)
    (enabled : state.config.batterySimulationEnabled = true)
    (opened : state.activityOpen = true)
    (ordered : (state.lastSuccessMs :: between ++ [last]).Pairwise (· ≤ ·))
    (room : state.batteryActiveMs.toNat +
      (last.toNat - state.lastSuccessMs.toNat) < 2 ^ 64) :
    ∃ results, recordReports state (between ++ [last]) =
        some (state.settled (last.toNat - state.lastSuccessMs.toNat) last,
          results) ∧
      (0 < results.count true ↔
        0 < state.drops (last.toNat - state.lastSuccessMs.toNat)) := by
  induction between generalizing state with
  | nil =>
      have later : state.lastSuccessMs ≤ last := by simpa using ordered
      have reported := recordSuccessfulReport_settled valid enabled opened later
        room
      exists [decide (0 < state.drops (last.toNat - state.lastSuccessMs.toNat))]
      constructor
      · exact recordReports_cons reported rfl
      · rw [List.count_pos_iff, List.mem_singleton, eq_comm, decide_eq_true_iff]
  | cons nowMs between induction =>
      rcases List.pairwise_cons.mp ordered with ⟨above, ascending⟩
      have later : state.lastSuccessMs ≤ nowMs := above nowMs (by simp)
      have least : nowMs ≤ last :=
        (List.pairwise_cons.mp ascending).1 last (by simp)
      have early := UInt64.le_iff_toNat_le.mp later
      have late := UInt64.le_iff_toNat_le.mp least
      let elapsed := nowMs.toNat - state.lastSuccessMs.toNat
      have whole : elapsed + (last.toNat - nowMs.toNat) =
          last.toNat - state.lastSuccessMs.toNat := by
        omega
      have remaining : (state.settled elapsed nowMs).batteryActiveMs.toNat +
          (last.toNat - nowMs.toNat) < 2 ^ 64 := by
        have smaller := Nat.mod_le (state.batteryActiveMs.toNat + elapsed)
          state.intervalMs
        rw [state.settled_activeMs valid]
        omega
      have reported := recordSuccessfulReport_settled valid enabled opened later
        (by omega)
      have still : (state.settled elapsed nowMs).config.batterySimulationEnabled =
          true := by
        rw [state.settled_eq, state.withReport_enabled]
        exact enabled
      rcases induction (state.settled_valid valid elapsed nowMs) still rfl
        ascending remaining with ⟨results, others, changed⟩
      have drops := state.settled_drops valid elapsed
        (last.toNat - nowMs.toNat) nowMs
      exists decide (0 < state.drops elapsed) :: results
      constructor
      · have all := recordReports_cons reported others
        rw [state.settled_settled valid] at all
        change _ = some (state.settled (elapsed + (last.toNat - nowMs.toNat))
          last, _) at all
        rw [whole] at all
        exact all
      · change _ ↔ 0 < (state.settled elapsed nowMs).drops
          (last.toNat - nowMs.toNat) at changed
        rw [← whole, ← drops, List.count_pos_iff, List.mem_cons, eq_comm,
          decide_eq_true_iff, ← List.count_pos_iff, changed]
        omega

end Reports

/-- With simulation enabled, the first report of an activity starts the clock,
and what the reports after it leave depends on the last alone. -/
theorem simulatedBattery_countsActiveTime {state : State}
    {serialMayBeEmpty : Bool} {first last : UInt64} {between : List UInt64}
    (valid : typxBleIdentityValidate state.config serialMayBeEmpty = .valid)
    (enabled : state.config.batterySimulationEnabled = true)
    (closed : state.activityOpen = false)
    (ordered : (first :: between ++ [last]).Pairwise (· ≤ ·))
    (room : state.batteryActiveMs.toNat + (last.toNat - first.toNat) <
      2 ^ 64) :
    (∃ final results,
      recordReports state (first :: between ++ [last]) =
          some (final, results) ∧
        final.batteryActiveMs.toNat =
          (state.batteryActiveMs.toNat + (last.toNat - first.toNat)) %
            state.intervalMs ∧
        final.config.batteryCurrentPercent.toNat =
          state.config.batteryMaximumPercent.toNat -
            (state.config.batteryMaximumPercent.toNat -
              state.config.batteryCurrentPercent.toNat +
                state.drops (last.toNat - first.toNat)) %
              (state.config.batteryMaximumPercent.toNat -
                state.config.batteryMinimumPercent.toNat + 1) ∧
        (0 < results.count true ↔
          0 < state.drops (last.toNat - first.toNat)) ∧
        ∀ others, others.Sublist between → ∃ otherResults,
          recordReports state (first :: others ++ [last]) =
            some (final, otherResults)) ∧
      ∀ activeMs current changed, ∃ result,
        batteryDrops state.config.batteryMinimumPercent
          state.config.batteryMaximumPercent
          (state.config.batteryDropActiveMinutes.toUInt64 * 60000)
          (activeMs.toNat + 1) activeMs current changed = some result := by
  have config := (validate_eq_valid_iff _ _).mp valid
  let opened := { state with lastSuccessMs := first, activityOpen := true }
  have same : ValidConfig serialMayBeEmpty opened.config := config
  have start : typxBleIdentityRecordSuccessfulReport state first true =
      some (opened, false) := by
    simp [typxBleIdentityRecordSuccessfulReport, enabled, closed, opened]
  have all : ∀ others, others.Sublist between → ∃ results,
      recordReports state (first :: others ++ [last]) = some
          (opened.settled (last.toNat - first.toNat) last, results) ∧
        (0 < results.count true ↔
          0 < state.drops (last.toNat - first.toNat)) := by
    intro others part
    have sorted := ordered.sublist ((part.cons_cons first).append_right [last])
    rcases recordReports_settled same enabled rfl sorted room with
      ⟨results, reported, changed⟩
    exists false :: results
    constructor
    · exact recordReports_cons start reported
    · rw [List.count_cons_of_ne (by decide), changed]
      rfl
  rcases all between (List.Sublist.refl _) with ⟨results, reported, changed⟩
  constructor
  · exact ⟨_, results, reported, opened.settled_activeMs config _ _,
      opened.settled_level config _ _, changed,
      fun others part => ⟨_, (all others part).choose_spec.1⟩⟩
  · intro activeMs current changed
    exact batteryDrops_returns _ _ _ _ (interval_positive config.interval)
      (Nat.lt_succ_self _)

theorem simulatedBattery_countsActiveTime_default :
    ∃ final results,
      recordReports (defaults (Vector.replicate 6 0) none)
          [0, 30000, 1500000] = some (final, results) ∧
        final.batteryActiveMs.toNat = 300000 ∧
        final.config.batteryCurrentPercent.toNat = 89 ∧
        0 < results.count true := by
  have valid := (validate_eq_valid_iff _ _).mpr
    (defaults_valid (Vector.replicate 6 0) none)
  have ordered : ((0 : UInt64) :: [30000] ++ [1500000]).Pairwise (· ≤ ·) := by
    decide
  rcases (simulatedBattery_countsActiveTime valid rfl rfl ordered
    (by decide)).1 with ⟨final, results, reported, active, level, changed, _⟩
  exact ⟨final, results, reported, active, level, changed.mpr (by decide)⟩

end Typxen.BleIdentity
