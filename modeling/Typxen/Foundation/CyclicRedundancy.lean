import Mathlib.Algebra.Field.ZMod
import Mathlib.Algebra.Polynomial.Div
import Mathlib.Algebra.Polynomial.OfFn
import Mathlib.Tactic.LinearCombination

/-! # Cyclic redundancy checks

A reflected shift register over `GF(2)` and the polynomial division that it
computes. Bits enter at the low end; the lowest bit of the register is the
coefficient of the highest power. -/

namespace CyclicRedundancy

open Polynomial

variable {width : Nat} {generator register other : BitVec width}
  {bits : List Bool}

def lowest (width : Nat) (bit : Bool) : BitVec width :=
  if bit then BitVec.ofNat width 1 else BitVec.ofNat width 0

def step (generator register : BitVec width) : BitVec width :=
  (register >>> 1) ^^^
    (if register.getLsbD 0 then generator else BitVec.ofNat width 0)

def steps (generator : BitVec width) : Nat → BitVec width → BitVec width
  | 0, register => register
  | count + 1, register => steps generator count (step generator register)

/-- The register after the bits of a message, first bit first. -/
def divide (generator : BitVec width) : BitVec width → List Bool → BitVec width
  | register, [] => register
  | register, bit :: bits =>
      divide generator (step generator (register ^^^ lowest width bit)) bits

theorem divide_append (register : BitVec width) (first second : List Bool) :
    divide generator register (first ++ second) =
      divide generator (divide generator register first) second := by
  induction first generalizing register with
  | nil => rfl
  | cons bit rest induction => exact induction _

/-! ## Linearity -/

theorem step_xor (generator register other : BitVec width) :
    step generator (register ^^^ other) =
      step generator register ^^^ step generator other := by
  apply BitVec.eq_of_getLsbD_eq
  intro index _
  simp only [step, BitVec.getLsbD_xor, BitVec.getLsbD_ushiftRight]
  cases register.getLsbD 0 <;> cases other.getLsbD 0 <;>
    simp [Bool.xor_left_comm, Bool.xor_comm]

/-! ## Nothing is lost

The constant coefficient of the generator is one, so that a step can be
undone. -/

theorem step_eq_zero (odd : generator.msb = true)
    (zero : step generator register = BitVec.ofNat width 0) :
    register = BitVec.ofNat width 0 := by
  have positive : 0 < width := by
    by_contra none
    have empty : width = 0 := by omega
    subst empty
    simp [BitVec.msb, BitVec.getMsbD] at odd
  have low : register.getLsbD 0 = false := by
    have top : (step generator register).getLsbD (width - 1) =
        register.getLsbD 0 := by
      rw [BitVec.msb_eq_getLsbD_last] at odd
      have beyond : register.getLsbD (1 + (width - 1)) = false :=
        BitVec.getLsbD_of_ge register _ (by omega)
      cases lowest : register.getLsbD 0 <;>
        simp [step, lowest, odd, beyond]
    rw [← top, zero, BitVec.getLsbD_zero]
  apply BitVec.eq_of_getLsbD_eq
  intro index _
  cases index with
  | zero => simpa using low
  | succ index =>
      have shifted := congrArg (BitVec.getLsbD · index) zero
      simpa [step, low, Nat.add_comm] using shifted

theorem step_injective (odd : generator.msb = true) :
    Function.Injective (step generator) := by
  intro register other same
  have difference :
      step generator (register ^^^ other) = BitVec.ofNat width 0 := by
    rw [step_xor, same, BitVec.xor_self]
  exact BitVec.xor_eq_zero_iff.mp (step_eq_zero odd difference)

theorem steps_injective (odd : generator.msb = true) (count : Nat) :
    Function.Injective (steps generator count) := by
  induction count with
  | zero => exact fun _ _ same => same
  | succ count induction =>
      intro register other same
      exact step_injective odd (induction same)

theorem divide_injective (odd : generator.msb = true) (bits : List Bool) :
    Function.Injective (divide generator · bits) := by
  induction bits with
  | nil => exact fun _ _ same => same
  | cons bit rest induction =>
      intro register other same
      have entered := step_injective odd (induction same)
      exact (BitVec.xor_left_inj _).mp entered

/-! ## Bursts

Bits that fit in the register act as if they were all entered at once. -/

def pack (width : Nat) : List Bool → BitVec width
  | [] => BitVec.ofNat width 0
  | bit :: bits => lowest width bit ^^^ (pack width bits <<< 1)

theorem lowest_getLsbD (bit : Bool) (index : Nat) :
    (lowest width bit).getLsbD index =
      (decide (index = 0) && decide (0 < width) && bit) := by
  cases bit <;> cases index <;> simp [lowest, BitVec.getLsbD_one]

theorem pack_getLsbD (bits : List Bool) (index : Nat) :
    (pack width bits).getLsbD index =
      (decide (index < width) && bits.getD index false) := by
  induction bits generalizing index with
  | nil => simp [pack]
  | cons bit rest induction =>
      rw [pack, BitVec.getLsbD_xor, BitVec.getLsbD_shiftLeft, lowest_getLsbD]
      cases index with
      | zero => simp
      | succ index =>
          rw [Nat.add_sub_cancel, induction]
          by_cases within : index + 1 < width
          · simp [within, Nat.lt_of_succ_lt within]
          · simp [within]

theorem step_shiftLeft (clear : register.msb = false) :
    step generator (register <<< 1) = register := by
  rw [BitVec.msb_eq_getLsbD_last] at clear
  apply BitVec.eq_of_getLsbD_eq
  intro index within
  by_cases last : index + 1 < width
  · simp [step, Nat.add_comm 1 index, last, BitVec.getLsbD_eq_getElem within]
  · have same : index = width - 1 := by omega
    subst same
    simp [step, clear]

theorem divide_eq_steps (fits : bits.length ≤ width) :
    divide generator register bits =
      steps generator bits.length (register ^^^ pack width bits) := by
  induction bits generalizing register with
  | nil => simp [divide, steps, pack]
  | cons bit rest induction =>
      rw [List.length_cons] at fits
      have clear : (pack width rest).msb = false := by
        rw [BitVec.msb_eq_getLsbD_last, pack_getLsbD, List.getD_eq_default _ _
          (by omega), Bool.and_false]
      rw [divide, induction (by omega), List.length_cons, steps, pack,
        ← BitVec.xor_assoc, step_xor _ (register ^^^ _), step_shiftLeft clear]

theorem pack_injective {first second : List Bool}
    (lengths : first.length = second.length) (fits : first.length ≤ width)
    (same : pack width first = pack width second) : first = second := by
  apply List.ext_getElem lengths
  intro index inFirst inSecond
  have within := Nat.lt_of_lt_of_le inFirst fits
  have bit := congrArg (BitVec.getLsbD · index) same
  simp only [pack_getLsbD, within, decide_true, Bool.true_and] at bit
  simpa [inFirst, inSecond] using bit

/-- Messages of one length that differ in one place only, by no more bits than
the register has, leave different registers. -/
theorem divide_burst (odd : generator.msb = true) {first second : List Bool}
    (lengths : first.length = second.length) (fits : first.length ≤ width)
    (register : BitVec width) (before after : List Bool)
    (same : divide generator register (before ++ first ++ after) =
      divide generator register (before ++ second ++ after)) :
    first = second := by
  rw [divide_append, divide_append _ (before ++ second)] at same
  have middle := divide_injective odd after same
  have fitsToo : second.length ≤ width := by
    rw [← lengths]
    exact fits
  rw [divide_append, divide_append, divide_eq_steps fits,
    divide_eq_steps fitsToo, lengths] at middle
  have packed := steps_injective odd _ middle
  exact pack_injective lengths fits ((BitVec.xor_right_inj _).mp packed)

/-! ## Polynomials

The register holds the remainder of a polynomial over `GF(2)`, its highest
coefficient in the lowest bit. -/

def coefficient (bit : Bool) : ZMod 2 :=
  if bit then 1 else 0

/-- The polynomial that a register holds. -/
noncomputable def residue (register : BitVec width) : (ZMod 2)[X] :=
  ofFn width fun power => coefficient (register.getMsbD power)

/-- A generator is written without its highest power. -/
noncomputable def modulus (generator : BitVec width) : (ZMod 2)[X] :=
  X ^ width + residue generator

noncomputable def message : List Bool → (ZMod 2)[X]
  | [] => 0
  | bit :: bits => C (coefficient bit) * X ^ bits.length + message bits

noncomputable def reflect (width : Nat) (polynomial : (ZMod 2)[X]) :
    BitVec width :=
  pack width ((List.range width).map fun place =>
    decide (polynomial.coeff (width - 1 - place) = 1))

theorem coefficient_xor (first second : Bool) :
    coefficient (first ^^ second) = coefficient first + coefficient second := by
  cases first <;> cases second <;> decide

theorem residue_coeff (register : BitVec width) (power : Nat) :
    (residue register).coeff power = coefficient (register.getMsbD power) := by
  by_cases within : power < width
  · simp [residue, within]
  · rw [residue, ofFn_coeff_eq_zero_of_ge _ (by omega), BitVec.getMsbD]
    simp [within, coefficient]

theorem residue_degree (register : BitVec width) :
    (residue register).degree < width :=
  ofFn_degree_lt _

theorem residue_xor (register other : BitVec width) :
    residue (register ^^^ other) = residue register + residue other := by
  apply Polynomial.ext
  intro power
  simp [residue_coeff, coefficient_xor]

theorem residue_zero : residue (BitVec.ofNat width 0) = 0 := by
  apply Polynomial.ext
  intro power
  simp [residue_coeff, coefficient]

theorem residue_lowest (positive : 0 < width) (bit : Bool) :
    X * residue (lowest width bit) = C (coefficient bit) * X ^ width := by
  apply Polynomial.ext
  intro power
  cases power with
  | zero => simp [coeff_X_pow, positive.ne]
  | succ power =>
      rw [coeff_X_mul, residue_coeff, coeff_C_mul, coeff_X_pow, BitVec.getMsbD,
        lowest_getLsbD]
      by_cases top : power + 1 = width
      · subst top
        simp
      · by_cases within : power < width
        · have above : width - 1 - power ≠ 0 := by omega
          simp [top, above, coefficient]
        · simp [top, within, coefficient]

theorem residue_shift (register : BitVec width) :
    X * residue register =
      residue (register >>> 1) +
        C (coefficient (register.getLsbD 0)) * X ^ width := by
  apply Polynomial.ext
  intro power
  rw [coeff_add, coeff_C_mul, coeff_X_pow, residue_coeff,
    BitVec.getMsbD_ushiftRight]
  cases power with
  | zero =>
      by_cases empty : 0 = width
      · subst empty
        simp [coefficient]
      · simp [empty, coefficient]
  | succ power =>
      rw [coeff_X_mul, residue_coeff]
      by_cases last : power + 1 = width
      · subst last
        simp [BitVec.getMsbD, coefficient]
      · by_cases within : power + 1 < width
        · simp [last, within]
        · have beyond : ¬power < width := by omega
          simp [last, within, beyond, BitVec.getMsbD, coefficient]

theorem residue_step (generator register : BitVec width) :
    residue (step generator register) =
      X * residue register +
        C (coefficient (register.getLsbD 0)) * modulus generator := by
  have taken :
      residue (if register.getLsbD 0 then generator else BitVec.ofNat width 0) =
      C (coefficient (register.getLsbD 0)) * residue generator := by
    cases register.getLsbD 0 <;> simp [coefficient, residue_zero]
  have twice := CharTwo.add_self_eq_zero
    (C (coefficient (register.getLsbD 0)) * X ^ width)
  rw [step, residue_xor, taken, residue_shift, modulus]
  linear_combination -twice

theorem coefficient_eq_one (bit : Bool) :
    decide (coefficient bit = 1) = bit := by
  cases bit <;> decide

theorem reflect_residue (register : BitVec width) :
    reflect width (residue register) = register := by
  apply BitVec.eq_of_getLsbD_eq
  intro place within
  have power : width - 1 - place < width := by omega
  have back : width - 1 - (width - 1 - place) = place := by omega
  rw [reflect, pack_getLsbD, List.getD_eq_getElem _ _ (by simpa using within)]
  simp only [List.getElem_map, List.getElem_range, residue_coeff,
    coefficient_eq_one, BitVec.getMsbD, power, back, within, decide_true,
    Bool.true_and]

theorem modulus_monic (generator : BitVec width) : (modulus generator).Monic :=
  monic_X_pow_add (residue_degree generator)

theorem residue_divide_congruent (positive : 0 < width)
    (generator register : BitVec width) (bits : List Bool) :
    modulus generator ∣
      residue (divide generator register bits) -
        (X ^ bits.length * residue register + X ^ width * message bits) := by
  induction bits generalizing register with
  | nil => simp [divide, message]
  | cons bit rest induction =>
      have entered :=
        residue_step generator (register ^^^ lowest width bit)
      rw [residue_xor, mul_add, residue_lowest positive] at entered
      rcases induction (step generator (register ^^^ lowest width bit)) with
        ⟨quotient, induction⟩
      rw [entered] at induction
      rw [divide, message, List.length_cons, pow_succ]
      use quotient + X ^ rest.length *
        C (coefficient ((register ^^^ lowest width bit).getLsbD 0))
      linear_combination induction

/-- The register after a message holds a remainder of division by the
modulus. -/
theorem residue_divide (positive : 0 < width) (generator register : BitVec width)
    (bits : List Bool) :
    residue (divide generator register bits) =
      (X ^ bits.length * residue register + X ^ width * message bits) %ₘ
        modulus generator := by
  have monic := modulus_monic generator
  have degree : (modulus generator).degree = width := by
    rw [modulus, degree_add_eq_left_of_degree_lt, degree_X_pow]
    rw [degree_X_pow]
    exact residue_degree generator
  have reduced : residue (divide generator register bits) %ₘ modulus generator =
      residue (divide generator register bits) := by
    rw [modByMonic_eq_self_iff monic, degree]
    exact residue_degree _
  rw [← reduced]
  exact modByMonic_eq_of_dvd_sub monic
    (residue_divide_congruent positive generator register bits)

end CyclicRedundancy
