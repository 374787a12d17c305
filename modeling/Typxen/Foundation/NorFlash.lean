import Mathlib.Data.UInt
import Mathlib.Data.List.Basic

/-! # NOR flash

Flash contents by address. Erasing a range sets every bit in it and
programming can only clear bits, so data can be relied on only where it was
programmed over erased cells. -/

namespace NorFlash

abbrev Contents := Nat → UInt8

variable {before middle after contents other : Contents}
  {offset length address : Nat} {data : List UInt8}

/-! ## Windows -/

def slice (contents : Contents) (offset length : Nat) : List UInt8 :=
  (List.range length).map fun index => contents (offset + index)

@[simp] theorem slice_length : (slice contents offset length).length = length := by
  simp [slice]

@[simp] theorem slice_zero : slice contents offset 0 = [] := rfl

theorem slice_getElem (index : Nat)
    (within : index < (slice contents offset length).length) :
    (slice contents offset length)[index] = contents (offset + index) := by
  simp [slice]

theorem slice_congr (equal : ∀ address, offset ≤ address →
    address < offset + length → contents address = other address) :
    slice contents offset length = slice other offset length := by
  apply List.map_congr_left
  intro index member
  have within := List.mem_range.mp member
  exact equal _ (by omega) (by omega)

theorem slice_append (first second : Nat) :
    slice contents offset (first + second) =
      slice contents offset first ++ slice contents (offset + first) second := by
  simp [slice, List.range_add, Function.comp_def, Nat.add_assoc]

theorem slice_eq_iff : slice contents offset data.length = data ↔
    ∀ index (within : index < data.length),
      contents (offset + index) = data[index] := by
  constructor
  · intro equal index within
    have same := List.getElem_of_eq equal (by simpa using within)
    rw [slice_getElem] at same
    exact same
  · intro equal
    apply List.ext_getElem (by simp)
    intro index _ within
    rw [slice_getElem]
    exact equal index within

theorem slice_eq_iff_split {count : Nat} (within : count ≤ data.length) :
    slice contents offset data.length = data ↔
      slice contents offset count = data.take count ∧
        slice contents (offset + count) (data.length - count) =
          data.drop count := by
  have whole : slice contents offset data.length =
      slice contents offset count ++
        slice contents (offset + count) (data.length - count) := by
    rw [← slice_append, Nat.add_sub_cancel' within]
  constructor
  · intro equal
    rw [whole] at equal
    have halves := equal.trans (List.take_append_drop count data).symm
    exact List.append_inj halves (by simp [within])
  · intro parts
    rw [whole, parts.1, parts.2, List.take_append_drop]

theorem slice_append_eq_iff {more : List UInt8} :
    slice contents offset (data.length + more.length) = data ++ more ↔
      slice contents offset data.length = data ∧
        slice contents (offset + data.length) more.length = more := by
  rw [slice_append]
  constructor
  · intro equal
    exact List.append_inj equal (by simp)
  · intro parts
    rw [parts.1, parts.2]

theorem slice_drop_take {start count : Nat} (within : start + count ≤ length) :
    ((slice contents offset length).drop start).take count =
      slice contents (offset + start) count := by
  apply List.ext_getElem
  · simp
    omega
  · intro index _ _
    rw [List.getElem_take, List.getElem_drop, slice_getElem, slice_getElem,
      Nat.add_assoc]

def buffer (contents : Contents) (offset length : Nat) : Vector UInt8 length :=
  Vector.ofFn fun index => contents (offset + index.val)

@[simp] theorem buffer_toList :
    (buffer contents offset length).toList = slice contents offset length := by
  apply List.ext_getElem
  · simp
  · intro index left right
    rw [slice_getElem]
    simp [buffer]

/-! ## Frames -/

def Elsewhere (before after : Contents) (offset length : Nat) : Prop :=
  ∀ address, address < offset ∨ offset + length ≤ address →
    after address = before address

@[simp] theorem Elsewhere.refl : Elsewhere before before offset length :=
  fun _ _ => rfl

theorem Elsewhere.trans (first : Elsewhere before middle offset length)
    (second : Elsewhere middle after offset length) :
    Elsewhere before after offset length :=
  fun address outside =>
    (second address outside).trans (first address outside)

theorem Elsewhere.mono {start size : Nat}
    (elsewhere : Elsewhere before after start size) (lower : offset ≤ start)
    (upper : start + size ≤ offset + length) :
    Elsewhere before after offset length :=
  fun address outside => elsewhere address (by omega)

/-- A window disjoint from the range is left as it was. -/
theorem Elsewhere.slice_eq {start size : Nat}
    (elsewhere : Elsewhere before after offset length)
    (disjoint : start + size ≤ offset ∨ offset + length ≤ start) :
    slice after start size = slice before start size := by
  apply slice_congr
  intro address lower upper
  exact elsewhere address (by omega)

/-! ## Erasing and programming -/

def Erased (contents : Contents) (offset length : Nat) : Prop :=
  ∀ address, offset ≤ address → address < offset + length →
    contents address = 0xff

def erase (before : Contents) (offset length : Nat) : Contents :=
  fun address =>
    if offset ≤ address ∧ address < offset + length then 0xff
    else before address

/-- Each addressed byte keeps the bits that are set both in it and in the
data. -/
def program (before : Contents) (offset : Nat) (data : List UInt8) : Contents :=
  fun address =>
    if offset ≤ address ∧ address < offset + data.length then
      before address &&& data.getD (address - offset) 0
    else before address

theorem erase_elsewhere : Elsewhere before (erase before offset length)
    offset length := by
  intro address outside
  rw [erase, if_neg (by omega)]

theorem erase_erased : Erased (erase before offset length) offset length := by
  intro address lower upper
  rw [erase, if_pos ⟨lower, upper⟩]

theorem program_elsewhere : Elsewhere before (program before offset data)
    offset data.length := by
  intro address outside
  rw [program, if_neg (by omega)]

theorem Erased.mono {start size : Nat} (erased : Erased contents offset length)
    (lower : offset ≤ start) (upper : start + size ≤ offset + length) :
    Erased contents start size :=
  fun address above below => erased address (by omega) (by omega)

theorem Erased.of_elsewhere {start size : Nat}
    (erased : Erased before start size)
    (elsewhere : Elsewhere before after offset length)
    (disjoint : start + size ≤ offset ∨ offset + length ≤ start) :
    Erased after start size := by
  intro address lower upper
  rw [elsewhere address (by omega)]
  exact erased address lower upper

theorem erased_and (byte : UInt8) : 0xff &&& byte = byte := by
  apply UInt8.toBitVec_inj.mp
  rw [UInt8.toBitVec_and]
  exact BitVec.allOnes_and

/-- Data programmed over erased cells reads back. -/
theorem Erased.program_slice (erased : Erased before offset data.length) :
    slice (program before offset data) offset data.length = data := by
  rw [slice_eq_iff]
  intro index within
  rw [program, if_pos (by omega), erased _ (by omega) (by omega), erased_and,
    Nat.add_sub_cancel_left, ← List.getElem_eq_getD]

end NorFlash
