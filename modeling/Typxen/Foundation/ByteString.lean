import Mathlib.Data.Nat.Digits.Lemmas

/-! # Byte strings

Windows of a byte string and the little-endian numbers stored in them. A read
past the end yields zero, so windows are total; every use below is in range. -/

namespace ByteString

theorem forall_byte {property : UInt8 → Prop}
    (every : ∀ value : Fin 256, property (UInt8.ofFin value)) :
    ∀ byte, property byte :=
  fun byte => every byte.toFin

def byteAt (bytes : List UInt8) (index : Nat) : UInt8 := bytes.getD index 0

def block (bytes : List UInt8) (offset length : Nat) : Vector UInt8 length :=
  Vector.ofFn fun index => byteAt bytes (offset + index.val)

@[simp] theorem block_getElem (bytes : List UInt8) (offset length index : Nat)
    (within : index < length) :
    (block bytes offset length)[index] = byteAt bytes (offset + index) := by
  simp [block]

theorem block_toList (bytes : List UInt8) (offset length : Nat)
    (within : offset + length ≤ bytes.length) :
    (block bytes offset length).toList = (bytes.drop offset).take length := by
  apply List.ext_getElem
  · simp
    omega
  · intro index leftBound rightBound
    have indexBound : index < length := by simpa using leftBound
    simp only [Vector.getElem_toList, block_getElem, List.getElem_take,
      List.getElem_drop, byteAt]
    exact (List.getElem_eq_getD 0).symm

theorem block_congr {left right : List UInt8} {offset length : Nat}
    (equal : ∀ index, offset ≤ index → index < offset + length →
      byteAt left index = byteAt right index) :
    block left offset length = block right offset length := by
  apply Vector.ext
  intro index within
  simp only [block_getElem]
  exact equal _ (by omega) (by omega)

def littleEndian (bytes : List UInt8) (offset width : Nat) : Nat :=
  Nat.ofDigits 256
    ((List.range width).map fun index => (byteAt bytes (offset + index)).toNat)

theorem littleEndian_lt (bytes : List UInt8) (offset width : Nat) :
    littleEndian bytes offset width < 256 ^ width := by
  have bound := Nat.ofDigits_lt_base_pow_length (b := 256)
    (l := (List.range width).map fun index =>
      (byteAt bytes (offset + index)).toNat) (by decide) (by
        intro digit member
        rcases List.mem_map.mp member with ⟨index, _, rfl⟩
        exact (byteAt bytes (offset + index)).toNat_lt)
  simpa [littleEndian] using bound

theorem littleEndian_two (bytes : List UInt8) (offset : Nat) :
    littleEndian bytes offset 2 =
      (byteAt bytes offset).toNat + 256 * (byteAt bytes (offset + 1)).toNat := by
  simp [littleEndian, List.range_succ, Nat.ofDigits]

theorem littleEndian_four (bytes : List UInt8) (offset : Nat) :
    littleEndian bytes offset 4 =
      (byteAt bytes offset).toNat + 256 * (byteAt bytes (offset + 1)).toNat +
        65536 * (byteAt bytes (offset + 2)).toNat +
        16777216 * (byteAt bytes (offset + 3)).toNat := by
  simp [littleEndian, List.range_succ, Nat.ofDigits]
  omega

theorem littleEndian_eight (bytes : List UInt8) (offset : Nat) :
    littleEndian bytes offset 8 =
      littleEndian bytes offset 4 +
        4294967296 * littleEndian bytes (offset + 4) 4 := by
  simp only [littleEndian_four]
  simp [littleEndian, List.range_succ, Nat.ofDigits, Nat.add_assoc]
  omega

/-! ## Numbers assembled by shifts -/

theorem or_shifted (low high place : Nat) (small : low < 2 ^ place) :
    low ||| high <<< place = low + 2 ^ place * high := by
  rw [Nat.shiftLeft_eq, Nat.mul_comm, Nat.or_comm,
    ← Nat.two_pow_add_eq_or_of_lt small, Nat.add_comm]

theorem shifted_mod (value place width : Nat) (small : value < 2 ^ 8)
    (fits : place + 8 ≤ width) :
    value <<< place % 2 ^ width = value <<< place := by
  apply Nat.mod_eq_of_lt
  calc
    value <<< place = value * 2 ^ place := Nat.shiftLeft_eq ..
    _ < 2 ^ 8 * 2 ^ place := Nat.mul_lt_mul_of_pos_right small (Nat.two_pow_pos _)
    _ = 2 ^ (place + 8) := by rw [Nat.pow_add, Nat.mul_comm]
    _ ≤ 2 ^ width := Nat.pow_le_pow_right (by decide) fits

theorem or_four_shifted {first second third fourth : Nat}
    (secondSmall : second < 2 ^ 8) (thirdSmall : third < 2 ^ 8)
    (fourthSmall : fourth < 2 ^ 8) :
    first <<< 24 ||| second <<< 16 ||| third <<< 8 ||| fourth =
      first * 2 ^ 24 + second * 2 ^ 16 + third * 2 ^ 8 + fourth := by
  have reversed (w x y z : Nat) : w ||| x ||| y ||| z = z ||| y ||| x ||| w := by
    ac_rfl
  rw [reversed, or_shifted _ _ 8 fourthSmall, or_shifted _ _ 16 (by omega),
    or_shifted _ _ 24 (by omega)]
  omega

end ByteString
