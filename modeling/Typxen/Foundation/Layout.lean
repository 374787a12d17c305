import Typxen.Foundation.ByteString

/-! # Layouts

Which bytes stand where in a byte string. An encoder that concatenates pieces
is read off piece by piece, in both directions: every rule is an equivalence. -/

namespace ByteString

def Holds (bytes : List UInt8) (offset : Nat) (piece : List UInt8) : Prop :=
  ∀ index < piece.length, byteAt bytes (offset + index) = byteAt piece index

section Pieces

variable {bytes : List UInt8} {offset : Nat}

theorem holds_nil : Holds bytes offset [] ↔ True := by
  constructor
  · intro _
    trivial
  · intro _ index within
    simp at within

theorem holds_cons {byte : UInt8} {rest : List UInt8} :
    Holds bytes offset (byte :: rest) ↔
      byteAt bytes offset = byte ∧ Holds bytes (offset + 1) rest := by
  constructor
  · intro holds
    refine ⟨holds 0 (by simp), ?_⟩
    intro index within
    have shifted := holds (index + 1) (by simpa using within)
    rw [Nat.add_assoc, Nat.add_comm 1 index]
    exact shifted
  · intro holds index within
    rcases holds with ⟨here, later⟩
    cases index with
    | zero => exact here
    | succ index =>
        have shifted := later index (by simpa using within)
        rw [Nat.add_assoc, Nat.add_comm 1 index] at shifted
        exact shifted

theorem holds_append {first second : List UInt8} :
    Holds bytes offset (first ++ second) ↔
      Holds bytes offset first ∧
        Holds bytes (offset + first.length) second := by
  induction first generalizing offset with
  | nil => simp [holds_nil]
  | cons byte rest induction =>
      rw [List.cons_append, holds_cons, holds_cons, induction, List.length_cons,
        and_assoc, Nat.add_assoc, Nat.add_comm 1 rest.length]

theorem holds_replicate {count : Nat} {byte : UInt8} :
    Holds bytes offset (List.replicate count byte) ↔
      ∀ position, offset ≤ position → position < offset + count →
        byteAt bytes position = byte := by
  constructor
  · intro holds position lower upper
    have here := holds (position - offset) (by simp; omega)
    rw [Nat.add_sub_cancel' lower] at here
    rw [here]
    simp [byteAt, show position - offset < count by omega]
  · intro all index within
    have bound : index < count := by simpa using within
    rw [all _ (by omega) (by omega)]
    simp [byteAt, bound]

theorem holds_vector {size : Nat} {buffer : Vector UInt8 size} :
    Holds bytes offset buffer.toList ↔ block bytes offset size = buffer := by
  constructor
  · intro holds
    apply Vector.ext
    intro index within
    rw [block_getElem, holds index (by simpa using within)]
    simp [byteAt, within]
  · intro same index within
    have bound : index < size := by simpa using within
    rw [← same]
    simp [byteAt, bound]

theorem eq_of_holds {piece : List UInt8} (holds : Holds bytes 0 piece)
    (length : piece.length = bytes.length) : bytes = piece := by
  apply List.ext_getElem length.symm
  intro index within bound
  have here := holds index bound
  rw [Nat.zero_add, byteAt, byteAt, ← List.getElem_eq_getD,
    ← List.getElem_eq_getD] at here
  exact here

theorem holds_self (bytes : List UInt8) : Holds bytes 0 bytes := by
  intro index _
  rw [Nat.zero_add]

theorem holds_flatMap {α : Type} {items : List α} {encode : α → List UInt8}
    {width : Nat} (fixed : ∀ item, (encode item).length = width) :
    Holds bytes offset (items.flatMap encode) ↔
      ∀ index, (within : index < items.length) →
        Holds bytes (offset + width * index) (encode items[index]) := by
  induction items generalizing offset with
  | nil => simp [holds_nil]
  | cons item rest induction =>
      rw [List.flatMap_cons, holds_append, induction, fixed]
      constructor
      · intro holds index within
        rcases holds with ⟨first, others⟩
        cases index with
        | zero => simpa using first
        | succ index =>
            have here := others index (by simpa using within)
            rw [List.getElem_cons_succ, Nat.mul_succ,
              Nat.add_comm (width * index), ← Nat.add_assoc]
            exact here
      · intro holds
        have first := holds 0 (by simp)
        rw [Nat.mul_zero, Nat.add_zero] at first
        refine ⟨first, ?_⟩
        intro index within
        have here := holds (index + 1) (by simpa using within)
        rw [List.getElem_cons_succ, Nat.mul_succ,
          Nat.add_comm (width * index), ← Nat.add_assoc] at here
        exact here

theorem flatMap_length {α : Type} {items : List α} {encode : α → List UInt8}
    {width : Nat} (fixed : ∀ item, (encode item).length = width) :
    (items.flatMap encode).length = width * items.length := by
  induction items with
  | nil => simp
  | cons item rest induction =>
      rw [List.flatMap_cons, List.length_append, fixed, induction,
        List.length_cons, Nat.mul_succ, Nat.add_comm]

end Pieces

/-! ## Numbers -/

def numberBytes : (width : Nat) → (value : Nat) → List UInt8
  | 0, _ => []
  | width + 1, value => UInt8.ofNat value :: numberBytes width (value / 256)

@[simp] theorem numberBytes_length (width value : Nat) :
    (numberBytes width value).length = width := by
  induction width generalizing value with
  | zero => rfl
  | succ width induction => rw [numberBytes, List.length_cons, induction]

theorem littleEndian_succ (bytes : List UInt8) (offset width : Nat) :
    littleEndian bytes offset (width + 1) =
      (byteAt bytes offset).toNat +
        256 * littleEndian bytes (offset + 1) width := by
  have shifted : (fun index => (byteAt bytes (offset + (index + 1))).toNat) =
      fun index => (byteAt bytes (offset + 1 + index)).toNat := by
    funext index
    rw [Nat.add_assoc, Nat.add_comm 1 index]
  rw [littleEndian, List.range_succ_eq_map, List.map_cons, Nat.ofDigits_cons,
    List.map_map]
  simp only [Function.comp_def, Nat.succ_eq_add_one, shifted, Nat.add_zero]
  rfl

theorem holds_numberBytes {bytes : List UInt8} {offset width value : Nat} :
    Holds bytes offset (numberBytes width value) ↔
      littleEndian bytes offset width = value % 256 ^ width := by
  induction width generalizing offset value with
  | zero =>
      simp [numberBytes, holds_nil, littleEndian, Nat.mod_one]
  | succ width induction =>
      have byte := (byteAt bytes offset).toNat_lt
      have digit : byteAt bytes offset = UInt8.ofNat value ↔
          (byteAt bytes offset).toNat = value % 256 := by
        rw [← UInt8.toNat_inj, UInt8.toNat_ofNat']
      have split : value % 256 ^ (width + 1) =
          value % 256 + 256 * (value / 256 % 256 ^ width) := by
        rw [Nat.pow_succ, Nat.mul_comm, Nat.mod_mul]
      rw [numberBytes, holds_cons, induction, littleEndian_succ, digit, split]
      omega

end ByteString
