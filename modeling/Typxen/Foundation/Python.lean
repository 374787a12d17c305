import Mathlib.Data.List.Basic
import Mathlib.Data.UInt

/-! # Python sequences and texts

Slices `data[start:stop]`, where negative indices count from the end, indices
behind an end mean that end, and a slice that would end before it starts is
empty; and texts as lists of characters, with their UTF-8 bytes. -/

namespace Python

/-! ## Slices -/

section Slices

variable {α : Type}

def sliceIndex (length : Nat) (index : Int) : Nat :=
  if index < 0 then (index + length).toNat else min index.toNat length

def slice (data : List α) (start stop : Int) : List α :=
  let first := sliceIndex data.length start
  (data.drop first).take (sliceIndex data.length stop - first)

theorem sliceIndex_eq {length : Nat} {index : Int} (low : 0 ≤ index)
    (high : index ≤ length) : sliceIndex length index = index.toNat := by
  rw [sliceIndex, if_neg (Int.not_lt.mpr low)]
  omega

theorem slice_eq {data : List α} {start stop : Int} (low : 0 ≤ start)
    (ascending : start ≤ stop) (high : stop ≤ data.length) :
    slice data start stop =
      (data.drop start.toNat).take (stop - start).toNat := by
  rw [slice, sliceIndex_eq low (by omega), sliceIndex_eq (by omega) high]
  congr 1
  omega

theorem all_slice_iff {data : List α} {start stop : Int} {property : α → Prop}
    (low : 0 ≤ start) (ascending : start ≤ stop) (high : stop ≤ data.length) :
    (∀ value ∈ slice data start stop, property value) ↔
      ∀ (index : Nat) (value : α), start ≤ index → index < stop →
        data[index]? = some value → property value := by
  rw [slice_eq low ascending high]
  constructor
  · intro all index value after before found
    apply all value
    rw [List.mem_iff_getElem?]
    refine ⟨index - start.toNat, ?_⟩
    rw [List.getElem?_take_of_lt (by omega), List.getElem?_drop, ← found]
    congr 1
    omega
  · intro all value member
    rcases List.mem_iff_getElem?.mp member with ⟨index, found⟩
    have before : index < (stop - start).toNat := by
      rw [List.getElem?_take] at found
      split at found
      · assumption
      · cases found
    rw [List.getElem?_take_of_lt before, List.getElem?_drop] at found
    exact all _ value (by omega) (by omega) found

end Slices

/-! ## Texts -/

/-- `text.encode("utf-8")`. -/
def encode (text : List Char) : List UInt8 :=
  text.flatMap String.utf8EncodeChar

def replace (pattern : Char) (replacement text : List Char) : List Char :=
  text.flatMap fun character =>
    if character = pattern then replacement else [character]

theorem encode_append (first second : List Char) :
    encode (first ++ second) = encode first ++ encode second :=
  List.flatMap_append

theorem encode_cons (character : Char) (text : List Char) :
    encode (character :: text) = String.utf8EncodeChar character ++ encode text :=
  List.flatMap_cons

theorem utf8EncodeChar_ascii {character : Char} (low : character.toNat < 0x80) :
    String.utf8EncodeChar character = [UInt8.ofNat character.toNat] := by
  have first : character.val.toNat ≤ 0x7f := Nat.le_of_lt_succ low
  rw [String.utf8EncodeChar, if_pos first]
  rfl

theorem utf8EncodeChar_high {character : Char} (high : 0x80 ≤ character.toNat) :
    ∀ byte ∈ String.utf8EncodeChar character, 0x80 ≤ byte.toNat := by
  have first : ¬character.val.toNat ≤ 0x7f := Nat.not_le.mpr high
  rw [String.utf8EncodeChar, if_neg first]
  intro byte member
  split_ifs at member <;>
    simp only [List.mem_cons, List.not_mem_nil, or_false] at member <;>
    rcases member with rfl | rfl | rfl | rfl <;>
    simp only [UInt8.toNat_ofNat'] <;> omega

theorem mem_encode_iff {character : Char} {text : List Char}
    (low : character.toNat < 0x80) :
    UInt8.ofNat character.toNat ∈ encode text ↔ character ∈ text := by
  have byte : (UInt8.ofNat character.toNat).toNat = character.toNat :=
    UInt8.toNat_ofNat_of_lt' (Nat.lt_trans low (by decide))
  constructor
  · intro member
    rcases List.mem_flatMap.mp member with ⟨other, within, found⟩
    by_cases otherLow : other.toNat < 0x80
    · rw [utf8EncodeChar_ascii otherLow, List.mem_singleton] at found
      have same : character.toNat = other.toNat := by
        rw [← byte, found]
        exact UInt8.toNat_ofNat_of_lt' (Nat.lt_trans otherLow (by decide))
      rw [Char.toNat_inj.mp same]
      exact within
    · have high := utf8EncodeChar_high (Nat.not_lt.mp otherLow) _ found
      omega
  · intro within
    apply List.mem_flatMap.mpr
    refine ⟨character, within, ?_⟩
    rw [utf8EncodeChar_ascii low]
    exact List.mem_singleton_self _

end Python
