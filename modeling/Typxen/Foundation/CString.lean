import Mathlib.Data.List.TakeWhile
import Typxen.Foundation.ByteString

/-! # Strings in char arrays

The string that a char array holds ends before its first NUL. -/

namespace CString

open ByteString

def string (bytes : List UInt8) : List UInt8 := bytes.takeWhile (· != 0)

/-- A char array that holds `text`, with NULs after it. What exceeds the
capacity is cut. -/
def charArray (capacity : Nat) (text : List UInt8) : Vector UInt8 capacity :=
  block text 0 capacity

def ascii (text : String) : List UInt8 := text.toList.map Char.toUInt8

theorem zero_not_mem_string (bytes : List UInt8) : 0 ∉ string bytes := by
  intro member
  have nonzero := List.mem_takeWhile_imp member
  simp at nonzero

theorem charArray_toList {capacity : Nat} {text : List UInt8}
    (fits : text.length ≤ capacity) :
    (charArray capacity text).toList =
      text ++ List.replicate (capacity - text.length) 0 := by
  apply List.ext_getElem
  · simp
    omega
  · intro index _ _
    by_cases within : index < text.length
    · simp [charArray, byteAt, within]
    · simp [charArray, byteAt, within, Nat.le_of_not_lt within]

theorem string_string (bytes : List UInt8) :
    string (string bytes) = string bytes :=
  List.takeWhile_idem

theorem string_charArray {capacity : Nat} {text : List UInt8}
    (fits : text.length ≤ capacity) (clean : 0 ∉ text) :
    string (charArray capacity text).toList = text := by
  rw [charArray_toList fits, string, List.takeWhile_append_of_pos]
  · simp
  · intro value member
    have nonzero : value ≠ 0 := fun zero => clean (zero ▸ member)
    simpa using nonzero

theorem string_copy {capacity : Nat} (array : Vector UInt8 capacity) :
    string (charArray capacity (string array.toList)).toList =
      string array.toList := by
  apply string_charArray
  · have shorter := (List.takeWhile_prefix (l := array.toList)
      (· != 0)).length_le
    simpa [string] using shorter
  · exact zero_not_mem_string _

end CString
