import Mathlib.Data.Rat.Cast.Order
import Typxen.Foundation.CString
import Typxen.Foundation.Numeral

/-! # JSON values and texts

Values with their members in order, and the compact texts of flat objects with
a reader for them. A name and a string are the bytes of a C string. -/

namespace Json

open CNumber CString

/-- The numbers of a C `double`, exactly. -/
inductive Double
  | finite (value : ℚ)
  | infinite (negative : Bool)
  | nan
  deriving DecidableEq

def Double.ofInt (number : Int) : Double := .finite number

inductive Value
  | null
  | bool (value : Bool)
  | number (value : Double)
  | string (text : List UInt8)
  | array (items : List Value)
  | object (members : List (List UInt8 × Value))

abbrev Members := List (List UInt8 × Value)

/-! ## Kinds -/

def Value.isObject : Value → Bool
  | .object _ => true
  | _ => false

def Value.isBool : Value → Bool
  | .bool _ => true
  | _ => false

def Value.isTrue : Value → Bool
  | .bool flag => flag
  | _ => false

def Value.isNumber : Value → Bool
  | .number _ => true
  | _ => false

def Value.isString : Value → Bool
  | .string _ => true
  | _ => false

theorem Value.isNumber_iff {value : Value} :
    value.isNumber = true ↔ ∃ double, value = .number double := by
  cases value <;> simp [Value.isNumber]

theorem Value.isString_iff {value : Value} :
    value.isString = true ↔ ∃ text, value = .string text := by
  cases value <;> simp [Value.isString]

/-! ## Members -/

def named (name : String) (member : List UInt8 × Value) : Bool :=
  member.1 == ascii name

def toLower (character : UInt8) : UInt8 :=
  if 0x41 ≤ character && character ≤ 0x5a then character + 0x20 else character

def namedAlike (name : String) (member : List UInt8 × Value) : Bool :=
  member.1.map toLower == (ascii name).map toLower

def Value.member (name : String) : Value → Option Value
  | .object members => (members.find? (named name)).map Prod.snd
  | _ => none

def Value.hasAlike (name : String) : Value → Bool
  | .object members => members.any (namedAlike name)
  | _ => false

def Value.without (name : String) : Value → Value
  | .object members => .object (members.filter fun member => !named name member)
  | value => value

/-! ## Texts of flat objects -/

def plain (character : UInt8) : Bool :=
  0x20 ≤ character && character ≤ 0x7e && character != 34 && character != 92

def Plain (text : List UInt8) : Prop :=
  ∀ character ∈ text, plain character = true

inductive Scalar
  | string (text : List UInt8)
  | number (value : Nat)

def Scalar.value : Scalar → Value
  | .string text => .string text
  | .number value => .number (.ofInt value)

def quote (text : List UInt8) : List UInt8 := 34 :: text ++ [34]

def Scalar.write : Scalar → List UInt8
  | .string text => quote text
  | .number value => writeNumeral 10 value

/-- What can be written without an escape, and without loss in a double. -/
def Scalar.Writable : Scalar → Prop
  | .string text => Plain text
  | .number value => value < 2 ^ 53

abbrev Flat := List (List UInt8 × Scalar)

def Flat.Writable (members : Flat) : Prop :=
  ∀ member ∈ members, Plain member.1 ∧ member.2.Writable

def Flat.value (members : Flat) : Value :=
  .object (members.map fun member => (member.1, member.2.value))

def writeMember (member : List UInt8 × Scalar) : List UInt8 :=
  quote member.1 ++ 58 :: member.2.write

def writeMembers : Flat → List UInt8
  | [] => [125]
  | [member] => writeMember member ++ [125]
  | member :: next :: members =>
      writeMember member ++ 44 :: writeMembers (next :: members)

def Flat.write (members : Flat) : List UInt8 := 123 :: writeMembers members

/-! ## Reading them -/

def readString (text : List UInt8) : Option (List UInt8 × List UInt8) :=
  match text.dropWhile (· != 34) with
  | _ :: rest => some (text.takeWhile (· != 34), rest)
  | [] => none

def readScalar (text : List UInt8) : Option (Scalar × List UInt8) :=
  match text with
  | 34 :: text => do
      let (read, rest) ← readString text
      return (.string read, rest)
  | text =>
      let digits := text.takeWhile (isDigit 10)
      if digits.isEmpty then none
      else some (.number (magnitude 10 digits), text.dropWhile (isDigit 10))

def readMember (text : List UInt8) :
    Option ((List UInt8 × Scalar) × List UInt8) :=
  match text with
  | 34 :: text => do
      let (name, rest) ← readString text
      match rest with
      | 58 :: rest =>
          let (scalar, rest) ← readScalar rest
          return ((name, scalar), rest)
      | _ => none
  | _ => none

/-- Every member takes characters, so `fuel` is the length of the text. -/
def readMembers : (fuel : Nat) → List UInt8 → Option Flat
  | 0, _ => none
  | fuel + 1, text => do
      let (member, rest) ← readMember text
      match rest with
      | 44 :: rest =>
          let members ← readMembers fuel rest
          return member :: members
      | 125 :: _ => return [member]
      | _ => none

def readFlat (text : List UInt8) : Option Flat :=
  match text with
  | 123 :: 125 :: _ => some []
  | 123 :: text => readMembers text.length text
  | _ => none

section Reading

variable {text rest : List UInt8}

theorem not_quote {character : UInt8} (clean : plain character = true) :
    (character != 34) = true := by
  simp only [plain, Bool.and_eq_true] at clean
  exact clean.1.2

theorem readString_plain (clean : Plain text) (rest : List UInt8) :
    readString (text ++ 34 :: rest) = some (text, rest) := by
  have inside : ∀ character ∈ text, (character != 34) = true :=
    fun character member => not_quote (clean character member)
  have ends : ((34 : UInt8) != 34) = false := rfl
  rw [readString, List.dropWhile_append_of_pos inside,
    List.takeWhile_append_of_pos inside, List.dropWhile_cons, ends,
    List.takeWhile_cons, ends]
  simp

theorem readScalar_write {scalar : Scalar} (writable : scalar.Writable)
    {next : UInt8} (other : isDigit 10 next = false) (rest : List UInt8) :
    readScalar (scalar.write ++ next :: rest) =
      some (scalar, next :: rest) := by
  cases scalar with
  | string text =>
      change (readString (text ++ [34] ++ next :: rest)).bind _ = _
      rw [List.append_assoc, List.singleton_append, readString_plain writable]
      rfl
  | number value =>
      have digits := writeNumeral_digits (by decide : 1 < 10) (by decide) value
      have nonempty := writeNumeral_ne_nil 10 value
      have first : ∀ more, writeNumeral 10 value ≠ 34 :: more := by
        intro more same
        have quoted := digits 34 (by rw [same]; exact .head _)
        cases quoted
      have taken : (writeNumeral 10 value ++ next :: rest).takeWhile
          (isDigit 10) = writeNumeral 10 value := by
        rw [List.takeWhile_append_of_pos digits, List.takeWhile_cons, other]
        simp
      have left : (writeNumeral 10 value ++ next :: rest).dropWhile
          (isDigit 10) = next :: rest := by
        rw [List.dropWhile_append_of_pos digits, List.dropWhile_cons, other]
        simp
      change readScalar (writeNumeral 10 value ++ next :: rest) = _
      rw [readScalar.eq_def]
      split
      · rename_i more same
        cases written : writeNumeral 10 value with
        | nil => exact absurd written nonempty
        | cons digit digits =>
            rw [written] at same
            cases same
            exact absurd written (first _)
      · rw [taken, left]
        have whole := magnitude_writeNumeral (by decide : 1 < 10) (by decide)
          value
        simp [nonempty, whole]

theorem readMember_write {member : List UInt8 × Scalar}
    (clean : Plain member.1) (writable : member.2.Writable) {next : UInt8}
    (other : isDigit 10 next = false) (rest : List UInt8) :
    readMember (writeMember member ++ next :: rest) =
      some (member, next :: rest) := by
  change (readString (member.1 ++ [34] ++ 58 :: member.2.write ++
    next :: rest)).bind _ = _
  rw [List.append_assoc, List.append_assoc, List.singleton_append,
    readString_plain clean]
  change (readScalar (member.2.write ++ next :: rest)).bind _ = _
  rw [readScalar_write writable other]
  rfl

/-- By induction on the members; a comma or the brace ends each of them. -/
theorem readMembers_write {members : Flat} (writable : members.Writable)
    (nonempty : members ≠ []) {fuel : Nat} (enough : members.length ≤ fuel) :
    readMembers fuel (writeMembers members) = some members := by
  induction members generalizing fuel with
  | nil => exact absurd rfl nonempty
  | cons member members induction =>
      rcases List.forall_mem_cons.mp writable with ⟨mine, others⟩
      cases fuel with
      | zero => simp at enough
      | succ fuel =>
          have shorter : members.length ≤ fuel := by
            rw [List.length_cons] at enough
            omega
          cases members with
          | nil =>
              rw [readMembers, writeMembers,
                readMember_write mine.1 mine.2 (by decide)]
              rfl
          | cons next members =>
              have rest := induction others (List.cons_ne_nil _ _) shorter
              rw [readMembers, writeMembers,
                readMember_write mine.1 mine.2 (by decide)]
              change (readMembers fuel
                (writeMembers (next :: members))).bind _ = _
              rw [rest]
              rfl

theorem length_writeMembers (members : Flat) :
    members.length ≤ (writeMembers members).length := by
  induction members with
  | nil => simp
  | cons member members induction =>
      cases members with
      | nil => simp [writeMembers]
      | cons next members =>
          simp only [writeMembers, List.length_append, List.length_cons]
            at induction ⊢
          omega

theorem readFlat_write {members : Flat} (writable : members.Writable) :
    readFlat members.write = some members := by
  cases members with
  | nil => rfl
  | cons member members =>
      have quoted : ∃ rest, writeMembers (member :: members) = 34 :: rest := by
        cases members with
        | nil => exact ⟨_, rfl⟩
        | cons next members => exact ⟨_, rfl⟩
      have read := readMembers_write writable (List.cons_ne_nil _ _)
        (length_writeMembers _)
      rcases quoted with ⟨rest, same⟩
      rw [Flat.write]
      rw [same] at read ⊢
      exact read

end Reading

end Json
