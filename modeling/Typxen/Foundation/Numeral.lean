import Mathlib.Data.Nat.Digits.Lemmas
import Typxen.Foundation.CNumber

/-! # Numerals

The texts that `strtoul` reads to their end, and one that it reads as a given
number. -/

namespace CNumber

open ByteString

variable {base : Nat} {text digits : List UInt8} {negative : Bool}

/-! ## Their form -/

inductive SignOf : Bool → List UInt8 → Prop
  | none : SignOf false []
  | plus : SignOf false [43]
  | minus : SignOf true [45]

inductive MarkOf : Nat → List UInt8 → Prop
  | none {base : Nat} : MarkOf base []
  | small : MarkOf 16 [48, 120]
  | large : MarkOf 16 [48, 88]

/-- White space, a sign, the mark of the base, and digits to the end. -/
inductive Numeral (base : Nat) : List UInt8 → Bool → List UInt8 → Prop
  | of {spaces sign mark digits : List UInt8} {negative : Bool} :
      (∀ character ∈ spaces, isSpace character = true) →
      SignOf negative sign → MarkOf base mark → digits ≠ [] →
      (∀ digit ∈ digits, isDigit base digit = true) →
      Numeral base (spaces ++ (sign ++ (mark ++ digits))) negative digits

theorem skipSign_split (text : List UInt8) :
    ∃ sign, SignOf (text.head? == some 45) sign ∧
      text = sign ++ skipSign text := by
  cases text with
  | nil => exact ⟨[], .none, rfl⟩
  | cons character rest =>
      by_cases minus : character = 45
      · rw [minus]
        exact ⟨[45], .minus, rfl⟩
      have positive : ((character :: rest).head? == some 45) = false := by
        simpa using minus
      rw [positive]
      by_cases plus : character = 43
      · rw [plus]
        exact ⟨[43], .plus, rfl⟩
      · refine ⟨[], .none, ?_⟩
        simp [skipSign, isSign, minus, plus]

theorem skipPrefix_split (base : Nat) (text : List UInt8) :
    ∃ mark, MarkOf base mark ∧ text = mark ++ skipPrefix base text := by
  rw [skipPrefix.eq_def]
  split
  · rename_i zero letter digit rest
    split
    · rename_i marked
      simp only [Bool.and_eq_true, Bool.or_eq_true, beq_iff_eq] at marked
      rcases marked with ⟨⟨⟨sixteen, first⟩, letters⟩, _⟩
      rw [sixteen, first]
      rcases letters with large | small
      · rw [large]
        exact ⟨[48, 88], .large, rfl⟩
      · rw [small]
        exact ⟨[48, 120], .small, rfl⟩
    · exact ⟨[], .none, rfl⟩
  · exact ⟨[], .none, rfl⟩

theorem numeral_of_subject
    (subjects : subject base text = some ⟨negative, digits, []⟩) :
    Numeral base text negative digits := by
  rw [subject] at subjects
  split at subjects
  · cases subjects
  · rename_i nonempty
    rcases skipSign_split (skipSpaces text) with ⟨sign, signs, signed⟩
    rcases skipPrefix_split base (skipSign (skipSpaces text)) with
      ⟨mark, marks, unsigned⟩
    have parts := Option.some.inj subjects
    have found := congrArg Subject.digits parts
    have rest := congrArg Subject.rest parts
    have minus := congrArg Subject.negative parts
    dsimp only at found rest minus
    have whole := List.takeWhile_append_dropWhile (p := isDigit base)
      (l := skipPrefix base (skipSign (skipSpaces text)))
    rw [found, rest, List.append_nil] at whole
    have split : text = text.takeWhile isSpace ++ (sign ++ (mark ++ digits)) := by
      rw [whole, ← unsigned, ← signed]
      exact List.takeWhile_append_dropWhile.symm
    rw [split]
    rw [minus] at signs
    apply Numeral.of _ signs marks
    · intro none
      rw [found, none] at nonempty
      exact nonempty rfl
    · intro digit member
      rw [← found] at member
      exact List.mem_takeWhile_imp member
    · intro character member
      exact List.mem_takeWhile_imp member

theorem stops_append {kind : UInt8 → Bool} {front rest : List UInt8}
    (others : ∀ character ∈ front, kind character = false)
    (stops : Stops kind rest) : Stops kind (front ++ rest) := by
  cases front with
  | nil => exact stops
  | cons character front =>
      intro found head
      cases head
      exact others character (.head _)

theorem skipPrefix_mark {mark : List UInt8} (marks : MarkOf base mark)
    (nonempty : digits ≠ [])
    (all : ∀ digit ∈ digits, isDigit base digit = true) :
    skipPrefix base (mark ++ digits) = digits := by
  cases digits with
  | nil => exact absurd rfl nonempty
  | cons digit digits =>
      have first := all digit (.head _)
      cases marks with
      | none =>
          rw [List.nil_append, skipPrefix.eq_def]
          split
          · rename_i zero letter third rest same
            split
            · rename_i marked
              simp only [Bool.and_eq_true, Bool.or_eq_true, beq_iff_eq] at marked
              rcases marked with ⟨⟨⟨sixteen, _⟩, letters⟩, _⟩
              rw [same, sixteen] at all
              have second := all letter (by simp)
              rcases letters with large | small
              · rw [large] at second
                cases second
              · rw [small] at second
                cases second
            · exact same.symm
          · rfl
      | small => simp [skipPrefix, first]
      | large => simp [skipPrefix, first]

theorem MarkOf.visible {mark : List UInt8} (marks : MarkOf base mark) :
    ∀ character ∈ mark,
      isSpace character = false ∧ isSign character = false := by
  cases marks with
  | none => simp
  | small =>
      intro character member
      rcases List.mem_pair.mp member with rfl | rfl
      · exact ⟨rfl, rfl⟩
      · exact ⟨rfl, rfl⟩
  | large =>
      intro character member
      rcases List.mem_pair.mp member with rfl | rfl
      · exact ⟨rfl, rfl⟩
      · exact ⟨rfl, rfl⟩

theorem subject_of_numeral (small : base ≤ 36)
    (numeral : Numeral base text negative digits) :
    subject base text = some ⟨negative, digits, []⟩ := by
  rcases numeral with ⟨spaces, signs, marks, nonempty, all⟩
  rename_i white sign mark
  have visible : ∀ character ∈ mark ++ digits,
      isSpace character = false ∧ isSign character = false := by
    intro character member
    rcases List.mem_append.mp member with marked | digit
    · exact marks.visible character marked
    · exact isDigit_visible small (all character digit)
  have skipped : skipSpaces (white ++ (sign ++ (mark ++ digits))) =
      sign ++ (mark ++ digits) := by
    rw [skipSpaces, List.dropWhile_append_of_pos spaces]
    apply skipSpaces_of_stops
    apply stops_append
    · cases signs with
      | none => simp
      | plus => exact List.forall_mem_singleton.mpr rfl
      | minus => exact List.forall_mem_singleton.mpr rfl
    · intro character head
      exact (visible character (List.mem_of_mem_head? head)).1
  have unsigned : skipSign (sign ++ (mark ++ digits)) = mark ++ digits := by
    cases signs with
    | plus => rfl
    | minus => rfl
    | none =>
        cases rest : mark ++ digits with
        | nil => rfl
        | cons character more =>
            have other := (visible character (by simp [rest])).2
            simp [skipSign, other]
  have minus : ((sign ++ (mark ++ digits)).head? == some 45) = negative := by
    cases signs with
    | plus => rfl
    | minus => rfl
    | none =>
        cases rest : mark ++ digits with
        | nil => rfl
        | cons character more =>
            have other := (visible character (by simp [rest])).2
            simp only [isSign, Bool.or_eq_false_iff] at other
            simpa using other.2
  have taken : digits.takeWhile (isDigit base) = digits :=
    List.takeWhile_eq_self_iff.mpr all
  have dropped : digits.dropWhile (isDigit base) = [] :=
    List.dropWhile_eq_nil_iff.mpr all
  rw [subject]
  simp only [skipped, unsigned, skipPrefix_mark marks nonempty all, taken, dropped,
    minus]
  simp [nonempty]

/-! ## What they denote -/

def signedValue (negative : Bool) (number : Nat) : UInt32 :=
  if negative then 0 - UInt32.ofNat number else UInt32.ofNat number

inductive Denotes (base : Nat) (text : List UInt8) : UInt32 → Prop
  | of {negative : Bool} {digits : List UInt8} :
      Numeral base text negative digits → magnitude base digits < 2 ^ 32 →
      Denotes base text (signedValue negative (magnitude base digits))

/-- `strtoul` reads a text to its end, without an error, exactly if the text
denotes what it returns. -/
theorem strtoul_denotes_iff (small : base ≤ 36) (nonempty : text ≠ [])
    {value : UInt32} :
    strtoul text base = ⟨value, [], false⟩ ↔ Denotes base text value := by
  constructor
  · intro converted
    rw [strtoul] at converted
    cases subjects : subject base text with
    | none =>
        rw [subjects] at converted
        exact absurd (congrArg Conversion.rest converted) nonempty
    | some found =>
        rw [subjects] at converted
        rcases found with ⟨negative, digits, rest⟩
        simp only [Conversion.mk.injEq] at converted
        rcases converted with ⟨same, none, inRange⟩
        rw [none] at subjects
        rw [Subject.value, if_neg (by simp [inRange])] at same
        rw [← same]
        refine Denotes.of (numeral_of_subject subjects) ?_
        simpa [Subject.outOfRange] using inRange
  · intro denotes
    rcases denotes with ⟨numeral, inRange⟩
    rename_i negative digits
    have subjects := subject_of_numeral small numeral
    have fits : (Subject.mk negative digits []).outOfRange base = false := by
      simpa [Subject.outOfRange] using inRange
    rw [strtoul, subjects]
    simp only [Subject.value, fits, signedValue]
    simp

/-! ## Writing them -/

def writeDigit (digit : Nat) : UInt8 :=
  if digit < 10 then UInt8.ofNat (48 + digit) else UInt8.ofNat (87 + digit)

/-- As `%u` and `%x` write a number. -/
def writeNumeral (base number : Nat) : List UInt8 :=
  if number = 0 then [48]
  else (Nat.digits base number).reverse.map writeDigit

theorem digitValue_writeDigit {digit : Nat} (small : digit < 36) :
    digitValue (writeDigit digit) = digit := by
  have every : ∀ digit : Fin 36, digitValue (writeDigit digit) = digit := by
    decide +kernel
  exact every ⟨digit, small⟩

theorem magnitude_writeNumeral (large : 1 < base) (small : base ≤ 36)
    (number : Nat) : magnitude base (writeNumeral base number) = number := by
  rw [writeNumeral]
  split
  · rename_i zero
    rw [zero]
    simp [magnitude, digitValue]
  · have step : ∀ digit ∈ Nat.digits base number,
        digitValue (writeDigit digit) = digit := by
      intro digit member
      have bound := Nat.digits_lt_base large member
      exact digitValue_writeDigit (Nat.lt_of_lt_of_le bound small)
    have folded : ∀ digits : List Nat,
        (∀ digit ∈ digits, digitValue (writeDigit digit) = digit) →
        magnitude base (digits.reverse.map writeDigit) =
          Nat.ofDigits base digits := by
      intro digits each
      induction digits with
      | nil => rfl
      | cons digit digits induction =>
          have earlier := induction fun other member =>
            each other (.tail _ member)
          rw [magnitude] at earlier
          rw [List.reverse_cons, List.map_append, magnitude, List.foldl_append,
            earlier, Nat.ofDigits_cons]
          simp only [List.map_cons, List.map_nil, List.foldl_cons,
            List.foldl_nil, each digit (.head _)]
          rw [Nat.mul_comm, Nat.add_comm]
    rw [folded _ step, Nat.ofDigits_digits]

theorem length_writeNumeral {number places : Nat} (large : 1 < base)
    (some : 0 < places) (bound : number < base ^ places) :
    (writeNumeral base number).length ≤ places := by
  rw [writeNumeral]
  split
  · exact some
  · rw [List.length_map, List.length_reverse]
    exact (Nat.digits_length_le_iff large number).mpr bound

theorem writeNumeral_digits (large : 1 < base) (small : base ≤ 36)
    (number : Nat) :
    ∀ digit ∈ writeNumeral base number, isDigit base digit = true := by
  intro digit member
  rw [writeNumeral] at member
  split at member
  · rw [List.mem_singleton.mp member]
    exact decide_eq_true (Nat.lt_trans Nat.zero_lt_one large)
  · rcases List.mem_map.mp member with ⟨value, found, same⟩
    have bound := Nat.digits_lt_base large (List.mem_reverse.mp found)
    rw [← same, isDigit,
      digitValue_writeDigit (Nat.lt_of_lt_of_le bound small)]
    exact decide_eq_true bound

theorem writeNumeral_ne_nil (base number : Nat) :
    writeNumeral base number ≠ [] := by
  rw [writeNumeral]
  split
  · exact List.cons_ne_nil _ _
  · rename_i nonzero
    intro none
    have digits := List.reverse_eq_nil_iff.mp (List.map_eq_nil_iff.mp none)
    exact Nat.digits_ne_nil_iff_ne_zero.mpr nonzero digits

theorem writeNumeral_denotes (large : 1 < base) (small : base ≤ 36)
    (value : UInt32) :
    Denotes base (writeNumeral base value.toNat) value := by
  have magnitudes := magnitude_writeNumeral large small value.toNat
  have digits := writeNumeral_digits large small value.toNat
  have nonempty := writeNumeral_ne_nil base value.toNat
  have numeral : Numeral base (writeNumeral base value.toNat) false
      (writeNumeral base value.toNat) :=
    @Numeral.of base [] [] [] _ _ (by simp) .none .none nonempty digits
  have denotes := Denotes.of numeral (by rw [magnitudes]; exact value.toNat_lt)
  rw [magnitudes] at denotes
  simpa [signedValue] using denotes

end CNumber
