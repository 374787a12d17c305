import Mathlib.Data.List.TakeWhile
import Typxen.Foundation.ByteString

/-! # Numbers and words in C strings

White space, `strtoul` and the conversion `%u` of C99 in the C locale, with a
32-bit `unsigned long`. A string is the list of its characters before the
NUL. -/

namespace CNumber

open ByteString

/-! ## Characters -/

def isSpace (character : UInt8) : Bool :=
  character == 32 || (9 ≤ character && character ≤ 13)

def digitValue (character : UInt8) : Nat :=
  if 48 ≤ character && character ≤ 57 then character.toNat - 48
  else if 65 ≤ character && character ≤ 90 then character.toNat - 55
  else if 97 ≤ character && character ≤ 122 then character.toNat - 87
  else 36

def isDigit (base : Nat) (character : UInt8) : Bool :=
  digitValue character < base

def isSign (character : UInt8) : Bool := character == 43 || character == 45

def skipSpaces (text : List UInt8) : List UInt8 := text.dropWhile isSpace

/-! ## Subject sequences -/

structure Subject where
  negative : Bool
  digits : List UInt8
  rest : List UInt8
  deriving DecidableEq, Repr

def skipSign : List UInt8 → List UInt8
  | [] => []
  | character :: rest => if isSign character then rest else character :: rest

/-- In base 16 a prefix `0x` belongs to the number if a digit follows it. -/
def skipPrefix (base : Nat) : List UInt8 → List UInt8
  | zero :: letter :: digit :: rest =>
      if base == 16 && zero == 48 && (letter == 88 || letter == 120) &&
          isDigit 16 digit then
        digit :: rest
      else
        zero :: letter :: digit :: rest
  | text => text

def subject (base : Nat) (text : List UInt8) : Option Subject :=
  let signed := skipSpaces text
  let unsigned := skipPrefix base (skipSign signed)
  let digits := unsigned.takeWhile (isDigit base)
  if digits.isEmpty then
    none
  else
    some {
      negative := signed.head? == some 45
      digits := digits
      rest := unsigned.dropWhile (isDigit base) }

def magnitude (base : Nat) (digits : List UInt8) : Nat :=
  digits.foldl (fun value digit => value * base + digitValue digit) 0

def Subject.outOfRange (subject : Subject) (base : Nat) : Bool :=
  decide (2 ^ 32 ≤ magnitude base subject.digits)

/-- A negative number is negated in the unsigned type. -/
def Subject.value (subject : Subject) (base : Nat) : UInt32 :=
  if subject.outOfRange base then 0xffffffff
  else if subject.negative then 0 - UInt32.ofNat (magnitude base subject.digits)
  else UInt32.ofNat (magnitude base subject.digits)

theorem Subject.value_of_outOfRange {subject : Subject} {base : Nat}
    (large : subject.outOfRange base = true) : subject.value base = 0xffffffff :=
  if_pos large

/-! ## Conversions -/

/-- What `strtoul` returns, where its end pointer points and whether it sets
`errno`. -/
structure Conversion where
  value : UInt32
  rest : List UInt8
  outOfRange : Bool
  deriving DecidableEq, Repr

def strtoul (text : List UInt8) (base : Nat) : Conversion :=
  match subject base text with
  | none => ⟨0, text, false⟩
  | some subject => ⟨subject.value base, subject.rest, subject.outOfRange base⟩

/-- `sscanf` with `%u%n`: the number and how many characters it took. A number
out of range is converted as `strtoul` does. -/
def scanUnsigned (text : List UInt8) : Option (UInt32 × Nat) :=
  (subject 10 text).map fun subject =>
    (subject.value 10, text.length - subject.rest.length)

/-! ## Words -/

def firstWord (text : List UInt8) : List UInt8 :=
  text.takeWhile fun character => !isSpace character

def afterWord (text : List UInt8) : List UInt8 :=
  text.dropWhile fun character => !isSpace character

def words (line : List UInt8) : List (List UInt8) :=
  (line.splitOnP isSpace).filter fun part => !part.isEmpty

def Stops (kind : UInt8 → Bool) (text : List UInt8) : Prop :=
  ∀ character ∈ text.head?, kind character = false

def Unspaced (text : List UInt8) : Prop :=
  ∀ character ∈ text, isSpace character = false

def EndsWord (rest : List UInt8) : Prop :=
  rest = [] ∨ ∃ space more, rest = space :: more ∧ isSpace space = true

theorem digitValue_of_isSpace {character : UInt8} :
    isSpace character = true → digitValue character = 36 := by
  revert character
  apply forall_byte
  decide +kernel

theorem digitValue_of_isSign {character : UInt8}
    (sign : isSign character = true) : digitValue character = 36 := by
  rw [isSign, Bool.or_eq_true, beq_iff_eq, beq_iff_eq] at sign
  rcases sign with rfl | rfl <;> decide

theorem isDigit_of_digitValue {base : Nat} {character : UInt8} (small : base ≤ 36)
    (none : digitValue character = 36) : isDigit base character = false := by
  rw [isDigit, none]
  exact decide_eq_false (Nat.not_lt.mpr small)

theorem isDigit_of_isSpace {base : Nat} {character : UInt8} (small : base ≤ 36)
    (space : isSpace character = true) : isDigit base character = false :=
  isDigit_of_digitValue small (digitValue_of_isSpace space)

theorem isDigit_of_isSign {base : Nat} {character : UInt8} (small : base ≤ 36)
    (sign : isSign character = true) : isDigit base character = false :=
  isDigit_of_digitValue small (digitValue_of_isSign sign)

theorem isDigit_visible {base : Nat} {character : UInt8} (small : base ≤ 36)
    (digit : isDigit base character = true) :
    isSpace character = false ∧ isSign character = false := by
  constructor
  · cases space : isSpace character with
    | false => rfl
    | true =>
        rw [isDigit_of_isSpace small space] at digit
        cases digit
  · cases sign : isSign character with
    | false => rfl
    | true =>
        rw [isDigit_of_isSign small sign] at digit
        cases digit

theorem EndsWord.stops {rest : List UInt8} (ends : EndsWord rest) :
    Stops (isDigit 10) rest := by
  intro character head
  rcases ends with rfl | ⟨space, more, rfl, spaced⟩
  · cases head
  · cases head
    exact isDigit_of_isSpace (by decide) spaced

/-! ## Spaces and words -/

section Words

variable {text word rest : List UInt8}

theorem takeWhile_append_stops {kind : UInt8 → Bool} (stops : Stops kind rest)
    (text : List UInt8) :
    (text ++ rest).takeWhile kind = text.takeWhile kind := by
  induction text with
  | nil =>
      cases rest with
      | nil => rfl
      | cons character rest =>
          have other := stops character rfl
          simp [other]
  | cons character text induction =>
      rw [List.cons_append, List.takeWhile_cons, List.takeWhile_cons, induction]

theorem dropWhile_append_stops {kind : UInt8 → Bool} (stops : Stops kind rest)
    (text : List UInt8) :
    (text ++ rest).dropWhile kind = text.dropWhile kind ++ rest := by
  induction text with
  | nil =>
      cases rest with
      | nil => rfl
      | cons character rest =>
          have other := stops character rfl
          simp [other]
  | cons character text induction =>
      rw [List.cons_append, List.dropWhile_cons, List.dropWhile_cons, induction]
      split <;> rfl

theorem stops_dropWhile (kind : UInt8 → Bool) (text : List UInt8) :
    Stops kind (text.dropWhile kind) := by
  intro character first
  induction text with
  | nil => cases first
  | cons head text induction =>
      rw [List.dropWhile_cons] at first
      split at first
      · exact induction first
      · rename_i other
        cases first
        simpa using other

theorem skipSpaces_of_stops (stops : Stops isSpace text) :
    skipSpaces text = text := by
  cases text with
  | nil => rfl
  | cons character text =>
      have other := stops character rfl
      simp [skipSpaces, other]

theorem Unspaced.stops (unspaced : Unspaced word) (nonempty : word ≠ [])
    (rest : List UInt8) : Stops isSpace (word ++ rest) := by
  intro character first
  cases word with
  | nil => exact absurd rfl nonempty
  | cons head word =>
      cases first
      exact unspaced _ (.head _)

theorem Unspaced.stops_self (unspaced : Unspaced word) (nonempty : word ≠ []) :
    Stops isSpace word := by
  have stops := unspaced.stops nonempty []
  rw [List.append_nil] at stops
  exact stops

theorem words_nil : words [] = [] := by
  decide

theorem words_cons_space {character : UInt8} (space : isSpace character = true)
    (text : List UInt8) : words (character :: text) = words text := by
  rw [words, List.splitOnP_cons_eq_if_modifyHead, if_pos space,
    List.filter_cons_of_neg (by simp)]
  rfl

theorem words_skipSpaces (text : List UInt8) :
    words (skipSpaces text) = words text := by
  induction text with
  | nil => rfl
  | cons character text induction =>
      rw [skipSpaces, List.dropWhile_cons]
      split
      · rename_i space
        rw [words_cons_space space, ← induction]
        rfl
      · rfl

theorem words_append (unspaced : Unspaced word) (nonempty : word ≠ [])
    (ends : EndsWord rest) : words (word ++ rest) = word :: words rest := by
  rcases ends with rfl | ⟨space, more, rfl, spaced⟩
  · rw [List.append_nil, words, List.splitOnP_eq_singleton unspaced, words_nil,
      List.filter_cons_of_pos (by simpa using nonempty)]
    rfl
  · rw [words_cons_space spaced, words,
      List.splitOnP_append_cons_of_forall_mem unspaced space spaced more,
      List.filter_cons_of_pos (by simpa using nonempty)]
    rfl

theorem unspaced_firstWord (text : List UInt8) : Unspaced (firstWord text) := by
  intro character member
  have other := List.mem_takeWhile_imp member
  simpa using other

theorem firstWord_append_afterWord (text : List UInt8) :
    firstWord text ++ afterWord text = text :=
  List.takeWhile_append_dropWhile

theorem afterWord_ends (text : List UInt8) : EndsWord (afterWord text) := by
  have stops := stops_dropWhile (fun character => !isSpace character) text
  change Stops _ (afterWord text) at stops
  cases after : afterWord text with
  | nil => exact .inl rfl
  | cons space more =>
      rw [after] at stops
      have other := stops space rfl
      exact .inr ⟨space, more, rfl, by simpa using other⟩

theorem firstWord_append {word rest : List UInt8} (unspaced : Unspaced word)
    (ends : EndsWord rest) : firstWord (word ++ rest) = word := by
  have stops : Stops (fun character => !isSpace character) rest := by
    intro character head
    rcases ends with rfl | ⟨space, more, rfl, spaced⟩
    · cases head
    · cases head
      simp [spaced]
  rw [firstWord, takeWhile_append_stops stops, List.takeWhile_eq_self_iff]
  intro character member
  simp [unspaced character member]

theorem words_eq_cons (stops : Stops isSpace text) (nonempty : text ≠ []) :
    words text = firstWord text :: words (afterWord text) := by
  have started : firstWord text ≠ [] := by
    cases text with
    | nil => exact absurd rfl nonempty
    | cons character text =>
        have other := stops character rfl
        simp [firstWord, other]
  have parts := words_append (unspaced_firstWord text) started
    (afterWord_ends text)
  rw [firstWord_append_afterWord] at parts
  exact parts

theorem text_split (stops : Stops isSpace text) (nonempty : text ≠ []) :
    ∃ word rest, text = word ++ rest ∧ Unspaced word ∧ word ≠ [] ∧
      EndsWord rest ∧ words text = word :: words rest := by
  have ends := afterWord_ends text
  have whole := firstWord_append_afterWord text
  refine ⟨firstWord text, afterWord text, whole.symm,
    unspaced_firstWord text, ?_, ends, words_eq_cons stops nonempty⟩
  intro none
  rw [none, List.nil_append] at whole
  rcases ends with empty | ⟨space, more, starts, spaced⟩
  · exact nonempty (whole.symm.trans empty)
  · rw [← whole, starts] at stops
    rw [stops space rfl] at spaced
    cases spaced

theorem words_unspaced {line word : List UInt8} (member : word ∈ words line) :
    Unspaced word ∧ word ≠ [] := by
  induction size : line.length using Nat.strongRecOn generalizing line with
  | ind size induction =>
      have stops : Stops isSpace (skipSpaces line) := stops_dropWhile isSpace line
      rw [← words_skipSpaces] at member
      by_cases empty : skipSpaces line = []
      · rw [empty, words_nil] at member
        cases member
      rcases text_split stops empty with
        ⟨first, rest, whole, unspaced, nonempty, _, split⟩
      rw [split] at member
      rcases List.mem_cons.mp member with rfl | later
      · exact ⟨unspaced, nonempty⟩
      · have shorter := (List.dropWhile_suffix (l := line) isSpace).length_le
        rw [← skipSpaces, whole, List.length_append] at shorter
        have some := List.length_pos_iff.mpr nonempty
        exact induction rest.length (by omega) later rfl

theorem words_eq_nil_iff : words text = [] ↔ skipSpaces text = [] := by
  constructor
  · intro none
    by_contra nonempty
    have stops : Stops isSpace (skipSpaces text) := stops_dropWhile isSpace text
    rw [← words_skipSpaces, words_eq_cons stops nonempty] at none
    cases none
  · intro none
    rw [← words_skipSpaces, none, words_nil]

end Words

/-! ## Numbers at the start of a text -/

section Numbers

variable {text rest : List UInt8}

theorem skipPrefix_decimal (text : List UInt8) : skipPrefix 10 text = text := by
  rw [skipPrefix.eq_def]
  split <;> simp

theorem skipSign_append (nonempty : text ≠ []) (rest : List UInt8) :
    skipSign (text ++ rest) = skipSign text ++ rest := by
  cases text with
  | nil => exact absurd rfl nonempty
  | cons character text =>
      rw [List.cons_append, skipSign, skipSign]
      split <;> rfl

theorem subject_append (stops : Stops isSpace text) (nonempty : text ≠ [])
    (ends : Stops (isDigit 10) rest) :
    subject 10 (text ++ rest) =
      (subject 10 text).map fun subject =>
        { subject with rest := subject.rest ++ rest } := by
  have started : Stops isSpace (text ++ rest) := by
    cases text with
    | nil => exact absurd rfl nonempty
    | cons character text => exact stops
  have sign : (text ++ rest).head? = text.head? := by
    cases text with
    | nil => exact absurd rfl nonempty
    | cons character text => rfl
  simp only [subject, skipSpaces_of_stops stops, skipSpaces_of_stops started,
    skipPrefix_decimal, skipSign_append nonempty, takeWhile_append_stops ends,
    dropWhile_append_stops ends, sign]
  split <;> rfl

theorem skipSign_suffix (text : List UInt8) : skipSign text <:+ text := by
  cases text with
  | nil => exact List.suffix_rfl
  | cons character text =>
      rw [skipSign]
      split
      · exact List.suffix_cons character text
      · exact List.suffix_rfl

theorem subject_suffix {found : Subject} (subjects : subject 10 text = some found) :
    found.rest <:+ text := by
  rw [subject] at subjects
  split at subjects
  · cases subjects
  · cases subjects
    rw [skipPrefix_decimal]
    exact (List.dropWhile_suffix _).trans
      ((skipSign_suffix _).trans (List.dropWhile_suffix _))

theorem subject_stops {found : Subject} (subjects : subject 10 text = some found) :
    Stops (isDigit 10) found.rest := by
  rw [subject] at subjects
  split at subjects
  · cases subjects
  · cases subjects
    exact stops_dropWhile _ _

theorem subject_shorter {found : Subject}
    (subjects : subject 10 text = some found) :
    found.rest.length < text.length := by
  rw [subject] at subjects
  split at subjects
  · cases subjects
  · rename_i digits
    cases subjects
    rw [skipPrefix_decimal] at digits ⊢
    have unsigned := ((skipSign_suffix (skipSpaces text)).trans
      (List.dropWhile_suffix _)).length_le
    have parts := congrArg List.length (List.takeWhile_append_dropWhile
      (p := isDigit 10) (l := skipSign (skipSpaces text)))
    have some : 0 <
        ((skipSign (skipSpaces text)).takeWhile (isDigit 10)).length := by
      rw [List.length_pos_iff, ne_eq, ← List.isEmpty_iff]
      exact digits
    rw [List.length_append] at parts
    change ((skipSign (skipSpaces text)).dropWhile (isDigit 10)).length < _
    omega

theorem subject_signed {found : Subject} (stops : Stops isSpace text)
    (ends : Stops (isDigit 10) text) (subjects : subject 10 text = some found) :
    ∃ sign rest, text = sign :: rest ∧ isSign sign = true := by
  cases text with
  | nil => cases subjects
  | cons character rest =>
      refine ⟨character, rest, rfl, ?_⟩
      by_contra unsigned
      have other := ends character rfl
      rw [subject, skipSpaces_of_stops stops, skipPrefix_decimal, skipSign,
        if_neg unsigned, List.takeWhile_cons_of_neg (by simp [other])] at subjects
      cases subjects

theorem subject_front {front : List UInt8} {found : Subject}
    (stops : Stops isSpace front) (nonempty : front ≠ [])
    (subjects : subject 10 (front ++ found.rest) = some found) :
    subject 10 front = some { found with rest := [] } := by
  rw [subject_append stops nonempty (subject_stops subjects)] at subjects
  rcases Option.map_eq_some_iff.mp subjects with ⟨inner, subjects, same⟩
  have none : inner.rest = [] := by
    have rests := congrArg Subject.rest same
    exact List.append_left_eq_self.mp rests
  rw [subjects, ← same, ← none]

theorem scanUnsigned_append (stops : Stops isSpace text) (nonempty : text ≠ [])
    (ends : Stops (isDigit 10) rest) :
    subject 10 text = none ∧ scanUnsigned (text ++ rest) = none ∨
      ∃ found consumed, subject 10 text = some found ∧
        scanUnsigned (text ++ rest) = some (found.value 10, consumed) ∧
        (text ++ rest).drop consumed = found.rest ++ rest := by
  rw [scanUnsigned, subject_append stops nonempty ends]
  cases subjects : subject 10 text with
  | none => exact .inl ⟨rfl, rfl⟩
  | some found =>
      refine .inr ⟨found, _, rfl, rfl, ?_⟩
      rcases subject_suffix subjects with ⟨front, rfl⟩
      simp

end Numbers

/-! ## Two characters in base 16 -/

theorem skipPrefix_pair (first second : UInt8) :
    skipPrefix 16 [first, second] = [first, second] := by
  simp [skipPrefix]

theorem skipPrefix_one (character : UInt8) :
    skipPrefix 16 [character] = [character] := by
  simp [skipPrefix]

theorem subject_one (character : UInt8) :
    subject 16 [character] =
      if isDigit 16 character then some ⟨false, [character], []⟩ else none := by
  cases digit : isDigit 16 character with
  | true =>
      rcases isDigit_visible (by decide) digit with ⟨visible, unsigned⟩
      have positive : (character == 45) = false := by
        rw [isSign, Bool.or_eq_false_iff] at unsigned
        exact unsigned.2
      simp [subject, skipSpaces, visible, skipSign, unsigned, skipPrefix_one,
        digit, positive]
  | false =>
      cases space : isSpace character with
      | true => simp [subject, skipSpaces, space, skipSign, skipPrefix]
      | false =>
          cases sign : isSign character with
          | true => simp [subject, skipSpaces, space, skipSign, sign, skipPrefix]
          | false =>
              simp [subject, skipSpaces, space, skipSign, sign, skipPrefix_one,
                digit]

theorem subject_space {first : UInt8} (space : isSpace first = true)
    (second : UInt8) : subject 16 [first, second] = subject 16 [second] := by
  simp [subject, skipSpaces, space]

theorem subject_sign {first : UInt8} (sign : isSign first = true)
    (second : UInt8) :
    subject 16 [first, second] =
      if isDigit 16 second then some ⟨first == 45, [second], []⟩ else none := by
  have visible : isSpace first = false := by
    rw [isSign, Bool.or_eq_true, beq_iff_eq, beq_iff_eq] at sign
    rcases sign with rfl | rfl <;> decide
  cases digit : isDigit 16 second with
  | true =>
      simp [subject, skipSpaces, visible, skipSign, sign, skipPrefix_one, digit]
  | false =>
      simp [subject, skipSpaces, visible, skipSign, sign, skipPrefix_one, digit]

theorem subject_pair {first : UInt8} (visible : isSpace first = false)
    (unsigned : isSign first = false) (second : UInt8) :
    subject 16 [first, second] =
      if isDigit 16 first then
        if isDigit 16 second then some ⟨false, [first, second], []⟩
        else some ⟨false, [first], [second]⟩
      else none := by
  have positive : (first == 45) = false := by
    rw [isSign, Bool.or_eq_false_iff] at unsigned
    exact unsigned.2
  cases digit : isDigit 16 first with
  | false =>
      simp [subject, skipSpaces, visible, skipSign, unsigned, skipPrefix_pair,
        digit]
  | true =>
      cases other : isDigit 16 second with
      | true =>
          simp [subject, skipSpaces, visible, skipSign, unsigned,
            skipPrefix_pair, digit, other, positive]
      | false =>
          simp [subject, skipSpaces, visible, skipSign, unsigned,
            skipPrefix_pair, digit, other, positive]

end CNumber
