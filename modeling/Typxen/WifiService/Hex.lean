import Mathlib.Data.List.Basic
import Typxen.Foundation.CNumber
import Typxen.Foundation.CString

/-! # Hexadecimal identifiers

Job ids and digests are hexadecimal texts. Each pair of characters is left to
`strtoul`, which also takes white space or a sign before one digit. -/

namespace Typxen.WifiService

open ByteString CNumber CString

def pairs : List UInt8 → List (UInt8 × UInt8)
  | first :: second :: rest => (first, second) :: pairs rest
  | _ => []

def parsePair (pair : UInt8 × UInt8) : Option UInt8 :=
  let parsed := strtoul [pair.1, pair.2] 16
  if parsed.outOfRange || !parsed.rest.isEmpty || parsed.value > 255 then none
  else some parsed.value.toUInt8

/-- `outputLength` is the size of an array, and twice that is less than
`SIZE_MAX`. -/
def parseHex (text : List UInt8) (outputLength : Nat) : Option (List UInt8) :=
  if text.length != outputLength * 2 then none
  else (pairs text).mapM parsePair

def HEX : List UInt8 := ascii "0123456789abcdef"

def formatByte (byte : UInt8) : List UInt8 :=
  [HEX.getD (byte >>> 4).toNat 0, HEX.getD (byte &&& 0x0f).toNat 0]

def formatHex (data : List UInt8) : List UInt8 := data.flatMap formatByte

/-! ## What a text denotes -/

def DigitPair (pair : UInt8 × UInt8) : Prop :=
  isDigit 16 pair.1 = true ∧ isDigit 16 pair.2 = true

/-- One digit with white space or a plus sign before it, or a negative zero. -/
def PaddedPair (pair : UInt8 × UInt8) : Prop :=
  (isSpace pair.1 = true ∨ pair.1 = 43) ∧ isDigit 16 pair.2 = true ∨
    pair.1 = 45 ∧ pair.2 = 48

def pairByte (pair : UInt8 × UInt8) : UInt8 :=
  UInt8.ofNat (digitValue pair.1 * 16 + digitValue pair.2)

def denoted (text : List UInt8) : List UInt8 := (pairs text).map pairByte

/-- The byte that a pair of characters is read as. -/
def Spells (pair : UInt8 × UInt8) (byte : UInt8) : Prop :=
  DigitPair pair ∧ byte = pairByte pair ∨
    PaddedPair pair ∧ byte = UInt8.ofNat (digitValue pair.2)

inductive SpellsAll : List UInt8 → List UInt8 → Prop
  | nil : SpellsAll [] []
  | cons {first second byte : UInt8} {text bytes : List UInt8} :
      Spells (first, second) byte → SpellsAll text bytes →
      SpellsAll (first :: second :: text) (byte :: bytes)

def lower (character : UInt8) : UInt8 :=
  if 65 ≤ character && character ≤ 90 then character + 32 else character

def HexText (text : List UInt8) (length : Nat) : Prop :=
  text.length = 2 * length ∧ ∀ character ∈ text, isDigit 16 character = true

structure PaddedText (text : List UInt8) (length : Nat) : Prop where
  length : text.length = 2 * length
  pairs : ∀ pair ∈ pairs text, DigitPair pair ∨ PaddedPair pair
  padded : ∃ pair ∈ WifiService.pairs text, PaddedPair pair

structure ParsesExactly (text : List UInt8) (length : Nat) : Prop where
  accepts : (∃ output, parseHex text length = some output) ↔ HexText text length
  denotes : ∀ output, parseHex text length = some output → output = denoted text
  formats : ∀ output, parseHex text length = some output →
    formatHex output = text.map lower

/-! ## One pair -/

section Pair

variable {pair : UInt8 × UInt8}

theorem isDigit_lt {character : UInt8} (digit : isDigit 16 character = true) :
    digitValue character < 16 := of_decide_eq_true digit

theorem parsePair_none (none : subject 16 [pair.1, pair.2] = none) :
    parsePair pair = Option.none := by
  simp [parsePair, strtoul, none]

theorem parsePair_rest {found : Subject}
    (subjects : subject 16 [pair.1, pair.2] = some found)
    (goesOn : found.rest ≠ []) : parsePair pair = none := by
  simp [parsePair, strtoul, subjects, goesOn]

theorem parsePair_number {digits : List UInt8}
    (subjects : subject 16 [pair.1, pair.2] = some ⟨false, digits, []⟩)
    (small : magnitude 16 digits < 256) :
    parsePair pair = some (UInt8.ofNat (magnitude 16 digits)) := by
  have inRange : (Subject.mk false digits []).outOfRange 16 = false :=
    decide_eq_false (by change ¬2 ^ 32 ≤ magnitude 16 digits; omega)
  have value : (Subject.mk false digits []).value 16 =
      UInt32.ofNat (magnitude 16 digits) := by
    simp [Subject.value, inRange]
  have fits : ¬UInt32.ofNat (magnitude 16 digits) > 255 := by
    have bound : magnitude 16 digits < UInt32.size := Nat.lt_trans small (by decide)
    rw [gt_iff_lt, UInt32.lt_iff_toNat_lt, UInt32.toNat_ofNat_of_lt' bound]
    simp only [UInt32.reduceToNat]
    omega
  have converted : strtoul [pair.1, pair.2] 16 =
      ⟨UInt32.ofNat (magnitude 16 digits), [], false⟩ := by
    rw [strtoul, subjects]
    simp only [value, inRange]
  simp only [parsePair, converted, fits]
  simp

theorem parsePair_digits (digits : DigitPair pair) :
    parsePair pair = some (pairByte pair) := by
  rcases isDigit_visible (by decide) digits.1 with ⟨visible, unsigned⟩
  have subjects := subject_pair visible unsigned pair.2
  rw [if_pos digits.1, if_pos digits.2] at subjects
  have high := isDigit_lt digits.1
  have low := isDigit_lt digits.2
  have value : magnitude 16 [pair.1, pair.2] =
      digitValue pair.1 * 16 + digitValue pair.2 := by
    simp [magnitude]
  rw [parsePair_number subjects (by omega), value]
  rfl

theorem magnitude_one (character : UInt8) :
    magnitude 16 [character] = digitValue character := by
  simp [magnitude]

theorem parsePair_minus (second : UInt8) :
    parsePair (45, second) = if second = 48 then some 0 else none := by
  revert second
  apply forall_byte
  decide +kernel

theorem parsePair_one (subjects : subject 16 [pair.1, pair.2] =
      if isDigit 16 pair.2 then some ⟨false, [pair.2], []⟩ else none) :
    parsePair pair =
      if isDigit 16 pair.2 then some (UInt8.ofNat (digitValue pair.2))
      else none := by
  cases digit : isDigit 16 pair.2 with
  | false =>
      rw [digit] at subjects
      exact parsePair_none subjects
  | true =>
      have low := isDigit_lt digit
      rw [digit] at subjects
      rw [parsePair_number subjects (by rw [magnitude_one]; omega),
        magnitude_one]
      rfl

theorem parsePair_space (space : isSpace pair.1 = true) :
    parsePair pair =
      if isDigit 16 pair.2 then some (UInt8.ofNat (digitValue pair.2))
      else none := by
  apply parsePair_one
  rw [subject_space space, subject_one]

theorem parsePair_plus (second : UInt8) :
    parsePair (43, second) =
      if isDigit 16 second then some (UInt8.ofNat (digitValue second))
      else none := by
  have plus : isSign 43 = true := by decide
  exact @parsePair_one (43, second) (subject_sign plus second)

theorem parsePair_isSome_iff :
    (∃ byte, parsePair pair = some byte) ↔ DigitPair pair ∨ PaddedPair pair := by
  rcases pair with ⟨first, second⟩
  simp only [DigitPair, PaddedPair]
  cases space : isSpace first with
  | true =>
      have blank : isDigit 16 first = false := isDigit_of_isSpace (by decide) space
      have other : first ≠ 45 := by
        intro minus
        rw [minus] at space
        exact absurd space (by decide)
      rw [parsePair_space space]
      simp [blank, other]
  | false =>
      cases sign : isSign first with
      | true =>
          have blank : isDigit 16 first = false :=
            isDigit_of_isSign (by decide) sign
          rw [isSign, Bool.or_eq_true, beq_iff_eq, beq_iff_eq] at sign
          rcases sign with rfl | rfl
          · rw [parsePair_plus]
            simp [blank]
          · rw [parsePair_minus]
            simp [blank]
      | false =>
          have subjects := subject_pair space sign second
          rw [isSign, Bool.or_eq_false_iff, beq_eq_false_iff_ne,
            beq_eq_false_iff_ne] at sign
          simp only [sign.1, sign.2]
          cases high : isDigit 16 first with
          | false =>
              rw [high] at subjects
              rw [@parsePair_none (first, second) subjects]
              simp
          | true =>
              cases low : isDigit 16 second with
              | false =>
                  rw [high, low] at subjects
                  rw [@parsePair_rest (first, second) _ subjects (by simp)]
                  simp
              | true =>
                  rw [@parsePair_digits (first, second) ⟨high, low⟩]
                  simp

theorem parsePair_padded (padded : PaddedPair pair) :
    parsePair pair = some (UInt8.ofNat (digitValue pair.2)) := by
  rcases pair with ⟨first, second⟩
  rcases padded with ⟨space | plus, digit⟩ | ⟨minus, zero⟩
  · rw [parsePair_space space, if_pos digit]
  · rw [show first = 43 from plus, parsePair_plus, if_pos digit]
  · rw [show first = 45 from minus, show second = 48 from zero,
      parsePair_minus]
    rfl

theorem parsePair_iff {byte : UInt8} :
    parsePair pair = some byte ↔ Spells pair byte := by
  constructor
  · intro parsed
    rcases parsePair_isSome_iff.mp ⟨byte, parsed⟩ with digits | padded
    · rw [parsePair_digits digits] at parsed
      exact .inl ⟨digits, (Option.some.inj parsed).symm⟩
    · rw [parsePair_padded padded] at parsed
      exact .inr ⟨padded, (Option.some.inj parsed).symm⟩
  · intro spells
    rcases spells with ⟨digits, same⟩ | ⟨padded, same⟩
    · rw [same]
      exact parsePair_digits digits
    · rw [same]
      exact parsePair_padded padded

theorem PaddedPair.not_digits (padded : PaddedPair pair) : ¬DigitPair pair := by
  intro digits
  rcases isDigit_visible (by decide) digits.1 with ⟨visible, unsigned⟩
  rcases padded with ⟨space | plus, _⟩ | ⟨minus, _⟩
  · rw [visible] at space
    cases space
  · rw [plus] at unsigned
    exact absurd unsigned (by decide)
  · rw [minus] at unsigned
    exact absurd unsigned (by decide)

/-! ## One byte -/

def highDigit (byte : UInt8) : UInt8 := HEX.getD (byte >>> 4).toNat 0

def lowDigit (byte : UInt8) : UInt8 := HEX.getD (byte &&& 0x0f).toNat 0

theorem formatByte_parses (byte : UInt8) :
    DigitPair (highDigit byte, lowDigit byte) ∧
      pairByte (highDigit byte, lowDigit byte) = byte := by
  revert byte
  have every : ∀ byte,
      (isDigit 16 (highDigit byte) = true ∧ isDigit 16 (lowDigit byte) = true) ∧
        pairByte (highDigit byte, lowDigit byte) = byte :=
    forall_byte (by decide +kernel)
  exact every

theorem hex_digitValue {character : UInt8} :
    isDigit 16 character = true →
      HEX.getD (digitValue character) 0 = lower character := by
  revert character
  apply forall_byte
  decide +kernel

theorem halves (high low : Fin 16) :
    (UInt8.ofNat (high.val * 16 + low.val) >>> 4).toNat = high.val ∧
      (UInt8.ofNat (high.val * 16 + low.val) &&& 0x0f).toNat = low.val := by
  revert high low
  decide +kernel

theorem formatByte_pairByte (digits : DigitPair pair) :
    formatByte (pairByte pair) = [lower pair.1, lower pair.2] := by
  have parts := halves ⟨digitValue pair.1, isDigit_lt digits.1⟩
    ⟨digitValue pair.2, isDigit_lt digits.2⟩
  rw [formatByte, pairByte, parts.1, parts.2, hex_digitValue digits.1,
    hex_digitValue digits.2]

end Pair

/-! ## All pairs -/

section Pairs

variable {text : List UInt8} {length : Nat}

theorem pairs_formatHex (data : List UInt8) :
    pairs (formatHex data) =
      data.map fun byte => (highDigit byte, lowDigit byte) := by
  induction data with
  | nil => rfl
  | cons byte data induction =>
      change (highDigit byte, lowDigit byte) :: pairs (formatHex data) = _
      rw [induction]
      rfl

theorem length_formatHex (data : List UInt8) :
    (formatHex data).length = data.length * 2 := by
  induction data with
  | nil => rfl
  | cons byte data induction =>
      change (formatHex data).length + 1 + 1 = (data.length + 1) * 2
      omega

theorem flatMap_pairs (even : text.length = 2 * length) :
    (pairs text).flatMap (fun pair => [pair.1, pair.2]) = text := by
  induction length generalizing text with
  | zero =>
      rw [List.length_eq_zero_iff.mp even]
      rfl
  | succ length induction =>
      rcases text with _ | ⟨first, _ | ⟨second, text⟩⟩
      · simp at even
      · simp at even
        omega
      · have shorter : text.length = 2 * length := by
          rw [List.length_cons, List.length_cons] at even
          omega
        change first :: second :: (pairs text).flatMap _ = _
        rw [induction shorter]

theorem hexText_iff_pairs (even : text.length = 2 * length) :
    HexText text length ↔ ∀ pair ∈ pairs text, DigitPair pair := by
  have split : (∀ character ∈ text, isDigit 16 character = true) ↔
      ∀ pair ∈ pairs text, DigitPair pair := by
    rw [← flatMap_pairs even, List.forall_mem_flatMap]
    simp [DigitPair, flatMap_pairs even]
  rw [HexText, split]
  exact and_iff_right even

theorem mapM_isSome_iff {α β : Type} {parse : α → Option β} {items : List α} :
    (∃ results, items.mapM parse = some results) ↔
      ∀ item ∈ items, ∃ result, parse item = some result := by
  induction items with
  | nil => simp
  | cons item items induction =>
      rw [List.forall_mem_cons, ← induction, List.mapM_cons]
      cases parse item with
      | none => simp
      | some result => cases items.mapM parse <;> simp

theorem mapM_eq_map {α β : Type} {parse : α → Option β} {value : α → β}
    {items : List α} (parses : ∀ item ∈ items, parse item = some (value item)) :
    items.mapM parse = some (items.map value) := by
  induction items with
  | nil => rfl
  | cons item items induction =>
      rw [List.forall_mem_cons] at parses
      rw [List.mapM_cons, parses.1, induction parses.2]
      rfl

theorem SpellsAll.mapM {bytes : List UInt8} (spells : SpellsAll text bytes) :
    text.length = 2 * bytes.length ∧
      (pairs text).mapM parsePair = some bytes := by
  induction spells with
  | nil => exact ⟨rfl, rfl⟩
  | cons first _ induction =>
      rw [pairs, List.mapM_cons, parsePair_iff.mpr first, induction.2]
      simp only [List.length_cons, induction.1]
      exact ⟨by omega, rfl⟩

theorem spellsAll_of_mapM {bytes : List UInt8} (even : text.length = 2 * length)
    (parsed : (pairs text).mapM parsePair = some bytes) :
    SpellsAll text bytes := by
  induction length generalizing text bytes with
  | zero =>
      rw [List.length_eq_zero_iff.mp even] at parsed ⊢
      cases parsed
      exact .nil
  | succ length induction =>
      rcases text with _ | ⟨first, _ | ⟨second, text⟩⟩
      · simp at even
      · simp at even
        omega
      · rw [pairs, List.mapM_cons] at parsed
        rcases Option.bind_eq_some_iff.mp parsed with ⟨byte, one, rest⟩
        rcases Option.bind_eq_some_iff.mp rest with ⟨others, more, same⟩
        rw [← Option.some.inj same]
        apply SpellsAll.cons (parsePair_iff.mp one)
        apply induction _ more
        rw [List.length_cons, List.length_cons] at even
        omega

theorem parseHex_iff {bytes : List UInt8} :
    parseHex text length = some bytes ↔
      SpellsAll text bytes ∧ bytes.length = length := by
  rw [parseHex]
  split
  · rename_i other
    refine iff_of_false nofun ?_
    intro spells
    have even := spells.1.mapM.1
    rw [spells.2] at even
    simp only [bne_iff_ne, ne_eq] at other
    omega
  · rename_i sized
    have even : text.length = 2 * length := by
      simp only [bne_iff_ne, ne_eq, not_not] at sized
      omega
    constructor
    · intro parsed
      have spells := spellsAll_of_mapM even parsed
      have sized := spells.mapM.1
      exact ⟨spells, by omega⟩
    · intro spells
      exact spells.1.mapM.2

theorem parseHex_isSome_iff :
    (∃ output, parseHex text length = some output) ↔
      text.length = 2 * length ∧
        ∀ pair ∈ pairs text, DigitPair pair ∨ PaddedPair pair := by
  by_cases even : text.length = 2 * length
  · have parsed : parseHex text length = (pairs text).mapM parsePair :=
      if_neg (by simp [even, Nat.mul_comm])
    simp only [parsed, mapM_isSome_iff, parsePair_isSome_iff, even, true_and]
  · have refused : parseHex text length = none :=
      if_pos (by simpa [Nat.mul_comm] using even)
    simp [refused, even]

theorem parseHex_hexText (hex : HexText text length) :
    parseHex text length = some (denoted text) := by
  have digits := (hexText_iff_pairs hex.1).mp hex
  have parsed : parseHex text length = (pairs text).mapM parsePair :=
    if_neg (by simp [hex.1, Nat.mul_comm])
  rw [parsed]
  exact mapM_eq_map fun pair member => parsePair_digits (digits pair member)

theorem formatHex_denoted (hex : HexText text length) :
    formatHex (denoted text) = text.map lower := by
  have digits := (hexText_iff_pairs hex.1).mp hex
  have pieces : ∀ pair ∈ pairs text, formatByte (pairByte pair) =
      [lower pair.1, lower pair.2] := fun pair member =>
    formatByte_pairByte (digits pair member)
  calc formatHex (denoted text)
      = (pairs text).flatMap fun pair => formatByte (pairByte pair) := by
        rw [formatHex, denoted, List.flatMap_map]
    _ = (pairs text).flatMap fun pair => [lower pair.1, lower pair.2] :=
        List.flatMap_congr pieces
    _ = ((pairs text).flatMap fun pair => [pair.1, pair.2]).map lower := by
        rw [List.map_flatMap]
        rfl
    _ = text.map lower := by rw [flatMap_pairs hex.1]

theorem parseHex_formatHex (data : List UInt8) :
    parseHex (formatHex data) data.length = some data := by
  have even : (formatHex data).length = 2 * data.length := by
    rw [length_formatHex, Nat.mul_comm]
  have hex : HexText (formatHex data) data.length := by
    rw [hexText_iff_pairs even, pairs_formatHex, List.forall_mem_map]
    exact fun byte _ => (formatByte_parses byte).1
  rw [parseHex_hexText hex, denoted, pairs_formatHex, List.map_map]
  simp only [Function.comp_def, (formatByte_parses _).2, List.map_id']

theorem hexText_of_parses (unpadded : ¬PaddedText text length)
    (parses : ∃ output, parseHex text length = some output) :
    HexText text length := by
  rcases parseHex_isSome_iff.mp parses with ⟨even, accepted⟩
  rw [hexText_iff_pairs even]
  intro pair member
  rcases accepted pair member with digits | padded
  · exact digits
  · exact absurd ⟨even, accepted, pair, member, padded⟩ unpadded

theorem parsesExactly_iff :
    ParsesExactly text length ↔ ¬PaddedText text length := by
  constructor
  · intro exactly padded
    have hex := exactly.accepts.mp
      (parseHex_isSome_iff.mpr ⟨padded.length, padded.pairs⟩)
    rcases padded.padded with ⟨pair, member, blank⟩
    exact blank.not_digits ((hexText_iff_pairs padded.length).mp hex pair member)
  · intro unpadded
    have value : ∀ output, parseHex text length = some output →
        HexText text length ∧ output = denoted text := by
      intro output parses
      have hex := hexText_of_parses unpadded ⟨output, parses⟩
      rw [parseHex_hexText hex] at parses
      cases parses
      exact ⟨hex, rfl⟩
    constructor
    · exact ⟨hexText_of_parses unpadded,
        fun hex => ⟨_, parseHex_hexText hex⟩⟩
    · exact fun output parses => (value output parses).2
    · intro output parses
      rcases value output parses with ⟨hex, rfl⟩
      exact formatHex_denoted hex

end Pairs

/-- Identifiers are parsed exactly, except where a pair of a text is padded.
What is formatted is parsed again, and texts without padding that denote the
same bytes differ only in case. -/
theorem hexIdentifiers_exact (text other data output : List UInt8)
    (length : Nat) :
    (ParsesExactly text length ↔ ¬PaddedText text length) ∧
      parseHex (formatHex data) data.length = some data ∧
      (¬PaddedText text length → ¬PaddedText other length →
        parseHex text length = some output →
        parseHex other length = some output →
        text.map lower = other.map lower) := by
  refine ⟨parsesExactly_iff, parseHex_formatHex data, ?_⟩
  intro unpadded otherUnpadded parses otherParses
  rw [← (parsesExactly_iff.mpr unpadded).formats output parses,
    (parsesExactly_iff.mpr otherUnpadded).formats output otherParses]

/-- A job id that is not hexadecimal, with the bytes of another one. -/
theorem hexIdentifiers_collide :
    ¬ParsesExactly (ascii "+a000000000000000000000000000000") 16 ∧
      parseHex (ascii "+a000000000000000000000000000000") 16 =
        parseHex (ascii "0a000000000000000000000000000000") 16 ∧
      parseHex (ascii "0a000000000000000000000000000000") 16 =
        some (0x0a :: List.replicate 15 0) := by
  have parsed : parseHex (ascii "+a000000000000000000000000000000") 16 =
      some (0x0a :: List.replicate 15 0) := by
    decide +kernel
  have same : parseHex (ascii "0a000000000000000000000000000000") 16 =
      some (0x0a :: List.replicate 15 0) := by
    decide +kernel
  refine ⟨?_, parsed.trans same.symm, same⟩
  intro exactly
  have hex := exactly.accepts.mp ⟨_, parsed⟩
  have sign := hex.2 43 (by decide +kernel)
  exact absurd sign (by decide)

end Typxen.WifiService
