import Typxen.Foundation.CNumber
import Typxen.Foundation.CString
import Typxen.HidRuntime.HidRuntime

/-! # The console parsers

A console command is parsed from its line or from the words of the line. The
two differ where a number is followed by a signed number without white space:
the scan of the line goes on in mid-word. -/

namespace Typxen.HidRuntime

open CNumber CString

/-- `typx_command_type_t`. -/
inductive CommandType
  | invalid
  | help
  | status
  | release
  | stop
  | clearBonds
  | test
  | testShift
  | runStandard
  | runPersonal
  deriving DecidableEq, Repr

/-- `typx_console_command_t`. -/
structure ConsoleCommand where
  type : CommandType
  holdMs : UInt32
  characterCount : UInt32
  deriving DecidableEq, Repr

/-- The lines of `SIMPLE_COMMAND` and of `SIMPLE_ARGV_COMMAND`. -/
def simpleCommands : List (List UInt8 × CommandType) := [
  (ascii "help", .help),
  (ascii "status", .status),
  (ascii "release", .release),
  (ascii "stop", .stop),
  (ascii "clear-bonds", .clearBonds),
  (ascii "run-standard", .runStandard),
  (ascii "run-personal", .runPersonal)]

def simpleCommand (name : List UInt8) : Option CommandType :=
  simpleCommands.lookup name

/-! ## The line -/

def parseUint (text : List UInt8) : Option (UInt32 × Nat) := scanUnsigned text

/-- `typx_console_parse` after the first number of `test`. -/
def parseTestCount (first : UInt32) (cursor : List UInt8) :
    Option ConsoleCommand :=
  match parseUint cursor with
  | none => none
  | some (second, consumed) =>
      let cursor := skipSpaces (cursor.drop consumed)
      if !cursor.isEmpty || !typxHidHoldSupported first || second == 0 ||
          second > calibrationMaxCharacters then
        none
      else
        some ⟨.test, first, second⟩

/-- `typx_console_parse` after the name. -/
def parseCommand (name cursor : List UInt8) : Option ConsoleCommand :=
  match simpleCommand name, cursor with
  | some type, [] => some ⟨type, 0, 0⟩
  | _, cursor =>
      if name == ascii "test-shift" then
        match parseUint cursor with
        | none => none
        | some (first, consumed) =>
            let cursor := skipSpaces (cursor.drop consumed)
            if !cursor.isEmpty || !typxHidHoldSupported first then
              none
            else
              some ⟨.testShift, first, 0⟩
      else if name != ascii "test" then
        none
      else
        match parseUint cursor with
        | none => none
        | some (first, consumed) =>
            parseTestCount first (skipSpaces (cursor.drop consumed))

/-- The name is scanned with `%15s`. -/
def typxConsoleParse (line : List UInt8) : Option ConsoleCommand :=
  let start := skipSpaces line
  let name := (firstWord start).take 15
  if name.isEmpty then
    none
  else
    parseCommand name (skipSpaces (start.drop name.length))

/-! ## The words -/

def parseUintArgument (text : List UInt8) : Option UInt32 :=
  if text.isEmpty then
    none
  else
    let parsed := strtoul text 10
    if parsed.outOfRange || !parsed.rest.isEmpty ||
        parsed.value > 0xffffffff then
      none
    else
      some parsed.value

def typxConsoleParseArgv : (argv : List (List UInt8)) → Option ConsoleCommand
  | [] => none
  | name :: arguments =>
      match simpleCommand name with
      | some type => if arguments.isEmpty then some ⟨type, 0, 0⟩ else none
      | none =>
          if name == ascii "test-shift" then
            match arguments with
            | [hold] => do
                let holdMs ← parseUintArgument hold
                if !typxHidHoldSupported holdMs then none
                else some ⟨.testShift, holdMs, 0⟩
            | _ => none
          else if name != ascii "test" then
            none
          else
            match arguments with
            | [hold, count] => do
                let holdMs ← parseUintArgument hold
                let characterCount ← parseUintArgument count
                if !typxHidHoldSupported holdMs || characterCount == 0 ||
                    characterCount > calibrationMaxCharacters then
                  none
                else
                  some ⟨.test, holdMs, characterCount⟩
            | _ => none

/-! ## Words of a line -/

section Scans

variable {word rest : List UInt8} {first : UInt32}

def completeNumber (word : List UInt8) : Option UInt32 :=
  (subject 10 word).bind fun found =>
    if found.rest.isEmpty then some (found.value 10) else none

def testCommand (first second : UInt32) : Option ConsoleCommand :=
  if !typxHidHoldSupported first || second == 0 ||
      second > calibrationMaxCharacters then
    none
  else
    some ⟨.test, first, second⟩

theorem isEmpty_skipSpaces (rest : List UInt8) :
    (skipSpaces rest).isEmpty = decide (words rest = []) := by
  rw [Bool.eq_iff_iff, decide_eq_true_iff, List.isEmpty_iff, words_eq_nil_iff]

theorem isEmpty_skipSpaces_append {found : List UInt8} (unspaced : Unspaced found)
    (rest : List UInt8) :
    (skipSpaces (found ++ rest)).isEmpty =
      (found.isEmpty && decide (words rest = [])) := by
  cases found with
  | nil => rw [List.nil_append, isEmpty_skipSpaces]; rfl
  | cons character found =>
      rw [skipSpaces_of_stops (unspaced.stops (by simp) rest)]
      rfl

theorem subject_unspaced {found : Subject} (unspaced : Unspaced word)
    (subjects : subject 10 word = some found) : Unspaced found.rest :=
  fun character member =>
    unspaced character ((subject_suffix subjects).subset member)

theorem parseTestCount_append (unspaced : Unspaced word) (nonempty : word ≠ [])
    (ends : EndsWord rest) :
    parseTestCount first (word ++ rest) =
      if words rest = [] then (completeNumber word).bind (testCommand first)
      else none := by
  have stops := unspaced.stops_self nonempty
  rcases scanUnsigned_append stops nonempty ends.stops with
    ⟨none, scanned⟩ | ⟨found, consumed, subjects, scanned, dropped⟩
  · simp [parseTestCount, parseUint, scanned, completeNumber, none]
  · simp only [parseTestCount, parseUint, scanned, dropped,
      isEmpty_skipSpaces_append (subject_unspaced unspaced subjects),
      completeNumber, subjects, Option.bind_some, testCommand]
    by_cases last : words rest = []
    · by_cases whole : found.rest.isEmpty
      · simp [last, whole, testCommand]
      · simp [last, whole]
    · simp [last]

theorem parseUintArgument_eq (nonempty : word ≠ []) :
    parseUintArgument word = (subject 10 word).bind fun found =>
      if found.outOfRange 10 || !found.rest.isEmpty then none
      else some (found.value 10) := by
  have fits (value : UInt32) : ¬value > 0xffffffff := by
    rw [gt_iff_lt, UInt32.lt_iff_toNat_lt]
    have small := value.toNat_lt
    simp only [UInt32.reduceToNat]
    omega
  rw [parseUintArgument, if_neg (by simpa using nonempty), strtoul]
  cases subject 10 word with
  | none => simp [nonempty]
  | some found => simp [fits]

/-- A number out of range is refused in the end, whether it is read as the
largest number or not at all. -/
theorem completeNumber_bind {next : UInt32 → Option ConsoleCommand}
    (nonempty : word ≠ []) (refuses : next 0xffffffff = none) :
    (completeNumber word).bind next = (parseUintArgument word).bind next := by
  rw [parseUintArgument_eq nonempty, completeNumber]
  cases subject 10 word with
  | none => rfl
  | some found =>
      simp only [Option.bind_some]
      by_cases whole : found.rest.isEmpty
      · cases range : found.outOfRange 10 with
        | false => simp [whole]
        | true => simp [whole, Subject.value, range, refuses]
      · simp [whole]

def shiftCommand (holdMs : UInt32) : Option ConsoleCommand :=
  if !typxHidHoldSupported holdMs then none else some ⟨.testShift, holdMs, 0⟩

theorem shiftCommand_refuses : shiftCommand 0xffffffff = none := by
  decide

theorem testCommand_refusesHold (second : UInt32) :
    testCommand 0xffffffff second = none := by
  rw [testCommand, show typxHidHoldSupported 0xffffffff = false by decide]
  rfl

theorem testCommand_refusesCount (first : UInt32) :
    testCommand first 0xffffffff = none := by
  rw [testCommand, show decide ((0xffffffff : UInt32) >
    calibrationMaxCharacters) = true by decide, Bool.or_true]
  rfl

end Scans

/-! ## Agreement -/

section Agreement

variable {name cursor word rest : List UInt8}

def GluedWord (word : List UInt8) : Prop :=
  ∃ found, subject 10 word = some found ∧ found.rest ≠ [] ∧
    (completeNumber found.rest).bind (testCommand (found.value 10)) ≠ none

theorem simpleCommand_test : simpleCommand (ascii "test") = none := by
  decide

theorem simpleCommand_testShift : simpleCommand (ascii "test-shift") = none := by
  decide

theorem parseCommand_simple {type : CommandType}
    (simple : simpleCommand name = some type) (stops : Stops isSpace cursor) :
    parseCommand name cursor = typxConsoleParseArgv (name :: words cursor) := by
  have notShift : name ≠ ascii "test-shift" := by
    intro same
    rw [same, simpleCommand_testShift] at simple
    cases simple
  have notTest : name ≠ ascii "test" := by
    intro same
    rw [same, simpleCommand_test] at simple
    cases simple
  cases cursor with
  | nil => simp [parseCommand, typxConsoleParseArgv, simple, words_nil]
  | cons character rest =>
      simp [parseCommand, typxConsoleParseArgv, simple, notShift, notTest,
        words_eq_cons stops]

theorem scan_cursor (unspaced : Unspaced word) (nonempty : word ≠ [])
    (ends : EndsWord rest) :
    subject 10 word = none ∧ parseUint (word ++ rest) = none ∨
      ∃ found consumed, subject 10 word = some found ∧
        parseUint (word ++ rest) = some (found.value 10, consumed) ∧
        (word ++ rest).drop consumed = found.rest ++ rest := by
  have stops := unspaced.stops_self nonempty
  exact scanUnsigned_append stops nonempty ends.stops

theorem parseCommand_testShift_eq (cursor : List UInt8) :
    parseCommand (ascii "test-shift") cursor =
      match parseUint cursor with
      | none => none
      | some (first, consumed) =>
          let cursor := skipSpaces (cursor.drop consumed)
          if !cursor.isEmpty || !typxHidHoldSupported first then none
          else some ⟨.testShift, first, 0⟩ := by
  rw [parseCommand]
  · exact if_pos (beq_self_eq_true _)
  · intro type simple
    rw [simpleCommand_testShift] at simple
    cases simple

theorem parseCommand_test_eq (cursor : List UInt8) :
    parseCommand (ascii "test") cursor =
      match parseUint cursor with
      | none => none
      | some (first, consumed) =>
          parseTestCount first (skipSpaces (cursor.drop consumed)) := by
  have other : ¬(ascii "test" == ascii "test-shift") = true := by decide
  rw [parseCommand]
  · rw [if_neg other]
    exact if_neg (by simp)
  · intro type simple
    rw [simpleCommand_test] at simple
    cases simple

theorem parseArgv_testShift_eq (arguments : List (List UInt8)) :
    typxConsoleParseArgv (ascii "test-shift" :: arguments) =
      match arguments with
      | [hold] => (parseUintArgument hold).bind shiftCommand
      | _ => none := by
  have shift : (ascii "test-shift" == ascii "test-shift") = true :=
    beq_self_eq_true _
  rcases arguments with _ | ⟨hold, _ | ⟨count, more⟩⟩ <;>
    simp only [typxConsoleParseArgv, simpleCommand_testShift, shift, if_true]
  rfl

theorem parseArgv_test_eq (arguments : List (List UInt8)) :
    typxConsoleParseArgv (ascii "test" :: arguments) =
      match arguments with
      | [hold, count] => (parseUintArgument hold).bind fun holdMs =>
          (parseUintArgument count).bind (testCommand holdMs)
      | _ => none := by
  have other : (ascii "test" == ascii "test-shift") = false := by decide
  have test : (ascii "test" != ascii "test") = false := by decide
  rcases arguments with _ | ⟨hold, _ | ⟨count, _ | ⟨third, more⟩⟩⟩ <;>
    simp only [typxConsoleParseArgv, simpleCommand_test, other, test,
      Bool.false_eq_true, if_false]
  rfl

theorem parseCommand_testShift (stops : Stops isSpace cursor) :
    parseCommand (ascii "test-shift") cursor =
      typxConsoleParseArgv (ascii "test-shift" :: words cursor) := by
  rw [parseCommand_testShift_eq, parseArgv_testShift_eq]
  by_cases empty : cursor = []
  · subst empty
    rfl
  rcases text_split stops empty with
    ⟨word, rest, rfl, unspaced, nonempty, ends, split⟩
  have argument := @completeNumber_bind word shiftCommand nonempty
    shiftCommand_refuses
  rw [split]
  rcases scan_cursor unspaced nonempty ends with
    ⟨none, scanned⟩ | ⟨found, consumed, subjects, scanned, dropped⟩
  · rw [completeNumber, none] at argument
    rw [scanned]
    cases words rest with
    | nil => exact argument
    | cons other more => rfl
  · rw [completeNumber, subjects, Option.bind_some] at argument
    rw [scanned]
    simp only [dropped,
      isEmpty_skipSpaces_append (subject_unspaced unspaced subjects)]
    cases words rest with
    | nil =>
        simp only [← argument]
        by_cases whole : found.rest.isEmpty
        · simp [whole, shiftCommand]
        · simp [whole]
    | cons other more => simp

theorem parseTestCount_nil (first : UInt32) : parseTestCount first [] = none :=
  rfl

theorem parseTestCount_words (first : UInt32) (rest : List UInt8) :
    parseTestCount first (skipSpaces rest) =
      match words rest with
      | [count] => (parseUintArgument count).bind (testCommand first)
      | _ => none := by
  have stops : Stops isSpace (skipSpaces rest) := stops_dropWhile isSpace rest
  rw [← words_skipSpaces rest]
  by_cases empty : skipSpaces rest = []
  · rw [empty, words_nil, parseTestCount_nil]
  rcases text_split stops empty with
    ⟨word, others, whole, unspaced, nonempty, ends, split⟩
  rw [split, whole, parseTestCount_append unspaced nonempty ends,
    completeNumber_bind nonempty (testCommand_refusesCount first)]
  cases words others with
  | nil => rfl
  | cons other more => simp

theorem gluedWord_iff {found : Subject} (subjects : subject 10 word = some found) :
    GluedWord word ↔ found.rest ≠ [] ∧
      (completeNumber found.rest).bind (testCommand (found.value 10)) ≠ none := by
  simp [GluedWord, subjects]

theorem parseArgv_incomplete (nonempty : word ≠ [])
    (incomplete : completeNumber word = none) (others : List (List UInt8)) :
    typxConsoleParseArgv (ascii "test" :: word :: others) = none := by
  have refused : parseUintArgument word = none := by
    rw [parseUintArgument_eq nonempty]
    rw [completeNumber] at incomplete
    cases subjects : subject 10 word with
    | none => rfl
    | some found =>
        have unfinished : found.rest ≠ [] := by
          simpa [subjects] using incomplete
        simp [unfinished]
  rw [parseArgv_test_eq]
  rcases others with _ | ⟨count, _ | ⟨third, more⟩⟩
  · rfl
  · simp [refused]
  · rfl

theorem parseTestCount_complete (nonempty : word ≠ []) {first : UInt32}
    (complete : completeNumber word = some first) (rest : List UInt8) :
    parseTestCount first (skipSpaces rest) =
      typxConsoleParseArgv (ascii "test" :: word :: words rest) := by
  rw [parseTestCount_words, parseArgv_test_eq]
  rcases words rest with _ | ⟨count, _ | ⟨third, more⟩⟩
  · rfl
  · have argument := @completeNumber_bind word
      (fun holdMs => (parseUintArgument count).bind (testCommand holdMs))
      nonempty (by simp [testCommand_refusesHold])
    rw [complete] at argument
    exact argument
  · rfl

/-- Where the first number ends in mid-word, the scan takes the rest of the
word for the second one. -/
theorem parseTestCount_glued (unspaced : Unspaced word) (nonempty : word ≠ [])
    (ends : EndsWord rest) {found : Subject}
    (subjects : subject 10 word = some found) (goesOn : found.rest ≠ []) :
    parseTestCount (found.value 10) (skipSpaces (found.rest ++ rest)) =
        typxConsoleParseArgv (ascii "test" :: word :: words rest) ↔
      ¬∃ single, word :: words rest = [single] ∧ GluedWord single := by
  have incomplete : completeNumber word = none := by
    simp [completeNumber, subjects, goesOn]
  have unspacedRest := subject_unspaced unspaced subjects
  rw [parseArgv_incomplete nonempty incomplete,
    skipSpaces_of_stops (unspacedRest.stops goesOn rest),
    parseTestCount_append unspacedRest goesOn ends]
  cases words rest with
  | nil => simp [gluedWord_iff subjects, goesOn]
  | cons other more => simp

theorem parseCommand_test (stops : Stops isSpace cursor) :
    parseCommand (ascii "test") cursor =
        typxConsoleParseArgv (ascii "test" :: words cursor) ↔
      ¬∃ word, words cursor = [word] ∧ GluedWord word := by
  rw [parseCommand_test_eq]
  by_cases empty : cursor = []
  · subst empty
    have noWord : ¬∃ word, words [] = [word] ∧ GluedWord word := by
      simp [words_nil]
    exact iff_of_true rfl noWord
  rcases text_split stops empty with
    ⟨word, rest, rfl, unspaced, nonempty, ends, split⟩
  rw [split]
  rcases scan_cursor unspaced nonempty ends with
    ⟨none, scanned⟩ | ⟨found, consumed, subjects, scanned, dropped⟩
  · have incomplete : completeNumber word = Option.none := by
      rw [completeNumber, none]
      rfl
    rw [scanned, parseArgv_incomplete nonempty incomplete]
    simp [GluedWord, none]
  · rw [scanned]
    simp only [dropped]
    by_cases whole : found.rest = []
    · have complete : completeNumber word = some (found.value 10) := by
        simp [completeNumber, subjects, whole]
      rw [whole, List.nil_append]
      apply iff_of_true (parseTestCount_complete nonempty complete rest)
      intro glued
      rcases glued with ⟨single, same, glued⟩
      rw [← (List.cons.inj same).1, gluedWord_iff subjects] at glued
      exact glued.1 whole
    · exact parseTestCount_glued unspaced nonempty ends subjects whole

structure Unknown (name : List UInt8) : Prop where
  simple : simpleCommand name = none
  shift : name ≠ ascii "test-shift"
  test : name ≠ ascii "test"

theorem unknown_of_long (long : 15 ≤ name.length) : Unknown name where
  simple := by
    have short : ∀ command ∈ simpleCommands, command.1.length < 15 := by decide
    rw [simpleCommand, List.lookup_eq_none_iff]
    intro command member
    have different : name ≠ command.1 := by
      intro same
      have bound := short command member
      rw [← same] at bound
      omega
    simpa using different
  shift := by
    intro same
    rw [same] at long
    exact absurd long (by decide)
  test := by
    intro same
    rw [same] at long
    exact absurd long (by decide)

theorem Unknown.parseCommand (unknown : Unknown name) (cursor : List UInt8) :
    HidRuntime.parseCommand name cursor = none := by
  have shift := unknown.shift
  have test := unknown.test
  simp [HidRuntime.parseCommand, unknown.simple, shift, test]

theorem Unknown.parseArgv (unknown : Unknown name)
    (arguments : List (List UInt8)) :
    typxConsoleParseArgv (name :: arguments) = none := by
  have shift := unknown.shift
  have test := unknown.test
  simp [typxConsoleParseArgv, unknown.simple, shift, test]

theorem parseCommand_iff (stops : Stops isSpace cursor) :
    parseCommand name cursor = typxConsoleParseArgv (name :: words cursor) ↔
      ¬(name = ascii "test" ∧ ∃ word, words cursor = [word] ∧ GluedWord word) := by
  cases simple : simpleCommand name with
  | some type =>
      apply iff_of_true (parseCommand_simple simple stops)
      intro test
      rw [test.1, simpleCommand_test] at simple
      cases simple
  | none =>
      by_cases test : name = ascii "test"
      · rw [test, parseCommand_test stops]
        simp
      · apply iff_of_true
        · by_cases shift : name = ascii "test-shift"
          · rw [shift]
            exact parseCommand_testShift stops
          · have unknown : Unknown name := ⟨simple, shift, test⟩
            rw [unknown.parseCommand, unknown.parseArgv]
        · exact fun glued => test glued.1

theorem typxConsoleParse_iff (line : List UInt8) :
    typxConsoleParse line = typxConsoleParseArgv (words line) ↔
      ¬∃ word, words line = [ascii "test", word] ∧ GluedWord word := by
  have stops : Stops isSpace (skipSpaces line) := stops_dropWhile isSpace line
  rw [typxConsoleParse, ← words_skipSpaces line]
  by_cases empty : skipSpaces line = []
  · rw [empty, words_nil]
    exact iff_of_true rfl (by simp)
  rcases text_split stops empty with
    ⟨word, rest, whole, unspaced, nonempty, ends, split⟩
  have some : ¬(word.take 15).isEmpty = true := by simp [nonempty]
  rw [split]
  simp only [whole, firstWord_append unspaced ends]
  rw [if_neg some]
  by_cases short : word.length ≤ 15
  · have after : Stops isSpace (skipSpaces rest) := stops_dropWhile isSpace rest
    rw [List.take_of_length_le short, List.drop_left, ← words_skipSpaces rest,
      parseCommand_iff after]
    simp only [List.cons.injEq, and_assoc, exists_and_left]
  · have cut : Unknown (word.take 15) :=
      unknown_of_long (by rw [List.length_take]; omega)
    have long : Unknown word := unknown_of_long (by omega)
    rw [cut.parseCommand, long.parseArgv]
    apply iff_of_true rfl
    intro glued
    rcases glued with ⟨_, same, _⟩
    exact long.test (List.cons.inj same).1

end Agreement

/-! ## Two numbers in one word -/

/-- The line is the command `test` and one word, in which a number with its
sign follows another one directly. -/
structure Glued (line : List UInt8) (first second : List UInt8)
    (holdMs characterCount : UInt32) : Prop where
  words : words line = [ascii "test", first ++ second]
  signed : ∃ sign digits, second = sign :: digits ∧ isSign sign = true
  first : strtoul first 10 = ⟨holdMs, [], false⟩
  second : strtoul second 10 = ⟨characterCount, [], false⟩
  hold : typxHidHoldSupported holdMs = true
  count : characterCount ≠ 0 ∧ characterCount ≤ calibrationMaxCharacters

theorem strtoul_complete {text : List UInt8} {value : UInt32}
    (nonempty : text ≠ []) :
    strtoul text 10 = ⟨value, [], false⟩ ↔
      ∃ found, subject 10 text = some found ∧ found.rest = [] ∧
        found.outOfRange 10 = false ∧ found.value 10 = value := by
  rw [strtoul]
  cases subject 10 text with
  | none => simp [nonempty]
  | some found => simp; tauto

theorem completeNumber_of_strtoul {text : List UInt8} {value : UInt32}
    (nonempty : text ≠ []) (converts : strtoul text 10 = ⟨value, [], false⟩) :
    completeNumber text = some value := by
  rcases (strtoul_complete nonempty).mp converts with
    ⟨found, subjects, ends, _, same⟩
  simp [completeNumber, subjects, ends, same]

theorem Glued.gluedWord {line first second : List UInt8}
    {holdMs characterCount : UInt32}
    (glued : Glued line first second holdMs characterCount) :
    GluedWord (first ++ second) := by
  rcases glued.signed with ⟨sign, digits, signed, isSigned⟩
  have firstNonempty : first ≠ [] := by
    intro empty
    have hold := glued.hold
    have converts := glued.first
    rw [empty] at converts
    cases converts
    exact absurd hold (by decide)
  have secondNonempty : second ≠ [] := by simp [signed]
  have unspaced : Unspaced first := by
    have member : first ++ second ∈ CNumber.words line := by
      simp [glued.words]
    intro character inside
    exact (words_unspaced member).1 character (List.mem_append_left _ inside)
  have stops := unspaced.stops_self firstNonempty
  have ends : Stops (isDigit 10) second := by
    rw [signed]
    intro character head
    cases head
    exact isDigit_of_isSign (by decide) isSigned
  rcases (strtoul_complete firstNonempty).mp glued.first with
    ⟨found, subjects, whole, _, value⟩
  have accepted : testCommand holdMs characterCount ≠ none := by
    have positive := glued.count.1
    have small : ¬characterCount > calibrationMaxCharacters :=
      UInt32.not_lt.mpr glued.count.2
    simp [testCommand, glued.hold, positive, small]
  refine ⟨{ found with rest := second }, ?_, secondNonempty, ?_⟩
  · rw [subject_append stops firstNonempty ends, subjects]
    simp [whole]
  · rw [completeNumber_of_strtoul secondNonempty glued.second]
    change testCommand (found.value 10) characterCount ≠ none
    rw [value]
    exact accepted

theorem testCommand_accepts {first second : UInt32}
    (accepted : testCommand first second ≠ none) :
    typxHidHoldSupported first = true ∧ second ≠ 0 ∧
      second ≤ calibrationMaxCharacters := by
  rw [testCommand] at accepted
  split at accepted
  · exact absurd rfl accepted
  · rename_i tests
    simp only [Bool.or_eq_true, Bool.not_eq_true', beq_iff_eq,
      decide_eq_true_eq, not_or, UInt32.not_lt, gt_iff_lt] at tests
    exact ⟨by simpa using tests.1.1, tests.1.2, tests.2⟩

theorem strtoul_accepted {text : List UInt8} {found : Subject}
    (subjects : subject 10 text = some found) (whole : found.rest = [])
    (accepted : found.value 10 ≠ 0xffffffff) :
    strtoul text 10 = ⟨found.value 10, [], false⟩ := by
  have inRange : found.outOfRange 10 = false := by
    cases range : found.outOfRange 10 with
    | false => rfl
    | true => exact absurd (Subject.value_of_outOfRange range) accepted
  rw [strtoul, subjects]
  simp only [whole, inRange]

theorem GluedWord.parts {word : List UInt8} (unspaced : Unspaced word)
    (glued : GluedWord word) :
    ∃ first second holdMs characterCount, word = first ++ second ∧
      (∃ sign digits, second = sign :: digits ∧ isSign sign = true) ∧
      strtoul first 10 = ⟨holdMs, [], false⟩ ∧
      strtoul second 10 = ⟨characterCount, [], false⟩ ∧
      testCommand holdMs characterCount ≠ none := by
  rcases glued with ⟨found, subjects, goesOn, accepted⟩
  rcases subject_suffix subjects with ⟨front, whole⟩
  have frontNonempty : front ≠ [] := by
    intro empty
    have shorter := subject_shorter subjects
    rw [← whole, empty] at shorter
    exact absurd shorter (Nat.lt_irrefl _)
  have frontUnspaced : Unspaced front := fun character member =>
    unspaced character (whole ▸ List.mem_append_left _ member)
  have stops := frontUnspaced.stops_self frontNonempty
  have restStops := (subject_unspaced unspaced subjects).stops_self goesOn
  cases next : subject 10 found.rest with
  | none => simp [completeNumber, next] at accepted
  | some second =>
      simp only [completeNumber, next, Option.bind_some] at accepted
      by_cases ends : second.rest = []
      · simp only [ends, List.isEmpty_nil, if_true, Option.bind_some] at accepted
        have hold : found.value 10 ≠ 0xffffffff := by
          intro largest
          rw [largest, testCommand_refusesHold] at accepted
          exact accepted rfl
        have count : second.value 10 ≠ 0xffffffff := by
          intro largest
          rw [largest, testCommand_refusesCount] at accepted
          exact accepted rfl
        rw [← whole] at subjects
        have first := strtoul_accepted
          (subject_front stops frontNonempty subjects) rfl hold
        exact ⟨front, found.rest, found.value 10, second.value 10, whole.symm,
          subject_signed restStops (subject_stops subjects) next,
          first, strtoul_accepted next ends count, accepted⟩
      · simp [ends] at accepted

theorem glued_iff (line : List UInt8) :
    (∃ first second holdMs characterCount,
        Glued line first second holdMs characterCount) ↔
      ∃ word, words line = [ascii "test", word] ∧ GluedWord word := by
  constructor
  · intro exists_glued
    rcases exists_glued with ⟨first, second, holdMs, characterCount, glued⟩
    exact ⟨first ++ second, glued.words, glued.gluedWord⟩
  · intro exists_glued
    rcases exists_glued with ⟨word, split, glued⟩
    have member : word ∈ words line := by simp [split]
    rcases glued.parts (words_unspaced member).1 with
      ⟨first, second, holdMs, characterCount, whole, signed, converts,
        converts', accepted⟩
    have tests := testCommand_accepts accepted
    exact ⟨first, second, holdMs, characterCount, {
      words := whole ▸ split
      signed := signed
      first := converts
      second := converts'
      hold := tests.1
      count := tests.2 }⟩

/-- The parsers of a line and of its words differ only where the scan of the
line goes on in mid-word. -/
theorem consoleParsers_agree_iff (line : List UInt8) :
    typxConsoleParse line = typxConsoleParseArgv (words line) ↔
      ¬∃ first second holdMs characterCount,
        Glued line first second holdMs characterCount := by
  rw [typxConsoleParse_iff, glued_iff]

theorem consoleParsers_disagree :
    typxConsoleParse (ascii "test 8+144") = some ⟨.test, 8, 144⟩ ∧
      typxConsoleParseArgv (words (ascii "test 8+144")) = none := by
  decide +kernel

example : typxConsoleParse (ascii " test 8  144 ") = some ⟨.test, 8, 144⟩ := by
  decide +kernel

end Typxen.HidRuntime
