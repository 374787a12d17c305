import Mathlib.Data.Bool.AllAny
import Typxen.Foundation.CommandLine
import Typxen.Foundation.CString
import Typxen.Foundation.Python

/-! # The station command of the setup tool

`quote_uart_argument` and `station_commands` of `typx_board_setup.py`, the
console that reads the line and the check that the firmware makes of the
words. A text is its list of characters: one with a lone surrogate has no UTF-8
bytes, and the tool raises. -/

namespace Typxen.BoardSetup

open Python CommandLine CString

def quoteMark : Char := Char.ofNat 0x22

def backslash : Char := Char.ofNat 0x5c

/-- CR, LF and NUL. -/
def controlCharacters : List Char :=
  [Char.ofNat 0x0d, Char.ofNat 0x0a, Char.ofNat 0x00]

/-- The message of the `ValueError` on the left. -/
def quoteUartArgument (value : List Char) : Except String (List Char) :=
  if controlCharacters.any fun character => value.contains character then
    .error "SSID and password cannot contain control characters."
  else
    .ok ([quoteMark] ++ replace quoteMark [backslash, quoteMark]
      (replace backslash [backslash, backslash] value) ++ [quoteMark])

def stationCommands (ssid password : List Char) :
    Except String (List (List Char)) :=
  if ¬(1 ≤ (encode ssid).length ∧ (encode ssid).length ≤ 32) then
    .error "Hotspot SSID must be 1 to 32 UTF-8 bytes."
  else if ¬(8 ≤ (encode password).length ∧ (encode password).length ≤ 63) then
    .error "Hotspot password must be 8 to 63 UTF-8 bytes."
  else do
    let quotedSsid ← quoteUartArgument ssid
    let quotedPassword ← quoteUartArgument password
    return ["wifi-sta-config ".toList ++ quotedSsid ++ " ".toList ++
      quotedPassword, "wifi-sta-start".toList, "wifi-info".toList]

def maxCmdlineLength : Nat := 128

def wifiStaSsidBytes : Nat := 33

/-- `strlen`, which is zero for no string here. -/
def stringLength (text : Option (List UInt8)) : Nat :=
  text.elim 0 fun bytes => (string bytes).length

def typxWifiStationCredentialsValid (ssid password : Option (List UInt8)) :
    Bool :=
  let ssidLength := stringLength ssid
  let passwordLength := stringLength password
  decide (ssidLength ≥ 1) && decide (ssidLength < wifiStaSsidBytes) &&
    decide (passwordLength ≥ 8) && decide (passwordLength ≤ 63)

/-! ## Quoting -/

def escapeCharacter (character : Char) : List Char :=
  if character = backslash then [backslash, backslash]
  else if character = quoteMark then [backslash, quoteMark]
  else [character]

theorem replace_replace (value : List Char) :
    replace quoteMark [backslash, quoteMark]
        (replace backslash [backslash, backslash] value) =
      value.flatMap escapeCharacter := by
  rw [replace, replace, List.flatMap_assoc]
  congr 1
  funext character
  by_cases slash : character = backslash
  · subst slash
    rfl
  · rw [if_neg slash, List.flatMap_singleton, escapeCharacter, if_neg slash]

theorem encode_singleton (character : Char) :
    encode [character] = String.utf8EncodeChar character :=
  List.flatMap_singleton _ _

theorem utf8EncodeChar_plain {character : Char} (slash : character ≠ backslash)
    (mark : character ≠ quoteMark) :
    ∀ byte ∈ String.utf8EncodeChar character,
      byte ≠ quote ∧ byte ≠ escape := by
  intro byte member
  rw [← encode_singleton] at member
  constructor
  · intro same
    rw [same] at member
    have within : quoteMark ∈ [character] :=
      (mem_encode_iff (by decide)).mp member
    exact mark (List.mem_singleton.mp within).symm
  · intro same
    rw [same] at member
    have within : backslash ∈ [character] :=
      (mem_encode_iff (by decide)).mp member
    exact slash (List.mem_singleton.mp within).symm

theorem encode_quoted (value : List Char) :
    Quoted (encode (value.flatMap escapeCharacter)) (encode value) := by
  induction value with
  | nil => exact .nil
  | cons character value induction =>
      rw [List.flatMap_cons, encode_append, encode_cons]
      by_cases slash : character = backslash
      · subst slash
        exact .escaped (.inr rfl) induction
      · by_cases mark : character = quoteMark
        · subst mark
          exact .escaped (.inl rfl) induction
        · rw [escapeCharacter, if_neg slash, if_neg mark, encode_singleton]
          exact Quoted.append (utf8EncodeChar_plain slash mark) induction

def escapes (text : List Char) : Nat :=
  text.countP fun character =>
    character == quoteMark || character == backslash

theorem length_encode_escapeCharacter (character : Char) :
    (encode (escapeCharacter character)).length =
      (String.utf8EncodeChar character).length + escapes [character] := by
  by_cases slash : character = backslash
  · subst slash
    rfl
  · by_cases mark : character = quoteMark
    · subst mark
      rfl
    · rw [escapeCharacter, if_neg slash, if_neg mark, encode_singleton]
      simp [escapes, slash, mark]

theorem length_encode_escaped (value : List Char) :
    (encode (value.flatMap escapeCharacter)).length =
      (encode value).length + escapes value := by
  induction value with
  | nil => rfl
  | cons character value induction =>
      have split : escapes (character :: value) =
          escapes [character] + escapes value := by
        rw [← List.singleton_append, escapes, List.countP_append]
        rfl
      rw [List.flatMap_cons, encode_append, encode_cons, List.length_append,
        List.length_append, induction, length_encode_escapeCharacter, split]
      omega

/-! ## Commands -/

theorem quoteUartArgument_iff {value quoted : List Char} :
    quoteUartArgument value = .ok quoted ↔
      (∀ character ∈ controlCharacters, character ∉ value) ∧
        [quoteMark] ++ value.flatMap escapeCharacter ++ [quoteMark] = quoted := by
  rw [quoteUartArgument, replace_replace]
  split
  · rename_i control
    simp only [List.any_eq_true, List.contains_iff_mem] at control
    rcases control with ⟨character, listed, member⟩
    exact ⟨nofun, fun both => absurd member (both.1 character listed)⟩
  · rename_i clean
    simp only [List.any_eq_true, List.contains_iff_mem, not_exists, not_and]
      at clean
    exact ⟨fun same => ⟨clean, Except.ok.inj same⟩,
      fun both => congrArg Except.ok both.2⟩

structure Accepted (ssid password : List Char) : Prop where
  ssidLength : 1 ≤ (encode ssid).length ∧ (encode ssid).length ≤ 32
  passwordLength : 8 ≤ (encode password).length ∧ (encode password).length ≤ 63
  ssidClean : ∀ character ∈ controlCharacters, character ∉ ssid
  passwordClean : ∀ character ∈ controlCharacters, character ∉ password

def stationLine (ssid password : List Char) : List Char :=
  "wifi-sta-config ".toList ++
    ([quoteMark] ++ ssid.flatMap escapeCharacter ++ [quoteMark]) ++
    " ".toList ++
    ([quoteMark] ++ password.flatMap escapeCharacter ++ [quoteMark])

theorem stationCommands_ok {ssid password : List Char}
    {commands : List (List Char)}
    (accepted : stationCommands ssid password = .ok commands) :
    Accepted ssid password ∧
      commands = [stationLine ssid password, "wifi-sta-start".toList,
        "wifi-info".toList] := by
  rw [stationCommands] at accepted
  split at accepted
  · cases accepted
  · rename_i ssidLength
    split at accepted
    · cases accepted
    · rename_i passwordLength
      cases first : quoteUartArgument ssid with
      | error message =>
          rw [first] at accepted
          cases accepted
      | ok quotedSsid =>
          cases second : quoteUartArgument password with
          | error message =>
              rw [first, second] at accepted
              cases accepted
          | ok quotedPassword =>
              rw [first, second] at accepted
              rcases quoteUartArgument_iff.mp first with ⟨ssidClean, rfl⟩
              rcases quoteUartArgument_iff.mp second with ⟨passwordClean, rfl⟩
              cases accepted
              exact ⟨⟨not_not.mp ssidLength, not_not.mp passwordLength,
                ssidClean, passwordClean⟩, rfl⟩

theorem Accepted.commands {ssid password : List Char}
    (accepted : Accepted ssid password) :
    stationCommands ssid password = .ok [stationLine ssid password,
      "wifi-sta-start".toList, "wifi-info".toList] := by
  have first := quoteUartArgument_iff.mpr ⟨accepted.ssidClean, rfl⟩
  have second := quoteUartArgument_iff.mpr ⟨accepted.passwordClean, rfl⟩
  rw [stationCommands, if_neg (not_not.mpr accepted.ssidLength),
    if_neg (not_not.mpr accepted.passwordLength), first, second]
  rfl

section Line

variable {ssid password : List Char}

theorem encode_marked (text : List Char) :
    encode ([quoteMark] ++ text ++ [quoteMark]) =
      quote :: encode text ++ [quote] := by
  rw [encode_append, encode_append]
  rfl

theorem encode_stationLine (ssid password : List Char) :
    encode (stationLine ssid password) =
      ascii "wifi-sta-config" ++ space ::
        (quote :: encode (ssid.flatMap escapeCharacter) ++ quote :: space ::
          (quote :: encode (password.flatMap escapeCharacter) ++ [quote])) := by
  have command : encode "wifi-sta-config ".toList =
      ascii "wifi-sta-config" ++ [space] := by
    decide
  have blank : encode " ".toList = [space] := rfl
  unfold stationLine
  rw [encode_append, encode_append, encode_append, command, blank, encode_marked,
    encode_marked]
  simp only [List.append_assoc, List.cons_append, List.nil_append]

theorem length_stationLine (ssid password : List Char) :
    (encode (stationLine ssid password)).length =
      21 + ((encode ssid).length + escapes ssid) +
        ((encode password).length + escapes password) := by
  have command : (ascii "wifi-sta-config").length = 15 := rfl
  rw [encode_stationLine]
  simp only [List.length_append, List.length_cons, List.length_nil,
    length_encode_escaped, command]
  omega

theorem split_stationLine {split : List UInt8 → List (List UInt8)}
    (rules : Rules split) (ssid password : List Char) :
    split (encode (stationLine ssid password)) =
      [ascii "wifi-sta-config", encode ssid, encode password] := by
  have command : ∀ byte ∈ ascii "wifi-sta-config",
      byte ≠ space ∧ byte ≠ quote ∧ byte ≠ escape :=
    List.all_iff_forall_prop.mp (by decide)
  rw [encode_stationLine, rules.word _ _ (by decide) command (ends_space _),
    rules.blank, rules.quoted _ _ _ (encode_quoted ssid) (ends_space _),
    rules.blank, rules.quoted _ _ _ (encode_quoted password) ends_nil,
    rules.nothing]

theorem string_encode {text : List Char} (clean : Char.ofNat 0x00 ∉ text) :
    string (encode text) = encode text := by
  apply List.takeWhile_eq_self_iff.mpr
  intro byte member
  rw [bne_iff_ne]
  intro zero
  rw [zero] at member
  exact clean ((mem_encode_iff (by decide)).mp member)

theorem Accepted.valid (accepted : Accepted ssid password) :
    typxWifiStationCredentialsValid (some (encode ssid))
      (some (encode password)) = true := by
  have ssidLength := accepted.ssidLength
  have passwordLength := accepted.passwordLength
  have nul : Char.ofNat 0x00 ∈ controlCharacters := by decide
  simp only [typxWifiStationCredentialsValid, stringLength, Option.elim_some,
    string_encode (accepted.ssidClean _ nul),
    string_encode (accepted.passwordClean _ nul),
    wifiStaSsidBytes, Bool.and_eq_true, decide_eq_true_eq]
  omega

end Line

/-- The board reads the credentials that the tool was given. -/
structure Survives (split : List UInt8 → List (List UInt8))
    (line ssid password : List Char) : Prop where
  fits : (encode line).length ≤ maxCmdlineLength
  words : split (encode line) =
    [ascii "wifi-sta-config", encode ssid, encode password]
  valid : typxWifiStationCredentialsValid (some (encode ssid))
    (some (encode password)) = true

/-- The line of accepted credentials is split into them and they are valid, but
it fits the console only if few characters need a backslash. -/
theorem stationCommand_survives {split : List UInt8 → List (List UInt8)}
    {ssid password : List Char} {commands : List (List Char)}
    (rules : Rules split)
    (accepted : stationCommands ssid password = .ok commands) :
    ∃ line others, commands = line :: others ∧
      (Survives split line ssid password ↔
        (encode ssid).length + escapes ssid +
          ((encode password).length + escapes password) ≤ 107) := by
  rcases stationCommands_ok accepted with ⟨admitted, rfl⟩
  refine ⟨_, _, rfl, ?_⟩
  have length := length_stationLine ssid password
  constructor
  · intro survives
    have fits := survives.fits
    rw [length, maxCmdlineLength] at fits
    omega
  · intro short
    refine ⟨?_, split_stationLine rules ssid password, admitted.valid⟩
    rw [length, maxCmdlineLength]
    omega

def sampleSsid : List Char :=
  "My ".toList ++ [quoteMark] ++ "Phone".toList ++ [quoteMark]

def samplePassword : List Char :=
  "safe pass".toList ++ [backslash] ++ "word".toList

theorem stationCommand_survives_sample :
    Survives splitLine (stationLine sampleSsid samplePassword) sampleSsid
      samplePassword := by
  have accepted : Accepted sampleSsid samplePassword :=
    ⟨by decide, by decide, List.all_iff_forall_prop.mp (by decide),
      List.all_iff_forall_prop.mp (by decide)⟩
  rcases stationCommand_survives splitLine_rules accepted.commands with
    ⟨line, others, same, survives⟩
  cases same
  exact survives.mpr (by decide)

/-- A network name of quotes leaves no room for the password. -/
theorem stationCommand_survives_tooLong :
    ∃ line others, stationCommands (List.replicate 32 quoteMark)
        (List.replicate 63 (Char.ofNat 0x61)) = .ok (line :: others) ∧
      ¬Survives splitLine line (List.replicate 32 quoteMark)
        (List.replicate 63 (Char.ofNat 0x61)) := by
  have accepted : Accepted (List.replicate 32 quoteMark)
      (List.replicate 63 (Char.ofNat 0x61)) :=
    ⟨by decide, by decide, List.all_iff_forall_prop.mp (by decide),
      List.all_iff_forall_prop.mp (by decide)⟩
  refine ⟨_, _, accepted.commands, ?_⟩
  intro survives
  have fits := survives.fits
  rw [length_stationLine] at fits
  exact absurd fits (by decide)

end Typxen.BoardSetup
