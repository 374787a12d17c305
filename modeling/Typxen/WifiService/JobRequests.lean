import Typxen.Foundation.CJson
import Typxen.Foundation.Numeral
import Typxen.WifiService.Hex
import Typxen.WifiUpload.WifiUpload

/-! # Requests of a job

What `chunk_handler` reads of a query, and `create_job_handler` and
`finalize_handler` of a body, before they take the mutex. -/

namespace Typxen.WifiService

open ByteString CJson CNumber CString Json WifiUpload

/-! ## Queries -/

/-- The text that `httpd_query_key_value` finds under a key. -/
abbrev Query := String → Option (List UInt8)

/-- The buffer must also hold the terminator. -/
def queryValue (query : Query) (key : String) (length : Nat) :
    Option (List UInt8) :=
  (query key).filter fun text => text.length < length

def parseU32 (text : List UInt8) (base : Nat) : Option UInt32 :=
  if text.isEmpty then none
  else
    let parsed := strtoul text base
    if parsed.outOfRange || !parsed.rest.isEmpty then none
    else some parsed.value

/-- `parse_hex` into an array, which a text that is read fills. -/
def hexField (text : List UInt8) (length : Nat) :
    Option (Vector UInt8 length) := do
  let bytes ← parseHex text length
  if sized : bytes.length = length then
    some ⟨bytes.toArray, by simpa using sized⟩
  else
    none

/-- The buffers of `chunk_handler`. -/
structure ChunkTexts where
  jobId : List UInt8
  sequence : List UInt8
  offset : List UInt8
  length : List UInt8
  crc32 : List UInt8

def chunkTexts (query : Query) : Option ChunkTexts := do
  let jobText ← queryValue query "jobId" 33
  let sequenceText ← queryValue query "sequence" 12
  let offsetText ← queryValue query "offset" 12
  let lengthText ← queryValue query "length" 12
  let crcText ← queryValue query "crc32" 12
  return ⟨jobText, sequenceText, offsetText, lengthText, crcText⟩

def ChunkTexts.parse (texts : ChunkTexts) : Option ChunkRequest := do
  let id ← hexField texts.jobId 16
  let sequence ← parseU32 texts.sequence 10
  let offset ← parseU32 texts.offset 10
  let length ← parseU32 texts.length 10
  let crc ← parseU32 texts.crc32 16
  return ⟨id, sequence, offset, length, crc⟩

/-- `chunk_handler` up to the mutex; there is no query where the request has
none or a longer one than the buffer. -/
def chunkQuery (contentLength : Nat) (query : Option Query) :
    Option ChunkRequest := do
  guard (0 < contentLength && contentLength ≤ chunkBytes.toNat)
  let texts ← chunkTexts (← query)
  let request ← texts.parse
  guard (request.length == UInt32.ofNat contentLength)
  return request

/-! ## Bodies -/

/-- What the bodies of `create_job_handler` and `finalize_handler` say. -/
structure JobBody where
  jobId : Vector UInt8 16
  size : UInt32
  sha256 : Vector UInt8 32

section Bodies

variable {Tree : Type} (json : Library Tree)

def jsonBodyMax : Nat := 512

/-- `read_json`, of what is received of a body; `memory` says whether there is
enough for its tree. -/
def readBody (content : Option (List UInt8)) (memory : Bool) : Option Tree := do
  let body ← content
  guard (0 < body.length && body.length ≤ jsonBodyMax && memory)
  json.parseWithLength body

def hexItem (item : Option Tree) (length : Nat) :
    Option (Vector UInt8 length) := do
  hexField (← json.text item) length

def jsonJobId (root : Option Tree) : Option (Vector UInt8 16) :=
  hexItem json (json.getObjectItemCaseSensitive root "jobId") 16

def inRange (lower upper : ℚ) : Double → Bool
  | .finite value => !(value < lower) && !(value > upper)
  | .infinite _ => false
  | .nan => true

def sizeItem (item : Option Tree) : Option UInt32 := do
  guard (json.isNumber item)
  let size ← item
  if !inRange 1 maxBytes.toNat (json.valueDouble size) ||
      !json.integral size then
    none
  else
    some (json.valueInt size).toNat.toUInt32

def jobBody (root : Option Tree) : Option JobBody := do
  let id ← jsonJobId json root
  let size ← sizeItem json (json.getObjectItemCaseSensitive root "size")
  let sha ← hexItem json (json.getObjectItemCaseSensitive root "sha256") 32
  return ⟨id, size, sha⟩

end Bodies

/-! ## Fields -/

section Fields

variable {text : List UInt8} {length : Nat}

theorem parseU32_iff {base : Nat} (small : base ≤ 36) {value : UInt32} :
    parseU32 text base = some value ↔ Denotes base text value := by
  rw [parseU32]
  split
  · rename_i empty
    rw [List.isEmpty_iff.mp empty]
    refine iff_of_false (by simp) ?_
    intro denotes
    rcases denotes with ⟨numeral, _⟩
    have none := subject_of_numeral small numeral
    simp [subject, skipSpaces, skipSign, skipPrefix] at none
  · rename_i nonempty
    rw [List.isEmpty_iff] at nonempty
    rw [← strtoul_denotes_iff small nonempty]
    rcases strtoul text base with ⟨read, rest, outOfRange⟩
    cases outOfRange <;> cases rest <;> simp

/-- A number may be stated by its negation. -/
example : parseU32 (ascii "-4294967295") 10 = some 1 := by decide +kernel

theorem hexField_iff {field : Vector UInt8 length} :
    hexField text length = some field ↔ SpellsAll text field.toList := by
  constructor
  · intro read
    rcases Option.bind_eq_some_iff.mp read with ⟨bytes, parsed, sized⟩
    split at sized
    · rw [← Option.some.inj sized]
      exact (parseHex_iff.mp parsed).1
    · cases sized
  · intro spells
    apply Option.bind_eq_some_iff.mpr
    refine ⟨_, parseHex_iff.mpr ⟨spells, Vector.length_toList⟩, ?_⟩
    rw [dif_pos Vector.length_toList]
    rfl

theorem queryValue_iff {query : Query} {key : String} :
    queryValue query key length = some text ↔
      query key = some text ∧ text.length < length := by
  simp [queryValue, Option.filter_eq_some_iff]

theorem spellsAll_formatHex (data : List UInt8) :
    SpellsAll (formatHex data) data :=
  (parseHex_iff.mp (parseHex_formatHex data)).1

end Fields

/-! ## What a client writes -/

def writeQuery (request : ChunkRequest) : Query
  | "jobId" => some (formatHex request.jobId.toList)
  | "sequence" => some (writeNumeral 10 request.sequence.toNat)
  | "offset" => some (writeNumeral 10 request.offset.toNat)
  | "length" => some (writeNumeral 10 request.length.toNat)
  | "crc32" => some (writeNumeral 16 request.crc32.toNat)
  | _ => none

def bodyMembers (body : JobBody) : Flat := [
  (ascii "jobId", .string (formatHex body.jobId.toList)),
  (ascii "size", .number body.size.toNat),
  (ascii "sha256", .string (formatHex body.sha256.toList))]

def writeBody (body : JobBody) : List UInt8 := (bodyMembers body).write

/-! ## What a query states -/

def States (query : Query) (key : String) (base : Nat) (value : UInt32) :
    Prop :=
  ∃ text, query key = some text ∧ text.length < 12 ∧ Denotes base text value

structure ChunkStated (query : Query) (request : ChunkRequest) : Prop where
  jobId : ∃ text, query "jobId" = some text ∧
    SpellsAll text request.jobId.toList
  sequence : States query "sequence" 10 request.sequence
  offset : States query "offset" 10 request.offset
  length : States query "length" 10 request.length
  crc32 : States query "crc32" 16 request.crc32

theorem states_iff {query : Query} {key : String} {base : Nat}
    (small : base ≤ 36) {value : UInt32} :
    States query key base value ↔ ∃ text,
      queryValue query key 12 = some text ∧
        parseU32 text base = some value := by
  simp only [States, queryValue_iff, parseU32_iff small, and_assoc]

theorem chunkTexts_iff {query : Query} {texts : ChunkTexts} :
    chunkTexts query = some texts ↔
      queryValue query "jobId" 33 = some texts.jobId ∧
        queryValue query "sequence" 12 = some texts.sequence ∧
        queryValue query "offset" 12 = some texts.offset ∧
        queryValue query "length" 12 = some texts.length ∧
        queryValue query "crc32" 12 = some texts.crc32 := by
  simp only [chunkTexts, Option.bind_eq_bind, Option.bind_eq_some_iff,
    Option.pure_def, Option.some.injEq]
  constructor
  · intro read
    rcases read with ⟨_, job, _, sequence, _, offset, _, length, _, crc, rfl⟩
    exact ⟨job, sequence, offset, length, crc⟩
  · intro held
    rcases held with ⟨job, sequence, offset, length, crc⟩
    exact ⟨_, job, _, sequence, _, offset, _, length, _, crc, rfl⟩

theorem parse_iff {texts : ChunkTexts} {request : ChunkRequest} :
    texts.parse = some request ↔
      hexField texts.jobId 16 = some request.jobId ∧
        parseU32 texts.sequence 10 = some request.sequence ∧
        parseU32 texts.offset 10 = some request.offset ∧
        parseU32 texts.length 10 = some request.length ∧
        parseU32 texts.crc32 16 = some request.crc32 := by
  simp only [ChunkTexts.parse, Option.bind_eq_bind, Option.bind_eq_some_iff,
    Option.pure_def, Option.some.injEq]
  constructor
  · intro read
    rcases read with ⟨_, id, _, sequence, _, offset, _, length, _, crc, rfl⟩
    exact ⟨id, sequence, offset, length, crc⟩
  · intro parsed
    rcases parsed with ⟨id, sequence, offset, length, crc⟩
    exact ⟨_, id, _, sequence, _, offset, _, length, _, crc, rfl⟩

theorem chunkStated_iff {query : Query} {request : ChunkRequest} :
    ChunkStated query request ↔ ∃ texts,
      chunkTexts query = some texts ∧ texts.parse = some request := by
  have decimal : 10 ≤ 36 := by decide
  have hexadecimal : 16 ≤ 36 := by decide
  constructor
  · intro stated
    rcases stated.jobId with ⟨jobText, job, id⟩
    rcases (states_iff decimal).mp stated.sequence with ⟨_, sequence, first⟩
    rcases (states_iff decimal).mp stated.offset with ⟨_, offset, second⟩
    rcases (states_iff decimal).mp stated.length with ⟨_, length, third⟩
    rcases (states_iff hexadecimal).mp stated.crc32 with ⟨_, crc, fourth⟩
    have held : queryValue query "jobId" 33 = some jobText := by
      have written := id.mapM.1
      rw [Vector.length_toList] at written
      exact queryValue_iff.mpr ⟨job, by omega⟩
    exact ⟨⟨_, _, _, _, _⟩,
      chunkTexts_iff.mpr ⟨held, sequence, offset, length, crc⟩,
      parse_iff.mpr ⟨hexField_iff.mpr id, first, second, third, fourth⟩⟩
  · intro read
    rcases read with ⟨texts, held, parsed⟩
    rcases chunkTexts_iff.mp held with ⟨job, sequence, offset, length, crc⟩
    rcases parse_iff.mp parsed with ⟨id, first, second, third, fourth⟩
    constructor
    · exact ⟨_, (queryValue_iff.mp job).1, hexField_iff.mp id⟩
    · exact (states_iff decimal).mpr ⟨_, sequence, first⟩
    · exact (states_iff decimal).mpr ⟨_, offset, second⟩
    · exact (states_iff decimal).mpr ⟨_, length, third⟩
    · exact (states_iff hexadecimal).mpr ⟨_, crc, fourth⟩

theorem chunkQuery_exact (contentLength : Nat) (query : Query)
    (request : ChunkRequest) :
    chunkQuery contentLength (some query) = some request ↔
      (0 < contentLength ∧ contentLength ≤ 4096 ∧
        request.length.toNat = contentLength) ∧ ChunkStated query request := by
  have sized : chunkBytes.toNat = 4096 := rfl
  have same : contentLength ≤ 4096 →
      (request.length = UInt32.ofNat contentLength ↔
        request.length.toNat = contentLength) := by
    intro fits
    have bound : contentLength < UInt32.size :=
      Nat.lt_of_le_of_lt fits (by decide)
    rw [← UInt32.toNat_inj, UInt32.toNat_ofNat_of_lt' bound]
  rw [chunkStated_iff]
  simp only [chunkQuery, Option.bind_eq_bind, Option.bind_eq_some_iff,
    Option.guard_eq_some', Bool.and_eq_true, decide_eq_true_eq, sized,
    beq_iff_eq, Option.pure_def, Option.some.injEq]
  constructor
  · intro read
    rcases read with ⟨_, ⟨nonempty, fits⟩, _, rfl, texts, held, _, parsed, _,
      equal, rfl⟩
    exact ⟨⟨nonempty, fits, (same fits).mp equal⟩, texts, held, parsed⟩
  · intro stated
    rcases stated with ⟨⟨nonempty, fits, equal⟩, texts, held, parsed⟩
    exact ⟨(), ⟨nonempty, fits⟩, query, rfl, texts, held, request, parsed, (),
      (same fits).mpr equal, rfl⟩

/-! ## What a body states -/

structure BodyStated (root : Option Value) (body : JobBody) : Prop where
  jobId : ∃ text, root.bind (·.member "jobId") = some (.string text) ∧
    SpellsAll text body.jobId.toList
  size : root.bind (·.member "size") =
    some (.number (.ofInt body.size.toNat))
  nonempty : 0 < body.size
  fits : body.size ≤ maxBytes
  sha256 : ∃ text, root.bind (·.member "sha256") = some (.string text) ∧
    SpellsAll text body.sha256.toList

section Documented

variable {Tree : Type} {json : Library Tree} {value : Tree → Value}
  (documented : Documented json value)

include documented

theorem hexItem_iff {item : Option Tree} {length : Nat}
    {field : Vector UInt8 length} :
    hexItem json item length = some field ↔
      ∃ text, item.map value = some (.string text) ∧
        SpellsAll text field.toList := by
  simp only [hexItem, Option.bind_eq_bind, Option.bind_eq_some_iff,
    documented.text_iff, hexField_iff]

theorem sizeItem_whole {tree : Tree} {size : UInt32}
    (number : json.isNumber (some tree) = true)
    (whole : json.integral tree = true)
    (within : inRange 1 maxBytes.toNat (json.valueDouble tree) = true)
    (read : (json.valueInt tree).toNat.toUInt32 = size) :
    value tree = .number (.ofInt size.toNat) ∧ 0 < size ∧
      size ≤ maxBytes := by
  have held := documented.number number whole
  rw [documented.valueDouble tree _ held] at within
  have bounds : (1 : ℚ) ≤ json.valueInt tree ∧
      (json.valueInt tree : ℚ) ≤ 524288 := by
    simpa [inRange, Double.ofInt, maxBytes] using within
  have low : 1 ≤ json.valueInt tree := by exact_mod_cast bounds.1
  have high : json.valueInt tree ≤ 524288 := by exact_mod_cast bounds.2
  have same : size.toNat = (json.valueInt tree).toNat := by
    rw [← read]
    exact UInt32.toNat_ofNat_of_lt' (by
      change (json.valueInt tree).toNat < 2 ^ 32
      omega)
  refine ⟨?_, ?_, ?_⟩
  · rw [held, same, Int.toNat_of_nonneg (by omega)]
  · apply UInt32.lt_iff_toNat_lt.mpr
    change 0 < size.toNat
    omega
  · apply UInt32.le_iff_toNat_le.mpr
    change size.toNat ≤ 524288
    omega

theorem sizeItem_iff {item : Option Tree} {size : UInt32} :
    sizeItem json item = some size ↔
      item.map value = some (.number (.ofInt size.toNat)) ∧ 0 < size ∧
        size ≤ maxBytes := by
  simp only [sizeItem, Option.bind_eq_bind, Option.bind_eq_some_iff,
    Option.guard_eq_some']
  constructor
  · intro read
    rcases read with ⟨_, number, tree, there, read⟩
    rw [there] at number
    split at read
    · cases read
    · rename_i sound
      simp only [Bool.or_eq_true, Bool.not_eq_true', not_or,
        Bool.not_eq_false] at sound
      have facts := sizeItem_whole documented number sound.2 sound.1
        (Option.some.inj read)
      rw [there, Option.map_some, facts.1]
      exact ⟨rfl, facts.2⟩
  · intro stated
    rcases stated with ⟨found, nonempty, fits⟩
    rcases Option.map_eq_some_iff.mp found with ⟨tree, there, held⟩
    have bound : size.toNat ≤ 524288 := UInt32.le_iff_toNat_le.mp fits
    have positive : 0 < size.toNat := UInt32.lt_iff_toNat_lt.mp nonempty
    have low : intMin ≤ (size.toNat : Int) := by
      unfold intMin
      omega
    have high : (size.toNat : Int) ≤ intMax := by
      unfold intMax
      omega
    have number : json.isNumber item = true := by
      rw [documented.isNumber, found]
      rfl
    have within : inRange 1 maxBytes.toNat (json.valueDouble tree) = true := by
      have nonzero : size.toNat ≠ 0 := by omega
      rw [documented.valueDouble tree _ held]
      simpa [inRange, Double.ofInt, maxBytes] using And.intro nonzero bound
    refine ⟨(), number, tree, there, ?_⟩
    rw [within, documented.integral_ofInt held low high,
      documented.valueInt tree _ held low high]
    simp

theorem jobBody_exact (root : Option Tree) (body : JobBody) :
    jobBody json root = some body ↔ BodyStated (root.map value) body := by
  simp only [jobBody, jsonJobId, Option.bind_eq_bind, Option.bind_eq_some_iff,
    Option.pure_def, Option.some.injEq]
  simp only [hexItem_iff documented, sizeItem_iff documented,
    documented.lookup]
  constructor
  · intro read
    rcases read with
      ⟨id, jobId, size, ⟨found, nonempty, fits⟩, sha, digest, rfl⟩
    exact ⟨jobId, found, nonempty, fits, digest⟩
  · intro stated
    exact ⟨_, stated.jobId, _, ⟨stated.size, stated.nonempty, stated.fits⟩, _,
      stated.sha256, rfl⟩

end Documented

def sampleRequest : ChunkRequest := ⟨Vector.replicate 16 7, 2, 8192, 4, 9⟩

def sampleBody : JobBody := ⟨Vector.replicate 16 7, 8196, Vector.replicate 32 9⟩

theorem writeNumeral_states {query : Query} {key : String} {base : Nat}
    {value : UInt32} (large : 10 ≤ base) (small : base ≤ 36)
    (written : query key = some (writeNumeral base value.toNat)) :
    States query key base value := by
  have some : 1 < base := by omega
  have bound : value.toNat < base ^ 10 :=
    calc value.toNat
        < 2 ^ 32 := value.toNat_lt
      _ ≤ 10 ^ 10 := by decide
      _ ≤ base ^ 10 := Nat.pow_le_pow_left large 10
  have length := length_writeNumeral some (by decide) bound
  exact ⟨_, written, by omega, writeNumeral_denotes some small value⟩

theorem chunkQuery_written (request : ChunkRequest)
    (nonempty : 0 < request.length) (fits : request.length ≤ chunkBytes) :
    chunkQuery request.length.toNat (some (writeQuery request)) =
      some request := by
  apply (chunkQuery_exact _ _ _).mpr
  constructor
  · exact ⟨UInt32.lt_iff_toNat_lt.mp nonempty, UInt32.le_iff_toNat_le.mp fits,
      rfl⟩
  · constructor
    · exact ⟨_, rfl, spellsAll_formatHex _⟩
    · exact writeNumeral_states (by decide) (by decide) rfl
    · exact writeNumeral_states (by decide) (by decide) rfl
    · exact writeNumeral_states (by decide) (by decide) rfl
    · exact writeNumeral_states (by decide) (by decide) rfl

theorem plain_of_isDigit {character : UInt8} :
    isDigit 16 character = true → plain character = true := by
  revert character
  apply forall_byte
  decide +kernel

theorem plain_formatHex (data : List UInt8) : Plain (formatHex data) := by
  intro character member
  rcases List.mem_flatMap.mp member with ⟨byte, _, digit⟩
  have digits := (formatByte_parses byte).1
  rcases List.mem_pair.mp digit with same | same
  · rw [same]
    exact plain_of_isDigit digits.1
  · rw [same]
    exact plain_of_isDigit digits.2

theorem bodyMembers_writable (body : JobBody) :
    Flat.Writable (bodyMembers body) := by
  have small := body.size.toNat_lt
  have name : ∀ {text : List UInt8}, text.all plain = true → Plain text :=
    List.all_eq_true.mp
  unfold Flat.Writable bodyMembers
  exact List.forall_mem_cons.mpr ⟨⟨name rfl, plain_formatHex _⟩,
    List.forall_mem_cons.mpr ⟨⟨name rfl, Nat.lt_trans small (by decide)⟩,
      List.forall_mem_singleton.mpr ⟨name rfl, plain_formatHex _⟩⟩⟩

theorem length_writeBody {body : JobBody} (fits : body.size ≤ maxBytes) :
    0 < (writeBody body).length ∧ (writeBody body).length ≤ jsonBodyMax := by
  have bound : body.size.toNat ≤ 524288 := UInt32.le_iff_toNat_le.mp fits
  have digits : (writeNumeral 10 body.size.toNat).length ≤ 6 :=
    length_writeNumeral (by decide) (by decide) (by omega)
  have names : (ascii "jobId").length = 5 ∧ (ascii "size").length = 4 ∧
      (ascii "sha256").length = 6 := ⟨rfl, rfl, rfl⟩
  simp only [writeBody, bodyMembers, Flat.write, writeMembers, writeMember,
    quote, Scalar.write, List.length_cons, List.length_append,
    List.length_nil, length_formatHex, Vector.length_toList, names,
    jsonBodyMax]
  omega

theorem jobBody_written {Tree : Type} {json : Library Tree}
    {value : Tree → Value} (documented : Documented json value)
    (body : JobBody) (nonempty : 0 < body.size) (fits : body.size ≤ maxBytes) :
    jobBody json (readBody json (some (writeBody body)) true) = some body := by
  rcases documented.parse _ (bodyMembers_writable body) with
    ⟨tree, parsed, held⟩
  have length := length_writeBody fits
  have read : readBody json (some (writeBody body)) true = some tree := by
    rw [← parsed]
    change _ = json.parseWithLength (writeBody body)
    simp [readBody, length]
  rw [read]
  apply (jobBody_exact documented _ _).mpr
  rw [Option.map_some, held]
  constructor
  · exact ⟨_, rfl, spellsAll_formatHex _⟩
  · rfl
  · exact nonempty
  · exact fits
  · exact ⟨_, rfl, spellsAll_formatHex _⟩

end Typxen.WifiService
