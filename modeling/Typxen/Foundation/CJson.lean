import Typxen.Foundation.Json

/-! # cJSON

cJSON is not part of the repository. `Library` is what is called of it, and
`Documented` what is documented of these functions, as far as it is used: what
they say of the value that a tree stands for. -/

namespace CJson

open CString Json

/-- What is added to an object; an item may be an object itself. -/
inductive Item (Tree : Type)
  | bool (value : Bool)
  | number (value : Int)
  | string (text : List UInt8)
  | tree (tree : Tree)

def Item.value {Tree : Type} (value : Tree → Value) : Item Tree → Value
  | .bool flag => .bool flag
  | .number whole => .number (.ofInt whole)
  | .string text => .string text
  | .tree item => value item

/-- A pointer to a tree may be null. Where there is memory, `parseWithLength`
parses a text, and `createObject` and `addToObject` allocate what they need. -/
structure Library (Tree : Type) where
  parseWithLength : List UInt8 → Option Tree
  getObjectItemCaseSensitive : Option Tree → String → Option Tree
  hasObjectItem : Option Tree → String → Bool
  isObject : Option Tree → Bool
  isBool : Option Tree → Bool
  isTrue : Option Tree → Bool
  isNumber : Option Tree → Bool
  isString : Option Tree → Bool
  valueDouble : Tree → Double
  valueInt : Tree → Int
  valueString : Tree → Option (List UInt8)
  createObject : Tree
  addToObject : Tree → String → Item Tree → Tree

def intMin : Int := -2 ^ 31

def intMax : Int := 2 ^ 31 - 1

/-- `value` is what a tree stands for. -/
structure Documented {Tree : Type} (json : Library Tree)
    (value : Tree → Value) : Prop where
  /-- The members of an object are found by their names. -/
  lookup : ∀ object name,
    (json.getObjectItemCaseSensitive object name).map value =
      (object.map value).bind (·.member name)
  /-- Here the case of letters does not count. -/
  has : ∀ object name, json.hasObjectItem object name =
    (object.map value).any (·.hasAlike name)
  isObject : ∀ item, json.isObject item = (item.map value).any Value.isObject
  isBool : ∀ item, json.isBool item = (item.map value).any Value.isBool
  isTrue : ∀ item, json.isTrue item = (item.map value).any Value.isTrue
  isNumber : ∀ item, json.isNumber item = (item.map value).any Value.isNumber
  isString : ∀ item, json.isString item = (item.map value).any Value.isString
  valueDouble : ∀ tree number, value tree = .number number →
    json.valueDouble tree = number
  /-- `valueint` of a whole number that is an `int`. -/
  valueInt : ∀ tree (number : Int), value tree = .number (.ofInt number) →
    intMin ≤ number → number ≤ intMax → json.valueInt tree = number
  valueString : ∀ tree text, value tree = .string text →
    json.valueString tree = some text
  createObject : value json.createObject = .object []
  /-- A member is added behind the others. -/
  addToObject : ∀ object members name item,
    value object = .object members →
    value (json.addToObject object name item) =
      .object (members ++ [(ascii name, item.value value)])
  /-- The text of a flat object is parsed as that object. -/
  parse : ∀ members : Flat, members.Writable →
    ∃ tree, json.parseWithLength members.write = some tree ∧
      value tree = members.value

section Library

variable {Tree : Type} (json : Library Tree)

/-! ## Items -/

/-- `valuedouble == (double)valueint`. -/
def Library.integral (tree : Tree) : Bool :=
  json.valueDouble tree == .ofInt (json.valueInt tree)

def Library.text (item : Option Tree) : Option (List UInt8) :=
  if json.isString item then item.bind json.valueString else none

/-! ## Objects -/

def membersOf (value : Tree → Value) (items : List (String × Item Tree)) :
    Members :=
  items.map fun item => (ascii item.1, item.2.value value)

def Library.addAll (object : Tree) (items : List (String × Item Tree)) : Tree :=
  items.foldl (fun object item => json.addToObject object item.1 item.2) object

/-! ## What is documented of them -/

variable {json} {value : Tree → Value} (documented : Documented json value)
  {item : Option Tree}

include documented

theorem Documented.text_iff {text : List UInt8} :
    json.text item = some text ↔ item.map value = some (.string text) := by
  rw [Library.text, documented.isString]
  cases item with
  | none => simp
  | some tree =>
      change (if (value tree).isString = true then json.valueString tree
        else none) = _ ↔ some (value tree) = _
      split
      · rename_i string
        rcases Value.isString_iff.mp string with ⟨found, held⟩
        rw [held, documented.valueString tree found held]
        simp
      · rename_i other
        refine iff_of_false nofun ?_
        intro same
        exact other (Value.isString_iff.mpr ⟨text, Option.some.inj same⟩)

theorem Documented.integral_ofInt {tree : Tree} {number : Int}
    (held : value tree = .number (.ofInt number)) (low : intMin ≤ number)
    (high : number ≤ intMax) : json.integral tree = true := by
  rw [Library.integral, documented.valueDouble tree _ held,
    documented.valueInt tree number held low high]
  exact beq_self_eq_true _

theorem Documented.number {tree : Tree}
    (number : json.isNumber (some tree) = true)
    (whole : json.integral tree = true) :
    value tree = .number (.ofInt (json.valueInt tree)) := by
  rw [documented.isNumber] at number
  rcases Value.isNumber_iff.mp number with ⟨double, held⟩
  have equal := documented.valueDouble tree double held
  rw [Library.integral, equal, beq_iff_eq] at whole
  rw [held, whole]

theorem Documented.addAll {object : Tree} {members : Members}
    (items : List (String × Item Tree))
    (held : value object = .object members) :
    value (json.addAll object items) =
      .object (members ++ membersOf value items) := by
  induction items generalizing object members with
  | nil =>
      rw [membersOf, List.map_nil, List.append_nil]
      exact held
  | cons item items induction =>
      have next := documented.addToObject object members item.1 item.2 held
      have rest := induction next
      rw [List.append_assoc] at rest
      exact rest

end Library

/-! ## Trees that are values -/

/-- A library whose trees are the values themselves. It reads only the texts of
flat objects. -/
def ofValues : Library Value where
  parseWithLength text := (readFlat text).map Flat.value
  getObjectItemCaseSensitive object name := object.bind (·.member name)
  hasObjectItem object name := object.any (·.hasAlike name)
  isObject item := item.any Value.isObject
  isBool item := item.any Value.isBool
  isTrue item := item.any Value.isTrue
  isNumber item := item.any Value.isNumber
  isString item := item.any Value.isString
  valueDouble
    | .number number => number
    | _ => .ofInt 0
  valueInt
    | .number (.finite number) =>
        if number ≥ intMax then intMax
        else if number ≤ intMin then intMin
        else number.num.tdiv number.den
    | _ => 0
  valueString
    | .string text => some text
    | _ => none
  createObject := .object []
  addToObject
    | .object members, name, item =>
        .object (members ++ [(ascii name, item.value id)])
    | tree, _, _ => tree

theorem ofValues_valueInt {number : Int} (low : intMin ≤ number)
    (high : number ≤ intMax) :
    ofValues.valueInt (.number (.ofInt number)) = number := by
  have truncated : (number : ℚ).num.tdiv (number : ℚ).den = number := by
    simp
  change (if (number : ℚ) ≥ (intMax : ℚ) then intMax
    else if (number : ℚ) ≤ (intMin : ℚ) then intMin
    else (number : ℚ).num.tdiv (number : ℚ).den) = number
  rw [truncated]
  split
  · rename_i above
    exact le_antisymm (Int.cast_le.mp above) high
  split
  · rename_i below
    exact le_antisymm low (Int.cast_le.mp below)
  · rfl

theorem ofValues_documented : Documented ofValues id where
  lookup object name := by cases object <;> simp [ofValues]
  has object name := by cases object <;> rfl
  isObject item := by cases item <;> rfl
  isBool item := by cases item <;> rfl
  isTrue item := by cases item <;> rfl
  isNumber item := by cases item <;> rfl
  isString item := by cases item <;> rfl
  valueDouble := by
    intro tree number same
    cases same
    rfl
  valueInt := by
    intro tree number same low high
    cases same
    exact ofValues_valueInt low high
  valueString := by
    intro tree text same
    cases same
    rfl
  createObject := rfl
  addToObject := by
    intro object members name item same
    cases same
    rfl
  parse := by
    intro members writable
    refine ⟨members.value, ?_, rfl⟩
    change (readFlat members.write).map Flat.value = _
    rw [readFlat_write writable]
    rfl

end CJson
