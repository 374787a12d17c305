import Mathlib.Data.UInt

/-! # Command lines

The rules by which a console splits a line into words: spaces separate words,
double quotes group, and within quotes a backslash stands before a quote or a
backslash that is meant. -/

namespace CommandLine

def space : UInt8 := 0x20

def quote : UInt8 := 0x22

def escape : UInt8 := 0x5c

inductive Quoted : (text word : List UInt8) → Prop
  | nil : Quoted [] []
  | plain {byte : UInt8} {text word : List UInt8} :
      byte ≠ quote → byte ≠ escape → Quoted text word →
      Quoted (byte :: text) (byte :: word)
  | escaped {byte : UInt8} {text word : List UInt8} :
      byte = quote ∨ byte = escape → Quoted text word →
      Quoted (escape :: byte :: text) (byte :: word)

theorem Quoted.append {bytes text word : List UInt8}
    (plain : ∀ byte ∈ bytes, byte ≠ quote ∧ byte ≠ escape)
    (quoted : Quoted text word) : Quoted (bytes ++ text) (bytes ++ word) := by
  induction bytes with
  | nil => exact quoted
  | cons byte bytes induction =>
      have here := plain byte List.mem_cons_self
      exact .plain here.1 here.2 (induction fun other later =>
        plain other (List.mem_cons_of_mem _ later))

def Ends (rest : List UInt8) : Prop := ∀ byte ∈ rest.head?, byte = space

theorem ends_nil : Ends [] := by
  intro byte first
  cases first

theorem ends_space (rest : List UInt8) : Ends (space :: rest) := by
  intro byte first
  cases first
  rfl

structure Rules (split : List UInt8 → List (List UInt8)) : Prop where
  nothing : split [] = []
  blank : ∀ rest, split (space :: rest) = split rest
  word : ∀ word rest, word ≠ [] →
    (∀ byte ∈ word, byte ≠ space ∧ byte ≠ quote ∧ byte ≠ escape) →
    Ends rest → split (word ++ rest) = word :: split rest
  quoted : ∀ text word rest, Quoted text word → Ends rest →
    split (quote :: text ++ quote :: rest) = word :: split rest

/-! ## A splitter -/

inductive Position
  | between
  | plain (word : List UInt8)
  | plainEscaped (word : List UInt8)
  | quoted (word : List UInt8)
  | quotedEscaped (word : List UInt8)

/-- An escaped byte other than these is dropped. -/
def unescaped (word : List UInt8) (byte : UInt8) : List UInt8 :=
  if byte = escape ∨ byte = quote ∨ byte = space then word ++ [byte] else word

def splitFrom : Position → List UInt8 → List (List UInt8)
  | .between, [] => []
  | .plain word, [] | .plainEscaped word, [] | .quoted word, []
  | .quotedEscaped word, [] => [word]
  | .between, byte :: rest =>
      if byte = space then splitFrom .between rest
      else if byte = quote then splitFrom (.quoted []) rest
      else if byte = escape then splitFrom (.plainEscaped []) rest
      else splitFrom (.plain [byte]) rest
  | .plain word, byte :: rest =>
      if byte = space then word :: splitFrom .between rest
      else if byte = escape then splitFrom (.plainEscaped word) rest
      else splitFrom (.plain (word ++ [byte])) rest
  | .plainEscaped word, byte :: rest =>
      splitFrom (.plain (unescaped word byte)) rest
  | .quoted word, byte :: rest =>
      if byte = quote then word :: splitFrom .between rest
      else if byte = escape then splitFrom (.quotedEscaped word) rest
      else splitFrom (.quoted (word ++ [byte])) rest
  | .quotedEscaped word, byte :: rest =>
      splitFrom (.quoted (unescaped word byte)) rest

def splitLine (line : List UInt8) : List (List UInt8) :=
  splitFrom .between line

theorem splitFrom_plain {begun word rest : List UInt8}
    (plain : ∀ byte ∈ word, byte ≠ space ∧ byte ≠ quote ∧ byte ≠ escape)
    (ends : Ends rest) :
    splitFrom (.plain begun) (word ++ rest) = (begun ++ word) :: splitLine rest := by
  induction word generalizing begun with
  | nil =>
      cases rest with
      | nil => simp [splitFrom, splitLine]
      | cons byte rest =>
          have blank : byte = space := ends byte rfl
          simp [splitFrom, splitLine, blank]
  | cons byte word induction =>
      have here := plain byte List.mem_cons_self
      rw [List.cons_append, splitFrom, if_neg here.1, if_neg here.2.2,
        induction fun other later => plain other (List.mem_cons_of_mem _ later),
        List.append_assoc, List.singleton_append]

theorem splitFrom_quoted {begun text word rest : List UInt8}
    (quoted : Quoted text word) :
    splitFrom (.quoted begun) (text ++ quote :: rest) =
      (begun ++ word) :: splitLine rest := by
  induction quoted generalizing begun with
  | nil => simp [splitFrom, splitLine]
  | plain other unescaped _ induction =>
      rw [List.cons_append, splitFrom, if_neg other, if_neg unescaped, induction,
        List.append_assoc, List.singleton_append]
  | escaped special _ induction =>
      have taken : ∀ word, unescaped word _ = word ++ [_] :=
        fun word => if_pos (special.elim (.inr ∘ .inl) .inl)
      rw [List.cons_append, List.cons_append, splitFrom, if_neg (by decide),
        if_pos rfl, splitFrom, taken, induction, List.append_assoc,
        List.singleton_append]

theorem splitLine_rules : Rules splitLine where
  nothing := rfl
  blank := fun _ => rfl
  word := by
    intro word rest filled plain ends
    cases word with
    | nil => exact absurd rfl filled
    | cons byte word =>
        have here := plain byte List.mem_cons_self
        rw [splitLine, List.cons_append, splitFrom, if_neg here.1,
          if_neg here.2.1, if_neg here.2.2]
        exact splitFrom_plain
          (fun other later => plain other (List.mem_cons_of_mem _ later)) ends
  quoted := by
    intro text word rest quoted _
    rw [splitLine, List.cons_append, splitFrom, if_neg (by decide), if_pos rfl]
    exact splitFrom_quoted quoted

end CommandLine
