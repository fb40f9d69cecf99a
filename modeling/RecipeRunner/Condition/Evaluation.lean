import RecipeRunner.Condition.Split
import RecipeRunner.Decimal.Notation
import RecipeRunner.Decimal.Reading
import RecipeRunner.Template.Evaluation
/-!
# Evaluation of conditions

A condition is a text that is true or false in a scope.  Templates in it are rendered once, and
what they give is read as a condition.  The operators are tried in a fixed order, each over the
whole text: conjunction, disjunction, negation, the numeric operators, the tests for success
and failure, the two equalities, and the words `true` and `false`.  What is none of these is no
condition.
-/

namespace RecipeRunner.Condition

open Text (trim)

/-! ## Numbers

Two integers compare exactly; otherwise both operands compare as floats, where a negative zero lies
below zero. -/

/-- A numeric operand. -/
inductive Number where
  | int (n : Int)
  | float (x : Float)

namespace Number

/-- Reads an operand: `false` is zero, other words and what is not finite are no numbers. -/
def ofChars? (cs : List Char) : Option Number :=
  let cs := Text.trim cs
  if cs = ['f', 'a', 'l', 's', 'e'] then some (int 0)
  else
    match Decimal.readBounded? cs with
    | some n => some (int n)
    | none => ((Decimal.readFloat? cs).filter Float.isFinite).map float

/-- The float nearest to a number. -/
def toFloat : Number → Float
  | int n => Float.ofInt n
  | float x => x

/-- The place of a finite float in the order of all of them; negative zero has a place of its
own. -/
def rank (x : Float) : Int :=
  let bits : Nat := x.toBits.toNat
  if bits < Decimal.twoTo 63 then bits else -((bits - Decimal.twoTo 63 : Nat) : Int) - 1

/-- Compares two numbers. -/
def compare : Number → Number → Ordering
  | int a, int b => Ord.compare a b
  | a, b => Ord.compare (rank a.toFloat) (rank b.toFloat)

end Number

/-! ## Scopes and groups -/

/-- What a condition can refer to. -/
structure Scope where
  bindings : Template.Bindings
  /-- Whether the operation of an id succeeded, if it ran. -/
  result? : String → Option Bool

/-- Whether a group that is open to `depth` closes before the last character. -/
def closesEarly (depth : Int) : List Char → Bool
  | [] => false
  | c :: rest =>
    if c = '(' then closesEarly (depth + 1) rest
    else if c = ')' then
      if depth = 1 && !rest.isEmpty then true else closesEarly (depth - 1) rest
    else closesEarly depth rest

/-- Whether one pair of parentheses holds a whole text. -/
def isGroup (cs : List Char) : Bool :=
  cs.head? = some '(' && cs.getLast? = some ')' && !closesEarly 0 cs

/-- The inside of a group. -/
def groupInside (cs : List Char) : List Char :=
  trim (cs.drop 1).dropLast

theorem length_trim_le (cs : List Char) : (trim cs).length ≤ cs.length := by
  have h1 := (List.dropWhile_sublist Text.isBlank (l := cs)).length_le
  have h2 := (List.dropWhile_sublist Text.isBlank (l := (cs.dropWhile Text.isBlank).reverse)).length_le
  simp only [trim, Text.trimEnd, Text.trimStart, Text.dropEndWhile, List.length_reverse] at h1 h2 ⊢
  omega

theorem length_groupInside {cs : List Char} (h : isGroup cs = true) :
    (groupInside cs).length < cs.length := by
  have := length_trim_le (cs.drop 1).dropLast
  have hne : cs ≠ [] := by
    rintro rfl
    simp [isGroup] at h
  have := List.length_pos_iff.2 hne
  simp only [groupInside, List.length_dropLast, List.length_drop] at *
  omega

/-- Takes away the parentheses that hold a whole text, as often as there are any. -/
def ungroup (cs : List Char) : List Char :=
  if h : isGroup cs then
    have := length_groupInside h
    ungroup (groupInside cs)
  else cs
termination_by cs.length

theorem length_ungroup_le (cs : List Char) : (ungroup cs).length ≤ cs.length := by
  fun_induction ungroup cs with
  | case1 cs h _ ih => exact Nat.le_trans ih (Nat.le_of_lt (length_groupInside h))
  | case2 => exact Nat.le_refl _

/-- A text without the quotes around it. -/
def unquote (cs : List Char) : List Char :=
  let t := trim cs
  let isQuoted (q : Char) := 2 ≤ t.length && t.head? = some q && t.getLast? = some q
  if isQuoted '"' || isQuoted '\'' then (t.drop 1).dropLast else t

/-- What follows the sign of a variable, if a text starts with one. -/
def afterSigil? : List Char → Option (List Char)
  | c :: rest => if c = '$' || c = '.' then some rest else none
  | [] => none

/-- The trimmed text of a name's value. -/
def valueText? (s : Scope) (name : List Char) : Option (List Char) :=
  (s.bindings.lookup (String.ofList name)).map fun v => trim v.render.toList

/-- The text of an operand.  With the sign of a variable it is that variable, absent ones being
`false`; without, it is the variable of that name if there is one, otherwise the operand
itself. -/
def resolve (s : Scope) (operand : List Char) : List Char :=
  let token := trim operand
  match afterSigil? token with
  | some name => (valueText? s name).getD ['f', 'a', 'l', 's', 'e']
  | none => (valueText? s (unquote token)).getD (unquote token)

/-- The numeric operators. -/
inductive Comparison where
  | atLeast
  | atMost
  | above
  | below
  deriving DecidableEq, Repr

namespace Comparison

/-- How an operator is written. -/
def symbol : Comparison → List Char
  | atLeast => ['>', '=']
  | atMost => ['<', '=']
  | above => ['>']
  | below => ['<']

/-- Whether an operator holds of operands in this order. -/
def holds : Comparison → Ordering → Bool
  | atLeast, o => o.isGE
  | atMost, o => o.isLE
  | above, o => o.isGT
  | below, o => o.isLT

/-- The operators in the order in which they are looked for. -/
def all : List Comparison := [atLeast, atMost, above, below]

end Comparison

/-- A fault with the text in which it arose. -/
def fault (f : String → ConditionFault) (cs : List Char) : Error :=
  .unsupportedCondition (f (String.ofList cs))

/-- The number that an operand of `text` stands for. -/
def operandNumber (s : Scope) (text operand : List Char) : Except Error Number :=
  let value := resolve s operand
  match Number.ofChars? value with
  | some n => .ok n
  | none => .error (fault (.notNumeric · (String.ofList value)) text)

/-- Evaluates a text that neither compares numbers nor asks for a result. -/
def evalEquality (s : Scope) (cs : List Char) : Except Error Bool :=
  match Text.cutAt? ['!', '='] cs with
  | some (left, right) => .ok (resolve s left != unquote right)
  | none =>
    match Text.cutAt? ['=', '='] cs with
    | some (left, right) => .ok (resolve s left == unquote right)
    | none =>
      if cs = "true".toList then .ok true
      else if cs = "false".toList then .ok false
      else .error (fault .unrecognised cs)

/-- Evaluates a text without conjunctions, disjunctions and negations. -/
def evalAtom (s : Scope) (cs : List Char) : Except Error Bool :=
  let numeric := Comparison.all.findSome? fun op =>
    (Text.cutAt? op.symbol cs).map fun sides => (op, sides)
  match numeric with
  | some (op, left, right) => do
    let a ← operandNumber s cs left
    let b ← operandNumber s cs right
    return op.holds (a.compare b)
  | none =>
    let success (id : List Char) : Bool :=
      let id := trim id
      (s.result? (String.ofList ((afterSigil? id).getD id))).getD false
    match Text.beforeEnd? ".success".toList cs with
    | some id => .ok (success id)
    | none =>
      match Text.beforeEnd? ".failure".toList cs with
      | some id => .ok (!success id)
      | none => evalEquality s cs

/-- Whether all operands hold, from left to right up to the first that does not. -/
def allHold {α : Type} (eval : α → Except Error Bool) : List α → Except Error Bool
  | [] => .ok true
  | x :: rest =>
    match eval x with
    | .error e => .error e
    | .ok true => allHold eval rest
    | .ok false => .ok false

/-- Whether some operand holds, from left to right up to the first that does. -/
def someHolds {α : Type} (eval : α → Except Error Bool) : List α → Except Error Bool
  | [] => .ok false
  | x :: rest =>
    match eval x with
    | .error e => .error e
    | .ok true => .ok true
    | .ok false => someHolds eval rest

/-- The operand of a negation. -/
def afterNot? : List Char → Option (List Char)
  | '!' :: rest => if rest.head? = some '=' then none else some rest
  | _ => none

theorem length_afterNot? {cs rest : List Char} (h : afterNot? cs = some rest) :
    rest.length < cs.length := by
  unfold afterNot? at h
  split at h
  · split at h
    · simp at h
    · obtain rfl := Option.some.inj h
      simp
  · simp at h

/-- What a condition is about, less blanks and the parentheses around it. -/
def core (cs : List Char) : List Char :=
  ungroup (trim cs)

theorem length_core_le (cs : List Char) : (core cs).length ≤ cs.length :=
  Nat.le_trans (length_ungroup_le _) (length_trim_le cs)

/-- Evaluates a text without templates. -/
def eval (s : Scope) (cs : List Char) : Except Error Bool :=
  have hcore := length_core_le cs
  match hand : split ['&', '&'] (core cs) with
  | .unbalanced => .error (fault .unbalanced (core cs))
  | .parts operands =>
    allHold (fun ⟨part, hpart⟩ =>
      have := length_lt_of_mem_split (by simp) hand hpart
      eval s part) operands.attach
  | .whole =>
    match hor : split ['|', '|'] (core cs) with
    | .unbalanced => .error (fault .unbalanced (core cs))
    | .parts operands =>
      someHolds (fun ⟨part, hpart⟩ =>
        have := length_lt_of_mem_split (by simp) hor hpart
        eval s part) operands.attach
    | .whole =>
      match hnot : afterNot? (core cs) with
      | some rest =>
        have := length_afterNot? hnot
        (eval s rest).map (!·)
      | none => evalAtom s (core cs)
termination_by cs.length

/-- Evaluates a condition.  One that is empty holds; one whose templates give nothing does
not. -/
def evaluate (s : Scope) (condition : String) : Except Error Bool :=
  let text := Text.trimmed condition
  if text.isEmpty then .ok true
  else if Template.hasTemplate text then
    match Template.render s.bindings text with
    | .error e => .error e
    | .ok rendered =>
      let rendered := Text.trimmed rendered
      if rendered.isEmpty then .ok false else eval s rendered.toList
  else eval s text.toList

end RecipeRunner.Condition
