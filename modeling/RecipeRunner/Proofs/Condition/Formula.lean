import RecipeRunner.Proofs.Condition.Evaluation
import RecipeRunner.Proofs.Decimal.Integer
/-!
# Formulas and how they are written

Conditions as trees: atoms, negations, and conjunctions and disjunctions of two or more operands.
A formula is written with parentheses only where the reading of conditions needs them: a
conjunction is split before a disjunction and so binds more loosely.  Its meaning is found from
left to right and stops at the first operand that decides or fails.

* `Formula.text`: how a formula is written.
* `Number.Reads`, `Comparison.Relates`: which number a text stands for, and when an operator holds
  of two numbers.
* `Atom.meaning`, `Formula.meaning`: whether a formula holds.
-/

namespace RecipeRunner.Condition

open Text (trim Tight isBlank)

/-- The characters with a meaning of their own in conditions and templates. -/
def marks : List Char :=
  ['(', ')', '&', '|', '!', '=', '<', '>', '.', '$', '"', '\'', '\x7b']

/-- The characters of words: letters, digits, `_` and all others that are neither blank nor have a
meaning of their own. -/
def isWordChar (c : Char) : Bool :=
  !isBlank c && !marks.contains c

/-- A word that is not empty: a name, an id or a literal. -/
structure Word where
  chars : List Char
  ne_nil : chars ≠ []
  isWord : ∀ c ∈ chars, isWordChar c = true

/-- A word as a string. -/
def Word.text (w : Word) : String :=
  String.ofList w.chars

/-- Formulas without operands. -/
inductive Atom where
  | constant (value : Bool)
  | succeeded (id : Word)
  | failed (id : Word)
  | compares (left : Word) (op : Comparison) (right : Word)
  | equals (name literal : Word)
  | differs (name literal : Word)

inductive Formula where
  | atom (a : Atom)
  | neg (f : Formula)
  /-- Two or more operands of which all hold. -/
  | all (first second : Formula) (more : List Formula)
  /-- Two or more operands of which some holds. -/
  | any (first second : Formula) (more : List Formula)

/-! ## Writing -/

/-- How an atom is written. -/
def Atom.print : Atom → List Char
  | constant true => ['t', 'r', 'u', 'e']
  | constant false => ['f', 'a', 'l', 's', 'e']
  | succeeded id => id.chars ++ ".success".toList
  | failed id => id.chars ++ ".failure".toList
  | compares left op right =>
    '$' :: left.chars ++ [' '] ++ (op.symbol ++ (' ' :: '$' :: right.chars))
  | equals name literal => '$' :: name.chars ++ [' '] ++ (['=', '='] ++ (' ' :: literal.chars))
  | differs name literal => '$' :: name.chars ++ [' '] ++ (['!', '='] ++ (' ' :: literal.chars))

namespace Formula

def isAll : Formula → Bool
  | all .. => true
  | _ => false

def isCompound : Formula → Bool
  | all .. | any .. => true
  | _ => false

/-- Puts a text in parentheses, if it has to be. -/
def enclose (on : Bool) (cs : List Char) : List Char :=
  if on then group cs else cs

mutual

/-- How a formula is written.  A conjunction needs parentheses inside every other formula, a
disjunction inside disjunctions and negations. -/
def print : Formula → List Char
  | .atom a => a.print
  | .neg f => '!' :: enclose f.isCompound f.print
  | .all first second more =>
    Text.joinWith " && ".toList
      (enclose first.isAll first.print :: enclose second.isAll second.print ::
        printEach isAll more)
  | .any first second more =>
    Text.joinWith " || ".toList
      (enclose first.isCompound first.print :: enclose second.isCompound second.print ::
        printEach isCompound more)

/-- How operands are written, where `needs` says which of them need parentheses. -/
def printEach (needs : Formula → Bool) : List Formula → List (List Char)
  | [] => []
  | f :: rest => enclose (needs f) f.print :: printEach needs rest

end

/-- What a formula is written as. -/
def text (f : Formula) : String :=
  String.ofList f.print

example : (neg (any (atom (.constant true))
    (all (any (atom (.constant false)) (atom (.constant true)) []) (neg (atom (.constant true))) [])
    [])).text = "!(true || (false || true && !true))" := by decide

end Formula

/-! ## Meaning -/

/-- The trimmed text of a variable or an output; absent ones are `false`. -/
def Word.value (s : Scope) (w : Word) : List Char :=
  match s.bindings.lookup w.text with
  | some v => trim v.render.toList
  | none => ['f', 'a', 'l', 's', 'e']

/-- The number that a text without blanks around it stands for.  Whole numbers in the range of
variables are read exactly, what else is a number as a finite float, and `false` as zero. -/
inductive Number.Reads : List Char → Number → Prop where
  | absent : Reads ['f', 'a', 'l', 's', 'e'] (.int 0)
  | whole {cs : List Char} {n : Int} (h : Decimal.Spells n cs) (hfits : Decimal.fits n = true) :
    Reads cs (.int n)
  | float {cs : List Char} {x : Float}
      (hwhole : ∀ n, Decimal.Spells n cs → Decimal.fits n = false)
      (h : Decimal.readFloat? cs = some x) (hfinite : x.isFinite = true) : Reads cs (.float x)

/-- A float has a sign, be it a zero. -/
def Number.hasSign (x : Float) : Bool :=
  Decimal.twoTo 63 ≤ x.toBits.toNat

/-- One number lies below another one.  Two whole numbers are compared exactly, otherwise both are
compared as floats, and the zero with a sign lies below the one without. -/
def Number.Below : Number → Number → Prop
  | .int m, .int n => m < n
  | x, y => x.toFloat < y.toFloat ∨
      (x.toFloat == y.toFloat) = true ∧ hasSign x.toFloat = true ∧ hasSign y.toFloat = false

/-- An operator holds of two numbers in this order. -/
def Comparison.Relates : Comparison → Number → Number → Prop
  | atLeast, x, y => ¬ x.Below y
  | atMost, x, y => ¬ y.Below x
  | above, x, y => y.Below x
  | below, x, y => x.Below y

open Classical in
/-- The number that a variable holds, for the atom `a`. -/
noncomputable def Word.number (s : Scope) (a : Atom) (w : Word) : Except Error Number :=
  if h : ∃ x, Number.Reads (w.value s) x then .ok h.choose
  else .error (.unsupportedCondition
    (.notNumeric (String.ofList a.print) (String.ofList (w.value s))))

open Classical in
/-- Whether an atom holds. -/
noncomputable def Atom.meaning (s : Scope) (a : Atom) : Except Error Bool :=
  match a with
  | constant value => .ok value
  | succeeded id => .ok (s.result? id.text = some true)
  | failed id => .ok (s.result? id.text ≠ some true)
  | compares left op right => do
    let x ← left.number s a
    let y ← right.number s a
    return decide (op.Relates x y)
  | equals name literal => .ok (name.value s = literal.chars)
  | differs name literal => .ok (name.value s ≠ literal.chars)

namespace Formula

mutual

/-- Whether a formula holds.  Operands are looked at from left to right, up to the first that
decides or fails. -/
noncomputable def meaning (s : Scope) : Formula → Except Error Bool
  | .atom a => a.meaning s
  | .neg f => do return !(← f.meaning s)
  | .all first second more => do
    if ← first.meaning s then
      if ← second.meaning s then meaningAll s more else return false
    else return false
  | .any first second more => do
    if ← first.meaning s then return true
    else if ← second.meaning s then return true
    else meaningAny s more

noncomputable def meaningAll (s : Scope) : List Formula → Except Error Bool
  | [] => .ok true
  | f :: rest => do
    if ← f.meaning s then meaningAll s rest else return false

noncomputable def meaningAny (s : Scope) : List Formula → Except Error Bool
  | [] => .ok false
  | f :: rest => do
    if ← f.meaning s then return true else meaningAny s rest

end

end Formula

end RecipeRunner.Condition
