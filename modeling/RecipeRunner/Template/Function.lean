import RecipeRunner.Error
import RecipeRunner.Pattern.Marking
import RecipeRunner.Pattern.Reader
import RecipeRunner.Style
import RecipeRunner.Task
import RecipeRunner.Value
/-!
# Functions

The functions of the template language.  Functions on text take their subject last, so that
they chain in pipelines.  Arithmetic is that of floats, and a whole result is an integer.  A
template is rendered against the values of names, the background tasks, whether colours are shown,
and the random numbers to draw.
-/

namespace RecipeRunner

/-- The random numbers of an evaluation, or of all evaluations that are still to come: at each place
one for any two bounds.  No two parts of an evaluation have a place in common, so each draws
numbers of its own. -/
structure Chance where
  draw : (place : List Nat) → (least greatest : Int) → Int
  within (place : List Nat) {least greatest : Int} : least ≤ greatest →
    least ≤ draw place least greatest ∧ draw place least greatest ≤ greatest

namespace Chance

/-- What a part of an evaluation draws. -/
def part (c : Chance) (i : Nat) : Chance where
  draw place := c.draw (i :: place)
  within place := c.within (i :: place)

/-- Draws the least number everywhere. -/
def lowest : Chance where
  draw _ least _ := least
  within _ _ _ h := ⟨Int.le_refl _, h⟩

/-- Numbers that depend on a seed and look as if they did not depend on each other. -/
def ofSeed (seed : Nat) : Chance where
  draw place least greatest :=
    let state := place.foldl scramble (scramble seed 0)
    least + ((state >>> 16) % (greatest - least + 1).toNat : Nat)
  within place least greatest h := by
    have := Nat.mod_lt (place.foldl scramble (scramble seed 0) >>> 16)
      (y := (greatest - least + 1).toNat) (by omega)
    dsimp only
    omega
where
  /-- Mixes a number into a state. -/
  scramble (state i : Nat) : Nat :=
    let mixed := (state ^^^ (state >>> 33) + i + 1) * 6364136223846793005 + 1442695040888963407
    mixed % Decimal.twoTo 96

instance : Inhabited Chance := ⟨lowest⟩

instance : Repr Chance := ⟨fun _ _ => "chance"⟩

end Chance

namespace Template

/-- What a template is rendered against. -/
structure Bindings where
  lookup : String → Option Value
  task? : String → Option Task := fun _ => none
  pendingTasks : Nat := 0
  color : Bool := false
  chance : Chance := .lowest

namespace Bindings

/-- The bindings with other random numbers. -/
def drawing (b : Bindings) (chance : Chance) : Bindings :=
  { b with chance := chance }

/-- The bindings of a part of an evaluation. -/
def part (b : Bindings) (i : Nat) : Bindings :=
  b.drawing (b.chance.part i)

@[simp] theorem drawing_drawing (b : Bindings) (c c' : Chance) :
    (b.drawing c).drawing c' = b.drawing c' := rfl

@[simp] theorem part_drawing (b : Bindings) (c : Chance) (i : Nat) :
    (b.drawing c).part i = b.drawing (c.part i) := rfl

@[simp] theorem lookup_drawing (b : Bindings) (c : Chance) :
    (b.drawing c).lookup = b.lookup := rfl

@[simp] theorem lookup_part (b : Bindings) (i : Nat) : (b.part i).lookup = b.lookup := rfl

/-- Lays values over the names of other bindings. -/
def overlay (b : Bindings) (extra : List (String × Value)) : Bindings :=
  { b with lookup := fun name => (extra.lookup name).or (b.lookup name) }

@[simp] theorem lookup_overlay (b : Bindings) (extra : List (String × Value)) (name : String) :
    (b.overlay extra).lookup name = (extra.lookup name).or (b.lookup name) := rfl

end Bindings

/-- What a function gives. -/
abbrev Result (α : Type) := Except FunctionFault α

namespace Function

/-- The only argument. -/
def one (name : String) : List Value → Result Value
  | [a] => .ok a
  | args => .error (.arity name 1 args.length)

/-- The only two arguments. -/
def two (name : String) : List Value → Result (Value × Value)
  | [a, b] => .ok (a, b)
  | args => .error (.arity name 2 args.length)

/-- The only three arguments. -/
def three (name : String) : List Value → Result (Value × Value × Value)
  | [a, b, c] => .ok (a, b, c)
  | args => .error (.arity name 3 args.length)

/-- The only argument, as text. -/
def oneText (name : String) (args : List Value) : Result String :=
  (one name args).map Value.render

/-- The only two arguments, as texts. -/
def twoTexts (name : String) (args : List Value) : Result (String × String) :=
  (two name args).map fun (a, b) => (a.render, b.render)

/-- An argument as a number. -/
def number (name : String) (v : Value) : Result Float :=
  match v.toFloat? with
  | some x => .ok x
  | none => .error (.notNumber name v.render)

/-- An argument as an integer. -/
def integer (name : String) (v : Value) : Result Int :=
  match v.toInt? with
  | some n => .ok n
  | none => .error (.notInteger name v.render)

/-- The only argument, as a number. -/
def oneNumber (name : String) (args : List Value) : Result Float :=
  one name args >>= number name

/-- The only two arguments, as numbers. -/
def twoNumbers (name : String) (args : List Value) : Result (Float × Float) := do
  let (a, b) ← two name args
  return (← number name a, ← number name b)

/-- Combines two or more numbers from left to right. -/
def combine (name : String) (f : Float → Float → Float) : List Value → Result Value
  | a :: b :: rest => do
    let mut total ← number name a
    for arg in b :: rest do
      total := f total (← number name arg)
    return .ofFloat total
  | args => .error (.atLeastTwo name args.length)

/-- Compares two numbers. -/
def compare (name : String) (f : Float → Float → Bool) (args : List Value) : Result Value := do
  let (a, b) ← twoNumbers name args
  return .bool (f a b)

/-- Whether two values are equal: as numbers if both are and not both are texts, otherwise as
texts. -/
def looselyEqual (a b : Value) : Bool :=
  let texts := match a, b with
    | .str _, .str _ => true
    | _, _ => false
  match a.toFloat?, b.toFloat? with
  | some x, some y => if texts then a.render == b.render else x == y
  | _, _ => a.render == b.render

/-- A text in a style, where colours are shown. -/
def styled (b : Bindings) (style : Style) (text : String) : Value :=
  .str (if b.color then style.paint text else text)

/-- The pieces of a text at a separator; without a separator its characters. -/
def split (sep text : String) : List String :=
  if sep.isEmpty then text.toList.map String.singleton else Text.piecesOf sep text

/-- The lines in which a pattern matches. -/
def grep (pattern : Pattern) (text : String) : String :=
  "\n".intercalate ((Text.linesOf text).filter fun line => pattern.occursIn line.toList)

/-- The field of a number, counted from one, of each line. -/
def cut (sep : String) (field : Nat) (text : String) : String :=
  "\n".intercalate ((Text.linesOf text).map fun line =>
    ((Text.piecesOf sep line)[field - 1]?).getD "")

/-- A share as a percentage; of nothing every share is zero. -/
def percentage (part total : Float) : Float :=
  if total == 0.0 then 0.0 else part / total * 100.0

/-- Rounds to a number of places. -/
def roundTo (x : Float) (places : Nat) : Float :=
  let factor := Float.ofNat (Decimal.tenTo places)
  Decimal.roundHalfAway (x * factor) / factor

/-- The number and the places of a rounding. -/
def roundingArgs (name : String) : List Value → Result (Float × Nat)
  | [x] => do return (← number name x, 0)
  | [x, places] => do
    let p ← integer name places
    if p < 0 || 15 < p then throw .placesAboveFifteen
    return (← number name x, p.toNat)
  | args => .error (.oneOrTwo name args.length)

/-- The places of a percentage text. -/
def percentPlaces : List Value → Result Nat
  | [] => .ok 1
  | p :: _ =>
    match p.toInt? with
    | some n => if 0 ≤ n && n ≤ 10 then .ok n.toNat else .error .placesAboveTen
    | none => .error .placesAboveTen

/-- The text of an argument under a verb of a format. -/
def formatArg (verb : Char) (places : Option Nat) (arg : Value) : Result String :=
  if verb = 'd' then (integer "printf" arg).map toString
  else if verb = 'f' then (number "printf" arg).map (Decimal.fixed (places.getD 6))
  else .ok arg.render

/-- Whether a character is a verb that takes an argument. -/
def isVerb (c : Char) : Bool :=
  c = 's' || c = 'v' || c = 'd' || c = 'f'

/-- The precision behind the percent sign, and the rest. -/
def readPrecision : List Char → Option Nat × List Char
  | '.' :: rest => (Decimal.readCount? (rest.takeWhile Decimal.isDigit),
      rest.dropWhile Decimal.isDigit)
  | cs => (none, cs)

theorem length_readPrecision (cs : List Char) :
    (readPrecision cs).2.length ≤ cs.length := by
  unfold readPrecision
  split
  · have := (List.dropWhile_sublist Decimal.isDigit (l := ‹List Char›)).length_le
    simp only [List.length_cons]; omega
  · exact Nat.le_refl _

/-- A part of a format. -/
inductive Directive where
  | text (cs : List Char)
  /-- Stands for an argument under a verb. -/
  | argument (verb : Char) (places : Option Nat)
  deriving Repr

namespace Directive

/-- What a character behind a percent sign stands for. -/
def ofVerb (places : Option Nat) (c : Char) : Directive :=
  if c = '%' then text ['%'] else if isVerb c then argument c places else text ['%', c]

/-- The parts of a format.  The verbs `%s` and `%v` stand for an argument as it is, `%d` for an
integer, `%f` for a number with the given places or six, and `%%` for a percent sign; anything
else stands for itself. -/
def ofFormat (format : List Char) : List Directive :=
  match format with
  | [] => []
  | '%' :: rest =>
    match _h : readPrecision rest with
    | (_, []) => [text ['%']]
    | (places, c :: tail) => ofVerb places c :: ofFormat tail
  | c :: rest => text [c] :: ofFormat rest
termination_by format.length
decreasing_by
  · have shorter := length_readPrecision rest
    rw [_h] at shorter
    exact Nat.lt_succ_of_lt shorter
  · exact Nat.lt_succ_self rest.length

/-- Writes the arguments of directives. -/
def write : List Directive → List Value → Result (List Char)
  | [], _ => .ok []
  | text cs :: rest, args => (write rest args).map (cs ++ ·)
  | argument verb _ :: _, [] => .error (.missingArgument verb)
  | argument verb places :: rest, arg :: args =>
    match formatArg verb places arg with
    | .ok written => (write rest args).map (written.toList ++ ·)
    | .error fault => .error fault

end Directive

/-- Writes arguments into a format. -/
def sprintf (format : List Char) (args : List Value) : Result (List Char) :=
  Directive.write (Directive.ofFormat format) args

/-- The functions on text. -/
def callText (name : String) (args : List Value) : Option (Result Value) :=
  match name with
  | "split" => some do
    let (sep, s) ← twoTexts name args
    return .list (split sep s)
  | "join" => some do
    let (sep, items) ← two name args
    return .str (sep.render.intercalate items.toItems)
  | "trim" => some do return .str (Text.trimmed (← oneText name args))
  | "trimPrefix" => some do
    let (p, s) ← twoTexts name args
    return .str ((Text.stripStart? p s).getD s)
  | "trimSuffix" => some do
    let (p, s) ← twoTexts name args
    return .str ((Text.stripEnd? p s).getD s)
  | "replace" => some do
    let (mark, substitute, s) ← three name args
    return .str (Text.replaced mark.render substitute.render s.render)
  | "contains" => some do
    let (mark, s) ← twoTexts name args
    return .bool (Text.contains mark s)
  | "hasPrefix" => some do
    let (p, s) ← twoTexts name args
    return .bool (Text.stripStart? p s).isSome
  | "hasSuffix" => some do
    let (p, s) ← twoTexts name args
    return .bool (Text.stripEnd? p s).isSome
  | "upper" => some do return .str (Text.upperCase (← oneText name args))
  | "lower" => some do return .str (Text.lowerCase (← oneText name args))
  | "lines" => some do return .list (Text.itemsOf (← oneText name args))
  | "grep" => some do
    let (pattern, s) ← twoTexts name args
    match Pattern.read? pattern.toList with
    | some p => return .str (grep p s)
    | none => throw (.invalidPattern "it does not follow the grammar of patterns")
  | "cut" => some do
    let (sep, field, s) ← three name args
    match field.toInt? with
    | none => throw (.fieldNotInteger field.render)
    | some n =>
      if n < 1 then throw .fieldBelowOne
      return .str (cut sep.render n.toNat s.render)
  | "len" => some do
    match ← one name args with
    | .list items => return .int items.length
    | v => return .int v.render.length
  | "default" => some do
    let (fallback, v) ← two name args
    return if v.isTruthy then v else fallback
  | "printf" => some <|
    match args with
    | [] => .error .missingFormat
    | format :: rest => do
      return .str (String.ofList (← sprintf format.render.toList rest))
  | _ => none

/-- The functions on numbers. -/
def callNumber (b : Bindings) (name : String) (args : List Value) : Option (Result Value) :=
  match name with
  | "add" => some <| combine name (· + ·) args
  | "sub" => some do
    let (x, y) ← twoNumbers name args
    return .ofFloat (x - y)
  | "mul" => some <| combine name (· * ·) args
  | "div" => some do
    let (x, y) ← twoNumbers name args
    if y == 0.0 then throw .divisionByZero
    return .ofFloat (x / y)
  | "mod" => some do
    let (x, y) ← twoNumbers name args
    if y == 0.0 then throw .divisionByZero
    return .ofFloat (Decimal.remainder x y)
  | "round" => some do
    let (x, places) ← roundingArgs name args
    return .ofFloat (roundTo x places)
  | "ceil" => some do return .ofFloat (Decimal.ceil (← oneNumber name args))
  | "floor" => some do return .ofFloat (Decimal.floor (← oneNumber name args))
  | "abs" => some do return .ofFloat (← oneNumber name args).abs
  | "min" => some <| combine name Decimal.least args
  | "max" => some <| combine name Decimal.greatest args
  | "pow" => some do
    let (x, y) ← twoNumbers name args
    return .ofFloat (x.pow y)
  | "sqrt" => some do
    let x ← oneNumber name args
    if x < 0.0 then throw .negativeRoot
    return .ofFloat x.sqrt
  | "log" => some do
    let x ← oneNumber name args
    if x ≤ 0.0 then throw .nonPositiveLogarithm
    return .ofFloat x.log
  | "percent" => some do
    let (part, total) ← twoNumbers name args
    return .ofFloat (percentage part total)
  | "percentf" => some <|
    match args with
    | part :: total :: places =>
      if 1 < places.length then .error (.twoOrThree args.length)
      else do
        let part ← number name part
        let total ← number name total
        let places ← percentPlaces places
        return .str (Decimal.fixed places (percentage part total) ++ "%")
    | _ => .error (.twoOrThree args.length)
  | "randInt" => some do
    let (least, greatest) ← two name args
    let least ← integer name least
    let greatest ← integer name greatest
    if greatest < least then throw (.emptyRange least greatest)
    return .int (b.chance.draw [] least greatest)
  | _ => none

/-- The functions on truth. -/
def callTruth (name : String) (args : List Value) : Option (Result Value) :=
  match name with
  | "eq" => some do
    let (x, y) ← two name args
    return .bool (looselyEqual x y)
  | "ne" => some do
    let (x, y) ← two name args
    return .bool !(looselyEqual x y)
  | "lt" => some <| compare name (fun x y => x < y) args
  | "le" => some <| compare name (fun x y => x ≤ y) args
  | "gt" => some <| compare name (fun x y => y < x) args
  | "ge" => some <| compare name (fun x y => y ≤ x) args
  | "and" => some <| .ok (.bool (!args.isEmpty && args.all Value.isTruthy))
  | "or" => some <| .ok (.bool (args.any Value.isTruthy))
  | "not" => some do return .bool !(← one name args).isTruthy
  | _ => none

/-- The functions on styles. -/
def callStyle (b : Bindings) (name : String) (args : List Value) : Option (Result Value) :=
  match name with
  | "color" => some do
    let (color, s) ← twoTexts name args
    return styled b (Style.ofColorName color) s
  | "bold" => some do return styled b .bold (← oneText name args)
  | "dim" => some do return styled b .dim (← oneText name args)
  | "italic" => some do return styled b .italic (← oneText name args)
  | "underline" => some do return styled b .underline (← oneText name args)
  | "red" | "green" | "yellow" | "blue" | "magenta" | "cyan" => some do
    return styled b (Style.ofColorName name) (← oneText name args)
  | _ => none

/-- The functions on background tasks. -/
def callTask (b : Bindings) (name : String) (args : List Value) : Option (Result Value) :=
  match name with
  | "taskStatus" => some do
    let id ← oneText name args
    return .str (((b.task? id).map (·.status.word)).getD "unknown")
  | "taskOutput" => some do
    let id ← oneText name args
    return .str (((b.task? id).map (·.output)).getD "")
  | "taskError" => some do
    let id ← oneText name args
    return .str (((b.task? id).map (·.error)).getD "")
  | "taskDone" => some do
    let id ← oneText name args
    return .bool (((b.task? id).map (·.isFinished)).getD false)
  | "tasksPending" => some <|
    if args.isEmpty then .ok (.int b.pendingTasks) else .error (.arity name 0 args.length)
  | _ => none

end Function

/-- Calls a function by its name. -/
def call (b : Bindings) (name : String) (args : List Value) : Result Value :=
  match Function.callText name args with
  | some r => r
  | none =>
    match Function.callNumber b name args with
    | some r => r
    | none =>
      match Function.callTruth name args with
      | some r => r
      | none =>
        match Function.callStyle b name args with
        | some r => r
        | none => (Function.callTask b name args).getD (.error (.undefined name))

end Template

end RecipeRunner
