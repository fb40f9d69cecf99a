import RecipeRunner.Decimal.Binary
import RecipeRunner.Unicode.RangeTable
/-!
# Arithmetic of the shell

Expressions over 64-bit integers that wrap around, with assignment to variables.  A number that
does not fit stands for the largest one.  An expression is evaluated as it is read; a part whose
value is not needed is read without effect.
-/

namespace RecipeRunner.Shell.Arithmetic

/-- Why an expression has no value. -/
inductive Fault where
  | expectingPrimary
  | expectingEnd
  | expectingClose
  | expectingColon
  | divisionByZero
  | illegalNumber (text : String)

/-- The wording of a fault of an expression. -/
def Fault.message (expression : String) : Fault → String
  | expectingPrimary => "arithmetic expression: expecting primary: \"" ++ expression ++ "\""
  | expectingEnd => "arithmetic expression: expecting EOF: \"" ++ expression ++ "\""
  | expectingClose => "arithmetic expression: expecting ')': \"" ++ expression ++ "\""
  | expectingColon => "arithmetic expression: expecting ':': \"" ++ expression ++ "\""
  | divisionByZero => "arithmetic expression: division by zero: \"" ++ expression ++ "\""
  | illegalNumber text => "Illegal number: " ++ text

/-- A token of an expression. -/
inductive Token where
  | number (n : Int)
  | name (s : String)
  | mark (s : String)
  /-- What belongs to no expression. -/
  | stray
  deriving DecidableEq

/-- The marks of expressions, longer ones first. -/
def marks : List String :=
  ["<<=", ">>=", "<<", ">>", "<=", ">=", "==", "!=", "&&", "||", "*=", "/=", "%=", "+=", "-=",
   "&=", "^=", "|=", "=", "+", "-", "*", "/", "%", "<", ">", "&", "^", "|", "!", "~", "?", ":",
   "(", ")"]

/-- Whether a character is a digit of a base. -/
def isDigitOf (base : Nat) (c : Char) : Bool :=
  (Unicode.digitValue? c).any (· < base)

/-- The natural number that digits of a base write. -/
def digits? (base : Nat) (cs : List Char) : Option Nat :=
  if !cs.isEmpty && cs.all (isDigitOf base) then some (Unicode.natOfDigits base cs) else none

/-- The natural number of a text, where a leading zero stands for base eight and `0x` for base
sixteen. -/
def natural? : List Char → Option Nat
  | '0' :: 'x' :: rest | '0' :: 'X' :: rest => digits? 16 rest
  | ['0'] => some 0
  | '0' :: rest => digits? 8 rest
  | cs => digits? 10 cs

/-- The number that is congruent modulo `2 ^ 64` and fits 64 bits with a sign. -/
def wrap (n : Int) : Int :=
  Int.bmod n (Decimal.twoTo 64)

/-- The largest number. -/
def greatest : Int := Decimal.twoTo 63 - 1

/-- The value of a variable: a number with an optional sign, or zero if it is empty. -/
def ofVariable (s : String) : Except Fault Int :=
  let trimmed := (s.toList.dropWhile Char.isWhitespace).reverse.dropWhile Char.isWhitespace
  let value := match trimmed.reverse with
    | [] => some 0
    | '-' :: rest => (natural? rest).map fun n => -(n : Int)
    | '+' :: rest => (natural? rest).map Int.ofNat
    | cs => (natural? cs).map Int.ofNat
  match value with
  | some n => if -greatest - 1 ≤ n && n ≤ greatest then .ok n else .error (.illegalNumber s)
  | none => .error (.illegalNumber s)

/-- The digits of a number with its mark of a base, as many as belong to it. -/
def numeral (cs : List Char) : List Char :=
  match cs with
  | '0' :: x :: d :: _ =>
    if (x = 'x' || x = 'X') && isDigitOf 16 d then
      cs.take 2 ++ (cs.drop 2).takeWhile (isDigitOf 16)
    else cs.takeWhile (isDigitOf 8)
  | '0' :: _ => cs.takeWhile (isDigitOf 8)
  | _ => cs.takeWhile Char.isDigit

/-- The tokens of an expression; `steps` bounds their number. -/
def tokens : (steps : Nat) → List Char → List Token
  | 0, _ | _, [] => []
  | steps + 1, c :: rest =>
    if c.isWhitespace then tokens steps rest
    else if c.isDigit then
      let digits := numeral (c :: rest)
      .number (min ((natural? digits).getD 0 : Nat) greatest) ::
        tokens steps ((c :: rest).drop digits.length)
    else if c.isAlpha || c = '_' then
      let name := (c :: rest).takeWhile fun d => d.isAlphanum || d = '_'
      .name (String.ofList name) :: tokens steps ((c :: rest).drop name.length)
    else
      match marks.find? (·.toList.isPrefixOf (c :: rest)) with
      | some m => .mark m :: tokens steps ((c :: rest).drop m.length)
      | none => .stray :: tokens steps rest

/-- How strongly an operator with two operands binds. -/
def level? : String → Option Nat
  | "||" => some 1
  | "&&" => some 2
  | "|" => some 3
  | "^" => some 4
  | "&" => some 5
  | "==" | "!=" => some 6
  | "<" | "<=" | ">" | ">=" => some 7
  | "<<" | ">>" => some 8
  | "+" | "-" => some 9
  | "*" | "/" | "%" => some 10
  | _ => none

/-- The bits of a number. -/
private def bits (n : Int) : Nat :=
  (n % Decimal.twoTo 64).toNat

/-- The value of an operator with two operands. -/
def apply (mark : String) (a b : Int) : Except Fault Int :=
  let truth (p : Bool) : Except Fault Int := .ok (if p then 1 else 0)
  match mark with
  | "||" => truth (a ≠ 0 || b ≠ 0)
  | "&&" => truth (a ≠ 0 && b ≠ 0)
  | "|" => .ok (wrap (bits a ||| bits b : Nat))
  | "^" => .ok (wrap (bits a ^^^ bits b : Nat))
  | "&" => .ok (wrap (bits a &&& bits b : Nat))
  | "==" => truth (a = b)
  | "!=" => truth (a ≠ b)
  | "<" => truth (a < b)
  | "<=" => truth (a ≤ b)
  | ">" => truth (b < a)
  | ">=" => truth (b ≤ a)
  | "<<" => .ok (wrap (a * Decimal.twoTo (b % 64).toNat))
  | ">>" => .ok (a.fdiv (Decimal.twoTo (b % 64).toNat))
  | "+" => .ok (wrap (a + b))
  | "-" => .ok (wrap (a - b))
  | "*" => .ok (wrap (a * b))
  | "/" => if b = 0 then .error .divisionByZero else .ok (wrap (a.tdiv b))
  | "%" => if b = 0 then .error .divisionByZero else .ok (wrap (a.tmod b))
  | _ => .error .expectingPrimary

/-- The state of an evaluation: the tokens that are left and the variables. -/
structure State where
  tokens : List Token
  lookup : String → String
  /-- The variables that were assigned, latest first. -/
  assigned : List (String × Int) := []

/-- What evaluates a part of an expression. -/
abbrev Evaluation := StateT State (Except Fault)

namespace Evaluation

/-- Uses the next token if it is a certain mark. -/
def takeMark (m : String) : Evaluation Bool := do
  match (← get).tokens with
  | .mark s :: rest =>
    if s = m then
      modify fun st => { st with tokens := rest }
      return true
    else return false
  | _ => return false

/-- The value of a variable. -/
def valueOf (name : String) : Evaluation Int := do
  let st ← get
  match st.assigned.lookup name with
  | some n => return n
  | none =>
    match ofVariable (st.lookup name) with
    | .ok n => return n
    | .error fault => throw fault

end Evaluation

open Evaluation

mutual

/-- A choice or an operation, with assignments inside it. -/
def evalWhole : (fuel : Nat) → (needed : Bool) → Evaluation Int
  | 0, _ => throw .expectingPrimary
  | fuel + 1, needed => do
    match (← get).tokens with
    | .name name :: .mark m :: rest => do
      let operator := if m = "=" then some "" else
        if m.endsWith "=" && (level? m).isNone then some (m.dropEnd 1).toString else none
      match operator with
      | some operator => do
        modify fun st => { st with tokens := rest }
        let right ← evalWhole fuel needed
        if needed then
          let value ← if operator.isEmpty then pure right
            else do
              match apply operator (← valueOf name) right with
              | .ok n => pure n
              | .error fault => throw fault
          modify fun st => { st with assigned := (name, value) :: st.assigned }
          return value
        else return 0
      | none => evalChoice fuel needed
    | _ => evalChoice fuel needed

/-- A choice between two values. -/
def evalChoice : (fuel : Nat) → (needed : Bool) → Evaluation Int
  | 0, _ => throw .expectingPrimary
  | fuel + 1, needed => do
    let first ← evalUnary fuel needed
    let condition ← evalBinary fuel needed 1 first
    if ← takeMark "?" then
      let a ← evalWhole fuel (needed && condition ≠ 0)
      if ← takeMark ":" then
        let b ← evalWhole fuel (needed && condition = 0)
        return if condition ≠ 0 then a else b
      else throw .expectingColon
    else return condition

/-- Operators that bind at least as strongly as `least`, behind their first operand. -/
def evalBinary : (fuel : Nat) → (needed : Bool) → (least : Nat) → Int → Evaluation Int
  | 0, _, _, _ => throw .expectingPrimary
  | fuel + 1, needed, least, left => do
    match (← get).tokens with
    | .mark m :: rest =>
      match level? m with
      | some level =>
        if level < least then return left
        else
          modify fun st => { st with tokens := rest }
          let needs := needed && !(m = "||" && left ≠ 0) && !(m = "&&" && left = 0)
          let first ← evalUnary fuel needs
          let right ← evalBinary fuel needs (level + 1) first
          let value ← if needed then
              match apply m left right with
              | .ok n => pure n
              | .error fault => throw fault
            else pure 0
          evalBinary fuel needed least value
      | none => return left
    | _ => return left

/-- A number, a variable, or an operator with one operand. -/
def evalUnary : (fuel : Nat) → (needed : Bool) → Evaluation Int
  | 0, _ => throw .expectingPrimary
  | fuel + 1, needed => do
    match (← get).tokens with
    | .number n :: rest => do
      modify fun st => { st with tokens := rest }
      return n
    | .name name :: rest => do
      modify fun st => { st with tokens := rest }
      if needed then valueOf name else return 0
    | .mark "(" :: rest => do
      modify fun st => { st with tokens := rest }
      let n ← evalWhole fuel needed
      if ← takeMark ")" then return n else throw .expectingClose
    | .mark m :: rest => do
      modify fun st => { st with tokens := rest }
      match m with
      | "!" => return if (← evalUnary fuel needed) = 0 then 1 else 0
      | "~" => return -(← evalUnary fuel needed) - 1
      | "-" => return wrap (-(← evalUnary fuel needed))
      | "+" => evalUnary fuel needed
      | _ => throw .expectingPrimary
    | .stray :: _ | [] => throw .expectingPrimary

end

/-- The value of an expression and the variables that it assigns, in order. -/
def evaluate (lookup : String → String) (expression : String) :
    Except Fault (Int × List (String × Int)) :=
  let cs := expression.toList
  match tokens (cs.length + 1) cs with
  | [] => .ok (0, [])
  | tokens =>
    match (evalWhole (4 * tokens.length + 4) true).run { tokens := tokens, lookup := lookup } with
    | .error fault => .error fault
    | .ok (n, st) =>
      if st.tokens.isEmpty then .ok (n, st.assigned.reverse) else .error .expectingEnd

end RecipeRunner.Shell.Arithmetic
