import RecipeRunner.Decimal.Reading
/-!
# Tests

The program `test`: an expression of its arguments is true or false.  Conjunctions bind more
strongly than disjunctions; whether a word is an operator depends on the words behind it.
-/

namespace RecipeRunner.Shell.Test

/-- The operators with two operands. -/
def binaryOperators : List String :=
  ["=", "!=", "<", ">", "-eq", "-ne", "-ge", "-gt", "-le", "-lt", "-nt", "-ot", "-ef"]

/-- The operators with one operand. -/
def unaryOperators : List String :=
  ["-r", "-w", "-x", "-e", "-f", "-d", "-c", "-b", "-p", "-u", "-g", "-k", "-s", "-t", "-z",
   "-n", "-h", "-O", "-G", "-L", "-S"]

/-- The words that are operators between or around expressions. -/
def connectives : List String :=
  ["!", "-a", "-o", "(", ")"]

/-- The operator that the first word is, if it is one and no operand. -/
def operator? : List String → Option String
  | [] => none
  | word :: behind =>
    let isOperand := match behind with
      | [] => true
      | [_] => false
      | next :: _ => binaryOperators.contains next
    if unaryOperators.contains word then if isOperand then none else some word
    else if word = "(" && behind.isEmpty then none
    else if binaryOperators.contains word || connectives.contains word then some word
    else none

/-- The whole number of an operand. -/
def number (s : String) : Except String Int :=
  let trimmed := ((s.toList.dropWhile Char.isWhitespace).reverse.dropWhile
    Char.isWhitespace).reverse
  match Decimal.readInteger? trimmed with
  | some n => .ok n
  | none => .error ("Illegal number: " ++ s)

/-- The truth of an operator with two operands. -/
def compare (a operator b : String) : Except String Bool :=
  let numbers (holds : Int → Int → Bool) : Except String Bool := do
    return holds (← number a) (← number b)
  match operator with
  | "=" => .ok (a = b)
  | "!=" => .ok (a ≠ b)
  | "<" => .ok (a < b)
  | ">" => .ok (b < a)
  | "-eq" => numbers fun x y => x = y
  | "-ne" => numbers fun x y => x ≠ y
  | "-ge" => numbers fun x y => y ≤ x
  | "-gt" => numbers fun x y => y < x
  | "-le" => numbers fun x y => x ≤ y
  | "-lt" => numbers fun x y => x < y
  | _ => .ok false

/-- What a path leads to. -/
inductive Place where
  | directory
  | device
  /-- A file, and whether it is empty. -/
  | file (isEmpty : Bool)
  deriving DecidableEq, Repr

/-- The truth of an operator with one operand. -/
def check (place? : String → Option Place) (operator operand : String) : Bool :=
  let place := place? operand
  match operator with
  | "-z" => operand.isEmpty
  | "-n" => !operand.isEmpty
  | "-e" | "-r" | "-w" => place.isSome
  | "-d" => place = some .directory
  | "-c" => place = some .device
  | "-f" => place = some (.file true) || place = some (.file false)
  | "-s" => place = some (.file false) || place = some .directory
  | "-x" => place = some .directory
  | _ => false

mutual

/-- A disjunction.  What is left starts with the last word that was used. -/
def disjunction (place? : String → Option Place) : (fuel : Nat) → List String → Except String (Bool × List String)
  | 0, _ => .error "too deep"
  | fuel + 1, words => do
    let (a, left) ← conjunction place? fuel words
    if operator? left.tail = some "-o" then
      let (b, left) ← disjunction place? fuel (left.drop 2)
      return (a || b, left)
    else return (a, left)

/-- A conjunction. -/
def conjunction (place? : String → Option Place) : (fuel : Nat) → List String → Except String (Bool × List String)
  | 0, _ => .error "too deep"
  | fuel + 1, words => do
    let (a, left) ← negation place? fuel words
    if operator? left.tail = some "-a" then
      let (b, left) ← conjunction place? fuel (left.drop 2)
      return (a && b, left)
    else return (a, left)

/-- An expression with marks of negation. -/
def negation (place? : String → Option Place) : (fuel : Nat) → List String → Except String (Bool × List String)
  | 0, _ => .error "too deep"
  | fuel + 1, words => do
    if operator? words = some "!" then
      match words.tail with
      | [] => return (true, words)
      | behind =>
        let (a, left) ← negation place? fuel behind
        return (!a, left)
    else primary place? fuel words

/-- An operator with its operands, an expression in parentheses, or a word, which is true unless
it is empty. -/
def primary (place? : String → Option Place) : (fuel : Nat) → List String → Except String (Bool × List String)
  | 0, _ => .error "too deep"
  | fuel + 1, words => do
    match words with
    | [] => return (false, [])
    | word :: behind =>
      match operator? words with
      | some "(" =>
        if operator? behind = some ")" then return (false, behind)
        else
          let (a, left) ← disjunction place? fuel behind
          if operator? left.tail = some ")" then return (a, left.tail)
          else throw "closing paren expected"
      | found =>
        if found.any unaryOperators.contains then
          match behind with
          | operand :: _ => return (check place? word operand, behind)
          | [] => throw (word ++ ": argument expected")
        else
          match behind with
          | operator :: operands =>
            if (operator? behind).any binaryOperators.contains then
              match operands with
              | operand :: _ => return (← compare word operator operand, operands)
              | [] => throw (operator ++ ": argument expected")
            else return (!word.isEmpty, words)
          | [] => return (!word.isEmpty, words)

end

/-- The truth of arguments. -/
def evaluate (place? : String → Option Place) : (steps : Nat) → List String → Except String Bool
  | 0, _ => .error "too deep"
  | steps + 1, words => do
    let whole (words : List String) : Except String Bool := do
      let (a, left) ← disjunction place? (4 * words.length + 8) words
      match left with
      | word :: _ :: _ =>
        throw (if word.isEmpty then "unexpected operator" else word ++ ": unexpected operator")
      | _ => return a
    match words with
    | [] => return false
    | [a, operator, b] =>
      if binaryOperators.contains operator then compare a operator b
      else if a = "(" && b = ")" then whole [operator]
      else if a = "!" then return !(← evaluate place? steps [operator, b])
      else whole words
    | [a, b, c, d] =>
      if a = "(" && d = ")" then whole [b, c]
      else if a = "!" then return !(← evaluate place? steps [b, c, d])
      else whole words
    | _ => whole words

/-- The truth of arguments, or why they have none. -/
def run (place? : String → Option Place) (words : List String) : Except String Bool :=
  evaluate place? (words.length + 1) words

end RecipeRunner.Shell.Test
