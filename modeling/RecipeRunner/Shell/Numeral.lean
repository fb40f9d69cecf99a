import RecipeRunner.Decimal.Binary
import RecipeRunner.Decimal.Reading
import RecipeRunner.Unicode.RangeTable
/-!
# Numerals at the start of a text

Fractions as programs read them from the start of an argument: decimal or hexadecimal, with an
exponent or without one, an infinity, or not a number.
-/

namespace RecipeRunner.Shell

/-- The absolute value of what a numeral stands for. -/
inductive Magnitude where
  | nan
  | infinite
  /-- `digits * 10 ^ exponent`. -/
  | decimal (digits : Nat) (exponent : Int)
  /-- `digits * 2 ^ exponent`. -/
  | binary (digits : Nat) (exponent : Int)
  deriving DecidableEq, Repr

/-- A numeral at the start of a text. -/
structure Numeral where
  negative : Bool
  magnitude : Magnitude
  /-- What follows the numeral. -/
  rest : List Char

namespace Numeral

/-- Whether a text starts with a word in small letters, in any case. -/
def startsWith (word : String) (cs : List Char) : Bool :=
  (cs.take word.length).map Char.toLower = word.toList

/-- The exponent behind its letter and what follows it; without digits there is no exponent. -/
def exponent (letter : Char) (cs : List Char) : Int × List Char :=
  match cs with
  | c :: rest =>
    let (negative, digits) := Decimal.readSign rest
    let used := digits.takeWhile Decimal.isDigit
    if c.toLower = letter && !used.isEmpty then
      (Decimal.withSign negative (Decimal.ofDigits used), digits.drop used.length)
    else (0, cs)
  | [] => (0, [])

/-- Digits of a base with at most one point among or around them: their number without the point,
how many stand behind it, and what follows them. -/
def digits? (base : Nat) (cs : List Char) : Option (Nat × Nat × List Char) :=
  let isDigit (c : Char) : Bool := (Unicode.digitValue? c).any (· < base)
  let whole := cs.takeWhile isDigit
  let rest := cs.drop whole.length
  let (places, tail) := match rest with
    | '.' :: behind => (behind.takeWhile isDigit, behind.dropWhile isDigit)
    | _ => ([], rest)
  if whole.isEmpty && places.isEmpty then none
  else some (Unicode.natOfDigits base (whole ++ places), places.length, tail)

/-- The magnitude at the start of a text, and what follows it. -/
def magnitude? (cs : List Char) : Option (Magnitude × List Char) :=
  if startsWith "infinity" cs then some (.infinite, cs.drop 8)
  else if startsWith "inf" cs then some (.infinite, cs.drop 3)
  else if startsWith "nan" cs then
    let rest := cs.drop 3
    let word := (rest.drop 1).takeWhile fun c => c.isAlphanum || c = '_'
    let behind := rest.drop (word.length + 1)
    some (.nan, if rest.head? = some '(' && behind.head? = some ')' then behind.tail else rest)
  else
    let hexadecimal := if startsWith "0x" cs then digits? 16 (cs.drop 2) else none
    match hexadecimal with
    | some (n, places, rest) =>
      let (e, rest) := exponent 'p' rest
      some (.binary n (e - 4 * places), rest)
    | none => (digits? 10 cs).map fun (n, places, rest) =>
        let (e, rest) := exponent 'e' rest
        (.decimal n (e - places), rest)

/-- The numeral at the start of a text, behind blanks. -/
def read? (s : String) : Option Numeral :=
  let cs := s.toList.dropWhile fun c => c.isWhitespace || c = '\x0b' || c = '\x0c'
  let (negative, body) := Decimal.readSign cs
  (magnitude? body).map fun (m, rest) => ⟨negative, m, rest⟩

/-- The exponent of two from which on a number of one digit is far below every float. -/
def tooSmall : Int := -1200

end Numeral

namespace Magnitude

/-- The nearest float, and whether the number is out of the range of exact ones: it is too large,
or it is too small to have all its digits. -/
def toFloat : Magnitude → Float × Bool
  | nan => (0.0 / 0.0, false)
  | infinite => (1.0 / 0.0, false)
  | decimal digits exponent => judge (Decimal.nearestFloat digits exponent) (digits = 0) fun m q =>
      digits * Decimal.tenTo exponent.toNat * Decimal.twoTo (-q).toNat =
        m * Decimal.twoTo q.toNat * Decimal.tenTo (-exponent).toNat
  | binary digits exponent =>
    if digits = 0 then (0.0, false)
    else if exponent + (Nat.log2 digits : Int) < Numeral.tooSmall then (0.0, true)
    else
      judge (Decimal.ofBinary false digits exponent) false fun m q =>
        digits * Decimal.twoTo exponent.toNat * Decimal.twoTo (-q).toNat =
          m * Decimal.twoTo q.toNat * Decimal.twoTo (-exponent).toNat
where
  /-- A float together with whether it is out of range; `isExact` compares its value with the
  number. -/
  judge (x : Float) (isZero : Bool) (isExact : Nat → Int → Bool) : Float × Bool :=
    match Decimal.content x with
    | .finite _ m q =>
      let isTiny := m < Decimal.twoTo 52
      (x, !isZero && isTiny && (m = 0 || !isExact m q))
    | _ => (x, true)

end Magnitude

end RecipeRunner.Shell
