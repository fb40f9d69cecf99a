import RecipeRunner.Decimal.Binary
/-!
# Reading numbers

Whole numbers of a given range and floats, read from their decimal texts.  A text is a number
only if all of it is.
-/

namespace RecipeRunner.Decimal

/-- Whether a character is one of the ten digits. -/
def isDigit (c : Char) : Bool :=
  '0' ≤ c && c ≤ '9'

/-- The number written by digits in base ten. -/
def ofDigits (digits : List Char) : Nat :=
  digits.foldl (fun n c => 10 * n + (c.toNat - '0'.toNat)) 0

/-- The natural number written by one or more digits and nothing else. -/
def readDigits? (cs : List Char) : Option Nat :=
  if !cs.isEmpty && cs.all isDigit then some (ofDigits cs) else none

/-- Splits an optional sign off; true stands for a minus. -/
def readSign : List Char → Bool × List Char
  | '-' :: rest => (true, rest)
  | '+' :: rest => (false, rest)
  | cs => (false, cs)

/-- A whole number with an optional sign. -/
def readInteger? (cs : List Char) : Option Int :=
  let (negative, digits) := readSign cs
  (readDigits? digits).map fun n => if negative then -(n : Int) else n

/-- The least and the greatest whole number of a variable. -/
def leastInteger : Int := -(twoTo 63)

@[inherit_doc leastInteger]
def greatestInteger : Int := twoTo 63 - 1

/-- Whether a whole number fits a variable. -/
def fits (n : Int) : Bool :=
  leastInteger ≤ n && n ≤ greatestInteger

/-- The nearest whole number that fits a variable. -/
def clamp (n : Int) : Int :=
  max leastInteger (min greatestInteger n)

/-- A whole number that fits a variable. -/
def readBounded? (cs : List Char) : Option Int :=
  (readInteger? cs).filter fits

/-- A count: digits after an optional plus, below `2 ^ 64`. -/
def readCount? (cs : List Char) : Option Nat :=
  let digits := match cs with
    | '+' :: rest => rest
    | _ => cs
  (readDigits? digits).filter (· < twoTo 64)

/-- The float nearest to `digits * 10 ^ exponent`.  Exponents beyond the range of floats are
cut off first, so no large power is computed. -/
def nearestFloat (digits : Nat) (exponent : Int) : Float :=
  if digits = 0 then 0.0
  else
    let leading : Int := (Nat.toDigits 10 digits).length + exponent
    if 320 < leading then 1.0 / 0.0
    else if leading < -400 then 0.0
    else if exponent < 0 then Float.ofScientific digits true exponent.natAbs
    else Float.ofScientific digits false exponent.natAbs

/-- The exponent of a decimal, empty when there is none. -/
private def readExponent? : List Char → Option Int
  | [] => some 0
  | c :: rest =>
    if c = 'e' || c = 'E' then
      let (negative, digits) := readSign rest
      (readDigits? digits).map fun n => if negative then -(n : Int) else n
    else none

/-- A decimal without sign: digits with at most one point among or around them and an optional
exponent. -/
private def readMagnitude? (cs : List Char) : Option Float :=
  let whole := cs.takeWhile isDigit
  let rest := cs.dropWhile isDigit
  let (places, tail) := match rest with
    | '.' :: after => (after.takeWhile isDigit, after.dropWhile isDigit)
    | _ => ([], rest)
  if whole.isEmpty && places.isEmpty then none
  else (readExponent? tail).map fun exponent =>
    nearestFloat (ofDigits (whole ++ places)) (exponent - places.length)

/-- A float: a decimal, an infinity or not a number, with an optional sign. -/
def readFloat? (cs : List Char) : Option Float :=
  let (negative, body) := readSign cs
  let magnitude :=
    match String.ofList (body.map Char.toLower) with
    | "inf" | "infinity" => some (1.0 / 0.0)
    | "nan" => some (0.0 / 0.0)
    | _ => readMagnitude? body
  magnitude.map fun x => if negative then -x else x

end RecipeRunner.Decimal
