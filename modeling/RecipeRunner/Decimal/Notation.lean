import RecipeRunner.Decimal.Binary
/-!
# Decimal notation of floats

A float is written with the fewest decimal digits that read back to it, or with a fixed number
of places.  The digits are found by exact arithmetic on the float's value: on grids of one,
two, three digits and so on, the two neighbours of the value are tested against the interval
of reals that round to it.
-/

namespace RecipeRunner.Decimal

/-- Compares `a * 10 ^ i` with `n * 2 ^ j`. -/
def compareScaled (a : Nat) (i : Int) (n : Nat) (j : Int) : Ordering :=
  compare (a * tenTo i.toNat * twoTo (-j).toNat) (n * twoTo j.toNat * tenTo (-i).toNat)

/-- Whether `digits * 10 ^ exponent` lies among the reals that round to `m * 2 ^ q`.  The ends of
the interval belong to it when `m` is even, and below a power of two the gap is half as wide. -/
def readsBack (m : Nat) (q : Int) (digits : Nat) (exponent : Int) : Bool :=
  let low := if m = twoTo 52 && -1074 < q then 4 * m - 1 else 4 * m - 2
  let closed := m % 2 = 0
  let atLow := compareScaled digits exponent low (q - 2)
  let atHigh := compareScaled digits exponent (4 * m + 2) (q - 2)
  (atLow = .gt || (closed && atLow = .eq)) && (atHigh = .lt || (closed && atHigh = .eq))

/-- The least `k` with `m * 2 ^ q < 10 ^ k`, counted upwards from an estimate that is too low. -/
private def leadingFrom (m : Nat) (q : Int) : (steps : Nat) → Int → Int
  | 0, k => k
  | steps + 1, k => if compareScaled 1 k m q = .gt then k else leadingFrom m q steps (k + 1)

/-- The number of digits before the point of `m * 2 ^ q`, negative for small values. -/
def leading (m : Nat) (q : Int) : Int :=
  -- 1233 / 4096 is a little below the logarithm of two in base ten.
  leadingFrom m q 8 ((((Nat.log2 m : Int) + q) * 1233).fdiv 4096 - 2)

/-- Which of two decimal neighbours stands for a value in the middle between them. -/
inductive Tie where
  | upper
  | even
  deriving DecidableEq, Repr

/-- The lower neighbour of `m * 2 ^ q` on the grid of multiples of `10 ^ e`, and whether it is
preferred to the upper one. -/
private def neighbours (tie : Tie) (m : Nat) (q e : Int) : Nat × Bool :=
  let num := m * twoTo q.toNat * tenTo (-e).toNat
  let den := twoTo (-q).toNat * tenTo e.toNat
  let below := num / den
  let isTie := 2 * (num % den) = den
  (below, 2 * (num % den) < den || (isTie && tie = .even && below % 2 = 0))

/-- The candidate on one grid: of two neighbours that read back the preferred one. -/
private def candidate? (tie : Tie) (m : Nat) (q e : Int) : Option (Nat × Int) :=
  let (below, belowPreferred) := neighbours tie m q e
  let lowHits := below ≠ 0 && readsBack m q below e
  let highHits := readsBack m q (below + 1) e
  if lowHits && (belowPreferred || !highHits) then some (below, e)
  else if highHits then some (below + 1, e)
  else none

/-- Moves trailing zeros of the digits into the exponent. -/
private def stripZeros : (steps : Nat) → Nat → Int → Nat × Int
  | 0, digits, e => (digits, e)
  | steps + 1, digits, e =>
    if digits % 10 = 0 then stripZeros steps (digits / 10) (e + 1) else (digits, e)

/-- The fewest digits that read back to `m * 2 ^ q` with `m` positive, as a natural number and
the exponent of its last digit. -/
def shortest (tie : Tie) (m : Nat) (q : Int) : Nat × Int :=
  let k := leading m q
  match (List.range 17).findSome? fun n => candidate? tie m q (k - (n + 1 : Nat)) with
  | some (digits, e) => stripZeros 17 digits e
  | none => (m * twoTo q.toNat * fiveTo (-q).toNat, min q 0)

/-- Digits of a natural number in base ten. -/
def digitsOf (n : Nat) : List Char :=
  Nat.toDigits 10 n

/-- Writes `digits * 10 ^ e` without an exponent.  `fraction` is the least number of places
after the point; with none the point is left out. -/
def positional (digits : Nat) (e : Int) (fraction : Nat) : List Char :=
  let text := digitsOf digits
  if 0 ≤ e then
    text ++ List.replicate e.toNat '0' ++
      (if fraction = 0 then [] else '.' :: List.replicate fraction '0')
  else
    let places := (-e).toNat
    let padded := List.replicate (places + 1 - text.length) '0' ++ text
    let whole := padded.length - places
    padded.take whole ++ '.' :: padded.drop whole

/-- Writes `digits * 10 ^ e` with one digit before the point and an exponent. -/
def scientific (digits : Nat) (e : Int) : List Char :=
  let text := digitsOf digits
  let exponent := e + ((text.length : Int) - 1)
  text.take 1 ++ (if text.length ≤ 1 then [] else '.' :: text.drop 1) ++
    'e' :: (if exponent < 0 then ['-'] else []) ++ digitsOf exponent.natAbs

/-- How a kind of output lays out floats. -/
structure Layout where
  /-- The exponents of the leading digit that are written without an exponent; all of them
  when there is no bound. -/
  plainFrom : Option Int
  plainBelow : Option Int
  /-- The least number of places after the point. -/
  fraction : Nat
  /-- The texts of what is not finite. -/
  nan : String
  infinity : String
  tie : Tie := .upper

/-- Writes a float with the fewest digits that read back to it. -/
def Layout.write (layout : Layout) (x : Float) : String :=
  match content x with
  | .nan => layout.nan
  | .infinite negative => (if negative then "-" else "") ++ layout.infinity
  | .finite negative m q =>
    let (digits, e) := if m = 0 then (0, 0) else shortest layout.tie m q
    let exponent := e + (((digitsOf digits).length : Int) - 1)
    let plain := m = 0 || (layout.plainFrom.all (· ≤ exponent) &&
      layout.plainBelow.all (exponent < ·))
    let body := if plain then positional digits e layout.fraction else scientific digits e
    (if negative then "-" else "") ++ String.ofList body

/-- Writes a float with exactly `places` places, a half of the last place to the even digit. -/
def fixed (places : Nat) (x : Float) : String :=
  match content x with
  | .nan => "NaN"
  | .infinite negative => if negative then "-inf" else "inf"
  | .finite negative m q =>
    let scaled := divToEven (m * twoTo q.toNat * tenTo places) (twoTo (-q).toNat)
    (if negative then "-" else "") ++ String.ofList (positional scaled (-(places : Int)) 0)

end RecipeRunner.Decimal
