/-!
# Binary floating-point numbers

The powers that binary and decimal notation are made of, the exact value of a float as a natural
number times a power of two, the float nearest to such a value, and the whole-number operations
that need no rounding: truncation, rounding to a whole number, and the remainder.
-/

namespace RecipeRunner.Decimal

/-- A power of two. -/
def twoTo (n : Nat) : Nat :=
  Nat.pow 2 n

/-- A power of five. -/
def fiveTo (n : Nat) : Nat :=
  Nat.pow 5 n

/-- A power of ten. -/
def tenTo (n : Nat) : Nat :=
  Nat.pow 10 n

/-- What a float stands for.  A finite one is `m * 2 ^ q`, with a sign of its own even when `m`
is zero. -/
inductive Content where
  | nan
  | infinite (negative : Bool)
  | finite (negative : Bool) (m : Nat) (q : Int)
  deriving DecidableEq, Repr

/-- Reads the sign, exponent and fraction fields of a float. -/
def content (x : Float) : Content :=
  let bits : Nat := x.toBits.toNat
  let negative := decide (twoTo 63 ≤ bits)
  let exponent : Nat := bits / twoTo 52 % twoTo 11
  let fraction : Nat := bits % twoTo 52
  if exponent = 2047 then
    if fraction = 0 then .infinite negative else .nan
  else if exponent = 0 then .finite negative fraction (-1074)
  else .finite negative (twoTo 52 + fraction) ((exponent : Int) - 1075)

/-- The quotient rounded to a natural number, a half to the even neighbour. -/
def divToEven (num den : Nat) : Nat :=
  let quotient := num / den
  let rest := num % den
  if 2 * rest < den then quotient
  else if den < 2 * rest then quotient + 1
  else if quotient % 2 = 0 then quotient
  else quotient + 1

/-- The quotient rounded to a natural number, a half upwards. -/
def divHalfUp (num den : Nat) : Nat :=
  (2 * num + den) / (2 * den)

/-- The float nearest to `m * 2 ^ q`, a half to the even neighbour. -/
def ofBinary (negative : Bool) (m : Nat) (q : Int) : Float :=
  let sign := if negative then twoTo 63 else 0
  if m = 0 then Float.ofBits (UInt64.ofNat sign)
  else
    let width : Int := Nat.log2 m + 1
    let scale : Int := max (q + width - 53) (-1074)
    let digits := if scale ≤ q then m * twoTo (q - scale).toNat
      else divToEven m (twoTo (scale - q).toNat)
    -- Adding the fields lets a carry of the rounding run into the exponent.
    let magnitude := (scale + 1074).toNat * twoTo 52 + digits
    Float.ofBits (UInt64.ofNat (sign + min magnitude (2047 * twoTo 52)))

/-- The whole part of `m * 2 ^ q`. -/
def wholePart (m : Nat) (q : Int) : Nat :=
  if 0 ≤ q then m * twoTo q.toNat else m / twoTo (-q).toNat

/-- Whether `m * 2 ^ q` is a whole number. -/
def isWholeBinary (m : Nat) (q : Int) : Bool :=
  0 ≤ q || m % twoTo (-q).toNat = 0

/-- Whether a float is a whole number. -/
def isWhole (x : Float) : Bool :=
  match content x with
  | .finite _ m q => isWholeBinary m q
  | _ => false

/-- Gives a natural number a sign. -/
def withSign (negative : Bool) (n : Nat) : Int :=
  if negative then -(n : Int) else n

/-- The whole part of a finite float, rounded towards zero. -/
def truncate? (x : Float) : Option Int :=
  match content x with
  | .finite negative m q => some (withSign negative (wholePart m q))
  | _ => none

/-- Applies a rounding of magnitudes `m / 2 ^ k` to a float that is not whole already. -/
private def roundWith (round : (negative : Bool) → (m den : Nat) → Nat) (x : Float) : Float :=
  match content x with
  | .finite negative m q =>
    if isWholeBinary m q then x
    else ofBinary negative (round negative m (twoTo (-q).toNat)) 0
  | _ => x

/-- The nearest whole number, a half away from zero. -/
def roundHalfAway (x : Float) : Float :=
  roundWith (fun _ m den => divHalfUp m den) x

/-- The greatest whole number that is not above the float. -/
def floor (x : Float) : Float :=
  roundWith (fun negative m den => if negative then m / den + 1 else m / den) x

/-- The least whole number that is not below the float. -/
def ceil (x : Float) : Float :=
  roundWith (fun negative m den => if negative then m / den else m / den + 1) x

/-- The exact remainder of the division truncated towards zero; it has the sign of `x`. -/
def remainder (x y : Float) : Float :=
  match content x, content y with
  | .finite negative m q, .finite _ n p =>
    if n = 0 then 0.0 / 0.0
    else
      let low := min q p
      ofBinary negative ((m * twoTo (q - low).toNat) % (n * twoTo (p - low).toNat)) low
  | .finite .., .infinite _ => x
  | _, _ => 0.0 / 0.0

/-- The smaller of two floats; a number wins over no number. -/
def least (x y : Float) : Float :=
  if x.isNaN then y else if y.isNaN then x else if y < x then y else x

/-- The larger of two floats; a number wins over no number. -/
def greatest (x y : Float) : Float :=
  if x.isNaN then y else if y.isNaN then x else if x < y then y else x

end RecipeRunner.Decimal
