import RecipeRunner.Shell.Numeral
import RecipeRunner.Shell.Outside
/-!
# Sleep

The program `sleep`, which takes the sum of times: numbers of seconds, or of minutes, hours or
days where a letter says so.
-/

namespace RecipeRunner.Shell.Sleep

/-- The program knows no options of its own. -/
def known : Outside.Known where
  program := "sleep"
  letters := []
  names := []
  anywhere := true

/-- The nanoseconds of a time without end. -/
def endless : Nat := Decimal.tenTo 30

/-- The seconds of the unit behind a number. -/
def unit? : List Char → Option Nat
  | [] | ['s'] => some 1
  | ['m'] => some 60
  | ['h'] => some 3600
  | ['d'] => some 86400
  | _ => none

/-- The nanoseconds of as many seconds, times a factor. -/
def ofMagnitude (factor : Nat) : Magnitude → Option Nat
  | .nan => none
  | .infinite => some endless
  | .decimal digits exponent =>
    let n := digits * factor
    if 20 < exponent then some (if n = 0 then 0 else endless)
    else if exponent < -4000 then some 0
    else some (n * Decimal.tenTo (exponent + 9).toNat / Decimal.tenTo (-(exponent + 9)).toNat)
  | .binary digits exponent =>
    let n := digits * factor * Decimal.tenTo 9
    if 70 < exponent then some (if n = 0 then 0 else endless)
    else if exponent < -4000 then some 0
    else some (n * Decimal.twoTo exponent.toNat / Decimal.twoTo (-exponent).toNat)

/-- Whether a magnitude is that of zero. -/
def isZero : Magnitude → Bool
  | .decimal 0 _ | .binary 0 _ => true
  | _ => false

/-- The nanoseconds of a time. -/
def nanoseconds? (s : String) : Option Nat := do
  let numeral ← Numeral.read? s
  let factor ← unit? numeral.rest
  if numeral.negative && !isZero numeral.magnitude then none
  else ofMagnitude factor numeral.magnitude

/-- Reads the arguments: the nanoseconds, or what is written to the error stream. -/
def ofArguments (arguments : List String) : Except String Nat := do
  let parsed ← known.parse arguments
  let hint := Outside.hint "sleep" ++ "\n"
  if arguments.isEmpty then throw ("sleep: missing operand\n" ++ hint)
  let bad := parsed.operands.filter fun s => (nanoseconds? s).isNone
  if bad.isEmpty then return (parsed.operands.filterMap nanoseconds?).foldl (· + ·) 0
  else
    throw (String.join (bad.map fun s =>
      "sleep: invalid time interval " ++ Outside.quoted s ++ "\n") ++ hint)

end RecipeRunner.Shell.Sleep
