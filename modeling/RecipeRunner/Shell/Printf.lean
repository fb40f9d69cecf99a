import RecipeRunner.Decimal.Notation
import RecipeRunner.Shell.Arithmetic
import RecipeRunner.Shell.Escape
import RecipeRunner.Shell.Numeral
/-!
# Formatted output

The program `printf`: its format is used again as long as arguments are left, and arguments that
are missing count as empty or zero.
-/

namespace RecipeRunner.Shell.Printf

/-- How a value is laid out. -/
structure Layout where
  left : Bool := false
  zeros : Bool := false
  /-- What stands in front of numbers that are not negative. -/
  plus : String := ""
  alternate : Bool := false
  width : Nat := 0
  precision : Option Nat := none

namespace Layout

/-- Fills a text up to the width. -/
def fill (l : Layout) (text : String) : String :=
  if l.left then text.pushn ' ' (l.width - text.length)
  else "".pushn ' ' (l.width - text.length) ++ text

/-- Lays out the digits of a number behind what stands in front of them. -/
def number (l : Layout) (front digits : String) (zeros : Bool) : String :=
  let missing := l.width - front.length - digits.length
  if zeros && !l.left then front ++ "".pushn '0' missing ++ digits
  else l.fill (front ++ digits)

/-- What stands in front of a number. -/
def sign (l : Layout) (negative : Bool) : String :=
  if negative then "-" else l.plus

/-- Lays out a whole number of a base. -/
def whole (l : Layout) (front digits : String) : String :=
  let digits := match l.precision with
    | some 0 => if digits = "0" then "" else digits
    | some p => "".pushn '0' (p - digits.length) ++ digits
    | none => digits
  l.number front digits (l.zeros && l.precision.isNone)

/-- Lays out a text. -/
def text (l : Layout) (s : String) : String :=
  l.fill (match l.precision with
    | some p => (s.take p).toString
    | none => s)

end Layout

/-- The digits of `m * 2 ^ q` with `places` places behind the first one, a half to the even
digit, and the exponent of the first one. -/
def significant (m : Nat) (q : Int) (places : Nat) : Nat × Int :=
  if m = 0 then (0, 0)
  else
    let exponent := Decimal.leading m q - 1
    let scale := (places : Int) - exponent
    let digits := Decimal.divToEven (m * Decimal.twoTo q.toNat * Decimal.tenTo scale.toNat)
      (Decimal.twoTo (-q).toNat * Decimal.tenTo (-scale).toNat)
    if digits < Decimal.tenTo (places + 1) then (digits, exponent) else (digits / 10, exponent + 1)

/-- A number with an exponent of two digits at least. -/
def withExponent (m : Nat) (q : Int) (places : Nat) : String :=
  let (digits, exponent) := significant m q places
  let text := Decimal.positional digits (-(places : Int)) 0
  let size := toString exponent.natAbs
  String.ofList text ++ "e" ++ (if exponent < 0 then "-" else "+") ++
    (if size.length < 2 then "0" ++ size else size)

/-- A number with a fixed number of places. -/
def withPlaces (m : Nat) (q : Int) (places : Nat) : String :=
  let scaled := Decimal.divToEven (m * Decimal.twoTo q.toNat * Decimal.tenTo places)
    (Decimal.twoTo (-q).toNat)
  String.ofList (Decimal.positional scaled (-(places : Int)) 0)

/-- A number without zeros at the end of its places. -/
def withoutZeros (s : String) : String :=
  let (front, exponent) := (s.toList.takeWhile (· != 'e'), s.toList.dropWhile (· != 'e'))
  if front.contains '.' then
    let kept := (front.reverse.dropWhile (· = '0')).dropWhile (· = '.')
    String.ofList (kept.reverse ++ exponent)
  else s

/-- A number with an exponent of two: the first digit in base sixteen, the places behind it, and
the exponent.  Digits that are left out are rounded, a half to the even digit. -/
def withBinaryExponent (l : Layout) (m : Nat) (q : Int) : String :=
  let exponent : Int := if m = 0 then 0 else q + 52
  let fraction := Nat.toDigits 16 (m % Decimal.twoTo 52)
  let padded := List.replicate (13 - fraction.length) '0' ++ fraction
  let (lead, places) := match l.precision with
    | none => (m / Decimal.twoTo 52, (padded.reverse.dropWhile (· = '0')).reverse)
    | some p =>
      if 13 ≤ p then (m / Decimal.twoTo 52, padded ++ List.replicate (p - 13) '0')
      else
        let kept := Decimal.divToEven m (Decimal.twoTo (4 * (13 - p)))
        let digits := Nat.toDigits 16 (kept % Decimal.twoTo (4 * p))
        (kept / Decimal.twoTo (4 * p),
          if p = 0 then [] else List.replicate (p - digits.length) '0' ++ digits)
  let point := if places.isEmpty && !l.alternate then "" else "."
  toString lead ++ point ++ String.ofList places ++ "p" ++
    (if exponent < 0 then "-" else "+") ++ toString exponent.natAbs

/-- Lays out a float by the letter of a directive. -/
def float (l : Layout) (letter : Char) (x : Float) : String :=
  let upper := letter.isUpper
  let cased (s : String) : String := if upper then s.map Char.toUpper else s
  match Decimal.content x with
  | .nan => l.fill (cased "nan")
  | .infinite negative => l.fill (l.sign negative ++ cased "inf")
  | .finite negative m q =>
    let places := l.precision.getD 6
    let pointed (s : String) : String :=
      if l.alternate && places = 0 then
        let whole := s.takeWhile (· != 'e')
        whole.toString ++ "." ++ (s.drop whole.toString.length).toString
      else s
    let front := l.sign negative ++ if letter.toLower = 'a' then cased "0x" else ""
    let body := match letter.toLower with
      | 'a' => withBinaryExponent l m q
      | 'f' => pointed (withPlaces m q places)
      | 'e' => pointed (withExponent m q places)
      | _ =>
        let places := max places 1
        let exponent := (significant m q (places - 1)).2
        let text := if -4 ≤ exponent && exponent < places
          then withPlaces m q ((places : Int) - 1 - exponent).toNat
          else withExponent m q (places - 1)
        if l.alternate then text else withoutZeros text
    l.number front (cased body) l.zeros

/-- What `printf` does. -/
structure Outcome where
  out : String := ""
  /-- The complaints, first one first. -/
  complaints : List String := []
  status : Nat := 0

/-- What is said of a number that is out of range. -/
def outOfRange (s : String) : String :=
  s ++ ": Numerical result out of range"

/-- What is said of an argument that is no number, or of which only the start is one. -/
def leftOver (s : String) (used : Bool) : String :=
  s ++ if used then ": not completely converted" else ": expected numeric value"

/-- A number read from the start of an argument, and a complaint.  Numbers without sign may be
larger. -/
def readNumber (signed : Bool) (s : String) : Int × Option String :=
  let cs := s.toList.dropWhile fun c => c.isWhitespace || c = '\x0b' || c = '\x0c'
  match s.toList with
  | [] => (0, none)
  | '\'' :: rest | '"' :: rest => ((rest.headD '\x00').toNat, none)
  | _ =>
    let (negative, digits) := Decimal.readSign cs
    let hexadecimal := match digits with
      | '0' :: x :: d :: _ => (x = 'x' || x = 'X') && Arithmetic.isDigitOf 16 d
      | _ => false
    let base := if hexadecimal then 16 else if digits.head? = some '0' then 8 else 10
    let body := if hexadecimal then digits.drop 2 else digits
    let used := body.takeWhile (Arithmetic.isDigitOf base)
    let n := Decimal.withSign negative ((Arithmetic.digits? base used).getD 0)
    let least := if signed then -(Decimal.twoTo 63 : Int) else 1 - (Decimal.twoTo 64 : Int)
    let greatest := (Decimal.twoTo (if signed then 63 else 64) : Int) - 1
    let bounded := if n < least then (if signed then least else greatest) else min n greatest
    if used.isEmpty then (0, some (leftOver s false))
    else if used.length < body.length then (bounded, some (leftOver s true))
    else if bounded ≠ n then (bounded, some (outOfRange s))
    else (n, none)

/-- A float read from an argument, and a complaint. -/
def readFloat (s : String) : Float × Option String :=
  match s.toList with
  | '\'' :: rest | '"' :: rest => (Float.ofNat (rest.headD '\x00').toNat, none)
  | [] => (0.0, none)
  | _ =>
    match Numeral.read? s with
    | none => (0.0, some (leftOver s false))
    | some numeral =>
      let (x, isOut) := numeral.magnitude.toFloat
      (if numeral.negative then -x else x,
        if !numeral.rest.isEmpty then some (leftOver s true)
        else if isOut && numeral.magnitude ≠ .infinite then some (outOfRange s)
        else none)

/-- The state of formatting: what was written, and the arguments that are left. -/
structure State extends Outcome where
  arguments : List String
  /-- Whether output was ended. -/
  ended : Bool := false

namespace State

/-- Writes a text. -/
def write (st : State) (s : String) : State :=
  { st with out := st.out ++ s }

/-- Notes a complaint, if there is one. -/
def note (st : State) : Option String → State
  | some text => { st with complaints := st.complaints ++ [text], status := 1 }
  | none => st

/-- Stops with a complaint. -/
def stop (st : State) (text : String) : State :=
  { st with complaints := st.complaints ++ [text], status := 2, ended := true }

/-- The next argument, which is used. -/
def takeText (st : State) : String × State :=
  (st.arguments.headD "", { st with arguments := st.arguments.tail })

/-- The next argument as a whole number. -/
def takeNumber (st : State) (signed : Bool) : Int × State :=
  let (s, st) := st.takeText
  let (n, complaint) := readNumber signed s
  (n, st.note complaint)

/-- A width or a precision of a directive: written out, or the next argument. -/
def takeSize (st : State) (cs : List Char) : Int × State × List Char :=
  match cs with
  | '*' :: rest =>
    let (n, st) := st.takeNumber true
    (n, st, rest)
  | _ =>
    let digits := cs.takeWhile Char.isDigit
    (Decimal.ofDigits digits, st, cs.drop digits.length)

/-- Writes the next argument by a directive. -/
def convert (st : State) (l : Layout) (letter : Char) : State :=
  let unsigned (n : Int) (base : Nat) : String :=
    String.ofList (Nat.toDigits base (n % Decimal.twoTo 64).toNat)
  match letter with
  | 's' =>
    let (s, st) := st.takeText
    st.write (l.text s)
  | 'b' =>
    let (s, st) := st.takeText
    let (text, ended) := Escape.expand s
    { st.write (l.text text) with ended := ended }
  | 'c' =>
    let (s, st) := st.takeText
    st.write (l.fill (String.singleton (s.toList.headD '\x00')))
  | 'd' | 'i' =>
    let (n, st) := st.takeNumber true
    st.write (l.whole (l.sign (n < 0)) (toString n.natAbs))
  | 'u' =>
    let (n, st) := st.takeNumber false
    st.write (l.whole "" (unsigned n 10))
  | 'o' =>
    let (n, st) := st.takeNumber false
    let digits := unsigned n 8
    st.write (l.whole "" (if l.alternate && digits != "0" then "0" ++ digits else digits))
  | 'x' | 'X' =>
    let (n, st) := st.takeNumber false
    let digits := unsigned n 16
    let front := if l.alternate && n ≠ 0 then "0x" else ""
    let cased (s : String) : String := if letter = 'X' then s.map Char.toUpper else s
    st.write (l.whole (cased front) (cased digits))
  | 'a' | 'A' | 'f' | 'F' | 'e' | 'E' | 'g' | 'G' =>
    let (s, st) := st.takeText
    let (x, complaint) := readFloat s
    (st.note complaint).write (float l letter x)
  | _ => st.stop ("%" ++ String.singleton letter ++ ": invalid directive")

/-- Carries out a directive, whose percent sign was used, and gives what follows it. -/
def directive (st : State) (cs : List Char) : State × List Char :=
  let flags := cs.takeWhile "#-+ 0".toList.contains
  let (width, st, cs) := st.takeSize (cs.drop flags.length)
  let (precision, st, cs) := match cs with
    | '.' :: rest =>
      let (p, st, rest) := st.takeSize rest
      (some p, st, rest)
    | _ => (none, st, cs)
  let l : Layout := {
    left := flags.contains '-' || width < 0
    zeros := flags.contains '0'
    plus := if flags.contains '+' then "+" else if flags.contains ' ' then " " else ""
    alternate := flags.contains '#'
    width := width.natAbs
    precision := (precision.filter (0 ≤ ·)).map Int.toNat }
  match cs with
  | letter :: rest => (st.convert l letter, rest)
  | [] => (st.stop "missing format character", [])

/-- Goes through the format once. -/
def pass : (steps : Nat) → State → List Char → State
  | 0, st, _ | _, st, [] => st
  | steps + 1, st, '\\' :: rest =>
    let (c, rest) := Escape.afterBackslash rest
    pass steps (st.write (String.singleton c)) rest
  | steps + 1, st, '%' :: '%' :: rest => pass steps (st.write "%") rest
  | steps + 1, st, '%' :: rest =>
    let (st, rest) := st.directive rest
    if st.ended then st else pass steps st rest
  | steps + 1, st, c :: rest => pass steps (st.write (String.singleton c)) rest

/-- Goes through the format as long as it uses arguments and some are left. -/
def passes : (steps : Nat) → State → List Char → State
  | 0, st, _ => st
  | steps + 1, st, format =>
    let after := pass format.length st format
    if after.ended || after.arguments.isEmpty ||
        after.arguments.length = st.arguments.length then after
    else passes steps after format

end State

/-- Runs `printf`. -/
def run : (arguments : List String) → Outcome
  | [] => { complaints := ["usage: printf format [arg ...]"], status := 2 }
  | format :: arguments =>
    (State.passes (arguments.length + 1) { arguments := arguments } format.toList).toOutcome

end RecipeRunner.Shell.Printf
