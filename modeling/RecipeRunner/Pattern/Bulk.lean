import RecipeRunner.Decimal.Binary
import RecipeRunner.Pattern.Basic
/-!
# Bulk of patterns

How much room the automaton of a pattern takes that reads a text byte by byte.  A pattern that
takes too much is refused, so counted repetitions of large classes have to stay small.
-/

namespace RecipeRunner

namespace CharSet

/-- The ends of the ranges that a set is made of. -/
def endpoints : CharSet → List Nat
  | none | test _ => []
  | range lo hi => [lo.toNat, hi.toNat + 1]
  | union a b | inter a b => a.endpoints ++ b.endpoints
  | complement a | anyCase a | anyBasicCase a => a.endpoints

/-- The code points from which on properties and cases change rarely. -/
def quietStart : Nat := 0x33480

/-- The code points from there on at which a property changes nevertheless. -/
def lateChanges : List Nat :=
  quietStart :: (List.range 14).flatMap (fun n => [(n + 3) * 0x10000 + 0xFFFE, (n + 4) * 0x10000])
    ++ [0xE0000, 0xE0001, 0xE0002, 0xE0020, 0xE0080, 0xE0100, 0xE01F0, 0xE1000, 0xF0000]

/-- The ascending code points at which membership in a set can change. -/
def landmarks (s : CharSet) : List Nat :=
  let late := (s.endpoints ++ lateChanges).filter (quietStart ≤ ·)
  List.range quietStart ++ late.mergeSort

/-- The ranges of code points that make up a set, ascending, found from ascending landmarks; the
present range begins at `start`. -/
def rangesFrom (s : CharSet) : (start : Option Nat) → List Nat → List (Nat × Nat)
  | start, [] => (start.map fun lo => (lo, 0x10FFFF)).toList
  | start, n :: rest =>
    let isSurrogate := 0xD800 ≤ n && n < 0xE000
    let belongs := !isSurrogate && n ≤ 0x10FFFF && s.contains (Char.ofNat n)
    match start, belongs with
    | Option.none, true => rangesFrom s (some n) rest
    | some lo, false => (lo, n - 1) :: rangesFrom s Option.none rest
    | start, _ => rangesFrom s start rest

/-- The ranges of code points that make up a set, ascending. -/
def ranges (s : CharSet) : List (Nat × Nat) :=
  s.rangesFrom Option.none s.landmarks

end CharSet

namespace Pattern

/-- Ranges of digits of base 64, one behind the other, for the bytes of characters. -/
abbrev ByteRanges := List (Nat × Nat)

/-- The byte ranges of the numbers of a range that have as many digits of base 64 behind the first
digit, which is less bounded. -/
def byteRanges : (further : Nat) → (lo hi : Nat) → List ByteRanges
  | 0, lo, hi => [[(lo, hi)]]
  | k + 1, lo, hi =>
    let base := Decimal.twoTo (6 * (k + 1))
    let (a, r, b, t) := (lo / base, lo % base, hi / base, hi % base)
    let behind (digit lo hi : Nat) : List ByteRanges :=
      (byteRanges k lo hi).map ((digit, digit) :: ·)
    if a = b then behind a r t
    else
      let (front, first) := if r = 0 then ([], a) else (behind a r (base - 1), a + 1)
      let (back, last) := if t = base - 1 then ([], b) else (behind b 0 t, b - 1)
      let middle := if first ≤ last then [(first, last) :: List.replicate (k + 1) (0, 63)] else []
      front ++ middle ++ back

/-- The code points of characters of one, two, three and four bytes. -/
def spans : List (Nat × Nat) :=
  [(0, 0x7F), (0x80, 0x7FF), (0x800, 0xFFFF), (0x10000, 0x10FFFF)]

/-- The byte ranges of a range of code points, with the number of bytes marked in front. -/
def byteRangesOf (lo hi : Nat) : List ByteRanges :=
  spans.zipIdx.flatMap fun ((first, last), further) =>
    let (lo, hi) := (max lo first, min hi last)
    if lo ≤ hi then (byteRanges further lo hi).map fun sequence =>
      sequence.modifyHead fun (a, b) => (a + further * 0x1000, b + further * 0x1000)
    else []

/-- The number of ranges that sequences have in common at their starts. -/
def commonLength : ByteRanges → ByteRanges → Nat
  | a :: as, b :: bs => if a = b then commonLength as bs + 1 else 0
  | _, _ => 0

/-- The number of ranges in the tree of ascending sequences. -/
def treeSize : ByteRanges → List ByteRanges → Nat
  | _, [] => 0
  | previous, next :: rest => next.length - commonLength previous next + treeSize next rest

/-- The bytes that a state takes. -/
def stateSize : Nat := 32

/-- The bytes that a class takes.  One character is no class, and basic characters are told apart
in one state. -/
def classSize (s : CharSet) : Nat :=
  let ranges := s.ranges
  if ranges.length = 1 && ranges.all fun (lo, hi) => lo = hi then
    (ranges.map fun (lo, _) => stateSize * (Char.ofNat lo).utf8Size).foldl (· + ·) 0
  else if ranges.all fun (_, hi) => hi < 0x80 then 2 * stateSize + 8 * ranges.length
  else
    let sequences := ranges.flatMap fun (lo, hi) => byteRangesOf lo hi
    stateSize * (2 + treeSize [] sequences) + 4 * sequences.length

/-- A number of bytes that a class does not exceed, found without looking at its members. -/
def classBound : CharSet → Nat
  | .none | .range _ _ => 1500
  | .test _ => 150000
  | .union a b | .inter a b => classBound a + classBound b
  | .complement a => classBound a + 1500
  | .anyCase (.range lo hi) | .anyBasicCase (.range lo hi) => 1500 + 500 * (hi.toNat - lo.toNat)
  | .anyCase a | .anyBasicCase a => classBound a + 150000

/-- The room that a pattern takes. -/
structure Bulk where
  /-- The bytes of all but classes. -/
  bytes : Nat := 0
  /-- The classes and how often each of them comes. -/
  classes : List (Nat × CharSet) := []
  /-- Whether the pattern can match nothing. -/
  canBeEmpty : Bool := true
  /-- Whether the pattern can match only nothing. -/
  isEmpty : Bool := true

namespace Bulk

/-- What takes one state and matches nothing. -/
def condition : Bulk where
  bytes := stateSize

/-- A single character. -/
def char (c : Char) : Bulk where
  bytes := stateSize * c.utf8Size
  canBeEmpty := false
  isEmpty := false

/-- A class. -/
def ofSet (s : CharSet) : Bulk where
  classes := [(1, s)]
  canBeEmpty := false
  isEmpty := false

/-- A group that is remembered. -/
def captured (b : Bulk) : Bulk :=
  { b with bytes := b.bytes + 2 * stateSize }

/-- Patterns one behind the other. -/
def concat (parts : List Bulk) : Bulk where
  bytes := if parts.isEmpty then stateSize else (parts.map (·.bytes)).foldl (· + ·) 0
  classes := parts.flatMap (·.classes)
  canBeEmpty := parts.all (·.canBeEmpty)
  isEmpty := parts.all (·.isEmpty)

/-- A choice among patterns. -/
def choice (parts : List Bulk) : Bulk where
  bytes := (parts.map (·.bytes)).foldl (· + ·) (2 * stateSize + 4 * parts.length)
  classes := parts.flatMap (·.classes)
  canBeEmpty := parts.any (·.canBeEmpty)
  isEmpty := parts.all (·.isEmpty)

/-- As many copies of a pattern, and bytes besides. -/
def scaled (b : Bulk) (copies extra : Nat) : Bulk :=
  { b with
    bytes := b.bytes * copies + extra
    classes := b.classes.map fun (n, s) => (n * copies, s) }

/-- A repetition.  What can match only nothing is not repeated. -/
def repeated (b : Bulk) (least : Nat) (further : Option Nat) : Bulk :=
  let (least, further) := if b.isEmpty then (min least 1, some (1 - min least 1))
    else (least, further)
  let fork := stateSize + 8
  let size := match least, further with
    | 0, some 0 => (⟨stateSize, [], true, true⟩ : Bulk)
    | 0, some 1 => b.scaled 1 (fork + stateSize)
    | 0, none => b.scaled 1 (if b.canBeEmpty then 2 * fork + stateSize else fork)
    | least, none => b.scaled least fork
    | least, some 0 => b.scaled least 0
    | least, some n =>
      b.scaled (least + n) (n * fork + stateSize + if least = 0 then stateSize else 0)
  { size with canBeEmpty := b.canBeEmpty || least = 0 }

/-- The room that there is for a pattern, in bytes. -/
def limit : Nat := 10485760

/-- Whether there is room for a pattern. -/
def fits (b : Bulk) : Bool :=
  let bytes := b.bytes + 6 * stateSize
  let total (size : CharSet → Nat) : Nat :=
    b.classes.foldl (fun sum (n, s) => sum + n * size s) bytes
  bytes ≤ limit && (total classBound ≤ limit || total classSize ≤ limit)

end Bulk

end Pattern

end RecipeRunner
