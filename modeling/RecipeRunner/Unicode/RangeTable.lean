/-!
# Range tables

Sets of characters given as ascending ranges of code points, values of characters given as runs
of code points with one value, and the search for the last entry of an ascending table that does
not exceed a code point.
-/

namespace RecipeRunner.Unicode

/-- The value of one digit of a base up to sixteen. -/
def digitValue? (c : Char) : Option Nat :=
  if '0' ≤ c ∧ c ≤ '9' then some (c.toNat - '0'.toNat)
  else if 'a' ≤ c ∧ c ≤ 'f' then some (c.toNat - 'a'.toNat + 10)
  else if 'A' ≤ c ∧ c ≤ 'F' then some (c.toNat - 'A'.toNat + 10)
  else none

/-- The number written by digits of a base; characters that are no digits count as zero. -/
def natOfDigits (base : Nat) (digits : List Char) : Nat :=
  digits.foldl (fun n c => n * base + (digitValue? c).getD 0) 0

/-- Bisection between `lo` and `hi`, at most `steps` halvings. -/
private def bisect {α : Type} (key : α → Nat) (entries : Array α) (x : Nat) :
    (steps lo hi : Nat) → Nat
  | 0, lo, _ => lo
  | steps + 1, lo, hi =>
    if hi ≤ lo + 1 then lo
    else
      let mid := (lo + hi) / 2
      match entries[mid]? with
      | some e => if key e ≤ x then bisect key entries x steps mid hi
                  else bisect key entries x steps lo mid
      | none => lo

/-- The index of the last entry whose key is at most `x`, in a table with ascending keys; zero
when there is none. -/
def lastAtMost {α : Type} (key : α → Nat) (entries : Array α) (x : Nat) : Nat :=
  bisect key entries x entries.size 0 entries.size

/-- The words of the text of a table, which blanks and line ends set apart. -/
def words (text : String) : List String :=
  (text.splitToList Char.isWhitespace).filter fun word => !word.isEmpty

/-- Ranges of code points, ascending, ends included. -/
structure RangeTable where
  ranges : Array (Nat × Nat)

namespace RangeTable

/-- Reads ranges in base sixteen, such as `41-5A AA`. -/
def ofText (text : String) : RangeTable where
  ranges := ((words text).map fun word =>
    let first := word.toList.takeWhile (· ≠ '-')
    let last := (word.toList.dropWhile (· ≠ '-')).drop 1
    (natOfDigits 16 first, natOfDigits 16 (if last.isEmpty then first else last))).toArray

/-- Whether a character lies in one of the ranges. -/
def contains (t : RangeTable) (c : Char) : Bool :=
  match t.ranges[lastAtMost (fun r => r.1) t.ranges c.toNat]? with
  | some (lo, hi) => lo ≤ c.toNat && c.toNat ≤ hi
  | none => false

end RangeTable

/-- The runs of code points with one value, from code point zero upwards: where each run starts
and its value. -/
structure RunTable (α : Type) where
  runs : Array (Nat × α)
  /-- The value outside the runs. -/
  missing : α

namespace RunTable

variable {α : Type}

/-- The runs of values with the lengths of the runs. -/
def ofLengths (runs : List (α × Nat)) (missing : α) : RunTable α where
  runs := (runs.foldl (fun (acc : Nat × Array (Nat × α)) run =>
    (acc.1 + run.2, acc.2.push (acc.1, run.1))) (0, #[])).2
  missing := missing

/-- Reads runs such as `Latn:1A`, with the lengths in base sixteen. -/
def ofText (read : String → α) (missing : α) (text : String) : RunTable α :=
  ofLengths ((words text).map fun word =>
    let key := word.toList.takeWhile (· ≠ ':')
    (read (String.ofList key), natOfDigits 16 (word.toList.drop (key.length + 1)))) missing

/-- The value of a character. -/
def get (t : RunTable α) (c : Char) : α :=
  match t.runs[lastAtMost (fun run => run.1) t.runs c.toNat]? with
  | some (_, value) => value
  | none => t.missing

end RunTable

end RecipeRunner.Unicode
