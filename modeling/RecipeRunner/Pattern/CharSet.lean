import RecipeRunner.Text.Blank
import RecipeRunner.Unicode.Age
import RecipeRunner.Unicode.CaseMap
import RecipeRunner.Unicode.Script
/-!
# Characters of patterns and sets of them

Patterns follow the sixteenth edition of the standard, while the case of texts follows the
seventeenth: to a pattern, the characters that came later are not assigned.  A pattern can name sets
of characters, closed under union, intersection and complement, and under the characters that differ
in case only.
-/

namespace RecipeRunner.Pattern.Character

open Unicode (Category)

/-- The edition that patterns follow, as an age. -/
def edition : Nat := 160

/-- Whether an edition up to that of patterns has assigned a character. -/
def isAssigned (c : Char) : Bool :=
  Unicode.age c != 0 && Unicode.age c ≤ edition

/-- The general category of a character.  The voiced pharyngeal letter lost its case later. -/
def category (c : Char) : Category :=
  if c = 'ʕ' then .lowerLetter
  else if isAssigned c then Category.ofChar c
  else .unassigned

/-- Letters, letter numbers and the signs that combine with letters. -/
def isAlphabetic (c : Char) : Bool :=
  isAssigned c && Unicode.isAlphabetic c

/-- Decimal digits of any script. -/
def isDigit (c : Char) : Bool :=
  category c = .decimalNumber

/-- Characters of words: alphabetic characters, marks, decimal digits, connectors and the two
joiners. -/
def isWord (c : Char) : Bool :=
  isAssigned c && Unicode.isWordChar c

/-- The characters equal to a character when the case of basic letters is ignored. -/
def basicVariants (c : Char) : List Char :=
  [c, c.toUpper, c.toLower]

/-- The characters equal to a character when case is ignored, itself included.  Characters below
128 are decided without a table: two of their letters have a counterpart above, the Kelvin sign and
the long s. -/
def variants (c : Char) : List Char :=
  if c.toNat < 128 then
    if c = 'k' || c = 'K' then '\u212a' :: basicVariants c
    else if c = 's' || c = 'S' then 'ſ' :: basicVariants c
    else basicVariants c
  else if isAssigned c then (Unicode.variants c).filter isAssigned
  else [c]

end RecipeRunner.Pattern.Character

namespace RecipeRunner

/-- A set of characters. -/
inductive CharSet where
  | none
  | range (lo hi : Char)
  /-- The characters that pass a test. -/
  | test (p : Char → Bool)
  | union (a b : CharSet)
  | inter (a b : CharSet)
  | complement (a : CharSet)
  | anyCase (a : CharSet)
  /-- The characters that differ from a member in the case of a basic letter at most. -/
  | anyBasicCase (a : CharSet)
  deriving Inhabited

namespace CharSet

/-- The set of one character. -/
def single (c : Char) : CharSet :=
  range c c

/-- All characters. -/
def all : CharSet :=
  complement none

/-- The members of `a` that are not in `b`. -/
def diff (a b : CharSet) : CharSet :=
  inter a (complement b)

/-- The members of one of two sets but not of the other. -/
def symmDiff (a b : CharSet) : CharSet :=
  union (diff a b) (diff b a)

/-- The union of several sets. -/
def unions (sets : List CharSet) : CharSet :=
  sets.foldr union none

/-- White space. -/
def blank : CharSet :=
  test Text.isBlank

/-- Whether a character is in a set. -/
def contains : CharSet → Char → Bool
  | none, _ => false
  | range lo hi, c => lo ≤ c && c ≤ hi
  | test p, c => p c
  | union a b, c => a.contains c || b.contains c
  | inter a b, c => a.contains c && b.contains c
  | complement a, c => !a.contains c
  | anyCase a, c => (Pattern.Character.variants c).any a.contains
  | anyBasicCase a, c => (Pattern.Character.basicVariants c).any a.contains

@[simp] theorem contains_union (a b : CharSet) (c : Char) :
    (union a b).contains c = (a.contains c || b.contains c) := rfl

@[simp] theorem contains_complement (a : CharSet) (c : Char) :
    (complement a).contains c = !a.contains c := rfl

end CharSet

end RecipeRunner
