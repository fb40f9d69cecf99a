import RecipeRunner.Decimal.Reading
import RecipeRunner.Pattern.Bulk
import RecipeRunner.Pattern.Class
/-!
# Reading patterns

The written form of patterns: characters for themselves, classes in brackets, groups in
parentheses, repetitions behind what they repeat, and flags that hold to the end of their
group.  What the grammar does not allow is no pattern; there are no back references and no look
around, and a pattern must be neither nested too deep nor too large.
-/

namespace RecipeRunner.Pattern

/-- The least number that is too large for a repetition. -/
def countLimit : Nat := 0x100000000

/-- A count behind blanks, with the rest behind further blanks; `steps` bounds the digits. -/
def readCount? (f : Flags) (cs : List Char) : Option (Nat × List Char) :=
  let (digits, rest) := gather (cs.length + 1) (cs.dropWhile Text.isBlank)
  (Decimal.readDigits? digits).bind fun n =>
    if n < countLimit then some (n, skipAll (rest.length + 1) rest) else none
where
  /-- The digits, behind each of which something may be passed over. -/
  gather : (steps : Nat) → List Char → List Char × List Char
    | steps + 1, c :: rest =>
      if Decimal.isDigit c then
        let (digits, rest) := gather steps (f.skip rest)
        (c :: digits, rest)
      else ([], c :: rest)
    | _, cs => ([], cs)
  /-- Passes over blanks, and remarks behind them where remarks count. -/
  skipAll : (steps : Nat) → List Char → List Char
    | steps + 1, c :: rest => if Text.isBlank c then skipAll steps (f.skip rest) else c :: rest
    | _, cs => cs

/-- The bounds of a counted repetition behind its opening brace. -/
def readCounts? (f : Flags) (cs : List Char) : Option (Nat × Option Nat × List Char) :=
  (readCount? f (f.skip cs)).bind fun (least, rest) =>
    match rest with
    | '\x7d' :: tail => some (least, some least, f.skip tail)
    | ',' :: rest =>
      match f.skip rest with
      | '\x7d' :: tail => some (least, none, f.skip tail)
      | rest =>
        (readCount? f rest).bind fun (greatest, rest) =>
          match rest with
          | '\x7d' :: tail =>
            if least ≤ greatest then some (least, some greatest, f.skip tail) else none
          | _ => none
    | _ => none

/-- A part of a pattern that was read. -/
structure Part where
  pattern : Pattern
  bulk : Bulk := {}
  /-- How deep the tree of the part is. -/
  depth : Nat := 0
  /-- Whether the part can be repeated. -/
  repeatable : Bool := true

namespace Part

/-- A character, case ignored if the flags say so. -/
def ofChar (f : Flags) (c : Char) : Part :=
  let s := f.closed (.single c)
  ⟨one s, if f.anyCase then .ofSet s else .char c, 0, true⟩

/-- A set of characters. -/
def ofSet (s : CharSet) (depth : Nat) : Part :=
  ⟨one s, .ofSet s, depth, true⟩

/-- A condition. -/
def ofBoundary (b : Boundary) : Part :=
  ⟨boundary b, .condition, 0, true⟩

/-- Flags, which stand for nothing. -/
def flags : Part :=
  ⟨empty, {}, 0, false⟩

/-- How deep parts are together: parts that stand side by side count as a level of their own. -/
def depthOf (parts : List Part) : Nat :=
  let deepest := (parts.map (·.depth)).foldl max 0
  if parts.length ≤ 1 then deepest else deepest + 1

/-- Parts one behind the other, given in reverse. -/
def concat (parts : List Part) : Part :=
  { pattern := match parts with
      | [part] => part.pattern
      | _ => seqs (parts.reverse.map (·.pattern))
    bulk := match parts with
      | [part] => part.bulk
      | _ => .concat (parts.map (·.bulk))
    depth := depthOf parts }

/-- The set that a part stands for, if it is a single character of a set. -/
def set? (part : Part) : Option CharSet :=
  match part.pattern with
  | one s => some s
  | _ => none

/-- A choice among parts, given in reverse.  A choice among characters is one set. -/
def choice (parts : List Part) : Part :=
  match parts with
  | [] => { pattern := empty }
  | [part] => part
  | last :: before =>
    let depth := depthOf parts
    match parts.mapM set? with
    | some sets => .ofSet (.unions sets) depth
    | none =>
      { pattern := before.foldl (fun p part => alt part.pattern p) last.pattern
        bulk := .choice (parts.map (·.bulk))
        depth := depth }

/-- A group; one that is captured is remembered. -/
def grouped (part : Part) (captured : Bool) : Part :=
  { pattern := part.pattern
    bulk := if captured then part.bulk.captured else part.bulk
    depth := part.depth + 1 }

/-- A repetition of a part. -/
def repetition (part : Part) (greedy : Bool) (least : Nat) (further : Option Nat) : Part :=
  { pattern := repeated greedy least further part.pattern
    bulk := part.bulk.repeated least further
    depth := part.depth + 1 }

end Part

/-- A group that is open: its finished alternatives and the parts of the last one, both in
reverse, and the flags to come back to behind it. -/
structure Level where
  alternatives : List Part := []
  parts : List Part := []
  flagsOutside : Flags := {}
  captured : Bool := false

namespace Level

/-- Adds a part. -/
def add (l : Level) (part : Part) : Level :=
  { l with parts := part :: l.parts }

/-- Ends an alternative. -/
def endAlternative (l : Level) : Level :=
  { l with alternatives := .concat l.parts :: l.alternatives, parts := [] }

/-- What stands in a group. -/
def inside (l : Level) : Part :=
  .choice l.endAlternative.alternatives

/-- Repeats the last part, if there is one that can be repeated. -/
def repeatLast? (l : Level) (greedy : Bool) (least : Nat) (greatest : Option Nat) :
    Option Level :=
  match l.parts with
  | part :: before =>
    if part.repeatable then
      some { l with parts := part.repetition greedy least (greatest.map (· - least)) :: before }
    else none
  | [] => none

end Level

/-- A name of a group: a letter or low line, then those, digits, points and brackets. -/
def isGroupName (name : List Char) : Bool :=
  match name with
  | [] => false
  | c :: rest => (c = '_' || Unicode.isAlphabetic c) &&
      rest.all fun d => d = '_' || d = '.' || d = '[' || d = ']' || Unicode.isAlphanumeric d

/-- Reads a pattern: `outer` are the groups around the innermost open one, and every step takes a
character, so the length of the text is enough fuel. -/
def readFrom? : (fuel : Nat) → (names : List (List Char)) → Flags → (outer : List Level) →
    (inner : Level) → List Char → Option Part
  | 0, _, _, _, _, _ => none
  | fuel + 1, names, f, outer, inner, cs =>
    match f.skip cs with
    | [] => if outer.isEmpty then some inner.inside else none
    | c :: rest =>
      let put (part : Part) (rest : List Char) :=
        readFrom? fuel names f outer (inner.add part) rest
      let again (least : Nat) (greatest : Option Nat) (rest : List Char) :=
        let (lazy, rest) := match rest with
          | '?' :: tail => (true, tail)
          | _ => (false, rest)
        (inner.repeatLast? (lazy == f.swapGreed) least greatest).bind fun inner =>
          readFrom? fuel names f outer inner rest
      let openWith (captured : Bool) (flags : Flags) (names : List (List Char))
          (rest : List Char) :=
        readFrom? fuel names flags (inner :: outer) { flagsOutside := f, captured } rest
      let openNamed (named : List Char) :=
        (Text.cutAt? ['>'] named).bind fun (name, tail) =>
          if isGroupName name && !names.contains name then openWith true f (name :: names) tail
          else none
      match c with
      | '(' =>
        match f.skip rest with
        | '?' :: 'P' :: '<' :: named => openNamed named
        | '?' :: '<' :: named => openNamed named
        | '?' :: tail =>
          (f.read? true false [] tail).bind fun (flags, mark, tail) =>
            if mark = ':' then openWith false flags names tail
            else readFrom? fuel names flags outer (inner.add .flags) tail
        | rest => openWith true f names rest
      | ')' =>
        match outer with
        | [] => none
        | around :: outer =>
          readFrom? fuel names inner.flagsOutside outer
            (around.add (inner.inside.grouped inner.captured)) rest
      | '|' => readFrom? fuel names f outer inner.endAlternative rest
      | '*' => again 0 none rest
      | '+' => again 1 none rest
      | '?' => again 0 (some 1) rest
      | '\x7b' =>
        (readCounts? f rest).bind fun (least, greatest, tail) => again least greatest tail
      | '[' =>
        (Class.read? f (2 * rest.length + 2) rest).bind fun (inner, tail) =>
          put (.ofSet inner.set inner.depth) tail
      | '.' => if f.unicode then put (.ofSet f.dotSet 0) rest else none
      | '^' => put (.ofBoundary f.startBoundary) rest
      | '$' => put (.ofBoundary f.endBoundary) rest
      | '\\' =>
        (Escaped.read? f rest).bind fun (escaped, tail) =>
          match escaped with
          | .char d => put (.ofChar f d) tail
          | .set s => put (.ofSet s 0) tail
          | .place b => put (.ofBoundary b) tail
      | _ => put (.ofChar f c) rest

/-- How deep a pattern may be nested. -/
def depthLimit : Nat := 250

/-- Reads a pattern. -/
def read? (cs : List Char) : Option Pattern :=
  (readFrom? (cs.length + 1) [] {} [] {} cs).bind fun part =>
    if part.depth ≤ depthLimit && part.bulk.fits then some part.pattern else none

end RecipeRunner.Pattern
