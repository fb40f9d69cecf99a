import RecipeRunner.Pattern.Escape
/-!
# Classes in brackets

Sets written as their members in brackets: characters, ranges, escapes, named classes and
further classes, and operators between several of them.  Case is ignored before a complement is
taken, in each part for itself.
-/

namespace RecipeRunner.Pattern

/-- A class that was read, and how deep its tree is: each bracket, each operator and each place
where several members stand together counts. -/
structure Class where
  set : CharSet
  depth : Nat

namespace Class

/-- The named classes that stand inside brackets between colons. -/
def named? : String → Option CharSet
  | "alnum" => some (.unions [.range '0' '9', .range 'A' 'Z', .range 'a' 'z'])
  | "alpha" => some (.union (.range 'A' 'Z') (.range 'a' 'z'))
  | "ascii" => some (.range '\x00' '\x7f')
  | "blank" => some (.union (.single '\t') (.single ' '))
  | "cntrl" => some (.union (.range '\x00' '\x1f') (.single '\x7f'))
  | "digit" => some (.range '0' '9')
  | "graph" => some (.range '!' '~')
  | "lower" => some (.range 'a' 'z')
  | "print" => some (.range ' ' '~')
  | "punct" => some (.unions [.range '!' '/', .range ':' '@', .range '[' '\x60',
      .range '\x7b' '~'])
  | "space" => some (.union (.range '\t' '\r') (.single ' '))
  | "upper" => some (.range 'A' 'Z')
  | "word" => some (.unions [.range 'a' 'z', .range 'A' 'Z', .range '0' '9', .single '_'])
  | "xdigit" => some (.unions [.range '0' '9', .range 'A' 'F', .range 'a' 'f'])
  | _ => none

/-- A named class and whether its complement is meant, behind the opening bracket and colon, with
the rest behind its end. -/
def readNamed? (cs : List Char) : Option (CharSet × Bool × List Char) :=
  let (negated, cs) := match cs with
    | '^' :: rest => (true, rest)
    | _ => (false, cs)
  match Text.cutAt? [':', ']'] cs with
  | some (name, rest) => (named? (String.ofList name)).map (·, negated, rest)
  | none => none

/-- Operators between the parts of a class. -/
inductive Operator where
  | inter
  | diff
  | symmDiff

/-- Members that stand together. -/
structure Members where
  set : CharSet := .none
  count : Nat := 0
  /-- How deep the deepest member is. -/
  depth : Nat := 0

namespace Members

/-- Adds a member. -/
def add (m : Members) (s : CharSet) (depth : Nat) : Members :=
  ⟨.union m.set s, m.count + 1, max m.depth depth⟩

/-- Members as one part of a class. -/
def toClass (m : Members) : Class :=
  ⟨m.set, if m.count ≤ 1 then m.depth else m.depth + 1⟩

end Members

/-- Joins a part of a class to the parts before it. -/
def join (f : Flags) (before : Option (Operator × Class)) (part : Class) : Class :=
  match before with
  | none => part
  | some (operator, left) =>
    let a := f.closed left.set
    let b := f.closed part.set
    { set := match operator with
        | .inter => .inter a b
        | .diff => .diff a b
        | .symmDiff => .symmDiff a b
      depth := max left.depth part.depth + 1 }

/-- One member: a character or a set.  Where there are basic characters only, no other one can be
a member. -/
def readMember? (f : Flags) : List Char → Option ((Char ⊕ CharSet) × List Char)
  | [] => none
  | '\\' :: rest =>
    match Escaped.read? f rest with
    | some (.char c, tail) => if isAllowed c then some (.inl c, tail) else none
    | some (.set s, tail) => some (.inr s, tail)
    | _ => none
  | c :: rest => if isAllowed c then some (.inl c, rest) else none
where
  /-- Whether a character can be a member. -/
  isAllowed (c : Char) : Bool :=
    f.unicode || c.toNat < 128

/-- The character behind the first one, less blanks.  A mark of a remark is passed over, but not
the remark. -/
def peekBehind (f : Flags) (cs : List Char) : Option Char :=
  let behind := cs.drop 1
  if f.verbose then (search false behind).or behind.head? else behind.head?
where
  /-- The first character that is neither a blank nor the first mark of a remark. -/
  search (inRemark : Bool) : List Char → Option Char
    | [] => none
    | c :: rest =>
      if Text.isBlank c then search inRemark rest
      else if c = '#' && !inRemark then search true rest
      else some c

/-- Whether a range goes on where a character has been read. -/
def continuesRange (f : Flags) (cs : List Char) : Bool :=
  cs.head? = some '-' && peekBehind f cs != some ']' && peekBehind f cs != some '-'

mutual

/-- Reads a class behind its opening bracket, with the rest behind its closing one. -/
def read? (f : Flags) : (fuel : Nat) → List Char → Option (Class × List Char)
  | 0, _ => none
  | fuel + 1, cs =>
    let cs := f.skip cs
    let (negated, cs) := match cs with
      | '^' :: rest => (true, f.skip rest)
      | _ => (false, cs)
    let (members, cs) := readDashes f cs.length {} cs
    let (members, cs) := match cs with
      | ']' :: rest =>
        if members.count = 0 then (members.add (.single ']') 0, f.skip rest) else (members, cs)
      | _ => (members, cs)
    (readMembers? f fuel none members cs).bind fun (inner, rest) =>
      (f.classOf? negated inner.set).map fun s => (⟨s, inner.depth + 1⟩, rest)

/-- Reads the hyphens at the start of a class. -/
def readDashes (f : Flags) : (steps : Nat) → Members → List Char → Members × List Char
  | steps + 1, members, '-' :: rest =>
    readDashes f steps (members.add (.single '-') 0) (f.skip rest)
  | _, members, cs => (members, cs)

/-- Reads the members of a class up to its end, behind the parts before an operator. -/
def readMembers? (f : Flags) : (fuel : Nat) → (before : Option (Operator × Class)) →
    Members → List Char → Option (Class × List Char)
  | 0, _, _, _ => none
  | fuel + 1, before, members, cs =>
    let operate (operator : Operator) (rest : List Char) :=
      readMembers? f fuel (some (operator, join f before members.toClass)) {} rest
    match f.skip cs with
    | [] => none
    | ']' :: rest => some (join f before members.toClass, rest)
    | '&' :: '&' :: rest => operate .inter rest
    | '-' :: '-' :: rest => operate .diff rest
    | '~' :: '~' :: rest => operate .symmDiff rest
    | '[' :: rest =>
      let known := match rest with
        | ':' :: inner => readNamed? inner
        | _ => none
      match known with
      | some (s, negated, tail) =>
        (f.classOf? negated s).bind fun s => readMembers? f fuel before (members.add s 0) tail
      | none =>
        (read? f fuel rest).bind fun (inner, tail) =>
          readMembers? f fuel before (members.add inner.set inner.depth) tail
    | cs =>
      (readMember? f cs).bind fun (low, tail) =>
        let tail := f.skip tail
        if continuesRange f tail then
          match low, readMember? f (f.skip (tail.drop 1)) with
          | .inl lo, some (.inl hi, tail) =>
            if lo ≤ hi then readMembers? f fuel before (members.add (.range lo hi) 0) tail
            else none
          | _, _ => none
        else
          let s := match low with
            | .inl c => CharSet.single c
            | .inr s => s
          readMembers? f fuel before (members.add s 0) tail

end

end Class

end RecipeRunner.Pattern
