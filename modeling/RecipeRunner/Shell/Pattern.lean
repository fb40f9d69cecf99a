/-!
# Patterns of the shell

A pattern matches a text as a whole.  Quoted characters of a pattern stand for themselves, and
so does a character behind a backslash that came from a value.
-/

namespace RecipeRunner.Shell

/-- A character of a word, and whether it is not quoted. -/
abbrev Letter := Char × Bool

namespace Pattern

/-- What a part of a pattern matches. -/
inductive Atom where
  | anyText
  | anyChar
  | char (c : Char)
  /-- A character that is, or is not, in one of several ranges. -/
  | range (negated : Bool) (bounds : List (Char × Char))
  deriving Repr

/-- The letters of a pattern without the backslashes before characters that they quote. -/
def unescaped : List Letter → List Letter
  | ('\\', true) :: (c, _) :: rest => (c, false) :: unescaped rest
  | letter :: rest => letter :: unescaped rest
  | [] => []

/-- The ranges of a class by its name. -/
def class? : String → Option (List (Char × Char))
  | "alpha" => some [('a', 'z'), ('A', 'Z')]
  | "digit" => some [('0', '9')]
  | "alnum" => some [('a', 'z'), ('A', 'Z'), ('0', '9')]
  | "upper" => some [('A', 'Z')]
  | "lower" => some [('a', 'z')]
  | "space" => some [('\t', '\r'), (' ', ' ')]
  | "blank" => some [('\t', '\t'), (' ', ' ')]
  | "punct" => some [('!', '/'), (':', '@'), ('[', '`'), ('\x7b', '~')]
  | "print" => some [(' ', '~')]
  | "graph" => some [('!', '~')]
  | "cntrl" => some [('\x00', '\x1f'), ('\x7f', '\x7f')]
  | "xdigit" => some [('0', '9'), ('a', 'f'), ('A', 'F')]
  | _ => none

/-- The ranges of the class that letters start with, and what follows it. -/
def leadingClass? : List Letter → Option (List (Char × Char) × List Letter)
  | ('[', true) :: (':', true) :: rest =>
    let name := (rest.map Prod.fst).takeWhile Char.isAlpha
    match rest.drop name.length with
    | (':', _) :: (']', _) :: more => (class? (String.ofList name)).map fun bounds => (bounds, more)
    | _ => none
  | _ => none

/-- The ranges of a set up to its closing bracket, and what follows it. -/
def ranges : (steps : Nat) → (isFirst : Bool) → List Letter →
    Option (List (Char × Char) × List Letter)
  | 0, _, _ | _, _, [] => none
  | steps + 1, isFirst, (c, active) :: rest =>
    if c = ']' && active && !isFirst then some ([], rest)
    else if let some (bounds, more) := leadingClass? ((c, active) :: rest) then
      (ranges steps false more).map fun (rs, tail) => (bounds ++ rs, tail)
    else
      match rest with
      | ('-', true) :: (d, ends) :: more =>
        if d = ']' && ends then some ([(c, c), ('-', '-')], more)
        else (ranges steps false more).map fun (rs, tail) => ((c, d) :: rs, tail)
      | _ => (ranges steps false rest).map fun (rs, tail) => ((c, c) :: rs, tail)

/-- The parts of a pattern, whose characters say whether they have a meaning of their own. -/
def atoms : (steps : Nat) → List Letter → List Atom
  | 0, _ | _, [] => []
  | steps + 1, (c, active) :: rest =>
    if !active then .char c :: atoms steps rest
    else
      match c with
      | '*' => .anyText :: atoms steps rest
      | '?' => .anyChar :: atoms steps rest
      | '[' =>
        let (negated, body) := match rest with
          | ('!', true) :: body => (true, body)
          | _ => (false, rest)
        match ranges body.length true body with
        | some (bounds, tail) => .range negated bounds :: atoms steps tail
        | none => .char c :: atoms steps rest
      | _ => .char c :: atoms steps rest

/-- Whether a part of a pattern matches a character. -/
def Atom.matchesChar : Atom → Char → Bool
  | anyText, _ | anyChar, _ => true
  | char d, c => c = d
  | range negated bounds, c => (bounds.any fun (a, b) => a ≤ c && c ≤ b) != negated

/-- Whether parts of a pattern match a text. -/
def matchesAll : List Atom → List Char → Bool
  | [], cs => cs.isEmpty
  | .anyText :: rest, [] => matchesAll rest []
  | .anyText :: rest, c :: cs => matchesAll rest (c :: cs) || matchesAll (.anyText :: rest) cs
  | _ :: _, [] => false
  | a :: rest, c :: cs => a.matchesChar c && matchesAll rest cs
termination_by atoms text => atoms.length + text.length

/-- Whether a pattern matches a text. -/
def isMatch (pattern : List Letter) (text : List Char) : Bool :=
  matchesAll (atoms pattern.length (unescaped pattern)) text

/-- Whether letters have a meaning apart from standing for themselves. -/
def isActive (letters : List Letter) : Bool :=
  (atoms letters.length (unescaped letters)).any fun a =>
    match a with
    | .char _ => false
    | _ => true

/-- What is left of a text without the shortest or the longest match at an end. -/
def cut (atStart longest : Bool) (pattern : List Letter) (text : List Char) : List Char :=
  let sizes := if longest then (List.range (text.length + 1)).reverse
    else List.range (text.length + 1)
  let part (n : Nat) : List Char := if atStart then text.take n else text.drop (text.length - n)
  match sizes.find? fun n => isMatch pattern (part n) with
  | some n => if atStart then text.drop n else text.take (text.length - n)
  | none => text

end Pattern

end RecipeRunner.Shell
