import RecipeRunner.Shell.Outside
/-!
# Concatenation

The program `cat`: it copies files one behind the other and can number lines, leave out blank
ones and show what is not seen.
-/

namespace RecipeRunner.Shell.Cat

/-- The options. -/
def known : Outside.Known where
  program := "cat"
  letters := "benstuvAET".toList
  names := [("number-nonblank", 'b'), ("number", 'n'), ("squeeze-blank", 's'),
    ("show-nonprinting", 'v'), ("show-ends", 'E'), ("show-tabs", 'T'), ("show-all", 'A')]
  anywhere := true

/-- How texts are shown. -/
structure Style where
  /-- Whether lines are numbered. -/
  numbers : Bool := false
  /-- Whether blank lines have no numbers. -/
  filledOnly : Bool := false
  squeezes : Bool := false
  showsEnds : Bool := false
  showsTabs : Bool := false
  showsControls : Bool := false

/-- The style that options ask for. -/
def Style.ofOptions (options : List Char) : Style :=
  let has (cs : List Char) : Bool := cs.any options.contains
  { numbers := has ['b', 'n']
    filledOnly := has ['b']
    squeezes := has ['s']
    showsEnds := has ['e', 'E', 'A']
    showsTabs := has ['t', 'T', 'A']
    showsControls := has ['v', 'e', 't', 'A'] }

/-- Where the copying stands. -/
structure State where
  /-- The number of the latest line that has one. -/
  line : Nat := 0
  /-- Whether the next byte starts a line. -/
  atStart : Bool := true
  /-- Whether the line before was blank. -/
  behindBlank : Bool := false

/-- The number of a line, which fills six columns. -/
def number (line : Nat) : String :=
  let digits := toString line
  "".pushn ' ' (6 - digits.length) ++ digits ++ "\t"

/-- A byte that is not the end of a line, as it is shown. -/
def Style.shown (style : Style) (c : Char) : String :=
  let caret (n : Nat) : String := "^" ++ String.singleton (Char.ofNat n)
  let below (n : Nat) : String :=
    if n < 32 then caret (n + 64) else if n = 127 then "^?" else String.singleton (Char.ofNat n)
  if c = '\t' then if style.showsTabs then "^I" else "\t"
  else if !style.showsControls then String.singleton c
  else if c.toNat < 128 then below c.toNat
  else "M-" ++ below (c.toNat - 128)

/-- Copies bytes in a style behind what was `written`. -/
def Style.copyFrom (style : Style) (written : String) (s : State) :
    List Char → String × State
  | [] => (written, s)
  | '\n' :: rest =>
    let isBlank := s.atStart
    if style.squeezes && isBlank && s.behindBlank then style.copyFrom written s rest
    else
      let numbered := isBlank && style.numbers && !style.filledOnly
      let line := if numbered then s.line + 1 else s.line
      style.copyFrom (written ++ (if numbered then number line else "") ++
        (if style.showsEnds then "$\n" else "\n")) ⟨line, true, isBlank⟩ rest
  | c :: rest =>
    let numbered := s.atStart && style.numbers
    let line := if numbered then s.line + 1 else s.line
    let text := if c = '\r' && style.showsEnds && rest.head? = some '\n' then "^M"
      else style.shown c
    style.copyFrom (written ++ (if numbered then number line else "") ++ text)
      ⟨line, false, false⟩ rest

/-- Copies bytes in a style. -/
def Style.copy (style : Style) (s : State) (cs : List Char) : String × State :=
  style.copyFrom "" s cs

end RecipeRunner.Shell.Cat
