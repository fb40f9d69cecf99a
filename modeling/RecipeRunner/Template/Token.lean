import RecipeRunner.Error
import RecipeRunner.Decimal.Reading
/-!
# Tokens of actions

What stands between the delimiters of a template is a sequence of tokens.  Blanks separate
tokens and mean nothing else.  `Token.next` reads one token from the start of a text that is not
blank there and returns the rest, which is shorter; `tokenize` repeats it.
-/

namespace RecipeRunner.Template

open Text (isBlank)

/-- The tokens of an action. -/
inductive Token where
  | field (name : String)
  | dot
  | word (name : String)
  | str (s : String)
  | int (n : Int)
  | float (x : Float)
  | bool (b : Bool)
  | pipe
  | openGroup
  | closeGroup
  deriving BEq, Repr

namespace Token

/-- Characters of the name of a field. -/
def isFieldChar (c : Char) : Bool :=
  Unicode.isAlphanumeric c || c = '_' || c = '-' || c = '.'

/-- Characters with which a word starts. -/
def isWordStart (c : Char) : Bool :=
  Unicode.isAlphabetic c || c = '_'

/-- Characters of a word. -/
def isWordPart (c : Char) : Bool :=
  Unicode.isAlphanumeric c || c = '_'

/-- The character that a backslash and `c` stand for. -/
def unescape (c : Char) : Char :=
  if c = 'n' then '\n' else if c = 't' then '\t' else if c = 'r' then '\r' else c

/-- Reads a quoted text behind its opening quote, up to and with the closing one. -/
def readQuoted? : List Char → Option (List Char × List Char)
  | [] => none
  | '"' :: rest => some ([], rest)
  | ['\\'] => none
  | '\\' :: c :: rest => (readQuoted? rest).map fun (s, tail) => (unescape c :: s, tail)
  | c :: rest => (readQuoted? rest).map fun (s, tail) => (c :: s, tail)

/-- The digits of a number behind its first character: digits, then possibly one point
between digits with more digits.  Returns the text, whether it has a point, and the rest. -/
def readNumeral (cs : List Char) : List Char × Bool × List Char :=
  let whole := cs.takeWhile Decimal.isDigit
  match cs.dropWhile Decimal.isDigit with
  | '.' :: d :: rest =>
    if Decimal.isDigit d then
      (whole ++ '.' :: d :: rest.takeWhile Decimal.isDigit, true, rest.dropWhile Decimal.isDigit)
    else (whole, false, '.' :: d :: rest)
  | tail => (whole, false, tail)

/-- The token of a word. -/
def ofWord (name : String) : Token :=
  if name = "true" then bool true else if name = "false" then bool false else word name

/-- The token of a numeral, if the number can be held. -/
def ofNumeral? (text : List Char) (hasPoint : Bool) : Option Token :=
  if hasPoint then (Decimal.readFloat? text).map float
  else (Decimal.readBounded? text).map int

/-- Whether a text goes on with a digit. -/
def startsWithDigit (cs : List Char) : Bool :=
  cs.head?.any Decimal.isDigit

/-- Reads one token that starts with `c` and goes on in `rest`. -/
def next (c : Char) (rest : List Char) : Except SyntaxFault (Token × List Char) :=
  if c = '|' then .ok (pipe, rest)
  else if c = '(' then .ok (openGroup, rest)
  else if c = ')' then .ok (closeGroup, rest)
  else if c = '"' then
    match readQuoted? rest with
    | some (s, tail) => .ok (str (String.ofList s), tail)
    | none => .error .unterminatedString
  else if c = '\x60' then
    match Text.cutAt? ['\x60'] rest with
    | some (s, tail) => .ok (str (String.ofList s), tail)
    | none => .error .unterminatedRawString
  else if c = '.' || c = '$' then
    let name := rest.takeWhile isFieldChar
    if !name.isEmpty then .ok (field (String.ofList name), rest.dropWhile isFieldChar)
    else if c = '$' then .error .bareSigil
    else .ok (dot, rest)
  else if Decimal.isDigit c || (c = '-' && startsWithDigit rest) then
    let (digits, hasPoint, tail) := readNumeral rest
    match ofNumeral? (c :: digits) hasPoint with
    | some token => .ok (token, tail)
    | none => .error (.badNumber (String.ofList (c :: digits)))
  else if isWordStart c then
    .ok (ofWord (String.ofList (c :: rest.takeWhile isWordPart)), rest.dropWhile isWordPart)
  else .error (.unexpectedChar c)

theorem length_readQuoted? {cs s tail : List Char} (h : readQuoted? cs = some (s, tail)) :
    tail.length ≤ cs.length := by
  fun_induction readQuoted? cs generalizing s tail with
  | case1 => simp at h
  | case2 rest => simp_all
  | case3 => simp at h
  | case4 c rest ih =>
    obtain ⟨⟨s', tail'⟩, hrest, heq⟩ := Option.map_eq_some_iff.1 h
    obtain ⟨_, rfl⟩ := Prod.mk.inj heq
    have := ih hrest
    simp only [List.length_cons]; omega
  | case5 c rest _ _ _ ih =>
    obtain ⟨⟨s', tail'⟩, hrest, heq⟩ := Option.map_eq_some_iff.1 h
    obtain ⟨_, rfl⟩ := Prod.mk.inj heq
    have := ih hrest
    simp only [List.length_cons]; omega

theorem length_readNumeral (cs : List Char) : (readNumeral cs).2.2.length ≤ cs.length := by
  have hdrop := (List.dropWhile_sublist Decimal.isDigit (l := cs)).length_le
  simp only [readNumeral]
  split
  · next d rest heq =>
    rw [heq] at hdrop
    have := (List.dropWhile_sublist Decimal.isDigit (l := rest)).length_le
    simp only [List.length_cons] at hdrop
    split
    · simp only; omega
    · simp only [List.length_cons]; omega
  · exact hdrop

/-- A token takes at least its first character. -/
theorem length_next {c : Char} {rest tail : List Char} {token : Token}
    (h : next c rest = .ok (token, tail)) : tail.length ≤ rest.length := by
  simp only [next] at h
  repeat' split at h
  all_goals first
    | contradiction
    | (simp only [Except.ok.injEq, Prod.mk.injEq] at h; obtain ⟨_, rfl⟩ := h)
  all_goals first
    | exact Nat.le_refl _
    | exact (List.dropWhile_sublist _).length_le
    | exact length_readQuoted? ‹_›
    | (have hlen := congrArg List.length (Text.eq_append_of_cutAt? ‹_›)
       simp only [List.length_append] at hlen
       omega)
    | (have hlen := length_readNumeral rest
       simp_all)

end Token

/-- The tokens of the inside of an action. -/
def tokenize (cs : List Char) : Except SyntaxFault (List Token) :=
  match cs with
  | [] => .ok []
  | c :: rest =>
    if isBlank c then tokenize rest
    else
      match h : Token.next c rest with
      | .error fault => .error fault
      | .ok (token, tail) =>
        have := Token.length_next h
        (tokenize tail).map (token :: ·)
termination_by cs.length

end RecipeRunner.Template
