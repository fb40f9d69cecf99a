import RecipeRunner.Template.Token
/-!
# Template sources

A source is texts with actions between them.  An action goes from an opening delimiter to the
first closing one behind it.  A dash behind the opening delimiter or before the closing one,
set off by a blank, trims the neighbouring text.  Cutting a source up loses no character.
-/

namespace RecipeRunner.Template

open Text (trim trimStart trimEnd)

/-- What opens an action. -/
def opening : List Char := ['\x7b', '\x7b']

/-- What closes an action. -/
def closing : List Char := ['\x7d', '\x7d']

/-- The blanks that set off a dash. -/
def isDashBlank (c : Char) : Bool :=
  c = ' ' || c = '\t' || c = '\n'

/-- Whether a text starts with a dash that trims the text before it. -/
def startsWithDash : List Char → Bool
  | '-' :: c :: _ => isDashBlank c
  | _ => false

/-- Whether a text ends with a dash that trims the text after it. -/
def endsWithDash (body : List Char) : Bool :=
  startsWithDash body.reverse

/-- An action as written: what stands between its delimiters, less a dash at the start. -/
structure RawAction where
  trimsBefore : Bool
  body : List Char
  deriving DecidableEq, Repr

/-- A source cut up at its delimiters. -/
inductive Source where
  /-- Text in which no action opens. -/
  | text (last : List Char)
  | action (before : List Char) (a : RawAction) (rest : Source)
  /-- An action that opens behind `before` and never closes. -/
  | unclosed (before inside : List Char)
  deriving DecidableEq, Repr

namespace Source

/-- An action that starts with a dash, and the rest of its text behind the dash. -/
def splitDash (inside : List Char) : Bool × List Char :=
  if startsWithDash inside then (true, inside.drop 1) else (false, inside)

theorem length_splitDash (inside : List Char) :
    (splitDash inside).2.length ≤ inside.length := by
  simp only [splitDash]
  split <;> simp

/-- Cuts a source up. -/
def ofChars (cs : List Char) : Source :=
  match h : Text.cutAt? opening cs with
  | none => .text cs
  | some (before, inside) =>
    match h' : Text.cutAt? closing (splitDash inside).2 with
    | none => .unclosed before inside
    | some (body, rest) =>
      have : rest.length < cs.length := by
        have h1 := congrArg List.length (Text.eq_append_of_cutAt? h)
        have h2 := congrArg List.length (Text.eq_append_of_cutAt? h')
        have h3 := length_splitDash inside
        simp only [List.length_append, opening, closing, List.length_cons, List.length_nil]
          at h1 h2
        omega
      .action before ⟨(splitDash inside).1, body⟩ (ofChars rest)
termination_by cs.length

/-- The text of a source. -/
def toChars : Source → List Char
  | .text last => last
  | .action before a rest =>
    before ++ opening ++ (if a.trimsBefore then ['-'] else []) ++ a.body ++ closing ++ rest.toChars
  | .unclosed before inside => before ++ opening ++ inside

end Source

/-- A source as the parser sees it: texts after trimming and actions as tokens. -/
inductive Item where
  | text (t : String)
  | action (tokens : List Token)
  deriving BEq, Repr

namespace Item

/-- The item of a text with its ends trimmed as the neighbouring actions ask; none if nothing
is left. -/
def ofText (trimsStart trimsEnd : Bool) (cs : List Char) : List Item :=
  let cs := if trimsStart then trimStart cs else cs
  let cs := if trimsEnd then trimEnd cs else cs
  if cs.isEmpty then [] else [.text (String.ofList cs)]

/-- The inside of an action without its dashes. -/
def inside (body : List Char) : List Char :=
  trim (if endsWithDash body then body.dropLast else body)

/-- The item of an action; none if it is a comment. -/
def ofBody (body : List Char) : Except SyntaxFault (List Item) :=
  let content := inside body
  if Text.startsWith ['/', '*'] content then
    if Text.endsWith ['*', '/'] content then .ok [] else .error .unclosedComment
  else if content.isEmpty then .error .missingValue
  else (tokenize content).map fun tokens => [.action tokens]

/-- The number of bytes of a text. -/
def byteLength (cs : List Char) : Nat :=
  (String.ofList cs).utf8ByteSize

/-- The items of a source that starts `offset` bytes behind the start of the template, where
`trims` tells whether the action before it trims what follows. -/
def ofSource (offset : Nat) (trims : Bool) : Source → Except SyntaxFault (List Item)
  | .text last => .ok (ofText trims false last)
  | .unclosed before _ => .error (.unclosedAction (offset + byteLength before))
  | .action before a rest => do
    let item ← ofBody a.body
    let dash := if a.trimsBefore then 1 else 0
    let items ← ofSource (offset + byteLength before + 4 + dash + byteLength a.body)
      (endsWithDash a.body) rest
    return ofText trims a.trimsBefore before ++ item ++ items

end Item

/-- The items of a template. -/
def items (template : String) : Except SyntaxFault (List Item) :=
  Item.ofSource 0 false (Source.ofChars template.toList)

end RecipeRunner.Template
