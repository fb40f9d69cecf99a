import RecipeRunner.Decimal.Binary
import RecipeRunner.Shell.Escape
import RecipeRunner.Shell.Outside
/-!
# Transliteration

The program `tr`, which replaces, deletes and squeezes bytes.  Its strings are lists of elements:
single bytes, ranges, classes and repeated bytes.
-/

namespace RecipeRunner.Shell.Transliteration

/-- The options. -/
def known : Outside.Known where
  program := "tr"
  letters := "AcCdst".toList
  names := [("complement", 'c'), ("delete", 'd'), ("squeeze-repeats", 's'),
    ("truncate-set1", 't')]
  anywhere := false

/-- All bytes. -/
def allBytes : List Char :=
  (List.range 256).map Char.ofNat

/-- The bytes of a class. -/
def class? : String → Option (List Char)
  | "alnum" => some (allBytes.filter Char.isAlphanum)
  | "alpha" => some (allBytes.filter Char.isAlpha)
  | "blank" => some ['\t', ' ']
  | "cntrl" => some (allBytes.filter fun c => c.toNat < 32 || c.toNat = 127)
  | "digit" => some (allBytes.filter Char.isDigit)
  | "graph" => some (allBytes.filter fun c => 32 < c.toNat && c.toNat < 127)
  | "lower" => some (allBytes.filter Char.isLower)
  | "print" => some (allBytes.filter fun c => 32 ≤ c.toNat && c.toNat < 127)
  | "punct" => some (allBytes.filter fun c =>
      32 < c.toNat && c.toNat < 127 && !c.isAlphanum)
  | "space" => some (allBytes.filter fun c => (9 ≤ c.toNat && c.toNat ≤ 13) || c = ' ')
  | "upper" => some (allBytes.filter Char.isUpper)
  | "xdigit" => some (allBytes.filter fun c =>
      c.isDigit || ('A' ≤ c && c ≤ 'F') || ('a' ≤ c && c ≤ 'f'))
  | _ => none

/-- An element of a string. -/
inductive Element where
  | char (c : Char)
  | range (first last : Char)
  | named (name : String)
  /-- The class of the bytes that are like one. -/
  | like (c : Char)
  /-- A byte that is repeated, as often as the other string needs if there is no count. -/
  | repeated (c : Char) (count : Option Nat)
  deriving DecidableEq, Repr

namespace Element

/-- The bytes of an element. -/
def bytes : Element → List Char
  | char c | like c => [c]
  | range first last =>
    (List.range (last.toNat + 1 - first.toNat)).map fun n => Char.ofNat (first.toNat + n)
  | named name => (class? name).getD []
  | repeated c count => List.replicate (count.getD 0) c

/-- The number of bytes of an element. -/
def length : Element → Nat
  | repeated _ count => count.getD 0
  | e => e.bytes.length

/-- Whether an element is the class of letters of one case. -/
def isCase (e : Element) : Bool :=
  e = named "lower" || e = named "upper"

end Element

/-- A byte of a string, and whether it stood behind a backslash. -/
abbrev Letter := Char × Bool

/-- Whether the next byte is a certain one that is not escaped. -/
def isNext (c : Char) (cs : List Letter) : Bool :=
  cs.head? = some (c, false)

/-- A byte that may not show. -/
def shownChar (c : Char) : String :=
  if c = '\\' then "\\\\"
  else if 32 ≤ c.toNat && c.toNat < 127 then String.singleton c
  else octalEscape c.toNat

/-- Bytes that may not show. -/
def shown (cs : List Letter) : String :=
  String.join (cs.map fun (c, _) =>
    match c with
    | '\x07' => "\\a"
    | '\x08' => "\\b"
    | '\x0c' => "\\f"
    | '\n' => "\\n"
    | '\r' => "\\r"
    | '\t' => "\\t"
    | '\x0b' => "\\v"
    | c => shownChar c)

/-- Takes the backslashes out of a string; gives its bytes and warnings. -/
def unescape : (steps : Nat) → List Char → List Letter × List String
  | 0, _ | _, [] => ([], [])
  | _, ['\\'] =>
    ([('\\', false)], ["warning: an unescaped backslash at end of string is not portable"])
  | steps + 1, '\\' :: c :: rest =>
    if Escape.isOctal c then
      let digits := (c :: rest).take 3 |>.takeWhile Escape.isOctal
      let value := Unicode.natOfDigits 8 digits
      if value < 256 then
        let (more, warnings) := unescape steps ((c :: rest).drop digits.length)
        ((Char.ofNat value, true) :: more, warnings)
      else
        let text := String.ofList digits
        let front := (text.take 2).toString
        let (more, warnings) := unescape steps ((c :: rest).drop 2)
        ((Char.ofNat (Unicode.natOfDigits 8 (digits.take 2)), true) :: more,
          ("warning: the ambiguous octal escape \\" ++ text ++ " is being\n\tinterpreted as " ++
            "the 2-byte sequence \\0" ++ front ++ ", " ++ (text.drop 2).toString) :: warnings)
    else
      let (more, warnings) := unescape steps rest
      (((Escape.control? c).getD c, true) :: more, warnings)
  | steps + 1, c :: rest =>
    let (more, warnings) := unescape steps rest
    ((c, false) :: more, warnings)

/-- The bytes up to a mark and a closing bracket, and what follows them. -/
def upTo (mark : Char) : List Letter → Option (List Letter × List Letter)
  | a :: b :: rest =>
    if a = (mark, false) && b = (']', false) then some ([], rest)
    else (upTo mark (b :: rest)).map fun (inner, tail) => (a :: inner, tail)
  | _ => none

/-- Whether a star, digits and a closing bracket come next. -/
def isStarred (cs : List Letter) : Bool :=
  isNext '*' cs && isNext ']' (cs.tail.dropWhile fun (c, _) => c.isDigit)

/-- The number of bytes from which on a repetition is too long. -/
def repetitionLimit : Nat := Decimal.twoTo 62

/-- A repeated byte behind an opening bracket, and what follows it. -/
def repetition? (cs : List Letter) : Except String (Option (Element × List Letter)) :=
  match cs with
  | (c, _) :: star :: rest =>
    if star ≠ ('*', false) then .ok none
    else
      let inner := rest.takeWhile fun (c, escaped) => !escaped && c ≠ ']'
      let digits := inner.map Prod.fst
      let base := if digits.head? = some '0' then 8 else 10
      if !isNext ']' (rest.drop inner.length) then .ok none
      else
        let tail := rest.drop (inner.length + 1)
        let count := Unicode.natOfDigits base digits
        if digits.isEmpty then .ok (some (.repeated c none, tail))
        else if (digits.all fun d => d.isDigit && (base = 10 || Escape.isOctal d)) &&
            count < repetitionLimit then
          .ok (some (.repeated c (if count = 0 then none else some count), tail))
        else
          .error ("invalid repeat count " ++ Outside.quoted (shown inner) ++ " in [c*n] construct")
  | _ => .ok none

/-- The elements of bytes. -/
def elements : (steps : Nat) → List Letter → Except String (List Element)
  | 0, _ => .ok []
  | steps + 1, cs =>
    match cs with
    | (a, escaped) :: b :: c :: rest => do
      let behind := b :: c :: rest
      let plain : Except String (List Element) := do
        if b = ('-', false) then
          if c.1 < a then
            throw ("range-endpoints of '" ++ shownChar a ++ "-" ++ shownChar c.1 ++
              "' are in reverse collating sequence order")
          return .range a c.1 :: (← elements steps rest)
        else return .char a :: (← elements steps behind)
      let repeating : Except String (List Element) := do
        match ← repetition? behind with
        | some (e, tail) => return e :: (← elements steps tail)
        | none => plain
      if a ≠ '[' || escaped then plain
      else
        match upTo b.1 (c :: rest), b with
        | some (inner, tail), (':', false) =>
          let name := String.ofList (inner.map Prod.fst)
          if inner.isEmpty then throw "missing character class name '[::]'"
          else if (class? name).isSome then return .named name :: (← elements steps tail)
          else if isStarred (c :: rest) then repeating
          else throw ("invalid character class " ++ Outside.quoted (shown inner))
        | some (inner, tail), ('=', false) =>
          match inner with
          | [] => throw "missing equivalence class character '[==]'"
          | [(d, _)] => return .like d :: (← elements steps tail)
          | _ =>
            if isStarred (c :: rest) then repeating
            else throw (shown inner ++ ": equivalence class operand must be a single character")
        | _, _ => repeating
    | few => .ok (few.map fun (c, _) => .char c)

/-- The elements of a string, and warnings. -/
def ofArgument (s : String) : Except String (List Element) × List String :=
  let cs := s.toList
  let (letters, warnings) := unescape (cs.length + 1) cs
  (elements (letters.length + 1) letters, warnings)

/-- The bytes of elements. -/
def bytesOf (es : List Element) : List Char :=
  es.flatMap Element.bytes

/-- The number of bytes of elements. -/
def lengthOf (es : List Element) : Nat :=
  (es.map Element.length).foldl (· + ·) 0

/-- Leaves one of several equal bytes of a set that stand together. -/
def squeeze (set : List Char) : List Char → List Char
  | a :: b :: rest =>
    if a = b && set.contains a then squeeze set (b :: rest) else a :: squeeze set (b :: rest)
  | cs => cs

/-- A byte of a string, with the case class it is from and whether it starts an element. -/
structure Position where
  char : Char
  /-- The class, if it is one of a case. -/
  case? : Option Element
  startsElement : Bool

/-- The bytes of a string one by one. -/
def positions (es : List Element) : List Position :=
  es.flatMap fun e => e.bytes.zipIdx.map fun (c, n) =>
    ⟨c, if e.isCase then some e else none, n = 0⟩

/-- What comes behind the present element. -/
def behindElement (ps : List Position) : List Position :=
  ps.tail.dropWhile fun p => !p.startsElement

/-- Checks that the case classes of the second string stand where the first one has some; gives
the lengths of both strings in which case classes count once. -/
def align : (steps : Nat) → (length1 length2 : Nat) → List Position → List Position →
    Except String (Nat × Nat)
  | 0, n1, n2, _, _ => .ok (n1, n2)
  | steps + 1, n1, n2, ps1, ps2 =>
    match ps2.head? with
    | some p2 =>
      let first := ps1.head?
      let isCase1 := first.any fun p => p.startsElement && p.case?.isSome
      if p2.startsElement && p2.case?.isSome && !isCase1 then
        .error "misaligned [:upper:] and/or [:lower:] construct"
      else if p2.case?.isSome then
        if ps1.isEmpty then .ok (n1, n2)
        else align steps (n1 - 25) (n2 - 25) (behindElement ps1) (behindElement ps2)
      else if ps1.isEmpty then .ok (n1, n2)
      else align steps n1 n2 ps1.tail ps2.tail
    | none => .ok (n1, n2)

/-- What each byte of the first string becomes by the second one; of equal bytes the last one
counts. -/
def pairs : (steps : Nat) → List Position → List Position → List (Char × Char)
  | 0, _, _ => []
  | steps + 1, p1 :: ps1, p2 :: ps2 =>
    match p1.case?, p2.case? with
    | some (.named "lower"), some (.named "upper") =>
      pairs steps (behindElement (p1 :: ps1)) (behindElement (p2 :: ps2)) ++
        (allBytes.filter Char.isLower).map fun c => (c, c.toUpper)
    | some (.named "upper"), some (.named "lower") =>
      pairs steps (behindElement (p1 :: ps1)) (behindElement (p2 :: ps2)) ++
        (allBytes.filter Char.isUpper).map fun c => (c, c.toLower)
    | _, _ => pairs steps ps1 ps2 ++ [(p1.char, p2.char)]
  | _, _, _ => []

/-- What is done with the strings. -/
structure Task where
  complements : Bool
  deletes : Bool
  squeezes : Bool
  truncates : Bool
  first : List Element
  second : Option (List Element)

/-- Fits the second string to the first one, whose length is given. -/
def fitted (t : Task) (length1 : Nat) (second : List Element) : Except String (List Element) := do
  let openCount := (second.filter fun e => e matches .repeated _ none).length
  if 1 < openCount then throw "only one [c*] repeat construct may appear in string2"
  let missing := length1 - lengthOf second
  let second := second.map fun e =>
    match e with
    | .repeated c none => if missing = 0 then e else .repeated c (some missing)
    | e => e
  if t.deletes then
    if 0 < openCount then throw "the [c*] construct may appear in string2 only when translating"
    return second
  else
    if second.any (· matches .like _) then
      throw "[=c=] expressions may not appear in string2 when translating"
    if second.any fun e => (e matches .named _) && !e.isCase then
      throw ("when translating, the only character classes that may appear in\n" ++
        "string2 are 'upper' and 'lower'")
    let hasClass := second.any (· matches .named _)
    let length2 := lengthOf second
    let aligned := align (length1 + length2 + 1) length1 length2 (positions t.first)
      (positions second)
    let (n1, n2) ← if t.complements || !hasClass then pure (length1, length2) else aligned
    let extended ← if n2 < n1 && !t.truncates then
        if n2 = 0 then throw "when not truncating set1, string2 must be non-empty"
        else
          match second.getLast? with
          | some (.char c) | some (.repeated c _) =>
            pure (second ++ [.repeated c (some (n1 - n2))])
          | some (.range _ c) => pure (second ++ [.repeated c (some (n1 - n2))])
          | _ =>
            throw ("when translating with string1 longer than string2,\n" ++
              "the latter string must not end with a character class")
      else pure second
    let bytes := bytesOf extended
    let isUniform := bytes.all fun c => some c = bytes.head?
    let length2 := if n2 < n1 && !t.truncates then n1 else n2
    if t.complements && t.first.any (· matches .named _) && !(length2 = n1 && isUniform) then
      throw ("when translating with complemented character classes,\n" ++
        "string2 must map all characters in the domain to one")
    return extended

/-- What is done with the bytes that are read. -/
structure Filter where
  /-- Whether a byte is left out. -/
  deletes : Char → Bool
  /-- What a byte becomes. -/
  maps : Char → Char
  /-- The bytes that are squeezed. -/
  squeezed : List Char

/-- Finds out what is done with the bytes that are read. -/
def Task.filter (t : Task) : Except String Filter := do
  let set := bytesOf t.first
  let distinct := allBytes.filter set.contains
  if t.first.any (· matches .repeated _ none) then
    throw "the [c*] repeat construct may not appear in string1"
  let length1 := if t.complements then 256 - distinct.length else lengthOf t.first
  let second ← match t.second with
    | some second => some <$> fitted t length1 second
    | none => pure none
  let isIn (c : Char) : Bool := set.contains c != t.complements
  match second with
  | none =>
    if t.deletes then return ⟨isIn, id, []⟩ else return ⟨fun _ => false, id, allBytes.filter isIn⟩
  | some second =>
    let bytes := bytesOf second
    if t.deletes then return ⟨isIn, id, bytes⟩
    else
      let table := if t.complements then (allBytes.filter isIn).zip bytes
        else pairs (set.length + bytes.length + 1) (positions t.first) (positions second)
      return ⟨fun _ => false, fun c => (table.lookup c).getD c, if t.squeezes then bytes else []⟩

/-- Carries out a filter on all bytes. -/
def Filter.run (f : Filter) (cs : List Char) : List Char :=
  let kept := (cs.filter fun c => !f.deletes c).map f.maps
  if f.squeezed.isEmpty then kept else squeeze f.squeezed kept

/-- Reads the arguments: what is written to the error stream, and the filter if there is no
fault. -/
def ofArguments (arguments : List String) : String × Option Filter :=
  let say (text : String) : String := "tr: " ++ text ++ "\n"
  let hint := Outside.hint "tr" ++ "\n"
  match known.parse arguments with
  | .error text => (text, none)
  | .ok parsed =>
    let has (c : Char) : Bool := parsed.options.contains c
    let (deletes, squeezes) := (has 'd', has 's')
    let count := parsed.operands.length
    let least := if deletes == squeezes then 2 else 1
    let most := if deletes && !squeezes then 1 else 2
    match parsed.operands with
    | [] => (say "missing operand" ++ hint, none)
    | s1 :: more =>
      if count < least then
        (say ("missing operand after " ++ Outside.quoted (parsed.operands.getLastD "")) ++
          (if squeezes then
              "Two strings must be given when both deleting and squeezing repeats.\n"
            else "Two strings must be given when translating.\n") ++ hint, none)
      else if most < count then
        (say ("extra operand " ++ Outside.quoted ((parsed.operands[most]?).getD "")) ++
          (if count = 2 then
              "Only one string may be given when deleting without squeezing repeats.\n"
            else "") ++ hint, none)
      else
        let (first, warnings1) := ofArgument s1
        let before := String.join (warnings1.map say)
        match first with
        | .error text => (before ++ say text, none)
        | .ok first =>
          let (second, warnings2) := match more.head? with
            | some s2 =>
              let (second, warnings) := ofArgument s2
              (second.map some, warnings)
            | none => (.ok none, [])
          let before := before ++ String.join (warnings2.map say)
          let filter := second >>= fun second =>
            Task.filter { complements := has 'c' || has 'C', deletes, squeezes,
                          truncates := has 't', first, second }
          match filter with
          | .error text => (before ++ say text, none)
          | .ok filter => (before, some filter)

end RecipeRunner.Shell.Transliteration
