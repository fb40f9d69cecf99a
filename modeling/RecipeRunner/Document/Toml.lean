import RecipeRunner.Decimal.Reading
import RecipeRunner.Document.Basic
import RecipeRunner.Text.Basic
import RecipeRunner.Unicode.RangeTable
/-!
# Documents in TOML

Reading tables of keys and values, one statement a line.  `Document.ofToml` gives the mapping
that a text holds.  A key is defined once: tables that are only passed through stay open, and
all others are complete where they are defined.
-/

namespace RecipeRunner.Toml

open Document (Decoded)

/-- Whether a character is a space or a tab. -/
def isGap (c : Char) : Bool :=
  c = ' ' || c = '\t'

/-- The text behind spaces and tabs. -/
def skipGap (cs : List Char) : List Char :=
  cs.dropWhile isGap

/-- Characters that may stand in comments and in quoted texts. -/
def isText (c : Char) : Bool :=
  c = '\t' || (32 ≤ c.toNat && c.toNat ≠ 127)

/-- What follows the end of a line. -/
def afterNewline? : List Char → Option (List Char)
  | '\n' :: rest => some rest
  | '\r' :: '\n' :: rest => some rest
  | _ => none

/-- The text behind a comment, if one starts here. -/
def skipComment (cs : List Char) : List Char :=
  match cs with
  | '#' :: rest => rest.dropWhile isText
  | _ => cs

/-- The text behind the rest of a line, which may hold a comment only. -/
def endLine (cs : List Char) : Decoded (List Char) :=
  match skipComment (skipGap cs) with
  | [] => .ok []
  | rest =>
    match afterNewline? rest with
    | some rest => .ok rest
    | none => .error "the end of a line is expected"

/-- The text behind blanks, comments and ends of lines. -/
def skipBlank : (fuel : Nat) → List Char → List Char
  | 0, cs => cs
  | fuel + 1, cs =>
    let rest := skipComment (skipGap cs)
    match afterNewline? rest with
    | some rest => skipBlank fuel rest
    | none => rest

/-! ## Texts -/

/-- The character that an escape of one letter stands for. -/
def escape? (c : Char) : Option Char :=
  match c with
  | 'b' => some '\x08'
  | 't' => some '\t'
  | 'n' => some '\n'
  | 'f' => some '\x0c'
  | 'r' => some '\r'
  | 'e' => some '\x1b'
  | '"' | '\\' => some c
  | _ => none

/-- The character of a code in a number of digits. -/
def readCode (length : Nat) (cs : List Char) : Decoded (Char × List Char) :=
  let digits := cs.take length
  let code := Unicode.natOfDigits 16 digits
  if digits.length = length && digits.all (fun d => (Unicode.digitValue? d).any (· < 16)) &&
      code.isValidChar then
    .ok (Char.ofNat code, cs.drop length)
  else .error "an escape is no character"

/-- Reads an escape behind its backslash. -/
def readEscape (cs : List Char) : Decoded (Char × List Char) :=
  match cs with
  | 'x' :: rest => readCode 2 rest
  | 'u' :: rest => readCode 4 rest
  | 'U' :: rest => readCode 8 rest
  | c :: rest =>
    match escape? c with
    | some plain => .ok (plain, rest)
    | none => .error "an escape is unknown"
  | [] => .error "an escape is not complete"

/-- Reads a text up to its closing quote; escapes stand in texts with double quotes only. -/
def readText (quote : Char) : (fuel : Nat) → (acc : List Char) → List Char →
    Decoded (List Char × List Char)
  | 0, _, _ => .error "a text is not closed"
  | fuel + 1, acc, cs =>
    match cs with
    | [] => .error "a text is not closed"
    | c :: rest =>
      if c = quote then .ok (acc.reverse, rest)
      else if c = '\\' && quote = '"' then do
        let (plain, rest) ← readEscape rest
        readText quote fuel (plain :: acc) rest
      else if isText c then readText quote fuel (c :: acc) rest
      else .error "a control character stands in a text"

/-- The text behind blanks and ends of lines. -/
def skipLines : (fuel : Nat) → List Char → List Char
  | 0, cs => cs
  | fuel + 1, cs =>
    match afterNewline? (skipGap cs) with
    | some rest => skipLines fuel rest
    | none => skipGap cs

/-- The text behind an escaped end of a line and the blanks that follow it. -/
def afterFold? (cs : List Char) : Option (List Char) :=
  (afterNewline? (skipGap cs)).map fun rest => skipLines (rest.length + 1) rest

/-- Reads a text of several lines up to its three closing quotes, in front of which up to two
more may stand. -/
def readLongText (quote : Char) : (fuel : Nat) → (acc : List Char) → List Char →
    Decoded (List Char × List Char)
  | 0, _, _ => .error "a text is not closed"
  | fuel + 1, acc, cs =>
    match cs with
    | [] => .error "a text is not closed"
    | c :: rest =>
      let quotes := min 5 (cs.takeWhile (· = quote)).length
      if 3 ≤ quotes then
        .ok (acc.reverse ++ List.replicate (quotes - 3) quote, cs.drop quotes)
      else if c = '\\' && quote = '"' then
        match afterFold? rest with
        | some rest => readLongText quote fuel acc rest
        | none => do
          let (plain, rest) ← readEscape rest
          readLongText quote fuel (plain :: acc) rest
      else if isText c then readLongText quote fuel (c :: acc) rest
      else
        match cs with
        | '\n' :: rest => readLongText quote fuel ('\n' :: acc) rest
        | '\r' :: '\n' :: rest => readLongText quote fuel ('\n' :: '\r' :: acc) rest
        | _ => .error "a control character stands in a text"

/-- Reads a text that starts with a quote. -/
def readQuoted (quote : Char) (cs : List Char) : Decoded (List Char × List Char) :=
  match Text.afterStart? [quote, quote, quote] cs with
  | some rest => readLongText quote (rest.length + 1) [] ((afterNewline? rest).getD rest)
  | none => readText quote (cs.length + 1) [] (cs.drop 1)

/-! ## Keys -/

/-- Characters of keys without quotes. -/
def isKeyChar (c : Char) : Bool :=
  c.isAlphanum || c = '_' || c = '-'

/-- Reads a key without points. -/
def readKeyPart (cs : List Char) : Decoded (String × List Char) :=
  match cs with
  | c :: rest =>
    if c = '"' || c = '\'' then
      (readText c (cs.length + 1) [] rest).map fun (s, rest) => (String.ofList s, rest)
    else
      let name := cs.takeWhile isKeyChar
      if name.isEmpty then .error "a key is expected"
      else .ok (String.ofList name, cs.dropWhile isKeyChar)
  | [] => .error "a key is expected"

/-- Reads the parts of a key, which are set apart by points and of which there may be `limit`. -/
def readKeyParts : (limit : Nat) → List Char → Decoded (List String × List Char)
  | 0, _ => .error "a key has too many parts"
  | limit + 1, cs => do
    let (part, rest) ← readKeyPart (skipGap cs)
    match skipGap rest with
    | '.' :: rest =>
      let (parts, rest) ← readKeyParts limit rest
      return (part :: parts, rest)
    | rest => return ([part], rest)

/-- How deeply arrays and inline tables may be nested, and how many parts a key may have. -/
def maxDepth : Nat := 80

/-- Reads a key. -/
def readKey (cs : List Char) : Decoded (List String × List Char) :=
  readKeyParts maxDepth cs

/-! ## Numbers and times -/

/-- Characters of numbers, times and words. -/
def isWordChar (c : Char) : Bool :=
  c.isAlphanum || c = '_' || c = '+' || c = '-' || c = '.' || c = ':'

/-- The digits of a text in which low lines may stand between digits. -/
def digits? (base : Nat) (cs : List Char) : Option (List Char) :=
  let isDigit (c : Char) := (Unicode.digitValue? c).any (· < base)
  let groups := Text.pieces ['_'] cs
  if groups.all (fun group => !group.isEmpty && group.all isDigit) then some groups.flatten
  else none

/-- Decimal digits without needless zeros. -/
def wholeDigits? (cs : List Char) : Option (List Char) :=
  (digits? 10 cs).filter fun ds => ds.length = 1 || ds.head? ≠ some '0'

/-- The integer of a word. -/
def int? (word : List Char) : Option Int :=
  let natural? : Option Nat := match word with
    | '0' :: 'x' :: rest => (digits? 16 rest).map (Unicode.natOfDigits 16)
    | '0' :: 'o' :: rest => (digits? 8 rest).map (Unicode.natOfDigits 8)
    | '0' :: 'b' :: rest => (digits? 2 rest).map (Unicode.natOfDigits 2)
    | _ => none
  match natural? with
  | some n => some n
  | none =>
    let (negative, magnitude) := Decimal.readSign word
    (wholeDigits? magnitude).map fun ds =>
      let n : Int := Unicode.natOfDigits 10 ds
      if negative then -n else n

/-- The float of a word. -/
def float? (word : List Char) : Option Float :=
  let (negative, magnitude) := Decimal.readSign word
  let signed (x : Float) : Float := if negative then -x else x
  if magnitude = ['i', 'n', 'f'] then some (signed (1.0 / 0.0))
  else if magnitude = ['n', 'a', 'n'] then some (signed (0.0 / 0.0))
  else
    let isMark (c : Char) : Bool := c = 'e' || c = 'E'
    let mantissa := magnitude.takeWhile fun c => !isMark c
    let exponent := (magnitude.dropWhile fun c => !isMark c).drop 1
    let whole := mantissa.takeWhile (· ≠ '.')
    let fraction := (mantissa.dropWhile (· ≠ '.')).drop 1
    let hasFraction := mantissa.contains '.'
    let hasExponent := magnitude.any isMark
    let isFloat := (hasFraction || hasExponent) && (wholeDigits? whole).isSome &&
      (!hasFraction || (digits? 10 fraction).isSome) &&
      (!hasExponent || (digits? 10 (Decimal.readSign exponent).2).isSome)
    if isFloat then Decimal.readFloat? (word.filter (· ≠ '_')) else none

/-- A number of exactly so many digits. -/
def fixed? (length : Nat) (cs : List Char) : Option Nat :=
  if cs.length = length && cs.all Decimal.isDigit then some (Unicode.natOfDigits 10 cs) else none

/-- The number of days of a month. -/
def daysIn (year month : Nat) : Nat :=
  if month = 2 then
    if (year % 4 = 0 && year % 100 ≠ 0) || year % 400 = 0 then 29 else 28
  else if month = 4 || month = 6 || month = 9 || month = 11 then 30 else 31

/-- Whether a text is a date. -/
def isDate (cs : List Char) : Bool :=
  match Text.pieces ['-'] cs with
  | [year, month, day] =>
    match fixed? 4 year, fixed? 2 month, fixed? 2 day with
    | some y, some m, some d => 1 ≤ m && m ≤ 12 && 1 ≤ d && d ≤ daysIn y m
    | _, _, _ => false
  | _ => false

/-- Whether a text is a time of day; seconds and their fraction may be left out. -/
def isTime (cs : List Char) : Bool :=
  let below (limit : Nat) (part : List Char) : Bool := (fixed? 2 part).any (· < limit)
  match Text.pieces [':'] cs with
  | [hour, minute] => below 24 hour && below 60 minute
  | [hour, minute, second] =>
    let whole := second.takeWhile (· ≠ '.')
    let fraction := (second.dropWhile (· ≠ '.')).drop 1
    below 24 hour && below 60 minute && below 61 whole &&
      (!second.contains '.' || (!fraction.isEmpty && fraction.all Decimal.isDigit))
  | _ => false

/-- A time of day without its offset, if the offset is one. -/
def withoutOffset? (cs : List Char) : Option (List Char) :=
  let isSign (c : Char) : Bool := c = '+' || c = '-'
  if cs.getLast?.any fun c => c = 'Z' || c = 'z' then some cs.dropLast
  else if cs.any isSign then
    let offset := (cs.dropWhile fun c => !isSign c).drop 1
    if isTime offset && offset.length = 5 then some (cs.takeWhile fun c => !isSign c) else none
  else some cs

/-- Whether a word is a date, a time or both. -/
def isMoment (word : List Char) : Bool :=
  let date := word.take 10
  match word.drop 10 with
  | [] => isDate word || isTime word
  | mark :: time =>
    if isDate date then
      (mark = 'T' || mark = 't' || mark = ' ') && (withoutOffset? time).any isTime
    else isTime word

/-- A date or a time as a document: no field of a record fits it. -/
def ofMoment (word : List Char) : Document :=
  .map [(.str "", .str (String.ofList word))]

/-- Reads a number, a time or a truth value. -/
def readWord (cs : List Char) : Decoded (Document × List Char) :=
  let short := cs.takeWhile isWordChar
  let rest := cs.dropWhile isWordChar
  let word := match rest with
    | ' ' :: c :: _ =>
      if isDate short && Decimal.isDigit c then short ++ ' ' :: (rest.drop 1).takeWhile isWordChar
      else short
    | _ => short
  let rest := cs.drop word.length
  if word = "true".toList then .ok (.bool true, rest)
  else if word = "false".toList then .ok (.bool false, rest)
  else
    match int? word, float? word with
    | some n, _ =>
      if -(Decimal.twoTo 127) ≤ n && n < Decimal.twoTo 128 then .ok (.int n, rest)
      else .error "an integer is too large"
    | none, some x =>
      if x.isInf && !word.contains 'n' then .error "a float is too large" else .ok (.float x, rest)
    | none, none =>
      if isMoment word then .ok (ofMoment word, rest) else .error "a value is expected"

/-! ## Tables -/

/-- How a table came up. -/
inductive Form where
  /-- On the way to another one. -/
  | passed
  /-- By points in a key. -/
  | dotted
  /-- By a header. -/
  | headed
  deriving DecidableEq

/-- What a key stands for while a text is being read. -/
inductive Entry where
  | value (d : Document)
  | table (form : Form) (entries : List (String × Entry))
  /-- Tables under one header: those before the last one, and the entries of the last one. -/
  | tables (earlier : List Document) (last : List (String × Entry))

/-- The entries of a table. -/
abbrev Entries := List (String × Entry)

namespace Entry

mutual

/-- What a key stands for. -/
def toDocument : Entry → Document
  | .value d => d
  | .table _ entries => .map (toFields entries)
  | .tables earlier last => .seq (earlier ++ [.map (toFields last)])

/-- The fields of a table. -/
def toFields : List (String × Entry) → List (Document × Document)
  | [] => []
  | (key, entry) :: rest => (.str key, entry.toDocument) :: toFields rest

end

end Entry

namespace Entries

/-- Sets what a key stands for. -/
def put (key : String) (entry : Entry) : Entries → Entries
  | [] => [(key, entry)]
  | (k, e) :: rest => if k = key then (k, entry) :: rest else (k, e) :: put key entry rest

/-- Changes the table that a path leads to.  A path of a header goes through all tables, one of
a key only through those that no header defined. -/
def change (ofKey : Bool) (f : Entries → Decoded Entries) :
    List String → Entries → Decoded Entries
  | [], entries => f entries
  | key :: path, entries => do
    match entries.lookup key with
    | none =>
      let inner ← change ofKey f path []
      return put key (.table (if ofKey then .dotted else .passed) inner) entries
    | some (.table form inner) =>
      if ofKey && form = .headed then throw "a table is defined twice"
      return put key (.table form (← change ofKey f path inner)) entries
    | some (.tables earlier last) =>
      if ofKey then throw "a table is defined twice"
      return put key (.tables earlier (← change ofKey f path last)) entries
    | some (.value _) => throw "a key is defined twice"

/-- Defines a key. -/
def define (path : List String) (d : Document) : Entries → Decoded Entries :=
  change true (fun entries =>
    match path.getLast? with
    | some key =>
      if (entries.lookup key).isSome then .error "a key is defined twice"
      else .ok (entries ++ [(key, .value d)])
    | none => .ok entries) path.dropLast

/-- Defines a table by its header. -/
def openTable (path : List String) : Entries → Decoded Entries :=
  change false (fun entries =>
    match path.getLast? with
    | some key =>
      match entries.lookup key with
      | none => .ok (entries ++ [(key, .table .headed [])])
      | some (.table .passed inner) => .ok (put key (.table .headed inner) entries)
      | some _ => .error "a table is defined twice"
    | none => .ok entries) path.dropLast

/-- Adds a table to those of a header. -/
def addTable (path : List String) : Entries → Decoded Entries :=
  change false (fun entries =>
    match path.getLast? with
    | some key =>
      match entries.lookup key with
      | none => .ok (entries ++ [(key, .tables [] [])])
      | some (.tables earlier last) =>
        .ok (put key (.tables (earlier ++ [.map (Entry.toFields last)]) []) entries)
      | some _ => .error "a table is defined twice"
    | none => .ok entries) path.dropLast

/-- Changes the table of a header, the last one if there are several. -/
def within (path : List String) (f : Entries → Decoded Entries) : Entries → Decoded Entries :=
  change false f path

end Entries

/-! ## Values and statements -/

mutual

/-- Reads a value, in which collections may be nested `depth` levels deep. -/
def readValue : (fuel depth : Nat) → List Char → Decoded (Document × List Char)
  | 0, _, _ => .error "a value is expected"
  | fuel + 1, depth, cs =>
    match cs, depth with
    | '"' :: _, _ => (readQuoted '"' cs).map fun (s, rest) => (.str (String.ofList s), rest)
    | '\'' :: _, _ => (readQuoted '\'' cs).map fun (s, rest) => (.str (String.ofList s), rest)
    | '[' :: _, 0 | '\x7b' :: _, 0 => .error "values are nested too deeply"
    | '[' :: rest, depth + 1 =>
      (readItems fuel depth rest).map fun (items, rest) => (.seq items, rest)
    | '\x7b' :: rest, depth + 1 =>
      (readInline fuel depth [] rest).map fun (entries, rest) =>
        (.map (Entry.toFields entries), rest)
    | cs, _ => readWord cs

/-- Reads the items of an array behind its bracket or a comma. -/
def readItems : (fuel depth : Nat) → List Char → Decoded (List Document × List Char)
  | 0, _, _ => .error "an item is expected"
  | fuel + 1, depth, cs => do
    match skipBlank (cs.length + 1) cs with
    | ']' :: rest => return ([], rest)
    | cs =>
      let (item, rest) ← readValue fuel depth cs
      match skipBlank (rest.length + 1) rest with
      | ',' :: rest =>
        let (items, rest) ← readItems fuel depth rest
        return (item :: items, rest)
      | ']' :: rest => return ([item], rest)
      | _ => throw "a comma is expected"

/-- Reads the entries of an inline table behind its brace or a comma. -/
def readInline : (fuel depth : Nat) → Entries → List Char → Decoded (Entries × List Char)
  | 0, _, _, _ => .error "an entry is expected"
  | fuel + 1, depth, entries, cs => do
    match skipBlank (cs.length + 1) cs with
    | '\x7d' :: rest => return (entries, rest)
    | cs =>
      let (path, rest) ← readKey cs
      match skipGap rest with
      | '=' :: rest =>
        let (d, rest) ← readValue fuel depth (skipGap rest)
        let entries ← entries.define path d
        match skipBlank (rest.length + 1) rest with
        | ',' :: rest => readInline fuel depth entries rest
        | '\x7d' :: rest => return (entries, rest)
        | _ => throw "a comma is expected"
      | _ => throw "an equals sign is expected"

end

/-- Reads statements: `path` leads to the table in which keys are defined. -/
def readStatements :
    (fuel : Nat) → (path : List String) → Entries → List Char → Decoded Entries
  | 0, _, entries, _ => .ok entries
  | fuel + 1, path, entries, cs => do
    match skipBlank (cs.length + 1) cs with
    | [] => return entries
    | '[' :: '[' :: rest =>
      let (path, rest) ← readKey rest
      match rest with
      | ']' :: ']' :: rest =>
        readStatements fuel path (← entries.addTable path) (← endLine rest)
      | _ => throw "a header is not closed"
    | '[' :: rest =>
      let (path, rest) ← readKey rest
      match rest with
      | ']' :: rest => readStatements fuel path (← entries.openTable path) (← endLine rest)
      | _ => throw "a header is not closed"
    | cs =>
      let (key, rest) ← readKey cs
      match rest with
      | '=' :: rest =>
        let (d, rest) ← readValue (rest.length + 1) maxDepth (skipGap rest)
        let entries ← entries.within path (Entries.define key d)
        readStatements fuel path entries (← endLine rest)
      | _ => throw "an equals sign is expected"

end RecipeRunner.Toml

namespace RecipeRunner.Document

/-- The mapping that a text holds in TOML. -/
def ofToml (text : String) : Decoded Document := do
  let cs := match text.toList with
    | '\ufeff' :: rest => rest
    | cs => cs
  let entries ← Toml.readStatements (cs.length + 1) [] [] cs
  return .map (Toml.Entry.toFields entries)

end RecipeRunner.Document
