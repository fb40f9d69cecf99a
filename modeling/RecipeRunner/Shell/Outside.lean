import RecipeRunner.Text.Utf8
import RecipeRunner.Unicode.Property
/-!
# Programs outside the shell

What the programs outside the shell have in common: how their options are read and how they
complain.  Texts are made of bytes, each of them the character of its number.
-/

namespace RecipeRunner.Shell

/-- Bytes as the characters of their numbers. -/
def ofBytes (bytes : List UInt8) : String :=
  String.ofList (bytes.map fun b => Char.ofNat b.toNat)

/-- The bytes whose numbers characters are. -/
def toBytes (s : String) : List UInt8 :=
  s.toList.map fun c => UInt8.ofNat c.toNat

/-- A text as the characters of its bytes. -/
def ofText (s : String) : String :=
  ofBytes (Text.Utf8.encode s)

/-- A byte in base eight behind a backslash. -/
def octalEscape (n : Nat) : String :=
  let digits := String.ofList (Nat.toDigits 8 n)
  "\\" ++ "".pushn '0' (3 - digits.length) ++ digits

namespace Outside

/-- A character in quotation marks.  Marks that end a quotation stand behind a backslash, and
what does not show is written by its bytes. -/
def quotedChar (c : Char) : String :=
  match c with
  | '\\' => "\\\\"
  | '’' => "\\’"
  | '\x07' => "\\a"
  | '\x08' => "\\b"
  | '\x0c' => "\\f"
  | '\n' => "\\n"
  | '\r' => "\\r"
  | '\t' => "\\t"
  | '\x0b' => "\\v"
  | c =>
    if Unicode.isPrintable c then String.singleton c
    else String.join ((Text.Utf8.encode (String.singleton c)).map fun b => octalEscape b.toNat)

/-- The text of bytes that are text as a whole. -/
def text? (s : String) : Option String :=
  let decoded := Text.Utf8.decode (toBytes s)
  if Text.Utf8.encode decoded = toBytes s then some decoded else none

/-- An argument in quotation marks. -/
def quoted (s : String) : String :=
  let inner := match text? s with
    | some text => String.join (text.toList.map quotedChar)
    | none => String.join (s.toList.map fun c =>
        if c.toNat < 128 then quotedChar c else octalEscape c.toNat)
  ofText ("‘" ++ inner ++ "’")

/-- The line that points to the help of a program. -/
def hint (program : String) : String :=
  "Try '" ++ program ++ " --help' for more information."

/-- The options that a program knows. -/
structure Known where
  program : String
  /-- The letters of options. -/
  letters : List Char
  /-- The names of options and the letters for which they stand. -/
  names : List (String × Char)
  /-- Whether options may stand behind operands. -/
  anywhere : Bool

/-- Options and operands. -/
structure Parsed where
  options : List Char := []
  operands : List String := []

namespace Known

/-- What a program says of bad options. -/
def fault (k : Known) (text : String) : String :=
  k.program ++ ": " ++ text ++ "\n" ++ hint k.program ++ "\n"

/-- The letter of an option by its name, which may be cut short where only one option is meant. -/
def letter? (k : Known) (word : String) : Except String Char :=
  let name := (word.toList.drop 2).takeWhile (· != '=')
  let hasValue := name.length + 2 < word.length
  let meant := k.names.filter fun (known, _) => name.isPrefixOf known.toList
  let found := (meant.find? fun (known, _) => known.toList = name).or
    (if (meant.map Prod.snd).eraseDups.length = 1 then meant.head? else none)
  match found with
  | some (known, letter) =>
    if hasValue then .error (k.fault ("option '--" ++ known ++ "' doesn't allow an argument"))
    else .ok letter
  | none =>
    if meant.isEmpty then
      .error (k.fault ("unrecognized option '" ++ word ++ "'"))
    else
      .error (k.fault ("option '" ++ word ++ "' is ambiguous; possibilities:" ++
        String.join (meant.map fun (known, _) => " '--" ++ known ++ "'")))

/-- The letters of options that stand in one word. -/
def check (k : Known) (letters : List Char) : Except String Unit :=
  match letters.find? fun c => !k.letters.contains c with
  | some c => .error (k.fault ("invalid option -- '" ++ String.singleton c ++ "'"))
  | none => .ok ()

/-- Reads options and operands. -/
def parse (k : Known) : List String → Except String Parsed
  | [] => .ok {}
  | "--" :: rest => .ok { operands := rest }
  | word :: rest =>
    if word.startsWith "--" then do
      let letter ← k.letter? word
      let parsed ← k.parse rest
      return { parsed with options := letter :: parsed.options }
    else if word.startsWith "-" && word != "-" then do
      let letters := word.toList.tail
      k.check letters
      let parsed ← k.parse rest
      return { parsed with options := letters ++ parsed.options }
    else if k.anywhere then do
      let parsed ← k.parse rest
      return { parsed with operands := word :: parsed.operands }
    else .ok { operands := word :: rest }

end Known

end Outside

end RecipeRunner.Shell
