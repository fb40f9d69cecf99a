import RecipeRunner.Document.Yaml.Scalar
import RecipeRunner.Text.Utf8
/-!
# Tokens

The tokens of a text.  Blocks are told by indentation: a token that stands further to the right
than the block around it opens one, and a token further to the left closes those that it leaves.
That something is a key is known only at the colon behind it, so the places where keys can start
are kept, and the tokens of a key are put there later.
-/

namespace RecipeRunner.Yaml

open Document (Decoded)

/-- How a tag is written: a handle and what follows it. -/
structure TagName where
  handle : List Char
  suffix : List UInt8
  deriving Repr

/-- The tokens of a text. -/
inductive Token where
  | version (major minor : Nat)
  /-- A handle of tags and what it stands for. -/
  | handle (name : List Char) (meaning : List UInt8)
  | documentStart
  | documentEnd
  | blockSequence
  | blockMapping
  | blockEnd
  | flowSequence
  | flowSequenceEnd
  | flowMapping
  | flowMappingEnd
  | entry
  | separator
  | key
  | value
  | alias (name : List Char)
  | anchor (name : List Char)
  | tag (name : TagName)
  | scalar (style : Style) (text : List Char)
  deriving Repr

/-- A place where a key can start. -/
structure KeyPlace where
  /-- The number of tokens before it. -/
  position : Nat
  /-- Whether nothing but a key may stand there. -/
  isRequired : Bool
  cursor : Cursor

/-- What a scanner knows of the text before its cursor. -/
structure Scanner where
  cursor : Cursor
  /-- The tokens found, the last one first. -/
  tokens : List Token := []
  count : Nat := 0
  /-- The column of the innermost block, less than zero outside all blocks. -/
  indent : Int := -1
  /-- The columns of the blocks around it, the innermost first. -/
  outer : List Int := []
  /-- Whether a key can start at the cursor. -/
  keyAllowed : Bool := true
  /-- The place where a key can start in each open flow collection, the innermost first, and in
  the block around them. -/
  keys : List (Option KeyPlace) := [none]

namespace Scanner

/-- Whether a flow collection is open. -/
def inFlow (s : Scanner) : Bool :=
  1 < s.keys.length

/-- Adds a token. -/
def add (s : Scanner) (t : Token) : Scanner :=
  { s with tokens := t :: s.tokens, count := s.count + 1 }

/-- Adds a token behind the first `position` ones. -/
def insert (s : Scanner) (position : Nat) (t : Token) : Scanner :=
  let later := s.count - position
  { s with tokens := s.tokens.take later ++ t :: s.tokens.drop later, count := s.count + 1 }

/-- Adds a token of `n` characters. -/
def addMark (s : Scanner) (t : Token) (n : Nat) : Scanner :=
  { s.add t with cursor := s.cursor.skip n }

/-- Sets whether a key can start at the cursor. -/
def allowKey (s : Scanner) (allowed : Bool) : Scanner :=
  { s with keyAllowed := allowed }

/-- Opens a block at a column behind the first `position` tokens, unless one is open there. -/
def openBlock (s : Scanner) (column position : Nat) (t : Token) : Scanner :=
  if !s.inFlow && s.indent < column then
    { s.insert position t with indent := column, outer := s.indent :: s.outer }
  else s

/-- Closes the blocks to the right of a column. -/
def closeBlocks (s : Scanner) (column : Int) : Scanner :=
  if s.inFlow then s
  else
    let columns := s.indent :: s.outer
    let closed := columns.takeWhile (column < ·)
    let left := columns.drop closed.length
    { s with
      tokens := List.replicate closed.length .blockEnd ++ s.tokens
      count := s.count + closed.length
      indent := left.headD (-1)
      outer := left.drop 1 }

/-- Gives up the place where a key can start. -/
def dropKey (s : Scanner) : Decoded Scanner :=
  match s.keys with
  | some k :: rest =>
    if k.isRequired then .error "a colon is missing behind a key"
    else .ok { s with keys := none :: rest }
  | _ => .ok s

/-- Notes that a key can start at the cursor. -/
def noteKey (s : Scanner) : Decoded Scanner :=
  if s.keyAllowed then do
    let s ← s.dropKey
    let place : KeyPlace :=
      { position := s.count
        isRequired := !s.inFlow && s.indent = s.cursor.column
        cursor := s.cursor }
    return { s with keys := some place :: s.keys.drop 1 }
  else .ok s

/-- The number of characters that a key can have. -/
def keyLength : Nat := 1024

/-- Gives up the places from which no key can reach the cursor: those on earlier lines and those
too far back. -/
def dropStaleKeys (s : Scanner) : Decoded Scanner := do
  let keys ← s.keys.mapM fun place =>
    match place with
    | none => .ok none
    | some k =>
      if k.cursor.line < s.cursor.line || k.cursor.index + keyLength < s.cursor.index then
        if k.isRequired then .error "a colon is missing behind a key" else .ok none
      else .ok (some k)
  return { s with keys := keys }

/-- Skips what lies between tokens: blanks, comments and ends of lines, and a byte order mark at
the start of a line, which takes a column. -/
def skipBetween : (fuel : Nat) → Scanner → Scanner
  | 0, s => s
  | fuel + 1, s =>
    let isBlank (ch : Char) := ch = ' ' || ((s.inFlow || !s.keyAllowed) && ch = '\t')
    let c := if s.cursor.column = 0 && s.cursor.isAt '\ufeff' then s.cursor.skip 1 else s.cursor
    let c := (c.takeWhile isBlank).2.skipComment
    if c.atBreak then
      skipBetween fuel
        { s with cursor := c.readBreak.2, keyAllowed := s.keyAllowed || !s.inFlow }
    else { s with cursor := c }

/-- Leaves all blocks. -/
def leaveBlocks (s : Scanner) : Decoded Scanner := do
  return (← (s.closeBlocks (-1)).dropKey).allowKey false

/-! ## Names, tags and directives -/

/-- Reads the name of an anchor or an alias behind its indicator. -/
def readName (c : Cursor) : Decoded (List Char × Cursor) :=
  let (name, next) := c.takeWhile isNameChar
  let ends := next.endsWord 0 || next.peek?.any fun ch =>
    ch = '?' || ch = ':' || ch = ',' || ch = ']' || ch = '\x7d' || ch = '%' || ch = '@' ||
      ch = '\x60'
  if name.isEmpty || !ends then .error "a name is expected" else .ok (name, next)

/-- Characters of tags besides those of names. -/
def isTagMark (ch : Char) : Bool :=
  ";/?:@&=+$.%!~*'()".toList.contains ch

/-- The number of bytes of a character that starts with a byte, if one can. -/
def byteCount? (first : UInt8) : Option Nat :=
  if first < 0x80 then some 1
  else if first < 0xC0 then none
  else if first < 0xE0 then some 2
  else if first < 0xF0 then some 3
  else if first < 0xF8 then some 4
  else none

/-- Resolves the escapes in a tag, of which `missing` more have to go on with a character. -/
def unescapeTag : (fuel : Nat) → (missing : Nat) → List Char → Option (List UInt8)
  | 0, _, _ => some []
  | fuel + 1, missing, cs =>
    match cs with
    | [] => if missing = 0 then some [] else none
    | '%' :: a :: b :: rest => do
      let high ← Unicode.digitValue? a
      let low ← Unicode.digitValue? b
      let byte := UInt8.ofNat (high * 16 + low)
      let missing ←
        if missing = 0 then (byteCount? byte).map (· - 1)
        else if 0x80 ≤ byte && byte < 0xC0 then some (missing - 1)
        else none
      return byte :: (← unescapeTag fuel missing rest)
    | '%' :: _ => none
    | c :: rest => do
      if missing ≠ 0 then none
      return Text.Utf8.encode (String.singleton c) ++ (← unescapeTag fuel 0 rest)

/-- Reads a tag, or what follows its handle. -/
def readTagText (verbatim : Bool) (c : Cursor) : Decoded (List UInt8 × Cursor) :=
  let (text, next) := c.takeWhile fun ch =>
    isNameChar ch || isTagMark ch || (verbatim && (ch = ',' || ch = '[' || ch = ']'))
  match unescapeTag (text.length + 1) 0 text with
  | some bytes => .ok (bytes, next)
  | none => .error "an escape in a tag is not complete"

/-- The bytes of characters. -/
def bytesOf (cs : List Char) : List UInt8 :=
  Text.Utf8.encode (String.ofList cs)

/-- Reads a tag. -/
def readTag (c : Cursor) : Decoded (TagName × Cursor) :=
  if c.peekAt? 1 = some '<' then do
    let (text, next) ← readTagText true (c.skip 2)
    if text.isEmpty then throw "a tag is expected"
    if !next.isAt '>' then throw "a tag is not closed"
    return (⟨[], text⟩, next.skip 1)
  else do
    let (name, behind) := (c.skip 1).takeWhile isNameChar
    if behind.isAt '!' then
      let (suffix, next) ← readTagText false (behind.skip 1)
      if suffix.isEmpty then throw "a tag is expected"
      return (⟨'!' :: name ++ ['!'], suffix⟩, next)
    else
      let (suffix, next) ← readTagText false behind
      let suffix := bytesOf name ++ suffix
      return (if suffix.isEmpty then ⟨[], bytesOf ['!']⟩ else ⟨['!'], suffix⟩, next)

/-- Reads a number of a version. -/
def readVersionPart (c : Cursor) : Decoded (Nat × Cursor) :=
  let (digits, next) := c.takeWhile Char.isDigit
  if digits.isEmpty || 9 < digits.length then .error "a version is expected"
  else .ok (Unicode.natOfDigits 10 digits, next)

/-- Reads what a directive says about tags: a handle and what it stands for. -/
def readHandle (c : Cursor) : Decoded ((List Char × List UInt8) × Cursor) := do
  if !c.isAt '!' then throw "a handle is expected"
  let (name, next) := (c.skip 1).takeWhile isNameChar
  let (handle, next) ←
    if next.isAt '!' then pure ('!' :: name ++ ['!'], next.skip 1)
    else if name.isEmpty then pure (['!'], next)
    else throw "a handle is not closed"
  if !next.atGap then throw "a blank is expected"
  let (text, next) ← readTagText true next.skipGap
  if text.isEmpty || !next.endsWord 0 then throw "a tag is expected"
  return ((handle, text), next)

/-- Reads a directive. -/
def readDirective (c : Cursor) : Decoded (Token × Cursor) := do
  let (name, next) := (c.skip 1).takeWhile isNameChar
  if name.isEmpty || !next.endsWord 0 then throw "the name of a directive is expected"
  let (token, next) ←
    if name = "YAML".toList then do
      let (major, next) ← readVersionPart next.skipGap
      if !next.isAt '.' then throw "a version is expected"
      let (minor, next) ← readVersionPart (next.skip 1)
      pure (Token.version major minor, next)
    else if name = "TAG".toList then do
      let ((handle, meaning), next) ← readHandle next.skipGap
      pure (Token.handle handle meaning, next)
    else throw "a directive is unknown"
  let next := next.skipGap.skipComment
  if !next.atLineEnd then throw "a line goes on behind a directive"
  return (token, next.readBreak.2)

/-! ## The next token -/

/-- Opens a flow collection. -/
def openFlow (s : Scanner) (t : Token) : Decoded Scanner := do
  let s ← s.noteKey
  return ({ s with keys := none :: s.keys }.allowKey true).addMark t 1

/-- Closes a flow collection. -/
def closeFlow (s : Scanner) (t : Token) : Decoded Scanner := do
  let s ← s.dropKey
  let keys := match s.keys with
    | _ :: next :: rest => next :: rest
    | keys => keys
  return ({ s with keys := keys }.allowKey false).addMark t 1

/-- Adds the mark of an item of a sequence. -/
def addEntry (s : Scanner) : Decoded Scanner := do
  if !s.inFlow && !s.keyAllowed then throw "an item may not stand here"
  let s := s.openBlock s.cursor.column s.count .blockSequence
  return ((← s.dropKey).allowKey true).addMark .entry 1

/-- Adds the mark of a key. -/
def addKey (s : Scanner) : Decoded Scanner := do
  if !s.inFlow && !s.keyAllowed then throw "a key may not stand here"
  let s := s.openBlock s.cursor.column s.count .blockMapping
  return ((← s.dropKey).allowKey !s.inFlow).addMark .key 1

/-- Adds the mark of a value; if a key can have ended here, it is one. -/
def addValue (s : Scanner) : Decoded Scanner :=
  match s.keys with
  | some k :: rest =>
    let s := s.insert k.position .key
    let s := s.openBlock k.cursor.column k.position .blockMapping
    .ok (({ s with keys := none :: rest }.allowKey false).addMark .value 1)
  | _ =>
    if !s.inFlow && !s.keyAllowed then .error "a value may not stand here"
    else
      let s := s.openBlock s.cursor.column s.count .blockMapping
      .ok ((s.allowKey !s.inFlow).addMark .value 1)

/-- Adds a token that can start a key. -/
def addStart (s : Scanner) (read : Cursor → Decoded (Token × Cursor)) : Decoded Scanner := do
  let s := (← s.noteKey).allowKey false
  let (t, c) ← read s.cursor
  return { s.add t with cursor := c }

/-- Adds a plain scalar.  A key can start behind it if its line has ended. -/
def addPlain (s : Scanner) : Decoded Scanner := do
  let s := (← s.noteKey).allowKey false
  let (text, broken, c) ← Plain.read s.inFlow (s.indent + 1).toNat s.cursor
  return { (s.add (.scalar .plain text)).allowKey broken with cursor := c }

/-- Adds a block scalar. -/
def addBlock (s : Scanner) (literal : Bool) : Decoded Scanner := do
  let s := (← s.dropKey).allowKey true
  let (text, c) ← Block.read literal s.indent (s.cursor.skip 1)
  return { s.add (.scalar (if literal then .literal else .other) text) with cursor := c }

/-- Whether a plain scalar can start with a character, which is followed by a blank or not. -/
def startsPlain (s : Scanner) (ch : Char) : Bool :=
  let next := s.cursor.peekAt? 1
  if ch = '-' then !next.any isGap
  else if ch = '?' || ch = ':' then !s.inFlow && !s.cursor.endsWord 1
  else !isGap ch && !(",[]{}#&*!|>'\"%@\x60".toList.contains ch)

/-- Adds the token that starts with a character. -/
def addNext (s : Scanner) (ch : Char) : Decoded Scanner :=
  let c := s.cursor
  let flat := !s.inFlow
  let blankFollows := c.endsWord 1
  if c.column = 0 && ch = '%' then do
    let s ← s.leaveBlocks
    let (t, next) ← readDirective c
    return { s.add t with cursor := next }
  else if c.atDocumentMark then do
    let s ← s.leaveBlocks
    return s.addMark (if ch = '-' then .documentStart else .documentEnd) 3
  else if ch = '[' then s.openFlow .flowSequence
  else if ch = '\x7b' then s.openFlow .flowMapping
  else if ch = ']' then s.closeFlow .flowSequenceEnd
  else if ch = '\x7d' then s.closeFlow .flowMappingEnd
  else if ch = ',' then do return ((← s.dropKey).allowKey true).addMark .separator 1
  else if ch = '-' && blankFollows then s.addEntry
  else if ch = '?' && (s.inFlow || blankFollows) then s.addKey
  else if ch = ':' && (s.inFlow || blankFollows) then s.addValue
  else if ch = '*' then
    s.addStart fun c => do
      let (name, next) ← readName (c.skip 1)
      return (.alias name, next)
  else if ch = '&' then
    s.addStart fun c => do
      let (name, next) ← readName (c.skip 1)
      return (.anchor name, next)
  else if ch = '!' then
    s.addStart fun c => do
      let (name, next) ← readTag c
      if !next.endsWord 0 && !(s.inFlow && next.isAt ',') then throw "a tag is not closed"
      return (.tag name, next)
  else if ch = '|' && flat then s.addBlock true
  else if ch = '>' && flat then s.addBlock false
  else if ch = '\'' || ch = '"' then
    s.addStart fun c => do
      let (text, next) ← Quoted.read (ch = '\'') (c.skip 1)
      return (.scalar .other text, next)
  else if s.startsPlain ch then s.addPlain
  else .error "a token cannot start with this character"

/-- Finds all tokens.  Every token takes a character at least. -/
def run : (fuel : Nat) → Scanner → Decoded (List Token)
  | 0, s => .ok s.tokens.reverse
  | fuel + 1, s => do
    let s ← (s.skipBetween (s.cursor.rest.length + 1)).dropStaleKeys
    let s := s.closeBlocks s.cursor.column
    match s.cursor.peek? with
    | none =>
      let s ← s.leaveBlocks
      return s.tokens.reverse
    | some ch => run fuel (← s.addNext ch)

end Scanner

/-- The tokens of a text. -/
def tokens (text : String) : Decoded (List Token) :=
  let cs := text.toList
  if cs.all isAllowed then Scanner.run (cs.length + 1) { cursor := { rest := cs } }
  else .error "a control character stands in the text"

end RecipeRunner.Yaml
