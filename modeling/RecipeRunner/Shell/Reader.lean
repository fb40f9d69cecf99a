import RecipeRunner.Shell.Token
/-!
# Reading shell scripts

A script is read one line of commands at a time, so a fault in a later line is found only after
the lines before it have run.  Words and commands contain each other, so all of it is one
recursion; the fuel bounds how deep it goes, which is at most the length of the script.
-/

namespace RecipeRunner.Shell

namespace Reader

/-- The text between single quotes, whose first one was used. -/
def singleQuoted : Reader (List Char) := do
  let text ← takeWhile (· != '\'')
  match ← take? with
  | some _ => return text
  | none => fault "Syntax error: Unterminated quoted string"

/-- The script between back quotes, whose first one was used. -/
def backQuoted (inQuotes : Bool) : (steps : Nat) → Reader (List Char)
  | 0 => fault "Syntax error: EOF in backquote substitution"
  | steps + 1 => do
    match ← take? with
    | none => fault "Syntax error: EOF in backquote substitution"
    | some '`' => return []
    | some '\\' => do
      match ← peek? with
      | some '\n' => skip; backQuoted inQuotes steps
      | some c =>
        if c = '\\' || c = '`' || c = '$' || (inQuotes && c = '"') then
          skip
          return c :: (← backQuoted inQuotes steps)
        else return '\\' :: (← backQuoted inQuotes steps)
      | none => return ['\\']
    | some c => return c :: (← backQuoted inQuotes steps)

/-- The lines of a text in a script up to the line that ends it. -/
def documentLines (d : Document) : (steps : Nat) → Reader (List Char)
  | 0 => return []
  | steps + 1 => do
    if (← get).rest.isEmpty then return []
    if d.untabbed then discard (takeWhile (· = '\t'))
    let line ← takeWhile (· != '\n')
    let newline ← take?
    if line = d.ending then return []
    else return line ++ newline.toList ++ (← documentLines d steps)

/-- Whether a character keeps a backslash before it from standing for itself in quotes. -/
def isQuotable (c : Char) : Bool :=
  c = '$' || c = '`' || c = '"' || c = '\\'

/-- Puts the text of an alias in place of the word that was read last; gives whether there is
such an alias.  One whose text the word belongs to does not count. -/
def takeAlias (t : Token) : Reader Bool := do
  let c ← get
  let name := match t with
    | .word pieces => (Piece.bare? pieces).getD ""
    | _ => ""
  let start := c.rest.length + name.length
  match c.aliases.lookup name with
  | none => return false
  | some value =>
    if c.opened.any fun (known, behind) => known = name && behind < start then return false
    else
      set { c with
        held := none
        rest := value.toList ++ c.rest
        opened := (name, c.rest.length) :: c.opened }
      return true

/-- Whether the word that was read last stands behind the text of an alias that ends in a blank;
`before` is how much of the script was left before it was read. -/
def followsAlias (before : Nat) (t : Token) : Reader Bool := do
  let c ← get
  let name := match t with
    | .word pieces => (Piece.bare? pieces).getD ""
    | _ => ""
  let start := c.rest.length + name.length
  return c.opened.any fun (known, behind) =>
    start ≤ behind && behind < before &&
      ((c.aliases.lookup known).bind fun value => value.toList.getLast?).any fun ch =>
        ch = ' ' || ch = '\t'

end Reader

open Reader

/-- Where pieces are read: what ends them, and what quotes mean. -/
inductive Surrounding where
  /-- Outside quotes, up to what ends a word. -/
  | bare
  /-- Up to a double quote. -/
  | quoted
  /-- Up to a closing brace. -/
  | braced (inQuotes : Bool)
  /-- To the end of the script. -/
  | document
  /-- Up to two closing parentheses, inside `depth` pairs of parentheses. -/
  | arithmetic (depth : Nat)

/-- Whether what is read in a place is quoted. -/
def Surrounding.isQuoted : Surrounding → Bool
  | bare | braced false => false
  | quoted | braced true | document | arithmetic _ => true

mutual

/-- The pieces of a word or of quoted text. -/
def readPieces : (fuel : Nat) → Surrounding → Reader (List Piece)
  | 0, _ => fault "Syntax error: too deep"
  | fuel + 1, place => do
    let own (c : Char) : Reader (List Piece) := do
      let rest ← readPieces fuel place
      return if place.isQuoted then Piece.consQuoted c rest else Piece.consBare c rest
    match ← peek? with
    | none =>
      match place with
      | .bare | .document => return []
      | .quoted => fault "Syntax error: Unterminated quoted string"
      | .braced _ => fault "Syntax error: Missing '\x7d'"
      | .arithmetic _ => fault "Syntax error: Missing '))'"
    | some c =>
      match place with
      | .bare => if endsWord c then return [] else readPiece fuel place c own
      | .quoted => if c = '"' then skip; return [] else readPiece fuel place c own
      | .braced _ => if c = '}' then skip; return [] else readPiece fuel place c own
      | .document => readPiece fuel place c own
      | .arithmetic depth =>
        if c = '(' then
          skip
          return Piece.consQuoted '(' (← readPieces fuel (.arithmetic (depth + 1)))
        else if c = ')' then
          match depth with
          | depth + 1 =>
            skip
            return Piece.consQuoted ')' (← readPieces fuel (.arithmetic depth))
          | 0 =>
            if ← takeText [')', ')'] then return []
            else
              skip
              own ')'
        else readPiece fuel place c own

/-- The pieces that start with a character, which is not used yet. -/
def readPiece : (fuel : Nat) → Surrounding → Char → (own : Char → Reader (List Piece)) →
    Reader (List Piece)
  | 0, _, _, _ => fault "Syntax error: too deep"
  | fuel + 1, place, c, own => do
    skip
    let literal := match place with
      | .bare | .braced false => false
      | _ => true
    match c with
    | '\\' =>
      match ← peek? with
      | none => own '\\'
      | some '\n' => skip; readPieces fuel place
      | some next =>
        if !literal then
          skip
          return Piece.consQuoted next (← readPieces fuel place)
        else
          let isQuotable := match place with
            | .document => isQuotable next && next != '"'
            | .braced true => isQuotable next || next = '}'
            | _ => isQuotable next
          if isQuotable then
            skip
            return Piece.consQuoted next (← readPieces fuel place)
          else own '\\'
    | '\'' =>
      if literal then own '\''
      else
        let text ← singleQuoted
        return .text text true :: (← readPieces fuel place)
    | '"' =>
      match place with
      | .bare | .braced _ =>
        let inner ← readPieces fuel .quoted
        -- All arguments of the shell are no word at all if there are none.
        let shown := match inner with
          | [.parameter "@" .none _] => inner
          | _ => .text [] true :: inner
        return shown ++ (← readPieces fuel place)
      | _ => own '"'
    | '`' => do
      let script ← backQuoted (match place with | .quoted => true | _ => false)
        ((← get).rest.length + 1)
      let piece ← readInner fuel script place.isQuoted
      return piece :: (← readPieces fuel place)
    | '$' => do
      match ← readDollar fuel place.isQuoted with
      | some piece => return piece :: (← readPieces fuel place)
      | none => own '$'
    | c => own c

/-- The commands of a script inside the script. -/
def readInner : (fuel : Nat) → List Char → (quoted : Bool) → Reader Piece
  | 0, _, _ => fault "Syntax error: too deep"
  | fuel + 1, script, quoted => do
    let outer ← get
    set { outer with rest := script, held := none }
    let body ← readList fuel true
    match ← nextToken fuel with
    | .theEnd => do
      modify fun c => { c with rest := outer.rest, line := outer.line, held := outer.held }
      return .output body quoted
    | t => unexpected t none

/-- What a dollar sign stands for, if it does not stand for itself. -/
def readDollar : (fuel : Nat) → (quoted : Bool) → Reader (Option Piece)
  | 0, _ => fault "Syntax error: too deep"
  | fuel + 1, quoted => do
    match ← peek? with
    | some '(' =>
      skip
      if ← takeText ['('] then return some (.number (← readPieces fuel (.arithmetic 0)) quoted)
      else
        let outer ← get
        set { outer with held := none }
        let body ← readList fuel true
        match ← nextToken fuel with
        | .mark ")" => do
          modify fun c => { c with held := outer.held }
          return some (.output body quoted)
        | t => unexpected t (some "\")\"")
    | some '{' =>
      skip
      return some (← readBraced fuel quoted)
    | some c =>
      if startsName c then
        return some (.parameter (String.ofList (← takeWhile continuesName)) .none quoted)
      else if c.isDigit || isSpecialParameter c then
        skip
        return some (.parameter (String.singleton c) .none quoted)
      else return none
    | none => return none

/-- A parameter in braces, of which the first one was used. -/
def readBraced : (fuel : Nat) → (quoted : Bool) → Reader Piece
  | 0, _ => fault "Syntax error: too deep"
  | fuel + 1, quoted => do
    let name : Reader (Option String) := do
      match ← peek? with
      | some c =>
        if startsName c then return some (String.ofList (← takeWhile continuesName))
        else if c.isDigit then return some (String.ofList (← takeWhile Char.isDigit))
        else if isSpecialParameter c then
          skip
          return some (String.singleton c)
        else return none
      | none => return none
    let bad : Reader Piece := do
      discard (readPieces fuel (.braced quoted))
      return .parameter "" .unknown quoted
    let measured := match (← get).rest with
      | '#' :: '}' :: _ => false
      | '#' :: c :: _ => startsName c || c.isDigit || isSpecialParameter c
      | _ => false
    if measured then
      skip
      match ← name with
      | some parameter =>
        if ← takeText ['}'] then return .parameter parameter .length quoted else bad
      | none => bad
    else
      match ← name with
      | none => bad
      | some parameter => do
        let orEmpty ← takeText [':']
        let word : Reader (List Piece) := do
          skip
          readPieces fuel (.braced quoted)
        let pattern (atStart : Bool) (mark : Char) : Reader Piece := do
          skip
          let longest ← takeText [mark]
          return .parameter parameter
            (.cut atStart longest (← readPieces fuel (.braced false))) quoted
        match ← peek? with
        | some '-' => return .parameter parameter (.otherwise orEmpty (← word)) quoted
        | some '=' => return .parameter parameter (.assign orEmpty (← word)) quoted
        | some '?' => return .parameter parameter (.demand orEmpty (← word)) quoted
        | some '+' => return .parameter parameter (.instead orEmpty (← word)) quoted
        | some '#' => if orEmpty then bad else pattern true '#'
        | some '%' => if orEmpty then bad else pattern false '%'
        | some '}' =>
          if orEmpty then bad
          else
            skip
            return .parameter parameter .none quoted
        | _ => bad

/-- Stops at a token that does not belong where it stands. -/
def unexpected {α : Type} (t : Token) (expected : Option String) : Reader α :=
  fault ("Syntax error: " ++ t.name ++ " unexpected" ++
    (match expected with
      | some name => " (expecting " ++ name ++ ")"
      | none => ""))

/-- Reads the texts that were wanted in the line that has ended. -/
def readDocuments : (fuel : Nat) → List Document → Reader Unit
  | 0, _ => fault "Syntax error: too deep"
  | _ + 1, [] => pure ()
  | fuel + 1, d :: rest => do
    let text ← documentLines d ((← get).rest.length + 1)
    let pieces ← if d.quoted then pure [.text text true]
      else do
        let outer ← get
        set { outer with rest := text }
        let pieces ← readPieces fuel .document
        modify fun c => { c with rest := outer.rest, line := outer.line }
        pure pieces
    modify fun c => { c with documents := (d.number, pieces) :: c.documents }
    readDocuments fuel rest

/-- The next token, which is used. -/
def nextToken : (fuel : Nat) → Reader Token
  | 0 => fault "Syntax error: too deep"
  | fuel + 1 => do
    match (← get).held with
    | some t => do
      modify fun c => { c with held := none }
      return t
    | none => do
      skipBlanks ((← get).rest.length + 1)
      let mark (text : String) : Reader Token := do
        discard (takeText text.toList)
        return .mark text
      let angle (c : Char) (descriptor : Option Nat) : Reader Token := do
        skip
        let marks := if c = '>' then [">", "|", "&"] else ["<-", "<", "&", ">"]
        for m in marks do
          if ← takeText m.toList then
            return .redirection (descriptor.getD (if c = '>' then 1 else 0)) (c.toString ++ m)
        return .redirection (descriptor.getD (if c = '>' then 1 else 0)) c.toString
      match (← get).rest with
      | [] => return .theEnd
      | '\n' :: _ => do
        skip
        let wanted := (← get).wanted
        modify fun c => { c with wanted := [] }
        readDocuments fuel wanted.reverse
        return .newline
      | '&' :: '&' :: _ => mark "&&"
      | '&' :: _ => mark "&"
      | '|' :: '|' :: _ => mark "||"
      | '|' :: _ => mark "|"
      | ';' :: ';' :: _ => mark ";;"
      | ';' :: _ => mark ";"
      | '(' :: _ => mark "("
      | ')' :: _ => mark ")"
      | '<' :: _ => angle '<' none
      | '>' :: _ => angle '>' none
      | _ => do
        let pieces ← readPieces fuel .bare
        match pieces, (← get).rest with
        | [.text [d] false], '<' :: _ =>
          if d.isDigit then angle '<' (some (d.toNat - '0'.toNat)) else return .word pieces
        | [.text [d] false], '>' :: _ =>
          if d.isDigit then angle '>' (some (d.toNat - '0'.toNat)) else return .word pieces
        | _, _ => return .word pieces

/-- The next token, which is not used; line ends are passed over first, if they are to be. -/
def peekToken : (fuel : Nat) → (overLines : Bool) → Reader Token
  | 0, _ => fault "Syntax error: too deep"
  | fuel + 1, overLines => do
    match ← nextToken fuel, overLines with
    | .newline, true => peekToken fuel true
    | t, _ => do
      modify fun c => { c with held := some t }
      return t

/-- Uses the token that has to come next. -/
def expect : (fuel : Nat) → String → Reader Unit
  | 0, _ => fault "Syntax error: too deep"
  | fuel + 1, text => do
    let t ← nextToken fuel
    if t.is text then pure () else unexpected t (some ("\"" ++ text ++ "\""))

/-- Commands up to what ends a list; none at all only where that is allowed. -/
def readList : (fuel : Nat) → (mayBeEmpty : Bool) → Reader Command
  | 0, _ => fault "Syntax error: too deep"
  | fuel + 1, mayBeEmpty => do
    let t ← peekToken fuel true
    if t.endsList && mayBeEmpty then return .sequence []
    else
      match t with
      | .theEnd => return .sequence []
      | _ => do
        let first ← readAndOr fuel
        let more (c : Command) : Reader Command := do
          discard (nextToken fuel)
          match ← readList fuel true with
          | .sequence rest => return .sequence (c :: rest)
          | other => return .sequence [c, other]
        match ← peekToken fuel false with
        | .mark "&" => more (.background first)
        | .mark ";" | .newline => more first
        | _ => return .sequence [first]

/-- Pipelines joined by `&&` and `||`. -/
def readAndOr : (fuel : Nat) → Reader Command
  | 0 => fault "Syntax error: too deep"
  | fuel + 1 => do
    let first ← readPipeline fuel
    readFurther fuel first

/-- What `&&` and `||` join to a command. -/
def readFurther : (fuel : Nat) → Command → Reader Command
  | 0, _ => fault "Syntax error: too deep"
  | fuel + 1, first => do
    let joined (join : Command → Command → Command) : Reader Command := do
      discard (nextToken fuel)
      discard (peekToken fuel true)
      let second ← readPipeline fuel
      readFurther fuel (join first second)
    match ← peekToken fuel false with
    | .mark "&&" => joined .both
    | .mark "||" => joined .either
    | _ => return first

/-- Commands joined by bars. -/
def readPipeline : (fuel : Nat) → Reader Command
  | 0 => fault "Syntax error: too deep"
  | fuel + 1 => do
    if (← peekToken fuel false).is "!" then
      discard (nextToken fuel)
      return .negated (← readPipeline fuel)
    else
      match ← readBars fuel with
      | [c] => return c
      | cs => return .pipeline cs

/-- The commands of a pipeline. -/
def readBars : (fuel : Nat) → Reader (List Command)
  | 0 => fault "Syntax error: too deep"
  | fuel + 1 => do
    let first ← readCommand fuel
    match ← peekToken fuel false with
    | .mark "|" => do
      discard (nextToken fuel)
      discard (peekToken fuel true)
      return first :: (← readBars fuel)
    | _ => return [first]

/-- A command with its redirections. -/
def readCommand : (fuel : Nat) → Reader Command
  | 0 => fault "Syntax error: too deep"
  | fuel + 1 => do
    let t ← peekToken fuel false
    let line := (← get).line
    let compound (c : Reader Command) : Reader Command := do
      discard (nextToken fuel)
      let command ← c
      match ← readRedirections fuel with
      | [] => return command
      | redirections => return .redirected line command redirections
    match t.keyword? with
    | some "if" => compound do
      let c ← readChoice fuel
      expect fuel "fi"
      return c
    | some "while" => compound (readLoop fuel false)
    | some "until" => compound (readLoop fuel true)
    | some "for" => compound (readEach fuel)
    | some "case" => compound do
      match ← nextToken fuel with
      | .word pieces => do
        discard (peekToken fuel true)
        expect fuel "in"
        return .cases line pieces (← readArms fuel)
      | t => unexpected t (some "word")
    | some "\x7b" => compound do
      let body ← readList fuel false
      expect fuel "\x7d"
      return body
    | some _ => unexpected t none
    | none =>
      match t with
      | .mark "(" => compound do
        let body ← readList fuel false
        expect fuel ")"
        return .apart line body
      | .word _ | .redirection .. => do
        if ← takeAlias t then readCommand fuel else readSimple fuel line [] [] []
      | t => unexpected t none

/-- What follows `if` or `elif`, up to the end of the last branch. -/
def readChoice : (fuel : Nat) → Reader Command
  | 0 => fault "Syntax error: too deep"
  | fuel + 1 => do
    let condition ← readList fuel false
    expect fuel "then"
    let success ← readList fuel false
    let t ← peekToken fuel false
    if t.is "elif" then
      discard (nextToken fuel)
      return .choice condition success (← readChoice fuel)
    else if t.is "else" then
      discard (nextToken fuel)
      return .choice condition success (← readList fuel false)
    else return .choice condition success (.sequence [])

/-- What follows `while` or `until`. -/
def readLoop : (fuel : Nat) → (whileFails : Bool) → Reader Command
  | 0, _ => fault "Syntax error: too deep"
  | fuel + 1, whileFails => do
    let condition ← readList fuel false
    expect fuel "do"
    let body ← readList fuel false
    expect fuel "done"
    return .loop whileFails condition body

/-- What follows `for`. -/
def readEach : (fuel : Nat) → Reader Command
  | 0 => fault "Syntax error: too deep"
  | fuel + 1 => do
    let line := (← get).line
    let name := match ← nextToken fuel with
      | .word pieces => (Piece.bare? pieces).filter fun s => isName s.toList
      | _ => none
    match name with
    | none => fault "Syntax error: Bad for loop variable"
    | some name => do
      let words ← if (← peekToken fuel true).is "in" then do
          discard (nextToken fuel)
          let words ← readWords fuel
          match ← nextToken fuel with
          | .newline | .mark ";" => pure (some words)
          | t => unexpected t none
        else do
          if (← peekToken fuel true).is ";" then discard (nextToken fuel)
          pure none
      discard (peekToken fuel true)
      expect fuel "do"
      let body ← readList fuel false
      expect fuel "done"
      return .each line name words body

/-- Words as long as there are any. -/
def readWords : (fuel : Nat) → Reader (List (List Piece))
  | 0 => fault "Syntax error: too deep"
  | fuel + 1 => do
    match ← peekToken fuel false with
    | .word pieces => do
      discard (nextToken fuel)
      return pieces :: (← readWords fuel)
    | _ => return []

/-- The arms of a choice by patterns, up to its end. -/
def readArms : (fuel : Nat) → Reader (List (List (List Piece) × Command))
  | 0 => fault "Syntax error: too deep"
  | fuel + 1 => do
    let t ← peekToken fuel true
    if t.is "esac" then
      discard (nextToken fuel)
      return []
    else
      if t.is "(" then discard (nextToken fuel)
      let patterns ← readPatterns fuel
      let body ← readList fuel true
      let t ← peekToken fuel true
      if t.is ";;" then
        discard (nextToken fuel)
        return (patterns, body) :: (← readArms fuel)
      else
        expect fuel "esac"
        return [(patterns, body)]

/-- Patterns with bars between them, up to the closing parenthesis. -/
def readPatterns : (fuel : Nat) → Reader (List (List Piece))
  | 0 => fault "Syntax error: too deep"
  | fuel + 1 => do
    let pieces := match ← nextToken fuel with
      | .word pieces => pieces
      | _ => []
    match ← nextToken fuel with
    | .mark "|" => return pieces :: (← readPatterns fuel)
    | .mark ")" => return [pieces]
    | t => unexpected t (some "\")\"")

/-- Redirections as long as there are any. -/
def readRedirections : (fuel : Nat) → Reader (List Redirection)
  | 0 => fault "Syntax error: too deep"
  | fuel + 1 => do
    match ← peekToken fuel false with
    | .redirection descriptor mark => do
      discard (nextToken fuel)
      let first ← readTarget fuel descriptor mark
      return first :: (← readRedirections fuel)
    | _ => return []

/-- What follows the mark of a redirection. -/
def readTarget : (fuel : Nat) → (descriptor : Nat) → (mark : String) → Reader Redirection
  | 0, _, _ => fault "Syntax error: too deep"
  | fuel + 1, descriptor, mark => do
    match ← nextToken fuel with
    | .word pieces =>
      match mark with
      | "<<" | "<<-" => do
        let number := (← get).nextDocument
        let quoted := pieces.any fun piece =>
          match piece with
          | .text _ quoted => quoted
          | _ => false
        let document : Document :=
          ⟨number, (Piece.texts? pieces).getD [], quoted, mark = "<<-"⟩
        modify fun c =>
          { c with wanted := document :: c.wanted, nextDocument := number + 1 }
        return .document descriptor number
      | ">&" | "<&" => return .file descriptor .copy pieces
      | "<" => return .file descriptor .from pieces
      | "<>" => return .file descriptor .both pieces
      | ">>" => return .file descriptor .behind pieces
      | ">|" => return .file descriptor .over pieces
      | _ => return .file descriptor .into pieces
    | t => unexpected t none

/-- A simple command, behind what was already read of it, latest first. -/
def readSimple : (fuel : Nat) → (line : Nat) → List (String × List Piece) →
    List (List Piece) → List Redirection → Reader Command
  | 0, _, _, _, _ => fault "Syntax error: too deep"
  | fuel + 1, line, assignments, words, redirections => do
    let before := (← get).rest.length
    match ← peekToken fuel false with
    | .word pieces => do
      if ← followsAlias before (.word pieces) <&&> takeAlias (.word pieces) then
        readSimple fuel line assignments words redirections
      else
        discard (nextToken fuel)
        match assignment? pieces, words with
        | some a, [] => readSimple fuel line (a :: assignments) words redirections
        | _, _ => readSimple fuel line assignments (pieces :: words) redirections
    | .redirection descriptor mark => do
      discard (nextToken fuel)
      let r ← readTarget fuel descriptor mark
      readSimple fuel line assignments words (r :: redirections)
    | t => do
      match t, assignments, words, redirections with
      | .mark "(", [], [name], [] => do
        discard (nextToken fuel)
        expect fuel ")"
        match (Piece.bare? name).filter fun s => isName s.toList with
        | some name => do
          discard (peekToken fuel true)
          return .define name (← readCommand fuel)
        | none => fault "Syntax error: Bad function name"
      | _, _, _, _ =>
        return .simple line assignments.reverse words.reverse redirections.reverse
where
  /-- The name and the word of an assignment. -/
  assignment? : List Piece → Option (String × List Piece)
    | .text s false :: rest =>
      let name := s.takeWhile (· != '=')
      match s.drop name.length with
      | _ :: value =>
        if isName name then
          some (String.ofList name, if value.isEmpty then rest else .text value false :: rest)
        else none
      | [] => none
    | _ => none

end

/-- The next line of commands; nothing at the end of the script. -/
def readLine (fuel : Nat) : Reader (Option Command) := do
  match ← peekToken fuel false with
  | .theEnd => return none
  | .newline => do
    discard (nextToken fuel)
    return some (.sequence [])
  | _ => return some (.sequence (← readRest fuel))
where
  /-- The commands up to the end of the line. -/
  readRest : Nat → Reader (List Command)
    | 0 => fault "Syntax error: too deep"
    | steps + 1 => do
      let first ← readAndOr fuel
      let more (c : Command) : Reader (List Command) := do
        match ← peekToken fuel false with
        | .theEnd => return [c]
        | .newline => do
          discard (nextToken fuel)
          return [c]
        | _ => return c :: (← readRest steps)
      match ← nextToken fuel with
      | .mark "&" => more (.background first)
      | .mark ";" => more first
      | .newline | .theEnd => return [first]
      | t => unexpected t none

end RecipeRunner.Shell
