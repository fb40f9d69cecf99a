/-!
# Escape sequences

The sequences behind a backslash that `echo` and `printf` know.
-/

namespace RecipeRunner.Shell.Escape

/-- Whether a character is a digit in base eight. -/
def isOctal (c : Char) : Bool :=
  '0' ≤ c && c ≤ '7'

/-- The character of a byte, of whose number the last eight bits count. -/
def byte (n : Nat) : Char :=
  Char.ofNat (n % 256)

/-- The byte that up to three digits in base eight stand for, and what follows them. -/
def octal (cs : List Char) : Char × List Char :=
  let digits := (cs.take 3).takeWhile isOctal
  (byte (digits.foldl (fun n c => 8 * n + (c.toNat - '0'.toNat)) 0), cs.drop digits.length)

/-- The character of a letter that stands for a control. -/
def control? : Char → Option Char
  | '\\' => some '\\'
  | 'a' => some '\x07'
  | 'b' => some '\x08'
  | 'f' => some '\x0c'
  | 'n' => some '\n'
  | 'r' => some '\r'
  | 't' => some '\t'
  | 'v' => some '\x0b'
  | _ => none

/-- What a backslash stands for together with what follows it, and the rest.  One that starts no
sequence stands for itself. -/
def afterBackslash : List Char → Char × List Char
  | [] => ('\\', [])
  | c :: rest =>
    match control? c with
    | some control => (control, rest)
    | none => if isOctal c then octal (c :: rest) else ('\\', c :: rest)

/-- A text with the sequences of `echo` in place, and whether it was ended by one that ends all
output.  Numbers may have a zero more in front. -/
def expandWithin : (steps : Nat) → List Char → List Char × Bool
  | 0, _ | _, [] => ([], false)
  | _ + 1, '\\' :: 'c' :: _ => ([], true)
  | steps + 1, '\\' :: rest =>
    let sequence := match rest with
      | '0' :: d :: more => if isOctal d then d :: more else rest
      | _ => rest
    let (c, rest) := afterBackslash sequence
    let (text, ended) := expandWithin steps rest
    (c :: text, ended)
  | steps + 1, c :: rest =>
    let (text, ended) := expandWithin steps rest
    (c :: text, ended)

/-- A text with its sequences in place, and whether one of them ended all output. -/
def expand (s : String) : String × Bool :=
  let (text, ended) := expandWithin s.length s.toList
  (String.ofList text, ended)

/-- What `echo` writes for its arguments. -/
def echo (arguments : List String) : String :=
  match arguments with
  | "-n" :: rest => (joined rest).1
  | _ =>
    let (text, ended) := joined arguments
    if ended then text else text ++ "\n"
where
  /-- The arguments with their sequences in place, and whether one of them ended all output. -/
  joined : List String → String × Bool
    | [] => ("", false)
    | [last] => expand last
    | first :: rest =>
      let (text, ended) := expand first
      if ended then (text, true)
      else
        let (others, ended) := joined rest
        (text ++ " " ++ others, ended)

end RecipeRunner.Shell.Escape
