/-!
# Text as bytes

The bytes of a text and the text of bytes.  Bytes that are not part of a character are read as
the replacement character, one for each longest run that a character could have started with.
-/

namespace RecipeRunner.Text.Utf8

/-- What stands for bytes that are no character. -/
def replacement : Char := '\ufffd'

/-- The bytes of a text. -/
def encode (s : String) : List UInt8 :=
  s.toUTF8.toList

/-- A character of which some bytes are still to come. -/
structure Unfinished where
  /-- The bits read so far. -/
  bits : Nat
  /-- The number of bytes to come behind the next one. -/
  further : Nat
  /-- The least and the greatest value of the next byte. -/
  least : UInt8 := 0x80
  greatest : UInt8 := 0xbf
  deriving DecidableEq, Repr

/-- What a first byte can be. -/
inductive Lead where
  | char (c : Char)
  | unfinished (u : Unfinished)
  | stray
  deriving DecidableEq, Repr

/-- What a byte starts. -/
def lead (b : UInt8) : Lead :=
  if b < 0x80 then .char (Char.ofNat b.toNat)
  else if b < 0xc2 then .stray
  else if b < 0xe0 then .unfinished { bits := b.toNat - 0xc0, further := 0 }
  else if b = 0xe0 then .unfinished { bits := 0, further := 1, least := 0xa0 }
  else if b = 0xed then .unfinished { bits := 13, further := 1, greatest := 0x9f }
  else if b < 0xf0 then .unfinished { bits := b.toNat - 0xe0, further := 1 }
  else if b = 0xf0 then .unfinished { bits := 0, further := 2, least := 0x90 }
  else if b < 0xf4 then .unfinished { bits := b.toNat - 0xf0, further := 2 }
  else if b = 0xf4 then .unfinished { bits := 4, further := 2, greatest := 0x8f }
  else .stray

/-- The characters of bytes behind the start of a character. -/
def decodeFrom : Option Unfinished → List UInt8 → List Char
  | none, [] => []
  | some _, [] => [replacement]
  | pending, b :: rest =>
    let fresh (_ : Unit) : List Char :=
      match lead b with
      | .char c => c :: decodeFrom none rest
      | .unfinished u => decodeFrom (some u) rest
      | .stray => replacement :: decodeFrom none rest
    match pending with
    | none => fresh ()
    | some u =>
      if u.least ≤ b && b ≤ u.greatest then
        let bits := u.bits * 64 + (b.toNat - 0x80)
        match u.further with
        | 0 => Char.ofNat bits :: decodeFrom none rest
        | further + 1 => decodeFrom (some { bits := bits, further := further }) rest
      else replacement :: fresh ()

/-- The text of bytes. -/
def decode (bytes : List UInt8) : String :=
  String.ofList (decodeFrom none bytes)

end RecipeRunner.Text.Utf8
