import RecipeRunner.Text.Basic
/-!
# Terminal styles

Colours and type styles by escape sequences.  A style that ends inside a styled text is
followed by the outer style again, so styles nest.
-/

namespace RecipeRunner

/-- A style: the codes that switch it on, in the order in which they are written. -/
structure Style where
  codes : List Nat
  deriving DecidableEq, Repr

namespace Style

def bold : Style := ⟨[1]⟩
def dim : Style := ⟨[2]⟩
def italic : Style := ⟨[3]⟩
def underline : Style := ⟨[4]⟩
def red : Style := ⟨[31]⟩
def cyan : Style := ⟨[36]⟩
def boldRed : Style := ⟨[1, 31]⟩

/-- The colours by name. -/
def colors : List (String × Nat) :=
  [("black", 30), ("red", 31), ("green", 32), ("yellow", 33), ("blue", 34), ("magenta", 35),
   ("purple", 35), ("cyan", 36), ("white", 37), ("bright black", 90), ("bright red", 91),
   ("bright green", 92), ("bright yellow", 93), ("bright blue", 94), ("bright magenta", 95),
   ("bright cyan", 96), ("bright white", 97)]

/-- The style of a colour by its name in any case; a name that is no colour means white. -/
def ofColorName (name : String) : Style :=
  ⟨[(colors.lookup (Text.lowerCase name)).getD 37]⟩

/-- The sequence that ends all styles. -/
def reset : String := "\x1b[0m"

/-- The sequence that starts a style. -/
def start (style : Style) : String :=
  "\x1b[" ++ ";".intercalate (style.codes.map toString) ++ "m"

/-- A text in a style. -/
def paint (style : Style) (text : String) : String :=
  style.start ++ Text.replaced reset (reset ++ style.start) text ++ reset

end Style

end RecipeRunner
