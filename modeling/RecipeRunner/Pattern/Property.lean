import RecipeRunner.Pattern.CharSet
import RecipeRunner.Pattern.Trait
import RecipeRunner.Text.Search
/-!
# Properties in patterns

The sets that patterns name by a property, or by a property and its value.  In names, case,
spaces, hyphens, low lines and the word `is` in front do not count, and no character counts that
is not a basic one.
-/

namespace RecipeRunner.Pattern.Property

open Unicode (Category)

/-- What counts of a name. -/
def key (name : List Char) : String :=
  let behindIs := match name with
    | a :: b :: rest => if a.toLower = 'i' && b.toLower = 's' then rest else name
    | _ => name
  String.ofList ((behindIs.filter fun c => c.toNat < 128 && c ≠ ' ' && c ≠ '-' && c ≠ '_').map
    Char.toLower)

/-- The general categories and the groups of them: their members and what they are called. -/
def categoryGroups : List (List Category × List String) :=
  [([.upperLetter, .lowerLetter, .titleLetter, .modifierLetter, .otherLetter], ["l", "letter"]),
   ([.upperLetter, .lowerLetter, .titleLetter], ["lc", "casedletter"]),
   ([.upperLetter], ["lu", "uppercaseletter"]),
   ([.lowerLetter], ["ll", "lowercaseletter"]),
   ([.titleLetter], ["lt", "titlecaseletter"]),
   ([.modifierLetter], ["lm", "modifierletter"]),
   ([.otherLetter], ["lo", "otherletter"]),
   ([.nonspacingMark, .spacingMark, .enclosingMark], ["m", "mark", "combiningmark"]),
   ([.nonspacingMark], ["mn", "nonspacingmark"]),
   ([.spacingMark], ["mc", "spacingmark"]),
   ([.enclosingMark], ["me", "enclosingmark"]),
   ([.decimalNumber, .letterNumber, .otherNumber], ["n", "number"]),
   ([.decimalNumber], ["nd", "decimalnumber", "digit"]),
   ([.letterNumber], ["nl", "letternumber"]),
   ([.otherNumber], ["no", "othernumber"]),
   ([.connector, .dash, .opener, .closer, .initialQuote, .finalQuote, .otherPunctuation],
     ["p", "punctuation", "punct"]),
   ([.connector], ["pc", "connectorpunctuation"]),
   ([.dash], ["pd", "dashpunctuation"]),
   ([.opener], ["ps", "openpunctuation"]),
   ([.closer], ["pe", "closepunctuation"]),
   ([.initialQuote], ["pi", "initialpunctuation"]),
   ([.finalQuote], ["pf", "finalpunctuation"]),
   ([.otherPunctuation], ["po", "otherpunctuation"]),
   ([.mathSymbol, .currencySymbol, .modifierSymbol, .otherSymbol], ["s", "symbol"]),
   ([.mathSymbol], ["sm", "mathsymbol"]),
   ([.currencySymbol], ["sc", "currencysymbol"]),
   ([.modifierSymbol], ["sk", "modifiersymbol"]),
   ([.otherSymbol], ["so", "othersymbol"]),
   ([.spaceSeparator, .lineSeparator, .paragraphSeparator], ["z", "separator"]),
   ([.spaceSeparator], ["zs", "spaceseparator"]),
   ([.lineSeparator], ["zl", "lineseparator"]),
   ([.paragraphSeparator], ["zp", "paragraphseparator"]),
   ([.control, .format, .privateUse, .unassigned], ["c", "other"]),
   ([.control], ["cc", "control", "cntrl"]),
   ([.format], ["cf", "format"]),
   ([.privateUse], ["co", "privateuse"]),
   ([.unassigned], ["cn", "unassigned"])]

/-- The characters of a general category or of a group of them. -/
def categorySet? (key : String) : Option CharSet :=
  match key with
  | "any" => some .all
  | "ascii" => some (.range '\x00' '\x7f')
  | "assigned" => some (.test fun c => Character.category c ≠ .unassigned)
  | _ => (categoryGroups.find? fun (_, names) => names.contains key).map fun (members, _) =>
      .test fun c => members.contains (Character.category c)

/-- The code of a script by one of its names. -/
def script? (key : String) : Option String :=
  match Unicode.Script.names.find? fun names =>
      names.any fun name => Property.key name.toList = key with
  | some (_ :: code :: _) => some code
  | _ => none

/-- The characters of a script. -/
def scriptSet (code : String) : CharSet :=
  .test fun c => Unicode.Script.ofChar c = code

/-- The characters that editions up to one have assigned. -/
def ageSet? (key : String) : Option CharSet :=
  let isCalled (age : Nat) : Bool :=
    key = "v" ++ toString age || key = toString (age / 10) ++ "." ++ toString (age % 10)
  (Unicode.ages.find? fun age => age ≤ Character.edition && isCalled age).map fun age =>
    .test fun c => Unicode.age c != 0 && Unicode.age c ≤ age

/-- The set that a property names by itself.  Three short names are those of categories although
a property bears them, too. -/
def named? (name : List Char) : Option CharSet :=
  let key := Property.key name
  match Trait.ofName? key with
  | some trait => some (.test trait)
  | none =>
    match categorySet? key with
    | some set => some set
    | none => (script? key).map scriptSet

/-- The set that a property names together with its value. -/
def valued? (name value : List Char) : Option CharSet :=
  let value := Property.key value
  match Property.key name with
  | "gc" | "generalcategory" => categorySet? value
  | "sc" | "script" => (script? value).map scriptSet
  | "scx" | "scriptextensions" => (script? value).map fun code =>
      .test fun c => (Unicode.Script.allOfChar c).contains code
  | "age" => ageSet? value
  | _ => none

/-- The set of a text between braces, and whether its complement is meant. -/
def ofText? (text : List Char) : Option (CharSet × Bool) :=
  match Text.cutAt? ['!', '='] text with
  | some (name, value) => (valued? name value).map (·, true)
  | none =>
    match Text.cutAt? [':'] text with
    | some (name, value) => (valued? name value).map (·, false)
    | none =>
      match Text.cutAt? ['='] text with
      | some (name, value) => (valued? name value).map (·, false)
      | none => (named? text).map (·, false)

end RecipeRunner.Pattern.Property
