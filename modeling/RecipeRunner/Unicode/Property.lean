import RecipeRunner.Unicode.Category
import RecipeRunner.Text.Blank
/-!
# Character properties

Binary properties of characters.  Each is a union of general categories and a short list of
further code points, so only the lists are stored.  Characters below 128 are decided without
a table, and so are blanks, which are neither letters nor numbers.
-/

namespace RecipeRunner.Unicode

private def otherAlphabetic : RangeTable := RangeTable.ofText
  "345 363-36F 5B0-5BD 5BF 5C1-5C2 5C4-5C5 5C7 610-61A 64B-657 659-65F 670 6D6-6DC 6E1-6E4
  6E7-6E8 6ED 711 730-73F 7A6-7B0 816-817 81B-823 825-827 829-82C 897 8D4-8DF 8E3-8E9
  8F0-903 93A-93B 93E-94C 94E-94F 955-957 962-963 981-983 9BE-9C4 9C7-9C8 9CB-9CC 9D7
  9E2-9E3 A01-A03 A3E-A42 A47-A48 A4B-A4C A51 A70-A71 A75 A81-A83 ABE-AC5 AC7-AC9 ACB-ACC
  AE2-AE3 AFA-AFC B01-B03 B3E-B44 B47-B48 B4B-B4C B56-B57 B62-B63 B82 BBE-BC2 BC6-BC8
  BCA-BCC BD7 C00-C04 C3E-C44 C46-C48 C4A-C4C C55-C56 C62-C63 C81-C83 CBE-CC4 CC6-CC8
  CCA-CCC CD5-CD6 CE2-CE3 CF3 D00-D03 D3E-D44 D46-D48 D4A-D4C D57 D62-D63 D81-D83 DCF-DD4
  DD6 DD8-DDF DF2-DF3 E31 E34-E3A E4D EB1 EB4-EB9 EBB-EBC ECD F71-F83 F8D-F97 F99-FBC
  102B-1036 1038 103B-103E 1056-1059 105E-1060 1062-1064 1067-106D 1071-1074 1082-108D
  108F 109A-109D 1712-1713 1732-1733 1752-1753 1772-1773 17B6-17C8 1885-1886 18A9
  1920-192B 1930-1938 1A17-1A1B 1A55-1A5E 1A61-1A74 1ABF-1AC0 1ACC-1ACE 1B00-1B04
  1B35-1B43 1B80-1B82 1BA1-1BA9 1BAC-1BAD 1BE7-1BF1 1C24-1C36 1DD3-1DF4 24B6-24E9
  2DE0-2DFF A674-A67B A69E-A69F A802 A80B A823-A827 A880-A881 A8B4-A8C3 A8C5 A8FF
  A926-A92A A947-A952 A980-A983 A9B4-A9BF A9E5 AA29-AA36 AA43 AA4C-AA4D AA7B-AA7D AAB0
  AAB2-AAB4 AAB7-AAB8 AABE AAEB-AAEF AAF5 ABE3-ABEA FB1E 10376-1037A 10A01-10A03
  10A05-10A06 10A0C-10A0F 10D24-10D27 10D69 10EAB-10EAC 10EFA-10EFC 11000-11002
  11038-11045 11073-11074 11080-11082 110B0-110B8 110C2 11100-11102 11127-11132
  11145-11146 11180-11182 111B3-111BF 111CE-111CF 1122C-11234 11237 1123E 11241
  112DF-112E8 11300-11303 1133E-11344 11347-11348 1134B-1134C 11357 11362-11363
  113B8-113C0 113C2 113C5 113C7-113CA 113CC-113CD 11435-11441 11443-11445 114B0-114C1
  115AF-115B5 115B8-115BE 115DC-115DD 11630-1163E 11640 116AB-116B5 1171D-1172A
  1182C-11838 11930-11935 11937-11938 1193B-1193C 11940 11942 119D1-119D7 119DA-119DF
  119E4 11A01-11A0A 11A35-11A39 11A3B-11A3E 11A51-11A5B 11A8A-11A97 11B60-11B67
  11C2F-11C36 11C38-11C3E 11C92-11CA7 11CA9-11CB6 11D31-11D36 11D3A 11D3C-11D3D
  11D3F-11D41 11D43 11D47 11D8A-11D8E 11D90-11D91 11D93-11D96 11EF3-11EF6 11F00-11F01
  11F03 11F34-11F3A 11F3E-11F40 1611E-1612E 16F4F 16F51-16F87 16F8F-16F92 16FF0-16FF1
  1BC9E 1E000-1E006 1E008-1E018 1E01B-1E021 1E023-1E024 1E026-1E02A 1E08F 1E6E3 1E6E6
  1E6EE-1E6EF 1E6F5 1E947 1F130-1F149 1F150-1F169 1F170-1F189"

private def otherGraphemeExtend : RangeTable := RangeTable.ofText
  "9BE 9D7 B3E B57 BBE BD7 CC0 CC2 CC7-CC8 CCA-CCB CD5-CD6 D3E D57 DCF DDF 1715 1734 1B35
  1B3B 1B3D 1B43-1B44 1BAA 1BF2-1BF3 200C 302E-302F A953 A9C0 FF9E-FF9F 111C0 11235 1133E
  1134D 11357 113B8 113C2 113C5 113C7-113C9 113CF 114B0 114BD 115AF 116B6 11930 1193D
  11F41 16FF0-16FF1 1D165-1D166 1D16D-1D172 E0020-E007F"

private def otherCased : RangeTable := RangeTable.ofText
  "AA BA 2B0-2B8 2C0-2C1 2E0-2E4 345 37A 10FC 1D2C-1D6A 1D78 1D9B-1DBF 2071 207F 2090-209C
  2160-217F 24B6-24E9 2C7C-2C7D A69C-A69D A770 A7F1-A7F4 A7F8-A7F9 AB5C-AB5F AB69 10780
  10783-10785 10787-107B0 107B2-107BA 1E030-1E06D 1F130-1F149 1F150-1F169 1F170-1F189"

private def otherCaseIgnorable : RangeTable := RangeTable.ofText
  "27 2E 3A B7 387 55F 5F4 2018-2019 2024 2027 FE13 FE52 FE55 FF07 FF0E FF1A"

/-- Letters, letter numbers and the signs that combine with letters. -/
def isAlphabetic (c : Char) : Bool :=
  if c.toNat < 128 then c.isAlpha
  else if Text.isBlank c then false
  else
    let category := Category.ofChar c
    category.isLetter || category = .letterNumber || otherAlphabetic.contains c

/-- Alphabetic characters and numbers of any kind. -/
def isAlphanumeric (c : Char) : Bool :=
  if c.toNat < 128 then c.isAlphanum
  else if Text.isBlank c then false
  else isAlphabetic c || (Category.ofChar c).isNumber

/-- What holds of letters and digits is found by going through the first 128 characters. -/
theorem of_isAlphanum {P : Char → Prop}
    (hall : ∀ n < 128, (Char.ofNat n).isAlphanum = true → P (Char.ofNat n)) {c : Char}
    (hc : c.isAlphanum = true) : P c := by
  have hlt : c.toNat < 128 := by
    delta Char.isAlphanum Char.isAlpha Char.isUpper Char.isLower Char.isDigit at hc
    simp only [Bool.or_eq_true, Bool.and_eq_true, decide_eq_true_eq, UInt32.le_iff_toNat_le] at hc
    change c.val.toNat < 128
    have hZ : 'Z'.val.toNat = 90 := rfl
    have hz : 'z'.val.toNat = 122 := rfl
    have h9 : '9'.val.toNat = 57 := rfl
    omega
  have h := hall c.toNat hlt
  rw [Char.ofNat_toNat] at h
  exact h hc

theorem isAlphanum_of_isBlank {c : Char} (h : Text.isBlank c = true) (hc : c.toNat < 128) :
    c.isAlphanum = false := by
  have hall : ∀ n < 128, Text.isBlank (.ofNat n) = true → (Char.ofNat n).isAlphanum = false := by
    decide
  rw [← Char.ofNat_toNat c] at h ⊢
  exact hall _ hc h

theorem isAlphanumeric_of_isBlank {c : Char} (h : Text.isBlank c = true) :
    isAlphanumeric c = false := by
  unfold isAlphanumeric
  split
  · next hc => exact isAlphanum_of_isBlank h hc
  · rfl

/-- Control characters: the two blocks of code points kept for them. -/
def isControl (c : Char) : Bool :=
  c.toNat < 32 || (127 ≤ c.toNat && c.toNat < 160)

/-- Characters that extend the one before them: combining marks and joiners. -/
def isGraphemeExtend (c : Char) : Bool :=
  if c.toNat < 128 then false
  else
    let category := Category.ofChar c
    category = .nonspacingMark || category = .enclosingMark || otherGraphemeExtend.contains c

/-- Marks drawn onto the character before them.  Two modifier letters, the sound marks of half
width, extend that character and yet have a place of their own. -/
def isCombining (c : Char) : Bool :=
  isGraphemeExtend c && Category.ofChar c ≠ .modifierLetter

/-- The letters that only fill a place: the two fillers of syllables and the two of blocks. -/
def isFiller (c : Char) : Bool :=
  c.toNat = 0x115F || c.toNat = 0x1160 || c.toNat = 0x3164 || c.toNat = 0xFFA0

/-- Characters that show when printed; of the separators only the space counts. -/
def isPrintable (c : Char) : Bool :=
  if c.toNat < 128 then 32 ≤ c.toNat && c.toNat < 127
  else
    let category := Category.ofChar c
    !(category.isSeparator || category.isOther || isFiller c)

/-- Characters with a case, whether or not they have a counterpart. -/
def isCased (c : Char) : Bool :=
  if c.toNat < 128 then c.isAlpha
  else
    match Category.ofChar c with
    | .upperLetter | .lowerLetter | .titleLetter => true
    | _ => otherCased.contains c

/-- Characters that are skipped when the context of a cased character is examined. -/
def isCaseIgnorable (c : Char) : Bool :=
  match Category.ofChar c with
  | .nonspacingMark | .enclosingMark | .format | .modifierLetter | .modifierSymbol => true
  | _ => otherCaseIgnorable.contains c

/-- Decimal digits of any script. -/
def isDecimalDigit (c : Char) : Bool :=
  if c.toNat < 128 then c.isDigit else Category.ofChar c = .decimalNumber

/-- Characters of words: alphabetic characters, marks, decimal digits, connectors and the
two joiners. -/
def isWordChar (c : Char) : Bool :=
  if c.toNat < 128 then c.isAlphanum || c = '_'
  else
    let category := Category.ofChar c
    isAlphabetic c || category.isMark || category = .decimalNumber || category = .connector ||
      c.toNat = 0x200C || c.toNat = 0x200D

end RecipeRunner.Unicode
