import RecipeRunner.Unicode.Property
/-!
# Case mapping

Upper and lower case of characters and of whole texts.  Most characters have a counterpart of
one character, kept as runs in which the distance to the counterpart is constant; a few
expand to two or three.  Lower-casing a text looks at the neighbours of a capital sigma, which
becomes a final sigma at the end of a word.  `variants` gives all characters that count as equal
to one when case is ignored.
-/

namespace RecipeRunner.Unicode

/-- A run of characters with the same distance to their counterparts: `count` characters
from `first` on, `stride` apart. -/
private structure CaseRun where
  first : Nat
  count : Nat
  stride : Nat
  distance : Int
  deriving Inhabited

/-- Reads a run written `first:count.+distance`, or with `*` for a stride of two. -/
private def CaseRun.ofText (word : List Char) : CaseRun :=
  let (first, rest) := (word.takeWhile (· ≠ ':'), (word.dropWhile (· ≠ ':')).drop 1)
  let count := rest.takeWhile (fun c => c ≠ '.' && c ≠ '*')
  let tail := rest.dropWhile (fun c => c ≠ '.' && c ≠ '*')
  let size : Int := natOfDigits 16 (tail.drop 2)
  { first := natOfDigits 16 first
    count := natOfDigits 16 count
    stride := if tail.head? = some '*' then 2 else 1
    distance := if tail[1]? = some '-' then -size else size }

private def readCaseRuns (text : String) : Array CaseRun :=
  ((words text).map fun word => CaseRun.ofText word.toList).toArray

private def upperRuns : Array CaseRun := readCaseRuns
  "61:1A.-20 B5:1.+2E7 E0:17.-20 F8:7.-20 FF:1.+79 101:18*-1 131:1.-E8 133:3*-1 13A:8*-1
  14B:17*-1 17A:3*-1 17F:1.-12C 180:1.+C3 183:2*-1 188:1.-1 18C:1.-1 192:1.-1 195:1.+61
  199:1.-1 19A:1.+A3 19B:1.+A641 19E:1.+82 1A1:3*-1 1A8:1.-1 1AD:1.-1 1B0:1.-1 1B4:2*-1
  1B9:1.-1 1BD:1.-1 1BF:1.+38 1C5:1.-1 1C6:1.-2 1C8:1.-1 1C9:1.-2 1CB:1.-1 1CC:1.-2
  1CE:8*-1 1DD:1.-4F 1DF:9*-1 1F2:1.-1 1F3:1.-2 1F5:1.-1 1F9:14*-1 223:9*-1 23C:1.-1
  23F:2.+2A3F 242:1.-1 247:5*-1 250:1.+2A1F 251:1.+2A1C 252:1.+2A1E 253:1.-D2 254:1.-CE
  256:2.-CD 259:1.-CA 25B:1.-CB 25C:1.+A54F 260:1.-CD 261:1.+A54B 263:1.-CF 264:1.+A567
  265:1.+A528 266:1.+A544 268:1.-D1 269:1.-D3 26A:1.+A544 26B:1.+29F7 26C:1.+A541
  26F:1.-D3 271:1.+29FD 272:1.-D5 275:1.-D6 27D:1.+29E7 280:1.-DA 282:1.+A543 283:1.-DA
  287:1.+A52A 288:1.-DA 289:1.-45 28A:2.-D9 28C:1.-47 292:1.-DB 29D:1.+A515 29E:1.+A512
  345:1.+54 371:2*-1 377:1.-1 37B:3.+82 3AC:1.-26 3AD:3.-25 3B1:11.-20 3C2:1.-1F 3C3:9.-20
  3CC:1.-40 3CD:2.-3F 3D0:1.-3E 3D1:1.-39 3D5:1.-2F 3D6:1.-36 3D7:1.-8 3D9:C*-1 3F0:1.-56
  3F1:1.-50 3F2:1.+7 3F3:1.-74 3F5:1.-60 3F8:1.-1 3FB:1.-1 430:20.-20 450:10.-50 461:11*-1
  48B:1B*-1 4C2:7*-1 4CF:1.-F 4D1:30*-1 561:26.-30 10D0:2B.+BC0 10FD:3.+BC0 13F8:6.-8
  1C80:1.-186E 1C81:1.-186D 1C82:1.-1864 1C83:2.-1862 1C85:1.-1863 1C86:1.-185C
  1C87:1.-1825 1C88:1.+89C2 1C8A:1.-1 1D79:1.+8A04 1D7D:1.+EE6 1D8E:1.+8A38 1E01:4B*-1
  1E9B:1.-3B 1EA1:30*-1 1F00:8.+8 1F10:6.+8 1F20:8.+8 1F30:8.+8 1F40:6.+8 1F51:4*+8
  1F60:8.+8 1F70:2.+4A 1F72:4.+56 1F76:2.+64 1F78:2.+80 1F7A:2.+70 1F7C:2.+7E 1FB0:2.+8
  1FBE:1.-1C25 1FD0:2.+8 1FE0:2.+8 1FE5:1.+7 214E:1.-1C 2170:10.-10 2184:1.-1 24D0:1A.-1A
  2C30:30.-30 2C61:1.-1 2C65:1.-2A2B 2C66:1.-2A28 2C68:3*-1 2C73:1.-1 2C76:1.-1 2C81:32*-1
  2CEC:2*-1 2CF3:1.-1 2D00:26.-1C60 2D27:1.-1C60 2D2D:1.-1C60 A641:17*-1 A681:E*-1
  A723:7*-1 A733:1F*-1 A77A:2*-1 A77F:5*-1 A78C:1.-1 A791:2*-1 A794:1.+30 A797:A*-1
  A7B5:8*-1 A7C8:2*-1 A7CD:8*-1 A7F6:1.-1 AB53:1.-3A0 AB70:50.-97D0 FF41:1A.-20
  10428:28.-28 104D8:24.-28 10597:B.-27 105A3:F.-27 105B3:7.-27 105BB:2.-27 10CC0:33.-40
  10D70:16.-20 118C0:20.-20 16E60:20.-20 16EBB:19.-1B 1E922:22.-22"

private def lowerRuns : Array CaseRun := readCaseRuns
  "41:1A.+20 C0:17.+20 D8:7.+20 100:18*+1 132:3*+1 139:8*+1 14A:17*+1 178:1.-79 179:3*+1
  181:1.+D2 182:2*+1 186:1.+CE 187:1.+1 189:2.+CD 18B:1.+1 18E:1.+4F 18F:1.+CA 190:1.+CB
  191:1.+1 193:1.+CD 194:1.+CF 196:1.+D3 197:1.+D1 198:1.+1 19C:1.+D3 19D:1.+D5 19F:1.+D6
  1A0:3*+1 1A6:1.+DA 1A7:1.+1 1A9:1.+DA 1AC:1.+1 1AE:1.+DA 1AF:1.+1 1B1:2.+D9 1B3:2*+1
  1B7:1.+DB 1B8:1.+1 1BC:1.+1 1C4:1.+2 1C5:1.+1 1C7:1.+2 1C8:1.+1 1CA:1.+2 1CB:9*+1
  1DE:9*+1 1F1:1.+2 1F2:2*+1 1F6:1.-61 1F7:1.-38 1F8:14*+1 220:1.-82 222:9*+1 23A:1.+2A2B
  23B:1.+1 23D:1.-A3 23E:1.+2A28 241:1.+1 243:1.-C3 244:1.+45 245:1.+47 246:5*+1 370:2*+1
  376:1.+1 37F:1.+74 386:1.+26 388:3.+25 38C:1.+40 38E:2.+3F 391:11.+20 3A3:9.+20 3CF:1.+8
  3D8:C*+1 3F4:1.-3C 3F7:1.+1 3F9:1.-7 3FA:1.+1 3FD:3.-82 400:10.+50 410:20.+20 460:11*+1
  48A:1B*+1 4C0:1.+F 4C1:7*+1 4D0:30*+1 531:26.+30 10A0:26.+1C60 10C7:1.+1C60 10CD:1.+1C60
  13A0:50.+97D0 13F0:6.+8 1C89:1.+1 1C90:2B.-BC0 1CBD:3.-BC0 1E00:4B*+1 1E9E:1.-1DBF
  1EA0:30*+1 1F08:8.-8 1F18:6.-8 1F28:8.-8 1F38:8.-8 1F48:6.-8 1F59:4*-8 1F68:8.-8
  1F88:8.-8 1F98:8.-8 1FA8:8.-8 1FB8:2.-8 1FBA:2.-4A 1FBC:1.-9 1FC8:4.-56 1FCC:1.-9
  1FD8:2.-8 1FDA:2.-64 1FE8:2.-8 1FEA:2.-70 1FEC:1.-7 1FF8:2.-80 1FFA:2.-7E 1FFC:1.-9
  2126:1.-1D5D 212A:1.-20BF 212B:1.-2046 2132:1.+1C 2160:10.+10 2183:1.+1 24B6:1A.+1A
  2C00:30.+30 2C60:1.+1 2C62:1.-29F7 2C63:1.-EE6 2C64:1.-29E7 2C67:3*+1 2C6D:1.-2A1C
  2C6E:1.-29FD 2C6F:1.-2A1F 2C70:1.-2A1E 2C72:1.+1 2C75:1.+1 2C7E:2.-2A3F 2C80:32*+1
  2CEB:2*+1 2CF2:1.+1 A640:17*+1 A680:E*+1 A722:7*+1 A732:1F*+1 A779:2*+1 A77D:1.-8A04
  A77E:5*+1 A78B:1.+1 A78D:1.-A528 A790:2*+1 A796:A*+1 A7AA:1.-A544 A7AB:1.-A54F
  A7AC:1.-A54B A7AD:1.-A541 A7AE:1.-A544 A7B0:1.-A512 A7B1:1.-A52A A7B2:1.-A515
  A7B3:1.+3A0 A7B4:8*+1 A7C4:1.-30 A7C5:1.-A543 A7C6:1.-8A38 A7C7:2*+1 A7CB:1.-A567
  A7CC:8*+1 A7DC:1.-A641 A7F5:1.+1 FF21:1A.+20 10400:28.+28 104B0:24.+28 10570:B.+27
  1057C:F.+27 1058C:7.+27 10594:2.+27 10C80:33.+40 10D50:16.+20 118A0:20.+20 16E40:20.+20
  16EA0:19.+1B 1E900:22.+22"

/-- Characters whose upper case has several characters. -/
private def longUpper : List (Nat × List Char) :=
  (words "DF:53,53 149:2BC,4E 1F0:4A,30C 390:399,308,301 3B0:3A5,308,301 587:535,552 1E96:48,331
   1E97:54,308 1E98:57,30A 1E99:59,30A 1E9A:41,2BE 1F50:3A5,313 1F52:3A5,313,300
   1F54:3A5,313,301 1F56:3A5,313,342 1F80:1F08,399 1F81:1F09,399 1F82:1F0A,399
   1F83:1F0B,399 1F84:1F0C,399 1F85:1F0D,399 1F86:1F0E,399 1F87:1F0F,399 1F88:1F08,399
   1F89:1F09,399 1F8A:1F0A,399 1F8B:1F0B,399 1F8C:1F0C,399 1F8D:1F0D,399 1F8E:1F0E,399
   1F8F:1F0F,399 1F90:1F28,399 1F91:1F29,399 1F92:1F2A,399 1F93:1F2B,399 1F94:1F2C,399
   1F95:1F2D,399 1F96:1F2E,399 1F97:1F2F,399 1F98:1F28,399 1F99:1F29,399 1F9A:1F2A,399
   1F9B:1F2B,399 1F9C:1F2C,399 1F9D:1F2D,399 1F9E:1F2E,399 1F9F:1F2F,399 1FA0:1F68,399
   1FA1:1F69,399 1FA2:1F6A,399 1FA3:1F6B,399 1FA4:1F6C,399 1FA5:1F6D,399 1FA6:1F6E,399
   1FA7:1F6F,399 1FA8:1F68,399 1FA9:1F69,399 1FAA:1F6A,399 1FAB:1F6B,399 1FAC:1F6C,399
   1FAD:1F6D,399 1FAE:1F6E,399 1FAF:1F6F,399 1FB2:1FBA,399 1FB3:391,399 1FB4:386,399
   1FB6:391,342 1FB7:391,342,399 1FBC:391,399 1FC2:1FCA,399 1FC3:397,399 1FC4:389,399
   1FC6:397,342 1FC7:397,342,399 1FCC:397,399 1FD2:399,308,300 1FD3:399,308,301
   1FD6:399,342 1FD7:399,308,342 1FE2:3A5,308,300 1FE3:3A5,308,301 1FE4:3A1,313
   1FE6:3A5,342 1FE7:3A5,308,342 1FF2:1FFA,399 1FF3:3A9,399 1FF4:38F,399 1FF6:3A9,342
   1FF7:3A9,342,399 1FFC:3A9,399 FB00:46,46 FB01:46,49 FB02:46,4C FB03:46,46,49
   FB04:46,46,4C FB05:53,54 FB06:53,54 FB13:544,546 FB14:544,535 FB15:544,53B
   FB16:54E,546 FB17:544,53D").map fun word =>
    let (first, rest) := (word.toList.takeWhile (· ≠ ':'), (word.toList.dropWhile (· ≠ ':')).drop 1)
    (natOfDigits 16 first,
      ((String.ofList rest).splitOn ",").map fun code => Char.ofNat (natOfDigits 16 code.toList))

private def applyRuns (runs : Array CaseRun) (c : Char) : Char :=
  match runs[lastAtMost (fun r => r.first) runs c.toNat]? with
  | none => c
  | some run =>
    let offset := c.toNat - run.first
    if run.first ≤ c.toNat ∧ offset % run.stride = 0 ∧ offset / run.stride < run.count then
      Char.ofNat (((c.toNat : Int) + run.distance).toNat)
    else c

/-- The upper-case counterpart of one character, where it is one character. -/
def upperChar (c : Char) : Char :=
  if c.toNat < 128 then c.toUpper else applyRuns upperRuns c

/-- The lower-case counterpart of one character, where it is one character. -/
def lowerChar (c : Char) : Char :=
  if c.toNat < 128 then c.toLower else applyRuns lowerRuns c

/-- The upper case of one character. -/
def upperOf (c : Char) : List Char :=
  if c.toNat < 128 then [c.toUpper]
  else (longUpper.lookup c.toNat).getD [upperChar c]

/-- The lower case of one character, without regard to its neighbours. -/
def lowerOf (c : Char) : List Char :=
  if c = 'İ' then ['i', Char.ofNat 0x307] else [lowerChar c]

/-- Upper case of a text. -/
def upper (cs : List Char) : List Char :=
  cs.flatMap upperOf

/-- Whether the nearest character that is not skipped has a case. -/
private def meetsCased (cs : List Char) : Bool :=
  match cs.dropWhile isCaseIgnorable with
  | c :: _ => isCased c
  | [] => false

/-- Lower case of a text whose part `before`, reversed, has been read.  A capital sigma that
ends a word becomes a final sigma. -/
private def lowerFrom (before : List Char) : List Char → List Char
  | [] => []
  | c :: rest =>
    (if c = 'Σ' then [if meetsCased before && !meetsCased rest then 'ς' else 'σ']
     else lowerOf c) ++ lowerFrom (c :: before) rest

/-- Lower case of a text. -/
def lower (cs : List Char) : List Char :=
  lowerFrom [] cs

/-- Sets of characters equal when case is ignored, where they are not just a character with its
counterparts. -/
private def caseSets : List (List Char) :=
  (words "4B,6B,212A 53,73,17F C5,E5,212B 1C4,1C5,1C6 1C7,1C8,1C9 1CA,1CB,1CC 1F1,1F2,1F3
    392,3B2,3D0 395,3B5,3F5 398,3B8,3D1,3F4 345,399,3B9,1FBE 39A,3BA,3F0 B5,39C,3BC
    3A0,3C0,3D6 3A1,3C1,3F1 3A3,3C2,3C3 3A6,3C6,3D5 3A9,3C9,2126 412,432,1C80
    414,434,1C81 41E,43E,1C82 421,441,1C83 422,442,1C84,1C85 42A,44A,1C86 462,463,1C87
    1E60,1E61,1E9B 1C88,A64A,A64B DF,1E9E 390,1FD3 3B0,1FE3 1F80,1F88 1F81,1F89
    1F82,1F8A 1F83,1F8B 1F84,1F8C 1F85,1F8D 1F86,1F8E 1F87,1F8F 1F90,1F98 1F91,1F99
    1F92,1F9A 1F93,1F9B 1F94,1F9C 1F95,1F9D 1F96,1F9E 1F97,1F9F 1FA0,1FA8 1FA1,1FA9
    1FA2,1FAA 1FA3,1FAB 1FA4,1FAC 1FA5,1FAD 1FA6,1FAE 1FA7,1FAF 1FB3,1FBC 1FC3,1FCC
    1FF3,1FFC FB05,FB06 131").map fun word =>
      (word.splitOn ",").map fun code => Char.ofNat (natOfDigits 16 code.toList)

/-- The characters equal to a character when case is ignored, itself included. -/
def variants (c : Char) : List Char :=
  match caseSets.find? fun set => set.contains c with
  | some set => set
  | none => [c, upperChar c, lowerChar c]

end RecipeRunner.Unicode
