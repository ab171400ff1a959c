import LiteralPatch.CharSet
import LiteralPatch.Unicode.Word
import LiteralPatch.Unicode.Category
import LiteralPatch.Unicode.Script
import LiteralPatch.Unicode.Binary

/-!
# Named properties

A pattern may name a set of characters by a Unicode property: a binary property, a general category
or a script, each under any of its aliases.  Names are compared loosely: case, blanks, hyphens and
underscores do not count, nor does a leading `is`.

A bare name is looked up as a binary property first, then as a category, then as a script.  Three
names are abbreviations on both sides of that order and always mean the category (`shadowed`).
-/

namespace LiteralPatch
namespace Unicode

/-! ## Reading a table -/

/-- The value of a hexadecimal digit. -/
def hexDigit? (c : Char) : Option Nat :=
  if '0' ≤ c ∧ c ≤ '9' then some (c.toNat - '0'.toNat)
  else if 'a' ≤ c ∧ c ≤ 'f' then some (c.toNat - 'a'.toNat + 10)
  else if 'A' ≤ c ∧ c ≤ 'F' then some (c.toNat - 'A'.toNat + 10)
  else none

/-- Reads ranges such as `41-5A 61`: `lo` is the start of the range being read, if its hyphen has
been seen, and `n` the number so far. -/
def readRanges : Option Nat → Nat → List Char → List (Nat × Nat)
  | lo, n, [] => [(lo.getD n, n)]
  | lo, n, ' ' :: cs => (lo.getD n, n) :: readRanges none 0 cs
  | _, n, '-' :: cs => readRanges (some n) 0 cs
  | lo, n, c :: cs => readRanges lo (n * 16 + (hexDigit? c).getD 0) cs

/-- The set that a row of a table describes; its lines are in ascending order. -/
def ofTable (table : List (String × List String)) (name : String) : Option CharSet :=
  (table.lookup name).map fun lines => ⟨lines.flatMap fun line => readRanges none 0 line.toList⟩

/-! ## Names -/

/-- Drops what a loose comparison of names ignores.  A leading `is` is ignored too, unless the name
is the abbreviation `isc`. -/
def looseName (name : List Char) : String :=
  let keep (cs : List Char) : List Char :=
    (cs.filter fun c => c ≠ ' ' && c ≠ '_' && c ≠ '-' && c.toNat < 0x80).map Char.toLower
  match name with
  | a :: b :: rest =>
    if a.toLower == 'i' && b.toLower == 's' then
      let short := keep rest
      String.ofList (if short = ['c'] then ['i', 's', 'c'] else short)
    else String.ofList (keep name)
  | _ => String.ofList (keep name)

/-- Other names of general categories, and the categories that each stands for. -/
def categoryAliases : List (String × List String) := [
  ("cc", ["Cc"]), ("control", ["Cc"]), ("cntrl", ["Cc"]),
  ("cf", ["Cf"]), ("format", ["Cf"]),
  ("cn", ["Cn"]), ("unassigned", ["Cn"]),
  ("co", ["Co"]), ("privateuse", ["Co"]),
  ("ll", ["Ll"]), ("lowercaseletter", ["Ll"]),
  ("lm", ["Lm"]), ("modifierletter", ["Lm"]),
  ("lo", ["Lo"]), ("otherletter", ["Lo"]),
  ("lt", ["Lt"]), ("titlecaseletter", ["Lt"]),
  ("lu", ["Lu"]), ("uppercaseletter", ["Lu"]),
  ("mc", ["Mc"]), ("spacingmark", ["Mc"]),
  ("me", ["Me"]), ("enclosingmark", ["Me"]),
  ("mn", ["Mn"]), ("nonspacingmark", ["Mn"]),
  ("nd", ["Nd"]), ("decimalnumber", ["Nd"]), ("digit", ["Nd"]),
  ("nl", ["Nl"]), ("letternumber", ["Nl"]),
  ("no", ["No"]), ("othernumber", ["No"]),
  ("pc", ["Pc"]), ("connectorpunctuation", ["Pc"]),
  ("pd", ["Pd"]), ("dashpunctuation", ["Pd"]),
  ("pe", ["Pe"]), ("closepunctuation", ["Pe"]),
  ("pf", ["Pf"]), ("finalpunctuation", ["Pf"]),
  ("pi", ["Pi"]), ("initialpunctuation", ["Pi"]),
  ("po", ["Po"]), ("otherpunctuation", ["Po"]),
  ("ps", ["Ps"]), ("openpunctuation", ["Ps"]),
  ("sc", ["Sc"]), ("currencysymbol", ["Sc"]),
  ("sk", ["Sk"]), ("modifiersymbol", ["Sk"]),
  ("sm", ["Sm"]), ("mathsymbol", ["Sm"]),
  ("so", ["So"]), ("othersymbol", ["So"]),
  ("zl", ["Zl"]), ("lineseparator", ["Zl"]),
  ("zp", ["Zp"]), ("paragraphseparator", ["Zp"]),
  ("zs", ["Zs"]), ("spaceseparator", ["Zs"]),
  ("c", ["Cc", "Cf", "Cn", "Co"]), ("other", ["Cc", "Cf", "Cn", "Co"]),
  ("l", ["Ll", "Lm", "Lo", "Lt", "Lu"]), ("letter", ["Ll", "Lm", "Lo", "Lt", "Lu"]),
  ("lc", ["Ll", "Lt", "Lu"]), ("casedletter", ["Ll", "Lt", "Lu"]),
  ("m", ["Mc", "Me", "Mn"]), ("mark", ["Mc", "Me", "Mn"]), ("combiningmark", ["Mc", "Me", "Mn"]),
  ("n", ["Nd", "Nl", "No"]), ("number", ["Nd", "Nl", "No"]),
  ("p", ["Pc", "Pd", "Pe", "Pf", "Pi", "Po", "Ps"]),
  ("punctuation", ["Pc", "Pd", "Pe", "Pf", "Pi", "Po", "Ps"]),
  ("punct", ["Pc", "Pd", "Pe", "Pf", "Pi", "Po", "Ps"]),
  ("s", ["Sc", "Sk", "Sm", "So"]), ("symbol", ["Sc", "Sk", "Sm", "So"]),
  ("z", ["Zl", "Zp", "Zs"]), ("separator", ["Zl", "Zp", "Zs"])]

/-- Other names of binary properties. -/
def binaryAliases : List (String × String) := [
  ("ahex", "asciihexdigit"), ("alpha", "alphabetic"), ("bidic", "bidicontrol"),
  ("bidim", "bidimirrored"), ("ci", "caseignorable"), ("cwcf", "changeswhencasefolded"),
  ("cwcm", "changeswhencasemapped"), ("cwl", "changeswhenlowercased"),
  ("cwt", "changeswhentitlecased"), ("cwu", "changeswhenuppercased"),
  ("di", "defaultignorablecodepoint"), ("dep", "deprecated"), ("dia", "diacritic"),
  ("ecomp", "emojicomponent"), ("emod", "emojimodifier"), ("ebase", "emojimodifierbase"),
  ("epres", "emojipresentation"), ("extpict", "extendedpictographic"), ("ext", "extender"),
  ("grbase", "graphemebase"), ("grext", "graphemeextend"), ("hex", "hexdigit"),
  ("idsb", "idsbinaryoperator"), ("idst", "idstrinaryoperator"), ("idc", "idcontinue"),
  ("ids", "idstart"), ("ideo", "ideographic"), ("joinc", "joincontrol"),
  ("loe", "logicalorderexception"), ("lower", "lowercase"), ("nchar", "noncharactercodepoint"),
  ("patsyn", "patternsyntax"), ("patws", "patternwhitespace"), ("qmark", "quotationmark"),
  ("ri", "regionalindicator"), ("sterm", "sentenceterminal"), ("sd", "softdotted"),
  ("term", "terminalpunctuation"), ("uideo", "unifiedideograph"), ("upper", "uppercase"),
  ("vs", "variationselector"), ("wspace", "whitespace"), ("space", "whitespace"),
  ("xidc", "xidcontinue"), ("xids", "xidstart")]

/-! ## Looking a name up -/

/-- The characters of a general category, or of a group of them. -/
def category? (name : String) : Option CharSet :=
  if name = "any" then some CharSet.all
  else if name = "ascii" then some (CharSet.interval 0 0x7F)
  else if name = "assigned" then (ofTable categoryTable "Cn").map CharSet.complement
  else (categoryAliases.lookup name).map fun parts =>
    parts.foldl (fun acc part => acc.union ((ofTable categoryTable part).getD CharSet.empty))
      CharSet.empty

/-- The full name of a script. -/
def scriptName (name : String) : String :=
  (scriptAliases.lookup name).getD name

def script? (name : String) : Option CharSet :=
  ofTable scriptTable (scriptName name)

def scriptExtension? (name : String) : Option CharSet :=
  ofTable scriptExtensionTable (scriptName name) <|> script? name

def binary? (name : String) : Option CharSet :=
  ofTable binaryTable ((binaryAliases.lookup name).getD name)

/-- Abbreviations that mean a category although a property is abbreviated alike. -/
def shadowed : List String := ["cf", "sc", "lc"]

/-- The set named by a bare name. -/
def named? (name : List Char) : Option CharSet :=
  let key := looseName name
  (if key ∈ shadowed then none else binary? key) <|> category? key <|> script? key

/-- The set named by a property and one of its values. -/
def valued? (property value : List Char) : Option CharSet :=
  let value := looseName value
  match looseName property with
  | "gc" | "generalcategory" => category? value
  | "sc" | "script" => script? value
  | "scx" | "scriptextensions" => scriptExtension? value
  | _ => none

end Unicode
end LiteralPatch
