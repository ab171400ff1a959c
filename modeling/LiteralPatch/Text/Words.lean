import LiteralPatch.Unicode.Word

/-!
# Blanks around text

Trimming, and the first word of a text.  Blank means the Unicode property `White_Space`, here and
everywhere else.
-/

namespace LiteralPatch
namespace Text

/-- Drops leading white space. -/
def trimLeft (cs : List Char) : List Char :=
  cs.dropWhile Unicode.isWhite

/-- Drops white space at both ends. -/
def trim (cs : List Char) : List Char :=
  (trimLeft (trimLeft cs).reverse).reverse

/-- The text without white space at its ends. -/
def trimmed (s : String) : String :=
  String.ofList (trim s.toList)

/-- Whether a text consists of white space. -/
def isBlank (s : String) : Bool :=
  s.toList.all Unicode.isWhite

/-- The characters up to the first white space, after leading white space. -/
def firstWord (cs : List Char) : List Char :=
  (trimLeft cs).takeWhile fun c => !Unicode.isWhite c

/-- ASCII capitals in lower case, and all else as it is. -/
def lowerAscii (s : String) : String :=
  String.ofList (s.toList.map Char.toLower)

end Text
end LiteralPatch
