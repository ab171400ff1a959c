import LiteralPatch.Text.Quoted

/-!
# Why a text is no version

A fault names the part of the version that was being read; a text that is no version requirement has
faults of the same kinds and a few of its own.
-/

namespace LiteralPatch
namespace Version

/-- The parts of a version, in the order in which they are read. -/
inductive Part where
  | major
  | minor
  | patch
  | pre
  | build
deriving DecidableEq, Repr

namespace Part

def name : Part → String
  | major => "major version number"
  | minor => "minor version number"
  | patch => "patch version number"
  | pre => "pre-release identifier"
  | build => "build metadata"

end Part

/-- Why a text is no version or no requirement. -/
inductive Fault where
  | empty
  | unexpectedEnd (part : Part)
  | unexpectedCharacter (part : Part) (c : Char)
  | characterAfter (part : Part) (c : Char)
  | commaExpected (part : Part) (c : Char)
  | leadingZero (part : Part)
  | tooLarge (part : Part)
  | emptySegment (part : Part)
  /-- A wildcard beside other comparators. -/
  | wildcardNotAlone (c : Char)
  | characterAfterWildcard
  | tooManyComparators
deriving DecidableEq, Repr

namespace Fault

def message : Fault → String
  | empty => "empty string, expected a semver version"
  | unexpectedEnd part => "unexpected end of input while parsing " ++ part.name
  | unexpectedCharacter part c =>
    "unexpected character " ++ Text.Quoted.char c ++ " while parsing " ++ part.name
  | characterAfter part c => "unexpected character " ++ Text.Quoted.char c ++ " after " ++ part.name
  | commaExpected part c =>
    "expected comma after " ++ part.name ++ ", found " ++ Text.Quoted.char c
  | leadingZero part => "invalid leading zero in " ++ part.name
  | tooLarge part => "value of " ++ part.name ++ " exceeds u64::MAX"
  | emptySegment part => "empty identifier segment in " ++ part.name
  | wildcardNotAlone c =>
    "wildcard req (" ++ c.toString ++ ") must be the only comparator in the version req"
  | characterAfterWildcard => "unexpected character after wildcard in version req"
  | tooManyComparators => "excessive number of version comparators"

end Fault
end Version
end LiteralPatch
