/-!
# Why a pattern is refused

One constructor for each cause.  A fault is reported with the pattern that it was found in, on lines
of its own below a fixed heading.
-/

namespace LiteralPatch
namespace Pattern

/-- The cause for which a pattern is refused. -/
inductive Fault where
  | groupUnclosed
  | groupUnopened
  | groupNameEmpty
  | groupNameInvalid
  | groupNameUnfinished
  | groupNameDuplicate
  | lookAround
  | flagUnknown
  | flagRepeated
  | flagNegationRepeated
  | flagNegationDangling
  | flagUnfinished
  | repetitionMissing
  | repetitionUnclosed
  | repetitionCountMissing
  | repetitionCountInvalid
  | decimalInvalid
  | escapeUnfinished
  | escapeUnknown
  | backreference
  | hexEmpty
  | hexDigitInvalid
  | hexInvalid
  | wordEdgeUnclosed
  | wordEdgeUnknown
  | classUnclosed
  | classEscapeInvalid
  | classRangeInvalid
  | classRangeLiteral
  | propertyUnknown
  | propertyInvalid
  | unicodeNotAllowed
  | invalidText
  | nestedTooDeep
  /-- The program would be larger than any pattern of use needs. -/
  | tooLarge
deriving DecidableEq, Repr

namespace Fault

/-- The cause in words. -/
def describe : Fault → String
  | groupUnclosed => "unclosed group"
  | groupUnopened => "unopened group"
  | groupNameEmpty => "empty capture group name"
  | groupNameInvalid => "invalid capture group character"
  | groupNameUnfinished => "unclosed capture group name"
  | groupNameDuplicate => "duplicate capture group name"
  | lookAround => "look-around, including look-ahead and look-behind, is not supported"
  | flagUnknown => "unrecognized flag"
  | flagRepeated => "duplicate flag"
  | flagNegationRepeated => "flag negation operator repeated"
  | flagNegationDangling => "dangling flag negation operator"
  | flagUnfinished => "expected flag but got end of regex"
  | repetitionMissing => "repetition operator missing expression"
  | repetitionUnclosed => "unclosed counted repetition"
  | repetitionCountMissing => "repetition quantifier expects a valid decimal"
  | repetitionCountInvalid =>
    "invalid repetition count range, the start must be <= the end"
  | decimalInvalid => "decimal literal invalid"
  | escapeUnfinished =>
    "incomplete escape sequence, reached end of pattern prematurely"
  | escapeUnknown => "unrecognized escape sequence"
  | backreference => "backreferences are not supported"
  | hexEmpty => "hexadecimal literal empty"
  | hexDigitInvalid => "invalid hexadecimal digit"
  | hexInvalid => "hexadecimal literal is not a Unicode scalar value"
  | wordEdgeUnclosed =>
    "special word boundary assertion is either unclosed or contains an invalid character"
  | wordEdgeUnknown => "unrecognized special word boundary assertion"
  | classUnclosed => "unclosed character class"
  | classEscapeInvalid => "invalid escape sequence found in character class"
  | classRangeInvalid =>
    "invalid character class range, the start must be <= the end"
  | classRangeLiteral => "invalid range boundary, must be a literal"
  | propertyUnknown => "Unicode property not found"
  | propertyInvalid => "invalid Unicode character class"
  | unicodeNotAllowed => "Unicode not allowed here"
  | invalidText => "pattern can match invalid UTF-8"
  | nestedTooDeep => "exceeded the maximum number of nested parentheses/brackets (250)"
  | tooLarge => "compiled pattern exceeds the size limit"

/-- The report on a pattern: a heading, the pattern, and the cause.  A fault does not know its place, so the
line of carets that would mark it, between the pattern and the cause, is left out. -/
def message (pattern : String) : Fault → String
  | tooLarge => "Compiled regex exceeds size limit of 67108864 bytes."
  | fault => "regex parse error:\n    " ++ pattern ++ "\nerror: " ++ fault.describe

end Fault
end Pattern
end LiteralPatch
