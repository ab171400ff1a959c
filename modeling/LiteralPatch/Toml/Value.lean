/-!
# Values of a TOML document

A table is a list of entries in the order in which they were written; no key occurs twice.  Floats and
date-times are kept as they were written: no table of rules has a field of either kind, so all that is
ever asked of one is that it is not something else.
-/

namespace LiteralPatch
namespace Toml

/-- A value of a document. -/
inductive Value where
  | string (text : String)
  | integer (n : Int)
  | float (text : String)
  | boolean (b : Bool)
  | dateTime (text : String)
  | array (items : List Value)
  | table (entries : List (String × Value))
deriving Repr, Inhabited

/-- Why a text is no document. -/
inductive Fault where
  | unexpectedEnd
  | unexpectedCharacter (c : Char)
  | controlCharacter
  | unclosedString
  | escapeInvalid
  | scalarInvalid
  | integerTooLarge
  | keyMissing
  | keyDuplicate (key : String)
  | keyNoTable (key : String)
  | nestedTooDeep
deriving DecidableEq, Repr

namespace Fault

def message : Fault → String
  | unexpectedEnd => "unexpected end of document"
  | unexpectedCharacter c => "unexpected character " ++ c.quote
  | controlCharacter => "control characters are not permitted"
  | unclosedString => "unclosed string"
  | escapeInvalid => "invalid escape sequence"
  | scalarInvalid => "invalid value"
  | integerTooLarge => "integer number overflowed"
  | keyMissing => "key expected"
  | keyDuplicate key => "duplicate key: " ++ key
  | keyNoTable key => "key is no table: " ++ key
  | nestedTooDeep => "recursion limit exceeded"

end Fault
end Toml
end LiteralPatch
