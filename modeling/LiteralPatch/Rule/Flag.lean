import LiteralPatch.Pattern.Escape

/-!
# The pattern of a flag

A flag is a boolean literal behind a quoted key, near a marker.  The marker and the key are taken
literally, up to case; what may stand between them depends on the scope.

* `entry`: a quoted string that begins with the marker, then no closing brace up to the key.
* `keyedObject`: meant for an object that the marker keys.  Such a string, then no colon up to the colon
  that opens an object, then no closing brace up to the key.
* `object`: an opening brace, then the marker behind a quote, then the key, with no closing brace in
  between.
-/

namespace LiteralPatch

/-- Where the marker stands relative to the key. -/
inductive FlagScope where
  | entry
  | keyedObject
  | object
deriving DecidableEq, Repr, Inhabited

namespace FlagScope

/-- The text of a boolean literal. -/
def literalText (b : Bool) : String := if b then "true" else "false"

/-- The pattern of the key and the literal, which is the same in every scope. -/
def tail (key : List Char) (literal : Bool) : List Char :=
  ['"'] ++ Pattern.escaped key ++ "\"\\s*:\\s*(?P<value>".toList ++ (literalText literal).toList ++
    ")\\b".toList

/-- The pattern of a flag. -/
def pattern (scope : FlagScope) (marker key : String) (literal : Bool) : String :=
  let m := Pattern.escaped marker.toList
  let rest := tail key.toList literal
  String.ofList <|
    match scope with
    | .entry => ['"'] ++ m ++ "[^\"]*\"[^\x7d]*".toList ++ rest
    | .keyedObject => ['"'] ++ m ++ "[^\"]*\"[^:]*:\\s*\\\x7b[^\x7d]*".toList ++ rest
    | .object => "\\\x7b[^\x7d]*\"".toList ++ m ++ "[^\x7d]*".toList ++ rest

end FlagScope
end LiteralPatch
