/-!
# JSON values

As much of JSON as reports are made of: numbers are natural, and the fields of an object are in the
order in which they are written.
-/

namespace LiteralPatch

/-- A value. -/
inductive Json where
  | null
  | boolean (b : Bool)
  | number (n : Nat)
  | string (s : String)
  | array (items : List Json)
  | object (fields : List (String × Json))
deriving Repr, Inhabited

end LiteralPatch
