import LiteralPatch.Text.Number

/-!
# Guards

A guard is asked before a captured value is replaced.  It keeps a loose pattern from lowering a value
that is already past the target.
-/

namespace LiteralPatch

/-- A condition on a captured value. -/
inductive Guard where
  /-- The value is a number strictly below the bound.  A value that does not fit into 64 bits is no
  number, so it is never taken for a small one. -/
  | lessThan (bound : Nat)
  /-- The value is one of these texts. -/
  | oneOf (values : List String)
deriving DecidableEq, Repr

namespace Guard

/-- Whether the captured value may be replaced. -/
def allows (g : Guard) (captured : String) : Bool :=
  match g with
  | lessThan bound =>
    match Text.readWord? captured.toList with
    | some n => n < bound
    | none => false
  | oneOf values => values.contains captured

end Guard
end LiteralPatch
