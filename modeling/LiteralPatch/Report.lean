import LiteralPatch.Backup
import LiteralPatch.Patch

/-!
# What a run reports

A run prints nothing.  It returns an outcome: the target, how the run ended, every change in the order
in which it was made, and the backup, if one was made or kept.
-/

namespace LiteralPatch

/-- How a run ended. -/
inductive Status where
  /-- The patched text was written to the target. -/
  | written
  /-- There was nothing to change, and the target was left alone. -/
  | unchanged
  /-- There was something to change, and the target was left alone because that was asked for. -/
  | dryRun
deriving DecidableEq, Repr, Inhabited

namespace Status

def name : Status → String
  | written => "written"
  | unchanged => "unchanged"
  | dryRun => "dry-run"

/-- What the status says about the changes. -/
def verb : Status → String
  | written => "applied to"
  | unchanged => "found in"
  | dryRun => "would be applied to"

end Status

/-- The outcome of a run. -/
structure Outcome where
  target : Path
  status : Status
  applied : List AppliedChange
  backup : Option Backup
deriving DecidableEq, Repr

namespace Outcome

/-- Whether any rule had something to change. -/
def anyRuleMatched (o : Outcome) : Bool := !o.applied.isEmpty

/-- The rule, the old value and the new value of each change. -/
def entries (o : Outcome) : List (String × String × String) :=
  o.applied.map fun c => (c.rule, c.oldValue, c.newValue)

/-- The changes that the named rule made. -/
def changesOf (o : Outcome) (rule : String) : List AppliedChange :=
  o.applied.filter fun c => c.rule == rule

/-- The number of changes that a fallback led to. -/
def fallbackCount (o : Outcome) : Nat :=
  o.applied.countP fun c => c.source ≠ .primary

/-- The outcome in words, one line for each change. -/
def message (o : Outcome) : String :=
  if o.applied.isEmpty then
    "No modifications: " ++ o.target.text ++
      " may already be patched or its layout is not recognized"
  else
    String.join (o.applied.map fun c => c.message ++ "\n") ++
      toString o.applied.length ++ " change(s) " ++ o.status.verb ++ " " ++ o.target.text

end Outcome
end LiteralPatch
