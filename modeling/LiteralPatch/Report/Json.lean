import LiteralPatch.Json.Pretty
import LiteralPatch.Report

/-!
# Outcomes in JSON

An outcome has one field for each of its parts, under fixed names and in a fixed order.  Times are counted
from 1970, and a time before that has no form: it is the only way in which writing a report fails.
-/

namespace LiteralPatch

/-- Why an outcome has no JSON form. -/
inductive JsonError where
  | beforeEpoch
deriving DecidableEq, Repr

namespace JsonError

def message : JsonError → String
  | beforeEpoch => "SystemTime must be later than UNIX_EPOCH"

end JsonError

namespace Time

def toJson (t : Time) : Except JsonError Json :=
  if 0 ≤ t.seconds then
    .ok (.object [("secs_since_epoch", .number t.seconds.toNat),
      ("nanos_since_epoch", .number t.nanos)])
  else .error .beforeEpoch

end Time

namespace Span

def toJson (s : Span) : Json :=
  .object [("start", .number s.start), ("end", .number s.stop)]

end Span

namespace MatchSource

def toJson : MatchSource → Json
  | primary => .string "primary"
  | fallback n => .object [("fallback", .number n)]

end MatchSource

namespace AppliedChange

def toJson (c : AppliedChange) : Json :=
  .object [("rule_set", .string c.ruleSet), ("rule", .string c.rule), ("old_value", .string c.oldValue),
    ("new_value", .string c.newValue), ("source", c.source.toJson), ("span", c.span.toJson)]

end AppliedChange

namespace Backup

def toJson (b : Backup) : Except JsonError Json := do
  pure (.object [("original_path", .string b.source.text), ("backup_path", .string b.path.text),
    ("created_at", ← b.createdAt.toJson), ("reused", .boolean b.reused)])

end Backup

namespace Outcome

def toJson (o : Outcome) : Except JsonError Json := do
  let backup ←
    match o.backup with
    | some b => b.toJson
    | none => pure Json.null
  pure (.object [("target", .string o.target.text), ("status", .string o.status.name),
    ("applied", .array (o.applied.map AppliedChange.toJson)), ("backup", backup)])

/-- The outcome as JSON text. -/
def jsonText (o : Outcome) : Except JsonError String :=
  o.toJson.map Json.pretty

end Outcome
end LiteralPatch
