import LiteralPatch.Rule

/-!
# Patching a text

Rule sets run in order, and in each set the rules run in order; every rule sees the text that the rules
before it left.  The record keeps each change with the rule that made it, in the order in which they
were made.
-/

namespace LiteralPatch

/-- A change that was made.  The span is where the old value stood in the text that the rule was given,
before the rule's own changes. -/
structure AppliedChange where
  ruleSet : String
  rule : String
  oldValue : String
  newValue : String
  source : MatchSource
  span : Span
deriving DecidableEq, Repr

namespace AppliedChange

/-- A change of a rule, recorded. -/
def ofChange (ruleSet rule : String) (c : Change) : AppliedChange :=
  ⟨ruleSet, rule, c.oldValue, c.newValue, c.source, c.span⟩

/-- The change on one line; a fallback is named. -/
def message (c : AppliedChange) : String :=
  c.rule ++ ": " ++ c.oldValue ++ " → " ++ c.newValue ++
    match c.source with
    | .primary => ""
    | .fallback n => " [" ++ (MatchSource.fallback n).message ++ "]"

end AppliedChange

/-- A text and the changes that led to it. -/
structure Patched where
  text : String
  applied : List AppliedChange
deriving DecidableEq, Repr

namespace Patched

/-- Runs one rule of the named set. -/
def afterRule (p : Patched) (ruleSet : String) (r : Rule) : Except ApplyError Patched :=
  match r.apply p.text with
  | .ok none => .ok p
  | .ok (some a) =>
    .ok ⟨a.text, p.applied ++ a.changes.map (AppliedChange.ofChange ruleSet r.name)⟩
  | .error e => .error e

/-- Runs the rules of a set in order. -/
def afterSet (p : Patched) (s : RuleSet) : Except ApplyError Patched :=
  s.rules.foldlM (fun p r => p.afterRule s.name r) p

end Patched

/-- Runs rule sets over a text. -/
def patch (sets : List RuleSet) (text : String) : Except ApplyError Patched :=
  sets.foldlM Patched.afterSet ⟨text, []⟩

end LiteralPatch
