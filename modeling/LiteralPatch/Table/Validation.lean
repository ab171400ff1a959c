import LiteralPatch.Table.Definition
import LiteralPatch.Text.Words

/-!
# What is wrong with a table

Validation lists every issue of a table, in the order in which the table is read; a table without
issues is valid.  A rule without a name is reported for that alone, since every other issue is about a
named rule.  Compiling the rule finds bad patterns, missing `value` groups and idle flags in one place,
and counts as one issue.
-/

namespace LiteralPatch

/-- One defect of a table. -/
inductive Issue where
  | noRuleSets
  | emptyRuleSet (ruleSet : String)
  /-- A field that is missing or blank, of the named rule if it has a name. -/
  | missingField (rule : Option String) (field : String)
  | duplicateRule (rule : String)
  | invalidRule (rule : String) (cause : RuleError)
deriving DecidableEq, Repr

namespace Issue

def message : Issue → String
  | noRuleSets => "rule config contains no rule sets"
  | emptyRuleSet s => "rule set '" ++ s ++ "' contains no rules"
  | missingField (some rule) field =>
    "rule '" ++ rule ++ "' missing required field '" ++ field ++ "'"
  | missingField none field => "rule missing required field '" ++ field ++ "'"
  | duplicateRule rule => "rule name '" ++ rule ++ "' is used more than once"
  | invalidRule rule cause => "rule '" ++ rule ++ "' is invalid: " ++ cause.message

/-- The issues, one to a line. -/
def messages (issues : List Issue) : String :=
  String.intercalate "\n" (issues.map message)

end Issue

namespace RuleDefinition

/-- The fields of a rule that may not be blank, or not be empty, and are. -/
def missingFields : RuleDefinition → List String
  | value _ primary _ replacement _ _ =>
    (if Text.isBlank primary then ["primary"] else []) ++
      (if replacement.isEmpty then ["replacement"] else [])
  | flag _ marker key _ _ _ =>
    (if Text.isBlank marker then ["marker"] else []) ++
      (if Text.isBlank key then ["key"] else [])

/-- The issue of a rule that does not compile. -/
def compileIssues (d : RuleDefinition) : StateM PatternCache (List Issue) := do
  match ← d.compile.run with
  | .ok _ => pure []
  | .error cause => pure [.invalidRule d.name cause]

/-- The issues of one rule, where the names in `seen` are taken. -/
def issues (d : RuleDefinition) (seen : List String) : StateM PatternCache (List Issue) :=
  if Text.isBlank d.name then pure [.missingField none "name"]
  else do
    let repeated := if d.name ∈ seen then [Issue.duplicateRule d.name] else []
    let missing := d.missingFields.map fun field => Issue.missingField (some d.name) field
    pure (repeated ++ missing ++ (← d.compileIssues))

/-- The names taken after this rule. -/
def taken (d : RuleDefinition) (seen : List String) : List String :=
  if Text.isBlank d.name then seen else d.name :: seen

end RuleDefinition

namespace RuleTable

/-- The issues of rules in order, and the names taken after them. -/
def rulesIssues : List String → List RuleDefinition →
    StateM PatternCache (List Issue × List String)
  | seen, [] => pure ([], seen)
  | seen, d :: rest => do
    let here ← d.issues seen
    let (later, seen) ← rulesIssues (d.taken seen) rest
    pure (here ++ later, seen)

/-- The issues of a set's own name and size. -/
def setIssues (s : RuleSetDefinition) : List Issue :=
  (if Text.isBlank s.name then [Issue.missingField none "rule_sets.name"] else []) ++
    (if s.rules.isEmpty then [Issue.emptyRuleSet s.name] else [])

/-- The issues of sets in order; a name may be used once in all of them. -/
def setsIssues : List String → List RuleSetDefinition → StateM PatternCache (List Issue)
  | _, [] => pure []
  | seen, s :: rest => do
    let (inside, seen) ← rulesIssues seen s.rules
    pure (setIssues s ++ inside ++ (← setsIssues seen rest))

/-- Every issue of a table. -/
def issues (t : RuleTable) : StateM PatternCache (List Issue) := do
  let missing := if t.sets.isEmpty then [Issue.noRuleSets] else []
  pure (missing ++ (← setsIssues [] t.sets))

end RuleTable
end LiteralPatch
