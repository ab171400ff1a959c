import LiteralPatch.Edit
import LiteralPatch.Rule.Guard
import LiteralPatch.Rule.Capture
import LiteralPatch.Rule.Flag

/-!
# Rules

A rule finds literals in a text and says what each of them becomes.  It never touches the text:
`Rule.apply` turns the changes into verified edits, so the same checks stand between every rule and
the text.

A *value rule* has a primary pattern and fallbacks.  The fallbacks are looser, and are consulted only
when the primary pattern has no value at all; one that is already right still keeps them out.  A *flag
rule* replaces a boolean literal wherever its pattern finds it.
-/

namespace LiteralPatch

/-- Which pattern of a rule found a value. -/
inductive MatchSource where
  | primary
  /-- The fallback at this place, counted from 1. -/
  | fallback (place : Nat)
deriving DecidableEq, Repr, Inhabited

namespace MatchSource

def message : MatchSource → String
  | primary => "primary"
  | fallback n => "fallback #" ++ toString n

end MatchSource

/-- One literal that a rule wants to replace; `span` is where `oldValue` stands in the text that the
rule was given. -/
structure Change where
  oldValue : String
  newValue : String
  span : Span
  source : MatchSource
deriving DecidableEq, Repr

/-- Replaces a captured value by a fixed text. -/
structure ValueRule where
  name : String
  primary : ValuePattern
  fallbacks : List ValuePattern
  replacement : String
  guard : Option Guard

namespace ValueRule

/-- The first fallback with a value, counted from `place`. -/
def firstFallback (text : String) : Nat → List ValuePattern → MatchSource × List ValueCapture
  | _, [] => (.primary, [])
  | place, p :: rest =>
    match p.findValues text with
    | [] => firstFallback text (place + 1) rest
    | found => (.fallback place, found)

/-- The values that the rule is about, and the pattern that found them. -/
def locate (r : ValueRule) (text : String) : MatchSource × List ValueCapture :=
  match r.primary.findValues text with
  | [] => firstFallback text 1 r.fallbacks
  | found => (.primary, found)

/-- Whether a captured value is to be replaced. -/
def wants (r : ValueRule) (value : String) : Bool :=
  value != r.replacement && (r.guard.map (·.allows value)).getD true

def find (r : ValueRule) (text : String) : List Change :=
  let (source, captures) := r.locate text
  (captures.filter fun c => r.wants c.value).map fun c =>
    ⟨c.value, r.replacement, c.span, source⟩

end ValueRule

/-- Replaces a boolean literal by the other one. -/
structure FlagRule where
  name : String
  /-- The literal that is put in place of the other. -/
  target : Bool
  pattern : ValuePattern

namespace FlagRule

def find (r : FlagRule) (text : String) : List Change :=
  (r.pattern.findValues text).map fun c =>
    ⟨c.value, FlagScope.literalText r.target, c.span, .primary⟩

end FlagRule

/-- A rule of either kind. -/
inductive Rule where
  | value (rule : ValueRule)
  | flag (rule : FlagRule)

/-- A rule whose edits do not fit the text it found them in. -/
structure ApplyError where
  rule : String
  cause : EditError
deriving DecidableEq, Repr

namespace ApplyError

def message (e : ApplyError) : String :=
  "rule '" ++ e.rule ++ "' produced an invalid edit: " ++ e.cause.message

end ApplyError

/-- The text after a rule, and the changes that led to it. -/
structure Application where
  text : String
  changes : List Change
deriving DecidableEq, Repr

namespace Rule

def name : Rule → String
  | value r => r.name
  | flag r => r.name

/-- Every literal that the rule wants to replace, from left to right. -/
def find : Rule → String → List Change
  | value r => r.find
  | flag r => r.find

/-- The patterns of the rule, the primary one first. -/
def describe : Rule → List String
  | value r => (r.primary :: r.fallbacks).map fun p => p.pattern.source
  | flag r => [r.pattern.pattern.source]

/-- The edit that makes a change. -/
def edit (c : Change) : Edit :=
  Edit.replacing c.span c.oldValue c.newValue

/-- Makes every change that the rule wants; `none` if there is none. -/
def apply (r : Rule) (text : String) : Except ApplyError (Option Application) :=
  match r.find text with
  | [] => .ok none
  | changes =>
    match Edit.applyAll text (changes.map edit) with
    | .ok text => .ok (some ⟨text, changes⟩)
    | .error cause => .error ⟨r.name, cause⟩

end Rule

/-- A named group of rules, in order. -/
structure RuleSet where
  name : String
  rules : List Rule

end LiteralPatch
