import LiteralPatch.Pattern
import LiteralPatch.Span

/-!
# Captured values

A rule's pattern describes the surroundings of a literal and marks the literal itself with the capture
group `value`: the only bytes that a rule replaces.  A pattern without that group is of no use to a
rule and is refused when the rule is made.
-/

namespace LiteralPatch

/-- The name of the capture group that marks the literal. -/
def valueGroup : String := "value"

/-- Why a rule cannot be made, or cannot be applied. -/
inductive RuleError where
  | invalidPattern (rule : String) (pattern : String) (fault : Pattern.Fault)
  | missingValueGroup (rule : String)
  /-- A flag rule that would replace a literal by itself. -/
  | noOpFlag (rule : String) (literal : Bool)
deriving DecidableEq, Repr

namespace RuleError

def message : RuleError → String
  | invalidPattern rule pattern fault =>
    "invalid pattern for rule '" ++ rule ++ "': " ++ fault.message pattern
  | missingValueGroup rule =>
    "pattern for rule '" ++ rule ++ "' has no `value` capture group"
  | noOpFlag rule literal =>
    "rule '" ++ rule ++ "' rewrites " ++ toString literal ++ " to itself"

end RuleError

/-- A pattern with a `value` group. -/
structure ValuePattern where
  pattern : Pattern
  /-- The number of the `value` group. -/
  group : Nat
deriving Inhabited

/-- One match of a pattern: where it lies, and the value in it. -/
structure ValueCapture where
  whole : Span
  span : Span
  value : String
deriving DecidableEq, Repr

namespace ValuePattern

/-- Accepts a compiled pattern that has a `value` group; errors are about the given rule. -/
def ofPattern (rule : String) (p : Pattern) : Except RuleError ValuePattern :=
  match p.captureNamed valueGroup with
  | some group => .ok ⟨p, group⟩
  | none => .error (.missingValueGroup rule)

/-- The capture that the marks of one match describe; a match in which the group took no part is
none. -/
def captureOf (p : ValuePattern) (text : List Char) (marks : List Pattern.Mark) :
    Option ValueCapture := do
  let (start, stop) ← Pattern.Program.group? marks 0
  let (first, last) ← Pattern.Program.group? marks p.group
  let value ← Text.slice? text first last
  pure ⟨⟨start, stop⟩, ⟨first, last⟩, String.ofList value⟩

/-- All values in a text, from left to right. -/
def findValues (p : ValuePattern) (text : String) : List ValueCapture :=
  let cs := text.toList
  (p.pattern.program.findAll cs).filterMap (p.captureOf cs)

end ValuePattern
end LiteralPatch
