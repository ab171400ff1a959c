import LiteralPatch.Rule
import LiteralPatch.Pattern.Cache

/-!
# Rules as they are declared

A table declares rules in named sets; a declaration is plain data.  Compiling a declaration checks its
patterns and gives the rule that runs.  Patterns are fetched through the cache, so compilation is a
computation over it; the cache after a failure is still the cache, which is why the error sits inside
the state and not around it.
-/

namespace LiteralPatch

/-- A declared rule. -/
inductive RuleDefinition where
  | value (name primary : String) (fallbacks : List String) (replacement : String)
      (guard : Option Guard) (ignoreCase : Bool)
  | flag (name marker key : String) (old new : Bool) (scope : FlagScope)
deriving DecidableEq, Repr

/-- A declared set of rules. -/
structure RuleSetDefinition where
  name : String
  rules : List RuleDefinition
deriving DecidableEq, Repr

/-- What a table says about itself. -/
structure Metadata where
  name : String
  description : Option String
  /-- The host versions that the table is for, as a requirement. -/
  versionRange : Option String
deriving DecidableEq, Repr, Inhabited

/-- A table of rules. -/
structure RuleTable where
  metadata : Metadata
  sets : List RuleSetDefinition
deriving DecidableEq, Repr, Inhabited

/-- Compilation: it may fail, and it leaves a cache in any case. -/
abbrev Compiling := ExceptT RuleError (StateM PatternCache)

namespace ValuePattern

/-- Compiles a pattern through the cache; errors are about the given rule. -/
def compile (rule source : String) (ignoreCase : Bool) : Compiling ValuePattern := do
  match ← modifyGet fun c => c.fetch ⟨source, ignoreCase⟩ with
  | .ok p => MonadExcept.ofExcept (ofPattern rule p)
  | .error fault => throw (.invalidPattern rule source fault)

end ValuePattern

namespace ValueRule

def compile (name primary : String) (fallbacks : List String) (replacement : String)
    (guard : Option Guard) (ignoreCase : Bool) : Compiling ValueRule := do
  let primary ← ValuePattern.compile name primary ignoreCase
  let fallbacks ← fallbacks.mapM fun source => ValuePattern.compile name source ignoreCase
  pure ⟨name, primary, fallbacks, replacement, guard⟩

end ValueRule

namespace FlagRule

/-- A flag rule needs two different literals; its pattern ignores case. -/
def compile (name marker key : String) (old new : Bool) (scope : FlagScope) :
    Compiling FlagRule := do
  if old = new then throw (.noOpFlag name old)
  let pattern ← ValuePattern.compile name (scope.pattern marker key old) true
  pure ⟨name, new, pattern⟩

end FlagRule

namespace RuleDefinition

def name : RuleDefinition → String
  | value name .. => name
  | flag name .. => name

/-- The rule that a declaration describes. -/
def compile : RuleDefinition → Compiling Rule
  | value name primary fallbacks replacement guard ignoreCase => do
    pure (.value (← ValueRule.compile name primary fallbacks replacement guard ignoreCase))
  | flag name marker key old new scope => do
    pure (.flag (← FlagRule.compile name marker key old new scope))

end RuleDefinition

namespace RuleSetDefinition

def compile (s : RuleSetDefinition) : Compiling RuleSet := do
  pure ⟨s.name, ← s.rules.mapM RuleDefinition.compile⟩

end RuleSetDefinition

namespace RuleTable

/-- The rule sets that a table describes, in the declared order. -/
def compile (t : RuleTable) : Compiling (List RuleSet) :=
  t.sets.mapM RuleSetDefinition.compile

/-- The number of rules in all sets. -/
def ruleCount (t : RuleTable) : Nat :=
  t.sets.foldl (fun n s => n + s.rules.length) 0

end RuleTable
end LiteralPatch
