import LiteralPatch.Command.Arguments
import LiteralPatch.Command.Environment
import LiteralPatch.Command.Reply
import LiteralPatch.Run
import LiteralPatch.Table.Load

/-!
# What all commands need

Loading the rules that a command names, compiling them, writing changes, and asking for consent.
-/

namespace LiteralPatch
namespace Command

/-- Work that ends in a value or in a failure, and leaves a cache in any case. -/
abbrev Work := ExceptT Failure (StateM PatternCache)

/-- The result of work that starts with an empty cache. -/
def Work.result {α : Type} (w : Work α) : Except Failure α :=
  (w.run.run PatternCache.empty).1

/-- The failure of a loading error. -/
def failureOfLoad (e : LoadError) : Failure := Failure.ofError e.message e.causes

/-- The failure of a rule that does not compile. -/
def failureOfRule (e : RuleError) : Failure := Failure.ofError e.message []

/-- The failure of a run. -/
def failureOfRun (e : RunError) : Failure := Failure.ofError e.message e.causes

/-- The table that a command names. -/
def loadTable (e : Environment) (fs : FileSystem) (source : RuleSource) : Work RuleTable := do
  let loading : Loading RuleTable :=
    match source with
    | .profile name => RuleTable.ofProfile name
    | .path p => RuleTable.ofPath fs (e.expand p)
  match ← (loading.run : StateM PatternCache (Except LoadError RuleTable)) with
  | .ok t => pure t
  | .error cause => throw (failureOfLoad cause)

/-- The rule sets of a table. -/
def compileTable (t : RuleTable) : Work (List RuleSet) := do
  match ← (t.compile.run : StateM PatternCache (Except RuleError (List RuleSet))) with
  | .ok sets => pure sets
  | .error cause => throw (failureOfRule cause)

/-- Text on a line of its own. -/
def line (text : String) : String := text ++ "\n"

/-- A change, with a mark in front. -/
def changeLine (p : Paint) (mark : String) (c : AppliedChange) : String :=
  let via :=
    match c.source with
    | .primary => ""
    | .fallback n => p.dimmed (" (via " ++ (MatchSource.fallback n).message ++ ")")
  line (mark ++ " " ++ c.rule ++ ": " ++ p.red c.oldValue ++ " → " ++ p.green c.newValue ++ via)

/-- The changes of a run; changes that were not made have another mark. -/
def changeLines (p : Paint) (dryRun : Bool) (changes : List AppliedChange) : String :=
  String.join (changes.map (changeLine p (if dryRun then p.yellow "⊙" else p.green "✓")))

/-! ## Consent -/

/-- The question before anything is written. -/
def question : String := "Continue? (y/N): "

/-- Whether an answer means yes. -/
def isConsent (answer : String) : Bool :=
  let word := Text.lowerAscii (Text.trimmed answer)
  word == "y" || word == "yes"

/-- The note that nothing was done. -/
def cancelled (p : Paint) : String := line (p.cyan "⊘" ++ " Operation cancelled")

/-- Goes on after consent, and otherwise leaves everything as it is. -/
def withConsent (p : Paint) (fs : FileSystem) (out : String) (goOn : Unit → Reply) : Dialogue :=
  .ask (out ++ question) fun answer =>
    if isConsent answer then goOn () else .success fs (cancelled p)

end Command
end LiteralPatch
