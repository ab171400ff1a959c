import LiteralPatch.Command.Prepare

/-!
# Checking and listing

Two commands that only look: one reports what would change, the other shows the rules.
-/

namespace LiteralPatch
namespace Command

namespace Check

/-- The lines before the result. -/
def banner (p : Paint) (target : Path) (t : RuleTable) : String :=
  line (p.bold "Patch Status Report") ++ line ("Target: " ++ target.text) ++
    line ("Rules: " ++ t.metadata.name) ++ line ""

/-- What would change. -/
def result (p : Paint) (o : Outcome) : String :=
  if o.anyRuleMatched then
    line (p.yellow "⊙" ++ " " ++ p.boldYellow "NOT APPLIED" ++ " (" ++ toString o.applied.length ++
      " changes)") ++ changeLines p true o.applied
  else
    line (p.green "✓" ++ " " ++
      p.green "Nothing to change (already patched or unrecognized layout)")

/-- Where the backup is, if there is one. -/
def backupLine (fs : FileSystem) (target : Path) : String :=
  let backup := Backup.pathFor target
  if fs.isFile backup then line ("\nBackup: " ++ backup.text) else ""

end Check

/-- Reports what would change. -/
def check (e : Environment) (fs : FileSystem) (now : Time) (file : Option Path) (source : RuleSource) :
    Reply :=
  let target := resolveTarget e file
  let loaded := Work.result do
    let t ← loadTable e fs source
    pure (t, ← compileTable t)
  match loaded with
  | .error f => .failure fs "" f
  | .ok (t, sets) =>
    let out := Check.banner e.paint target t
    match run fs sets target ⟨false, .preserve, true⟩ now with
    | (.error cause, fs) => .failure fs out (failureOfRun cause)
    | (.ok o, fs) => .success fs (out ++ Check.result e.paint o ++ Check.backupLine fs target)

namespace Listing

/-- What a table says about itself. -/
def heading (p : Paint) (t : RuleTable) : String :=
  line (p.bold "Profile:" ++ " " ++ t.metadata.name) ++
    ((t.metadata.description.map fun d => line ("  " ++ p.dimmed d)).getD "") ++
    ((t.metadata.versionRange.map fun r => line ("  host versions: " ++ r)).getD "") ++
    line ""

/-- The patterns of a rule, from the `i`-th on. -/
def patternLines (p : Paint) : Nat → List String → String
  | _, [] => ""
  | i, pattern :: rest =>
    let label := if i = 0 then "primary" else "fallback #" ++ toString i
    line ("       " ++ p.dimmed label ++ ": " ++ pattern) ++ patternLines p (i + 1) rest

/-- A rule and its patterns. -/
def ruleLines (p : Paint) (r : Rule) : String :=
  line ("   - " ++ r.name) ++ patternLines p 0 r.describe

/-- The sets, from the `i`-th on, and their rules. -/
def setLines (p : Paint) : Nat → List RuleSet → String
  | _, [] => ""
  | i, s :: rest =>
    line (toString i ++ ". " ++ p.bold s.name) ++ String.join (s.rules.map (ruleLines p)) ++
      setLines p (i + 1) rest

end Listing

/-- Shows the rules of a table. -/
def list (e : Environment) (fs : FileSystem) (source : RuleSource) : Reply :=
  let loaded := Work.result do
    let t ← loadTable e fs source
    pure (t, ← compileTable t)
  match loaded with
  | .error f => .failure fs "" f
  | .ok (t, sets) =>
    .success fs (Listing.heading e.paint t ++ Listing.setLines e.paint 1 sets)

end Command
end LiteralPatch
