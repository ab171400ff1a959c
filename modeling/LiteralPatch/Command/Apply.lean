import LiteralPatch.Command.Prepare
import LiteralPatch.Diff.Hunk
import LiteralPatch.Report.Json
import LiteralPatch.Version.Requirement

/-!
# Applying rules

The target has to be there, the rules have to load, and the host version, if it is given, has to be one that
the rules are made for; all this is settled before anyone is asked for consent.  After the run the changes
are listed, as text for readers or as JSON for programs.
-/

namespace LiteralPatch
namespace Command

/-- What is settled before a run. -/
structure Plan where
  target : Path
  table : RuleTable
  sets : List RuleSet

namespace Apply

/-- Refuses a host version that the table is not made for. -/
def checkHost (t : RuleTable) (hostVersion : Option String) : Except Failure Unit :=
  match hostVersion with
  | none => .ok ()
  | some version =>
    match Version.satisfies version t.metadata.versionRange with
    | .error e => .error (Failure.ofError e.message [])
    | .ok true => .ok ()
    | .ok false =>
      .error (Failure.ofError ("host version " ++ version ++ " does not satisfy version_range " ++
        t.metadata.versionRange.getD "" ++ " of rule table '" ++ t.metadata.name ++ "'") [])

/-- Settles what a run needs, or says why there is none. -/
def plan (e : Environment) (fs : FileSystem) (o : ApplyOptions) : Except Failure Plan :=
  let target := resolveTarget e o.file
  if fs.isFile target then
    Work.result do
      let table ← loadTable e fs o.source
      MonadExcept.ofExcept (checkHost table o.hostVersion)
      pure ⟨target, table, ← compileTable table⟩
  else .error ⟨e.paint.red "✗" ++ " File not found: " ++ target.text ++ "\n"⟩

/-- The lines before a run. -/
def banner (p : Paint) (plan : Plan) (dryRun : Bool) : String :=
  line (p.bold "Bundle Patcher") ++
    line ("Target: " ++ plan.target.text) ++
    line ("Rules: " ++ plan.table.metadata.name ++ " (" ++ toString plan.table.ruleCount ++
      " rules in " ++ toString plan.table.sets.length ++ " sets)") ++
    (if dryRun then ""
      else line (p.yellow "Close the editor before patching; it rewrites this file on exit.")) ++
    line ""

/-! ## The report -/

/-- One line of a diff, painted together with its end. -/
def diffLine (p : Paint) (mark : Diff.Mark) (text : String) : String :=
  let ended := if Diff.isEnded text then text else text ++ "\n"
  match mark with
  | .stays => " " ++ ended
  | .deleted => p.red ("-" ++ ended)
  | .inserted => p.green ("+" ++ ended)

/-- The difference between two texts, broken into statements. -/
def diffText (p : Paint) (target : Path) (before after : String) : String :=
  let old := (Diff.lines (Diff.splitStatements before.toList)).toArray
  let new := (Diff.lines (Diff.splitStatements after.toList)).toArray
  let hunk (h : List Diff.Block) : String :=
    line (p.cyan (Diff.header h)) ++
      String.join ((Diff.hunkLines old new h).map fun l => diffLine p l.1 l.2)
  line ("\n" ++ p.dimmed ("--- " ++ target.text ++ " (original)")) ++
    line (p.dimmed ("+++ " ++ target.text ++ " (patched)")) ++
    String.join ((Diff.hunks old new).map hunk)

/-- What is said about the backup. -/
def backupLine (p : Paint) (b : Backup) : String :=
  if b.reused then
    line (p.yellow "⊙" ++ " Existing backup matches target, kept: " ++ b.path.text)
  else line (p.green "✓" ++ " Backup created: " ++ b.path.text)

/-- How the run ended. -/
def summary (p : Paint) (o : Outcome) : String :=
  match o.status with
  | .written =>
    line (p.green "✓" ++ " Patched " ++ o.target.text ++ " (" ++ toString o.applied.length ++
      " changes, " ++ toString o.fallbackCount ++ " via fallback)") ++
      line "Restart the editor to load the patched bundle."
  | .dryRun =>
    line (p.yellow "⊙" ++ " " ++ toString o.applied.length ++ " changes would be applied")
  | .unchanged =>
    line (p.cyan "⊘" ++
      " No modifications were made - file may already be patched or patterns not found")

/-- The lines about a run, up to the diff. -/
def details (p : Paint) (dryRun : Bool) (o : Outcome) : String :=
  ((o.backup.map (backupLine p)).getD "") ++
    (if dryRun then line (p.cyan "  [DRY RUN - nothing will be written]") else "") ++
    changeLines p dryRun o.applied

/-- The text after the run: that of the file, or the one that the run would have written. -/
def after (fs : FileSystem) (plan : Plan) (o : Outcome) (before : String) : Except Failure String :=
  match o.status with
  | .written =>
    (fs.readText plan.target).mapError fun fault => Failure.ofError fault.message []
  | .dryRun =>
    match patch plan.sets before with
    | .ok result => .ok result.text
    | .error e => .error (failureOfRun (.rule e))
  | .unchanged => .ok before

/-- The diff of a run, if it was asked for and there is one. -/
def difference (p : Paint) (fs : FileSystem) (plan : Plan) (o : Outcome) (before : Option String) :
    Except Failure String :=
  match before with
  | none => .ok ""
  | some before =>
    (after fs plan o before).map fun after =>
      if before = after then "" else diffText p plan.target before after

/-- What is written about a run that succeeded. -/
def report (p : Paint) (fs : FileSystem) (plan : Plan) (options : ApplyOptions) (o : Outcome)
    (before : Option String) (out : String) : Reply :=
  if options.json then
    match o.jsonText with
    | .ok text => .success fs (out ++ line text)
    | .error e => .failure fs out (Failure.ofError e.message [])
  else
    let out := out ++ details p options.dryRun o
    match difference p fs plan o before with
    | .error f => .failure fs out f
    | .ok diff => .success fs (out ++ diff ++ line "" ++ summary p o)

/-- The failure of a run; a backup that is in the way gets advice. -/
def runFailure (p : Paint) : RunError → Failure
  | .backup (.conflict file backup) =>
    ⟨p.red "✗" ++ " " ++ backup.text ++ " holds a different bundle than " ++ file.text ++ "\n" ++
      "  The bundle was not modified. Pass --force-backup to snapshot the current file.\n"⟩
  | e => failureOfRun e

/-- The text before the run, if a diff is wanted. -/
def textBefore (fs : FileSystem) (plan : Plan) (diff : Bool) : Except Failure (Option String) :=
  if diff then
    match fs.readText plan.target with
    | .ok text => .ok (some text)
    | .error fault =>
      .error (Failure.ofError ("failed to read " ++ plan.target.text ++ " for diff") [fault.message])
  else .ok none

/-- How the run is made. -/
def runOptions (o : ApplyOptions) : RunOptions :=
  ⟨o.skipBackup, if o.forceBackup then .overwrite else .preserve, o.dryRun⟩

/-- Makes the run and reports it, after `out` has been written. -/
def proceed (p : Paint) (fs : FileSystem) (now : Time) (plan : Plan) (options : ApplyOptions)
    (out : String) : Reply :=
  match textBefore fs plan options.diff with
  | .error f => .failure fs out f
  | .ok before =>
    match run fs plan.sets plan.target (runOptions options) now with
    | (.error e, fs) => .failure fs out (runFailure p e)
    | (.ok o, fs) => report p fs plan options o before out

end Apply

/-- Applies rules to the target. -/
def apply (e : Environment) (fs : FileSystem) (now : Time) (o : ApplyOptions) : Dialogue :=
  match Apply.plan e fs o with
  | .error f => .done (.failure fs "" f)
  | .ok plan =>
    let out := if o.json then "" else Apply.banner e.paint plan o.dryRun
    if o.dryRun ∨ o.yes then .done (Apply.proceed e.paint fs now plan o out)
    else withConsent e.paint fs out fun _ => Apply.proceed e.paint fs now plan o ""

end Command
end LiteralPatch
