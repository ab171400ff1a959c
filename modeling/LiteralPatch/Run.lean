import LiteralPatch.Report
import LiteralPatch.Files.Utf8

/-!
# Running rules over a file

A run backs the target up, reads it, runs the rules over its text and writes the result, if there is
anything to write.  A failure ends it before the target is touched, so the target is either left alone or
replaced as a whole.

A backup that holds other bytes than the target blocks only runs that would write: the conflict is kept
until it is known whether there is anything to change.  So a second run over a target that has been
patched reports that there is nothing to do.
-/

namespace LiteralPatch

/-- How a run is made. -/
structure RunOptions where
  skipBackup : Bool := false
  policy : BackupPolicy := .preserve
  /-- Finds the changes without writing the target or a backup. -/
  dryRun : Bool := false
deriving DecidableEq, Repr, Inhabited

/-- Why a run fails. -/
inductive RunError where
  | notFound (path : Path)
  | backup (cause : BackupError)
  | failed (path : Path) (cause : FileFault)
  | rule (cause : ApplyError)
deriving DecidableEq, Repr

namespace RunError

def message : RunError → String
  | notFound path => "target file not found: " ++ path.text
  | backup cause => "backup failed, target left untouched: " ++ cause.message
  | failed path cause => "I/O error on " ++ path.text ++ ": " ++ cause.message
  | rule cause => cause.message

/-- The texts of the underlying causes. -/
def causes : RunError → List String
  | notFound _ => []
  | backup cause => cause.message :: cause.causes
  | failed _ cause => [cause.message]
  | rule cause => [cause.cause.message]

end RunError

namespace Run

/-- What is known about the backup before the rules run: one that was made or kept, a conflict, or
nothing, if no backup is wanted. -/
structure Prepared where
  backup : Option Backup
  conflict : Option BackupError
  files : FileSystem

/-- Backs the target up, if that is wanted.  A conflict does not end the run. -/
def prepare (fs : FileSystem) (target : Path) (options : RunOptions) (now : Time) :
    Except BackupError Prepared :=
  if options.skipBackup ∨ options.dryRun then .ok ⟨none, none, fs⟩
  else
    match Backup.create fs target options.policy now with
    | .ok (backup, fs) => .ok ⟨some backup, none, fs⟩
    | .error (.conflict file backup) => .ok ⟨none, some (.conflict file backup), fs⟩
    | .error cause => .error cause

/-- The text of the target and the changes that the rules make to it. -/
def patched (fs : FileSystem) (sets : List RuleSet) (target : Path) : Except RunError Patched := do
  let bytes ← (fs.read target).mapError (.failed target)
  let text ← (Utf8.decode bytes).mapError fun fault => .failed target (.malformed fault)
  (patch sets text).mapError .rule

/-- Writes the patched text, unless that is not wanted or a conflict forbids it. -/
def conclude (p : Prepared) (target : Path) (options : RunOptions) (now : Time) (result : Patched) :
    Except RunError Outcome × FileSystem :=
  if result.applied.isEmpty then (.ok ⟨target, .unchanged, [], p.backup⟩, p.files)
  else if options.dryRun then (.ok ⟨target, .dryRun, result.applied, p.backup⟩, p.files)
  else
    match p.conflict with
    | some conflict => (.error (.backup conflict), p.files)
    | none =>
      match p.files.replace target result.text.toUTF8 now with
      | (.ok (), fs) => (.ok ⟨target, .written, result.applied, p.backup⟩, fs)
      | (.error fault, fs) => (.error (.failed target fault), fs)

end Run

/-- Runs rule sets over the file at a path. -/
def run (fs : FileSystem) (sets : List RuleSet) (target : Path) (options : RunOptions) (now : Time) :
    Except RunError Outcome × FileSystem :=
  if fs.isFile target then
    match Run.prepare fs target options now with
    | .error cause => (.error (.backup cause), fs)
    | .ok prepared =>
      match Run.patched prepared.files sets target with
      | .error e => (.error e, prepared.files)
      | .ok result => Run.conclude prepared target options now result
  else (.error (.notFound target), fs)

end LiteralPatch
