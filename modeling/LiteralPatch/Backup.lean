import LiteralPatch.Files.Write

/-!
# Backups

The backup of a file is a copy of its bytes beside it, under the same name with a suffix, with the
file's time of writing.  It is the only way back, so by default it is never replaced: an existing
backup is kept if it holds the same bytes, and is a conflict otherwise.  Restoring puts the copy back as
a whole and leaves the backup alone.
-/

namespace LiteralPatch

/-- What happens to a backup that exists already. -/
inductive BackupPolicy where
  /-- It is kept if it holds the same bytes, and otherwise nothing is done. -/
  | preserve
  /-- It is replaced. -/
  | overwrite
deriving DecidableEq, Repr, Inhabited

/-- A backup that was made, or found to be good. -/
structure Backup where
  source : Path
  path : Path
  /-- When the copy was made; of a backup that was found, when it was last written. -/
  createdAt : Time
  /-- Whether an existing backup was kept. -/
  reused : Bool
deriving DecidableEq, Repr

/-- Why no backup was made, or why none was restored. -/
inductive BackupError where
  | notFound (path : Path)
  /-- A backup with other bytes than the file is in the way. -/
  | conflict (file backup : Path)
  | failed (path : Path) (cause : FileFault)
deriving DecidableEq, Repr

namespace BackupError

def message : BackupError → String
  | notFound path => "file not found: " ++ path.text
  | conflict file backup =>
    "existing backup " ++ backup.text ++ " holds different content than " ++ file.text ++
      "; force the backup to replace it"
  | failed path cause => "backup I/O error on " ++ path.text ++ ": " ++ cause.message

/-- The texts of the underlying causes. -/
def causes : BackupError → List String
  | failed _ cause => [cause.message]
  | notFound _ => []
  | conflict .. => []

end BackupError

namespace Backup

def suffix : String := ".backup"

/-- Where the backup of a file is kept. -/
def pathFor (p : Path) : Path := p.append suffix

/-- Keeps the backup at a path, if it holds the given bytes. -/
def reuse (fs : FileSystem) (file backup : Path) (bytes : ByteArray) :
    Except BackupError Backup := do
  match fs.find backup with
  | .error fault => throw (.failed backup fault)
  | .ok .directory => throw (.failed backup .isDirectory)
  | .ok (.file f) =>
    if f.bytes.data = bytes.data then pure ⟨file, backup, f.modified, true⟩
    else throw (.conflict file backup)

/-- Writes the copy of a file, with the file's time of writing. -/
def copy (fs : FileSystem) (file backup : Path) (f : File) (now : Time) :
    Except BackupError (Backup × FileSystem) := do
  match fs.write backup f.bytes now with
  | .error fault => throw (.failed backup fault)
  | .ok written => pure (⟨file, backup, now, false⟩, written.touch backup f.modified)

/-- Backs a file up. -/
def create (fs : FileSystem) (p : Path) (policy : BackupPolicy) (now : Time) :
    Except BackupError (Backup × FileSystem) :=
  match fs.file? p with
  | none => .error (.notFound p)
  | some f =>
    if fs.holds (pathFor p) ∧ policy = .preserve then
      (reuse fs p (pathFor p) f.bytes).map fun b => (b, fs)
    else copy fs p (pathFor p) f now

/-- Puts the bytes of a backup back. -/
def restore (fs : FileSystem) (backup target : Path) (now : Time) :
    Except BackupError Unit × FileSystem :=
  match fs.file? backup with
  | none => (.error (.notFound backup), fs)
  | some f =>
    let (result, fs) := fs.replace target f.bytes now
    (result.mapError (.failed target), fs)

end Backup
end LiteralPatch
