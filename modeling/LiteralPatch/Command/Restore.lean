import LiteralPatch.Command.Prepare

/-!
# Restoring

The backup of the target is put back in its place, after consent.
-/

namespace LiteralPatch
namespace Command

namespace Restore

/-- Puts the backup back, after `out` has been written. -/
def proceed (p : Paint) (fs : FileSystem) (now : Time) (target : Path) (out : String) : Reply :=
  match Backup.restore fs (Backup.pathFor target) target now with
  | (.error cause, fs) => .failure fs out (Failure.ofError cause.message cause.causes)
  | (.ok (), fs) => .success fs (out ++ line (p.green "✓" ++ " Restored " ++ target.text))

end Restore

/-- Restores the target from its backup. -/
def restore (e : Environment) (fs : FileSystem) (now : Time) (file : Option Path) (yes : Bool) :
    Dialogue :=
  let target := resolveTarget e file
  let backup := Backup.pathFor target
  if fs.isFile backup then
    let out := line ("Restore " ++ target.text ++ " from " ++ backup.text)
    if yes then .done (Restore.proceed e.paint fs now target out)
    else withConsent e.paint fs out fun _ => Restore.proceed e.paint fs now target ""
  else .done (.failure fs "" ⟨e.paint.red "✗" ++ " No backup found at " ++ backup.text ++ "\n"⟩)

end Command
end LiteralPatch
