import LiteralPatch.Backup
import LiteralPatch.Proofs.Files.Places

/-!
# A backup beside its file

The backup of a file stands in the same directory under a longer name, so the two never share a place
and an operation on one leaves the other alone.  With that, what `Backup.create` and `Backup.restore`
do is said by what stands at the two places:

* `Backup.create_cases`: under `preserve`, a backup with the same bytes is kept, one with other bytes
  is a conflict and a directory is a failure, each without a trace; otherwise a copy is made.
* `Backup.restore_of_file?`: a backup that is a file can be put back over anything but a directory.
-/

namespace LiteralPatch
namespace FileSystem

/-- The file and its backup stand in `dir`, as `name` and under that name with the suffix. -/
structure Beside (fs : FileSystem) (target : Path) (dir : Location) (name : String) : Prop where
  file_leads : fs.LeadsTo target dir name
  backup_leads : fs.LeadsTo (Backup.pathFor target) dir (name ++ Backup.suffix)

section Beside

variable {fs gs : FileSystem} {target : Path} {dir : Location} {name : String}

theorem LeadsTo.beside (h : fs.LeadsTo target dir name) : fs.Beside target dir name := by
  have hslash : '/' ∉ Backup.suffix.toList := by decide
  have hlong : 2 < Backup.suffix.length := by decide
  exact ⟨h, h.append hslash hlong⟩

theorem Beside.of_keepsDirectories (h : fs.Beside target dir name) (hk : fs.KeepsDirectories gs) :
    gs.Beside target dir name :=
  ⟨h.file_leads.of_keepsDirectories hk, h.backup_leads.of_keepsDirectories hk⟩

theorem backup_place_ne (dir : Location) (name : String) :
    dir ++ [name ++ Backup.suffix] ≠ dir ++ [name] := by
  intro h
  have hname : name ++ Backup.suffix = name := by simpa using h
  have hlen := congrArg String.length hname
  rw [String.length_append] at hlen
  have : Backup.suffix.length = 7 := by decide
  omega

/-- A file that has been put at the place of a path is what the path denotes. -/
theorem LeadsTo.file?_of_with {p : Path} {f : File} (h : fs.LeadsTo p dir name)
    (hw : fs.With (dir ++ [name]) (.file f) gs) (hfree : fs.node? (dir ++ [name]) ≠ some .directory) :
    gs.file? p = some f := by
  rw [(h.of_keepsDirectories (hw.keepsDirectories hfree)).file?, fileAt?, hw.at_place]

end Beside
end FileSystem

namespace Backup

open FileSystem

variable {fs : FileSystem} {target : Path} {dir : Location} {name : String} {f : File}

/-- What `create` does for a file, by what stands at the place of the backup. -/
inductive Created (fs : FileSystem) (target : Path) (f : File) (policy : BackupPolicy) (now : Time)
    (place : Location) : Except BackupError (Backup × FileSystem) → Prop where
  /-- A backup with the same bytes is kept. -/
  | kept (g : File) : policy = .preserve → fs.node? place = some (.file g) → g.bytes = f.bytes →
      Created fs target f policy now place
        (.ok (⟨target, pathFor target, g.modified, true⟩, fs))
  /-- A backup with other bytes is in the way. -/
  | conflict (g : File) : policy = .preserve → fs.node? place = some (.file g) →
      g.bytes ≠ f.bytes →
      Created fs target f policy now place (.error (.conflict target (pathFor target)))
  | blocked : fs.node? place = some .directory →
      Created fs target f policy now place (.error (.failed (pathFor target) .isDirectory))
  /-- A copy is made, with the file's time of writing. -/
  | copied (mode : Nat) (gs : FileSystem) : (policy = .preserve → fs.node? place = none) →
      fs.node? place ≠ some .directory → fs.With place (.file ⟨f.bytes, mode, f.modified⟩) gs →
      Created fs target f policy now place (.ok (⟨target, pathFor target, now, false⟩, gs))

theorem copy_cases (h : fs.Beside target dir name) (policy : BackupPolicy) (now : Time)
    (habsent : policy = .preserve → fs.node? (dir ++ [name ++ suffix]) = none) :
    Created fs target f policy now (dir ++ [name ++ suffix])
      (copy fs target (pathFor target) f now) := by
  by_cases hdir : fs.node? (dir ++ [name ++ suffix]) = some .directory
  · have hwrite : fs.write (pathFor target) f.bytes now = .error .isDirectory := by
      simp only [FileSystem.write, h.backup_leads.locate, bind, Except.bind, hdir]
      rfl
    rw [copy, hwrite]
    exact .blocked hdir
  · obtain ⟨gs, mode, hwrite, hwith⟩ := h.backup_leads.write_touch hdir f.bytes now f.modified
    rw [copy, hwrite]
    exact .copied mode _ habsent hdir hwith

/-- **Making a backup keeps what is as good as a copy, refuses what is not, and copies else.** -/
theorem create_cases (h : fs.Beside target dir name)
    (hf : fs.node? (dir ++ [name]) = some (.file f)) (policy : BackupPolicy) (now : Time) :
    Created fs target f policy now (dir ++ [name ++ suffix]) (create fs target policy now) := by
  have hfile : fs.file? target = some f := by rw [h.file_leads.file?, fileAt?, hf]
  have hfind := h.backup_leads.find
  simp only [create, hfile]
  cases hn : fs.node? (dir ++ [name ++ suffix]) with
  | none =>
    rw [hn] at hfind
    have hholds : fs.holds (pathFor target) = false := by rw [holds, hfind]; rfl
    rw [if_neg (by simp [hholds])]
    exact copy_cases h policy now fun _ => hn
  | some n =>
    rw [hn] at hfind
    have hholds : fs.holds (pathFor target) = true := by rw [holds, hfind]; rfl
    by_cases hp : policy = .preserve
    · rw [if_pos ⟨hholds, hp⟩, reuse, hfind]
      cases n with
      | directory => exact .blocked hn
      | file g =>
        by_cases hbytes : g.bytes = f.bytes
        · simp only [hbytes, if_true]
          exact .kept g hp hn hbytes
        · have hdata : g.bytes.data ≠ f.bytes.data := fun he => hbytes (ByteArray.ext he)
          simp only [hdata, if_false]
          exact .conflict g hp hn hbytes
    · rw [if_neg fun hh => hp hh.2]
      exact copy_cases h policy now fun hh => absurd hh hp

/-- **A backup that is a file can be put back,** and that changes the target only. -/
theorem restore_of_file? {backup : Path} (h : fs.LeadsTo target dir name)
    (hfree : fs.node? (dir ++ [name]) ≠ some .directory) (hf : fs.file? backup = some f)
    (now : Time) :
    ∃ gs mode, restore fs backup target now = (.ok (), gs) ∧
      fs.With (dir ++ [name]) (.file ⟨f.bytes, mode, now⟩) gs := by
  obtain ⟨gs, hreplace, hwith⟩ := h.replace hfree f.bytes now
  refine ⟨gs, _, ?_, hwith⟩
  simp only [restore, hf, hreplace]
  rfl

end Backup
end LiteralPatch
