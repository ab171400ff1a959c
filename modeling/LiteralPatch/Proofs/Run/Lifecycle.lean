import LiteralPatch.Proofs.Run.Stages
import LiteralPatch.Table.Definition

/-!
# The life of a backup

The first run over a file leaves a copy of it.  `Run.Kept` says that this copy is what it was when it was
made, and that the target still is a file.  It survives every later operation (`Kept.perform`): a run
replaces a backup only by one with the same bytes, and restoring writes the target only.

`backup_outlives_runs` is the statement about whole sequences of operations.
-/

namespace LiteralPatch
namespace Run

open FileSystem

/-- What may be done to a target over time: runs that never replace a backup, and restoring. -/
inductive Operation where
  | run (sets : List RuleSet) (skipBackup dryRun : Bool) (now : Time)
  | restore (now : Time)

/-- The file system after an operation on the target, whether it succeeds or not. -/
def Operation.perform (target : Path) (fs : FileSystem) : Operation → FileSystem
  | run sets skipBackup dryRun now =>
    (LiteralPatch.run fs sets target ⟨skipBackup, .preserve, dryRun⟩ now).2
  | restore now => (Backup.restore fs (Backup.pathFor target) target now).2

/-- The backup of the target holds the bytes and the time of writing of `f`. -/
structure Kept (fs : FileSystem) (target : Path) (dir : Location) (name : String) (f : File) :
    Prop where
  beside : fs.Beside target dir name
  target_file : ∃ g, fs.node? (dir ++ [name]) = some (.file g)
  backup_file : ∃ b, fs.node? (dir ++ [name ++ Backup.suffix]) = some (.file b) ∧
    b.bytes = f.bytes ∧ b.modified = f.modified

section Kept

variable {fs gs : FileSystem} {target : Path} {dir : Location} {name : String} {f : File}

/-- Whatever is written to the target, the backup is kept. -/
theorem Kept.of_with {g : File} (h : Kept fs target dir name f)
    (hw : fs.With (dir ++ [name]) (.file g) gs) : Kept gs target dir name f := by
  obtain ⟨old, hold⟩ := h.target_file
  have hfree : fs.node? (dir ++ [name]) ≠ some .directory := by simp [hold]
  refine ⟨h.beside.of_keepsDirectories (hw.keepsDirectories hfree), ⟨g, hw.at_place⟩, ?_⟩
  rw [hw.elsewhere _ (backup_place_ne dir name)]
  exact h.backup_file

/-- Where there is a backup, a run under `preserve` finds the files as they were. -/
theorem Kept.readied_files {g : File} {options : RunOptions} {now : Time} {p : Prepared}
    (h : Kept fs target dir name f) (hpolicy : options.policy = .preserve)
    (hp : Readied fs target g options now (dir ++ [name ++ Backup.suffix]) p) : p.files = fs := by
  cases hp with
  | unwanted _ => rfl
  | kept _ => rfl
  | conflict _ => rfl
  | copied _ _ _ habsent =>
    obtain ⟨b, hb, -⟩ := h.backup_file
    rw [habsent hpolicy] at hb
    cases hb

/-- **No operation costs the backup.** -/
theorem Kept.perform (h : Kept fs target dir name f) (op : Operation) :
    Kept (op.perform target fs) target dir name f := by
  obtain ⟨g, hg⟩ := h.target_file
  cases op with
  | run sets skipBackup dryRun now =>
    have hended := run_ended h.beside hg sets ⟨skipBackup, .preserve, dryRun⟩ now
    rw [Operation.perform]
    generalize LiteralPatch.run fs sets target ⟨skipBackup, .preserve, dryRun⟩ now = ended
      at hended ⊢
    cases hended with
    | blocked _ _ => exact h
    | failed p e hp _ => rw [h.readied_files rfl hp]; exact h
    | unchanged p result hp _ _ => rw [h.readied_files rfl hp]; exact h
    | dryRun p result hp _ _ _ => rw [h.readied_files rfl hp]; exact h
    | conflict p result cause hp _ _ _ _ => rw [h.readied_files rfl hp]; exact h
    | written p result after hp _ _ _ _ hwith =>
      rw [h.readied_files rfl hp] at hwith
      exact h.of_with hwith
  | restore now =>
    obtain ⟨b, hb, -⟩ := h.backup_file
    have hfile : fs.file? (Backup.pathFor target) = some b := by
      rw [h.beside.backup_leads.file?, fileAt?, hb]
    obtain ⟨after, mode, hrestore, hwith⟩ :=
      Backup.restore_of_file? h.beside.file_leads (by simp [hg]) hfile now
    rw [Operation.perform, hrestore]
    exact h.of_with hwith

theorem Kept.foldl (h : Kept fs target dir name f) (ops : List Operation) :
    Kept (ops.foldl (Operation.perform target) fs) target dir name f := by
  induction ops generalizing fs with
  | nil => exact h
  | cons op ops ih => exact ih (h.perform op)

theorem Kept.backup (h : Kept fs target dir name f) :
    ∃ b, fs.file? (Backup.pathFor target) = some b ∧ b.bytes = f.bytes ∧
      b.modified = f.modified := by
  obtain ⟨b, hb, hbytes, htime⟩ := h.backup_file
  exact ⟨b, by rw [h.beside.backup_leads.file?, fileAt?, hb], hbytes, htime⟩

/-- Restoring gives the target its first bytes back. -/
theorem Kept.restore (h : Kept fs target dir name f) (now : Time) :
    ∃ after g, Backup.restore fs (Backup.pathFor target) target now = (.ok (), after) ∧
      after.file? target = some g ∧ g.bytes = f.bytes := by
  obtain ⟨b, hb, hbytes, -⟩ := h.backup
  obtain ⟨g, hg⟩ := h.target_file
  have hfree : fs.node? (dir ++ [name]) ≠ some .directory := by simp [hg]
  obtain ⟨after, mode, hrestore, hwith⟩ :=
    Backup.restore_of_file? h.beside.file_leads hfree hb now
  exact ⟨after, _, hrestore, h.beside.file_leads.file?_of_with hwith hfree, hbytes⟩

/-- Over a target that is no longer what the backup holds, a run that wants a backup changes
nothing. -/
theorem Kept.run_eq {g : File} (h : Kept fs target dir name f) (hg : fs.file? target = some g)
    (hbytes : g.bytes ≠ f.bytes) (sets : List RuleSet) (dryRun : Bool) (now : Time) :
    (LiteralPatch.run fs sets target ⟨false, .preserve, dryRun⟩ now).2 = fs := by
  obtain ⟨old, hold⟩ := h.target_file
  rw [h.beside.file_leads.file?, fileAt?, hold] at hg
  obtain rfl := Option.some.inj hg
  have hended := run_ended h.beside hold sets ⟨false, .preserve, dryRun⟩ now
  generalize LiteralPatch.run fs sets target ⟨false, .preserve, dryRun⟩ now = ended at hended ⊢
  cases hended with
  | blocked _ _ => rfl
  | failed p e hp _ => exact h.readied_files rfl hp
  | unchanged p result hp _ _ => exact h.readied_files rfl hp
  | dryRun p result hp _ _ _ => exact h.readied_files rfl hp
  | conflict p result cause hp _ _ _ _ => exact h.readied_files rfl hp
  | written p result after hp _ _ hdry hconflict _ =>
    -- the backup would have to hold the bytes of the target
    obtain ⟨b, hb, hbackup, -⟩ := h.backup_file
    cases hp with
    | unwanted hunwanted => simp_all
    | kept b' _ _ hb' hsame =>
      rw [hb] at hb'
      obtain rfl := Node.file.inj (Option.some.inj hb')
      exact absurd (hsame.symm.trans hbackup) hbytes
    | conflict _ => cases hconflict
    | copied _ _ _ habsent =>
      rw [habsent rfl] at hb
      cases hb

end Kept

/-- The first run makes the backup, whatever becomes of it afterwards. -/
theorem kept_of_first_run {fs : FileSystem} {target : Path} {f : File}
    (hf : fs.file? target = some f) (habsent : fs.holds (Backup.pathFor target) = false)
    (sets : List RuleSet) (now : Time) :
    ∃ dir name,
      Kept ((Operation.run sets false false now).perform target fs) target dir name f := by
  obtain ⟨dir, name, hleads, hplace⟩ := exists_leadsTo_of_file? hf
  have h := hleads.beside
  have hnone : fs.node? (dir ++ [name ++ Backup.suffix]) = none := by
    have hfind := h.backup_leads.find
    cases hn : fs.node? (dir ++ [name ++ Backup.suffix]) with
    | none => rfl
    | some n =>
      rw [hn] at hfind
      rw [holds, hfind] at habsent
      cases habsent
  have hkept : ∀ p, Readied fs target f ⟨false, .preserve, false⟩ now
      (dir ++ [name ++ Backup.suffix]) p → Kept p.files target dir name f := by
    intro p hp
    cases hp with
    | unwanted hunwanted => simp at hunwanted
    | kept g _ _ hg => rw [hnone] at hg; cases hg
    | conflict g _ _ hg => rw [hnone] at hg; cases hg
    | copied mode gs _ _ hfree hwith =>
      refine ⟨h.of_keepsDirectories (hwith.keepsDirectories hfree), ⟨f, ?_⟩, ?_⟩
      · rw [hwith.elsewhere _ (backup_place_ne dir name).symm, hplace]
      · exact ⟨_, hwith.at_place, rfl, rfl⟩
  refine ⟨dir, name, ?_⟩
  have hended := run_ended h hplace sets ⟨false, .preserve, false⟩ now
  rw [Operation.perform]
  generalize LiteralPatch.run fs sets target ⟨false, .preserve, false⟩ now = ended at hended ⊢
  cases hended with
  | blocked _ hdir => rw [hnone] at hdir; cases hdir
  | failed p e hp _ => exact hkept p hp
  | unchanged p result hp _ _ => exact hkept p hp
  | dryRun p result hp _ _ _ => exact hkept p hp
  | conflict p result cause hp _ _ _ _ => exact hkept p hp
  | written p result after hp _ _ _ _ hwith => exact (hkept p hp).of_with hwith

end Run

open Run in
/-- **The backup of the first run outlives every sequence of runs and restorations.**  It keeps the
bytes and the time of writing of the file that the first run found; restoring it succeeds at any
point; and while the target holds anything else, no run that wants a backup changes anything. -/
theorem backup_outlives_runs (fs : FileSystem) (target : Path) (f : File)
    (hf : fs.file? target = some f) (habsent : fs.holds (Backup.pathFor target) = false)
    (sets : List RuleSet) (now : Time) (ops : List Operation) :
    let after := ((Operation.run sets false false now) :: ops).foldl (Operation.perform target) fs
    (∃ b, after.file? (Backup.pathFor target) = some b ∧ b.bytes = f.bytes ∧
        b.modified = f.modified) ∧
      (∀ later, ∃ restored g,
        Backup.restore after (Backup.pathFor target) target later = (.ok (), restored) ∧
          restored.file? target = some g ∧ g.bytes = f.bytes) ∧
      (∃ g, after.file? target = some g ∧ (g.bytes ≠ f.bytes → ∀ sets dryRun later,
        (run after sets target ⟨false, .preserve, dryRun⟩ later).2 = after)) := by
  intro after
  obtain ⟨dir, name, hfirst⟩ := kept_of_first_run hf habsent sets now
  have hkept : Kept after target dir name f := hfirst.foldl ops
  obtain ⟨g, hg⟩ := hkept.target_file
  have hfile : after.file? target = some g := by
    rw [hkept.beside.file_leads.file?, FileSystem.fileAt?, hg]
  exact ⟨hkept.backup, hkept.restore, g, hfile, fun hbytes => hkept.run_eq hfile hbytes⟩

/-- A directory with one file in it, of one byte. -/
def Run.loneFile : FileSystem := ⟨[(["a.js"], .file ⟨⟨#[0x30]⟩, 0o644, ⟨0, 0⟩⟩)], []⟩

/-- Rules that make a one of every zero. -/
def Run.onesForZeros : List RuleSet :=
  let compiled := (ExceptT.run (ValueRule.compile "one" "(?P<value>0)" [] "1" none false)).run .empty
  match compiled.1 with
  | .ok rule => [⟨"ones", [.value rule]⟩]
  | .error _ => []

open Run in
/-- The first run makes a one of the lone zero.  The zero is kept in the backup, past a run without a backup
and a restoration. -/
theorem backup_outlives_runs_loneFile :
    loneFile.file? ⟨"a.js"⟩ = some ⟨⟨#[0x30]⟩, 0o644, ⟨0, 0⟩⟩ ∧
      loneFile.holds (Backup.pathFor ⟨"a.js"⟩) = false ∧
      (((Operation.run onesForZeros false false ⟨1, 0⟩).perform ⟨"a.js"⟩ loneFile).file? ⟨"a.js"⟩).map
        File.bytes = some ⟨#[0x31]⟩ ∧
      ∃ b, ([Operation.run onesForZeros false false ⟨1, 0⟩, .restore ⟨2, 0⟩,
          .run onesForZeros true false ⟨3, 0⟩].foldl (Operation.perform ⟨"a.js"⟩) loneFile).file?
            (Backup.pathFor ⟨"a.js"⟩) = some b ∧ b.bytes = ⟨#[0x30]⟩ ∧ b.modified = ⟨0, 0⟩ := by
  refine ⟨rfl, by decide +kernel, by decide +kernel, ?_⟩
  exact (backup_outlives_runs loneFile ⟨"a.js"⟩ ⟨⟨#[0x30]⟩, 0o644, ⟨0, 0⟩⟩ rfl (by decide +kernel)
    onesForZeros ⟨1, 0⟩ [.restore ⟨2, 0⟩, .run onesForZeros true false ⟨3, 0⟩]).1

end LiteralPatch
