import LiteralPatch.Run
import LiteralPatch.Proofs.Attempts
import LiteralPatch.Proofs.Files.Beside

/-!
# The stages of a run

A run over a file prepares the backup, computes the patched text and concludes.  Each stage is described
once here, by everything it can do, and whatever holds of runs is read off these descriptions:

* `Run.Readied` lists the ways in which the backup is prepared, with what stands at its place;
* `Run.patched_eq` says that the patched text depends on the bytes of the target only;
* `Run.Ended` lists the ways in which a run over a file ends, and `run_ended` says that there is no other.
-/

namespace LiteralPatch
namespace Run

open FileSystem

/-- The ways in which the backup is prepared before the rules run; `place` is where it stands. -/
inductive Readied (fs : FileSystem) (target : Path) (f : File) (options : RunOptions) (now : Time)
    (place : Location) : Prepared → Prop where
  /-- No backup is wanted. -/
  | unwanted : options.skipBackup = true ∨ options.dryRun = true →
      Readied fs target f options now place ⟨none, none, fs⟩
  /-- The backup that is there has the same bytes. -/
  | kept (g : File) : ¬ (options.skipBackup = true ∨ options.dryRun = true) →
      options.policy = .preserve → fs.node? place = some (.file g) → g.bytes = f.bytes →
      Readied fs target f options now place
        ⟨some ⟨target, Backup.pathFor target, g.modified, true⟩, none, fs⟩
  /-- The backup that is there has other bytes: this is not yet a failure. -/
  | conflict (g : File) : ¬ (options.skipBackup = true ∨ options.dryRun = true) →
      options.policy = .preserve → fs.node? place = some (.file g) → g.bytes ≠ f.bytes →
      Readied fs target f options now place
        ⟨none, some (.conflict target (Backup.pathFor target)), fs⟩
  /-- A copy has been made. -/
  | copied (mode : Nat) (gs : FileSystem) : ¬ (options.skipBackup = true ∨ options.dryRun = true) →
      (options.policy = .preserve → fs.node? place = none) → fs.node? place ≠ some .directory →
      fs.With place (.file ⟨f.bytes, mode, f.modified⟩) gs →
      Readied fs target f options now place
        ⟨some ⟨target, Backup.pathFor target, now, false⟩, none, gs⟩

section Stages

variable {fs : FileSystem} {sets : List RuleSet} {target : Path} {dir : Location} {name : String}
  {f : File} {options : RunOptions} {now : Time}

/-- **The backup is prepared, or a directory stands in its place.** -/
theorem prepare_cases (h : fs.Beside target dir name)
    (hf : fs.node? (dir ++ [name]) = some (.file f)) (options : RunOptions) (now : Time) :
    (∃ p, prepare fs target options now = .ok p ∧
        Readied fs target f options now (dir ++ [name ++ Backup.suffix]) p) ∨
      (¬ (options.skipBackup = true ∨ options.dryRun = true) ∧
        fs.node? (dir ++ [name ++ Backup.suffix]) = some .directory ∧
        prepare fs target options now = .error (.failed (Backup.pathFor target) .isDirectory)) := by
  by_cases hwanted : options.skipBackup = true ∨ options.dryRun = true
  · exact .inl ⟨_, by rw [prepare, if_pos hwanted], .unwanted hwanted⟩
  · have hcreated := Backup.create_cases h hf options.policy now
    rw [prepare, if_neg hwanted]
    generalize Backup.create fs target options.policy now = created at hcreated ⊢
    cases hcreated with
    | kept g hp hg hbytes => exact .inl ⟨_, rfl, .kept g hwanted hp hg hbytes⟩
    | conflict g hp hg hbytes => exact .inl ⟨_, rfl, .conflict g hwanted hp hg hbytes⟩
    | blocked hdir => exact .inr ⟨hwanted, hdir, rfl⟩
    | copied mode gs hp hdir hwith => exact .inl ⟨_, rfl, .copied mode gs hwanted hp hdir hwith⟩

/-- Preparing changes nothing but the backup. -/
theorem Readied.frame {p : Prepared} {place : Location}
    (h : Readied fs target f options now place p) {m : Location} (hm : m ≠ place) :
    p.files.node? m = fs.node? m := by
  cases h with
  | unwanted _ => rfl
  | kept g => rfl
  | conflict g => rfl
  | copied mode gs _ _ _ hwith => exact hwith.elsewhere m hm

theorem Readied.keepsDirectories {p : Prepared} {place : Location}
    (h : Readied fs target f options now place p) : fs.KeepsDirectories p.files := by
  cases h with
  | unwanted _ => exact ⟨fun _ hm => hm, rfl⟩
  | kept g => exact ⟨fun _ hm => hm, rfl⟩
  | conflict g => exact ⟨fun _ hm => hm, rfl⟩
  | copied mode gs _ _ hdir hwith => exact hwith.keepsDirectories hdir

/-- Preparing leaves the place of the target as it is. -/
theorem Readied.node?_target {p : Prepared}
    (hp : Readied fs target f options now (dir ++ [name ++ Backup.suffix]) p) :
    p.files.node? (dir ++ [name]) = fs.node? (dir ++ [name]) :=
  hp.frame (backup_place_ne dir name).symm

/-- Preparing leaves the target as it is. -/
theorem Readied.file?_target {p : Prepared} (h : fs.Beside target dir name)
    (hp : Readied fs target f options now (dir ++ [name ++ Backup.suffix]) p) :
    p.files.file? target = fs.file? target := by
  have hfiles := h.of_keepsDirectories hp.keepsDirectories
  rw [hfiles.file_leads.file?, h.file_leads.file?, fileAt?, fileAt?, hp.node?_target]

/-- The bytes of the patched text, from the bytes of the target. -/
def patchedBytes (sets : List RuleSet) (target : Path) (bytes : ByteArray) :
    Except RunError Patched := do
  let text ← (Utf8.decode bytes).mapError fun fault => .failed target (.malformed fault)
  (patch sets text).mapError .rule

/-- **The patched text depends on the bytes of the target only.** -/
theorem patched_eq (hf : fs.file? target = some f) (sets : List RuleSet) :
    patched fs sets target = patchedBytes sets target f.bytes := by
  have hread : fs.read target = .ok f.bytes := by
    unfold FileSystem.file? at hf
    split at hf
    · next g hg =>
      obtain rfl := Option.some.inj hf
      rw [FileSystem.read, hg]
      rfl
    · cases hf
  rw [patched, hread]
  rfl

/-- A patched text comes from a text that the bytes hold. -/
theorem patchedBytes_eq_ok {bytes : ByteArray} {result : Patched}
    (h : patchedBytes sets target bytes = .ok result) :
    ∃ text, Utf8.decode bytes = .ok text ∧ patch sets text = .ok result := by
  obtain ⟨text, htext, hpatch⟩ := bind_eq_ok_iff.1 h
  exact ⟨text, mapError_eq_ok_iff.1 htext, mapError_eq_ok_iff.1 hpatch⟩

/-- Bytes that are not patched are no text, or a rule fails. -/
theorem patchedBytes_eq_error {bytes : ByteArray} {e : RunError}
    (h : patchedBytes sets target bytes = .error e) :
    (∃ fault, e = .failed target (.malformed fault)) ∨ ∃ cause, e = .rule cause := by
  obtain hdecode | ⟨_, -, hpatch⟩ := bind_eq_error_iff.1 h
  · obtain ⟨fault, -, rfl⟩ := mapError_eq_error_iff.1 hdecode
    exact .inl ⟨fault, rfl⟩
  · obtain ⟨cause, -, rfl⟩ := mapError_eq_error_iff.1 hpatch
    exact .inr ⟨cause, rfl⟩

/-- So the backup is not what they are about, and the target is there. -/
theorem patchedBytes_ne_error {bytes : ByteArray} {e : RunError}
    (h : patchedBytes sets target bytes = .error e) :
    e ≠ .notFound target ∧ ∀ cause, e ≠ .backup cause := by
  obtain ⟨_, rfl⟩ | ⟨_, rfl⟩ := patchedBytes_eq_error h
  · exact ⟨by simp, by simp⟩
  · exact ⟨by simp, by simp⟩

/-- The ways in which a run over a file ends.  The backup, once prepared, is the `p` of all but the
first. -/
inductive Ended (fs : FileSystem) (sets : List RuleSet) (target : Path) (f : File)
    (options : RunOptions) (now : Time) (place backupPlace : Location) :
    Except RunError Outcome × FileSystem → Prop where
  /-- A directory stands in the place of the backup. -/
  | blocked : ¬ (options.skipBackup = true ∨ options.dryRun = true) →
      fs.node? backupPlace = some .directory →
      Ended fs sets target f options now place backupPlace
        (.error (.backup (.failed (Backup.pathFor target) .isDirectory)), fs)
  /-- The bytes are no text, or a rule fails. -/
  | failed (p : Prepared) (e : RunError) : Readied fs target f options now backupPlace p →
      patchedBytes sets target f.bytes = .error e →
      Ended fs sets target f options now place backupPlace (.error e, p.files)
  | unchanged (p : Prepared) (result : Patched) : Readied fs target f options now backupPlace p →
      patchedBytes sets target f.bytes = .ok result → result.applied = [] →
      Ended fs sets target f options now place backupPlace
        (.ok ⟨target, .unchanged, [], p.backup⟩, p.files)
  | dryRun (p : Prepared) (result : Patched) : Readied fs target f options now backupPlace p →
      patchedBytes sets target f.bytes = .ok result → result.applied ≠ [] →
      options.dryRun = true →
      Ended fs sets target f options now place backupPlace
        (.ok ⟨target, .dryRun, result.applied, p.backup⟩, p.files)
  /-- There is something to write, and the backup forbids it. -/
  | conflict (p : Prepared) (result : Patched) (cause : BackupError) :
      Readied fs target f options now backupPlace p →
      patchedBytes sets target f.bytes = .ok result → result.applied ≠ [] →
      options.dryRun = false → p.conflict = some cause →
      Ended fs sets target f options now place backupPlace (.error (.backup cause), p.files)
  | written (p : Prepared) (result : Patched) (gs : FileSystem) :
      Readied fs target f options now backupPlace p →
      patchedBytes sets target f.bytes = .ok result → result.applied ≠ [] →
      options.dryRun = false → p.conflict = none →
      p.files.With place (.file ⟨result.text.toUTF8, f.mode, now⟩) gs →
      Ended fs sets target f options now place backupPlace
        (.ok ⟨target, .written, result.applied, p.backup⟩, gs)

/-- **A run over a file ends in one of the six ways.** -/
theorem run_ended (h : fs.Beside target dir name) (hf : fs.node? (dir ++ [name]) = some (.file f))
    (sets : List RuleSet) (options : RunOptions) (now : Time) :
    Ended fs sets target f options now (dir ++ [name]) (dir ++ [name ++ Backup.suffix])
      (run fs sets target options now) := by
  have hfile : fs.file? target = some f := by rw [h.file_leads.file?, fileAt?, hf]
  rw [run, if_pos (by rw [isFile, hfile]; rfl)]
  rcases prepare_cases h hf options now with ⟨p, hprep, hready⟩ | ⟨hwanted, hdir, hprep⟩
  · have hfile' : p.files.file? target = some f := (hready.file?_target h).trans hfile
    simp only [hprep, patched_eq hfile']
    cases hresult : patchedBytes sets target f.bytes with
    | error e => exact .failed p e hready hresult
    | ok result =>
      simp only [conclude]
      by_cases happlied : result.applied = []
      · rw [if_pos (by simp [happlied])]
        exact .unchanged p result hready hresult happlied
      · rw [if_neg (by simp [happlied])]
        cases hdry : options.dryRun with
        | true =>
          rw [if_pos rfl]
          exact .dryRun p result hready hresult happlied hdry
        | false =>
          rw [if_neg Bool.false_ne_true]
          cases hconflict : p.conflict with
          | some cause => exact .conflict p result cause hready hresult happlied hdry hconflict
          | none =>
            have hleads := h.file_leads.of_keepsDirectories hready.keepsDirectories
            have hplace := hready.node?_target.trans hf
            obtain ⟨gs, hreplace, hwith⟩ :=
              hleads.replace (by simp [hplace]) result.text.toUTF8 now
            rw [hfile'] at hwith
            simp only [hreplace]
            exact .written p result gs hready hresult happlied hdry hconflict hwith
  · simp only [hprep]
    exact .blocked hwanted hdir

end Stages
end Run
end LiteralPatch
