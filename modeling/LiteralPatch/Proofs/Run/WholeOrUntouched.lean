import LiteralPatch.Proofs.Run.Stages

/-!
# A run writes the whole text or leaves the target alone

`Run.WholeOrUntouched` says what a run may leave behind, for every file system, rule sets, path and
options: the target holds its old bytes or exactly the patched text, and the latter only if the outcome
says so; no failure touches the target; and besides the target and its backup no place changes.

`run_wholeOrUntouched` reads this off the ways in which a run ends.
-/

namespace LiteralPatch

open FileSystem

/-- What a run of `sets` over `target` from `fs` promises about its result and about the file system
`after` it. -/
structure Run.WholeOrUntouched (fs : FileSystem) (sets : List RuleSet) (target : Path)
    (options : RunOptions) (result : Except RunError Outcome) (after : FileSystem) : Prop where
  /-- The target is as it was, or it holds the patched text of its old bytes. -/
  whole : ∀ f, fs.file? target = some f → after.file? target = some f ∨
    ∃ text patched g, Utf8.decode f.bytes = .ok text ∧ patch sets text = .ok patched ∧
      after.file? target = some g ∧ g.bytes = patched.text.toUTF8
  /-- Only a run that says so has written. -/
  written_of_changed : after.file? target ≠ fs.file? target →
    ∃ outcome, result = .ok outcome ∧ outcome.status = .written
  /-- A run that says so has written the patched text, and reports the changes that led to it. -/
  patched_of_written : ∀ outcome, result = .ok outcome → outcome.status = .written →
    ∃ f text patched g, fs.file? target = some f ∧ Utf8.decode f.bytes = .ok text ∧
      patch sets text = .ok patched ∧ outcome.applied = patched.applied ∧
      after.file? target = some g ∧ g.bytes = patched.text.toUTF8
  /-- A failure leaves bytes, mode and time of writing of the target as they were. -/
  untouched_of_error : ∀ e, result = .error e → after.file? target = fs.file? target
  /-- A missing target, or a backup with other bytes, leaves everything as it was. -/
  same_of_refused : result = .error (.notFound target) ∨
    (∃ file backup, result = .error (.backup (.conflict file backup))) → after = fs
  notFound_iff : result = .error (.notFound target) ↔ fs.file? target = none
  unchanged_iff : ∀ outcome, result = .ok outcome →
    (outcome.status = .unchanged ↔ outcome.applied = [])
  dryRun_iff : ∀ outcome, result = .ok outcome →
    (outcome.status = .dryRun ↔ outcome.applied ≠ [] ∧ options.dryRun = true)
  /-- What has been written over is in the backup. -/
  backup_of_written : ∀ outcome, result = .ok outcome → outcome.status = .written →
    options.skipBackup = false → outcome.backup.isSome = true ∧
      ∃ f g, fs.file? target = some f ∧ after.file? (Backup.pathFor target) = some g ∧
        g.bytes = f.bytes
  /-- No place changes but that of the target and that of its backup. -/
  frame : ∀ m, after.node? m ≠ fs.node? m →
    fs.locate target = .ok m ∨ fs.locate (Backup.pathFor target) = .ok m
  workingDirectory_eq : after.workingDirectory = fs.workingDirectory
  same_of_dryRun : options.dryRun = true → after = fs
  /-- Nor does that of the backup, if none is wanted. -/
  backup_of_skipBackup : options.skipBackup = true →
    ∀ m, fs.locate (Backup.pathFor target) = .ok m → after.node? m = fs.node? m

namespace Run

variable {fs : FileSystem} {sets : List RuleSet} {target : Path} {dir : Location} {name : String}
  {f : File} {options : RunOptions} {now : Time}

/-- A prepared backup holds the bytes of the target, unless none is wanted or there is a conflict. -/
theorem Readied.backup {p : Prepared} {place : Location}
    (hp : Readied fs target f options now place p)
    (hwanted : ¬ (options.skipBackup = true ∨ options.dryRun = true)) (hconflict : p.conflict = none) :
    p.backup.isSome = true ∧ ∃ g, p.files.node? place = some (.file g) ∧ g.bytes = f.bytes := by
  cases hp with
  | unwanted hskip => exact absurd hskip hwanted
  | kept g _ _ hg hbytes => exact ⟨rfl, g, hg, hbytes⟩
  | conflict g => cases hconflict
  | copied mode gs _ _ _ hwith => exact ⟨rfl, _, hwith.at_place, rfl⟩

theorem Readied.files_eq_of_unwanted {p : Prepared} {place : Location}
    (hp : Readied fs target f options now place p)
    (h : options.skipBackup = true ∨ options.dryRun = true) : p.files = fs := by
  cases hp with
  | unwanted _ => rfl
  | kept g hwanted => exact absurd h hwanted
  | conflict g hwanted => exact absurd h hwanted
  | copied mode gs hwanted => exact absurd h hwanted

theorem Readied.files_eq_of_conflict {p : Prepared} {place : Location} {cause : BackupError}
    (hp : Readied fs target f options now place p) (h : p.conflict = some cause) :
    p.files = fs := by
  cases hp with
  | unwanted _ => rfl
  | kept g => rfl
  | conflict g => rfl
  | copied mode gs => cases h

/-- An outcome that claims no writing, with the status that its changes call for. -/
def Quiet (options : RunOptions) (result : Except RunError Outcome) : Prop :=
  ∀ outcome, result = .ok outcome → outcome.status ≠ .written ∧
    (outcome.status = .unchanged ↔ outcome.applied = []) ∧
    (outcome.status = .dryRun ↔ outcome.applied ≠ [] ∧ options.dryRun = true)

theorem quiet_error (options : RunOptions) (e : RunError) : Quiet options (.error e) := by
  intro outcome h
  cases h

/-- A failure without a trace keeps the promise. -/
theorem wholeOrUntouched_of_same {e : RunError}
    (he : e = .notFound target ↔ fs.file? target = none) :
    WholeOrUntouched fs sets target options (.error e) fs where
  whole _ hg := .inl hg
  written_of_changed hne := absurd rfl hne
  patched_of_written _ ho := by cases ho
  untouched_of_error _ _ := rfl
  same_of_refused _ := rfl
  notFound_iff := by rw [Except.error.injEq, he]
  unchanged_iff _ ho := by cases ho
  dryRun_iff _ ho := by cases ho
  backup_of_written _ ho := by cases ho
  frame _ hm := absurd rfl hm
  workingDirectory_eq := rfl
  same_of_dryRun _ := rfl
  backup_of_skipBackup _ _ _ := rfl

/-- A run that ends with the files as they were prepared keeps the promise. -/
theorem Readied.wholeOrUntouched {p : Prepared} {result : Except RunError Outcome}
    (h : fs.Beside target dir name) (hfile : fs.file? target = some f)
    (hp : Readied fs target f options now (dir ++ [name ++ Backup.suffix]) p)
    (hquiet : Quiet options result) (hfound : result ≠ .error (.notFound target))
    (hconflict : (∃ file backup, result = .error (.backup (.conflict file backup))) →
      p.files = fs) :
    WholeOrUntouched fs sets target options result p.files where
  whole g hg := .inl ((hp.file?_target h).trans hg)
  written_of_changed hne := absurd (hp.file?_target h) hne
  patched_of_written outcome ho hw := absurd hw (hquiet outcome ho).1
  untouched_of_error _ _ := hp.file?_target h
  same_of_refused hr := hr.elim (fun hnf => absurd hnf hfound) hconflict
  notFound_iff := by simp [hfound, hfile]
  unchanged_iff outcome ho := (hquiet outcome ho).2.1
  dryRun_iff outcome ho := (hquiet outcome ho).2.2
  backup_of_written outcome ho hw := absurd hw (hquiet outcome ho).1
  frame m hm := by
    refine .inr ?_
    by_cases hplace : m = dir ++ [name ++ Backup.suffix]
    · rw [hplace, h.backup_leads.locate]
    · exact absurd (hp.frame hplace) hm
  workingDirectory_eq := hp.keepsDirectories.workingDirectory_eq
  same_of_dryRun hdry := hp.files_eq_of_unwanted (.inr hdry)
  backup_of_skipBackup hskip m _ := by rw [hp.files_eq_of_unwanted (.inl hskip)]

/-- A run that writes keeps the promise. -/
theorem Readied.wholeOrUntouched_of_written {p : Prepared} {patched : Patched} {gs : FileSystem}
    (h : fs.Beside target dir name) (hplace : fs.node? (dir ++ [name]) = some (.file f))
    (hp : Readied fs target f options now (dir ++ [name ++ Backup.suffix]) p)
    (hresult : patchedBytes sets target f.bytes = .ok patched) (happlied : patched.applied ≠ [])
    (hdry : options.dryRun = false) (hconflict : p.conflict = none)
    (hwith : p.files.With (dir ++ [name]) (.file ⟨patched.text.toUTF8, f.mode, now⟩) gs) :
    WholeOrUntouched fs sets target options
      (.ok ⟨target, .written, patched.applied, p.backup⟩) gs := by
  have hfile : fs.file? target = some f := by rw [h.file_leads.file?, fileAt?, hplace]
  have hfiles := h.of_keepsDirectories hp.keepsDirectories
  have hfree : p.files.node? (dir ++ [name]) ≠ some .directory := by
    simp [hp.node?_target, hplace]
  have hafter := hfiles.file_leads.file?_of_with hwith hfree
  obtain ⟨text, htext, hpatch⟩ := patchedBytes_eq_ok hresult
  constructor
  case whole =>
    intro g hg
    obtain rfl := Option.some.inj (hfile.symm.trans hg)
    exact .inr ⟨text, patched, _, htext, hpatch, hafter, rfl⟩
  case written_of_changed => exact fun _ => ⟨_, rfl, rfl⟩
  case patched_of_written =>
    intro outcome ho _
    obtain rfl := Except.ok.inj ho
    exact ⟨f, text, patched, _, hfile, htext, hpatch, rfl, hafter, rfl⟩
  case untouched_of_error => intro e he; cases he
  case same_of_refused =>
    rintro (hr | ⟨_, _, hr⟩)
    · cases hr
    · cases hr
  case notFound_iff => simp [hfile]
  case unchanged_iff =>
    intro outcome ho
    obtain rfl := Except.ok.inj ho
    simp [happlied]
  case dryRun_iff =>
    intro outcome ho
    obtain rfl := Except.ok.inj ho
    simp [hdry]
  case backup_of_written =>
    intro outcome ho _ hskip
    obtain rfl := Except.ok.inj ho
    obtain ⟨hbackup, g, hg, hbytes⟩ := hp.backup (by simp [hskip, hdry]) hconflict
    refine ⟨hbackup, f, g, hfile, ?_, hbytes⟩
    have hgs := hfiles.of_keepsDirectories (hwith.keepsDirectories hfree)
    rw [hgs.backup_leads.file?, fileAt?, hwith.elsewhere _ (backup_place_ne dir name), hg]
  case frame =>
    intro m hm
    by_cases htarget : m = dir ++ [name]
    · exact .inl (by rw [htarget, h.file_leads.locate])
    · by_cases hbackup : m = dir ++ [name ++ Backup.suffix]
      · exact .inr (by rw [hbackup, h.backup_leads.locate])
      · exact absurd ((hwith.elsewhere m htarget).trans (hp.frame hbackup)) hm
  case workingDirectory_eq =>
    exact hwith.workingDirectory_eq.trans hp.keepsDirectories.workingDirectory_eq
  case same_of_dryRun => intro htrue; simp [hdry] at htrue
  case backup_of_skipBackup =>
    intro hskip m hm
    rw [h.backup_leads.locate] at hm
    obtain rfl := Except.ok.inj hm
    rw [hwith.elsewhere _ (backup_place_ne dir name), hp.files_eq_of_unwanted (.inl hskip)]

end Run

/-- **A run writes the whole patched text or leaves the target alone,** whatever the files, the rules
and the options are. -/
theorem run_wholeOrUntouched (fs : FileSystem) (sets : List RuleSet) (target : Path)
    (options : RunOptions) (now : Time) :
    Run.WholeOrUntouched fs sets target options (run fs sets target options now).1
      (run fs sets target options now).2 := by
  cases hfile : fs.file? target with
  | none =>
    have hrun : run fs sets target options now = (.error (.notFound target), fs) := by
      rw [run, if_neg (by simp [isFile, hfile])]
    rw [hrun]
    exact Run.wholeOrUntouched_of_same (by simp [hfile])
  | some f =>
    obtain ⟨dir, name, hleads, hplace⟩ := exists_leadsTo_of_file? hfile
    have h := hleads.beside
    have hended := Run.run_ended h hplace sets options now
    generalize run fs sets target options now = ended at hended ⊢
    cases hended with
    | blocked _ _ => exact Run.wholeOrUntouched_of_same (by simp [hfile])
    | failed p e hp hresult =>
      obtain ⟨hfound, hbackup⟩ := Run.patchedBytes_ne_error hresult
      refine hp.wholeOrUntouched h hfile (Run.quiet_error options e) ?_ ?_
      · exact fun heq => hfound (Except.error.inj heq)
      · rintro ⟨_, _, heq⟩
        exact absurd (Except.error.inj heq) (hbackup _)
    | unchanged p result hp _ happlied =>
      refine hp.wholeOrUntouched h hfile ?_ (by simp) (by simp)
      intro outcome ho
      obtain rfl := Except.ok.inj ho
      simp
    | dryRun p result hp _ happlied hdry =>
      refine hp.wholeOrUntouched h hfile ?_ (by simp) (by simp)
      intro outcome ho
      obtain rfl := Except.ok.inj ho
      simp [happlied, hdry]
    | conflict p result cause hp _ _ _ hconflict =>
      exact hp.wholeOrUntouched h hfile (Run.quiet_error options _) (by simp)
        fun _ => hp.files_eq_of_conflict hconflict
    | written p result gs hp hresult happlied hdry hconflict hwith =>
      exact hp.wholeOrUntouched_of_written h hplace hresult happlied hdry hconflict hwith

end LiteralPatch
