import LiteralPatch.Proofs.Run.Stages

/-!
# A dry run predicts the run that writes

A dry run takes the short way: it prepares no backup, and all that it says comes from the bytes of the
target (`dryRun_fst`).  The run that writes passes through the same bytes by another way.  It prepares the
backup first, and a directory in the backup's place ends it there; a backup with other bytes is
remembered, and is brought up only when there is something to write.

So the two can part in two places, before the target is read and before it is written, and both times the
backup is the reason.  `Run.Predicts` says what may become of the run that writes for each answer of the
dry run, and `dryRun_predicts` that nothing else does.
-/

namespace LiteralPatch

open FileSystem

namespace Run

variable {fs : FileSystem} {sets : List RuleSet} {target : Path} {dir : Location} {name : String}
  {f : File} {skipBackup : Bool} {policy : BackupPolicy} {now later : Time}

/-- What a dry run says, from what the rules make of the bytes of the target. -/
def foretold (target : Path) : Except RunError Patched → Except RunError Outcome
  | .error e => .error e
  | .ok result =>
    .ok ⟨target, if result.applied.isEmpty then .unchanged else .dryRun, result.applied, none⟩

/-- **A dry run depends on the bytes of the target only.** -/
theorem dryRun_fst (h : fs.Beside target dir name) (hf : fs.node? (dir ++ [name]) = some (.file f))
    (sets : List RuleSet) (skipBackup : Bool) (policy : BackupPolicy) (now : Time) :
    (run fs sets target ⟨skipBackup, policy, true⟩ now).1 =
      foretold target (patchedBytes sets target f.bytes) := by
  have hended := run_ended h hf sets ⟨skipBackup, policy, true⟩ now
  -- nothing is prepared in a dry run, so no backup is reported
  have hbackup : ∀ p, Readied fs target f ⟨skipBackup, policy, true⟩ now
      (dir ++ [name ++ Backup.suffix]) p → p.backup = none := by
    intro p hp
    cases hp with
    | unwanted _ => rfl
    | kept _ hwanted => exact absurd (.inr rfl) hwanted
    | conflict _ hwanted => exact absurd (.inr rfl) hwanted
    | copied _ _ hwanted => exact absurd (.inr rfl) hwanted
  generalize run fs sets target ⟨skipBackup, policy, true⟩ now = ended at hended ⊢
  cases hended with
  | blocked hwanted _ => exact absurd (.inr rfl) hwanted
  | failed p e _ hresult => rw [hresult, foretold]
  | unchanged p result hp hresult happlied =>
    rw [hresult, foretold, happlied, hbackup p hp]
    rfl
  | dryRun p result hp hresult happlied _ =>
    have hsome : result.applied.isEmpty = false := by simpa using happlied
    rw [hresult, foretold, hsome, hbackup p hp]
    rfl
  | conflict _ _ _ _ _ _ hdry _ => cases hdry
  | written _ _ _ _ _ _ hdry _ _ => cases hdry

/-- **A dry run leaves all files alone**, whatever the target is and however it ends. -/
theorem dryRun_snd (fs : FileSystem) (sets : List RuleSet) (target : Path) (skipBackup : Bool)
    (policy : BackupPolicy) (now : Time) :
    (run fs sets target ⟨skipBackup, policy, true⟩ now).2 = fs := by
  have hprepare : prepare fs target ⟨skipBackup, policy, true⟩ now = .ok ⟨none, none, fs⟩ := by
    rw [prepare, if_pos (.inr rfl)]
  rw [run]
  by_cases hfile : fs.isFile target
  · rw [if_pos hfile, hprepare]
    cases hresult : patched fs sets target with
    | error e => simp only [hresult]
    | ok result =>
      simp only [hresult, conclude]
      by_cases happlied : result.applied.isEmpty
      · rw [if_pos happlied]
      · rw [if_neg happlied]
        rfl
  · rw [if_neg hfile]

/-- What the answer `dry` of a dry run says about the run from the same files that writes: its answer
`real`, and the files `after` it. -/
structure Predicts (fs : FileSystem) (sets : List RuleSet) (target : Path) (skipBackup : Bool)
    (policy : BackupPolicy) (dry real : Except RunError Outcome) (after : FileSystem) : Prop where
  /-- The changes that were announced are made, in that order, unless the backup forbids it. -/
  of_changes : ∀ outcome, dry = .ok outcome → outcome.applied ≠ [] →
    (∃ cause, real = .error (.backup cause)) ∨
      ∃ outcome' f text patched g, real = .ok outcome' ∧ outcome'.status = .written ∧
        outcome'.applied = outcome.applied ∧ fs.file? target = some f ∧
        Utf8.decode f.bytes = .ok text ∧ patch sets text = .ok patched ∧
        after.file? target = some g ∧ g.bytes = patched.text.toUTF8
  /-- Where there is nothing to change, nothing is changed. -/
  of_no_changes : ∀ outcome, dry = .ok outcome → outcome.applied = [] →
    (∃ outcome', real = .ok outcome' ∧ outcome'.status = .unchanged ∧ outcome'.applied = []) ∨
      ∃ path cause, real = .error (.backup (.failed path cause))
  /-- A failure is the same failure, unless no backup can be made: that shows earlier. -/
  of_failure : ∀ e, dry = .error e →
    real = .error e ∨ ∃ path cause, real = .error (.backup (.failed path cause))
  /-- The backup is in the way exactly where it may not be replaced, holds other bytes, and there is
  something to write. -/
  conflict_iff : (∃ file backup, real = .error (.backup (.conflict file backup))) ↔
    skipBackup = false ∧ policy = .preserve ∧
      (∃ f b, fs.file? target = some f ∧ fs.file? (Backup.pathFor target) = some b ∧
        b.bytes ≠ f.bytes) ∧
      ∃ outcome, dry = .ok outcome ∧ outcome.applied ≠ []

/-- A backup that is ready to be left alone, or that has just been made, is no conflict. -/
theorem Readied.not_differs {p : Prepared} (h : fs.Beside target dir name)
    (hp : Readied fs target f ⟨skipBackup, policy, false⟩ now (dir ++ [name ++ Backup.suffix]) p)
    (hnone : p.conflict = none) (hskip : skipBackup = false) (hpolicy : policy = .preserve) {b : File}
    (hb : fs.file? (Backup.pathFor target) = some b) : b.bytes = f.bytes := by
  rw [h.backup_leads.file?, fileAt?] at hb
  cases hp with
  | unwanted hwanted => simp [hskip] at hwanted
  | kept g _ _ hg hbytes =>
    rw [hg] at hb
    rw [← Option.some.inj hb, hbytes]
  | conflict _ => cases hnone
  | copied _ _ _ habsent =>
    rw [habsent hpolicy] at hb
    cases hb

/-- A conflict is one of bytes. -/
theorem Readied.differs {p : Prepared} {cause : BackupError} (h : fs.Beside target dir name)
    (hp : Readied fs target f ⟨skipBackup, policy, false⟩ now (dir ++ [name ++ Backup.suffix]) p)
    (hconflict : p.conflict = some cause) :
    cause = .conflict target (Backup.pathFor target) ∧ skipBackup = false ∧ policy = .preserve ∧
      ∃ b, fs.file? (Backup.pathFor target) = some b ∧ b.bytes ≠ f.bytes := by
  cases hp with
  | unwanted _ => cases hconflict
  | kept _ => cases hconflict
  | copied _ => cases hconflict
  | conflict g hwanted hpolicy hg hbytes =>
    obtain rfl := Option.some.inj hconflict
    have hskip : skipBackup = false := by simpa using hwanted
    have hb : fs.file? (Backup.pathFor target) = some g := by
      rw [h.backup_leads.file?, fileAt?, hg]
    exact ⟨rfl, hskip, hpolicy, g, hb, hbytes⟩

/-- Over a file, the two runs part only because of the backup. -/
theorem predicts_of_file (h : fs.Beside target dir name)
    (hf : fs.node? (dir ++ [name]) = some (.file f)) (sets : List RuleSet) (skipBackup : Bool)
    (policy : BackupPolicy) (later : Time) :
    Predicts fs sets target skipBackup policy (foretold target (patchedBytes sets target f.bytes))
      (run fs sets target ⟨skipBackup, policy, false⟩ later).1
      (run fs sets target ⟨skipBackup, policy, false⟩ later).2 := by
  have hfile : fs.file? target = some f := by rw [h.file_leads.file?, fileAt?, hf]
  have hended := run_ended h hf sets ⟨skipBackup, policy, false⟩ later
  generalize run fs sets target ⟨skipBackup, policy, false⟩ later = ended at hended ⊢
  cases hended with
  | blocked hwanted hdir =>
    refine ⟨fun _ _ _ => .inl ⟨_, rfl⟩, fun _ _ _ => .inr ⟨_, _, rfl⟩, fun _ _ => .inr ⟨_, _, rfl⟩, ?_⟩
    constructor
    · rintro ⟨_, _, heq⟩
      cases heq
    · rintro ⟨-, -, ⟨_, b, -, hb, -⟩, -⟩
      rw [h.backup_leads.file?, fileAt?, hdir] at hb
      cases hb
  | failed p e _ hresult =>
    rw [hresult, foretold]
    refine ⟨fun _ ho => absurd ho (by simp), fun _ ho => absurd ho (by simp), fun _ he => .inl he, ?_⟩
    constructor
    · rintro ⟨_, _, heq⟩
      exact absurd (Except.error.inj heq) ((patchedBytes_ne_error hresult).2 _)
    · rintro ⟨-, -, -, _, ho, -⟩
      cases ho
  | unchanged p result _ hresult happlied =>
    rw [hresult, foretold]
    refine ⟨?_, fun _ _ _ => .inl ⟨_, rfl, rfl, rfl⟩, fun _ he => absurd he (by simp), ?_⟩
    · intro outcome ho hne
      obtain rfl := Except.ok.inj ho
      exact absurd happlied hne
    · constructor
      · rintro ⟨_, _, heq⟩
        cases heq
      · rintro ⟨-, -, -, outcome, ho, hne⟩
        obtain rfl := Except.ok.inj ho
        exact absurd happlied hne
  | dryRun _ _ _ _ _ hdry => cases hdry
  | conflict p result cause hp hresult happlied _ hconflict =>
    obtain ⟨rfl, hskip, hpolicy, b, hb, hbytes⟩ := hp.differs h hconflict
    rw [hresult, foretold]
    refine ⟨fun _ _ _ => .inl ⟨_, rfl⟩, ?_, fun _ he => absurd he (by simp), ?_⟩
    · intro outcome ho hnil
      obtain rfl := Except.ok.inj ho
      exact absurd hnil happlied
    · exact ⟨fun _ => ⟨hskip, hpolicy, ⟨f, b, hfile, hb, hbytes⟩, _, rfl, happlied⟩,
        fun _ => ⟨_, _, rfl⟩⟩
  | written p result gs hp hresult happlied _ hconflict hwith =>
    have hfree : p.files.node? (dir ++ [name]) ≠ some .directory := by
      simp [hp.node?_target, hf]
    have hleads := h.file_leads.of_keepsDirectories hp.keepsDirectories
    have hafter := hleads.file?_of_with hwith hfree
    obtain ⟨text, htext, hpatch⟩ := patchedBytes_eq_ok hresult
    rw [hresult, foretold]
    refine ⟨?_, ?_, fun _ he => absurd he (by simp), ?_⟩
    · intro outcome ho _
      obtain rfl := Except.ok.inj ho
      exact .inr ⟨_, f, text, result, _, rfl, rfl, rfl, hfile, htext, hpatch, hafter, rfl⟩
    · intro outcome ho hnil
      obtain rfl := Except.ok.inj ho
      exact absurd hnil happlied
    · constructor
      · rintro ⟨_, _, heq⟩
        cases heq
      · rintro ⟨hskip, hpolicy, ⟨f', b, hf', hb, hbytes⟩, -⟩
        obtain rfl := Option.some.inj (hfile.symm.trans hf')
        exact absurd (hp.not_differs h hconflict hskip hpolicy hb) hbytes

end Run

/-- **A dry run predicts the run that writes.**  The same changes are made, or the same failure is
reported, whatever the files, the rules and the options are; only the backup can come in between, and it
is in the way exactly if it differs from a target that is to be written. -/
theorem dryRun_predicts (fs : FileSystem) (sets : List RuleSet) (target : Path) (skipBackup : Bool)
    (policy : BackupPolicy) (now later : Time) :
    Run.Predicts fs sets target skipBackup policy
      (run fs sets target ⟨skipBackup, policy, true⟩ now).1
      (run fs sets target ⟨skipBackup, policy, false⟩ later).1
      (run fs sets target ⟨skipBackup, policy, false⟩ later).2 := by
  cases hfile : fs.file? target with
  | none =>
    have hrun : ∀ options now, run fs sets target options now = (.error (.notFound target), fs) := by
      intro options now
      rw [run, if_neg (by simp [isFile, hfile])]
    rw [hrun, hrun]
    refine ⟨fun _ ho => absurd ho (by simp), fun _ ho => absurd ho (by simp), fun _ he => .inl he, ?_⟩
    constructor
    · rintro ⟨_, _, heq⟩
      cases heq
    · rintro ⟨-, -, ⟨f, _, hf, -⟩, -⟩
      rw [hfile] at hf
      cases hf
  | some f =>
    obtain ⟨dir, name, hleads, hplace⟩ := exists_leadsTo_of_file? hfile
    rw [Run.dryRun_fst hleads.beside hplace]
    exact Run.predicts_of_file hleads.beside hplace sets skipBackup policy later

end LiteralPatch
