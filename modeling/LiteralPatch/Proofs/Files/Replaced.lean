import LiteralPatch.Proofs.Attempts
import LiteralPatch.Proofs.Files.Beside

/-!
# A file is replaced as a whole or not at all

`FileSystem.replace` has three ends, and `replace_cases` names them: there is no directory to look the last
component up in, the renaming is refused, or the content is in place.  The first two leave the very file system
that was there before, the fresh file included that the second one has made and removed (`remove_put_fresh`).

The third changes the place that the path leads to and nothing else (`ChangedAt`).  Since no directory stands
there before or after, every other path leads where it led before, and denotes what it denoted.

Restoring a backup is replacing, with the bytes of the backup.  The backup keeps its bytes even if it is restored
over itself, through whatever path.
-/

namespace LiteralPatch
namespace FileSystem

variable {fs gs : FileSystem} {p : Path} {l : Location} {bytes : ByteArray} {now : Time}

/-! ## What a path denotes, by the place that it leads to -/

theorem find_of_locate (hl : fs.locate p = .ok l) : fs.find p = match fs.node? l with
    | none => .error .notFound
    | some (.file f) => if p.meansDirectory then .error .notDirectory else .ok (.file f)
    | some .directory => .ok .directory := by
  rw [find, hl]
  rfl

theorem find_of_locate_error {fault : FileFault} (hl : fs.locate p = .error fault) :
    fs.find p = .error fault := by
  rw [find, hl]
  rfl

theorem file?_eq (fs : FileSystem) (p : Path) : fs.file? p =
    (fs.locate p).toOption.bind fun l => if p.meansDirectory then none else fs.fileAt? l := by
  unfold file? fileAt?
  cases hl : fs.locate p with
  | error e =>
    rw [find_of_locate_error hl]
    rfl
  | ok l =>
    rw [find_of_locate hl]
    rcases hn : fs.node? l with _ | ⟨f⟩ | _ <;> cases p.meansDirectory <;> simp [Except.toOption, hn]

theorem isDirectory_iff : fs.isDirectory p = true ↔
    ∃ l, fs.locate p = .ok l ∧ fs.node? l = some .directory := by
  unfold isDirectory
  cases hl : fs.locate p with
  | error e => simp [find_of_locate_error hl]
  | ok l =>
    rw [find_of_locate hl]
    rcases hn : fs.node? l with _ | ⟨f⟩ | _ <;> cases p.meansDirectory <;> simp [hn]

/-! ## One place changed -/

/-- Nothing but the place `l` is changed, to whoever looks at locations and to whoever looks at paths. -/
structure ChangedAt (fs : FileSystem) (l : Location) (gs : FileSystem) : Prop where
  node?_eq : ∀ m, m ≠ l → gs.node? m = fs.node? m
  locate_iff : ∀ q m, gs.locate q = .ok m ↔ fs.locate q = .ok m
  file?_eq : ∀ q, fs.locate q ≠ .ok l → gs.file? q = fs.file? q
  isDirectory_eq : ∀ q, gs.isDirectory q = fs.isDirectory q
  workingDirectory_eq : gs.workingDirectory = fs.workingDirectory

/-- Putting a file where no directory stands makes no directory either. -/
theorem With.keepsDirectories_of_file {f : File} (h : fs.With l (.file f) gs) : gs.KeepsDirectories fs := by
  refine ⟨fun m hm => ?_, h.workingDirectory_eq.symm⟩
  have hne : m ≠ l := by
    rintro rfl
    rw [h.at_place] at hm
    cases hm
  rw [← h.elsewhere m hne, hm]

theorem KeepsDirectories.locate_eq_ok {q : Path} {m : Location} (h : fs.KeepsDirectories gs)
    (hm : fs.locate q = .ok m) : gs.locate q = .ok m := by
  unfold locate at hm ⊢
  split at hm
  · cases hm
  · next hq =>
    rw [if_neg hq, h.workingDirectory_eq]
    exact follow_of_keepsDirectories h hm

/-- **A file that is put where no directory stands changes that place only.** -/
theorem With.changedAt {f : File} (h : fs.With l (.file f) gs) (hfree : fs.node? l ≠ some .directory) :
    fs.ChangedAt l gs := by
  have hlocate : ∀ q m, gs.locate q = .ok m ↔ fs.locate q = .ok m := fun q m =>
    ⟨h.keepsDirectories_of_file.locate_eq_ok, (h.keepsDirectories hfree).locate_eq_ok⟩
  have hoption : ∀ q, (gs.locate q).toOption = (fs.locate q).toOption := fun q =>
    Option.ext fun m => by simp only [toOption_eq_some_iff, hlocate]
  refine ⟨h.elsewhere, hlocate, fun q hq => ?_, fun q => ?_, h.workingDirectory_eq⟩
  · rw [FileSystem.file?_eq, FileSystem.file?_eq, hoption]
    refine Option.bind_congr fun m hm => ?_
    have hne : m ≠ l := by
      rintro rfl
      exact hq (toOption_eq_some_iff.1 hm)
    rw [fileAt?, fileAt?, h.elsewhere m hne]
  · rw [Bool.eq_iff_iff, isDirectory_iff, isDirectory_iff]
    refine exists_congr fun m => and_congr (hlocate q m) ?_
    exact ⟨h.keepsDirectories_of_file.directory m, (h.keepsDirectories hfree).directory m⟩

/-! ## Replacing -/

/-- A file can be put at the path: the last component is looked up in a directory, it is the name of no directory,
and it may be the name of a file. -/
structure Admits (fs : FileSystem) (p : Path) : Prop where
  parent : ∃ dir, fs.parent p = .ok dir
  not_isDirectory : fs.isDirectory p = false
  not_meansDirectory : p.meansDirectory = false

/-- The directory that the last component is looked up in is the end of the way. -/
theorem exists_leadsTo_of_parent {dir : Location} (hparent : fs.parent p = .ok dir)
    (hmeans : p.meansDirectory = false) : ∃ name, fs.LeadsTo p dir name := by
  have hslash : '/' ∉ "".toList := by decide
  obtain ⟨init, last, hraw, -⟩ := p.rawParts_append hslash
  obtain ⟨hnames, hup⟩ := (Path.meansDirectory_eq_false hraw).1 hmeans
  obtain ⟨l, hway, hdir⟩ := bind_eq_ok_iff.1 hparent
  rw [Path.parts_of_names hraw hnames, List.dropLast_concat] at hway
  split at hdir
  · cases hdir
  · cases hdir
  · next hl =>
    obtain rfl := Except.ok.inj hdir
    exact ⟨last, ⟨init, hraw, hway⟩, hnames, hup, hl⟩

theorem LeadsTo.isDirectory_eq_false_iff {dir : Location} {name : String} (h : fs.LeadsTo p dir name) :
    fs.isDirectory p = false ↔ fs.node? (dir ++ [name]) ≠ some .directory := by
  rw [← Bool.not_eq_true, isDirectory_iff, h.locate]
  simp

theorem admits_iff : fs.Admits p ↔
    ∃ dir name, fs.LeadsTo p dir name ∧ fs.node? (dir ++ [name]) ≠ some .directory := by
  constructor
  · rintro ⟨⟨dir, hparent⟩, hdir, hmeans⟩
    obtain ⟨name, hleads⟩ := exists_leadsTo_of_parent hparent hmeans
    exact ⟨dir, name, hleads, hleads.isDirectory_eq_false_iff.1 hdir⟩
  · rintro ⟨dir, name, hleads, hfree⟩
    exact ⟨⟨dir, hleads.parent⟩, hleads.isDirectory_eq_false_iff.2 hfree, hleads.meansDirectory⟩

theorem renameTarget_of_locate (hl : fs.locate p = .ok l) : fs.renameTarget p =
    if p.endsInDots then .error .busy
    else if p.meansDirectory then .error .notDirectory
    else match fs.node? l with
      | some .directory => .error .isDirectory
      | _ => .ok l := by
  rw [renameTarget, hl]
  cases p.endsInDots <;> cases p.meansDirectory <;> rfl

theorem renameTarget_eq_ok (h : fs.renameTarget p = .ok l) :
    fs.locate p = .ok l ∧ p.meansDirectory = false ∧ fs.node? l ≠ some .directory := by
  cases hm : fs.locate p with
  | error fault =>
    rw [renameTarget, hm] at h
    cases h
  | ok m =>
    rw [renameTarget_of_locate hm] at h
    split at h
    · cases h
    · split at h
      · cases h
      · next hmeans =>
        split at h
        · cases h
        · next hfree =>
          obtain rfl := Except.ok.inj h
          exact ⟨rfl, Bool.eq_false_iff.2 hmeans, hfree⟩

/-- **Replacing puts the content in place, or leaves the very file system that was there.** -/
theorem replace_cases (fs : FileSystem) (p : Path) (bytes : ByteArray) (now : Time) :
    (∃ fault, ¬ fs.Admits p ∧ fs.replace p bytes now = (.error fault, fs)) ∨
    ∃ dir name gs, fs.LeadsTo p dir name ∧ fs.node? (dir ++ [name]) ≠ some .directory ∧
      fs.replace p bytes now = (.ok (), gs) ∧
      fs.With (dir ++ [name]) (.file ⟨bytes, ((fs.file? p).map File.mode).getD privateMode, now⟩) gs := by
  by_cases h : fs.Admits p
  · obtain ⟨dir, name, hleads, hfree⟩ := admits_iff.1 h
    obtain ⟨gs, hreplace, hwith⟩ := hleads.replace hfree bytes now
    exact .inr ⟨dir, name, gs, hleads, hfree, hreplace, hwith⟩
  · refine .inl ?_
    unfold replace
    cases hparent : fs.parent p with
    | error fault => exact ⟨fault, h, rfl⟩
    | ok dir =>
      cases htarget : fs.renameTarget p with
      | error fault => exact ⟨fault, h, by simp only [remove_put_fresh]⟩
      | ok l =>
        obtain ⟨hl, hmeans, hfree⟩ := renameTarget_eq_ok htarget
        obtain ⟨dir, name, hleads, rfl⟩ := exists_leadsTo_of_locate hl hmeans
        exact absurd (admits_iff.2 ⟨dir, name, hleads, hfree⟩) h

/-- What an attempt to put content at a path as a whole promises about its result and about the file system
`after` it. -/
structure AllOrNothing {ε : Type} (fs : FileSystem) (p : Path) (bytes : ByteArray) (result : Except ε Unit)
    (after : FileSystem) : Prop where
  ok_iff : result = .ok () ↔ fs.Admits p
  /-- The path denotes a file with the content, and with the mode of the file that it denoted before. -/
  whole : result = .ok () → ∃ g, after.file? p = some g ∧ g.bytes = bytes ∧
    ∀ f, fs.file? p = some f → g.mode = f.mode
  /-- Everything else is as it was; the fresh file that the content passed through is gone. -/
  changedAt : result = .ok () → ∃ l, fs.locate p = .ok l ∧ fs.ChangedAt l after
  untouched : ∀ e, result = .error e → after = fs

/-- The promise does not depend on how a failure is reported. -/
theorem AllOrNothing.mapError {ε ε' : Type} {result : Except ε Unit} (report : ε → ε')
    (h : fs.AllOrNothing p bytes result gs) : fs.AllOrNothing p bytes (result.mapError report) gs := by
  cases result with
  | ok _ => exact ⟨iff_of_true rfl (h.ok_iff.1 rfl), fun _ => h.whole rfl, fun _ => h.changedAt rfl, nofun⟩
  | error e => exact ⟨iff_of_false nofun (mt h.ok_iff.2 nofun), nofun, nofun, fun _ _ => h.untouched e rfl⟩

/-- **Replacing is all or nothing.** -/
theorem replace_allOrNothing (fs : FileSystem) (p : Path) (bytes : ByteArray) (now : Time) :
    fs.AllOrNothing p bytes (fs.replace p bytes now).1 (fs.replace p bytes now).2 := by
  obtain ⟨fault, hnot, hreplace⟩ | ⟨dir, name, gs, hleads, hfree, hreplace, hwith⟩ :=
    fs.replace_cases p bytes now
  · rw [hreplace]
    exact ⟨iff_of_false nofun hnot, nofun, nofun, fun _ _ => rfl⟩
  · rw [hreplace]
    refine ⟨iff_of_true rfl (admits_iff.2 ⟨dir, name, hleads, hfree⟩), fun _ => ?_, fun _ => ?_, nofun⟩
    · refine ⟨_, hleads.file?_of_with hwith hfree, rfl, fun f hf => ?_⟩
      rw [hf, Option.map_some, Option.getD_some]
    · exact ⟨_, hleads.locate, hwith.changedAt hfree⟩

end FileSystem

/-! ## Restoring -/

namespace Backup

open FileSystem

variable {fs gs : FileSystem} {backup target : Path}

/-- What restoring a backup promises about its result and about the file system `after` it. -/
structure Restored (fs : FileSystem) (backup target : Path) (result : Except BackupError Unit)
    (after : FileSystem) : Prop where
  ok_iff : result = .ok () ↔ fs.isFile backup = true ∧ fs.Admits target
  /-- The target has the bytes of the backup, and so has the backup. -/
  whole : result = .ok () → ∃ f, fs.file? backup = some f ∧ fs.AllOrNothing target f.bytes result after ∧
    ∃ b, after.file? backup = some b ∧ b.bytes = f.bytes
  untouched : ∀ e, result = .error e → after = fs

/-- A file keeps its bytes if a file with the same bytes is put anywhere, also in its own place. -/
theorem exists_file?_of_with {l : Location} {f g : File} (hf : fs.file? backup = some f)
    (h : fs.With l (.file g) gs) (hfree : fs.node? l ≠ some .directory) (hbytes : g.bytes = f.bytes) :
    ∃ b, gs.file? backup = some b ∧ b.bytes = f.bytes := by
  obtain ⟨dir, name, hleads, -⟩ := exists_leadsTo_of_file? hf
  by_cases hplace : dir ++ [name] = l
  · obtain rfl := hplace
    exact ⟨g, hleads.file?_of_with h hfree, hbytes⟩
  · have hother : fs.locate backup ≠ .ok l := by
      rw [hleads.locate]
      exact fun heq => hplace (Except.ok.inj heq)
    exact ⟨f, ((h.changedAt hfree).file?_eq backup hother).trans hf, rfl⟩

/-- A file keeps its bytes when they are put anywhere as a whole. -/
theorem exists_file?_of_replace {f : File} (hf : fs.file? backup = some f) (target : Path) (now : Time) :
    ∃ b, (fs.replace target f.bytes now).2.file? backup = some b ∧ b.bytes = f.bytes := by
  obtain ⟨fault, -, hreplace⟩ | ⟨dir, name, gs, hleads, hfree, hreplace, hwith⟩ :=
    fs.replace_cases target f.bytes now
  · rw [hreplace]
    exact ⟨f, hf, rfl⟩
  · rw [hreplace]
    exact exists_file?_of_with hf hwith hfree rfl

theorem restore_of_missing (hf : fs.file? backup = none) (target : Path) (now : Time) :
    restore fs backup target now = (.error (.notFound backup), fs) := by
  rw [restore, hf]

theorem restore_eq_replace {f : File} (hf : fs.file? backup = some f) (target : Path) (now : Time) :
    restore fs backup target now = ((fs.replace target f.bytes now).1.mapError (.failed target),
      (fs.replace target f.bytes now).2) := by
  rw [restore, hf]

/-- **Restoring is all or nothing.** -/
theorem restored (fs : FileSystem) (backup target : Path) (now : Time) :
    Restored fs backup target (restore fs backup target now).1 (restore fs backup target now).2 := by
  cases hf : fs.file? backup with
  | none =>
    rw [restore_of_missing hf]
    refine ⟨iff_of_false nofun fun h => ?_, nofun, fun _ _ => rfl⟩
    rw [isFile, hf] at h
    exact absurd h.1 (by decide)
  | some f =>
    rw [restore_eq_replace hf]
    have hpromise := (fs.replace_allOrNothing target f.bytes now).mapError (BackupError.failed target)
    have hfile : fs.isFile backup = true := by rw [isFile, hf, Option.isSome_some]
    refine ⟨?_, fun _ => ⟨f, hf, hpromise, exists_file?_of_replace hf target now⟩, hpromise.untouched⟩
    rw [hpromise.ok_iff, hfile, eq_self_iff_true, true_and]

/-- **Files are replaced and backups restored as a whole or not at all**: for all file systems, paths and contents,
a success puts exactly the content under the path, keeps the mode of the file that it replaces and changes no other
place, and a failure changes nothing; and for all backups, a success puts the bytes of the backup back and leaves
them in the backup, and a failure changes nothing. -/
theorem replace_restore_allOrNothing (fs : FileSystem) (now : Time) :
    (∀ (p : Path) (bytes : ByteArray),
      fs.AllOrNothing p bytes (fs.replace p bytes now).1 (fs.replace p bytes now).2) ∧
    ∀ backup target : Path,
      Restored fs backup target (restore fs backup target now).1 (restore fs backup target now).2 :=
  ⟨fun p bytes => fs.replace_allOrNothing p bytes now, fun backup target => restored fs backup target now⟩

end Backup
end LiteralPatch
