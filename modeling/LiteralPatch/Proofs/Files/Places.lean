import LiteralPatch.Files.Write
import Std.Data.String.ToNat
import Mathlib.Data.List.Nodup

/-!
# Where files stand

A path is resolved anew for each operation, so a statement about a run of operations has to know that a
path leads to the same place before and after.  The reason is always the same: every step of the way
goes through a directory, and no operation puts a file where a directory stands.

* `With`: one file system is another with one node put in place, to everyone who looks.
* `follow_of_keepsDirectories`: a way through directories stays a way as long as they stay.
* `LeadsTo`: the directory and the name that a path leads to, whether or not a file stands there.
* `LeadsTo.replace`: replacing a file succeeds unless a directory is in the way, and changes that place only.
-/

namespace LiteralPatch
namespace FileSystem

/-! ## One node changed -/

/-- `gs` is `fs` with the node `n` at the location `l`. -/
structure With (fs : FileSystem) (l : Location) (n : Node) (gs : FileSystem) : Prop where
  at_place : gs.node? l = some n
  elsewhere : ∀ m, m ≠ l → gs.node? m = fs.node? m
  workingDirectory_eq : gs.workingDirectory = fs.workingDirectory

theorem with_put {fs : FileSystem} {l : Location} {n : Node} (h : l ≠ []) :
    fs.With l n (fs.put l n) :=
  ⟨node?_put_self h, fun _ hm => node?_put_of_ne hm, rfl⟩

/-- Of two changes at one place the later counts. -/
theorem With.trans {fs gs hs : FileSystem} {l : Location} {n n' : Node}
    (h : fs.With l n gs) (h' : gs.With l n' hs) : fs.With l n' hs :=
  ⟨h'.at_place, fun m hm => (h'.elsewhere m hm).trans (h.elsewhere m hm),
    h'.workingDirectory_eq.trans h.workingDirectory_eq⟩

/-! ## Ways through directories -/

/-- Every directory of `fs` is a directory of `gs`, and relative paths start at the same place. -/
structure KeepsDirectories (fs gs : FileSystem) : Prop where
  directory : ∀ m, fs.node? m = some .directory → gs.node? m = some .directory
  workingDirectory_eq : gs.workingDirectory = fs.workingDirectory

theorem With.keepsDirectories {fs gs : FileSystem} {l : Location} {n : Node}
    (h : fs.With l n gs) (hl : fs.node? l ≠ some .directory) : fs.KeepsDirectories gs := by
  refine ⟨fun m hm => ?_, h.workingDirectory_eq⟩
  have hne : m ≠ l := by
    rintro rfl
    exact hl hm
  rw [h.elsewhere m hne, hm]

theorem follow_of_keepsDirectories {fs gs : FileSystem} (h : fs.KeepsDirectories gs)
    {here l : Location} {parts : List String} (hl : fs.follow here parts = .ok l) :
    gs.follow here parts = .ok l := by
  induction parts generalizing here with
  | nil => simpa [follow] using hl
  | cons part rest ih =>
    unfold follow at hl ⊢
    split at hl
    · cases hl
    · cases hl
    · next hdir =>
      rw [h.directory _ hdir]
      dsimp only
      split at hl
      · next hpart => rw [if_pos hpart]; exact ih hl
      · next hpart => rw [if_neg hpart]; exact ih hl

/-- The last step of a way starts in a directory. -/
theorem follow_concat {fs : FileSystem} {here l : Location} {parts : List String} {part : String} :
    fs.follow here (parts ++ [part]) = .ok l ↔
      ∃ dir, fs.follow here parts = .ok dir ∧ fs.node? dir = some .directory ∧
        l = if part = ".." then dir.dropLast else dir ++ [part] := by
  induction parts generalizing here with
  | nil =>
    simp only [List.nil_append, follow, Except.ok.injEq, exists_eq_left']
    cases hn : fs.node? here with
    | none => simp
    | some n =>
      cases n with
      | file f => simp
      | directory => by_cases hp : part = ".." <;> simp [hp, eq_comm]
  | cons p rest ih =>
    rw [List.cons_append, follow, follow]
    cases hn : fs.node? here with
    | none => simp
    | some n =>
      cases n with
      | file f => simp
      | directory =>
        dsimp only
        split <;> exact ih

end FileSystem

/-! ## The pieces of a path -/

namespace Path

theorem pieces_of_notMem {cs : List Char} (hs : '/' ∉ cs) : pieces cs = [cs] := by
  induction cs with
  | nil => rfl
  | cons c cs ih =>
    rw [List.mem_cons, not_or] at hs
    rw [pieces, ih hs.2]
    exact if_neg (Ne.symm hs.1)

/-- Text without a slash is added to the last piece. -/
theorem pieces_append {s : List Char} (hs : '/' ∉ s) (cs : List Char) :
    ∃ init last, pieces cs = init ++ [last] ∧ pieces (cs ++ s) = init ++ [last ++ s] := by
  induction cs with
  | nil => exact ⟨[], [], rfl, pieces_of_notMem hs⟩
  | cons c cs ih =>
    obtain ⟨init, last, h1, h2⟩ := ih
    rw [List.cons_append, pieces, pieces, h1, h2]
    cases init with
    | nil =>
      by_cases hc : c = '/'
      · exact ⟨[[]], last, by simp [hc], by simp [hc]⟩
      · exact ⟨[], c :: last, by simp [hc], by simp [hc]⟩
    | cons p ps =>
      by_cases hc : c = '/'
      · exact ⟨[] :: p :: ps, last, by simp [hc], by simp [hc]⟩
      · exact ⟨(c :: p) :: ps, last, by simp [hc], by simp [hc]⟩

/-- A suffix without a slash is added to the last component. -/
theorem rawParts_append (p : Path) {suffix : String} (hs : '/' ∉ suffix.toList) :
    ∃ init last, p.rawParts = init ++ [last] ∧
      (p.append suffix).rawParts = init ++ [last ++ suffix] := by
  obtain ⟨init, last, h1, h2⟩ := pieces_append hs p.text.toList
  refine ⟨init.map String.ofList, String.ofList last, ?_, ?_⟩
  · rw [rawParts, h1, List.map_append, List.map_singleton]
  · rw [rawParts, append, String.toList_append, h2, List.map_append, List.map_singleton,
      String.ofList_append, String.ofList_toList]

theorem meansDirectory_eq_false {p : Path} {init : List String} {last : String}
    (h : p.rawParts = init ++ [last]) :
    p.meansDirectory = false ↔ names last = true ∧ last ≠ ".." := by
  simp [meansDirectory, h]

theorem parts_of_names {p : Path} {init : List String} {last : String}
    (h : p.rawParts = init ++ [last]) (hl : names last = true) :
    p.parts = init.filter names ++ [last] := by
  rw [parts, h, List.filter_append, List.filter_cons_of_pos hl, List.filter_nil]

theorem endsInDots_eq_false {p : Path} {init : List String} {last : String}
    (h : p.rawParts = init ++ [last]) (hl : names last = true) (hd : last ≠ "..") :
    p.endsInDots = false := by
  have hdot : last ≠ "." := by
    rintro rfl
    exact absurd hl (by decide)
  simp [endsInDots, h, hdot, hd]

end Path

namespace FileSystem

/-! ## The place that a path leads to -/

/-- The last component of the path is `name`, and it is looked up in the directory `dir`. -/
structure LeadsTo (fs : FileSystem) (p : Path) (dir : Location) (name : String) : Prop where
  way : ∃ init, p.rawParts = init ++ [name] ∧
    fs.follow (if p.isAbsolute then [] else fs.workingDirectory) (init.filter Path.names) = .ok dir
  names : Path.names name = true
  not_up : name ≠ ".."
  directory : fs.node? dir = some .directory

section LeadsTo

variable {fs gs : FileSystem} {p : Path} {dir : Location} {name : String}

theorem LeadsTo.of_keepsDirectories (h : fs.LeadsTo p dir name) (hk : fs.KeepsDirectories gs) :
    gs.LeadsTo p dir name := by
  obtain ⟨init, hraw, hway⟩ := h.way
  refine ⟨⟨init, hraw, ?_⟩, h.names, h.not_up, hk.directory _ h.directory⟩
  rw [hk.workingDirectory_eq]
  exact follow_of_keepsDirectories hk hway

theorem LeadsTo.text_ne (h : fs.LeadsTo p dir name) : p.text ≠ "" := by
  intro hp
  obtain ⟨init, hraw, -⟩ := h.way
  have hlast : p.rawParts.getLast? = some "" := by
    rw [Path.rawParts, hp]
    decide
  rw [hraw, List.getLast?_concat, Option.some.injEq] at hlast
  have hn := h.names
  rw [hlast] at hn
  exact absurd hn (by decide)

theorem LeadsTo.meansDirectory (h : fs.LeadsTo p dir name) : p.meansDirectory = false := by
  obtain ⟨init, hraw, -⟩ := h.way
  exact (Path.meansDirectory_eq_false hraw).2 ⟨h.names, h.not_up⟩

theorem LeadsTo.locate (h : fs.LeadsTo p dir name) : fs.locate p = .ok (dir ++ [name]) := by
  obtain ⟨init, hraw, hway⟩ := h.way
  rw [FileSystem.locate, if_neg h.text_ne, Path.parts_of_names hraw h.names]
  exact follow_concat.2 ⟨dir, hway, h.directory, (if_neg h.not_up).symm⟩

theorem LeadsTo.parent (h : fs.LeadsTo p dir name) : fs.parent p = .ok dir := by
  obtain ⟨init, hraw, hway⟩ := h.way
  simp only [FileSystem.parent, Path.parts_of_names hraw h.names, List.dropLast_concat]
  rw [hway]
  simp only [bind, Except.bind, h.directory]
  rfl

theorem LeadsTo.find (h : fs.LeadsTo p dir name) :
    fs.find p = match fs.node? (dir ++ [name]) with
      | none => .error .notFound
      | some n => .ok n := by
  simp only [FileSystem.find, h.locate, bind, Except.bind, h.meansDirectory]
  cases fs.node? (dir ++ [name]) with
  | none => rfl
  | some n => cases n <;> rfl

theorem LeadsTo.file? (h : fs.LeadsTo p dir name) :
    fs.file? p = fs.fileAt? (dir ++ [name]) := by
  rw [FileSystem.file?, fileAt?, h.find]
  cases fs.node? (dir ++ [name]) with
  | none => rfl
  | some n => cases n <;> rfl

theorem find_eq_ok_file {f : File} (h : fs.find p = .ok (.file f)) :
    ∃ l, fs.locate p = .ok l ∧ fs.node? l = some (.file f) ∧ p.meansDirectory = false := by
  unfold FileSystem.find at h
  cases hl : fs.locate p with
  | error e => rw [hl] at h; cases h
  | ok l =>
    rw [hl] at h
    simp only [bind, Except.bind] at h
    cases hn : fs.node? l with
    | none => rw [hn] at h; cases h
    | some n =>
      rw [hn] at h
      cases n with
      | directory => cases h
      | file g =>
        cases hm : p.meansDirectory with
        | true => simp [hm, throw, throwThe, MonadExceptOf.throw] at h
        | false =>
          simp only [hm, Bool.false_eq_true, if_false, pure, Except.pure, Except.ok.injEq,
            Node.file.injEq] at h
          exact ⟨l, rfl, by rw [hn, h], rfl⟩

/-- A path that leads somewhere and need not mean a directory leads to a name in a directory. -/
theorem exists_leadsTo_of_locate {l : Location} (hl : fs.locate p = .ok l) (hm : p.meansDirectory = false) :
    ∃ dir name, fs.LeadsTo p dir name ∧ l = dir ++ [name] := by
  have hslash : '/' ∉ "".toList := by decide
  obtain ⟨init, last, hraw, -⟩ := p.rawParts_append hslash
  obtain ⟨hnames, hup⟩ := (Path.meansDirectory_eq_false hraw).1 hm
  unfold FileSystem.locate at hl
  split at hl
  · cases hl
  · rw [Path.parts_of_names hraw hnames] at hl
    obtain ⟨dir, hway, hdir, hplace⟩ := follow_concat.1 hl
    rw [if_neg hup] at hplace
    exact ⟨dir, last, ⟨⟨init, hraw, hway⟩, hnames, hup, hdir⟩, hplace⟩

/-- **A path that denotes a file names it in a directory.** -/
theorem exists_leadsTo_of_file? {f : File} (h : fs.file? p = some f) :
    ∃ dir name, fs.LeadsTo p dir name ∧ fs.node? (dir ++ [name]) = some (.file f) := by
  have hfind : fs.find p = .ok (.file f) := by
    unfold FileSystem.file? at h
    split at h
    · next g hg => rw [hg, Option.some.inj h]
    · cases h
  obtain ⟨l, hl, hn, hm⟩ := find_eq_ok_file hfind
  obtain ⟨dir, name, hleads, rfl⟩ := exists_leadsTo_of_locate hl hm
  exact ⟨dir, name, hleads, hn⟩

/-- A suffix without a slash leads to a neighbour in the same directory. -/
theorem LeadsTo.append (h : fs.LeadsTo p dir name) {suffix : String}
    (hs : '/' ∉ suffix.toList) (hlong : 2 < suffix.length) :
    fs.LeadsTo (p.append suffix) dir (name ++ suffix) := by
  obtain ⟨init, hraw, hway⟩ := h.way
  obtain ⟨init', last, hraw', hsuffix⟩ := p.rawParts_append hs
  obtain ⟨rfl, hlast⟩ := List.append_inj' (hraw.symm.trans hraw') rfl
  obtain rfl : name = last := by simpa using hlast
  have hlen : 2 < (name ++ suffix).length := by
    rw [String.length_append]
    omega
  have hne : ∀ short : String, short.length ≤ 2 → name ++ suffix ≠ short := by
    rintro short hshort rfl
    omega
  refine ⟨⟨init, hsuffix, ?_⟩, ?_, hne ".." (by decide), h.directory⟩
  · have habs : (p.append suffix).isAbsolute = p.isAbsolute := by
      have hp : p.text.toList ≠ [] := fun hnil => h.text_ne (String.toList_eq_nil_iff.1 hnil)
      obtain ⟨c, cs, hcs⟩ := List.exists_cons_of_ne_nil hp
      simp only [Path.isAbsolute, Path.append, String.toList_append, hcs, List.cons_append,
        List.head?_cons]
    rw [habs]
    exact hway
  · simp [Path.names, hne "" (by decide), hne "." (by decide)]

end LeadsTo

/-! ## A fresh place -/

theorem freshName_injective : Function.Injective freshName := by
  intro m n h
  exact Nat.repr_injective ((String.append_right_inj _).1 h)

theorem freshFrom_eq_some {fs : FileSystem} {dir l : Location} {fuel n : Nat}
    (h : fs.freshFrom dir fuel n = some l) : l ≠ [] ∧ fs.node? l = none := by
  induction fuel generalizing n with
  | zero => cases h
  | succ fuel ih =>
    simp only [freshFrom] at h
    split at h
    · exact ih h
    · next hfree =>
      obtain rfl := Option.some.inj h
      have hne : dir ++ [freshName n] ≠ [] := by simp
      refine ⟨hne, ?_⟩
      rw [node?, if_neg hne, List.lookup_eq_none_iff]
      intro e he
      have hother := List.any_eq_false.1 (Bool.eq_false_iff.2 hfree) e he
      exact bne_iff_ne.2 fun heq => hother (beq_iff_eq.2 heq.symm)

theorem freshFrom_eq_none {fs : FileSystem} {dir : Location} {fuel n : Nat}
    (h : fs.freshFrom dir fuel n = none) :
    ∀ k, n ≤ k → k < n + fuel → dir ++ [freshName k] ∈ fs.entries.map Prod.fst := by
  induction fuel generalizing n with
  | zero => intro k hk hk'; omega
  | succ fuel ih =>
    simp only [freshFrom] at h
    split at h
    · next htaken =>
      intro k hk hk'
      by_cases hkn : k = n
      · subst hkn
        obtain ⟨e, he, heq⟩ := List.any_eq_true.1 htaken
        exact List.mem_map.2 ⟨e, he, eq_of_beq heq⟩
      · exact ih h k (by omega) (by omega)
    · cases h

/-- **Nothing stands at a fresh place:** there are more candidates than entries. -/
theorem node?_fresh (fs : FileSystem) (dir : Location) :
    fs.fresh dir ≠ [] ∧ fs.node? (fs.fresh dir) = none := by
  unfold fresh
  cases h : fs.freshFrom dir (fs.entries.length + 1) 0 with
  | some l => exact freshFrom_eq_some h
  | none =>
    have hmem := freshFrom_eq_none h
    let candidates := (List.range (fs.entries.length + 1)).map fun k => dir ++ [freshName k]
    have hnodup : candidates.Nodup := by
      refine List.Nodup.map (fun m n hmn => ?_) List.nodup_range
      exact freshName_injective (by simpa using hmn)
    have hsub : candidates ⊆ fs.entries.map Prod.fst := by
      intro l hl
      obtain ⟨k, hk, rfl⟩ := List.mem_map.1 hl
      exact hmem k (Nat.zero_le k) (by simpa using List.mem_range.1 hk)
    have hlen := List.Nodup.length_le_of_subset hnodup hsub
    simp only [candidates, List.length_map, List.length_range] at hlen
    omega

/-- **A fresh file that is removed again leaves no trace.** -/
theorem remove_put_fresh (fs : FileSystem) (dir : Location) (n : Node) :
    (fs.put (fs.fresh dir) n).remove (fs.fresh dir) = fs := by
  obtain ⟨hne, hnone⟩ := fs.node?_fresh dir
  rw [node?, if_neg hne, List.lookup_eq_none_iff] at hnone
  have hkeep : (fs.entries.filter fun e => e.1 ≠ fs.fresh dir) = fs.entries :=
    List.filter_eq_self.2 fun e he => by simpa using Ne.symm (bne_iff_ne.1 (hnone e he))
  rw [remove, put]
  dsimp only
  rw [List.filter_cons_of_neg (by simp), hkeep, hkeep]

/-! ## Writing to a place -/

section Writing

variable {fs : FileSystem} {p : Path} {dir : Location} {name : String}

theorem LeadsTo.place_ne (_ : fs.LeadsTo p dir name) : dir ++ [name] ≠ [] := by simp

theorem LeadsTo.renameTarget (h : fs.LeadsTo p dir name)
    (hfree : fs.node? (dir ++ [name]) ≠ some .directory) :
    fs.renameTarget p = .ok (dir ++ [name]) := by
  obtain ⟨init, hraw, -⟩ := h.way
  have hdots := Path.endsInDots_eq_false hraw h.names h.not_up
  simp only [FileSystem.renameTarget, h.locate, bind, Except.bind, hdots, h.meansDirectory]
  cases hn : fs.node? (dir ++ [name]) with
  | none => rfl
  | some n =>
    cases n with
    | file f => rfl
    | directory => exact absurd hn hfree

/-- Where no directory is in the way, replacing puts the content in place and does nothing else: the fresh file
that the content passes through is gone again. -/
theorem LeadsTo.replace_eq (h : fs.LeadsTo p dir name) (hfree : fs.node? (dir ++ [name]) ≠ some .directory)
    (bytes : ByteArray) (now : Time) :
    fs.replace p bytes now = (.ok (), fs.put (dir ++ [name])
      (.file ⟨bytes, ((fs.file? p).map File.mode).getD privateMode, now⟩)) := by
  simp only [FileSystem.replace, h.parent, h.renameTarget hfree, remove_put_fresh]

/-- **Replacing a file succeeds wherever no directory is in the way,** and nothing else changes. -/
theorem LeadsTo.replace (h : fs.LeadsTo p dir name)
    (hfree : fs.node? (dir ++ [name]) ≠ some .directory) (bytes : ByteArray) (now : Time) :
    ∃ gs, fs.replace p bytes now = (.ok (), gs) ∧
      fs.With (dir ++ [name])
        (.file ⟨bytes, ((fs.file? p).map File.mode).getD privateMode, now⟩) gs :=
  ⟨_, h.replace_eq hfree bytes now, with_put h.place_ne⟩

/-- Writing in place, and then setting the time of writing. -/
theorem LeadsTo.write_touch (h : fs.LeadsTo p dir name)
    (hfree : fs.node? (dir ++ [name]) ≠ some .directory) (bytes : ByteArray) (now time : Time) :
    ∃ gs mode, fs.write p bytes now = .ok gs ∧
      fs.With (dir ++ [name]) (.file ⟨bytes, mode, time⟩) (gs.touch p time) := by
  have key : ∀ mode, fs.write p bytes now = .ok (fs.put (dir ++ [name]) (.file ⟨bytes, mode, now⟩)) →
      ∃ gs mode, fs.write p bytes now = .ok gs ∧
        fs.With (dir ++ [name]) (.file ⟨bytes, mode, time⟩) (gs.touch p time) := by
    intro mode hwrite
    have hput : fs.With (dir ++ [name]) (.file ⟨bytes, mode, now⟩)
        (fs.put (dir ++ [name]) (.file ⟨bytes, mode, now⟩)) := with_put h.place_ne
    have hleads := h.of_keepsDirectories (hput.keepsDirectories hfree)
    refine ⟨_, mode, hwrite, ?_⟩
    have hat : (fs.put (dir ++ [name]) (.file ⟨bytes, mode, now⟩)).fileAt? (dir ++ [name])
        = some ⟨bytes, mode, now⟩ := by
      rw [fileAt?, hput.at_place]
    rw [touch, hleads.locate]
    simp only [hat]
    exact hput.trans (with_put h.place_ne)
  simp only [FileSystem.write, h.locate, bind, Except.bind, h.meansDirectory] at key ⊢
  cases hn : fs.node? (dir ++ [name]) with
  | none => rw [hn] at key; exact key _ rfl
  | some n =>
    cases n with
    | file f => rw [hn] at key; exact key _ rfl
    | directory => exact absurd hn hfree

end Writing

end FileSystem
end LiteralPatch
