import LiteralPatch.Proofs.Files.Places
import LiteralPatch.Proofs.Text.ByteOrder

/-!
# What stands inside a directory

A file system lists what stands directly inside a directory, and a path that goes on from the directory by such a
name leads there (`LeadsTo.child`).  The names are listed once each and in ascending order
(`Proper.filesInside_pairwise`), whatever the order of the entries is; and nothing else that a path is used for
looks at that order (`Proper.sameView`).
-/

namespace LiteralPatch

/-! ## Paths below a directory -/

namespace Path

theorem exists_pieces_cons (cs : List Char) : ∃ p ps, pieces cs = p :: ps := by
  obtain ⟨init, last, hpieces, -⟩ := pieces_append (s := []) (by simp) cs
  rw [hpieces]
  exact List.exists_cons_of_ne_nil (by simp)

theorem pieces_eq_splitOn (cs : List Char) : pieces cs = cs.splitOn '/' := by
  induction cs with
  | nil => rfl
  | cons c cs ih =>
    obtain ⟨p, ps, hpieces⟩ := exists_pieces_cons cs
    rw [List.splitOn_cons_eq_if_modifyHead, ← ih, pieces, hpieces]
    simp

/-- The pieces of a path below a directory: those that lead to the directory, and the name. -/
theorem exists_rawParts_child {d : Path} {name : String} (hd : d.text ≠ "") (hname : '/' ∉ name.toList) :
    ∃ init, (d.child name).rawParts = init ++ [name] ∧ init.filter names = d.parts := by
  have hsplit (cs : List Char) : (pieces (cs ++ '/' :: name.toList)).map String.ofList =
      (pieces cs).map String.ofList ++ [name] := by
    rw [pieces_eq_splitOn, List.splitOn_append_cons_self, ← pieces_eq_splitOn, ← pieces_eq_splitOn,
      pieces_of_notMem hname, List.map_append, List.map_singleton, String.ofList_toList]
  by_cases hslash : d.text.toList.getLast? = some '/'
  · obtain ⟨front, hfront⟩ := List.getLast?_eq_some_iff.1 hslash
    refine ⟨(pieces front).map String.ofList, ?_, ?_⟩
    · rw [child, if_pos (.inr hslash), rawParts, String.toList_append, hfront, List.append_assoc]
      exact hsplit front
    · -- the slash at the end of the directory opens a piece that names nothing
      have hparts : d.rawParts = (pieces front).map String.ofList ++ [""] := by
        rw [rawParts, hfront, pieces_eq_splitOn, List.splitOn_append_cons_self, ← pieces_eq_splitOn,
          List.map_append]
        rfl
      have hempty : names "" = false := by decide
      rw [parts, hparts, List.filter_append, List.filter_singleton, hempty]
      exact (List.append_nil _).symm
  · refine ⟨d.rawParts, ?_, rfl⟩
    rw [child, if_neg (by simp [hd, hslash]), rawParts, String.toList_append, String.toList_append,
      List.append_assoc]
    exact hsplit d.text.toList

theorem isAbsolute_child {d : Path} (hd : d.text ≠ "") (name : String) :
    (d.child name).isAbsolute = d.isAbsolute := by
  obtain ⟨c, cs, hcs⟩ := List.exists_cons_of_ne_nil (mt String.toList_eq_nil_iff.1 hd)
  unfold isAbsolute child
  split <;> simp [hcs]

end Path

namespace FileSystem

variable {fs gs : FileSystem} {l : Location} {name : String}

/-! ## Names -/

/-- A file may have this name. -/
structure IsName (name : String) : Prop where
  names : Path.names name = true
  not_up : name ≠ ".."
  no_slash : '/' ∉ name.toList

instance (name : String) : Decidable (IsName name) :=
  decidable_of_iff (Path.names name = true ∧ name ≠ ".." ∧ '/' ∉ name.toList)
    ⟨fun ⟨h, h', h''⟩ => ⟨h, h', h''⟩, fun ⟨h, h', h''⟩ => ⟨h, h', h''⟩⟩

/-- Something stands at a location once, and under names that may stand there. -/
structure Proper (fs : FileSystem) : Prop where
  once : (fs.entries.map Prod.fst).Nodup
  isName : ∀ e ∈ fs.entries, ∀ name ∈ e.1, IsName name

/-- **A path that goes on from a directory by a name leads to what has the name there.** -/
theorem leadsTo_child {d : Path} (hlocate : fs.locate d = .ok l) (hl : fs.node? l = some .directory)
    (hname : IsName name) : fs.LeadsTo (d.child name) l name := by
  unfold locate at hlocate
  split at hlocate
  · cases hlocate
  · next hd =>
    obtain ⟨init, hraw, hinit⟩ := Path.exists_rawParts_child hd hname.no_slash
    refine ⟨⟨init, hraw, ?_⟩, hname.names, hname.not_up, hl⟩
    rw [hinit, Path.isAbsolute_child hd]
    exact hlocate

/-- What is looked up is what is listed. -/
theorem Proper.node?_eq_some_iff (h : fs.Proper) {n : Node} (hl : l ≠ []) :
    fs.node? l = some n ↔ (l, n) ∈ fs.entries := by
  rw [node?, if_neg hl, List.lookup_eq_some_iff]
  constructor
  · rintro ⟨before, after, hentries, -⟩
    simp [hentries]
  · intro hmem
    obtain ⟨before, after, hentries⟩ := List.append_of_mem hmem
    refine ⟨before, after, hentries, fun e he => bne_iff_ne.2 ?_⟩
    have honce := h.once
    rw [hentries, List.map_append, List.map_cons, List.nodup_append] at honce
    exact (honce.2.2 e.1 (List.mem_map_of_mem he) l List.mem_cons_self).symm

/-! ## Listing -/

/-- The name of an entry that is a file directly inside the directory. -/
def nameInside? (l : Location) : Location × Node → Option String
  | (m, n) =>
    match n with
    | .directory => none
    | .file _ => if m.dropLast = l then m.getLast? else none

theorem nameInside?_eq_some_iff {e : Location × Node} :
    nameInside? l e = some name ↔ ∃ f, e = (l ++ [name], .file f) := by
  obtain ⟨m, n⟩ := e
  cases n with
  | directory => simp [nameInside?]
  | file f =>
    simp only [nameInside?, Option.ite_none_right_eq_some, List.getLast?_eq_some_iff, Prod.mk.injEq,
      Node.file.injEq, exists_and_left, exists_eq', and_true]
    constructor
    · rintro ⟨rfl, front, rfl⟩
      rw [List.dropLast_concat]
    · rintro rfl
      exact ⟨List.dropLast_concat, l, rfl⟩

theorem filesInside_perm (fs : FileSystem) (l : Location) :
    (fs.filesInside l).Perm (fs.entries.filterMap (nameInside? l)) := List.mergeSort_perm _ _

/-- **The files inside a directory are listed,** and nothing else is. -/
theorem Proper.mem_filesInside (h : fs.Proper) :
    name ∈ fs.filesInside l ↔ ∃ f, fs.node? (l ++ [name]) = some (.file f) := by
  rw [(fs.filesInside_perm l).mem_iff, List.mem_filterMap]
  simp only [nameInside?_eq_some_iff, h.node?_eq_some_iff (List.append_ne_nil_of_right_ne_nil l (List.cons_ne_nil name []))]
  constructor
  · rintro ⟨e, he, f, rfl⟩
    exact ⟨f, he⟩
  · rintro ⟨f, hf⟩
    exact ⟨_, hf, f, rfl⟩

theorem filesInside_pairwise_le (fs : FileSystem) (l : Location) :
    (fs.filesInside l).Pairwise (· ≤ ·) := by
  unfold filesInside
  refine (List.pairwise_mergeSort ?_ ?_ _).imp fun h => of_decide_eq_true h
  · exact fun a b c hab hbc => decide_eq_true (le_trans (of_decide_eq_true hab) (of_decide_eq_true hbc))
  · exact fun a b => by simpa using le_total a b

theorem Proper.nodup_filesInside (h : fs.Proper) (l : Location) : (fs.filesInside l).Nodup := by
  rw [(fs.filesInside_perm l).nodup_iff]
  have honce : fs.entries.Pairwise fun e e' => e.1 ≠ e'.1 := List.pairwise_map.1 h.once
  refine honce.filterMap _ fun e e' hne name hname name' hname' heq => ?_
  obtain ⟨f, rfl⟩ := nameInside?_eq_some_iff.1 hname
  obtain ⟨f', rfl⟩ := nameInside?_eq_some_iff.1 hname'
  exact hne (by rw [heq])

/-- **They are listed once each, and in ascending order.** -/
theorem Proper.filesInside_pairwise (h : fs.Proper) (l : Location) :
    (fs.filesInside l).Pairwise (· < ·) :=
  ((filesInside_pairwise_le fs l).and (h.nodup_filesInside l)).imp fun ⟨hle, hne⟩ => lt_of_le_of_ne hle hne

/-! ## The order of the entries -/

/-- To everyone who looks for something both file systems are the same. -/
structure SameView (gs fs : FileSystem) : Prop where
  node?_eq : gs.node? = fs.node?
  workingDirectory_eq : gs.workingDirectory = fs.workingDirectory

theorem SameView.follow_eq (h : gs.SameView fs) (here : Location) (parts : List String) :
    gs.follow here parts = fs.follow here parts := by
  induction parts generalizing here with
  | nil => rfl
  | cons part rest ih =>
    unfold follow
    rw [h.node?_eq, ih, ih]

theorem SameView.locate_eq (h : gs.SameView fs) : gs.locate = fs.locate := by
  funext p
  rw [locate, locate, h.workingDirectory_eq, h.follow_eq]

theorem SameView.find_eq (h : gs.SameView fs) : gs.find = fs.find := by
  funext p
  rw [find, find, h.locate_eq, h.node?_eq]

theorem SameView.readText_eq (h : gs.SameView fs) : gs.readText = fs.readText := by
  funext p
  rw [readText, readText, read, read, h.find_eq]

theorem filesInside_eq_of_perm (hperm : gs.entries.Perm fs.entries) (l : Location) :
    gs.filesInside l = fs.filesInside l := by
  refine List.Perm.eq_of_pairwise (fun a b _ _ => le_antisymm) (filesInside_pairwise_le gs l)
    (filesInside_pairwise_le fs l) ?_
  exact ((gs.filesInside_perm l).trans (hperm.filterMap _)).trans (fs.filesInside_perm l).symm

theorem Proper.of_perm (h : fs.Proper) (hperm : gs.entries.Perm fs.entries) : gs.Proper where
  once := (hperm.map Prod.fst).nodup_iff.2 h.once
  isName := fun e he => h.isName e (hperm.mem_iff.1 he)

/-- **The order of the entries is not seen.** -/
theorem Proper.sameView (h : fs.Proper) (hperm : gs.entries.Perm fs.entries)
    (hwork : gs.workingDirectory = fs.workingDirectory) : gs.SameView fs := by
  refine ⟨funext fun l => ?_, hwork⟩
  by_cases hl : l = []
  · rw [hl, node?_root, node?_root]
  · refine Option.ext fun n => ?_
    rw [(h.of_perm hperm).node?_eq_some_iff hl, h.node?_eq_some_iff hl, hperm.mem_iff]

end FileSystem
end LiteralPatch
