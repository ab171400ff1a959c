import LiteralPatch.Proofs.Files.Inside
import LiteralPatch.Proofs.Table.WellFormed
import LiteralPatch.Table.Load

/-!
# Loading a directory

A directory is loaded as one table.  The files that count are those directly inside it with the right extension,
in the order of their names (`FileSystem.tableFiles`); with none there is nothing to load.  Each of them has to hold
a table, valid or not, and the first that does not is what is reported.  The tables are then one behind the other a
table, and this one is validated (`DirectoryResult`).

So the result is a function of the names and the contents of these files.  The order in which a directory lists its
entries is lost when they are sorted, and nothing else depends on it (`RuleTable.ofDirectory_eq_of_perm`).
-/

namespace LiteralPatch

/-! ## File names -/

/-- **A file has an extension exactly if something stands in front of the last dot,** and the extension behind it. -/
theorem Path.extension?_eq_some_iff {name ext : String} : Path.extension? name = some ext ↔
    '.' ∉ ext.toList ∧ ∃ stem, stem ≠ "" ∧ name = stem ++ "." ++ ext := by
  have hfront : Front (fun c => decide (c ≠ '.')) name.toList.reverse
      (name.toList.reverse.takeWhile fun c => decide (c ≠ '.'))
      (name.toList.reverse.dropWhile fun c => decide (c ≠ '.')) := Front.iff.2 ⟨rfl, rfl⟩
  constructor
  · intro h
    unfold extension? at h
    dsimp only at h
    split at h
    · cases h
    · cases h
    · next c stem hstem hrest =>
      obtain rfl := Option.some.inj h
      have hdot : c = '.' := by simpa using hfront.stops c (by rw [hrest]; rfl)
      refine ⟨fun hmem => ?_, String.ofList stem.reverse, ?_, ?_⟩
      · rw [String.toList_ofList, List.mem_reverse] at hmem
        simpa using hfront.holds '.' hmem
      · rw [ne_eq, ← String.toList_eq_nil_iff, String.toList_ofList, List.reverse_eq_nil_iff]
        exact hstem
      · have happend := congrArg List.reverse hfront.append_eq
        rw [hrest, hdot, List.reverse_reverse] at happend
        rw [← String.toList_inj]
        exact happend.trans (by simp)
  · rintro ⟨hext, stem, hstem, rfl⟩
    obtain ⟨c, cs, hcs⟩ : ∃ c cs, stem.toList.reverse = c :: cs :=
      List.exists_cons_of_ne_nil (by simpa using hstem)
    have hcut : Front (fun c => decide (c ≠ '.')) (stem ++ "." ++ ext).toList.reverse ext.toList.reverse
        ('.' :: c :: cs) := by
      refine ⟨by simp [← hcs], fun x hx => ?_, by rintro _ ⟨⟩; rfl⟩
      rw [List.mem_reverse] at hx
      exact decide_eq_true fun heq => hext (heq ▸ hx)
    rw [extension?, hcut.takeWhile_eq, hcut.dropWhile_eq]
    simp

/-! ## One file -/

/-- Bytes are read as the text that is written as these bytes. -/
theorem fromUTF8?_eq_some_iff {bytes : ByteArray} {text : String} :
    String.fromUTF8? bytes = some text ↔ text.toUTF8 = bytes := by
  unfold String.fromUTF8?
  constructor
  · intro h
    split at h
    · obtain rfl := Option.some.inj h
      rfl
    · cases h
  · rintro rfl
    exact dif_pos text.isValidUTF8

/-- The bytes are a text that declares the table. -/
def RuleTable.WrittenAs (t : RuleTable) (bytes : ByteArray) : Prop :=
  ∃ text : String, text.toUTF8 = bytes ∧ RuleTable.parse text = .ok t

/-- Why a file with these bytes holds no table. -/
inductive LoadError.OfFile (path : Path) (bytes : ByteArray) : LoadError → Prop where
  | notText : (∀ text : String, text.toUTF8 ≠ bytes) → OfFile path bytes (.unreadable path .notText)
  | notToml {text : String} {fault : TextFault} : text.toUTF8 = bytes →
      RuleTable.parse text = .error fault → OfFile path bytes (.notToml (some path) fault)

namespace RuleTable

/-- The table of a file, by its path and what is in it. -/
def ofBytes (path : Path) (bytes : ByteArray) : Except LoadError RuleTable :=
  match String.fromUTF8? bytes with
  | none => .error (.unreadable path .notText)
  | some text => (parse text).mapError (.notToml (some path))

variable {path : Path} {bytes : ByteArray}

theorem ofFile_eq_ofBytes {fs : FileSystem} {f : File} (hfind : fs.find path = .ok (.file f)) :
    ofFile fs path = ofBytes path f.bytes := by
  have hread : fs.read path = .ok f.bytes := by
    rw [FileSystem.read, hfind]
    rfl
  rw [ofFile, ofBytes, FileSystem.readText, hread]
  simp only [bind, Except.bind]
  cases String.fromUTF8? f.bytes <;> rfl

theorem ofBytes_eq_ok_iff {t : RuleTable} : ofBytes path bytes = .ok t ↔ t.WrittenAs bytes := by
  unfold ofBytes WrittenAs
  simp only [← fromUTF8?_eq_some_iff]
  cases htext : String.fromUTF8? bytes with
  | none => simp
  | some text => simp [mapError_eq_ok_iff]

theorem ofBytes_eq_error_iff {e : LoadError} :
    ofBytes path bytes = .error e ↔ LoadError.OfFile path bytes e := by
  unfold ofBytes
  cases htext : String.fromUTF8? bytes with
  | none =>
    have hnone : ∀ text : String, text.toUTF8 ≠ bytes := fun text heq => by
      rw [fromUTF8?_eq_some_iff.2 heq] at htext
      cases htext
    constructor
    · intro h
      obtain rfl := Except.error.inj h
      exact .notText hnone
    · rintro (_ | ⟨hbytes, -⟩)
      · rfl
      · exact absurd hbytes (hnone _)
  | some text =>
    have hbytes := fromUTF8?_eq_some_iff.1 htext
    constructor
    · intro h
      obtain ⟨fault, hparse, rfl⟩ := mapError_eq_error_iff.1 h
      exact .notToml hbytes hparse
    · rintro (hnone | ⟨hbytes', hparse⟩)
      · exact absurd hbytes (hnone text)
      · rw [← fromUTF8?_eq_some_iff, htext] at hbytes'
        obtain rfl := Option.some.inj hbytes'
        exact mapError_eq_error_iff.2 ⟨_, hparse, rfl⟩

end RuleTable

/-! ## The files of a directory -/

namespace FileSystem

variable {fs gs : FileSystem} {l : Location} {name : String} {bytes : ByteArray}

/-- The names of the files that hold tables, in their order. -/
def tableNames (fs : FileSystem) (l : Location) : List String :=
  (fs.filesInside l).filter fun name => Path.extension? name == some "toml"

/-- What is in the file at a location. -/
def bytesAt (fs : FileSystem) (l : Location) : ByteArray :=
  ((fs.fileAt? l).map File.bytes).getD ByteArray.empty

/-- The files that hold tables, by name and with what is in them. -/
def tableFiles (fs : FileSystem) (l : Location) : List (String × ByteArray) :=
  (fs.tableNames l).map fun name => (name, fs.bytesAt (l ++ [name]))

theorem bytesAt_of_file {f : File} (h : fs.node? l = some (.file f)) : fs.bytesAt l = f.bytes := by
  rw [bytesAt, fileAt?, h]
  rfl

theorem Proper.mem_tableNames (h : fs.Proper) : name ∈ fs.tableNames l ↔
    (∃ stem, stem ≠ "" ∧ name = stem ++ ".toml") ∧ ∃ f, fs.node? (l ++ [name]) = some (.file f) := by
  have hnodot : '.' ∉ "toml".toList := by decide
  have hdot : ("." ++ "toml" : String) = ".toml" := rfl
  rw [tableNames, List.mem_filter, h.mem_filesInside, beq_iff_eq, Path.extension?_eq_some_iff]
  simp only [String.append_assoc, hdot, hnodot, not_false_eq_true, true_and]
  exact and_comm

/-- **The files that count are those directly inside the directory with the extension,** and a name in front of
it. -/
theorem Proper.mem_tableFiles (h : fs.Proper) : (name, bytes) ∈ fs.tableFiles l ↔
    (∃ stem, stem ≠ "" ∧ name = stem ++ ".toml") ∧
      ∃ f, fs.node? (l ++ [name]) = some (.file f) ∧ f.bytes = bytes := by
  simp only [tableFiles, List.mem_map, Prod.mk.injEq, h.mem_tableNames]
  constructor
  · rintro ⟨name, ⟨hname, f, hf⟩, rfl, rfl⟩
    exact ⟨hname, f, hf, (bytesAt_of_file hf).symm⟩
  · rintro ⟨hname, f, hf, rfl⟩
    exact ⟨name, ⟨hname, f, hf⟩, rfl, bytesAt_of_file hf⟩

/-- **They are in the order of the bytes of their names.** -/
theorem Proper.tableFiles_pairwise (h : fs.Proper) (l : Location) :
    (fs.tableFiles l).Pairwise fun a b => Text.bytes a.1 < Text.bytes b.1 := by
  rw [tableFiles, List.pairwise_map]
  exact ((h.filesInside_pairwise l).filter _).imp Text.lt_iff_bytes.1

theorem Proper.isName_of_mem (h : fs.Proper) {n : Node} (hn : fs.node? (l ++ [name]) = some n) :
    IsName name := by
  rw [h.node?_eq_some_iff (by simp)] at hn
  exact h.isName _ hn name (by simp)

end FileSystem

namespace RuleTable

variable {fs gs : FileSystem} {directory path : Path} {l : Location}

theorem filesOf_eq (fs : FileSystem) (directory : Path) (l : Location) :
    filesOf fs directory l = (fs.tableFiles l).map fun file => directory.child file.1 := by
  rw [filesOf, FileSystem.tableFiles, FileSystem.tableNames, List.map_map]
  rfl

/-- Reads one file after the other. -/
def readTables (directory : Path) (files : List (String × ByteArray)) : Except LoadError (List RuleTable) :=
  files.mapM fun file => ofBytes (directory.child file.1) file.2

/-- **Reading the files of a directory is reading what is in them,** each with a path below the directory. -/
theorem mapM_ofFile (hproper : fs.Proper) (hdir : fs.node? l = some .directory)
    (hlocate : fs.locate directory = .ok l) :
    (filesOf fs directory l).mapM (ofFile fs) = readTables directory (fs.tableFiles l) := by
  rw [filesOf_eq, List.mapM_map]
  refine mapM_congr_of_mem fun (name, bytes) hfile => ?_
  obtain ⟨-, f, hf, rfl⟩ := hproper.mem_tableFiles.1 hfile
  have hleads := FileSystem.leadsTo_child hlocate hdir (hproper.isName_of_mem hf)
  exact ofFile_eq_ofBytes (by rw [hleads.find, hf])

theorem readTables_eq_ok_iff {files : List (String × ByteArray)} {tables : List RuleTable} :
    readTables directory files = .ok tables ↔
      List.Forall₂ (fun file t => WrittenAs t file.2) files tables := by
  rw [readTables, mapM_eq_ok_iff]
  simp only [ofBytes_eq_ok_iff]

theorem readTables_eq_error_iff {files : List (String × ByteArray)} {e : LoadError} :
    readTables directory files = .error e ↔ ∃ before name bytes after, files = before ++ (name, bytes) :: after ∧
      (∀ file ∈ before, ∃ t : RuleTable, t.WrittenAs file.2) ∧
        LoadError.OfFile (directory.child name) bytes e := by
  have hok (file : String × ByteArray) : causeOf? (ofBytes (directory.child file.1) file.2) = none ↔
      ∃ t : RuleTable, t.WrittenAs file.2 := by
    have hwritten (t : RuleTable) : t.WrittenAs file.2 ↔ ofBytes (directory.child file.1) file.2 = .ok t :=
      ofBytes_eq_ok_iff.symm
    simp only [hwritten]
    cases ofBytes (directory.child file.1) file.2 <;> simp [causeOf?]
  rw [readTables, ← causeOf?_eq_some_iff, causeOf?_mapM, List.findSome?_eq_some_iff]
  simp only [hok, causeOf?_eq_some_iff, ofBytes_eq_error_iff]
  constructor
  · rintro ⟨before, ⟨name, bytes⟩, after, hfiles, hrefused, hbefore⟩
    exact ⟨before, name, bytes, after, hfiles, hbefore, hrefused⟩
  · rintro ⟨before, name, bytes, after, hfiles, hbefore, hrefused⟩
    exact ⟨before, ⟨name, bytes⟩, after, hfiles, hrefused, hbefore⟩

/-! ## The result -/

/-- Validation finds these issues, whatever is in the cache. -/
def Reports (t : RuleTable) (issues : List Issue) : Prop := ∀ c : PatternCache, (t.issues.run c).1 = issues

/-- What loading a directory with these files comes to. -/
inductive DirectoryResult (directory : Path) (files : List (String × ByteArray)) :
    Except LoadError RuleTable → Prop where
  | empty : files = [] → DirectoryResult directory files (.error (.emptyDirectory directory))
  /-- The first file that holds no table. -/
  | unread {before after : List (String × ByteArray)} {name : String} {bytes : ByteArray} {e : LoadError} :
      files = before ++ (name, bytes) :: after → (∀ file ∈ before, ∃ t : RuleTable, t.WrittenAs file.2) →
      LoadError.OfFile (directory.child name) bytes e → DirectoryResult directory files (.error e)
  | valid {first : RuleTable} {rest : List RuleTable} :
      List.Forall₂ (fun file t => WrittenAs t file.2) files (first :: rest) →
      Reports ⟨first.metadata, (first :: rest).flatMap sets⟩ [] →
      DirectoryResult directory files (.ok ⟨first.metadata, (first :: rest).flatMap sets⟩)
  | invalid {first : RuleTable} {rest : List RuleTable} {issues : List Issue} :
      List.Forall₂ (fun file t => WrittenAs t file.2) files (first :: rest) →
      Reports ⟨first.metadata, (first :: rest).flatMap sets⟩ issues → issues ≠ [] →
      DirectoryResult directory files (.error (.invalid (some directory) issues))

theorem reports_defects (t : RuleTable) : t.Reports (t.defects.map Prod.snd) := t.issues_eq_defects

theorem Reports.unique {t : RuleTable} {issues issues' : List Issue} (h : t.Reports issues)
    (h' : t.Reports issues') : issues = issues' :=
  (h PatternCache.empty).symm.trans (h' PatternCache.empty)

theorem validated_run {t : RuleTable} {issues : List Issue} (h : t.Reports issues) (path : Option Path)
    (c : PatternCache) : ((ExceptT.run (validated path t)).run c).1 =
      if issues = [] then .ok t else .error (.invalid path issues) := by
  have hlooked : (ExceptT.run (liftM t.issues : Loading (List Issue))).run c =
      (.ok (t.issues.run c).1, (t.issues.run c).2) := rfl
  rw [validated, ExceptT.run_bind, StateT.run_bind, hlooked, h c]
  cases issues with
  | nil => rfl
  | cons issue issues => rfl

theorem node?_of_find (hfind : fs.find directory = .ok .directory) (hlocate : fs.locate directory = .ok l) :
    fs.node? l = some .directory := by
  rw [FileSystem.find, hlocate] at hfind
  cases hnode : fs.node? l with
  | none => simp [hnode, bind, Except.bind, throw, throwThe, MonadExceptOf.throw] at hfind
  | some n =>
    cases n with
    | directory => rfl
    | file f =>
      simp only [hnode, bind, Except.bind] at hfind
      split at hfind <;> cases hfind

/-- What loading a directory comes to, computed from the files in it. -/
theorem ofDirectory_run (hproper : fs.Proper) (hfind : fs.find directory = .ok .directory)
    (hlocate : fs.locate directory = .ok l) (c : PatternCache) :
    ((ExceptT.run (ofDirectory fs directory)).run c).1 =
      if fs.tableFiles l = [] then .error (.emptyDirectory directory)
      else match readTables directory (fs.tableFiles l) with
        | .error e => .error e
        | .ok tables => ((ExceptT.run (validated (some directory) (merge tables))).run c).1 := by
  have hempty : fs.tableFiles l = [] ↔ filesOf fs directory l = [] := by rw [filesOf_eq, List.map_eq_nil_iff]
  rw [← mapM_ofFile hproper (node?_of_find hfind hlocate) hlocate, ofDirectory, hfind, hlocate]
  simp only [hempty]
  cases hfiles : filesOf fs directory l with
  | nil => rfl
  | cons file files =>
    rw [if_neg (List.cons_ne_nil file files)]
    dsimp only
    cases (file :: files).mapM (ofFile fs) with
    | error e => rfl
    | ok tables => rfl

variable {files : List (String × ByteArray)} {first : RuleTable} {rest : List RuleTable} {issues : List Issue}
  {result : Except LoadError RuleTable}

theorem directoryResult_nil_iff :
    DirectoryResult directory [] result ↔ .error (.emptyDirectory directory) = result := by
  constructor
  · rintro (_ | ⟨hfiles, -, -⟩ | ⟨htables, -⟩ | ⟨htables, -, -⟩)
    · rfl
    · exact absurd hfiles (by simp)
    · cases htables
    · cases htables
  · rintro rfl
    exact .empty rfl

/-- Where reading fails, nothing is merged. -/
theorem directoryResult_iff_of_unread {e : LoadError} (hread : readTables directory files = .error e) :
    DirectoryResult directory files result ↔ .error e = result := by
  have hnone {tables : List RuleTable}
      (htables : List.Forall₂ (fun file t => WrittenAs t file.2) files tables) : False := by
    rw [readTables_eq_ok_iff.2 htables] at hread
    cases hread
  constructor
  · rintro (rfl | ⟨hfiles, hbefore, hrefused⟩ | ⟨htables, -⟩ | ⟨htables, -, -⟩)
    · exact (hnone .nil).elim
    · rw [readTables_eq_error_iff.2 ⟨_, _, _, _, hfiles, hbefore, hrefused⟩] at hread
      exact congrArg _ (Except.error.inj hread).symm
    · exact (hnone htables).elim
    · exact (hnone htables).elim
  · rintro rfl
    obtain ⟨before, name, bytes, after, hfiles, hbefore, hrefused⟩ := readTables_eq_error_iff.1 hread
    exact .unread hfiles hbefore hrefused

/-- Where all files are read, the merged table decides. -/
theorem directoryResult_iff_of_read (hread : readTables directory files = .ok (first :: rest))
    (hreports : Reports ⟨first.metadata, (first :: rest).flatMap sets⟩ issues) :
    DirectoryResult directory files result ↔
      (if issues = [] then .ok ⟨first.metadata, (first :: rest).flatMap sets⟩
        else .error (.invalid (some directory) issues)) = result := by
  have hunique {tables : List RuleTable}
      (htables : List.Forall₂ (fun file t => WrittenAs t file.2) files tables) : first :: rest = tables := by
    rw [readTables_eq_ok_iff.2 htables] at hread
    exact (Except.ok.inj hread).symm
  constructor
  · rintro (rfl | ⟨hfiles, hbefore, hrefused⟩ | ⟨htables, hvalid⟩ | ⟨htables, hissues, hne⟩)
    · exact absurd (hunique .nil) (List.cons_ne_nil first rest)
    · rw [readTables_eq_error_iff.2 ⟨_, _, _, _, hfiles, hbefore, hrefused⟩] at hread
      cases hread
    · obtain ⟨rfl, rfl⟩ := List.cons.inj (hunique htables)
      rw [if_pos (hreports.unique hvalid)]
    · obtain ⟨rfl, rfl⟩ := List.cons.inj (hunique htables)
      rw [hreports.unique hissues, if_neg hne]
  · rintro rfl
    have htables := readTables_eq_ok_iff.1 hread
    split
    · next hnil => exact .valid htables (hnil ▸ hreports)
    · next hne => exact .invalid htables hreports hne

/-- **Loading a directory comes to this and to nothing else,** whatever is in the cache. -/
theorem ofDirectory_eq_iff (hproper : fs.Proper) (hfind : fs.find directory = .ok .directory)
    (hlocate : fs.locate directory = .ok l) (c : PatternCache) :
    ((ExceptT.run (ofDirectory fs directory)).run c).1 = result ↔
      DirectoryResult directory (fs.tableFiles l) result := by
  rw [ofDirectory_run hproper hfind hlocate]
  generalize fs.tableFiles l = files
  by_cases hempty : files = []
  · rw [if_pos hempty, hempty, directoryResult_nil_iff]
  rw [if_neg hempty]
  cases hread : readTables directory files with
  | error e => exact (directoryResult_iff_of_unread hread).symm
  | ok tables =>
    cases tables with
    | nil => exact absurd (List.forall₂_nil_right_iff.1 (readTables_eq_ok_iff.1 hread)) hempty
    | cons first rest =>
      have hmerge : merge (first :: rest) = ⟨first.metadata, (first :: rest).flatMap sets⟩ := rfl
      have hreports := reports_defects ⟨first.metadata, (first :: rest).flatMap sets⟩
      dsimp only
      rw [hmerge, validated_run hreports]
      exact (directoryResult_iff_of_read hread hreports).symm

/-- **The order of the entries does not matter,** neither to the result nor to the cache that is left. -/
theorem ofDirectory_eq_of_perm (hproper : fs.Proper) (hperm : gs.entries.Perm fs.entries)
    (hwork : gs.workingDirectory = fs.workingDirectory) (directory : Path) :
    ofDirectory gs directory = ofDirectory fs directory := by
  have hview := hproper.sameView hperm hwork
  have hfiles : filesOf gs directory = filesOf fs directory := by
    funext l
    rw [filesOf, filesOf, FileSystem.filesInside_eq_of_perm hperm]
  have hread : ofFile gs = ofFile fs := by
    funext path
    rw [ofFile, ofFile, hview.readText_eq]
  rw [ofDirectory, ofDirectory, hview.find_eq, hview.locate_eq, hfiles, hread]

/-! ## Names in several files -/

/-- A name that two tables use is reported of both as one table. -/
theorem duplicateRule_mem_issues {metadata : Metadata} {before between after : List RuleTable}
    {t u : RuleTable} {name : String} (hname : Text.trimmed name ≠ "")
    (ht : name ∈ t.rules.map RuleDefinition.name) (hu : name ∈ u.rules.map RuleDefinition.name)
    (c : PatternCache) :
    Issue.duplicateRule name ∈
      ((⟨metadata, (before ++ t :: (between ++ u :: after)).flatMap sets⟩ : RuleTable).issues.run c).1 := by
  have hrules : (⟨metadata, (before ++ t :: (between ++ u :: after)).flatMap sets⟩ : RuleTable).rules =
      before.flatMap rules ++ (t.rules ++ (between.flatMap rules ++ (u.rules ++ after.flatMap rules))) := by
    rw [rules, List.flatMap_assoc, List.flatMap_append, List.flatMap_cons, List.flatMap_append,
      List.flatMap_cons]
    rfl
  have htcount := List.count_pos_iff.2 ht
  have hucount := List.count_pos_iff.2 hu
  rw [← List.count_pos_iff, count_duplicateRule, if_neg hname, hrules]
  simp only [List.map_append, List.count_append]
  omega

/-- **A directory is loaded as the tables of its files in the order of their names.**  Which files count is known
from what stands directly inside, and what the result is from their names and from what is in them.  The order in
which the directory lists its entries does not matter.  Names of rules that are used in two files are refused. -/
theorem ofDirectory_merges (hproper : fs.Proper) (hfind : fs.find directory = .ok .directory)
    (hlocate : fs.locate directory = .ok l) :
    (∀ gs : FileSystem, gs.entries.Perm fs.entries → gs.workingDirectory = fs.workingDirectory →
      ofDirectory gs directory = ofDirectory fs directory) ∧
    ((fs.tableFiles l).Pairwise fun a b => Text.bytes a.1 < Text.bytes b.1) ∧
    (∀ name bytes, (name, bytes) ∈ fs.tableFiles l ↔ (∃ stem, stem ≠ "" ∧ name = stem ++ ".toml") ∧
      ∃ f, fs.node? (l ++ [name]) = some (.file f) ∧ f.bytes = bytes) ∧
    (∀ c result, ((ExceptT.run (ofDirectory fs directory)).run c).1 = result ↔
      DirectoryResult directory (fs.tableFiles l) result) ∧
    ∀ before t between u after name,
      List.Forall₂ (fun file t => WrittenAs t file.2) (fs.tableFiles l)
        (before ++ t :: (between ++ u :: after)) →
      Text.trimmed name ≠ "" → name ∈ t.rules.map RuleDefinition.name →
      name ∈ u.rules.map RuleDefinition.name → ∀ c, ∃ issues, Issue.duplicateRule name ∈ issues ∧
        ((ExceptT.run (ofDirectory fs directory)).run c).1 = .error (.invalid (some directory) issues) := by
  refine ⟨fun gs hperm hwork => ofDirectory_eq_of_perm hproper hperm hwork directory,
    hproper.tableFiles_pairwise l, fun name bytes => hproper.mem_tableFiles,
    fun c result => ofDirectory_eq_iff hproper hfind hlocate c, ?_⟩
  intro before t between u after name htables hname ht hu c
  obtain ⟨first, rest, hcons⟩ : ∃ first rest, before ++ t :: (between ++ u :: after) = first :: rest :=
    List.exists_cons_of_ne_nil (by simp)
  have hreports := reports_defects ⟨first.metadata, (first :: rest).flatMap sets⟩
  have hmem : Issue.duplicateRule name ∈
      ((⟨first.metadata, (before ++ t :: (between ++ u :: after)).flatMap sets⟩ : RuleTable).issues.run c).1 :=
    duplicateRule_mem_issues hname ht hu c
  rw [hcons] at htables hmem
  rw [hreports c] at hmem
  exact ⟨_, hmem, (ofDirectory_eq_iff hproper hfind hlocate c).2
    (.invalid htables hreports (List.ne_nil_of_mem hmem))⟩

/-- A directory with two files of the same table, listed against their order, and with a directory beside them. -/
def twoLevels : FileSystem :=
  let file : Node := .file ⟨oneLevelText.toUTF8, 0o644, ⟨0, 0⟩⟩
  ⟨[(["d"], .directory), (["d", "b.toml"], file), (["d", "a.toml"], file), (["d", "c.toml"], .directory)], []⟩

theorem tableFiles_twoLevels : twoLevels.tableFiles ["d"] =
    [("a.toml", oneLevelText.toUTF8), ("b.toml", oneLevelText.toUTF8)] := by
  have hinside : twoLevels.filesInside ["d"] = ["a.toml", "b.toml"] := by
    have hlisted : (twoLevels.filesInside ["d"]).Perm ["b.toml", "a.toml"] := twoLevels.filesInside_perm ["d"]
    exact List.Perm.eq_of_pairwise (fun _ _ _ _ => le_antisymm) (twoLevels.filesInside_pairwise_le ["d"])
      (List.pairwise_pair.2 (by decide)) (hlisted.trans (.swap _ _ _))
  have hnames : twoLevels.tableNames ["d"] = ["a.toml", "b.toml"] := by
    rw [FileSystem.tableNames, hinside]
    decide
  rw [FileSystem.tableFiles, hnames]
  rfl

/-- Listed in order or not, both files declare a rule of one name, and are refused. -/
theorem ofDirectory_merges_twoLevels :
    twoLevels.Proper ∧ twoLevels.find ⟨"/d"⟩ = .ok .directory ∧ twoLevels.locate ⟨"/d"⟩ = .ok ["d"] ∧
      ofDirectory ⟨twoLevels.entries.reverse, []⟩ ⟨"/d"⟩ = ofDirectory twoLevels ⟨"/d"⟩ ∧
      ∀ c, ∃ issues, Issue.duplicateRule "level" ∈ issues ∧
        ((ExceptT.run (ofDirectory twoLevels ⟨"/d"⟩)).run c).1 = .error (.invalid (some ⟨"/d"⟩) issues) := by
  have hproper : twoLevels.Proper := ⟨by decide, by decide⟩
  have hwritten : oneLevel.WrittenAs oneLevelText.toUTF8 := ⟨oneLevelText, rfl, by decide +kernel⟩
  have hfind : twoLevels.find ⟨"/d"⟩ = .ok .directory := rfl
  have hlocate : twoLevels.locate ⟨"/d"⟩ = .ok ["d"] := rfl
  obtain ⟨horder, -, -, -, hrepeated⟩ := ofDirectory_merges hproper hfind hlocate
  refine ⟨hproper, hfind, hlocate, horder _ (List.reverse_perm _) rfl, ?_⟩
  refine hrepeated [] oneLevel [] oneLevel [] "level" ?_ (by decide) (by decide) (by decide)
  rw [tableFiles_twoLevels]
  exact .cons hwritten (.cons hwritten .nil)

end RuleTable
end LiteralPatch
