import LiteralPatch.Files.Path
import LiteralPatch.Files.Fault

/-!
# A file system

Files and directories under the names of the components that lead to them from the root.  The view of a
file system is `node?`: what stands at a location.  Two operations change it, `put` and `remove`, and
each changes one location only (`node?_put_of_ne`, `node?_remove_of_ne`).

A path is resolved step by step, and each component but the last has to be a directory; the last one may
be missing.
-/

namespace LiteralPatch

/-- A point in time, in seconds and nanoseconds since 1970. -/
structure Time where
  seconds : Int
  nanos : Nat
deriving DecidableEq, Repr, Inhabited

/-- The components that lead from the root to a place. -/
abbrev Location := List String

/-- A file: what it holds, who may use it, and when it was last written. -/
structure File where
  bytes : ByteArray
  mode : Nat
  modified : Time
deriving Inhabited

/-- What stands at a location. -/
inductive Node where
  | file (f : File)
  | directory
deriving Inhabited

/-- Files and directories; the root is a directory without an entry. -/
structure FileSystem where
  entries : List (Location × Node)
  /-- Where relative paths start. -/
  workingDirectory : Location
deriving Inhabited

namespace FileSystem

/-- What stands at a location, if anything does. -/
def node? (fs : FileSystem) (l : Location) : Option Node :=
  if l = [] then some .directory else fs.entries.lookup l

/-- Puts a node at a location, in place of what stands there. -/
def put (fs : FileSystem) (l : Location) (n : Node) : FileSystem :=
  { fs with entries := (l, n) :: fs.entries.filter fun e => e.1 ≠ l }

/-- Removes what stands at a location. -/
def remove (fs : FileSystem) (l : Location) : FileSystem :=
  { fs with entries := fs.entries.filter fun e => e.1 ≠ l }

/-! ## What an operation does to the view -/

theorem lookup_filter_ne {es : List (Location × Node)} {l m : Location} (h : m ≠ l) :
    (es.filter fun e => e.1 ≠ l).lookup m = es.lookup m := by
  induction es with
  | nil => rfl
  | cons e es ih =>
    obtain ⟨k, n⟩ := e
    by_cases hk : k = l
    · subst hk
      have hne : (m == k) = false := beq_eq_false_iff_ne.2 h
      simpa [List.lookup_cons, hne] using ih
    · rw [List.filter_cons, if_pos (by simpa using hk)]
      by_cases hm : m = k
      · subst hm
        simp
      · have hne : (m == k) = false := beq_eq_false_iff_ne.2 hm
        rw [List.lookup_cons, List.lookup_cons, hne]
        exact ih

theorem lookup_filter_self {es : List (Location × Node)} {l : Location} :
    (es.filter fun e => e.1 ≠ l).lookup l = none := by
  induction es with
  | nil => rfl
  | cons e es ih =>
    obtain ⟨k, n⟩ := e
    by_cases hk : k = l
    · subst hk
      simpa using ih
    · have hne : (l == k) = false := beq_eq_false_iff_ne.2 (Ne.symm hk)
      rw [List.filter_cons, if_pos (by simpa using hk), List.lookup_cons, hne]
      exact ih

@[simp] theorem node?_root (fs : FileSystem) : fs.node? [] = some .directory := rfl

theorem node?_put_self {fs : FileSystem} {l : Location} {n : Node} (h : l ≠ []) :
    (fs.put l n).node? l = some n := by
  simp [node?, put, h]

theorem node?_put_of_ne {fs : FileSystem} {l m : Location} {n : Node} (h : m ≠ l) :
    (fs.put l n).node? m = fs.node? m := by
  have hne : (m == l) = false := beq_eq_false_iff_ne.2 h
  simp only [node?, put, List.lookup_cons, hne, lookup_filter_ne h]

theorem node?_remove_self {fs : FileSystem} {l : Location} (h : l ≠ []) :
    (fs.remove l).node? l = none := by
  simp only [node?, remove, if_neg h, lookup_filter_self]

theorem node?_remove_of_ne {fs : FileSystem} {l m : Location} (h : m ≠ l) :
    (fs.remove l).node? m = fs.node? m := by
  simp only [node?, remove, lookup_filter_ne h]

/-! ## Where a path leads -/

/-- Follows components from a directory. -/
def follow (fs : FileSystem) : Location → List String → Except FileFault Location
  | here, [] => .ok here
  | here, part :: rest =>
    match fs.node? here with
    | none => .error .notFound
    | some (.file _) => .error .notDirectory
    | some .directory =>
      if part = ".." then fs.follow here.dropLast rest else fs.follow (here ++ [part]) rest

/-- The location that a path leads to, whether or not anything stands there. -/
def locate (fs : FileSystem) (p : Path) : Except FileFault Location :=
  if p.text = "" then .error .notFound
  else fs.follow (if p.isAbsolute then [] else fs.workingDirectory) p.parts

/-- What a path denotes. -/
def find (fs : FileSystem) (p : Path) : Except FileFault Node := do
  match fs.node? (← fs.locate p) with
  | none => throw .notFound
  | some (.file f) => if p.meansDirectory then throw .notDirectory else pure (.file f)
  | some .directory => pure .directory

/-- The file that a path denotes, if it denotes one. -/
def file? (fs : FileSystem) (p : Path) : Option File :=
  match fs.find p with
  | .ok (.file f) => some f
  | _ => none

def isFile (fs : FileSystem) (p : Path) : Bool := (fs.file? p).isSome

def isDirectory (fs : FileSystem) (p : Path) : Bool :=
  match fs.find p with
  | .ok .directory => true
  | _ => false

/-- Whether a path denotes anything. -/
def holds (fs : FileSystem) (p : Path) : Bool := (fs.find p).toBool

/-! ## Reading -/

/-- The bytes of a file. -/
def read (fs : FileSystem) (p : Path) : Except FileFault ByteArray := do
  match ← fs.find p with
  | .file f => pure f.bytes
  | .directory => throw .isDirectory

/-- The text of a file. -/
def readText (fs : FileSystem) (p : Path) : Except FileFault String := do
  match String.fromUTF8? (← fs.read p) with
  | some text => pure text
  | none => throw .notText

/-- The files directly inside a directory, by name in ascending order. -/
def filesInside (fs : FileSystem) (l : Location) : List String :=
  let names := fs.entries.filterMap fun (m, n) =>
    match n with
    | .directory => none
    | .file _ => if m.dropLast = l then m.getLast? else none
  names.mergeSort fun a b => decide (a ≤ b)

end FileSystem
end LiteralPatch
