import LiteralPatch.Files.System

/-!
# Writing files

A file is written in one of two ways.  `write` replaces the content in place.  `replace` is for a file
that must never be seen half written: the content goes to a fresh file beside the target, which takes
over the target's mode and is then renamed over it; if the renaming fails the fresh file is removed.
Either the target holds the whole content afterwards, or everything is as it was before.
-/

namespace LiteralPatch

/-- The mode of a file that is created in the ordinary way. -/
def ordinaryMode : Nat := 0o644

/-- The mode of a fresh file that only its owner may use. -/
def privateMode : Nat := 0o600

namespace FileSystem

/-- The file at a location. -/
def fileAt? (fs : FileSystem) (l : Location) : Option File :=
  match fs.node? l with
  | some (.file f) => some f
  | _ => none

/-- Writes the content of a file in place; a new file gets the ordinary mode. -/
def write (fs : FileSystem) (p : Path) (bytes : ByteArray) (now : Time) :
    Except FileFault FileSystem := do
  let l ← fs.locate p
  match fs.node? l with
  | some .directory => throw .isDirectory
  | some (.file f) =>
    if p.meansDirectory then throw .notDirectory
    else pure (fs.put l (.file { f with bytes := bytes, modified := now }))
  | none =>
    if p.meansDirectory then throw .isDirectory
    else pure (fs.put l (.file ⟨bytes, ordinaryMode, now⟩))

/-- Sets the time at which a file was last written. -/
def touch (fs : FileSystem) (p : Path) (time : Time) : FileSystem :=
  match fs.locate p with
  | .error _ => fs
  | .ok l =>
    match fs.fileAt? l with
    | some f => fs.put l (.file { f with modified := time })
    | none => fs

/-! ## Replacing a file as a whole -/

/-- The directory that the last component of a path is looked up in. -/
def parent (fs : FileSystem) (p : Path) : Except FileFault Location := do
  let start := if p.isAbsolute then [] else fs.workingDirectory
  let l ← fs.follow start p.parts.dropLast
  match fs.node? l with
  | none => throw .notFound
  | some (.file _) => throw .notDirectory
  | some .directory => pure l

/-- The name of the `n`-th candidate for a fresh file. -/
def freshName (n : Nat) : String := ".tmp" ++ toString n

/-- The first of `fuel` candidates from the `n`-th on at which nothing stands. -/
def freshFrom (fs : FileSystem) (dir : Location) : Nat → Nat → Option Location
  | 0, _ => none
  | fuel + 1, n =>
    let l := dir ++ [freshName n]
    if (fs.entries.any fun e => e.1 == l) then fs.freshFrom dir fuel (n + 1) else some l

/-- A location in a directory at which nothing stands; with one candidate more than there are entries,
there is one. -/
def fresh (fs : FileSystem) (dir : Location) : Location :=
  (fs.freshFrom dir (fs.entries.length + 1) 0).getD (dir ++ [freshName 0])

/-- Where a file may be renamed to. -/
def renameTarget (fs : FileSystem) (p : Path) : Except FileFault Location := do
  let l ← fs.locate p
  if p.endsInDots then throw .busy
  if p.meansDirectory then throw .notDirectory
  match fs.node? l with
  | some .directory => throw .isDirectory
  | _ => pure l

/-- Replaces the content of a file, or creates it, as a whole. -/
def replace (fs : FileSystem) (p : Path) (bytes : ByteArray) (now : Time) :
    Except FileFault Unit × FileSystem :=
  match fs.parent p with
  | .error fault => (.error fault, fs)
  | .ok dir =>
    let temporary := fs.fresh dir
    let mode := ((fs.file? p).map File.mode).getD privateMode
    let staged := fs.put temporary (.file ⟨bytes, mode, now⟩)
    match fs.renameTarget p with
    | .error fault => (.error fault, staged.remove temporary)
    | .ok l => (.ok (), (staged.remove temporary).put l (.file ⟨bytes, mode, now⟩))

end FileSystem
end LiteralPatch
