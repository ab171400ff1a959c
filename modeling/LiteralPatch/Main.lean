import LiteralPatch.Command.Line

/-!
# The program

Everything is decided by `Command.start`.  This module only shows it the part of the file system that the
request is about, carries the dialogue to the terminal, and writes back the files that have changed.

Access rights are not reported by the platform, so a file that is read counts as an ordinary one; a file
that is written gets the rights that the library decided on.
-/

namespace LiteralPatch
namespace Program

/-- The variables that a command looks at. -/
def variableNames : List String :=
  [Command.targetVariable, "HOME", "NO_COLOR", "CLICOLOR", "CLICOLOR_FORCE"]

def readEnvironment : IO Command.Environment := do
  let pairs ← variableNames.filterMapM fun name => do
    return (← IO.getEnv name).map fun value => (name, value)
  return ⟨pairs, ← (← IO.getStdout).isTty⟩

/-- The current time: that of a file that was just made. -/
def readClock : IO Time :=
  IO.FS.withTempFile fun _ path => do
    let modified := (← path.metadata).modified
    return ⟨modified.sec, modified.nsec.toNat⟩

/-! ## Showing files -/

/-- The text of a location. -/
def locationText (l : Location) : String := "/" ++ String.intercalate "/" l

/-- What stands at a location. -/
def readNode (l : Location) : IO (Option Node) := do
  let path := (← IO.currentDir) / locationText l
  if ← path.isDir then return some .directory
  if ← path.pathExists then
    let modified := (← path.metadata).modified
    let bytes ← IO.FS.readBinFile path
    return some (.file ⟨bytes, ordinaryMode, ⟨modified.sec, modified.nsec.toNat⟩⟩)
  return none

/-- Adds what stands at a location. -/
def showLocation (fs : FileSystem) (l : Location) : IO FileSystem := do
  match ← readNode l with
  | some node => return fs.put l node
  | none => return fs

/-- The location of a path, without regard to what stands there. -/
def locationOf (fs : FileSystem) (p : Path) : Location :=
  p.parts.foldl (fun here part => if part = ".." then here.dropLast else here ++ [part])
    (if p.isAbsolute then [] else fs.workingDirectory)

/-- The names in a directory. -/
def namesIn (l : Location) : IO (List String) := do
  let path := (← IO.currentDir) / locationText l
  if ← path.isDir then return (← path.readDir).toList.map fun entry => entry.fileName
  return []

/-- Adds what a path leads to, and what leads to it. -/
def showPath (fs : FileSystem) (p : Path) : IO FileSystem := do
  let l := locationOf fs p
  ((List.range l.length).map fun i => l.take (i + 1)).foldlM showLocation fs

/-- Adds what is in the directory that a path leads to. -/
def showInside (fs : FileSystem) (p : Path) : IO FileSystem := do
  let l := locationOf fs p
  ((← namesIn l).map fun name => l ++ [name]).foldlM showLocation fs

/-- The part of the file system that arguments are about. -/
def readFiles (e : Command.Environment) (arguments : List String) : IO FileSystem := do
  let here : Path := ⟨(← IO.currentDir).toString⟩
  let start : FileSystem := ⟨[], here.parts⟩
  let fs ← showPath start here
  match Command.readArguments [] arguments with
  | .error _ => return fs
  | .ok request => do
    let fs ← (request.targetPaths e ++ request.rulePaths e).foldlM showPath fs
    (request.rulePaths e).foldlM showInside fs

/-! ## Writing files -/

/-- Writes a file as a whole: beside its place first, and then over it. -/
def writeFile (l : Location) (f : File) : IO Unit := do
  let temporary := locationText l ++ ".tmp"
  IO.FS.writeBinFile temporary f.bytes
  let owner : IO.FileRight := ⟨⟨true, true, f.mode / 64 % 2 = 1⟩,
    ⟨f.mode / 32 % 2 = 1, f.mode / 16 % 2 = 1, f.mode / 8 % 2 = 1⟩,
    ⟨f.mode / 4 % 2 = 1, f.mode / 2 % 2 = 1, f.mode % 2 = 1⟩⟩
  IO.setAccessRights temporary owner
  IO.FS.rename temporary (locationText l)

/-- Whether a file holds what it held before, with the same mode. -/
def isUnchanged (before : FileSystem) (l : Location) (f : File) : Bool :=
  match before.node? l with
  | some (.file g) => g.bytes.data = f.bytes.data && g.mode = f.mode
  | _ => false

/-- Writes the files that have changed. -/
def writeChanges (before after : FileSystem) : IO Unit :=
  after.entries.forM fun (l, node) => do
    match node with
    | .directory => pure ()
    | .file f => if isUnchanged before l f then pure () else writeFile l f

/-! ## The dialogue -/

/-- Writes an answer and the files that it leaves. -/
def conclude (before : FileSystem) (reply : Command.Reply) : IO UInt32 := do
  writeChanges before reply.files
  (← IO.getStdout).putStr reply.out
  (← IO.getStderr).putStr reply.err
  return UInt32.ofNat reply.code

def run (arguments : List String) : IO UInt32 := do
  let e ← readEnvironment
  let fs ← readFiles e arguments
  match Command.start e fs (← readClock) arguments with
  | .done reply => conclude fs reply
  | .ask out onAnswer => do
    let output ← IO.getStdout
    output.putStr out
    output.flush
    conclude fs (onAnswer (← (← IO.getStdin).getLine))

end Program
end LiteralPatch

def main (arguments : List String) : IO UInt32 :=
  LiteralPatch.Program.run arguments
