import LiteralPatch.Table.Decode
import LiteralPatch.Table.Validation
import LiteralPatch.Toml.Reader
import LiteralPatch.Files.System
import LiteralPatch.Profile

/-!
# Loading a table

A table comes from a text, from a file, from all files of a directory, or from a profile.  Whatever it
comes from, it is validated before anyone sees it, so every table that has been loaded compiles.

The files of a directory are merged in the order of their names: the metadata are those of the first
file, the rule sets follow each other, and the table is validated as a whole, so that a name is used
once in all of them.
-/

namespace LiteralPatch

/-- Why a text holds no table. -/
inductive TextFault where
  | syntactic (fault : Toml.Fault)
  | structural (fault : DecodeFault)
deriving DecidableEq, Repr

namespace TextFault

def message : TextFault → String
  | syntactic fault => fault.message
  | structural fault => fault.message

end TextFault

/-- Why no table is loaded. -/
inductive LoadError where
  | unreadable (path : Path) (cause : FileFault)
  | notToml (path : Option Path) (fault : TextFault)
  | invalid (path : Option Path) (issues : List Issue)
  | unknownProfile (name : String) (suggestion : Option String)
  | emptyDirectory (path : Path)
deriving DecidableEq, Repr

namespace LoadError

/-- The place of a fault, behind what failed. -/
def place (path : Option Path) : String :=
  match path with
  | some p => " (" ++ p.text ++ ")"
  | none => ""

def message : LoadError → String
  | unreadable path cause =>
    "failed to read rule config from " ++ path.text ++ ": " ++ cause.message
  | notToml path fault => "failed to parse rule config TOML" ++ place path ++ ": " ++ fault.message
  | invalid path issues => "invalid rule config" ++ place path ++ ": " ++ Issue.messages issues
  | unknownProfile name suggestion =>
    "unknown profile '" ++ name ++ "'" ++
      match suggestion with
      | some s => " (did you mean '" ++ s ++ "'?)"
      | none => " (available: " ++ String.intercalate ", " Profile.availableNames ++ ")"
  | emptyDirectory path => "no .toml rule files found in " ++ path.text

/-- The texts of the underlying causes. -/
def causes : LoadError → List String
  | unreadable _ cause => [cause.message]
  | notToml _ fault => [fault.message]
  | invalid _ issues => [Issue.messages issues]
  | unknownProfile .. => []
  | emptyDirectory _ => []

end LoadError

/-- Loading: it may fail, and it leaves a cache in any case. -/
abbrev Loading := ExceptT LoadError (StateM PatternCache)

namespace RuleTable

/-- The table that a text declares, whether valid or not. -/
def parse (text : String) : Except TextFault RuleTable :=
  match Toml.read text with
  | .error fault => .error (.syntactic fault)
  | .ok entries => (ofEntries entries).mapError .structural

/-- The table itself, if it has no issues. -/
def validated (path : Option Path) (t : RuleTable) : Loading RuleTable := do
  match ← t.issues with
  | [] => pure t
  | issues => throw (.invalid path issues)

/-- The table of a text that comes from a path, or from nowhere. -/
def ofText (path : Option Path) (text : String) : Loading RuleTable := do
  match parse text with
  | .error fault => throw (.notToml path fault)
  | .ok t => validated path t

/-- The table of a single file, before validation. -/
def ofFile (fs : FileSystem) (file : Path) : Except LoadError RuleTable :=
  match fs.readText file with
  | .error fault => .error (.unreadable file fault)
  | .ok text => (parse text).mapError (.notToml (some file))

/-- The tables of several files as one. -/
def merge : List RuleTable → RuleTable
  | [] => default
  | t :: rest => ⟨t.metadata, t.sets ++ rest.flatMap RuleTable.sets⟩

/-- The files of a directory that hold tables, in the order of their names. -/
def filesOf (fs : FileSystem) (directory : Path) (l : Location) : List Path :=
  ((fs.filesInside l).filter fun name => Path.extension? name == some "toml").map directory.child

/-- The merged table of a directory. -/
def ofDirectory (fs : FileSystem) (directory : Path) : Loading RuleTable := do
  match fs.find directory, fs.locate directory with
  | .ok _, .ok l =>
    match filesOf fs directory l with
    | [] => throw (.emptyDirectory directory)
    | files => do
      let tables ← MonadExcept.ofExcept (files.mapM (ofFile fs))
      validated (some directory) (merge tables)
  | _, _ => throw (.unreadable directory (.unlisted directory.text))

/-- The table at a path, which may be a directory. -/
def ofPath (fs : FileSystem) (path : Path) : Loading RuleTable := do
  if fs.isDirectory path then ofDirectory fs path
  else
    match fs.readText path with
    | .error fault => throw (.unreadable path fault)
    | .ok text => ofText (some path) text

/-- The table of a built-in profile. -/
def ofProfile (name : String) : Loading RuleTable := do
  match Profile.find? name with
  | some p => validated none p.table
  | none => throw (.unknownProfile name (Profile.closest name))

end RuleTable
end LiteralPatch
