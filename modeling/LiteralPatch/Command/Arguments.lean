import LiteralPatch.Files.Path
import LiteralPatch.Profile

/-!
# Arguments of the command line

Arguments are read from left to right, and the first thing that settles the matter counts: a fault, or a
wish for help or for the version.  Options have a long name and perhaps a short one; short ones may be
combined, and the last of a combination may be followed by its value.  An option is given once, unless it
is there to be counted.
-/

namespace LiteralPatch
namespace Command

/-- What an option takes. -/
inductive Takes where
  | nothing
  /-- Any text. -/
  | text
  /-- A path, which is not empty. -/
  | path
deriving DecidableEq, Repr

/-- An option of a command. -/
structure Switch where
  long : String
  short : Option Char
  takes : Takes
  counted : Bool
deriving DecidableEq, Repr

/-- The commands. -/
inductive Verb where
  | apply
  | check
  | restore
  | list
deriving DecidableEq, Repr, Inhabited

namespace Verb

def name : Verb → String
  | apply => "apply"
  | check => "check"
  | restore => "restore"
  | list => "list"

def all : List Verb := [apply, check, restore, list]

/-- The command with a name. -/
def named? (name : String) : Option Verb := all.find? fun v => v.name == name

end Verb

/-- Why arguments are refused. -/
inductive UsageFault where
  | unexpected (argument : String)
  | valueMissing (option : String)
  | valueUnexpected (option : String)
  | repeated (option : String)
  | conflicting (one other : String)
  | commandMissing
  | commandUnknown (name : String)
deriving DecidableEq, Repr

namespace UsageFault

def message : UsageFault → String
  | unexpected argument => "unexpected argument '" ++ argument ++ "' found"
  | valueMissing option => "a value is required for '" ++ option ++ "' but none was supplied"
  | valueUnexpected option => "unexpected value for '" ++ option ++ "' found"
  | repeated option => "the argument '" ++ option ++ "' cannot be used multiple times"
  | conflicting one other => "the argument '" ++ one ++ "' cannot be used with '" ++ other ++ "'"
  | commandMissing => "a subcommand is required"
  | commandUnknown name => "unrecognized subcommand '" ++ name ++ "'"

end UsageFault

/-- What help is asked for. -/
inductive Topic where
  | program
  | verb (v : Verb)
  /-- The word that asks for help. -/
  | help
deriving DecidableEq, Repr

/-- What ends the reading of arguments. -/
inductive Halt where
  | fault (f : UsageFault)
  | help (topic : Topic)
  | version
deriving DecidableEq, Repr

/-- The options that were given, newest first, with their values. -/
abbrev Given := List (String × String)

/-! ## Options -/

def verbose : Switch := ⟨"verbose", some 'v', .nothing, true⟩

def help : Switch := ⟨"help", some 'h', .nothing, false⟩

def versionSwitch : Switch := ⟨"version", some 'V', .nothing, false⟩

def fileSwitch : Switch := ⟨"file", some 'f', .path, false⟩

/-- Where the rules come from. -/
def sourceSwitches : List Switch :=
  [⟨"profile", none, .text, false⟩, ⟨"rules", none, .path, false⟩]

/-- The options of each command. -/
def Verb.switches : Verb → List Switch
  | .apply =>
    fileSwitch :: sourceSwitches ++
      [⟨"skip-backup", none, .nothing, false⟩, ⟨"force-backup", none, .nothing, false⟩,
        ⟨"host-version", none, .text, false⟩, ⟨"yes", some 'y', .nothing, false⟩,
        ⟨"dry-run", some 'n', .nothing, false⟩, ⟨"diff", some 'd', .nothing, false⟩,
        ⟨"json", none, .nothing, false⟩, verbose, help]
  | .check => fileSwitch :: sourceSwitches ++ [verbose, help]
  | .restore => [fileSwitch, ⟨"yes", some 'y', .nothing, false⟩, verbose, help]
  | .list => sourceSwitches ++ [verbose, help]

/-- The options that stand before a command. -/
def generalSwitches : List Switch := [verbose, help, versionSwitch]

/-- Takes note of an option; `topic` is what help is asked for, if it is. -/
def note (topic : Topic) (given : Given) (s : Switch) (value : String) : Except Halt Given :=
  if s = help then .error (.help topic)
  else if s = versionSwitch then .error .version
  else if !s.counted ∧ (given.lookup s.long).isSome then .error (.fault (.repeated s.long))
  else if s.takes = .path ∧ value = "" then .error (.fault (.valueMissing s.long))
  else .ok ((s.long, value) :: given)

/-- Whether an argument is an option rather than a value. -/
def looksLikeOption (argument : String) : Bool :=
  match argument.toList with
  | '-' :: _ :: _ => true
  | _ => false

/-- What a combination of short options leaves: options that are noted, and one that waits for its value in
the next argument, if there is such a one. -/
def readShort (topic : Topic) (known : List Switch) :
    Given → List Char → Except Halt (Given × Option Switch)
  | given, [] => .ok (given, none)
  | given, c :: cs =>
    match known.find? fun s => s.short == some c with
    | none => .error (.fault (.unexpected ("-" ++ c.toString)))
    | some s =>
      if s.takes = .nothing then
        match note topic given s "" with
        | .error h => .error h
        | .ok given => readShort topic known given cs
      else
        match cs with
        | [] => .ok (given, some s)
        | '=' :: value => (note topic given s (String.ofList value)).map fun g => (g, none)
        | value => (note topic given s (String.ofList value)).map fun g => (g, none)

/-- The name of a long option, and the value that is joined to it. -/
def splitLong (argument : List Char) : String × Option String :=
  let name := argument.takeWhile (· ≠ '=')
  (String.ofList name,
    match argument.drop name.length with
    | [] => none
    | _ :: value => some (String.ofList value))

/-- A long option; it may wait for its value in the next argument. -/
def readLong (topic : Topic) (known : List Switch) (given : Given) (argument : List Char) :
    Except Halt (Given × Option Switch) :=
  let (name, value) := splitLong argument
  match known.find? fun s => s.long == name with
  | none => .error (.fault (.unexpected ("--" ++ name)))
  | some s =>
    match s.takes, value with
    | .nothing, none => (note topic given s "").map fun g => (g, none)
    | .nothing, some _ => .error (.fault (.valueUnexpected name))
    | _, some value => (note topic given s value).map fun g => (g, none)
    | _, none => .ok (given, some s)

/-- What a single argument is. -/
inductive Argument where
  | stop
  | long (text : List Char)
  | short (text : List Char)
  | plain
deriving DecidableEq, Repr

def classify (argument : String) : Argument :=
  match argument.toList with
  | ['-', '-'] => .stop
  | '-' :: '-' :: text => .long text
  | '-' :: c :: text => .short (c :: text)
  | _ => .plain

/-- Reads the options of a command, which takes nothing else; `waiting` is an option whose value is to
come. -/
def readOptions (verb : Verb) : Given → Option Switch → List String → Except Halt Given
  | given, none, [] => .ok given
  | _, some s, [] => .error (.fault (.valueMissing s.long))
  | given, some s, argument :: rest =>
    if looksLikeOption argument then .error (.fault (.valueMissing s.long))
    else do readOptions verb (← note (.verb verb) given s argument) none rest
  | given, none, argument :: rest => do
    match classify argument with
    | .stop =>
      match rest with
      | [] => pure given
      | extra :: _ => throw (.fault (.unexpected extra))
    | .plain => throw (.fault (.unexpected argument))
    | .long text =>
      let (given, waiting) ← readLong (.verb verb) verb.switches given text
      readOptions verb given waiting rest
    | .short text =>
      let (given, waiting) ← readShort (.verb verb) verb.switches given text
      readOptions verb given waiting rest

/-! ## Requests -/

/-- Where the rules come from. -/
inductive RuleSource where
  | profile (name : String)
  | path (p : Path)
deriving DecidableEq, Repr

/-- How rules are applied. -/
structure ApplyOptions where
  file : Option Path
  source : RuleSource
  skipBackup : Bool
  forceBackup : Bool
  hostVersion : Option String
  yes : Bool
  dryRun : Bool
  diff : Bool
  json : Bool
deriving DecidableEq, Repr

/-- What is asked for. -/
inductive Request where
  | apply (options : ApplyOptions)
  | check (file : Option Path) (source : RuleSource)
  | restore (file : Option Path) (yes : Bool)
  | list (source : RuleSource)
deriving DecidableEq, Repr

namespace Given

def has (g : Given) (name : String) : Bool := (g.lookup name).isSome

def path? (g : Given) (name : String) : Option Path := (g.lookup name).map Path.mk

/-- The source of the rules; a profile and a path exclude each other. -/
def source (g : Given) : Except Halt RuleSource :=
  match g.lookup "profile", g.lookup "rules" with
  | some _, some _ => .error (.fault (.conflicting "--profile" "--rules"))
  | some name, none => .ok (.profile name)
  | none, some p => .ok (.path ⟨p⟩)
  | none, none => .ok (.profile Profile.default.name)

/-- The request that options of a command make. -/
def request (g : Given) : Verb → Except Halt Request
  | .apply => do
    let source ← g.source
    if g.has "skip-backup" ∧ g.has "force-backup" then
      throw (.fault (.conflicting "--force-backup" "--skip-backup"))
    pure (.apply ⟨g.path? "file", source, g.has "skip-backup", g.has "force-backup",
      g.lookup "host-version", g.has "yes", g.has "dry-run", g.has "diff", g.has "json"⟩)
  | .check => do pure (.check (g.path? "file") (← g.source))
  | .restore => .ok (.restore (g.path? "file") (g.has "yes"))
  | .list => do pure (.list (← g.source))

end Given

/-- Reads what follows the word that asks for help. -/
def readHelp : List String → Halt
  | [] => .help .program
  | [name] =>
    match Verb.named? name with
    | some verb => .help (.verb verb)
    | none => if name = "help" then .help .help else .fault (.commandUnknown name)
  | _ :: extra :: _ => .fault (.commandUnknown extra)

/-- Reads arguments up to the command, and then the options of the command. -/
def readArguments : Given → List String → Except Halt Request
  | _, [] => .error (.fault .commandMissing)
  | given, argument :: rest => do
    match classify argument with
    | .stop =>
      match rest with
      | [] => throw (.fault .commandMissing)
      | extra :: _ => throw (.fault (.unexpected extra))
    | .long text =>
      let (given, _) ← readLong .program generalSwitches given text
      readArguments given rest
    | .short text =>
      let (given, _) ← readShort .program generalSwitches given text
      readArguments given rest
    | .plain =>
      if argument = "help" then throw (readHelp rest)
      match Verb.named? argument with
      | none => throw (.fault (.commandUnknown argument))
      | some verb => Given.request (← readOptions verb [] none rest) verb

end Command
end LiteralPatch
