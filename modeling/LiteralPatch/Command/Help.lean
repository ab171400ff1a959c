import LiteralPatch.Command.Arguments

/-!
# Help

The text that explains the commands and their options.  Options are set out in two columns; where an
explanation would not fit beside the widest option, every explanation has a line of its own.
-/

namespace LiteralPatch
namespace Command

def programName : String := "bundle-patcher"

def programVersion : String := "0.1.0"

/-- What a command does. -/
def Verb.about : Verb → String
  | .apply => "Patch the bundle in place (backup first)"
  | .check => "Report what would change without touching any file"
  | .restore => "Copy <file>.backup back over the bundle"
  | .list => "List rule sets and their patterns"

/-- An option as it is shown, and its explanation. -/
abbrev HelpRow := String × String

def verboseRow : HelpRow :=
  ("-v, --verbose...", "Increase log verbosity (-v debug, -vv trace); RUST_LOG overrides")

def helpRow : HelpRow := ("-h, --help", "Print help")

def profileRow : HelpRow := ("    --profile <PROFILE>", "Built-in rule profile [default: claude-4]")

def rulesRow : HelpRow :=
  ("    --rules <RULES>", "Rule table file, or a directory of *.toml rule tables")

/-- The options of a command as they are shown. -/
def Verb.helpRows : Verb → List HelpRow
  | .apply => [
    ("-f, --file <FILE>",
      "Path to workbench.desktop.main.js (defaults to the standard install path)"),
    verboseRow, profileRow, rulesRow,
    ("    --skip-backup", "Skip creating <file>.backup"),
    ("    --force-backup", "Overwrite an existing <file>.backup instead of keeping it"),
    ("    --host-version <HOST_VERSION>",
      "Host application version; refuse to patch outside the rule table's range"),
    ("-y, --yes", "Do not ask for confirmation"),
    ("-n, --dry-run", "Dry run - show what would be changed without modifying files"),
    ("-d, --diff", "Show unified diff of changes"),
    ("    --json", "Print the run outcome as JSON"),
    helpRow]
  | .check => [("-f, --file <FILE>", ""), verboseRow, profileRow, rulesRow, helpRow]
  | .restore => [("-f, --file <FILE>", ""), verboseRow, ("-y, --yes", ""), helpRow]
  | .list => [profileRow, verboseRow, rulesRow, helpRow]

/-- The number of columns that the text may take. -/
def helpColumns : Nat := 100

/-- Text with blanks behind it, up to a width. -/
def padded (width : Nat) (text : String) : String :=
  text ++ String.ofList (List.replicate (width - text.length) ' ')

/-- The width of the widest option. -/
def widest (rows : List HelpRow) : Nat := (rows.map fun r => r.1.length).foldl max 0

/-- Whether the explanations need lines of their own. -/
def needsLines (rows : List HelpRow) : Bool :=
  let taken := widest rows + 8
  40 * helpColumns < 100 * taken && rows.any fun r => helpColumns - taken < r.2.length

/-- The rows of a section. -/
def rowsText (rows : List HelpRow) : String :=
  String.join <|
    if needsLines rows then
      rows.map fun r =>
        "  " ++ r.1 ++ "\n" ++ (if r.2 = "" then "" else "          " ++ r.2 ++ "\n")
    else rows.map fun r => "  " ++ padded (widest rows + 2) r.1 ++ r.2 ++ "\n"

/-- What the word that asks for help does. -/
def helpAbout : String := "Print this message or the help of the given subcommand(s)"

/-- The help on a topic. -/
def helpText : Topic → String
  | .help =>
    helpAbout ++ "\n\nUsage: " ++ programName ++ " help [COMMAND]...\n\nArguments:\n" ++
      rowsText [("[COMMAND]...", "Print help for the subcommand(s)")]
  | .verb verb =>
    verb.about ++ "\n\nUsage: " ++ programName ++ " " ++ verb.name ++ " [OPTIONS]\n\nOptions:\n" ++
      rowsText verb.helpRows
  | .program =>
    "Rewrite model limits and flags in the editor workbench bundle\n\nUsage: " ++ programName ++
      " [OPTIONS] <COMMAND>\n\nCommands:\n" ++
      rowsText (Verb.all.map (fun v => (v.name, v.about)) ++
        [("help", helpAbout)]) ++
      "\nOptions:\n" ++ rowsText [verboseRow, helpRow, ("-V, --version", "Print version")]

end Command
end LiteralPatch
