import LiteralPatch.Command.Apply
import LiteralPatch.Command.Help
import LiteralPatch.Command.Inspect
import LiteralPatch.Command.Restore

/-!
# The command line

Arguments become a request, and the request is carried out.  Arguments that make no request are answered on
the error channel, with a code of their own.
-/

namespace LiteralPatch
namespace Command

/-- The code of a command that was not understood. -/
def usageCode : Nat := 2

/-- The answer to arguments that make no request. -/
def answerHalt (fs : FileSystem) : Halt → Reply
  | .version => .success fs (line (programName ++ " " ++ programVersion))
  | .help topic => .success fs (helpText topic)
  | .fault f => ⟨usageCode, "", "error: " ++ f.message ++ "\n", fs⟩

/-- Carries a request out. -/
def execute (e : Environment) (fs : FileSystem) (now : Time) : Request → Dialogue
  | .apply options => apply e fs now options
  | .check file source => .done (check e fs now file source)
  | .restore file yes => restore e fs now file yes
  | .list source => .done (list e fs source)

/-- The target that a request is about, and its backup. -/
def Request.targetPaths (e : Environment) (r : Request) : List Path :=
  let both (file : Option Path) : List Path :=
    [resolveTarget e file, Backup.pathFor (resolveTarget e file)]
  match r with
  | .apply o => both o.file
  | .check file _ => both file
  | .restore file _ => both file
  | .list _ => []

/-- The paths that a request takes rules from. -/
def Request.rulePaths (e : Environment) (r : Request) : List Path :=
  let ofSource (source : RuleSource) : List Path :=
    match source with
    | .profile _ => []
    | .path p => [e.expand p]
  match r with
  | .apply o => ofSource o.source
  | .check _ source => ofSource source
  | .restore .. => []
  | .list source => ofSource source

/-- The dialogue that arguments start. -/
def start (e : Environment) (fs : FileSystem) (now : Time) (arguments : List String) : Dialogue :=
  match readArguments [] arguments with
  | .error halt => .done (answerHalt fs halt)
  | .ok request => execute e fs now request

/-- The first line of an input, with its end. -/
def firstLine (input : String) : String :=
  let cs := input.toList
  let text := cs.takeWhile (· ≠ '\n')
  String.ofList (cs.take (text.length + 1))

/-- What arguments lead to, where a question is answered by the first line of an input. -/
def perform (e : Environment) (fs : FileSystem) (now : Time) (input : String)
    (arguments : List String) : Reply :=
  (start e fs now arguments).finish (firstLine input)

end Command
end LiteralPatch
