import LiteralPatch.Command.Paint
import LiteralPatch.Files.Path
import LiteralPatch.Text.Words

/-!
# What surrounds a command

The variables that a command looks at, and what they decide: where the target is, what a leading tilde
stands for, and whether output is painted.
-/

namespace LiteralPatch
namespace Command

/-- The surroundings of a command. -/
structure Environment where
  settings : List (String × String)
  /-- Whether output goes to a terminal. -/
  terminal : Bool
deriving Inhabited

namespace Environment

def get? (e : Environment) (name : String) : Option String := e.settings.lookup name

/-- Whether a variable is set to something that is not zero. -/
def isOn (e : Environment) (name : String) : Bool :=
  match e.get? name with
  | some value => value ≠ "0"
  | none => false

/-- Whether output is painted: forcing colours wins over forbidding them, and without either they are for
terminals only. -/
def paint (e : Environment) : Paint :=
  if e.isOn "CLICOLOR_FORCE" then ⟨true⟩
  else if (e.get? "NO_COLOR").isSome then ⟨false⟩
  else ⟨e.terminal && (e.get? "CLICOLOR").all (· ≠ "0")⟩

/-- The path with a leading tilde replaced. -/
def expand (e : Environment) (p : Path) : Path :=
  p.expandHome (e.get? "HOME")

end Environment

/-- The variable that names the target. -/
def targetVariable : String := "BUNDLE_PATCHER_TARGET"

/-- Where the target is installed by default. -/
def defaultTarget : Path :=
  ⟨"/usr/share/cursor/resources/app/out/vs/workbench/workbench.desktop.main.js"⟩

/-- The target: the one that is given, else the one that the environment names, else the default. -/
def resolveTarget (e : Environment) (file : Option Path) : Path :=
  match file, e.get? targetVariable with
  | some p, _ => e.expand p
  | none, some text => if Text.isBlank text then defaultTarget else e.expand ⟨text⟩
  | none, none => defaultTarget

end Command
end LiteralPatch
