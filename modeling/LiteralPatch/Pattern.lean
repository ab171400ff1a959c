import LiteralPatch.Pattern.Reader
import LiteralPatch.Pattern.Search

/-!
# Patterns

A pattern is compiled once and searched often.  `Pattern.compile` reads the text under the given case
mode and lays out the program; everything later goes through the compiled form.
-/

namespace LiteralPatch

/-- A compiled pattern. -/
structure Pattern where
  /-- The text that it was compiled from. -/
  source : String
  ignoreCase : Bool
  program : Pattern.Program
  /-- The named captures and their numbers. -/
  names : List (List Char × Nat)
deriving Inhabited

namespace Pattern

/-- The flags that a pattern starts with. -/
def initialFlags (ignoreCase : Bool) : Flags :=
  { ignoreCase := ignoreCase }

/-- Compiles a pattern, matching case or ignoring it. -/
def compile (source : String) (ignoreCase : Bool) : Except Fault Pattern := do
  let read ← Pattern.read (initialFlags ignoreCase) source.toList
  pure ⟨source, ignoreCase, Program.ofExpr read.expr, read.names⟩

/-- The number of the capture with this name. -/
def captureNamed (p : Pattern) (name : String) : Option Nat :=
  p.names.lookup name.toList

/-- Whether the pattern matches anywhere in the text. -/
def isMatch (p : Pattern) (text : String) : Bool :=
  p.program.isMatch text.toList

end Pattern
end LiteralPatch
