import LiteralPatch.Files.System

/-!
# What a command answers

A command writes to two channels, leaves a file system behind and ends with a code.  It may ask one
question on the way; what it does then depends on the answer.
-/

namespace LiteralPatch
namespace Command

/-- How a command ends. -/
structure Reply where
  code : Nat
  out : String
  err : String
  files : FileSystem

/-- A command that is over, or that waits for an answer after it has written something. -/
inductive Dialogue where
  | done (reply : Reply)
  | ask (out : String) (onAnswer : String → Reply)

/-- Why a command fails, as it is written on the error channel. -/
structure Failure where
  text : String
deriving DecidableEq, Repr

namespace Failure

/-- Text behind some blanks, which all its lines but the first share. -/
def indented (first later text : String) : String :=
  first ++ String.intercalate ("\n" ++ later) (text.splitOn "\n")

/-- Several causes, numbered. -/
def numbered : Nat → List String → String
  | _, [] => ""
  | n, cause :: rest =>
    "\n" ++ indented ("    " ++ toString n ++ ": ") "       " cause ++ numbered (n + 1) rest

/-- The causes of an error, if it has any. -/
def causesText : List String → String
  | [] => ""
  | [cause] => "\n\nCaused by:\n" ++ indented "    " "    " cause
  | causes => "\n\nCaused by:" ++ numbered 0 causes

/-- An error with its causes. -/
def ofError (message : String) (causes : List String) : Failure :=
  ⟨"Error: " ++ message ++ causesText causes ++ "\n"⟩

end Failure

namespace Reply

/-- A command that succeeds. -/
def success (fs : FileSystem) (out : String) : Reply := ⟨0, out, "", fs⟩

/-- A command that fails after it has written something. -/
def failure (fs : FileSystem) (out : String) (f : Failure) : Reply := ⟨1, out, f.text, fs⟩

end Reply

namespace Dialogue

/-- The end of a dialogue, where every question is answered by the same line. -/
def finish (d : Dialogue) (line : String) : Reply :=
  match d with
  | done reply => reply
  | ask out onAnswer =>
    let reply := onAnswer line
    { reply with out := out ++ reply.out }

end Dialogue

end Command
end LiteralPatch
