/-!
# Lines of a text

A line ends with a line feed, a carriage return, or both in this order, and keeps its end; the last line
may have none.  A minified text has few lines, so statements are put on lines of their own first.
-/

namespace LiteralPatch
namespace Diff

/-- Starts a new line after each semicolon and each closing brace. -/
def splitStatements (text : List Char) : List Char :=
  text.flatMap fun c => if c = ';' ∨ c = '\x7d' then [c, '\n'] else [c]

/-- The lines of a text, where `line` holds, in reverse, what has been read of the first one. -/
def linesFrom : List Char → List Char → List (List Char)
  | [], [] => []
  | line, [] => [line.reverse]
  | line, '\r' :: '\n' :: cs => ('\n' :: '\r' :: line).reverse :: linesFrom [] cs
  | line, c :: cs =>
    if c = '\n' ∨ c = '\r' then (c :: line).reverse :: linesFrom [] cs else linesFrom (c :: line) cs

/-- The lines of a text, each with its end. -/
def lines (text : List Char) : List String :=
  (linesFrom [] text).map String.ofList

/-- Whether a line has an end. -/
def isEnded (line : String) : Bool :=
  match line.toList.getLast? with
  | some c => c == '\n' || c == '\r'
  | none => false

end Diff
end LiteralPatch
