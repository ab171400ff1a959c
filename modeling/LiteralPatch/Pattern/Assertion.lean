import LiteralPatch.Unicode.Word

/-!
# Assertions

An assertion holds *between* two characters and consumes nothing.  All that it may ask about is the
character before and the character after, either of which is missing at an end of the text; so an
assertion is a predicate on two optional characters, and where the text stands in memory is no
concern of it.
-/

namespace LiteralPatch
namespace Pattern

/-- The ways in which a position can lie at a word. -/
inductive WordEdge where
  /-- A word begins or ends here. -/
  | boundary
  /-- No word begins or ends here. -/
  | inside
  /-- A word begins here. -/
  | start
  /-- A word ends here. -/
  | stop
  /-- No word character stands before. -/
  | startHalf
  /-- No word character stands after. -/
  | stopHalf
deriving DecidableEq, Repr

/-- A condition on a position. -/
inductive Assertion where
  | textStart
  | textEnd
  /-- The start of a line; with `crlf`, a carriage return ends a line too and the pair ends one. -/
  | lineStart (crlf : Bool)
  | lineEnd (crlf : Bool)
  /-- A word edge; without `unicode`, only ASCII characters make words. -/
  | word (edge : WordEdge) (unicode : Bool)
deriving DecidableEq, Repr

namespace Assertion

/-- Whether a character that may be missing belongs to a word. -/
def isWordAt (unicode : Bool) : Option Char → Bool
  | none => false
  | some c => if unicode then Unicode.isWord c else Unicode.isAsciiWord c

/-- The position between `before` and `after` satisfies the assertion. -/
def holds (before after : Option Char) : Assertion → Bool
  | .textStart => before.isNone
  | .textEnd => after.isNone
  | .lineStart false => before.isNone || before == some '\n'
  | .lineEnd false => after.isNone || after == some '\n'
  | .lineStart true =>
    before.isNone || before == some '\n' || (before == some '\r' && after != some '\n')
  | .lineEnd true =>
    after.isNone || after == some '\r' || (after == some '\n' && before != some '\r')
  | .word edge unicode =>
    let l := isWordAt unicode before
    let r := isWordAt unicode after
    match edge with
    | .boundary => l != r
    | .inside => l == r
    | .start => !l && r
    | .stop => l && !r
    | .startHalf => !l
    | .stopHalf => !r

end Assertion
end Pattern
end LiteralPatch
