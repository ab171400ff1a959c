import LiteralPatch.Version
import LiteralPatch.Version.Fault
import LiteralPatch.Text.Number
import LiteralPatch.Text.Words

/-!
# Reading versions

`Version.read` takes the strict form only: three numbers without superfluous zeros, then perhaps a
pre-release behind a hyphen and build metadata behind a plus sign.  The readers of its parts give what
they read and the text behind it.

Hosts report their version loosely.  `Version.readHost` takes the first word of the report, drops a `v`
in front of it and adds the numbers that are missing, and reads the result strictly.
-/

namespace LiteralPatch
namespace Version

/-- The number that digits denote. -/
def valueOf (digits : List Char) : Nat :=
  digits.foldl (fun n c => 10 * n + Text.digitValue c) 0

/-- A number of 64 bits without superfluous zeros. -/
def readNumber (part : Part) (cs : List Char) : Except Fault (Nat × List Char) :=
  match cs.takeWhile Text.isDigit, cs.dropWhile Text.isDigit with
  | [], c :: _ => .error (.unexpectedCharacter part c)
  | [], [] => .error (.unexpectedEnd part)
  | '0' :: _ :: _, _ => .error (.leadingZero part)
  | digits, rest =>
    if valueOf digits < Text.wordLimit then .ok (valueOf digits, rest) else .error (.tooLarge part)

/-- The dot after a part. -/
def readDot (part : Part) : List Char → Except Fault (List Char)
  | '.' :: rest => .ok rest
  | c :: _ => .error (.characterAfter part c)
  | [] => .error (.unexpectedEnd part)

/-! ## Identifiers -/

/-- The characters of an identifier. -/
def isIdentifier (c : Char) : Bool :=
  Text.isDigit c || ('a' ≤ c && c ≤ 'z') || ('A' ≤ c && c ≤ 'Z') || c == '-'

/-- The texts between dots. -/
def segments : List Char → List (List Char)
  | [] => [[]]
  | c :: cs =>
    match segments cs with
    | [] => [[c]]
    | s :: ss => if c = '.' then [] :: s :: ss else (c :: s) :: ss

/-- A segment of a pre-release: a number without superfluous zeros, or a name. -/
def readIdentifier (segment : List Char) : Except Fault Identifier :=
  match segment with
  | [] => .error (.emptySegment .pre)
  | c :: cs =>
    if segment.all Text.isDigit then
      if c = '0' ∧ cs ≠ [] then .error (.leadingZero .pre) else .ok (.number (valueOf segment))
    else .ok (.name (String.ofList segment))

/-- A segment of build metadata. -/
def readBuildSegment (segment : List Char) : Except Fault String :=
  if segment = [] then .error (.emptySegment .build) else .ok (String.ofList segment)

/-- The characters of identifiers and the dots between them. -/
def isDotted (c : Char) : Bool := isIdentifier c || c == '.'

/-- The segments behind a sign, each read on its own; none, if the sign is not there. -/
def readSegments {α : Type} (sign : Char) (read : List Char → Except Fault α) (cs : List Char) :
    Except Fault (List α × List Char) :=
  match cs with
  | [] => .ok ([], [])
  | c :: rest =>
    if c = sign then do
      pure (← (segments (rest.takeWhile isDotted)).mapM read, rest.dropWhile isDotted)
    else .ok ([], cs)

/-! ## Versions -/

/-- The part at which a version ends. -/
def lastPart (pre : Prerelease) (build : List String) : Part :=
  if !build.isEmpty then .build else if !pre.isEmpty then .pre else .patch

/-- Reads a version in the strict form. -/
def read (cs : List Char) : Except Fault Version := do
  if cs.isEmpty then throw .empty
  let (major, cs) ← readNumber .major cs
  let cs ← readDot .major cs
  let (minor, cs) ← readNumber .minor cs
  let cs ← readDot .minor cs
  let (patch, cs) ← readNumber .patch cs
  let (pre, cs) ← readSegments '-' readIdentifier cs
  let (build, cs) ← readSegments '+' readBuildSegment cs
  match cs with
  | [] => pure ⟨major, minor, patch, pre, build⟩
  | c :: _ => throw (.characterAfter (lastPart pre build) c)

/-! ## Versions as hosts report them -/

/-- Drops one leading `v`. -/
def dropMark : List Char → List Char
  | 'v' :: cs => cs
  | cs => cs

/-- Whether a character ends the numbers of a version. -/
def endsCore (c : Char) : Bool := c == '-' || c == '+'

/-- Adds zeros until there are three numbers. -/
def padCore (core : List Char) : List Char :=
  core ++ (List.replicate (2 - core.count '.') ['.', '0']).flatten

/-- The strict form of a loose version. -/
def normalForm (raw : List Char) : List Char :=
  let token := dropMark (Text.firstWord raw)
  padCore (token.takeWhile fun c => !endsCore c) ++ token.dropWhile fun c => !endsCore c

/-- Reads a version as a host reports it. -/
def readHost (raw : List Char) : Except Fault Version :=
  read (normalForm raw)

end Version
end LiteralPatch
