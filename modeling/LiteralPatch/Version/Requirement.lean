import LiteralPatch.Version.Reader

/-!
# Version requirements

A requirement is a list of comparators that a version has to satisfy all together.  A comparator may
leave out the later numbers of its triple; what that means depends on the operator.

A version with a pre-release satisfies a requirement only if one of the comparators names a pre-release
of the same triple: nobody gets a pre-release who has not asked for one.
-/

namespace LiteralPatch

namespace Requirement

/-- How a version is compared. -/
inductive Operator where
  | exact
  | greater
  | atLeast
  | less
  | atMost
  | tilde
  | caret
  | wildcard
deriving DecidableEq, Repr

/-- One condition on a version.  Without a minor number there is no patch number, and without a patch
number no pre-release. -/
structure Comparator where
  operator : Operator
  major : Nat
  minor : Option Nat
  patch : Option Nat
  pre : Prerelease
deriving DecidableEq, Repr

end Requirement

/-- Conditions that a version has to satisfy together. -/
structure Requirement where
  comparators : List Requirement.Comparator
deriving DecidableEq, Repr

namespace Requirement

/-! ## Reading -/

open Version (Fault Part)

/-- The most comparators that a requirement may have. -/
def maxComparators : Nat := 32

/-- Only the space is skipped. -/
def dropSpaces (cs : List Char) : List Char := cs.dropWhile (· == ' ')

/-- The ways to write a wildcard. -/
def isWildcard (c : Char) : Bool := c == '*' || c == 'x' || c == 'X'

/-- The operator in front of a comparator, if one is written. -/
def readOperator : List Char → Option Operator × List Char
  | '=' :: cs => (some .exact, cs)
  | '>' :: '=' :: cs => (some .atLeast, cs)
  | '>' :: cs => (some .greater, cs)
  | '<' :: '=' :: cs => (some .atMost, cs)
  | '<' :: cs => (some .less, cs)
  | '~' :: cs => (some .tilde, cs)
  | '^' :: cs => (some .caret, cs)
  | cs => (none, cs)

/-- A number that is left out, written as a wildcard, or given. -/
inductive Component where
  | absent
  | any
  | number (n : Nat)
deriving DecidableEq, Repr

namespace Component

def value? : Component → Option Nat
  | number n => some n
  | absent => none
  | any => none

end Component

/-- A dot and a number or a wildcard behind it, if the dot is there. -/
def readComponent (part : Part) : List Char → Except Fault (Component × List Char)
  | '.' :: c :: cs =>
    if isWildcard c then .ok (.any, cs)
    else (Version.readNumber part (c :: cs)).map fun (n, rest) => (.number n, rest)
  | ['.'] => .error (.unexpectedEnd part)
  | cs => .ok (.absent, cs)

/-- The same for the patch number: behind a wildcard there may only be another one. -/
def readPatch (minor : Component) (cs : List Char) :
    Except Fault (Component × List Char) :=
  match minor, cs with
  | .any, '.' :: c :: cs => if isWildcard c then .ok (.any, cs) else .error .characterAfterWildcard
  | .any, ['.'] => .error .characterAfterWildcard
  | _, cs => readComponent .patch cs

/-- The operator of a comparator without one. -/
def defaultOperator (minor patch : Component) : Operator :=
  if minor = .any ∨ patch = .any then .wildcard else .caret

/-- The last part of a comparator that was read. -/
def lastPart (minor patch : Component) (pre : Prerelease) (build : List String) : Part :=
  if !build.isEmpty then .build
  else if !pre.isEmpty then .pre
  else if patch ≠ .absent then .patch
  else if minor ≠ .absent then .minor
  else .major

/-- A pre-release and build metadata, which need a patch number before them. -/
def readSuffix (patch : Component) (cs : List Char) :
    Except Fault ((Prerelease × List String) × List Char) :=
  match patch with
  | .number _ => do
    let (pre, cs) ← Version.readSegments '-' Version.readIdentifier cs
    let (build, cs) ← Version.readSegments '+' Version.readBuildSegment cs
    pure ((pre, build), cs)
  | _ => .ok (([], []), cs)

/-- One comparator, with the part that it ends with. -/
def readComparator (cs : List Char) :
    Except Fault ((Comparator × Part) × List Char) := do
  let (operator, cs) := readOperator cs
  let (major, cs) ← Version.readNumber .major (dropSpaces cs)
  let (minor, cs) ← readComponent .minor cs
  let (patch, cs) ← readPatch minor cs
  let ((pre, build), cs) ← readSuffix patch cs
  let comparator : Comparator :=
    ⟨operator.getD (defaultOperator minor patch), major, minor.value?, patch.value?, pre⟩
  pure ((comparator, lastPart minor patch pre build), dropSpaces cs)

/-- The fault of a comparator; one that is a wildcard and nothing else has a fault of its own. -/
def comparatorFault (cs : List Char) (fault : Fault) : Fault :=
  match cs with
  | [] => fault
  | c :: rest =>
    if isWildcard c then
      match dropSpaces rest with
      | [] => .wildcardNotAlone c
      | ',' :: _ => .wildcardNotAlone c
      | _ => fault
    else fault

/-- At most `count` comparators, separated by commas. -/
def readComparators : Nat → List Char → Except Fault (List Comparator)
  | 0, _ => .error .tooManyComparators
  | count + 1, cs =>
    match readComparator cs with
    | .error fault => .error (comparatorFault cs fault)
    | .ok ((comparator, _), []) => .ok [comparator]
    | .ok ((comparator, part), c :: rest) =>
      if c = ',' then (readComparators count (dropSpaces rest)).map (comparator :: ·)
      else .error (.commaExpected part c)

/-- Reads a requirement; a single wildcard requires nothing. -/
def read (cs : List Char) : Except Fault Requirement :=
  match dropSpaces cs with
  | [] => (readComparators maxComparators []).map Requirement.mk
  | c :: rest =>
    if isWildcard c then
      match dropSpaces rest with
      | [] => .ok ⟨[]⟩
      | ',' :: _ => .error (.wildcardNotAlone c)
      | _ => .error .characterAfterWildcard
    else (readComparators maxComparators (c :: rest)).map Requirement.mk

/-! ## Matching -/

namespace Comparator

/-- Whether the numbers that are given, and the pre-release, are those of the version. -/
def isExact (c : Comparator) (v : Version) : Bool :=
  v.major == c.major && (c.minor.map (v.minor == ·)).getD true &&
    (c.patch.map (v.patch == ·)).getD true && v.pre == c.pre

/-- Whether the version comes after every version that the comparator stands for. -/
def isGreater (c : Comparator) (v : Version) : Bool :=
  if v.major ≠ c.major then c.major < v.major
  else
    match c.minor with
    | none => false
    | some minor =>
      if v.minor ≠ minor then minor < v.minor
      else
        match c.patch with
        | none => false
        | some patch =>
          if v.patch ≠ patch then patch < v.patch else v.pre.order c.pre == .gt

/-- Whether the version comes before every version that the comparator stands for. -/
def isLess (c : Comparator) (v : Version) : Bool :=
  if v.major ≠ c.major then v.major < c.major
  else
    match c.minor with
    | none => false
    | some minor =>
      if v.minor ≠ minor then v.minor < minor
      else
        match c.patch with
        | none => false
        | some patch =>
          if v.patch ≠ patch then v.patch < patch else v.pre.order c.pre == .lt

/-- Whether the version is the one that is given or a later patch of it. -/
def isTilde (c : Comparator) (v : Version) : Bool :=
  v.major == c.major && (c.minor.map (v.minor == ·)).getD true &&
    match c.patch with
    | some patch =>
      if v.patch ≠ patch then patch < v.patch else (v.pre.order c.pre).isGE
    | none => (v.pre.order c.pre).isGE

/-- Whether the version is compatible with the one that is given: not earlier, and the same up to the
first number that is not zero. -/
def isCaret (c : Comparator) (v : Version) : Bool :=
  if v.major ≠ c.major then false
  else
    match c.minor, c.patch with
    | none, _ => true
    | some minor, none => if 0 < c.major then minor ≤ v.minor else v.minor == minor
    | some minor, some patch =>
      if v.minor = minor ∧ v.patch = patch then (v.pre.order c.pre).isGE
      else if 0 < c.major then
        if v.minor ≠ minor then minor < v.minor else patch < v.patch
      else if 0 < minor then v.minor == minor && patch < v.patch
      else false

/-- Whether a version satisfies the comparator, its pre-release aside. -/
def accepts (c : Comparator) (v : Version) : Bool :=
  match c.operator with
  | .exact => c.isExact v
  | .wildcard => c.isExact v
  | .greater => c.isGreater v
  | .atLeast => c.isExact v || c.isGreater v
  | .less => c.isLess v
  | .atMost => c.isExact v || c.isLess v
  | .tilde => c.isTilde v
  | .caret => c.isCaret v

/-- Whether the comparator asks for pre-releases of the version's triple. -/
def asksForPre (c : Comparator) (v : Version) : Bool :=
  c.major == v.major && c.minor == some v.minor && c.patch == some v.patch && !c.pre.isEmpty

end Comparator

/-- Whether a version satisfies a requirement. -/
def accepts (r : Requirement) (v : Version) : Bool :=
  r.comparators.all (·.accepts v) && (v.pre.isEmpty || r.comparators.any (·.asksForPre v))

end Requirement

/-! ## The gate -/

/-- Why a host version cannot be compared with a requirement. -/
inductive VersionError where
  | invalidVersion (raw : String) (fault : Version.Fault)
  | invalidRequirement (text : String) (fault : Version.Fault)
deriving DecidableEq, Repr

namespace VersionError

def message : VersionError → String
  | invalidVersion raw fault => "invalid host version '" ++ raw ++ "': " ++ fault.message
  | invalidRequirement text fault =>
    "invalid version requirement '" ++ text ++ "': " ++ fault.message

end VersionError

namespace Version

/-- The version that a host reports. -/
def ofHost (raw : String) : Except VersionError Version :=
  (readHost raw.toList).mapError (.invalidVersion raw)

/-- Whether the version that a host reports satisfies a requirement; a requirement that is missing or
blank is satisfied by anything, also by what is no version. -/
def satisfies (raw : String) (requirement : Option String) : Except VersionError Bool :=
  match requirement.map Text.trimmed with
  | none => .ok true
  | some "" => .ok true
  | some text => do
    let v ← ofHost raw
    let r ← (Requirement.read text.toList).mapError (.invalidRequirement text)
    pure (r.accepts v)

end Version
end LiteralPatch
