/-!
# Versions

A version is a triple of numbers, perhaps with a pre-release and with build metadata.  Two versions of
one triple are ordered by their pre-releases: a release comes after all of them, and of two pre-releases
the identifiers are compared one by one, numbers before names.  Build metadata do not count.
-/

namespace LiteralPatch

/-- One part of a pre-release: a number, or a name that is none. -/
inductive Identifier where
  | number (n : Nat)
  | name (s : String)
deriving DecidableEq, Repr

namespace Identifier

def text : Identifier → String
  | number n => toString n
  | name s => s

/-- Numbers come before names; names are in the order of their characters. -/
def order : Identifier → Identifier → Ordering
  | number m, number n => compare m n
  | number _, name _ => .lt
  | name _, number _ => .gt
  | name s, name t => compare s t

end Identifier

/-- A pre-release; the empty one stands for a release. -/
abbrev Prerelease := List Identifier

namespace Prerelease

/-- Compares identifiers one by one; of two lists that begin alike the shorter comes first. -/
def orderFrom : Prerelease → Prerelease → Ordering
  | [], [] => .eq
  | [], _ :: _ => .lt
  | _ :: _, [] => .gt
  | a :: as, b :: bs => (a.order b).then (orderFrom as bs)

/-- The order of pre-releases; a release is the last. -/
def order : Prerelease → Prerelease → Ordering
  | [], [] => .eq
  | [], _ :: _ => .gt
  | _ :: _, [] => .lt
  | a, b => orderFrom a b

def text (p : Prerelease) : String :=
  String.intercalate "." (p.map Identifier.text)

end Prerelease

/-- A version. -/
structure Version where
  major : Nat
  minor : Nat
  patch : Nat
  pre : Prerelease
  build : List String
deriving DecidableEq, Repr

namespace Version

def buildText (v : Version) : String :=
  String.intercalate "." v.build

/-- The version as text. -/
def text (v : Version) : String :=
  toString v.major ++ "." ++ toString v.minor ++ "." ++ toString v.patch ++
    (if v.pre.isEmpty then "" else "-" ++ v.pre.text) ++
    (if v.build.isEmpty then "" else "+" ++ v.buildText)

end Version
end LiteralPatch
