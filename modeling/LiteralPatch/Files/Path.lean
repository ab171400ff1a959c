/-!
# Paths

A path is a text, and is shown as it was written.  What it denotes depends on a file system; this
module only takes a path apart and puts paths together.  Components are separated by slashes; an empty
component and a single dot mean nothing, except that at the end of a path they say that a directory is
meant.
-/

namespace LiteralPatch

/-- A path as it was written. -/
structure Path where
  text : String
deriving DecidableEq, Repr, Inhabited

namespace Path

/-- The texts between the slashes. -/
def pieces : List Char → List (List Char)
  | [] => [[]]
  | c :: cs =>
    match pieces cs with
    | [] => [[c]]
    | p :: ps => if c = '/' then [] :: p :: ps else (c :: p) :: ps

/-- The pieces of a path, which may be empty. -/
def rawParts (p : Path) : List String :=
  (pieces p.text.toList).map String.ofList

/-- Whether a piece names anything. -/
def names (part : String) : Bool :=
  part ≠ "" && part ≠ "."

/-- The components of a path. -/
def parts (p : Path) : List String :=
  p.rawParts.filter names

/-- Whether the path starts at the root rather than at the working directory. -/
def isAbsolute (p : Path) : Bool :=
  p.text.toList.head? == some '/'

/-- Whether the last component is a single or a double dot. -/
def endsInDots (p : Path) : Bool :=
  p.rawParts.getLast? == some "." || p.rawParts.getLast? == some ".."

/-- Whether the path can only mean a directory. -/
def meansDirectory (p : Path) : Bool :=
  match p.rawParts.getLast? with
  | some part => !names part || part == ".."
  | none => false

/-- The path with text added to its last component. -/
def append (p : Path) (suffix : String) : Path :=
  ⟨p.text ++ suffix⟩

/-- A path below a directory. -/
def child (p : Path) (rest : String) : Path :=
  if p.text = "" ∨ p.text.toList.getLast? = some '/' then ⟨p.text ++ rest⟩
  else ⟨p.text ++ "/" ++ rest⟩

/-- Drops leading pieces that name nothing. -/
def dropUnnamed (parts : List String) : List String :=
  parts.dropWhile fun part => !names part

/-- What follows a first component that is a tilde. -/
def afterTilde? (p : Path) : Option String :=
  match p.rawParts with
  | "~" :: rest =>
    some (String.intercalate "/" (dropUnnamed (dropUnnamed rest).reverse).reverse)
  | _ => none

/-- The path with a leading tilde replaced by the home directory. -/
def expandHome (home : Option String) (p : Path) : Path :=
  match home, p.afterTilde? with
  | some home, some rest => (⟨home⟩ : Path).child rest
  | _, _ => p

/-! ## File names -/

/-- The part of a file name behind its last dot, unless the dot is its first character. -/
def extension? (name : String) : Option String :=
  let backwards := name.toList.reverse
  match backwards.dropWhile (· ≠ '.') with
  | [] => none
  | [_] => none
  | _ :: _ => some (String.ofList (backwards.takeWhile (· ≠ '.')).reverse)

end Path
end LiteralPatch
