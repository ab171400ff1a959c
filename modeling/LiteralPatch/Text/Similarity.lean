/-!
# Similarity of names

The measure of Jaro, with Winkler's bonus for a common beginning: 1 for equal texts, 0 for texts without
a common character.  Two characters match if they are equal and not too far apart, and every character
is matched once, to the leftmost one that is free.
-/

namespace LiteralPatch
namespace Text
namespace Similarity

/-- How far apart matching characters may be. -/
def window (a b : List Char) : Nat :=
  max a.length b.length / 2 - 1

/-- Takes the first free character equal to `c` whose place lies between `lo` and `hi`: the characters
with their marks afterwards, if there is one. -/
def take? (c : Char) (lo hi : Nat) : Nat → List (Char × Bool) → Option (List (Char × Bool))
  | _, [] => none
  | i, (d, taken) :: rest =>
    if lo ≤ i ∧ i ≤ hi ∧ c = d ∧ !taken then some ((d, true) :: rest)
    else (take? c lo hi (i + 1) rest).map ((d, taken) :: ·)

/-- The characters of `a`, from place `i` on, that match, and the marks of `b` afterwards. -/
def matched (reach : Nat) : Nat → List Char → List (Char × Bool) → List Char × List (Char × Bool)
  | _, [], b => ([], b)
  | i, c :: a, b =>
    match take? c (i - reach) (i + reach) 0 b with
    | some b =>
      let (found, b) := matched reach (i + 1) a b
      (c :: found, b)
    | none => matched reach (i + 1) a b

/-- The measure of Jaro. -/
def jaro (a b : List Char) : Float :=
  if a.isEmpty && b.isEmpty then 1
  else
    let (left, marks) := matched (window a b) 0 a (b.map (·, false))
    let right := (marks.filter Prod.snd).map Prod.fst
    let swapped := (left.zip right).countP fun p => p.1 ≠ p.2
    let count := left.length
    if count = 0 then 0
    else
      let whole := count.toFloat
      (whole / a.length.toFloat + whole / b.length.toFloat +
        (count - swapped / 2).toFloat / whole) / 3

/-- The number of characters, up to four, that both texts begin with. -/
def commonStart (a b : List Char) : Nat :=
  (((a.take 4).zip b).takeWhile fun p => p.1 = p.2).length

/-- The measure with the bonus, which only texts that are alike anyway receive. -/
def jaroWinkler (a b : List Char) : Float :=
  let alike := jaro a b
  if 0.7 < alike then alike + 0.1 * (commonStart a b).toFloat * (1 - alike) else alike

end Similarity
end Text
end LiteralPatch
