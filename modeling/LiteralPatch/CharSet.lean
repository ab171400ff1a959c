/-!
# Sets of characters

A character class of a pattern is a finite union of ranges of code points.  A set is kept as the
list of its ranges, and membership is read off that list, so a statement about a class is a
statement about finitely many comparisons.

## Why the operations need no invariant

`insert` joins a range to whatever it touches, and `remove` cuts a range out of every range that it
meets.  Both keep a list that is ascending and gap-separated in that form, which makes equal sets
equal lists; but neither *needs* the form for membership to come out right.  So the type carries no
proof, and each operation has one membership lemma (`contains_insert`, `contains_union`,
`contains_complement`, …) that holds of every list.
-/

namespace LiteralPatch

/-- A set of characters, as inclusive ranges of code points. -/
structure CharSet where
  ranges : List (Nat × Nat)
deriving DecidableEq, Repr, Inhabited

namespace CharSet

/-- Membership of a code point. -/
def contains (s : CharSet) (n : Nat) : Bool :=
  s.ranges.any fun r => r.1 ≤ n && n ≤ r.2

/-- Membership of a character. -/
def has (s : CharSet) (c : Char) : Bool :=
  s.contains c.toNat

def empty : CharSet := ⟨[]⟩

/-- The set of one code point. -/
def single (n : Nat) : CharSet := ⟨[(n, n)]⟩

/-- The set of one character. -/
def ofChar (c : Char) : CharSet := single c.toNat

/-- The code points from `lo` to `hi`, both included. -/
def interval (lo hi : Nat) : CharSet := ⟨if lo ≤ hi then [(lo, hi)] else []⟩

/-- The last code point of all. -/
def top : Nat := 0x10FFFF

/-- Every character. -/
def all : CharSet := interval 0 top

def isEmpty (s : CharSet) : Bool := s.ranges.isEmpty

/-! ## Adding a range -/

/-- Joins a range to the ranges that it overlaps or is adjacent to, and leaves the others.  An
inverted range of the list has no member and is dropped: joined, it would lend its ends. -/
def insertRange : Nat → Nat → List (Nat × Nat) → List (Nat × Nat)
  | lo, hi, [] => [(lo, hi)]
  | lo, hi, (a, b) :: rest =>
    if b < a then insertRange lo hi rest
    else if hi + 1 < a then (lo, hi) :: (a, b) :: rest
    else if b + 1 < lo then (a, b) :: insertRange lo hi rest
    else insertRange (min lo a) (max hi b) rest

/-- Adds every code point from `lo` to `hi`; an inverted range is empty and adds none. -/
def insert (s : CharSet) (lo hi : Nat) : CharSet :=
  ⟨if lo ≤ hi then insertRange lo hi s.ranges else s.ranges⟩

/-- The union.  The empty set is answered at once, since a table of hundreds of ranges is often
joined to it. -/
def union (s t : CharSet) : CharSet :=
  if s.isEmpty then t else t.ranges.foldl (fun acc r => acc.insert r.1 r.2) s

/-- The set of a list of ranges in any order. -/
def ofRanges (rs : List (Nat × Nat)) : CharSet :=
  rs.foldl (fun acc r => acc.insert r.1 r.2) empty

/-- The set of a list of code points. -/
def ofList (ns : List Nat) : CharSet :=
  ofRanges (ns.map fun n => (n, n))

/-! ## Taking a range away -/

/-- What is left of one range when the code points from `lo` to `hi` go. -/
def piece (lo hi : Nat) (r : Nat × Nat) : List (Nat × Nat) :=
  if hi < r.1 ∨ r.2 < lo then [r]
  else (if r.1 < lo then [(r.1, lo - 1)] else []) ++ (if hi < r.2 then [(hi + 1, r.2)] else [])

/-- The set without the code points from `lo` to `hi`. -/
def remove (s : CharSet) (lo hi : Nat) : CharSet :=
  ⟨s.ranges.flatMap (piece lo hi)⟩

/-- The members of `s` that are not in `t`. -/
def diff (s t : CharSet) : CharSet :=
  t.ranges.foldl (fun acc r => acc.remove r.1 r.2) s

/-- The code points up to `last` that are not in `s`. -/
def complementTo (s : CharSet) (last : Nat) : CharSet :=
  (interval 0 last).diff s

/-- Every character that is not in `s`. -/
def complement (s : CharSet) : CharSet :=
  s.complementTo top

/-- The common members. -/
def inter (s t : CharSet) : CharSet :=
  s.diff (s.diff t)

/-- The members of exactly one of the two. -/
def symmDiff (s t : CharSet) : CharSet :=
  (s.diff t).union (t.diff s)

/-- Whether every member lies below `bound`. -/
def below (s : CharSet) (bound : Nat) : Bool :=
  s.ranges.all fun r => r.2 < bound

/-! ## Membership after each operation -/

theorem contains_mk_cons (a b n : Nat) (rest : List (Nat × Nat)) :
    contains ⟨(a, b) :: rest⟩ n = true ↔ (a ≤ n ∧ n ≤ b) ∨ contains ⟨rest⟩ n = true := by
  simp [contains]

@[simp] theorem contains_empty (n : Nat) : empty.contains n = false := rfl

@[simp] theorem contains_single (m n : Nat) : (single m).contains n = true ↔ n = m := by
  simp only [single, contains, List.any_cons, List.any_nil, Bool.or_false, Bool.and_eq_true,
    decide_eq_true_eq]
  omega

theorem contains_interval (lo hi n : Nat) :
    (interval lo hi).contains n = true ↔ lo ≤ n ∧ n ≤ hi := by
  unfold interval contains
  split
  · simp
  · simp; omega

/-- **A joined range holds the old members and the new ones,** whatever the order of the list. -/
theorem contains_insertRange (lo hi n : Nat) (rs : List (Nat × Nat)) (h : lo ≤ hi) :
    contains ⟨insertRange lo hi rs⟩ n = true ↔ (lo ≤ n ∧ n ≤ hi) ∨ contains ⟨rs⟩ n = true := by
  induction rs generalizing lo hi with
  | nil => simp [insertRange, contains]
  | cons r rest ih =>
    obtain ⟨a, b⟩ := r
    unfold insertRange
    split
    · rw [ih lo hi h, contains_mk_cons]; grind
    · split
      · rw [contains_mk_cons]
      · split
        · rw [contains_mk_cons, ih lo hi h, contains_mk_cons]; grind
        · rw [ih (min lo a) (max hi b) (by omega), contains_mk_cons]; grind

theorem contains_insert (s : CharSet) (lo hi n : Nat) :
    (s.insert lo hi).contains n = true ↔ (lo ≤ n ∧ n ≤ hi) ∨ s.contains n = true := by
  unfold insert
  split
  · next h => exact contains_insertRange lo hi n s.ranges h
  · constructor
    · exact .inr
    · rintro (h | h)
      · omega
      · exact h

theorem contains_foldl_insert (rs : List (Nat × Nat)) (s : CharSet) (n : Nat) :
    (rs.foldl (fun acc r => acc.insert r.1 r.2) s).contains n = true
      ↔ s.contains n = true ∨ contains ⟨rs⟩ n = true := by
  induction rs generalizing s with
  | nil => simp [contains]
  | cons r rest ih =>
    rw [List.foldl_cons, ih, contains_insert, contains_mk_cons]
    grind

theorem contains_union (s t : CharSet) (n : Nat) :
    (s.union t).contains n = true ↔ s.contains n = true ∨ t.contains n = true := by
  unfold union
  split
  · next h =>
    have hs : s.contains n = false := by
      cases s; simp_all [isEmpty, contains]
    simp [hs]
  · exact contains_foldl_insert t.ranges s n

theorem contains_ofRanges (rs : List (Nat × Nat)) (n : Nat) :
    (ofRanges rs).contains n = true ↔ ∃ r ∈ rs, r.1 ≤ n ∧ n ≤ r.2 := by
  rw [ofRanges, contains_foldl_insert]
  simp [contains, empty]

theorem contains_ofList (ns : List Nat) (n : Nat) :
    (ofList ns).contains n = true ↔ n ∈ ns := by
  rw [ofList, contains_ofRanges]
  constructor
  · rintro ⟨r, hr, h⟩
    obtain ⟨m, hm, rfl⟩ := List.mem_map.1 hr
    obtain rfl : m = n := by simp only at h; omega
    exact hm
  · exact fun h => ⟨(n, n), List.mem_map.2 ⟨n, h, rfl⟩, Nat.le_refl n, Nat.le_refl n⟩

theorem contains_remove (s : CharSet) (lo hi n : Nat) :
    (s.remove lo hi).contains n = true ↔ s.contains n = true ∧ ¬ (lo ≤ n ∧ n ≤ hi) := by
  have key : ∀ r : Nat × Nat,
      (piece lo hi r).any (fun p => p.1 ≤ n && n ≤ p.2) = true
        ↔ (r.1 ≤ n ∧ n ≤ r.2) ∧ ¬ (lo ≤ n ∧ n ≤ hi) := by
    intro r
    unfold piece
    split
    · simp; omega
    · split <;> split <;> simp <;> omega
  unfold remove contains
  rw [List.any_flatMap]
  simp only [List.any_eq_true, key]
  grind

/-- **A difference holds the members of the first set that the second lacks.** -/
theorem contains_diff (s t : CharSet) (n : Nat) :
    (s.diff t).contains n = true ↔ s.contains n = true ∧ t.contains n = false := by
  obtain ⟨rs⟩ := t
  unfold diff
  simp only
  induction rs generalizing s with
  | nil => simp [contains]
  | cons r rest ih =>
    rw [List.foldl_cons, ih, contains_remove]
    have := contains_mk_cons r.1 r.2 n rest
    grind

theorem contains_complementTo (s : CharSet) (last n : Nat) :
    (s.complementTo last).contains n = true ↔ n ≤ last ∧ s.contains n = false := by
  rw [complementTo, contains_diff, contains_interval]
  simp

theorem toNat_le_top (c : Char) : c.toNat ≤ top := by
  have := c.valid
  simp only [UInt32.isValidChar, Nat.isValidChar] at this
  unfold top Char.toNat
  omega

/-- **A character is in the complement exactly when it is not in the set.** -/
theorem has_complement (s : CharSet) (c : Char) : s.complement.has c = !s.has c := by
  have h := contains_complementTo s top c.toNat
  have := toNat_le_top c
  unfold has complement
  cases hs : s.contains c.toNat <;> simp_all

theorem contains_inter (s t : CharSet) (n : Nat) :
    (s.inter t).contains n = true ↔ s.contains n = true ∧ t.contains n = true := by
  rw [inter, contains_diff]
  have := contains_diff s t n
  cases hs : s.contains n <;> cases ht : t.contains n <;> simp_all

theorem contains_symmDiff (s t : CharSet) (n : Nat) :
    (s.symmDiff t).contains n = true ↔ (s.contains n = true ↔ t.contains n = false) := by
  rw [symmDiff, contains_union, contains_diff, contains_diff]
  cases s.contains n <;> cases t.contains n <;> simp

@[simp] theorem has_ofChar (c d : Char) : (ofChar c).has d = true ↔ d = c := by
  rw [ofChar, has, contains_single]
  exact ⟨fun h => Char.toNat_inj.1 h, fun h => h ▸ rfl⟩

end CharSet
end LiteralPatch
