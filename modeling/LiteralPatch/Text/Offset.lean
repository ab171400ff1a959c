/-!
# Byte offsets in a text

Places in a text are counted in bytes of its UTF-8 form, while the text itself is read as a list of
characters.  `cut?` is the only bridge between the two: it divides a text at an offset, and fails
where the offset lies inside a character or behind the end.  Everything else about offsets is said
through it: an offset is a boundary when the text can be cut there, and a slice is what two cuts leave.
-/

namespace LiteralPatch
namespace Text

/-- The number of bytes of a run of characters. -/
def width : List Char → Nat
  | [] => 0
  | c :: cs => c.utf8Size + width cs

/-- Moves characters from `right` to `left` (which is reversed) until `n` bytes have moved. -/
def cutFrom : List Char → List Char → Nat → Option (List Char × List Char)
  | left, right, 0 => some (left.reverse, right)
  | left, c :: right, n + 1 =>
    if c.utf8Size ≤ n + 1 then cutFrom (c :: left) right (n + 1 - c.utf8Size) else none
  | _, [], _ + 1 => none

/-- The two parts of a text before and after a byte offset. -/
def cut? (cs : List Char) (offset : Nat) : Option (List Char × List Char) :=
  cutFrom [] cs offset

/-- Whether a character begins or the text ends at the offset. -/
def isBoundary (cs : List Char) (offset : Nat) : Bool :=
  (cut? cs offset).isSome

/-- The part of a text between two offsets. -/
def slice? (cs : List Char) (start stop : Nat) : Option (List Char) :=
  if start ≤ stop then
    match cut? cs start with
    | none => none
    | some (_, rest) => (cut? rest (stop - start)).map Prod.fst
  else none

/-! ## What a cut means -/

theorem width_append (l r : List Char) : width (l ++ r) = width l + width r := by
  induction l with
  | nil => simp [width]
  | cons c l ih => simp only [List.cons_append, width, ih]; omega

theorem width_pos {cs : List Char} (h : cs ≠ []) : 0 < width cs := by
  cases cs with
  | nil => exact absurd rfl h
  | cons c cs =>
    have := c.utf8Size_pos
    rw [width]
    omega

/-- Of two divisions of a text, the later one keeps what stands in front of the earlier one. -/
theorem exists_of_width_le {l l' r r' : List Char} (h : l ++ r = l' ++ r')
    (hle : width l ≤ width l') : ∃ m, l' = l ++ m ∧ r = m ++ r' := by
  rcases List.append_eq_append_iff.1 h with ⟨m, rfl, rfl⟩ | ⟨m, rfl, rfl⟩
  · exact ⟨m, rfl, rfl⟩
  · rw [width_append] at hle
    obtain rfl : m = [] := by
      refine Decidable.byContradiction fun hne => ?_
      have := width_pos hne
      omega
    exact ⟨[], by simp, rfl⟩

/-- A division of a text is known from the width of what stands in front. -/
theorem append_inj_of_width {l l' r r' : List Char} (h : l ++ r = l' ++ r')
    (hwidth : width l = width l') : l = l' ∧ r = r' := by
  obtain ⟨m, rfl, rfl⟩ := exists_of_width_le h (Nat.le_of_eq hwidth)
  obtain rfl : m = [] := by
    refine Decidable.byContradiction fun hne => ?_
    have hpos := width_pos hne
    rw [width_append] at hwidth
    omega
  exact ⟨(List.append_nil l).symm, rfl⟩

theorem cutFrom_eq_some {left cs l r : List Char} {n : Nat} (h : cutFrom left cs n = some (l, r)) :
    ∃ m, l = left.reverse ++ m ∧ cs = m ++ r ∧ width m = n := by
  induction cs generalizing left n with
  | nil =>
    cases n with
    | zero =>
      simp only [cutFrom, Option.some.injEq, Prod.mk.injEq] at h
      exact ⟨[], by simp [h.1], by simp [h.2], rfl⟩
    | succ n => simp [cutFrom] at h
  | cons c cs ih =>
    cases n with
    | zero =>
      simp only [cutFrom, Option.some.injEq, Prod.mk.injEq] at h
      exact ⟨[], by simp [h.1], by simp [h.2], rfl⟩
    | succ n =>
      unfold cutFrom at h
      split at h
      · next hc =>
        obtain ⟨m, rfl, rfl, hm⟩ := ih h
        exact ⟨c :: m, by simp, by simp, by simp only [width]; omega⟩
      · simp at h

theorem cutFrom_append (left m r : List Char) :
    cutFrom left (m ++ r) (width m) = some (left.reverse ++ m, r) := by
  induction m generalizing left with
  | nil => cases r <;> simp [cutFrom, width]
  | cons c m ih =>
    have hc := c.utf8Size_pos
    obtain ⟨k, hk⟩ : ∃ k, width (c :: m) = k + 1 := ⟨width (c :: m) - 1, by simp only [width]; omega⟩
    have hle : c.utf8Size ≤ k + 1 := by rw [← hk]; simp only [width]; omega
    have hsub : k + 1 - c.utf8Size = width m := by rw [← hk]; simp only [width]; omega
    rw [hk, List.cons_append, cutFrom, if_pos hle, hsub, ih]
    simp

/-- **A text is cut at an offset exactly where its first part has that many bytes.** -/
theorem cut?_eq_some_iff {cs l r : List Char} {n : Nat} :
    cut? cs n = some (l, r) ↔ cs = l ++ r ∧ width l = n := by
  constructor
  · intro h
    obtain ⟨m, rfl, rfl, hm⟩ := cutFrom_eq_some h
    exact ⟨by simp, by simpa using hm⟩
  · rintro ⟨rfl, rfl⟩
    simpa [cut?] using cutFrom_append [] l r

theorem isBoundary_iff {cs : List Char} {n : Nat} :
    isBoundary cs n = true ↔ ∃ l r, cs = l ++ r ∧ width l = n := by
  simp only [isBoundary, Option.isSome_iff_exists, Prod.exists, cut?_eq_some_iff]

/-- **A slice is what stands between its two offsets.** -/
theorem slice?_eq_some_iff {cs m : List Char} {a b : Nat} :
    slice? cs a b = some m ↔ ∃ l r, cs = l ++ m ++ r ∧ width l = a ∧ width l + width m = b := by
  unfold slice?
  constructor
  · intro h
    split at h
    · next hab =>
      split at h
      · simp at h
      · next l rest hcut =>
        obtain ⟨rfl, hl⟩ := cut?_eq_some_iff.1 hcut
        obtain ⟨p, hp, rfl⟩ := Option.map_eq_some_iff.1 h
        obtain ⟨rfl, hm⟩ := cut?_eq_some_iff.1 hp
        exact ⟨l, p.2, by simp, hl, by omega⟩
    · simp at h
  · rintro ⟨l, r, rfl, hl, hb⟩
    have h1 : cut? (l ++ m ++ r) a = some (l, m ++ r) :=
      cut?_eq_some_iff.2 ⟨by simp, hl⟩
    have h2 : cut? (m ++ r) (b - a) = some (m, r) :=
      cut?_eq_some_iff.2 ⟨rfl, by omega⟩
    rw [if_pos (show a ≤ b by omega), h1]
    simp [h2]

end Text
end LiteralPatch
