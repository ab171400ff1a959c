import LiteralPatch.Text.Offset

/-!
# Spans

A span is a half-open range of byte offsets.  Nothing keeps its ends in order or inside a text: spans
arrive from outside, and `fits` says which of them denote a part of a given text.
-/

namespace LiteralPatch

/-- The byte range from `start` up to, and without, `stop`. -/
structure Span where
  start : Nat
  stop : Nat
deriving DecidableEq, Repr, Inhabited

namespace Span

/-- The number of bytes; none, if the ends are in the wrong order. -/
def length (s : Span) : Nat := s.stop - s.start

def isEmpty (s : Span) : Bool := s.length == 0

theorem isEmpty_iff {s : Span} : s.isEmpty = true ↔ s.stop ≤ s.start := by
  simp only [isEmpty, length, beq_iff_eq, Nat.sub_eq_zero_iff_le]

/-- Whether the span denotes a part of the text: its ends are in order and lie at boundaries. -/
def fits (s : Span) (text : List Char) : Bool :=
  s.start ≤ s.stop && Text.isBoundary text s.start && Text.isBoundary text s.stop

/-- The part of a text that the span denotes. -/
def slice? (s : Span) (text : List Char) : Option (List Char) :=
  Text.slice? text s.start s.stop

/-- **A span that fits divides the text into what stands before it, in it and behind it.** -/
theorem fits_iff {s : Span} {text : List Char} :
    s.fits text = true ↔
      ∃ a b c, text = a ++ b ++ c ∧ s = ⟨Text.width a, Text.width (a ++ b)⟩ := by
  simp only [fits, Bool.and_eq_true, decide_eq_true_eq, Text.isBoundary_iff]
  constructor
  · rintro ⟨⟨hle, a, r, rfl, ha⟩, l, c, hc, hl⟩
    obtain ⟨b, rfl, rfl⟩ := Text.exists_of_width_le hc (by omega)
    exact ⟨a, b, c, by simp, by rw [ha, hl]⟩
  · rintro ⟨a, b, c, rfl, rfl⟩
    refine ⟨⟨?_, a, b ++ c, by simp, rfl⟩, a ++ b, c, rfl, rfl⟩
    rw [Text.width_append]
    exact Nat.le_add_right _ _

theorem slice?_parts (a b c : List Char) :
    slice? ⟨Text.width a, Text.width (a ++ b)⟩ (a ++ b ++ c) = some b :=
  Text.slice?_eq_some_iff.2 ⟨a, c, rfl, rfl, (Text.width_append a b).symm⟩

/-- The span as half-open interval. -/
def message (s : Span) : String :=
  "[" ++ toString s.start ++ ", " ++ toString s.stop ++ ")"

/-- Two spans overlap unless one ends before the other begins; they may touch. -/
def Overlap (a b : Span) : Prop :=
  ¬ (a.stop ≤ b.start ∨ b.stop ≤ a.start)

instance (a b : Span) : Decidable (Overlap a b) :=
  inferInstanceAs (Decidable (¬ _))

theorem overlap_comm {a b : Span} : a.Overlap b ↔ b.Overlap a := by
  unfold Overlap
  rw [Or.comm]

end Span
end LiteralPatch
