import LiteralPatch.Proofs.Edit.Overlap
import LiteralPatch.Proofs.Rule.Walk
import Mathlib.Data.List.Chain

/-!
# When the changes of a rule are refused

The changes of a rule stand where they say, one behind the other, so as edits they are valid, whatever the
length of the old values and the way in which these are remembered.  What is left is the check for overlaps,
and it can only fail at a tie: an empty value, and right behind it, so at the same place, a value that is not
empty (`Walk.applyAll_error_iff`).

Ties are looked for between neighbours only.  This is enough, since a value that begins where an earlier one
begins leaves no room between the two: all values in between are empty and at that place.
-/

namespace LiteralPatch

/-- Two consecutive changes begin at one place, and the second one is not of an empty text. -/
def Tied (chs : List Change) : Prop :=
  ∃ front a b back, chs = front ++ a :: b :: back ∧ a.span.start = b.span.start ∧
    b.span.isEmpty = false

/-- The change `b` stands behind `a` without a tie. -/
structure Follows (a b : Change) : Prop where
  ordered : a.span.start ≤ a.span.stop ∧ a.span.stop ≤ b.span.start ∧ b.span.start ≤ b.span.stop
  untied : a.span.start = b.span.start → b.span.isEmpty = true

theorem Follows.trans {a b c : Change} (hab : Follows a b) (hbc : Follows b c) : Follows a c := by
  have hfirst := hab.ordered
  have hsecond := hbc.ordered
  refine ⟨by omega, fun heq => hbc.untied ?_⟩
  omega

instance : Trans Follows Follows Follows := ⟨Follows.trans⟩

namespace Walk

variable {l r r' : List Char} {chs : List Change}

theorem pairwise_ordered (h : Walk l r chs r') : chs.Pairwise fun a b =>
    a.span.start ≤ a.span.stop ∧ a.span.stop ≤ b.span.start ∧ b.span.start ≤ b.span.stop :=
  h.pairwise.imp_of_mem fun ha hb hab =>
    ⟨(h.width_le_start _ ha).2, hab, (h.width_le_start _ hb).2⟩

/-- **Edits that stand one behind the other clash at ties only.** -/
theorem pairwise_clash_iff (h : Walk l r chs r') :
    ((chs.map Rule.edit).Pairwise fun a b => ¬ Edit.Clash a b) ↔ ¬ Tied chs := by
  have hclash : ∀ {a b : Change}, (a.span.start ≤ a.span.stop ∧ a.span.stop ≤ b.span.start ∧
      b.span.start ≤ b.span.stop) → (¬ Edit.Clash (Rule.edit a) (Rule.edit b) ↔ Follows a b) := by
    intro a b hordered
    have hspans : Edit.Clash (Rule.edit a) (Rule.edit b) ↔
        a.span.start = b.span.start ∧ ¬ b.span.stop ≤ b.span.start := by
      unfold Edit.Clash Edit.IsInsertion Span.Overlap Rule.edit Edit.replacing
      simp only
      omega
    rw [hspans, not_and, not_not]
    constructor
    · exact fun huntied => ⟨hordered, fun heq => Span.isEmpty_iff.2 (huntied heq)⟩
    · exact fun hfollows heq => Span.isEmpty_iff.1 (hfollows.untied heq)
  calc ((chs.map Rule.edit).Pairwise fun a b => ¬ Edit.Clash a b)
      ↔ chs.Pairwise Follows := by
        rw [List.pairwise_map]
        constructor
        · exact fun hpair => (hpair.and h.pairwise_ordered).imp fun hab => (hclash hab.2).1 hab.1
        · exact fun hpair => (hpair.and h.pairwise_ordered).imp fun hab => (hclash hab.2).2 hab.1
    _ ↔ chs.IsChain Follows := List.isChain_iff_pairwise.symm
    _ ↔ ∀ a b front back, chs = front ++ a :: b :: back → Follows a b :=
        List.isChain_iff_forall_rel_of_append_cons_cons
    _ ↔ ¬ Tied chs := by
        constructor
        · rintro hfollows ⟨front, a, b, back, hsplit, hstart, hnonempty⟩
          have hempty := (hfollows a b front back hsplit).untied hstart
          rw [hempty] at hnonempty
          cases hnonempty
        · intro htied a b front back hsplit
          have hordered := h.pairwise_ordered
          rw [hsplit] at hordered
          refine ⟨List.rel_of_pairwise_cons (List.pairwise_append.1 hordered).2.1 List.mem_cons_self,
            fun hstart => ?_⟩
          by_contra hnonempty
          exact htied ⟨front, a, b, back, hsplit, hstart, Bool.eq_false_iff.2 hnonempty⟩

/-- **Changes that stand one behind the other are refused exactly at a tie,** and then for an overlap. -/
theorem applyAll_error_iff {text : String} {out : List Char} (h : Walk [] text.toList chs out) :
    (Tied chs → ∃ s t, Edit.applyAll text (chs.map Rule.edit) = .error (.overlap s t)) ∧
      (¬ Tied chs → ∃ made, Edit.applyAll text (chs.map Rule.edit) = .ok made) := by
  have hvalid : ∀ e ∈ chs.map Rule.edit, e.validate text.toList = .ok () := h.validate
  obtain ⟨hrefused, hmade⟩ := Edit.applyAll_overlap_iff hvalid
  rw [h.pairwise_clash_iff] at hrefused hmade
  exact ⟨fun htied => hrefused.2 (not_not.2 htied), hmade.2⟩

/-- Changes none of which is of an empty text are not tied. -/
theorem not_tied (h : Walk l r chs r') (hne : ∀ ch ∈ chs, ch.span.start < ch.span.stop) :
    ¬ Tied chs := by
  rintro ⟨front, a, b, back, rfl, hstart, -⟩
  have hbehind := List.rel_of_pairwise_cons (List.pairwise_append.1 h.pairwise).2.1 List.mem_cons_self
  have hlong := hne a (by simp)
  omega

end Walk
end LiteralPatch
