import LiteralPatch.Proofs.Edit.Splicing
import LiteralPatch.Proofs.Rule.Found
import LiteralPatch.Patch

/-!
# What comes of a batch of edits

A rule hands its changes to the verified edits as a batch.  Its changes stand one behind the other in the
text, so there is one walk along the text from left to right in which every old value is replaced and
everything else is copied: `Walk l r chs r'` says that it leads from `r`, which stands behind `l`, to `r'`.
If a batch of such edits is accepted, its result is that of the walk (`Walk.eq_of_applyAll`).

The edits are carried out from the right, and the walk goes from the left; the induction is on the walk,
for any text on its left, so that what is left to splice is always the rest of a text already spliced.

Old values may be empty, and then several edits may begin at one place.  Such edits are told apart by
nothing, since a rule brings in the same text everywhere, and so the order in which sorting leaves them does
not matter (`descending_of_overlap?`).
-/

namespace LiteralPatch

/-- The changes lead from `r` behind `l` to `r'`: each stands where it says, one behind the other. -/
inductive Walk : List Char → List Char → List Change → List Char → Prop where
  | none {l r : List Char} : Walk l r [] r
  | next {l a b c c' : List Char} {ch : Change} {chs : List Change}
    (hspan : ch.span = ⟨Text.width (l ++ a), Text.width (l ++ a ++ b)⟩)
    (hold : ch.oldValue = String.ofList b) (hrest : Walk (l ++ a ++ b) c chs c') :
    Walk l (a ++ b ++ c) (ch :: chs) (a ++ ch.newValue.toList ++ c')

namespace Walk

variable {l r r' : List Char} {chs : List Change}

/-- The changes stand behind `l`, and each span has its ends in order. -/
theorem width_le_start (h : Walk l r chs r') :
    ∀ ch ∈ chs, Text.width l ≤ ch.span.start ∧ ch.span.start ≤ ch.span.stop := by
  induction h with
  | none => exact fun ch hch => nomatch hch
  | @next l a b c c' ch chs hspan _ _ ih =>
    intro x hx
    have hla := Text.width_append l a
    have hlab := Text.width_append (l ++ a) b
    rcases List.mem_cons.1 hx with rfl | hx
    · rw [hspan]
      exact ⟨by simp only; omega, by simp only; omega⟩
    · have := ih x hx
      omega

/-- Every change ends before the next begins. -/
theorem pairwise (h : Walk l r chs r') :
    chs.Pairwise fun a b => a.span.stop ≤ b.span.start := by
  induction h with
  | none => exact .nil
  | next hspan _ hrest ih =>
    refine .cons (fun ch hch => ?_) ih
    have hstart := (hrest.width_le_start ch hch).1
    rw [hspan]
    exact hstart

/-- **Every old value is what stands at its span.** -/
theorem slice? (h : Walk l r chs r') :
    ∀ ch ∈ chs, ch.span.slice? (l ++ r) = some ch.oldValue.toList := by
  induction h with
  | none => exact fun ch hch => nomatch hch
  | @next l a b c c' ch chs hspan hold _ ih =>
    intro x hx
    rcases List.mem_cons.1 hx with rfl | hx
    · rw [hold, String.toList_ofList, Span.slice?, hspan]
      exact Text.slice?_eq_some_iff.2 ⟨l ++ a, c, by simp, rfl, (Text.width_append _ _).symm⟩
    · simpa using ih x hx

theorem validate (h : Walk l r chs r') :
    ∀ e ∈ chs.map Rule.edit, e.validate (l ++ r) = .ok () := by
  induction h with
  | none => exact fun e he => nomatch he
  | @next l a b c c' ch chs hspan hold hrest ih =>
    intro e he
    rw [← List.append_assoc, ← List.append_assoc]
    rcases List.mem_cons.1 he with rfl | he
    · rw [Rule.edit, hspan, hold]
      exact Edit.validate_replacing (l ++ a) b c ch.newValue
    · exact ih e he

theorem spliceAll (h : Walk l r chs r') :
    Edit.spliceAll (l ++ r) (chs.map Rule.edit).reverse = .ok (l ++ r') := by
  induction h with
  | none => rfl
  | @next l a b c c' ch chs hspan hold hrest ih =>
    rw [← List.append_assoc, ← List.append_assoc, List.map_cons, List.reverse_cons,
      Edit.spliceAll_append ih, Edit.spliceAll, Rule.edit, hspan, hold,
      Edit.splice?_replacing (l ++ a) b c' ch.newValue]
    simp only [Edit.spliceAll, List.append_assoc]

/-- **What a batch leads to is where the walk leads,** if the batch is accepted and brings in one text. -/
theorem eq_of_applyAll {text out new : String} (h : Walk [] text.toList chs r')
    (hnew : ∀ ch ∈ chs, ch.newValue = new)
    (hok : Edit.applyAll text (chs.map Rule.edit) = .ok out) : out.toList = r' := by
  obtain ⟨hchecked, hsplice⟩ := Edit.applyAll_eq_ok_iff.1 hok
  have hdescending : Edit.descending (chs.map Rule.edit) = (chs.map Rule.edit).reverse := by
    refine Edit.descending_of_overlap? hchecked.apart ?_ ?_ ?_
    · intro e he
      obtain ⟨ch, hch, rfl⟩ := List.mem_map.1 he
      exact (h.width_le_start ch hch).2
    · exact List.pairwise_map.2 h.pairwise
    · -- of one span there is one old value
      intro a ha b hb hspan
      obtain ⟨ch, hch, rfl⟩ := List.mem_map.1 ha
      obtain ⟨ch', hch', rfl⟩ := List.mem_map.1 hb
      have hspans : ch.span = ch'.span := hspan
      have hold : ch.oldValue.toList = ch'.oldValue.toList := by
        refine Option.some.inj ?_
        rw [← h.slice? ch hch, ← h.slice? ch' hch', hspans]
      rw [Rule.edit, Rule.edit, hspans, String.toList_inj.1 hold, hnew ch hch, hnew ch' hch']
  rw [hdescending] at hsplice
  exact Except.ok.inj (hsplice.symm.trans h.spliceAll)

end Walk

/-- Replacing every placed value by one text is a walk. -/
theorem Placed.exists_walk {P : List Char → List Char → List Char → Prop} {l r : List Char}
    {vs : List ValueCapture} (h : Placed P l r vs) (new : String) (source : MatchSource) :
    ∃ r', Walk l r (vs.map fun v => ⟨v.value, new, v.span, source⟩) r' := by
  induction h with
  | none => exact ⟨_, .none⟩
  | next _ hspan hvalue _ ih =>
    obtain ⟨c', hc⟩ := ih
    exact ⟨_, .next hspan hvalue hc⟩

end LiteralPatch
