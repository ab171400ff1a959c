import LiteralPatch.Proofs.Patch.Trail
import LiteralPatch.Proofs.Rule.Walk

/-!
# Changes that stand one behind the other are made

A rule hands its changes to the verified edits, which may refuse them.  They never do so here: changes
that stand one behind the other in the text (`Rewrites`), none of them of an empty text, pass every check,
and what comes out is the text of one walk from left to right, in which every old value is replaced and
everything else is copied (`Rewrites.applyAll`).
-/

namespace LiteralPatch

/-- The changes lead from `r` behind `l` to `r'`; `P` holds of what stands before each, of the old and the
new value and of what stands behind it. -/
inductive Rewrites (P : List Char → List Char → List Char → List Char → Prop) :
    List Char → List Char → List Change → List Char → Prop where
  | none {l r : List Char} : Rewrites P l r [] r
  | next {l a b c c' : List Char} {ch : Change} {chs : List Change}
    (h : P (l ++ a) b ch.newValue.toList c) (hb : b ≠ [])
    (hspan : ch.span = ⟨Text.width (l ++ a), Text.width (l ++ a ++ b)⟩)
    (hold : ch.oldValue = String.ofList b) (hrest : Rewrites P (l ++ a ++ b) c chs c') :
    Rewrites P l (a ++ b ++ c) (ch :: chs) (a ++ ch.newValue.toList ++ c')

namespace Edit

/-- Ascending edits are carried out in reverse. -/
theorem descending_of_ascending {es : List Edit}
    (h : es.Pairwise fun a b => a.span.start < b.span.start) : descending es = es.reverse := by
  have hreverse : es.reverse.Pairwise fun a b => decide (b.span.start ≤ a.span.start) = true := by
    rw [List.pairwise_reverse]
    exact h.imp fun hab => decide_eq_true (Nat.le_of_lt hab)
  have hsorted : (descending es).Pairwise fun a b => decide (b.span.start ≤ a.span.start) = true :=
    List.pairwise_mergeSort (fun a b c hab hbc => by simp only [decide_eq_true_eq] at *; omega)
      (fun a b => by simp only [Bool.or_eq_true, decide_eq_true_eq]; omega) es
  refine List.Perm.eq_of_pairwise ?_ hsorted hreverse
    ((List.mergeSort_perm es _).trans (List.reverse_perm es).symm)
  -- edits with the same start are the same edit
  intro a b ha hb hab hba
  rw [Edit.descending, List.mem_mergeSort] at ha
  rw [List.mem_reverse] at hb
  simp only [decide_eq_true_eq] at hab hba
  have hdistinct : es.Pairwise fun a b => a.span.start ≠ b.span.start :=
    h.imp fun hlt => Nat.ne_of_lt hlt
  have hsymm : Std.Symm fun a b : Edit => a.span.start ≠ b.span.start := ⟨fun _ _ h => h.symm⟩
  by_cases hne : a = b
  · exact hne
  · exact absurd (Nat.le_antisymm hba hab) (hdistinct.forall ha hb hne)

end Edit

namespace Rewrites

variable {P Q : List Char → List Char → List Char → List Char → Prop} {l r r' : List Char}
  {chs : List Change}

theorem mono (h : Rewrites P l r chs r') (hPQ : ∀ a b n c, P a b n c → Q a b n c) :
    Rewrites Q l r chs r' := by
  induction h with
  | none => exact .none
  | next h hb hspan hold _ ih => exact .next (hPQ _ _ _ _ h) hb hspan hold ih

theorem walk (h : Rewrites P l r chs r') : Walk l r chs r' := by
  induction h with
  | none => exact .none
  | next _ _ hspan hold _ ih => exact .next hspan hold ih

/-- Every change ends before the next begins, and none is of an empty text. -/
theorem ascending (h : Rewrites P l r chs r') :
    (chs.map Rule.edit).Pairwise fun a b =>
      a.span.start < b.span.start ∧ a.span.stop ≤ b.span.start := by
  induction h with
  | none => exact .nil
  | @next l a b _ _ _ _ _ hb hspan _ hrest ih =>
    refine .cons (fun e he => ?_) ih
    obtain ⟨ch, hch, rfl⟩ := List.mem_map.1 he
    have hstart := (hrest.walk.width_le_start ch hch).1
    have hpos := Text.width_pos hb
    have hwidth := Text.width_append (l ++ a) b
    simp only [Rule.edit, Edit.replacing, hspan]
    omega

/-- **Changes that stand one behind the other are made,** and nothing else is. -/
theorem applyAll {text : String} {out : List Char} (h : Rewrites P [] text.toList chs out) :
    Edit.applyAll text (chs.map Rule.edit) = .ok (String.ofList out) := by
  have hdescending := Edit.descending_of_ascending (h.ascending.imp And.left)
  have hoverlap : Edit.overlap? (chs.map Rule.edit).reverse = .none :=
    Edit.overlap?_eq_none (List.pairwise_reverse.2 (h.ascending.imp And.right))
  refine Edit.applyAll_eq_ok_iff.2 ⟨⟨h.walk.validate, by rwa [hdescending]⟩, ?_⟩
  rw [hdescending, String.toList_ofList]
  exact h.walk.spliceAll

/-- What a rule leaves is where its changes lead. -/
theorem of_apply {rule : Rule} {text next : String} {out : List Char}
    (h : Rewrites P [] text.toList (rule.find text) out)
    (happly : rule.apply text = .ok (some ⟨next, chs⟩)) : Rewrites P [] text.toList chs next.toList := by
  obtain ⟨rfl, -, hedits⟩ := Rule.apply_eq_some happly
  rw [h.applyAll] at hedits
  obtain rfl := Except.ok.inj hedits
  rwa [String.toList_ofList]

end Rewrites

/-- Replacing every placed value by one text is a walk. -/
theorem Placed.exists_rewrites {P : List Char → List Char → List Char → Prop} {l r : List Char}
    {vs : List ValueCapture} (h : Placed P l r vs) (hne : ∀ a b c, P a b c → b ≠ [])
    (new : String) (source : MatchSource) :
    ∃ r', Rewrites (fun a b n c => P a b c ∧ n = new.toList) l r
      (vs.map fun v => ⟨v.value, new, v.span, source⟩) r' := by
  induction h with
  | none => exact ⟨_, .none⟩
  | next h hspan hvalue _ ih =>
    obtain ⟨c', hc⟩ := ih
    exact ⟨_, .next ⟨h, rfl⟩ (hne _ _ _ h) hspan hvalue hc⟩

end LiteralPatch
