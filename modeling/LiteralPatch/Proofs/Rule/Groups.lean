import LiteralPatch.Proofs.Rule.Filled

/-!
# What a group captures is a part of the match

A group may be passed many times in one match, or not at all, and counted repetition spells it out under the
same number.  Its two ends are noted under slots of their own, so what is read in the end might be the start
of one round and the end of another.  It is not: `Marked js i l w ms ms'` says that the two offsets of group
`i` either are those of before, or are the ends of one part of the text `w` that has been matched since, and
then the group is one of `js`.  This goes through every way to match (`Matches.marked`), and no assumption
about the expression is needed; a capture that cannot be empty is a matter of its own (`Expr.Fills`).

The match as a whole counts as group 0, and reads the same way if no other group has that number
(`groups_of_matchAt`).
-/

namespace LiteralPatch
namespace Pattern

open Cursor

namespace Expr

/-- The offsets of group `i` are as before, or the group is one of `js` and they are the ends of a part of
`w`, which stands behind `l`. -/
def Marked (js : List Nat) (i : Nat) (l w : List Char) (ms ms' : List Mark) : Prop :=
  (Program.slot? ms' (2 * i) = Program.slot? ms (2 * i) ∧
      Program.slot? ms' (2 * i + 1) = Program.slot? ms (2 * i + 1)) ∨
    i ∈ js ∧ ∃ a b c, w = a ++ b ++ c ∧ Program.slot? ms' (2 * i) = some (Text.width (l ++ a)) ∧
      Program.slot? ms' (2 * i + 1) = some (Text.width (l ++ a ++ b))

variable {js ks : List Nat} {i : Nat} {l v w : List Char} {ms ms' ms'' : List Mark}

theorem Marked.refl (js : List Nat) (i : Nat) (l w : List Char) (ms : List Mark) :
    Marked js i l w ms ms := .inl ⟨rfl, rfl⟩

theorem Marked.mono (h : Marked js i l w ms ms') (hsub : js ⊆ ks) : Marked ks i l w ms ms' :=
  h.imp_right fun ⟨hi, hpart⟩ => ⟨hsub hi, hpart⟩

/-- Two matches one behind the other: the later one counts, if the group took part in it. -/
theorem Marked.trans (h : Marked js i l v ms ms') (h' : Marked ks i (l ++ v) w ms' ms'') :
    Marked (js ++ ks) i l (v ++ w) ms ms'' := by
  rcases h' with ⟨hstart, hstop⟩ | ⟨hi, a, b, c, rfl, ha, hb⟩
  · unfold Marked
    rw [hstart, hstop]
    refine h.imp_right fun ⟨hi, a, b, c, hv, ha, hb⟩ => ?_
    exact ⟨List.mem_append_left ks hi, a, b, c ++ w, by rw [hv]; simp, ha, hb⟩
  · refine .inr ⟨List.mem_append_right js hi, v ++ a, b, c, by simp, ?_, ?_⟩
    · rw [ha, List.append_assoc]
    · rw [hb]
      simp only [List.append_assoc]

/-- A group around a match sets its own offsets anew, and leaves the others alone. -/
theorem Marked.group {j : Nat} (h : Marked js i l w ((2 * j, Text.width l) :: ms) ms') :
    Marked (j :: js) i l w ms ((2 * j + 1, Text.width (l ++ w)) :: ms') := by
  by_cases hj : j = i
  · subst hj
    refine .inr ⟨List.mem_cons_self, ?_⟩
    rw [slot?_cons_of_ne (by omega), slot?_cons_self]
    rcases h with ⟨hstart, -⟩ | ⟨-, a, b, c, rfl, ha, -⟩
    · rw [slot?_cons_self] at hstart
      exact ⟨[], w, [], by simp, by simpa using hstart, by simp⟩
    · -- the group stands in itself; the inner start counts, and the outer end
      exact ⟨a, b ++ c, [], by simp, ha, by simp⟩
  · unfold Marked at h ⊢
    rw [slot?_cons_of_ne (by omega), slot?_cons_of_ne (by omega)] at h
    rw [slot?_cons_of_ne (by omega), slot?_cons_of_ne (by omega)]
    exact h.imp_right fun ⟨hi, hpart⟩ => ⟨List.mem_cons_of_mem j hi, hpart⟩

/-- Of the text `x` behind `l`, what stands in front of `there` has been matched, and each group is marked in it or
marked as before. -/
def MarkedUpTo (js : List Nat) (l x : List Char) (there : Cursor) (ms ms' : List Mark) : Prop :=
  ∃ w r, x = w ++ r ∧ there = between (l ++ w) r ∧ ∀ i, Marked js i l w ms ms'

namespace MarkedUpTo

variable {x : List Char} {mid there : Cursor}

theorem refl (js : List Nat) (l x : List Char) (ms : List Mark) : MarkedUpTo js l x (between l x) ms ms :=
  ⟨[], x, rfl, by rw [List.append_nil], fun i => .refl js i l [] ms⟩

theorem mono (h : MarkedUpTo js l x there ms ms') (hsub : js ⊆ ks) : MarkedUpTo ks l x there ms ms' := by
  obtain ⟨w, r, hx, hthere, hmarked⟩ := h
  exact ⟨w, r, hx, hthere, fun i => (hmarked i).mono hsub⟩

theorem trans (h : MarkedUpTo js l x mid ms ms')
    (h' : ∀ {v y}, mid = between (l ++ v) y → MarkedUpTo ks (l ++ v) y there ms' ms'') :
    MarkedUpTo (js ++ ks) l x there ms ms'' := by
  obtain ⟨v, y, rfl, hmid, hfirst⟩ := h
  obtain ⟨w, r, rfl, hthere, hlater⟩ := h' hmid
  exact ⟨v ++ w, r, by simp, by simpa using hthere, fun i => (hfirst i).trans (hlater i)⟩

/-- Rounds of one expression. -/
theorem rounds (h : MarkedUpTo js l x mid ms ms')
    (h' : ∀ {v y}, mid = between (l ++ v) y → MarkedUpTo js (l ++ v) y there ms' ms'') :
    MarkedUpTo js l x there ms ms'' :=
  (h.trans h').mono fun _ hj => (List.mem_append.1 hj).elim id id

theorem group {j : Nat} (h : MarkedUpTo js l x there ((2 * j, Text.width l) :: ms) ms') :
    MarkedUpTo (j :: js) l x there ms ((2 * j + 1, there.offset) :: ms') := by
  obtain ⟨w, r, hx, rfl, hmarked⟩ := h
  exact ⟨w, r, hx, rfl, fun i => (hmarked i).group⟩

end MarkedUpTo

/-- **In a match, every group of the expression captures a part of the text that is matched,** or nothing. -/
theorem Matches.marked {e : Expr} {here there : Cursor} (h : e.Matches here ms there ms')
    {l x : List Char} (hhere : here = between l x) : MarkedUpTo e.captures l x there ms ms' := by
  induction h generalizing l x with
  | empty => exact hhere ▸ .refl _ l x _
  | look _ => exact hhere ▸ .refl _ l x _
  | optNone => exact hhere ▸ .refl _ l x _
  | starNone => exact hhere ▸ .refl _ l x _
  | set hrest _ =>
    subst hhere
    obtain rfl : x = _ := hrest
    exact ⟨[_], _, rfl, past_between _ _ _ _, fun i => .refl _ i _ _ _⟩
  | group _ ih =>
    subst hhere
    exact (ih rfl).group
  | seq _ _ ihe ihf => exact (ihe hhere).trans ihf
  | altLeft _ ih => exact (ih hhere).mono (List.subset_append_left _ _)
  | altRight _ ih => exact (ih hhere).mono (List.subset_append_right _ _)
  | optSome _ ih => exact ih hhere
  | plusOne _ ih => exact ih hhere
  | plusMore _ _ ih ihmore => exact (ih hhere).rounds ihmore
  | starMore _ _ ih ihmore => exact (ih hhere).rounds ihmore

end Expr

/-- **What the marks of a match say:** group 0 is the text that is matched, and every other group took no part
or captures a part of that text. -/
theorem groups_of_matchAt {e : Expr} (hzero : 0 ∉ e.captures) {l x : List Char} {marks : List Mark}
    {there : Cursor} (h : (Program.ofExpr e).matchAt (between l x) = some (marks, there)) :
    ∃ w r, x = w ++ r ∧ there = between (l ++ w) r ∧
      Program.group? marks 0 = some (Text.width l, Text.width (l ++ w)) ∧
      ∀ i, i ≠ 0 → Program.group? marks i = none ∨ ∃ a b c, w = a ++ b ++ c ∧
        Program.group? marks i = some (Text.width (l ++ a), Text.width (l ++ a ++ b)) := by
  obtain ⟨ms, hmatches, rfl⟩ := matches_of_matchAt h
  obtain ⟨w, r, hx, hthere, hmarked⟩ := hmatches.marked rfl
  refine ⟨w, r, hx, hthere, ?_, fun i hi => ?_⟩
  · rcases hmarked 0 with ⟨hstart, -⟩ | ⟨hmem, -⟩
    · rw [Program.group?, Expr.slot?_cons_of_ne (by omega), Expr.slot?_cons_self, hstart, hthere]
      rfl
    · exact absurd hmem hzero
  · rw [Program.group?, Expr.slot?_cons_of_ne (by omega), Expr.slot?_cons_of_ne (by omega)]
    rcases hmarked i with ⟨hstart, -⟩ | ⟨-, a, b, c, hw, ha, hb⟩
    · refine .inl ?_
      rw [hstart, Expr.slot?_cons_of_ne (by omega)]
      rfl
    · exact .inr ⟨a, b, c, hw, by rw [ha, hb]⟩

end Pattern
end LiteralPatch
