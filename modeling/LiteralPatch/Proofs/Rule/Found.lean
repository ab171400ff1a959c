import LiteralPatch.Proofs.Rule.Fallbacks
import LiteralPatch.Proofs.Rule.Swept

/-!
# What any pattern finds

A rule table may use patterns of any form, with captures inside loops and captures of nothing.  Little is
known of what such a pattern captures, but this much is: every mark of a match is set between its two ends
(`Expr.Matches.mem_marks`), and matches stand one behind the other.  So the captures stand one behind the
other as well (`findValues_placed`).  They may be empty, and several empty ones may stand at one place.
-/

namespace LiteralPatch

open Pattern Cursor

namespace Pattern

variable {e : Expr} {here there : Cursor} {ms ms' : List Mark}

/-- A match does not end in front of its start. -/
theorem Expr.Matches.offset_le (h : e.Matches here ms there ms') : here.offset ≤ there.offset := by
  induction h with
  | set _ _ => exact Nat.le_add_right _ _
  | group _ ih => exact ih
  | seq _ _ ihe ihf => exact Nat.le_trans ihe ihf
  | altLeft _ ih => exact ih
  | altRight _ ih => exact ih
  | optSome _ ih => exact ih
  | plusOne _ ih => exact ih
  | plusMore _ _ ih ihmore => exact Nat.le_trans ih ihmore
  | starMore _ _ ih ihmore => exact Nat.le_trans ih ihmore
  | _ => exact Nat.le_refl _

/-- **The marks that a match sets lie between its ends.** -/
theorem Expr.Matches.mem_marks (h : e.Matches here ms there ms') :
    ∀ m ∈ ms', m ∈ ms ∨ here.offset ≤ m.2 ∧ m.2 ≤ there.offset := by
  -- two matches one behind the other, of which the second starts with the marks of the first
  have hjoin : ∀ {start mid stop : Nat} {ms ms' ms'' : List Mark}, start ≤ mid → mid ≤ stop →
      (∀ m ∈ ms', m ∈ ms ∨ start ≤ m.2 ∧ m.2 ≤ mid) →
      (∀ m ∈ ms'', m ∈ ms' ∨ mid ≤ m.2 ∧ m.2 ≤ stop) →
      ∀ m ∈ ms'', m ∈ ms ∨ start ≤ m.2 ∧ m.2 ≤ stop := by
    intro start mid stop ms ms' ms'' hstart hstop hfirst hlater m hm
    rcases hlater m hm with hm | hm
    · rcases hfirst m hm with hm | hm
      · exact .inl hm
      · exact .inr (by omega)
    · exact .inr (by omega)
  induction h with
  | @group i e here there ms ms' h ih =>
    have hle := h.offset_le
    intro m hm
    rcases List.mem_cons.1 hm with rfl | hm
    · exact .inr ⟨hle, Nat.le_refl _⟩
    · rcases ih m hm with hm | hm
      · rcases List.mem_cons.1 hm with rfl | hm
        · exact .inr ⟨Nat.le_refl _, hle⟩
        · exact .inl hm
      · exact .inr hm
  | seq he hf ihe ihf => exact hjoin he.offset_le hf.offset_le ihe ihf
  | altLeft _ ih => exact ih
  | altRight _ ih => exact ih
  | optSome _ ih => exact ih
  | plusOne _ ih => exact ih
  | plusMore h more ih ihmore => exact hjoin h.offset_le more.offset_le ih ihmore
  | starMore h more ih ihmore => exact hjoin h.offset_le more.offset_le ih ihmore
  | _ => exact fun m hm => .inl hm

/-- The ends of a group lie between the ends of the match. -/
theorem group?_within {marks : List Mark} {index start stop : Nat}
    (hmatch : (Program.ofExpr e).matchAt here = some (marks, there))
    (hgroup : Program.group? marks index = some (start, stop)) :
    here.offset ≤ start ∧ stop ≤ there.offset := by
  obtain ⟨ms, hmatches, rfl⟩ := matches_of_matchAt hmatch
  have hwithin : ∀ slot offset, Program.slot? ((1, there.offset) :: ms) slot = some offset →
      here.offset ≤ offset ∧ offset ≤ there.offset := by
    intro slot offset hslot
    obtain ⟨_, _, heq, -⟩ := List.lookup_eq_some_iff.1 hslot
    have hmem : (slot, offset) ∈ (1, there.offset) :: ms := by rw [heq]; simp
    have hle := hmatches.offset_le
    rcases List.mem_cons.1 hmem with heq | hmem
    · obtain ⟨-, rfl⟩ := Prod.mk.inj heq
      exact ⟨hle, Nat.le_refl _⟩
    · rcases hmatches.mem_marks _ hmem with hmem | hbetween
      · obtain ⟨-, rfl⟩ := Prod.mk.inj (List.mem_singleton.1 hmem)
        exact ⟨Nat.le_refl _, hle⟩
      · exact hbetween
  unfold Program.group? at hgroup
  split at hgroup
  · next a b ha hb =>
    obtain ⟨rfl, rfl⟩ := Prod.mk.inj (Option.some.inj hgroup)
    exact ⟨(hwithin _ _ ha).1, (hwithin _ _ hb).2⟩
  · cases hgroup

end Pattern

namespace ValuePattern

variable {p : ValuePattern} {e : Expr}

/-- What a match captures stands between its two ends. -/
theorem captureOf_within (hp : p.pattern.program = Program.ofExpr e) {l w r : List Char}
    {marks : List Mark} {v : ValueCapture}
    (hmatch : p.pattern.program.matchAt (between l (w ++ r)) = some (marks, between (l ++ w) r))
    (hv : p.captureOf (l ++ (w ++ r)) marks = some v) :
    ∃ a b c, w = a ++ b ++ c ∧ v.span = ⟨Text.width (l ++ a), Text.width (l ++ a ++ b)⟩ ∧
      v.value = String.ofList b := by
  rw [hp] at hmatch
  obtain ⟨-, hgroup, hslice⟩ := captureOf_eq_some hv
  obtain ⟨hstart, hstop⟩ := group?_within hmatch hgroup
  rw [between_offset] at hstart hstop
  obtain ⟨x, y, htext, hx, hxb⟩ := Text.slice?_eq_some_iff.1 hslice
  -- the capture begins behind the start of the match, and ends in front of its end
  have hbegin : l ++ (w ++ r) = x ++ (v.value.toList ++ y) := by rw [htext, List.append_assoc]
  obtain ⟨a, rfl, ha⟩ := Text.exists_of_width_le hbegin (by omega)
  have hend : l ++ a ++ v.value.toList ++ y = l ++ w ++ r := by rw [← htext, List.append_assoc]
  obtain ⟨c, hc, -⟩ := Text.exists_of_width_le hend (by rw [Text.width_append (l ++ a)]; omega)
  have hw : w = a ++ v.value.toList ++ c :=
    List.append_cancel_left (by rw [hc]; simp : l ++ w = l ++ (a ++ v.value.toList ++ c))
  refine ⟨a, v.value.toList, c, hw, ?_, String.ofList_toList.symm⟩
  rw [Text.width_append (l ++ a), hxb, hx]

/-- The captures of the matches of a scan. -/
theorem placed_of_scanned (hp : p.pattern.program = Program.ofExpr e) {l r : List Char}
    {found : List (List Mark)} (hs : p.pattern.program.Scanned l r found) :
    Placed (fun _ _ _ => True) l r (found.filterMap (p.captureOf (l ++ r))) := by
  generalize htext : l ++ r = text
  induction hs with
  | done => exact .none
  | @found l g w r marks rest hmatch hs ih =>
    have hbehind := ih (by simpa using htext)
    cases hv : p.captureOf text marks with
    | none =>
      rw [List.filterMap_cons_none hv]
      rw [List.append_assoc] at hbehind
      exact hbehind.behind
    | some v =>
      have hwhole : l ++ g ++ (w ++ r) = text := by simpa using htext
      rw [← hwhole] at hv
      obtain ⟨a, b, c, rfl, hspan, hvalue⟩ := captureOf_within hp hmatch hv
      rw [hwhole] at hv
      rw [List.filterMap_cons_some hv]
      rw [show l ++ g ++ (a ++ b ++ c) = l ++ (g ++ a) ++ b ++ c by simp] at hbehind
      rw [show l ++ g ++ a = l ++ (g ++ a) by simp] at hspan
      rw [show g ++ (a ++ b ++ c) ++ r = (g ++ a) ++ b ++ (c ++ r) by simp]
      exact .next trivial hspan hvalue hbehind.behind

/-- **The values that a pattern finds stand one behind the other,** whatever the pattern is. -/
theorem findValues_placed (hp : p.pattern.program = Program.ofExpr e) (text : String) :
    Placed (fun _ _ _ => True) [] text.toList (p.findValues text) := by
  have hs : p.pattern.program.Scanned [] text.toList (p.pattern.program.findAll text.toList) := by
    rw [hp]
    exact Program.findAll_scanned _ _
  exact placed_of_scanned hp hs

end ValuePattern

namespace ValueRule

/-- A value rule is about the values of one of its patterns, or about none. -/
theorem exists_locate (r : ValueRule) (text : String) : ∃ p ∈ r.primary :: r.fallbacks, ∃ source,
    r.locate text = (source, p.findValues text) ∨ r.locate text = (source, []) := by
  obtain hnil | ⟨i, p, hp, -, -, hlocate⟩ := r.locate_cases text
  · exact ⟨r.primary, List.mem_cons_self, _, .inr (Prod.ext rfl hnil)⟩
  · exact ⟨p, List.mem_of_getElem? hp, _, .inl hlocate⟩

end ValueRule
end LiteralPatch
