import LiteralPatch.Proofs.Pattern.Steps

/-!
# What a match of an expression is

`Expr.Matches e here marks there marks'` says that `e` takes the search from one position to another and
adds its marks.  It is the usual meaning of a regular expression, with one rule for each way of matching
each constructor, and says nothing about which of several ways is preferred.

## From the program back to the expression

The layout of `e` at `b` is left at `k` and nowhere else, so a run that enters it and ends outside has gone
through `e` first (`Matches.of_leads`).  The induction is on `e`; inside a loop it is on the number of
steps, since every round takes at least one.

`matches_of_matchAt` puts this together with what is known of searches: whatever is found is a match.
-/

namespace LiteralPatch
namespace Pattern

/-- `e` matches from `here` to `there`; the marks `ms` set before become `ms'`. -/
inductive Expr.Matches : Expr → Cursor → List Mark → Cursor → List Mark → Prop where
  | empty {here : Cursor} {ms : List Mark} : Matches .empty here ms here ms
  | set {s : CharSet} {here : Cursor} {ms : List Mark} {c : Char} {rest : List Char}
    (hrest : here.rest = c :: rest) (hc : s.has c = true) :
    Matches (.set s) here ms (here.past c rest) ms
  | look {a : Assertion} {here : Cursor} {ms : List Mark} (h : here.satisfies a = true) :
    Matches (.look a) here ms here ms
  | group {i : Nat} {e : Expr} {here there : Cursor} {ms ms' : List Mark}
    (h : Matches e here ((2 * i, here.offset) :: ms) there ms') :
    Matches (.group i e) here ms there ((2 * i + 1, there.offset) :: ms')
  | seq {e f : Expr} {here mid there : Cursor} {ms ms' ms'' : List Mark}
    (he : Matches e here ms mid ms') (hf : Matches f mid ms' there ms'') :
    Matches (.seq e f) here ms there ms''
  | altLeft {e f : Expr} {here there : Cursor} {ms ms' : List Mark}
    (h : Matches e here ms there ms') : Matches (.alt e f) here ms there ms'
  | altRight {e f : Expr} {here there : Cursor} {ms ms' : List Mark}
    (h : Matches f here ms there ms') : Matches (.alt e f) here ms there ms'
  | optNone {g : Bool} {e : Expr} {here : Cursor} {ms : List Mark} :
    Matches (.opt g e) here ms here ms
  | optSome {g : Bool} {e : Expr} {here there : Cursor} {ms ms' : List Mark}
    (h : Matches e here ms there ms') : Matches (.opt g e) here ms there ms'
  | plusOne {g : Bool} {e : Expr} {here there : Cursor} {ms ms' : List Mark}
    (h : Matches e here ms there ms') : Matches (.plus g e) here ms there ms'
  | plusMore {g : Bool} {e : Expr} {here mid there : Cursor} {ms ms' ms'' : List Mark}
    (h : Matches e here ms mid ms') (more : Matches (.plus g e) mid ms' there ms'') :
    Matches (.plus g e) here ms there ms''
  | starNone {g : Bool} {e : Expr} {here : Cursor} {ms : List Mark} :
    Matches (.star g e) here ms here ms
  | starMore {g : Bool} {e : Expr} {here mid there : Cursor} {ms ms' ms'' : List Mark}
    (h : Matches e here ms mid ms') (more : Matches (.star g e) mid ms' there ms'') :
    Matches (.star g e) here ms there ms''

/-! ## Where code stands in a program -/

namespace Program

/-- The instructions stand in the program from address `b` on. -/
def Holds (p : Program) (b : Nat) (code : List Instr) : Prop :=
  ∀ i x, code[i]? = some x → p.code[b + i]? = some x

variable {p : Program} {b : Nat} {l m : List Instr} {x : Instr}

theorem Holds.head (h : p.Holds b (x :: l)) : p.code[b]? = some x :=
  h 0 x rfl

theorem Holds.tail (h : p.Holds b (x :: l)) : p.Holds (b + 1) l := by
  intro i y hy
  have hmove := h (i + 1) y hy
  rwa [Nat.add_comm i 1, ← Nat.add_assoc] at hmove

theorem Holds.left (h : p.Holds b (l ++ m)) : p.Holds b l := by
  intro i y hy
  have hi : i < l.length := (List.getElem?_eq_some_iff.1 hy).1
  exact h i y (by rwa [List.getElem?_append_left hi])

theorem Holds.right (h : p.Holds b (l ++ m)) : p.Holds (b + l.length) m := by
  intro i y hy
  have hmove := h (l.length + i) y (by rw [List.getElem?_append_right (by omega)]; simpa using hy)
  rwa [← Nat.add_assoc] at hmove

/-- A program holds its own code from the start. -/
theorem holds_mk (l : List Instr) : Holds ⟨l.toArray⟩ 0 l := by
  intro i y hy
  simpa using hy

end Program

/-! ## A run through the layout of an expression -/

open Program

/-- An address that is not one of the `size` addresses from `b` on. -/
def Outside (b size k : Nat) : Prop := k < b ∨ b + size ≤ k

variable {p : Program}

/-- A run that starts at a loop goes on at one of its two addresses. -/
theorem Program.Leads.of_loop {greedy : Bool} {b k l n : Nat} {ms : List Mark} {u : Thread}
    {here there : Cursor} (hcode : p.code[b]? = some (.loop greedy k l))
    (h : Leads p n ⟨b, ms⟩ here u there) (hne : u.pc ≠ b) :
    ∃ m, n = m + 1 ∧ (Leads p m ⟨k, ms⟩ here u there ∨ Leads p m ⟨l, ms⟩ here u there) := by
  obtain ⟨m, v, mid, rfl, first, later⟩ := h.exists_step hne
  obtain ⟨rfl | rfl, rfl⟩ := first.of_loop hcode
  · exact ⟨m, rfl, .inl later⟩
  · exact ⟨m, rfl, .inr later⟩

namespace Expr

/-- Every run of `n` steps from the first address of `e` to one outside its layout matches `e`, and goes
on at `k`. -/
def Passes (p : Program) (e : Expr) (b k : Nat) : Prop :=
  ∀ (n : Nat) (ms : List Mark) (here there : Cursor) (u : Thread),
    Leads p n ⟨b, ms⟩ here u there → Outside b e.size u.pc →
    ∃ m ms' mid, e.Matches here ms mid ms' ∧ m < n ∧ Leads p m ⟨k, ms'⟩ mid u there

variable {e f : Expr} {b k : Nat}

theorem Passes.plus {g : Bool} (he : Passes p e b (b + e.size))
    (hloop : p.code[b + e.size]? = some (.loop g b k)) : Passes p (.plus g e) b k := by
  intro n
  induction n using Nat.strongRecOn with
  | ind n ih =>
    intro ms here there u h hu
    simp only [Outside, size] at hu
    obtain ⟨m, ms', mid, hmatch, hm, hrun⟩ := he _ _ _ _ _ h (by unfold Outside; omega)
    obtain ⟨m', rfl, hback | hleave⟩ := hrun.of_loop hloop (by omega)
    · obtain ⟨l, ms'', end', hmore, hl, hrest⟩ := ih m' (by omega) _ _ _ _ hback (by
        simp only [Outside, size]; omega)
      exact ⟨l, ms'', end', .plusMore hmatch hmore, by omega, hrest⟩
    · exact ⟨m', ms', mid, .plusOne hmatch, by omega, hleave⟩

/-- A loop over a body that consumes: the body leads back to the loop. -/
theorem Passes.star_consuming {g : Bool} (hsize : (star g e).size = e.size + 1)
    (he : Passes p e (b + 1) b) (hloop : p.code[b]? = some (.loop g (b + 1) k)) :
    Passes p (.star g e) b k := by
  intro n
  induction n using Nat.strongRecOn with
  | ind n ih =>
    intro ms here there u h hu
    have hout := hu
    simp only [Outside, hsize] at hu
    obtain ⟨m, rfl, hbody | hleave⟩ := h.of_loop hloop (by omega)
    · obtain ⟨l, ms', mid, hmatch, hl, hrun⟩ := he _ _ _ _ _ hbody (by unfold Outside; omega)
      obtain ⟨l', ms'', end', hmore, hl', hrest⟩ := ih l (by omega) _ _ _ _ hrun hout
      exact ⟨l', ms'', end', .starMore hmatch hmore, by omega, hrest⟩
    · exact ⟨m, ms, here, .starNone, by omega, hleave⟩

/-- The rounds of a `plus` are rounds of the `star`. -/
theorem Matches.star_of_plus {g : Bool} {here there : Cursor} {ms ms' : List Mark}
    (h : (plus g e).Matches here ms there ms') : (star g e).Matches here ms there ms' := by
  generalize hp : plus g e = q at h
  induction h with
  | plusOne h => cases hp; exact .starMore h .starNone
  | plusMore h _ _ ih => cases hp; exact .starMore h (ih rfl)
  | _ => cases hp

/-- A loop over a body that may match the empty string is an optional `plus`. -/
theorem Passes.star_nullable {g : Bool} (hsize : (star g e).size = e.size + 2)
    (he : Passes p (.plus g e) (b + 1) k) (hloop : p.code[b]? = some (.loop g (b + 1) k)) :
    Passes p (.star g e) b k := by
  intro n ms here there u h hu
  simp only [Outside, hsize] at hu
  obtain ⟨m, rfl, hbody | hleave⟩ := h.of_loop hloop (by omega)
  · obtain ⟨l, ms', mid, hmatch, hl, hrun⟩ := he _ _ _ _ _ hbody (by simp only [Outside, size]; omega)
    exact ⟨l, ms', mid, hmatch.star_of_plus, by omega, hrun⟩
  · exact ⟨m, ms, here, .starNone, by omega, hleave⟩

/-- **A run through the layout of an expression matches the expression.** -/
theorem Matches.of_leads (e : Expr) {b k : Nat} (hcode : p.Holds b (e.code b k))
    (hk : Outside b e.size k) : Passes p e b k := by
  induction e generalizing b k with
  | empty =>
    intro n ms here there u h hu
    simp only [Outside, size] at hu
    obtain ⟨m, v, mid, rfl, first, later⟩ := h.exists_step (by omega)
    obtain ⟨rfl, rfl⟩ := first.of_jump hcode.head
    exact ⟨m, ms, _, .empty, by omega, later⟩
  | set s =>
    intro n ms here there u h hu
    simp only [Outside, size] at hu
    obtain ⟨m, v, mid, rfl, first, later⟩ := h.exists_step (by omega)
    obtain ⟨c, rest, hrest, hc, rfl, rfl⟩ := first.of_char hcode.head
    exact ⟨m, ms, _, .set hrest hc, by omega, later⟩
  | look a =>
    intro n ms here there u h hu
    simp only [Outside, size] at hu
    obtain ⟨m, v, mid, rfl, first, later⟩ := h.exists_step (by omega)
    obtain ⟨rfl, rfl, ha⟩ := first.of_look hcode.head
    exact ⟨m, ms, _, .look ha, by omega, later⟩
  | group i e ih =>
    intro n ms here there u h hu
    simp only [Outside, size] at hu
    simp only [code] at hcode
    have hlast := hcode.tail.right.head
    rw [length_code] at hlast
    obtain ⟨m, v, mid, rfl, first, later⟩ := h.exists_step (by omega)
    obtain ⟨rfl, rfl⟩ := first.of_mark hcode.head
    obtain ⟨l, ms', mid', hmatch, hl, hrun⟩ :=
      ih hcode.tail.left (by unfold Outside; omega) _ _ _ _ _ later (by unfold Outside; omega)
    obtain ⟨l', v', mid'', rfl, last, later'⟩ := hrun.exists_step (by omega)
    obtain ⟨rfl, rfl⟩ := last.of_mark hlast
    exact ⟨l', _, _, .group hmatch, by omega, later'⟩
  | seq e f ihe ihf =>
    intro n ms here there u h hu
    simp only [Outside, size] at hu hk
    simp only [code] at hcode
    have hright := hcode.right
    rw [length_code] at hright
    have hpos := f.size_pos
    obtain ⟨m, ms', mid, he, hm, hrun⟩ :=
      ihe hcode.left (by unfold Outside; omega) _ _ _ _ _ h (by unfold Outside; omega)
    obtain ⟨l, ms'', mid', hf, hl, hrest⟩ :=
      ihf hright (by unfold Outside; omega) _ _ _ _ _ hrun (by unfold Outside; omega)
    exact ⟨l, ms'', mid', .seq he hf, by omega, hrest⟩
  | alt e f ihe ihf =>
    intro n ms here there u h hu
    simp only [Outside, size] at hu hk
    simp only [code] at hcode
    have hright := hcode.tail.right
    rw [length_code] at hright
    obtain ⟨m, v, mid, rfl, first, later⟩ := h.exists_step (by omega)
    obtain ⟨rfl | rfl, rfl⟩ := first.of_fork hcode.head
    · obtain ⟨l, ms', mid', he, hl, hrun⟩ :=
        ihe hcode.tail.left (by unfold Outside; omega) _ _ _ _ _ later (by unfold Outside; omega)
      exact ⟨l, ms', mid', .altLeft he, by omega, hrun⟩
    · obtain ⟨l, ms', mid', hf, hl, hrun⟩ :=
        ihf hright (by unfold Outside; omega) _ _ _ _ _ later (by unfold Outside; omega)
      exact ⟨l, ms', mid', .altRight hf, by omega, hrun⟩
  | opt g e ih =>
    intro n ms here there u h hu
    simp only [Outside, size] at hu hk
    simp only [code] at hcode
    obtain ⟨m, rfl, hbody | hleave⟩ := h.of_loop hcode.head (by omega)
    · obtain ⟨l, ms', mid', he, hl, hrun⟩ :=
        ih hcode.tail (by unfold Outside; omega) _ _ _ _ _ hbody (by unfold Outside; omega)
      exact ⟨l, ms', mid', .optSome he, by omega, hrun⟩
    · exact ⟨m, ms, here, .optNone, by omega, hleave⟩
  | plus g e ih =>
    simp only [Outside, size] at hk
    simp only [code] at hcode
    have hloop := hcode.right.head
    rw [length_code] at hloop
    exact Passes.plus (ih hcode.left (by unfold Outside; omega)) hloop
  | star g e ih =>
    by_cases hnull : e.nullable = true
    · have hsize : (star g e).size = e.size + 2 := by rw [size, if_pos hnull]
      simp only [Outside, hsize] at hk
      simp only [code, if_pos hnull] at hcode
      have hloop := hcode.tail.right.head
      rw [length_code] at hloop
      have hbody := ih hcode.tail.left (by unfold Outside; omega)
      exact Passes.star_nullable hsize (Passes.plus hbody hloop) hcode.head
    · have hsize : (star g e).size = e.size + 1 := by rw [size, if_neg hnull]
      simp only [Outside, hsize] at hk
      simp only [code, if_neg hnull] at hcode
      exact Passes.star_consuming hsize (ih hcode.tail (by unfold Outside; omega)) hcode.head

/-! ## A whole program -/

theorem accept_notMem_code (e : Expr) (b k : Nat) : Instr.accept ∉ e.code b k := by
  have hloop : ∀ (g : Bool) (k l : Nat), Instr.accept ≠ .loop g k l := by
    intro g k l
    cases g <;> simp [Instr.loop]
  induction e generalizing b k with
  | opt g e ih => simp [code, ih, hloop]
  | plus g e ih => simp [code, ih, hloop]
  | star g e ih =>
    by_cases hnull : e.nullable = true
    · simp [code, hnull, ih, hloop]
    · simp [code, hnull, ih, hloop]
  | _ => simp_all [code]

end Expr

open LiteralPatch.Pattern.Expr in
/-- **Whatever a search finds is a match of the expression,** with the marks of the whole match around
those of the expression. -/
theorem matches_of_matchAt {e : Expr} {here there : Cursor} {marks : List Mark}
    (h : (Program.ofExpr e).matchAt here = some (marks, there)) :
    ∃ ms, e.Matches here [(0, here.offset)] there ms ∧ marks = (1, there.offset) :: ms := by
  obtain ⟨t, ⟨n, hrun⟩, haccept, hmarks⟩ := Program.matchAt_sound h
  simp only at hrun hmarks
  have hholds : (Program.ofExpr e).Holds 0
      ((group 0 e).code 0 (group 0 e).size ++ [Instr.accept]) := holds_mk _
  have hpc : (group 0 e).size ≤ t.pc := by
    refine Nat.le_of_not_lt fun hlt => ?_
    refine accept_notMem_code (group 0 e) 0 (group 0 e).size ?_
    have hget : ((group 0 e).code 0 (group 0 e).size ++ [Instr.accept])[t.pc]? = some .accept := by
      simpa [Program.ofExpr] using haccept
    rw [List.getElem?_append_left (by rw [length_code]; omega)] at hget
    exact List.mem_of_getElem? hget
  obtain ⟨m, ms', mid, hmatch, hm, hrest⟩ := Matches.of_leads (group 0 e) hholds.left
    (by unfold Outside; omega) _ _ _ _ _ hrun (by unfold Outside; omega)
  have hend := hholds.right.head
  rw [length_code, Nat.zero_add] at hend
  cases hrest with
  | step first => exact absurd hend (by cases first <;> simp_all)
  | rest =>
    cases hmatch with
    | group h => exact ⟨_, h, hmarks.symm⟩

end Pattern
end LiteralPatch
