import LiteralPatch.Proofs.Pattern.Preference
import LiteralPatch.Proofs.Rule.Groups

/-!
# One match after the other

The matches of a text are found one after the other: a search begins where the last match ended, and an empty
match at that very place is passed over by going one character on.  `Successive p here last ms` says this
without a bound on the number of steps, and there is only one such list (`Successive.unique`).  The bound
that the search is given is never reached, for the matches in a text (`findAllFrom_successive`) as for the
threads at one position (`spread_stable`); so any larger bound gives the same (`findAll_exhausts`).

Each match ends behind the end of the one before it, even if both are empty, since an empty match that would
not move on is the one that is passed over (`Successive.laid`).
-/

namespace LiteralPatch
namespace Pattern

open Cursor

/-! ## Enough steps for the threads at one position -/

namespace Program

variable {p : Program} {here : Cursor}

/-- Each step that does not discard a thread visits a new address and adds at most two threads. -/
theorem spread_succ {n : Nat} {todo : List Thread} {f : Frontier}
    (h : 2 * f.unseen + todo.length ≤ n) : p.spread here (n + 1) todo f = p.spread here n todo f := by
  induction n generalizing todo f with
  | zero =>
    obtain rfl : todo = [] := List.length_eq_zero_iff.1 (by omega)
    rfl
  | succ n ih =>
    cases todo with
    | nil => rfl
    | cons t todo =>
      rw [List.length_cons] at h
      rw [spread]
      conv => rhs; rw [spread]
      by_cases hseen : f.seen.getD t.pc true = true
      · rw [if_pos hseen, if_pos hseen]
        exact ih (by omega)
      · rw [if_neg hseen, if_neg hseen]
        have hvisit := Frontier.unseen_visit (Bool.not_eq_true _ ▸ hseen)
        have hunseen : (⟨f.seen.setIfInBounds t.pc true, f.waiting⟩ : Frontier).unseen + 1 = f.unseen := hvisit
        have hwaiting : (⟨f.seen.setIfInBounds t.pc true, t :: f.waiting⟩ : Frontier).unseen + 1 =
            f.unseen := hvisit
        dsimp only
        split
        · exact ih (by omega)
        · exact ih (by rw [List.length_cons]; omega)
        · exact ih (by rw [List.length_cons, List.length_cons]; omega)
        · exact ih (by rw [List.length_cons]; omega)
        · split
          · exact ih (by rw [List.length_cons]; omega)
          · exact ih (by omega)
        · exact ih (by omega)
        · exact ih (by omega)

/-- **The threads at one position are all followed to their end,** if there are as many places for visits as the
program has addresses. -/
theorem spread_stable {t : Thread} {f : Frontier} (hsize : f.seen.size = p.size) {n : Nat}
    (hn : 2 * p.size + 2 ≤ n) : p.spread here n [t] f = p.settle here t f := by
  have hunseen : f.unseen ≤ p.size := hsize ▸ Array.count_le_size
  obtain ⟨more, rfl⟩ := Nat.exists_eq_add_of_le hn
  clear hn
  induction more with
  | zero => rfl
  | succ more ih =>
    rw [← Nat.add_assoc, spread_succ, ih]
    rw [List.length_singleton]
    omega

/-! ## Matches without a bound -/

/-- The match is empty and stands where the last one has ended. -/
def Repeats (marks : List Mark) (there : Cursor) (last : Option Nat) : Prop :=
  group? marks 0 = some (there.offset, there.offset) ∧ last = some there.offset

/-- The matches from a position on, each searched for where the one before has ended; `last` is where that
was. -/
inductive Successive (p : Program) : Cursor → Option Nat → List (List Mark) → Prop where
  | done {here : Cursor} {last : Option Nat} (h : p.findFrom here.rest here = none) :
    Successive p here last []
  | ended {here there : Cursor} {last : Option Nat} {marks : List Mark}
    (h : p.findFrom here.rest here = some (marks, there)) (hsame : Repeats marks there last)
    (hend : stepOn here = none) : Successive p here last []
  | passed {here there next : Cursor} {last : Option Nat} {marks : List Mark} {ms : List (List Mark)}
    (h : p.findFrom here.rest here = some (marks, there)) (hsame : Repeats marks there last)
    (hnext : stepOn here = some next) (hrest : Successive p next none ms) : Successive p here last ms
  | found {here there : Cursor} {last : Option Nat} {marks : List Mark} {ms : List (List Mark)}
    (h : p.findFrom here.rest here = some (marks, there)) (hnew : ¬ Repeats marks there last)
    (hrest : Successive p there (some there.offset) ms) : Successive p here last (marks :: ms)

theorem Successive.unique {last : Option Nat} {ms ms' : List (List Mark)}
    (hms : Successive p here last ms) (hms' : Successive p here last ms') : ms = ms' := by
  induction hms generalizing ms' with
  | done h => cases hms' <;> simp_all
  | ended h hsame hend => cases hms' <;> simp_all
  | passed h hsame hnext _ ih =>
    cases hms' with
    | passed h' _ hnext' hrest' =>
      obtain rfl := Option.some.inj (hnext.symm.trans hnext')
      exact ih hrest'
    | _ => simp_all
  | found h hnew _ ih =>
    cases hms' with
    | found h' _ hrest' =>
      obtain ⟨rfl, rfl⟩ := Prod.mk.inj (Option.some.inj (h.symm.trans h'))
      rw [ih hrest']
    | _ => simp_all

/-- What a search finds, and where: behind `l` and `g` it matches `w`. -/
theorem exists_of_findFrom {e : Expr} {l r : List Char} {marks : List Mark} {there : Cursor}
    (h : (ofExpr e).findFrom r (between l r) = some (marks, there)) :
    ∃ g w x, r = g ++ w ++ x ∧ there = between (l ++ g ++ w) x ∧
      (ofExpr e).matchAt (between (l ++ g) (w ++ x)) = some (marks, between (l ++ g ++ w) x) := by
  obtain ⟨g, y, rfl, hmatch⟩ := findFrom_eq_some h
  obtain ⟨ms, hmatches, -⟩ := matches_of_matchAt hmatch
  obtain ⟨w, x, rfl, rfl, -⟩ := hmatches.exists_spells rfl
  exact ⟨g, w, x, by simp, rfl, hmatch⟩

theorem stepOn_between (l : List Char) (c : Char) (r : List Char) :
    stepOn (between l (c :: r)) = some (between (l ++ [c]) r) :=
  congrArg some (past_between l r (c :: r) c)

end Program

/-! ## Where the matches lie -/

section Laid

open Program

variable {e : Expr}

/-- The match `marks` lies in the text `r` behind `l`; if the last one has ended at `l`, it moves on. -/
def Lies (e : Expr) (l r : List Char) (last : Option Nat) (marks : List Mark) : Prop :=
  ∃ g w x, r = g ++ w ++ x ∧
    (ofExpr e).matchAt (between (l ++ g) (w ++ x)) = some (marks, between (l ++ g ++ w) x) ∧
    (last = some (Text.width l) → g ++ w ≠ [])

/-- The second match begins where the first has ended or later, and ends behind it. -/
def Behind (marks marks' : List Mark) : Prop :=
  ∀ a b a' b', group? marks 0 = some (a, b) → group? marks' 0 = some (a', b') → b ≤ a' ∧ b < b'

/-- The whole match is group 0, if no other group has that number. -/
theorem group?_zero (hzero : 0 ∉ e.captures) {l w x : List Char} {marks : List Mark}
    (h : (ofExpr e).matchAt (between l (w ++ x)) = some (marks, between (l ++ w) x)) :
    group? marks 0 = some (Text.width l, Text.width (l ++ w)) := by
  obtain ⟨w', r, hr, hthere, hwhole, -⟩ := groups_of_matchAt hzero h
  rw [hwhole, show Text.width (l ++ w) = Text.width (l ++ w') from congrArg Cursor.offset hthere]

/-- A match that is not passed over moves on, if the last one has ended here. -/
theorem ne_nil_of_not_repeats (hzero : 0 ∉ e.captures) {l g w x : List Char} {marks : List Mark}
    (hmatch : (ofExpr e).matchAt (between (l ++ g) (w ++ x)) = some (marks, between (l ++ g ++ w) x))
    {last : Option Nat} (hnew : ¬ Repeats marks (between (l ++ g ++ w) x) last)
    (hlast : last = some (Text.width l)) : g ++ w ≠ [] := by
  intro hnil
  obtain ⟨rfl, rfl⟩ := List.append_eq_nil_iff.1 hnil
  refine hnew ⟨?_, by simpa using hlast⟩
  simpa using group?_zero hzero hmatch

/-- **Successive matches lie one behind the other,** and each ends behind the end of the one before it. -/
theorem Program.Successive.laid (hzero : 0 ∉ e.captures) {here : Cursor} {last : Option Nat}
    {ms : List (List Mark)} (hms : Successive (ofExpr e) here last ms) {l r : List Char}
    (hhere : here = between l r) : (∀ m ∈ ms, Lies e l r last m) ∧ ms.Pairwise Behind := by
  induction hms generalizing l r with
  | done _ => exact ⟨fun _ hm => (nomatch hm), .nil⟩
  | ended _ _ _ => exact ⟨fun _ hm => (nomatch hm), .nil⟩
  | passed _ _ hnext _ ih =>
    subst hhere
    cases r with
    | nil => cases hnext
    | cons c r =>
      rw [stepOn_between] at hnext
      obtain ⟨hlies, hbehind⟩ := ih (Option.some.inj hnext).symm
      refine ⟨fun m hm => ?_, hbehind⟩
      obtain ⟨g, w, x, rfl, hmatch, -⟩ := hlies m hm
      rw [List.append_assoc, List.singleton_append] at hmatch
      exact ⟨c :: g, w, x, rfl, hmatch, fun _ => by simp⟩
  | found h hnew _ ih =>
    subst hhere
    obtain ⟨g, w, x, rfl, rfl, hmatch⟩ := exists_of_findFrom h
    obtain ⟨hlies, hbehind⟩ := ih rfl
    constructor
    · refine List.forall_mem_cons.2 ⟨⟨g, w, x, rfl, hmatch, ne_nil_of_not_repeats hzero hmatch hnew⟩, ?_⟩
      intro m hm
      obtain ⟨g', w', x', rfl, hmatch', hmoves⟩ := hlies m hm
      refine ⟨g ++ w ++ g', w', x', by simp, by simpa using hmatch', fun _ hnil => hmoves rfl ?_⟩
      rw [List.append_assoc] at hnil
      exact (List.append_eq_nil_iff.1 hnil).2
    · refine List.pairwise_cons.2 ⟨fun m hm => ?_, hbehind⟩
      obtain ⟨g', w', x', rfl, hmatch', hmoves⟩ := hlies m hm
      intro a b a' b' hgroup hgroup'
      rw [group?_zero hzero hmatch] at hgroup
      rw [group?_zero hzero hmatch'] at hgroup'
      obtain ⟨-, rfl⟩ := Prod.mk.inj (Option.some.inj hgroup)
      obtain ⟨rfl, rfl⟩ := Prod.mk.inj (Option.some.inj hgroup')
      have hpos := Text.width_pos (hmoves rfl)
      simp only [Text.width_append] at hpos ⊢
      omega

/-! ## Enough steps for the matches in a text -/

/-- **The bound on the number of searches is not reached:** of two searches in a row, one moves on. -/
theorem Program.findAllFrom_successive (hzero : 0 ∉ e.captures) {n : Nat} {l r : List Char}
    {last : Option Nat} (hlast : last = none ∨ last = some (Text.width l))
    (hn : 2 * r.length + (if last = none then 2 else 1) ≤ n) :
    Successive (ofExpr e) (between l r) last ((ofExpr e).findAllFrom n (between l r) last) := by
  induction n generalizing l r last with
  | zero => split at hn <;> omega
  | succ n ih =>
    rw [findAllFrom]
    split
    · next hnone => exact .done hnone
    · next marks there hfound =>
      obtain ⟨g, w, x, rfl, rfl, hmatch⟩ := exists_of_findFrom hfound
      split
      · next hsame =>
        have hsome : last ≠ none := by simp [hsame.2]
        rw [if_neg hsome] at hn
        cases hr : g ++ w ++ x with
        | nil => exact .ended (hr ▸ hfound) hsame rfl
        | cons c r =>
          rw [stepOn_between]
          refine .passed (hr ▸ hfound) hsame (stepOn_between l c r) (ih (.inl rfl) ?_)
          rw [hr, List.length_cons] at hn
          simp only [if_true]
          omega
      · next hnew =>
        refine .found hfound hnew (ih (.inr rfl) ?_)
        simp only [List.length_append] at hn
        simp only [between_offset, reduceCtorEq, if_false]
        rcases hlast with rfl | rfl
        · simp only [if_true] at hn
          omega
        · have hmoves := List.length_pos_iff.2 (ne_nil_of_not_repeats hzero hmatch hnew rfl)
          rw [List.length_append] at hmoves
          simp only [reduceCtorEq, if_false] at hn
          omega

theorem Program.findAll_successive (hzero : 0 ∉ e.captures) (text : List Char) :
    Successive (ofExpr e) (between [] text) none ((ofExpr e).findAll text) :=
  findAllFrom_successive hzero (.inl rfl) (by simp)

/-- No bound cuts a search short: neither that on the matches in the text nor that on the threads at a
position. -/
structure Program.Exhausts (p : Program) (text : List Char) : Prop where
  matches_eq : ∀ n, 2 * text.length + 2 ≤ n → p.findAllFrom n (Cursor.start text) none = p.findAll text
  threads_eq : ∀ (here : Cursor) (t : Thread) (f : Frontier) (n : Nat), f.seen.size = p.size →
    2 * p.size + 2 ≤ n → p.spread here n [t] f = p.settle here t f

/-- **A search goes through the whole text.** -/
theorem Program.findAll_exhausts (hzero : 0 ∉ e.captures) (text : List Char) :
    (ofExpr e).Exhausts text where
  matches_eq n hn := by
    rw [start_eq_between]
    exact (findAllFrom_successive hzero (.inl rfl) (by rwa [if_pos rfl])).unique
      (findAll_successive hzero text)
  threads_eq _ _ _ _ hsize hn := spread_stable hsize hn

end Laid
end Pattern
end LiteralPatch
