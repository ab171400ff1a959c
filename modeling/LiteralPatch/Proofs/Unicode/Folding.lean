import LiteralPatch.Unicode.Fold
import LiteralPatch.Unicode.Word

/-!
# Case folding is a projection

The table of folds is a list of runs.  Two facts about it are checked once, as finite comparisons: the
runs are ascending and disjoint (`foldRuns_ascending`), and none of them covers a code point that another folds to
(`foldRuns_clear`).  Everything else follows.  Folding twice is folding once (`fold_fold`), so the
members of `orbit n` are exactly the code points that fold as `n` does (`mem_orbit`), and the set of a
letter up to case holds what is equal to the letter up to case (`has_ofCharFolded`).

A set that no run reaches is closed under equality up to case as it is (`foldClosure_eq_self`).  This is
how classes of punctuation come out of folding unchanged, without going through all classes.
-/

namespace LiteralPatch
namespace Unicode

namespace FoldRun

/-- The runs are in order and each ends before the next begins. -/
def ascending : List FoldRun → Bool
  | [] => true
  | [r] => r.first ≤ r.last
  | r :: q :: rest => r.first ≤ r.last && r.last < q.first && ascending (q :: rest)

/-- What `r` folds to is not covered by `q`: it lies before or after, or in the gaps. -/
def clear (r q : FoldRun) : Bool :=
  (r.target + (r.last - r.first)).blt q.first || q.last.blt r.target ||
    (q.step == 2 && (r.step == 2 || r.first == r.last) && (r.target + q.first) % 2 == 1)

theorem covers_iff {r : FoldRun} {n : Nat} :
    r.covers n = true ↔ r.first ≤ n ∧ n ≤ r.last ∧ (n - r.first) % r.step = 0 := by
  simp [covers, and_assoc]

theorem preimage?_eq_some_iff {r : FoldRun} {n m : Nat} :
    r.preimage? n = some m ↔ r.target ≤ n ∧ n - r.target ≤ r.last - r.first ∧
      (n - r.target) % r.step = 0 ∧ r.first + (n - r.target) = m := by
  unfold preimage?
  split
  · next h => simp [h]
  · next h =>
    simp only [reduceCtorEq, false_iff]
    exact fun hm => h ⟨hm.1, hm.2.1, hm.2.2.1⟩

theorem ascending_cons {r : FoldRun} {rs : List FoldRun} (h : ascending (r :: rs) = true) :
    r.first ≤ r.last ∧ (∀ q ∈ rs, r.last < q.first) ∧ ascending rs = true := by
  induction rs generalizing r with
  | nil => simpa [ascending] using h
  | cons q rs ih =>
    simp only [ascending, Bool.and_eq_true, decide_eq_true_eq] at h
    obtain ⟨⟨hr, hq⟩, hrs⟩ := h
    obtain ⟨hordered, hlater, -⟩ := ih hrs
    refine ⟨hr, fun x hx => ?_, hrs⟩
    rcases List.mem_cons.1 hx with rfl | hx
    · exact hq
    · have := hlater x hx
      omega

/-- In ascending runs, only one covers a code point. -/
theorem eq_of_ascending {rs : List FoldRun} (h : ascending rs = true) {r q : FoldRun} {n : Nat}
    (hr : r ∈ rs) (hq : q ∈ rs) (hrn : r.covers n = true) (hqn : q.covers n = true) : r = q := by
  rw [covers_iff] at hrn hqn
  induction rs with
  | nil => cases hr
  | cons x rs ih =>
    obtain ⟨-, hlater, hrs⟩ := ascending_cons h
    rcases List.mem_cons.1 hr with rfl | hr
    · rcases List.mem_cons.1 hq with rfl | hq
      · rfl
      · have := hlater q hq
        omega
    · rcases List.mem_cons.1 hq with rfl | hq
      · have := hlater r ‹r ∈ rs›
        omega
      · exact ih hrs ‹r ∈ rs› hq

theorem first_le_last_of_ascending {rs : List FoldRun} (h : ascending rs = true) :
    ∀ r ∈ rs, r.first ≤ r.last := by
  induction rs with
  | nil => exact fun r hr => nomatch hr
  | cons x rs ih =>
    obtain ⟨hx, -, hrs⟩ := ascending_cons h
    intro r hr
    rcases List.mem_cons.1 hr with rfl | hr
    · exact hx
    · exact ih hrs r hr

theorem not_covers_of_clear {r q : FoldRun} {n : Nat} (hclear : r.clear q = true)
    (hn : r.covers n = true) : q.covers (r.target + (n - r.first)) = false := by
  rw [covers_iff] at hn
  rw [Bool.eq_false_iff, ne_eq, covers_iff]
  simp only [clear, Bool.or_eq_true, Bool.and_eq_true, Nat.blt_eq, beq_iff_eq] at hclear
  rintro ⟨hfirst, hlast, hstep⟩
  rcases hclear with (hbefore | hafter) | ⟨⟨hq, hr⟩, hodd⟩
  · omega
  · omega
  · rw [hq] at hstep
    rcases hr with hr | hr
    · rw [hr] at hn
      omega
    · omega

end FoldRun

/-! ## The two facts about the table -/

theorem foldRuns_ascending : FoldRun.ascending foldRuns = true := by
  decide +kernel

theorem foldRuns_clear : (foldRuns.all fun r => foldRuns.all fun q => r.clear q) = true := by
  decide +kernel

/-! ## Folding -/

theorem fold_eq_of_covers {r : FoldRun} {n : Nat} (hr : r ∈ foldRuns) (hn : r.covers n = true) :
    fold n = r.target + (n - r.first) := by
  unfold fold
  split
  · next q hq =>
    rw [FoldRun.eq_of_ascending foldRuns_ascending (List.mem_of_find?_eq_some hq) hr
      (List.find?_some (p := fun q => FoldRun.covers q n) hq) hn]
  · next hnone =>
    have := List.find?_eq_none.1 hnone r hr
    exact absurd hn this

theorem fold_eq_self {n : Nat} (h : ∀ r ∈ foldRuns, r.covers n = false) : fold n = n := by
  unfold fold
  rw [List.find?_eq_none.2 fun r hr => by simp [h r hr]]

/-- A code point is folded by a run or not at all. -/
theorem fold_cases (n : Nat) :
    (∃ r ∈ foldRuns, r.covers n = true ∧ fold n = r.target + (n - r.first)) ∨ fold n = n := by
  by_cases h : ∃ r ∈ foldRuns, r.covers n = true
  · obtain ⟨r, hr, hn⟩ := h
    exact .inl ⟨r, hr, hn, fold_eq_of_covers hr hn⟩
  · refine .inr (fold_eq_self fun r hr => ?_)
    rw [Bool.eq_false_iff]
    exact fun hn => h ⟨r, hr, hn⟩

/-- **Folding twice is folding once.** -/
theorem fold_fold (n : Nat) : fold (fold n) = fold n := by
  rcases fold_cases n with ⟨r, hr, hn, hfold⟩ | hfold
  · refine fold_eq_self fun q hq => ?_
    rw [hfold]
    exact FoldRun.not_covers_of_clear
      (List.all_eq_true.1 (List.all_eq_true.1 foldRuns_clear r hr) q hq) hn
  · rw [hfold, hfold]

/-- **The orbit of a code point holds what folds as it does.** -/
theorem mem_orbit {m n : Nat} : m ∈ orbit n ↔ fold m = fold n := by
  rw [orbit, foldClass, List.mem_cons, List.mem_filterMap]
  constructor
  · rintro (rfl | ⟨r, hr, hm⟩)
    · exact fold_fold n
    · obtain ⟨htarget, hlast, hstep, rfl⟩ := FoldRun.preimage?_eq_some_iff.1 hm
      have hordered := FoldRun.first_le_last_of_ascending foldRuns_ascending r hr
      have hcovers : r.covers (r.first + (fold n - r.target)) = true :=
        FoldRun.covers_iff.2 ⟨by omega, by omega, by rw [Nat.add_sub_cancel_left]; exact hstep⟩
      rw [fold_eq_of_covers hr hcovers]
      omega
  · intro h
    rcases fold_cases m with ⟨r, hr, hm, hfold⟩ | hfold
    · refine .inr ⟨r, hr, FoldRun.preimage?_eq_some_iff.2 ?_⟩
      rw [FoldRun.covers_iff] at hm
      have hsub : fold n - r.target = m - r.first := by omega
      refine ⟨by omega, by omega, ?_, by omega⟩
      rw [hsub]
      exact hm.2.2
    · exact .inl (hfold.symm.trans h)

/-! ## Texts up to case -/

/-- A text with every character folded. -/
def foldText (cs : List Char) : List Nat := cs.map fun c => fold c.toNat

/-- Equality of texts up to case. -/
def SameText (a b : List Char) : Prop := foldText a = foldText b

instance (a b : List Char) : Decidable (SameText a b) :=
  inferInstanceAs (Decidable (foldText a = foldText b))

theorem SameText.length_eq {a b : List Char} (h : SameText a b) : a.length = b.length := by
  simpa [foldText] using congrArg List.length h

theorem sameText_nil {a : List Char} : SameText a [] ↔ a = [] := by
  simp [SameText, foldText]

theorem sameText_cons {a : List Char} {c : Char} {cs : List Char} :
    SameText a (c :: cs) ↔ ∃ d ds, a = d :: ds ∧ SameFold d c ∧ SameText ds cs := by
  constructor
  · intro h
    cases a with
    | nil => cases h
    | cons d ds => exact ⟨d, ds, rfl, (List.cons.inj h).1, (List.cons.inj h).2⟩
  · rintro ⟨d, ds, rfl, hd, hds⟩
    exact List.cons_eq_cons.2 ⟨hd, hds⟩

theorem SameText.append {a b c d : List Char} (h : SameText a b) (h' : SameText c d) :
    SameText (a ++ c) (b ++ d) := by
  unfold SameText foldText at *
  rw [List.map_append, List.map_append, h, h']

/-- What holds of a character with what is equal to it up to case holds along texts. -/
theorem SameText.forall_mem {a b : List Char} {p q : Char → Prop} (h : SameText a b)
    (hpq : ∀ c d, SameFold c d → q d → p c) (hb : ∀ d ∈ b, q d) : ∀ c ∈ a, p c := by
  induction b generalizing a with
  | nil => simp [sameText_nil.1 h]
  | cons d ds ih =>
    obtain ⟨c, cs, rfl, hc, hcs⟩ := sameText_cons.1 h
    obtain ⟨hd, hds⟩ := List.forall_mem_cons.1 hb
    exact List.forall_mem_cons.2 ⟨hpq c d hc hd, ih hcs hds⟩

/-! ## Words -/

/-- What is claimed of every character of a text is decided along the text, not over all characters. -/
instance (priority := high) decidableForallMem {cs : List Char} {p : Char → Prop} [DecidablePred p] :
    Decidable (∀ c ∈ cs, p c) :=
  List.decidableBAll p cs

/-- The ASCII letters. -/
def letters : List Char :=
  "abcdefghijklmnopqrstuvwxyzABCDEFGHIJKLMNOPQRSTUVWXYZ".toList

theorem isWord_orbit_letters :
    (letters.all fun c => (orbit c.toNat).all word.contains) = true := by
  decide +kernel

/-- What equals an ASCII letter up to case belongs to words. -/
theorem isWord_of_sameFold {c d : Char} (hc : c ∈ letters) (h : SameFold d c) : isWord d = true :=
  List.all_eq_true.1 (List.all_eq_true.1 isWord_orbit_letters c hc) d.toNat (mem_orbit.2 h)

/-- What equals a text of letters up to case consists of word characters. -/
theorem isWord_of_sameText {a b : List Char} (hb : b ⊆ letters) (h : SameText a b) :
    ∀ d ∈ a, isWord d = true :=
  h.forall_mem (fun _ _ hfold hmem => isWord_of_sameFold hmem hfold) hb

/-- White space does not belong to words. -/
theorem whiteSpace_diff_word : (whiteSpace.inter word).isEmpty = true := by
  decide +kernel

theorem isWord_eq_false_of_isWhite {x : Char} (h : isWhite x = true) : isWord x = false := by
  have hempty := whiteSpace_diff_word
  rw [Bool.eq_false_iff]
  intro hword
  have hmem := (CharSet.contains_inter whiteSpace word x.toNat).2 ⟨h, hword⟩
  rw [CharSet.contains, List.isEmpty_iff.1 hempty] at hmem
  cases hmem

end Unicode

namespace CharSet

open Unicode

/-- **The set of a character up to case holds what is equal to it up to case.** -/
theorem has_ofCharFolded {c d : Char} : (ofCharFolded c).has d = true ↔ SameFold d c := by
  rw [has, ofCharFolded, contains_ofList, mem_orbit, SameFold]

theorem length_insertRange (lo hi : Nat) (rs : List (Nat × Nat)) :
    (insertRange lo hi rs).length ≤ rs.length + 1 := by
  induction rs generalizing lo hi with
  | nil => exact Nat.le_refl 1
  | cons r rest ih =>
    obtain ⟨a, b⟩ := r
    unfold insertRange
    split
    · exact Nat.le_succ_of_le (ih lo hi)
    · split
      · exact Nat.le_refl _
      · split
        · exact Nat.succ_le_succ (ih lo hi)
        · exact Nat.le_succ_of_le (ih _ _)

theorem length_ofRanges (rs : List (Nat × Nat)) : (ofRanges rs).ranges.length ≤ rs.length := by
  have hfold : ∀ s : CharSet,
      (rs.foldl (fun acc r => acc.insert r.1 r.2) s).ranges.length ≤ s.ranges.length + rs.length := by
    induction rs with
    | nil => exact fun s => Nat.le_refl _
    | cons r rs ih =>
      intro s
      have hinsert : (s.insert r.1 r.2).ranges.length ≤ s.ranges.length + 1 := by
        unfold insert
        split
        · exact length_insertRange _ _ _
        · exact Nat.le_succ _
      have htail := ih (s.insert r.1 r.2)
      rw [List.foldl_cons, List.length_cons]
      omega
  simpa [ofRanges, empty] using hfold empty

/-- A character has as many ranges up to case as there are runs, at most. -/
theorem length_ofCharFolded (c : Char) :
    (ofCharFolded c).ranges.length ≤ foldRuns.length + 1 := by
  have horbit := length_ofRanges ((orbit c.toNat).map fun n => (n, n))
  have hruns := List.length_filterMap_le (·.preimage? (fold c.toNat)) foldRuns
  rw [List.length_map, orbit, foldClass, List.length_cons] at horbit
  exact Nat.le_trans horbit (Nat.add_le_add_right hruns 1)

/-- No run folds a member of the set, or folds anything to a member. -/
def untouched (s : CharSet) (r : FoldRun) : Bool :=
  s.ranges.all fun q => (q.2.blt r.first || r.last.blt q.1) &&
    (q.2.blt r.target || (r.target + (r.last - r.first)).blt q.1)

theorem contains_eq_false_of_untouched {s : CharSet} {r : FoldRun} {n : Nat}
    (h : s.untouched r = true)
    (hn : (r.first ≤ n ∧ n ≤ r.last) ∨ (r.target ≤ n ∧ n ≤ r.target + (r.last - r.first))) :
    s.contains n = false := by
  rw [Bool.eq_false_iff, ne_eq, contains, List.any_eq_true]
  rintro ⟨q, hq, hmem⟩
  have hfree := List.all_eq_true.1 h q hq
  simp only [Bool.and_eq_true, Bool.or_eq_true, decide_eq_true_eq, Nat.blt_eq] at hmem hfree
  omega

/-- In a set that no run touches, a character is equal up to case to itself only. -/
theorem eq_of_sameFold {s : CharSet} (h : ∀ r ∈ foldRuns, s.untouched r = true) {c d : Char}
    (hd : s.has d = true) (hfold : SameFold c d) : c = d := by
  have hout : ∀ r ∈ foldRuns, ¬ ((r.first ≤ d.toNat ∧ d.toNat ≤ r.last) ∨
      (r.target ≤ d.toNat ∧ d.toNat ≤ r.target + (r.last - r.first))) := by
    intro r hr hn
    rw [CharSet.has, contains_eq_false_of_untouched (h r hr) hn] at hd
    cases hd
  have hself : fold d.toNat = d.toNat := by
    refine fold_eq_self fun r hr => Bool.eq_false_iff.2 fun hcovers => ?_
    have hcovers := FoldRun.covers_iff.1 hcovers
    exact hout r hr (.inl ⟨hcovers.1, hcovers.2.1⟩)
  have hc : fold c.toNat = d.toNat := Eq.trans hfold hself
  rcases fold_cases c.toNat with ⟨r, hr, hcovers, hmoved⟩ | hkept
  · have hcovers := FoldRun.covers_iff.1 hcovers
    exact absurd (.inr ⟨by omega, by omega⟩) (hout r hr)
  · exact Char.toNat_inj.1 (hkept.symm.trans hc)

/-- A set that no run touches is closed under equality up to case. -/
theorem foldClosure_eq_self {s : CharSet} (h : ∀ r ∈ foldRuns, s.untouched r = true) :
    s.foldClosure = s := by
  have hclass : ∀ cls ∈ foldClasses, cls.any s.contains = false := by
    intro cls hcls
    obtain ⟨r, hr, hcls⟩ := List.mem_flatMap.1 hcls
    obtain ⟨n, hn, rfl⟩ := List.mem_map.1 hcls
    obtain ⟨k, hk, rfl⟩ := List.mem_map.1 hn
    have hk : k * r.step ≤ r.last - r.first := by
      rw [List.mem_range] at hk
      exact Nat.le_trans (Nat.mul_le_mul_right _ (Nat.le_of_lt_succ hk)) (Nat.div_mul_le_self _ _)
    rw [Bool.eq_false_iff, ne_eq, List.any_eq_true]
    rintro ⟨m, hm, hs⟩
    rcases List.mem_cons.1 hm with rfl | hm
    · rw [contains_eq_false_of_untouched (h r hr) (by omega)] at hs
      cases hs
    · obtain ⟨q, hq, hpre⟩ := List.mem_filterMap.1 hm
      obtain ⟨htarget, hlast, -, rfl⟩ := FoldRun.preimage?_eq_some_iff.1 hpre
      have hordered := FoldRun.first_le_last_of_ascending foldRuns_ascending q hq
      rw [contains_eq_false_of_untouched (h q hq) (by omega)] at hs
      cases hs
  unfold foldClosure
  revert hclass
  generalize foldClasses = classes
  intro hclass
  induction classes with
  | nil => rfl
  | cons cls classes ih =>
    rw [List.foldl_cons, if_neg (by simp [hclass cls List.mem_cons_self])]
    exact ih fun c hc => hclass c (List.mem_cons_of_mem _ hc)

end CharSet
end LiteralPatch
