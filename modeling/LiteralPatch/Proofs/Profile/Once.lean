import LiteralPatch.Proofs.Profile.WholeWords

/-!
# No word is rewritten twice

Passes may follow each other in any number.  They never change how a text is cut into runs, so the runs can
be numbered once and for all, and every change of every pass rewrites one of them (`Change.RewritesRun`).

What a pass leaves are traces, and traces are joined, so any number of passes leaves traces
(`Passes.traces`).  No two changes of them rewrite the same run (`Traces.pairwise`).

Each pass that reports something takes at least one word for good.  So there are at most as many of them as
the text has words, and then a pass leaves the text alone (`Passes.exists_fixed`).
-/

namespace LiteralPatch

open Text Unicode Profile

/-- Two changes that rewrite the same run, each in its own text. -/
def SameRun (x y : String × Change) : Prop :=
  ∃ i, x.2.RewritesRun x.1.toList i ∧ y.2.RewritesRun y.1.toList i

namespace Profile

/-- Runs that are recast are words. -/
theorem RecastAt.length_le {b xs ys : List (List Char)} {is : List Nat} (h : RecastAt b xs is ys) :
    is.length ≤ xs.countP fun run => run.all isWord := by
  induction h with
  | nil => exact Nat.le_refl _
  | keep _ ih =>
    rw [List.countP_cons]
    omega
  | swap hxy _ ih =>
    obtain ⟨hword, -⟩ := hxy.keptOrSubstituted.resolve_left hxy.ne
    rw [List.length_cons, List.countP_cons, if_pos (List.all_eq_true.2 hword)]
    omega

namespace Traces

variable {t u : String} {made : List (String × Change)}

theorem exists_run (h : Traces t u made) : ∀ x ∈ made, ∃ i, x.2.RewritesRun x.1.toList i := by
  obtain ⟨_, _, -, hmade, -⟩ := h
  exact forall_of_forall₂ hmade.flip fun i _ _ hx => ⟨i, hx⟩

/-- **No two changes rewrite the same run.** -/
theorem pairwise (h : Traces t u made) : made.Pairwise fun x y => ¬ SameRun x y := by
  obtain ⟨_, _, hrecast, hmade, hperm⟩ := h
  have hnodup := hperm.nodup_iff.2 hrecast.nodup
  clear hperm
  induction hmade with
  | nil => exact .nil
  | @cons x i made places hx hmade ih =>
    obtain ⟨hi, hplaces⟩ := List.nodup_cons.1 hnodup
    have hplaced : ∀ y ∈ made, ∃ j ∈ places, y.2.RewritesRun y.1.toList j :=
      forall_of_forall₂ hmade.flip fun j hj _ hy => ⟨j, hj, hy⟩
    refine .cons (fun y hy => ?_) (ih hplaces)
    rintro ⟨k, hxk, hyk⟩
    obtain ⟨j, hj, hyj⟩ := hplaced y hy
    obtain rfl := hx.unique hxk
    obtain rfl := hyj.unique hyk
    exact hi hj

/-- **There are no more changes than words.** -/
theorem length_le (h : Traces t u made) : made.length ≤ wordCount t.toList := by
  obtain ⟨is, places, hrecast, hmade, hperm⟩ := h
  rw [hmade.length_eq, hperm.length_eq]
  exact hrecast.length_le

end Traces
end Profile

/-! ## Any number of passes -/

/-- Passes that follow each other from a text to another one, each given by its stages. -/
inductive Passes (sets : List RuleSet) (text : String) : List (List Stage) → String → Prop where
  | start : Passes sets text [] text
  | pass {passes : List (List Stage)} {given out : String} {stages : List Stage}
    (h : Passes sets text passes given)
    (hpatch : patch sets given = .ok ⟨out, stages.flatMap Stage.report⟩)
    (htrail : Trail (steps sets) given stages out) : Passes sets text (passes ++ [stages]) out

namespace Passes

variable {sets : List RuleSet} {text out : String} {passes : List (List Stage)}

/-- How many of the passes report a change. -/
def busy (passes : List (List Stage)) : Nat :=
  passes.countP fun stages => !(stages.flatMap Stage.report).isEmpty

/-- A pass that reports something makes a change. -/
theorem busy_le (passes : List (List Stage)) : busy passes ≤ (passes.flatten.flatMap Stage.made).length := by
  induction passes with
  | nil => exact Nat.le_refl _
  | cons stages passes ih =>
    have hlength := length_flatMap_made stages
    rw [busy, List.countP_cons, List.flatten_cons, List.flatMap_append, List.length_append]
    rw [busy] at ih
    cases hreport : stages.flatMap Stage.report with
    | nil =>
      simp only [List.isEmpty_nil, Bool.not_true, Bool.false_eq_true, if_false]
      omega
    | cons c cs =>
      rw [hreport, List.length_cons] at hlength
      simp only [List.isEmpty_cons, Bool.not_false, if_true]
      omega

/-- **Every number of passes leaves traces.** -/
theorem traces (h : Passes sets text passes out) (hsteps : ∀ step ∈ steps sets, step.2.RecastsWords) :
    Traces text out (passes.flatten.flatMap Stage.made) := by
  induction h with
  | start => exact .refl text
  | pass _ _ htrail ih =>
    rw [List.flatten_append, List.flatMap_append, List.flatten_singleton]
    exact ih.append (htrail.traces hsteps)

/-- **A further pass reports something, or leaves the text alone.** -/
theorem fixed_or_busy (hsets : ∀ s ∈ sets, ∀ rule ∈ s.rules, rule.RecastsWords)
    (h : Passes sets text passes out) : patch sets out = .ok ⟨out, []⟩ ∨
      ∃ stages next, Passes sets text (passes ++ [stages]) next ∧
        busy (passes ++ [stages]) = busy passes + 1 := by
  obtain ⟨⟨next, applied⟩, hpatch, hrecast⟩ := patch_recast hsets out
  cases applied with
  | nil =>
    obtain rfl : next = out := hrecast.applied_iff.2 rfl
    exact .inl hpatch
  | cons c cs =>
    obtain ⟨stages, htrail, hreport⟩ := patch_eq_ok_iff.1 hpatch
    refine .inr ⟨stages, next, h.pass (by rw [hpatch, hreport]) htrail, ?_⟩
    rw [busy, List.countP_append, List.countP_singleton, ← hreport]
    rfl

/-- Passes never fail, so they can be made in any number. -/
theorem exists_passes (hsets : ∀ s ∈ sets, ∀ rule ∈ s.rules, rule.RecastsWords) (text : String) (n : Nat) :
    ∃ passes out, Passes sets text passes out ∧ passes.length = n := by
  induction n with
  | zero => exact ⟨[], text, .start, rfl⟩
  | succ n ih =>
    obtain ⟨passes, given, h, hlength⟩ := ih
    obtain ⟨⟨next, applied⟩, hpatch, -⟩ := patch_recast hsets given
    obtain ⟨stages, htrail, rfl⟩ := patch_eq_ok_iff.1 hpatch
    exact ⟨passes ++ [stages], next, h.pass hpatch htrail, by simp [hlength]⟩

/-- **If only so many passes can report something, a text is reached that stays.** -/
theorem exists_fixed (hsets : ∀ s ∈ sets, ∀ rule ∈ s.rules, rule.RecastsWords) {bound : Nat}
    (hbound : ∀ passes out, Passes sets text passes out → busy passes ≤ bound) :
    ∃ passes out, Passes sets text passes out ∧ passes.length ≤ bound ∧
      patch sets out = .ok ⟨out, []⟩ := by
  -- as long as no such text is reached, every pass reports something
  have hrun : ∀ n, (∃ passes out, Passes sets text passes out ∧ passes.length ≤ n ∧
      patch sets out = .ok ⟨out, []⟩) ∨
      ∃ passes out, Passes sets text passes out ∧ passes.length = n + 1 ∧ busy passes = n + 1 := by
    intro n
    induction n with
    | zero =>
      rcases Passes.start.fixed_or_busy hsets with hfixed | ⟨stages, next, h, hbusy⟩
      · exact .inl ⟨[], text, .start, Nat.le_refl 0, hfixed⟩
      · exact .inr ⟨_, next, h, rfl, hbusy⟩
    | succ n ih =>
      rcases ih with ⟨passes, out, h, hlength, hfixed⟩ | ⟨passes, out, h, hlength, hbusy⟩
      · exact .inl ⟨passes, out, h, Nat.le_succ_of_le hlength, hfixed⟩
      · rcases h.fixed_or_busy hsets with hfixed | ⟨stages, next, h', hbusy'⟩
        · exact .inl ⟨passes, out, h, Nat.le_of_eq hlength, hfixed⟩
        · exact .inr ⟨_, next, h', by simp [hlength], by rw [hbusy', hbusy]⟩
  rcases hrun bound with hfixed | ⟨passes, out, h, -, hbusy⟩
  · exact hfixed
  · have hle := hbound passes out h
    omega

end Passes

/-- What passes do to the runs of a text, however many there are. -/
structure Passes.Once (text : String) (passes : List (List Stage)) (out : String) : Prop where
  /-- The runs keep their number, and the separators stay. -/
  runs : List.Forall₂ KeptOrSubstituted (wordRuns text.toList) (wordRuns out.toList)
  /-- Every change rewrites a run, -/
  exists_run : ∀ x ∈ passes.flatten.flatMap Stage.made, ∃ i, x.2.RewritesRun x.1.toList i
  /-- and no two of them rewrite the same. -/
  pairwise : (passes.flatten.flatMap Stage.made).Pairwise fun x y => ¬ SameRun x y
  /-- There are no more passes that report a change than words. -/
  busy_le : busy passes ≤ wordCount text.toList

/-- **The built-in profiles rewrite no word twice,** in any number of passes, and after no more passes than
the text has words it stays as it is. -/
theorem profiles_rewrite_once {p : Profile} (hp : p ∈ Profile.all) :
    ∃ sets, p.table.compile.Gives sets ∧ ∀ text : String,
      (∀ n, ∃ passes out, Passes sets text passes out ∧ passes.length = n) ∧
      (∀ passes out, Passes sets text passes out → Passes.Once text passes out) ∧
      ∃ passes out, Passes sets text passes out ∧ passes.length ≤ wordCount text.toList ∧
        patch sets out = .ok ⟨out, []⟩ := by
  obtain ⟨sets, hgives, hsets⟩ := compile_recasts hp
  refine ⟨sets, hgives, fun text => ?_⟩
  have honce : ∀ passes out, Passes sets text passes out → Passes.Once text passes out := by
    intro passes out h
    have htraces := h.traces (forall_steps hsets)
    exact ⟨htraces.recast.forall₂, htraces.exists_run, htraces.pairwise,
      (Passes.busy_le passes).trans htraces.length_le⟩
  exact ⟨Passes.exists_passes hsets text, honce,
    Passes.exists_fixed hsets fun passes out h => (honce passes out h).busy_le⟩

/-- The profile of the family, which has more checks. -/
theorem profiles_rewrite_once_family :
    Profile.family ∈ Profile.all ∧
      ∃ sets, Profile.family.table.compile.Gives sets ∧ ∀ text : String,
        (∀ n, ∃ passes out, Passes sets text passes out ∧ passes.length = n) ∧
        (∀ passes out, Passes sets text passes out → Passes.Once text passes out) ∧
        ∃ passes out, Passes sets text passes out ∧ passes.length ≤ wordCount text.toList ∧
          patch sets out = .ok ⟨out, []⟩ :=
  ⟨by simp [Profile.all], profiles_rewrite_once (by simp [Profile.all])⟩

end LiteralPatch
