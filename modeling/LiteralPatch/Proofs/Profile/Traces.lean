import LiteralPatch.Proofs.Patch.Trail
import LiteralPatch.Proofs.Profile.Recast

/-!
# The traces of changes that recast words

`Traces t u made` says that the changes lead from `t` to `u`, and that each of them rewrites a run of its
own, which is a different one in the end.  It is what remains of many recastings: traces are joined
(`Traces.append`), because a word that has been brought in stays.

A rule that recasts words in every text (`Rule.RecastsWords`) is always applied, and leaves traces; hence
so does a pass, which shows them in its text exactly if it reports something (`patch_recast`).
-/

namespace LiteralPatch

open Text Unicode Profile

/-- The changes of a stage, each with the text it is made in. -/
def Stage.made (s : Stage) : List (String × Change) :=
  s.changes.map fun ch => (s.given, ch)

namespace Profile

/-- The changes lead from `t` to `u`, and each rewrites a run of its own, which is then a different one. -/
def Traces (t u : String) (made : List (String × Change)) : Prop :=
  ∃ is places, RecastAt [] (wordRuns t.toList) is (wordRuns u.toList) ∧
    List.Forall₂ (fun x i => x.2.RewritesRun x.1.toList i) made places ∧ places.Perm is

namespace Traces

variable {t u v : String} {made made' : List (String × Change)}

theorem refl (t : String) : Traces t t [] :=
  ⟨[], [], .refl _ _, .nil, .nil⟩

/-- **Traces are joined.** -/
theorem append (h : Traces t u made) (h' : Traces u v made') : Traces t v (made ++ made') := by
  obtain ⟨is, places, hrecast, hmade, hperm⟩ := h
  obtain ⟨js, places', hrecast', hmade', hperm'⟩ := h'
  obtain ⟨ks, hks, hboth⟩ := hrecast.trans hrecast' .nil
  exact ⟨ks, places ++ places', hks, List.rel_append hmade hmade', (hperm.append hperm').trans hboth.symm⟩

theorem recast (h : Traces t u made) : Recast [] (wordRuns t.toList) (wordRuns u.toList) := by
  obtain ⟨_, _, hrecast, -, -⟩ := h
  exact hrecast.recast

/-- **The text is what it was exactly if nothing has been changed.** -/
theorem eq_iff (h : Traces t u made) : u = t ↔ made = [] := by
  obtain ⟨is, places, hrecast, hmade, hperm⟩ := h
  constructor
  · rintro rfl
    have his : is = [] := by
      by_contra hne
      exact hrecast.ne hne rfl
    rw [his, List.perm_nil] at hperm
    rw [hperm] at hmade
    exact List.forall₂_nil_right_iff.1 hmade
  · rintro rfl
    rw [List.forall₂_nil_left_iff] at hmade
    rw [hmade, List.nil_perm] at hperm
    rw [hperm] at hrecast
    exact String.toList_inj.1 (wordRuns_injective hrecast.eq_of_nil.symm)

end Traces
end Profile

/-! ## Rules -/

/-- The changes of the rule recast words, in every text. -/
def Rule.RecastsWords (rule : Rule) : Prop :=
  ∀ text, ∃ out, Rewrites RecastsWord [] text.toList (rule.find text) out

namespace Rule.RecastsWords

variable {rule : Rule} {text next : String} {changes : List Change}

/-- Such a rule never fails. -/
theorem exists_apply (h : rule.RecastsWords) (text : String) :
    ∃ result, rule.apply text = .ok result := by
  obtain ⟨out, hout⟩ := h text
  rw [Rule.apply]
  split
  · exact ⟨none, rfl⟩
  · rw [hout.applyAll]
    exact ⟨_, rfl⟩

theorem rewrites (h : rule.RecastsWords) (happly : rule.apply text = .ok (some ⟨next, changes⟩)) :
    Rewrites RecastsWord [] text.toList changes next.toList := by
  obtain ⟨out, hout⟩ := h text
  exact hout.of_apply happly

theorem traces (h : rule.RecastsWords) (happly : rule.apply text = .ok (some ⟨next, changes⟩)) :
    Traces text next (changes.map fun ch => (text, ch)) := by
  obtain ⟨is, hrecast, hchanges⟩ := (h.rewrites happly).recastAt (divided_nil_left _)
  exact ⟨is, is, hrecast, List.forall₂_map_left_iff.2 hchanges, .refl is⟩

end Rule.RecastsWords

/-- **Rules that recast words leave traces,** one after the other. -/
theorem Trail.traces {steps : List (String × Rule)} {text out : String} {stages : List Stage}
    (h : Trail steps text stages out) (hsteps : ∀ step ∈ steps, step.2.RecastsWords) :
    Traces text out (stages.flatMap Stage.made) := by
  induction h with
  | done => exact .refl _
  | pass _ _ ih => exact ih fun step hstep => hsteps step (List.mem_cons_of_mem _ hstep)
  | change happly _ ih =>
    obtain ⟨hrule, hrest⟩ := List.forall_mem_cons.1 hsteps
    exact (hrule.traces happly).append (ih hrest)

/-! ## Passes -/

/-- There is a change for every entry of the report. -/
theorem length_flatMap_made (stages : List Stage) :
    (stages.flatMap Stage.made).length = (stages.flatMap Stage.report).length := by
  simp [Stage.made, Stage.report, List.length_flatMap]

/-- What has become of a text so far: some of its words have been recast, and the record is empty exactly
as long as the text is what it was. -/
structure Patched.RecastFrom (text : String) (p : Patched) : Prop where
  recast : Recast [] (wordRuns text.toList) (wordRuns p.text.toList)
  applied_iff : p.text = text ↔ p.applied = []

/-- **Rules that recast words patch every text, and recast its words.** -/
theorem patch_recast {sets : List RuleSet}
    (hsets : ∀ s ∈ sets, ∀ rule ∈ s.rules, rule.RecastsWords) (text : String) :
    ∃ p, patch sets text = .ok p ∧ p.RecastFrom text := by
  have hsteps : ∀ step ∈ steps sets, step.2.RecastsWords := forall_steps hsets
  obtain ⟨stages, out, htrail⟩ :=
    Trail.exists_trail (fun step hstep => (hsteps step hstep).exists_apply) text
  have htraces := htrail.traces hsteps
  refine ⟨⟨out, _⟩, patch_eq_ok_iff.2 ⟨stages, htrail, rfl⟩, htraces.recast, ?_⟩
  rw [htraces.eq_iff, ← List.length_eq_zero_iff, ← List.length_eq_zero_iff, length_flatMap_made]

end LiteralPatch
