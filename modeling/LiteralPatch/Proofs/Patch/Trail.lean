import LiteralPatch.Patch

/-!
# A pass, rule by rule

The record of a pass does not say which text a change was made in: its spans are places in the text that
the rule was given, and every rule is given another one.  `Trail steps text stages out` takes a pass apart.
Its stages are the rules that had something to change, each with the text it was given and the text it
left, and what one stage leaves is what the next one is given.

Every pass that succeeds has such a trail, and its record is what the stages have to report, one after the
other (`patch_eq_ok_iff`).  So a pass reports nothing exactly if no rule finds anything in the text that the
pass is given (`patch_eq_nil_iff`).
-/

namespace LiteralPatch

/-- A rule that finds nothing has nothing to change. -/
theorem Rule.apply_eq_none_iff {rule : Rule} {text : String} :
    rule.apply text = .ok none ↔ rule.find text = [] := by
  rw [apply]
  split
  · next hnil => exact iff_of_true rfl hnil
  · next hne =>
    refine iff_of_false ?_ hne
    cases Edit.applyAll text ((rule.find text).map edit) with
    | error cause => exact fun h => nomatch h
    | ok out => exact fun h => nomatch h

/-- What a rule leaves, if it has something to change. -/
theorem Rule.apply_eq_some {rule : Rule} {text next : String} {changes : List Change}
    (h : rule.apply text = .ok (some ⟨next, changes⟩)) :
    changes = rule.find text ∧ changes ≠ [] ∧
      Edit.applyAll text (changes.map Rule.edit) = .ok next := by
  rw [apply] at h
  split at h
  · cases h
  · next hne =>
    cases hedits : Edit.applyAll text ((rule.find text).map edit) with
    | error cause =>
      rw [hedits] at h
      cases h
    | ok out =>
      rw [hedits] at h
      obtain ⟨rfl, rfl⟩ := Application.mk.inj (Option.some.inj (Except.ok.inj h))
      exact ⟨rfl, hne, hedits⟩

/-- A rule that has made changes: what it was given, what it changed, and what it left. -/
structure Stage where
  ruleSet : String
  rule : String
  given : String
  changes : List Change
  result : String

namespace Stage

/-- The changes of the stage, as they are recorded. -/
def report (s : Stage) : List AppliedChange :=
  s.changes.map (AppliedChange.ofChange s.ruleSet s.rule)

theorem mem_report {s : Stage} {c : AppliedChange} (h : c ∈ s.report) :
    c.ruleSet = s.ruleSet ∧ c.rule = s.rule := by
  obtain ⟨_, _, rfl⟩ := List.mem_map.1 h
  exact ⟨rfl, rfl⟩

end Stage

/-- The rules of a pass in order, each with the name of its set. -/
def steps (sets : List RuleSet) : List (String × Rule) :=
  sets.flatMap fun s => s.rules.map fun rule => (s.name, rule)

/-- What holds of the rules of all sets holds of the steps. -/
theorem forall_steps {sets : List RuleSet} {Q : Rule → Prop}
    (h : ∀ s ∈ sets, ∀ rule ∈ s.rules, Q rule) : ∀ step ∈ steps sets, Q step.2 := by
  intro step hstep
  obtain ⟨s, hs, hmem⟩ := List.mem_flatMap.1 hstep
  obtain ⟨rule, hrule, rfl⟩ := List.mem_map.1 hmem
  exact h s hs rule hrule

/-- The rules lead from one text to another, and the stages are those of them that changed something. -/
inductive Trail : List (String × Rule) → String → List Stage → String → Prop where
  | done {text : String} : Trail [] text [] text
  | pass {ruleSet text out : String} {rule : Rule} {rest : List (String × Rule)} {stages : List Stage}
    (h : rule.apply text = .ok none) (hrest : Trail rest text stages out) :
    Trail ((ruleSet, rule) :: rest) text stages out
  | change {ruleSet text next out : String} {rule : Rule} {rest : List (String × Rule)}
    {changes : List Change} {stages : List Stage}
    (h : rule.apply text = .ok (some ⟨next, changes⟩)) (hrest : Trail rest next stages out) :
    Trail ((ruleSet, rule) :: rest) text (⟨ruleSet, rule.name, text, changes, next⟩ :: stages) out

/-- A pass runs the rules of all sets one after the other. -/
theorem patch_eq_foldlM (sets : List RuleSet) (text : String) :
    patch sets text = (steps sets).foldlM (fun p s => p.afterRule s.1 s.2) ⟨text, []⟩ := by
  have hfold : ∀ p : Patched, sets.foldlM Patched.afterSet p =
      (steps sets).foldlM (fun p s => p.afterRule s.1 s.2) p := by
    induction sets with
    | nil => exact fun p => rfl
    | cons s sets ih =>
      intro p
      rw [List.foldlM_cons, steps, List.flatMap_cons, List.foldlM_append, List.foldlM_map]
      exact congrArg (p.afterSet s >>= ·) (funext ih)
  exact hfold ⟨text, []⟩

namespace Trail

variable {steps : List (String × Rule)} {text out : String} {stages : List Stage}

/-- **Rules run one after the other leave a trail.** -/
theorem foldlM_eq_ok_iff {p q : Patched} :
    steps.foldlM (fun p s => p.afterRule s.1 s.2) p = .ok q ↔
      ∃ stages, Trail steps p.text stages q.text ∧
        q.applied = p.applied ++ stages.flatMap Stage.report := by
  constructor
  · intro h
    induction steps generalizing p with
    | nil =>
      obtain rfl := Except.ok.inj h
      exact ⟨[], .done, by simp⟩
    | cons step steps ih =>
      obtain ⟨ruleSet, rule⟩ := step
      rw [List.foldlM_cons, Patched.afterRule] at h
      cases happly : rule.apply p.text with
      | error e =>
        rw [happly] at h
        cases h
      | ok result =>
        rw [happly] at h
        cases result with
        | none =>
          obtain ⟨stages, htrail, happlied⟩ := ih h
          exact ⟨stages, .pass happly htrail, happlied⟩
        | some a =>
          obtain ⟨stages, htrail, happlied⟩ := ih h
          refine ⟨_, .change happly htrail, ?_⟩
          rw [happlied, List.flatMap_cons, List.append_assoc]
          rfl
  · rintro ⟨stages, htrail, happlied⟩
    obtain ⟨qtext, qapplied⟩ := q
    simp only at htrail happlied
    generalize hstart : p.text = start at htrail
    induction htrail generalizing p with
    | done =>
      obtain ⟨_, _⟩ := p
      obtain rfl := hstart
      simp only [List.flatMap_nil, List.append_nil] at happlied
      rw [happlied]
      rfl
    | pass h _ ih =>
      rw [List.foldlM_cons, Patched.afterRule, hstart, h]
      exact ih happlied hstart
    | change h _ ih =>
      rw [List.foldlM_cons, Patched.afterRule, hstart, h]
      refine ih ?_ rfl
      rw [happlied, List.flatMap_cons, List.append_assoc]
      rfl

/-- Rules that never fail leave a trail in every text. -/
theorem exists_trail (hsteps : ∀ step ∈ steps, ∀ text, ∃ result, step.2.apply text = .ok result)
    (text : String) : ∃ stages out, Trail steps text stages out := by
  induction steps generalizing text with
  | nil => exact ⟨[], text, .done⟩
  | cons step steps ih =>
    obtain ⟨hstep, hrest⟩ := List.forall_mem_cons.1 hsteps
    obtain ⟨result, happly⟩ := hstep text
    cases result with
    | none =>
      obtain ⟨stages, out, htrail⟩ := ih hrest text
      exact ⟨stages, out, .pass happly htrail⟩
    | some a =>
      obtain ⟨stages, out, htrail⟩ := ih hrest a.text
      exact ⟨_, out, .change happly htrail⟩

/-- Every stage has something to report. -/
theorem report_ne_nil (h : Trail steps text stages out) : ∀ s ∈ stages, s.report ≠ [] := by
  induction h with
  | done => exact fun s hs => nomatch hs
  | pass _ _ ih => exact ih
  | change happly _ ih =>
    refine List.forall_mem_cons.2 ⟨?_, ih⟩
    obtain ⟨-, hchanged, -⟩ := Rule.apply_eq_some happly
    simpa [Stage.report] using hchanged

/-- **There are no stages exactly if no rule finds anything.** -/
theorem nil_iff :
    Trail steps text [] out ↔ (∀ step ∈ steps, step.2.find text = []) ∧ text = out := by
  constructor
  · intro h
    induction steps with
    | nil =>
      cases h
      exact ⟨List.forall_mem_nil _, rfl⟩
    | cons step steps ih =>
      cases h with
      | pass happly hrest =>
        obtain ⟨hquiet, rfl⟩ := ih hrest
        exact ⟨List.forall_mem_cons.2 ⟨Rule.apply_eq_none_iff.1 happly, hquiet⟩, rfl⟩
  · rintro ⟨h, rfl⟩
    induction steps with
    | nil => exact .done
    | cons step steps ih =>
      obtain ⟨hstep, hrest⟩ := List.forall_mem_cons.1 h
      exact .pass (Rule.apply_eq_none_iff.2 hstep) (ih hrest)

/-- The stages are rules of the pass, in their order. -/
theorem sublist (h : Trail steps text stages out) :
    (stages.map Stage.rule).Sublist (steps.map fun s => s.2.name) := by
  induction h with
  | done => exact .slnil
  | pass _ _ ih => exact .cons _ ih
  | change _ _ ih => exact .cons_cons _ ih

/-- What holds of every application of a rule holds of every stage. -/
theorem forall_stages (h : Trail steps text stages out) {Q : Stage → Prop}
    (hQ : ∀ step ∈ steps, ∀ given next changes, step.2.apply given = .ok (some ⟨next, changes⟩) →
      Q ⟨step.1, step.2.name, given, changes, next⟩) : ∀ s ∈ stages, Q s := by
  induction h with
  | done => exact fun s hs => nomatch hs
  | pass _ _ ih => exact ih fun step hstep => hQ step (List.mem_cons_of_mem _ hstep)
  | change h _ ih =>
    intro s hs
    rcases List.mem_cons.1 hs with rfl | hs
    · exact hQ _ List.mem_cons_self _ _ _ h
    · exact ih (fun step hstep => hQ step (List.mem_cons_of_mem _ hstep)) s hs

end Trail

/-- **A pass is a trail,** and its record is what the stages report. -/
theorem patch_eq_ok_iff {sets : List RuleSet} {text out : String} {applied : List AppliedChange} :
    patch sets text = .ok ⟨out, applied⟩ ↔
      ∃ stages, Trail (steps sets) text stages out ∧ applied = stages.flatMap Stage.report := by
  rw [patch_eq_foldlM, Trail.foldlM_eq_ok_iff]
  simp

/-- **A pass reports nothing exactly if no rule finds anything in its text.** -/
theorem patch_eq_nil_iff {sets : List RuleSet} {text : String} :
    patch sets text = .ok ⟨text, []⟩ ↔ ∀ s ∈ sets, ∀ rule ∈ s.rules, rule.find text = [] := by
  rw [patch_eq_ok_iff]
  constructor
  · rintro ⟨stages, htrail, hreport⟩
    cases stages with
    | nil =>
      intro s hs rule hrule
      have hstep : (s.name, rule) ∈ steps sets :=
        List.mem_flatMap.2 ⟨s, hs, List.mem_map_of_mem hrule⟩
      exact (Trail.nil_iff.1 htrail).1 _ hstep
    | cons s stages =>
      have hnil := (List.append_eq_nil_iff.1 hreport.symm).1
      exact absurd hnil (htrail.report_ne_nil s List.mem_cons_self)
  · intro h
    exact ⟨[], Trail.nil_iff.2 ⟨forall_steps h, rfl⟩, rfl⟩

end LiteralPatch
