import LiteralPatch.Proofs.Rule.Compiled
import LiteralPatch.Table.Validation
import Mathlib.Data.List.Nodup

/-!
# What a valid table promises

A table without issues compiles, whatever patterns are in the cache, and to what it declares: the rules
have the declared names, literals and guards, and their patterns are the declared ones
(`RuleTable.compile_of_issues`).  The names of its rules are all different.

Validation compiles each rule with the cache that the rules before it have left, and the compilation that
counts comes later, with yet another cache.  So one needs that a compilation gives the same in every cache
(`Compiling.CacheFree`); this goes through the combinators, as does what a compilation ensures about
whatever it gives (`Compiling.Ensures`).
-/

namespace LiteralPatch

namespace Compiling

variable {α β : Type} {m : Compiling α} {f : α → Compiling β}

/-- The compilation ends in this way, whatever patterns are in the cache. -/
def Ends (m : Compiling α) (result : Except RuleError α) : Prop :=
  ∀ c : PatternCache, ((ExceptT.run m).run c).1 = result

theorem Gives.ends {a : α} (h : m.Gives a) : m.Ends (.ok a) := by
  intro c
  obtain ⟨c', hrun⟩ := h c
  rw [hrun]

theorem Ends.bind {result : Except RuleError α} {g : α → Except RuleError β} (hm : m.Ends result)
    (hf : ∀ a, (f a).Ends (g a)) : (m >>= f).Ends (result >>= g) := by
  intro c
  have hfst := hm c
  rw [ExceptT.run_bind, StateT.run_bind]
  generalize (ExceptT.run m).run c = ended at hfst ⊢
  obtain ⟨ended, d⟩ := ended
  cases hfst
  cases ended with
  | error cause => rfl
  | ok a => exact hf a d

theorem ends_mapM {f : α → Compiling β} {g : α → Except RuleError β} (h : ∀ a, (f a).Ends (g a))
    (as : List α) : Ends (as.mapM f) (as.mapM g) := by
  induction as with
  | nil => exact (gives_pure []).ends
  | cons a as ih =>
    rw [List.mapM_cons, List.mapM_cons]
    exact (h a).bind fun b => ih.bind fun bs => (gives_pure (b :: bs)).ends

/-- The compilation ends in the same way in every cache. -/
def CacheFree (m : Compiling α) : Prop :=
  ∃ result, ∀ c : PatternCache, ((ExceptT.run m).run c).1 = result

theorem Gives.cacheFree {a : α} (h : m.Gives a) : m.CacheFree :=
  ⟨.ok a, h.ends⟩

/-- What is given in one cache is given in all. -/
theorem CacheFree.gives (h : m.CacheFree) {a : α} {c : PatternCache}
    (hok : ((ExceptT.run m).run c).1 = .ok a) : m.Gives a := by
  obtain ⟨result, hresult⟩ := h
  intro d
  refine ⟨((ExceptT.run m).run d).2, Prod.ext ?_ rfl⟩
  rw [hresult d, ← hresult c, hok]

/-- What one run shows of a result, a result shows for any cache. -/
theorem CacheFree.exists_gives (h : m.CacheFree) {f : α → β} {b : β} {c : PatternCache}
    (hrun : ((ExceptT.run m).run c).1.map f = .ok b) : ∃ a, m.Gives a ∧ f a = b := by
  cases hresult : ((ExceptT.run m).run c).1 with
  | error fault =>
    rw [hresult] at hrun
    cases hrun
  | ok a =>
    rw [hresult] at hrun
    exact ⟨a, h.gives hresult, Except.ok.inj hrun⟩

theorem cacheFree_throw (e : RuleError) : CacheFree (throw e : Compiling α) :=
  ⟨.error e, fun _ => rfl⟩

theorem CacheFree.bind (hm : m.CacheFree) (hf : ∀ a, (f a).CacheFree) : (m >>= f).CacheFree := by
  obtain ⟨result, hresult⟩ := hm
  choose g hg using hf
  exact ⟨result >>= g, Ends.bind hresult hg⟩

theorem cacheFree_mapM {f : α → Compiling β} (hf : ∀ a, (f a).CacheFree) (as : List α) :
    CacheFree (as.mapM f) := by
  choose g hg using hf
  exact ⟨as.mapM g, ends_mapM hg as⟩

/-- Whatever the compilation gives has the property. -/
def Ensures (m : Compiling α) (Q : α → Prop) : Prop :=
  ∀ c a, ((ExceptT.run m).run c).1 = .ok a → Q a

theorem Gives.of_ensures {Q : α → Prop} {a : α} (h : m.Gives a) (hQ : m.Ensures Q) : Q a := by
  obtain ⟨c', hrun⟩ := h PatternCache.empty
  exact hQ PatternCache.empty a (by rw [hrun])

theorem ensures_pure {Q : α → Prop} {a : α} (h : Q a) : Ensures (pure a) Q := by
  intro c b hb
  obtain rfl := Except.ok.inj hb
  exact h

theorem ensures_throw {Q : α → Prop} (e : RuleError) : Ensures (throw e) Q :=
  fun _ _ hb => nomatch hb

theorem Ensures.bind {P : α → Prop} {Q : β → Prop} (hm : m.Ensures P)
    (hf : ∀ a, P a → (f a).Ensures Q) : (m >>= f).Ensures Q := by
  intro c b hb
  have hfst := hm c
  rw [ExceptT.run_bind, StateT.run_bind] at hb
  generalize (ExceptT.run m).run c = ended at hfst hb
  obtain ⟨result, d⟩ := ended
  cases result with
  | error e => cases hb
  | ok a => exact hf a (hfst a rfl) d b hb

theorem ensures_mapM {f : α → Compiling β} {Q : α → β → Prop} (hf : ∀ a, (f a).Ensures (Q a))
    (as : List α) : Ensures (as.mapM f) (List.Forall₂ Q as) := by
  induction as with
  | nil => exact ensures_pure .nil
  | cons a as ih =>
    rw [List.mapM_cons]
    exact (hf a).bind fun b hb => ih.bind fun bs hbs => ensures_pure (.cons hb hbs)

end Compiling

/-! ## What a declaration describes -/

/-- The pattern is the one with this source. -/
structure ValuePattern.Of (source : String) (ignoreCase : Bool) (p : ValuePattern) : Prop where
  compile_eq : Pattern.compile source ignoreCase = .ok p.pattern
  group_eq : p.pattern.captureNamed valueGroup = some p.group

namespace RuleDefinition

/-- The rule has the name, the literals and the guard of the declaration, and its patterns. -/
inductive Describes : RuleDefinition → Rule → Prop where
  | value {name primary replacement : String} {fallbacks : List String} {guard : Option Guard}
    {ic : Bool} {p : ValuePattern} {ps : List ValuePattern} (hp : ValuePattern.Of primary ic p)
    (hps : List.Forall₂ (fun source p => ValuePattern.Of source ic p) fallbacks ps) :
    Describes (.value name primary fallbacks replacement guard ic)
      (.value ⟨name, p, ps, replacement, guard⟩)
  | flag {name marker key : String} {old new : Bool} {scope : FlagScope} {p : ValuePattern}
    (hne : old ≠ new) (hp : ValuePattern.Of (scope.pattern marker key old) true p) :
    Describes (.flag name marker key old new scope) (.flag ⟨name, new, p⟩)

theorem Describes.name_eq {d : RuleDefinition} {r : Rule} (h : Describes d r) : r.name = d.name := by
  cases h with
  | value _ _ => rfl
  | flag _ _ => rfl

end RuleDefinition

/-! ## Compiling what is declared -/

open Compiling

namespace ValuePattern

theorem compile_cacheFree (rule source : String) (ic : Bool) : (compile rule source ic).CacheFree := by
  refine (gives_fetch ⟨source, ic⟩).cacheFree.bind fun result => ?_
  cases result with
  | error fault => exact cacheFree_throw _
  | ok p =>
    show CacheFree (MonadExcept.ofExcept (ofPattern rule p))
    cases ofPattern rule p with
    | error e => exact cacheFree_throw e
    | ok v => exact (gives_pure v).cacheFree

theorem compile_ensures (rule source : String) (ic : Bool) :
    (compile rule source ic).Ensures (Of source ic) := by
  have hfetch : Ensures (modifyGet fun c : PatternCache => c.fetch ⟨source, ic⟩)
      fun result => result = Pattern.compile source ic := by
    intro c result hresult
    obtain ⟨c', hrun⟩ := gives_fetch ⟨source, ic⟩ c
    rw [hrun] at hresult
    exact (Except.ok.inj hresult).symm
  refine hfetch.bind fun result hresult => ?_
  cases result with
  | error fault => exact ensures_throw _
  | ok p =>
    show Ensures (MonadExcept.ofExcept (ofPattern rule p)) _
    unfold ofPattern
    split
    · next group hgroup => exact ensures_pure ⟨hresult.symm, hgroup⟩
    · exact ensures_throw _

end ValuePattern

namespace RuleDefinition

theorem compile_cacheFree (d : RuleDefinition) : d.compile.CacheFree := by
  cases d with
  | value name primary fallbacks replacement guard ic =>
    refine CacheFree.bind ?_ fun rule => (gives_pure (Rule.value rule)).cacheFree
    refine (ValuePattern.compile_cacheFree name primary ic).bind fun p => ?_
    refine (cacheFree_mapM (fun source => ValuePattern.compile_cacheFree name source ic)
      fallbacks).bind fun ps => ?_
    exact (gives_pure (⟨name, p, ps, replacement, guard⟩ : ValueRule)).cacheFree
  | flag name marker key old new scope =>
    refine CacheFree.bind ?_ fun rule => (gives_pure (Rule.flag rule)).cacheFree
    rw [FlagRule.compile]
    by_cases hne : old = new
    · rw [if_pos hne]
      exact (cacheFree_throw _).bind fun _ => (ValuePattern.compile_cacheFree _ _ _).bind fun p =>
        (gives_pure (⟨name, new, p⟩ : FlagRule)).cacheFree
    · rw [if_neg hne]
      exact (ValuePattern.compile_cacheFree _ _ _).bind fun p =>
        (gives_pure (⟨name, new, p⟩ : FlagRule)).cacheFree

/-- **A declaration compiles to what it describes,** if to anything. -/
theorem compile_ensures (d : RuleDefinition) : d.compile.Ensures (Describes d) := by
  cases d with
  | value name primary fallbacks replacement guard ic =>
    refine Ensures.bind (P := fun rule => Describes (value name primary fallbacks replacement guard ic)
      (.value rule)) ?_ fun rule hrule => ensures_pure hrule
    refine (ValuePattern.compile_ensures name primary ic).bind fun p hp => ?_
    refine (ensures_mapM (fun source => ValuePattern.compile_ensures name source ic)
      fallbacks).bind fun ps hps => ?_
    exact ensures_pure (.value hp hps)
  | flag name marker key old new scope =>
    refine Ensures.bind (P := fun rule => Describes (flag name marker key old new scope) (.flag rule))
      ?_ fun rule hrule => ensures_pure hrule
    rw [FlagRule.compile]
    by_cases hne : old = new
    · rw [if_pos hne]
      exact (ensures_throw (Q := fun _ => False) _).bind fun _ hfalse => hfalse.elim
    · rw [if_neg hne]
      exact (ValuePattern.compile_ensures _ _ _).bind fun p hp => ensures_pure (.flag hne hp)

end RuleDefinition

/-! ## Tables without issues -/

namespace RuleDefinition

/-- A declaration that can be used by itself. -/
structure Valid (d : RuleDefinition) : Prop where
  named : Text.isBlank d.name = false
  complete : d.missingFields = []
  compiles : ∃ rule, d.compile.Gives rule

theorem Valid.exists_describes {d : RuleDefinition} (h : d.Valid) :
    ∃ rule, d.compile.Gives rule ∧ d.Describes rule := by
  obtain ⟨rule, hrule⟩ := h.compiles
  exact ⟨rule, hrule, hrule.of_ensures d.compile_ensures⟩

/-- A rule without issues is valid, and its name is new. -/
theorem valid_of_issues {d : RuleDefinition} {seen : List String} {c : PatternCache}
    (h : ((d.issues seen).run c).1 = []) : d.Valid ∧ d.name ∉ seen := by
  rw [issues] at h
  by_cases hblank : Text.isBlank d.name = true
  · rw [if_pos hblank] at h
    cases h
  · rw [if_neg hblank] at h
    have hparts : ((if d.name ∈ seen then [Issue.duplicateRule d.name] else []) ++
        d.missingFields.map fun field => Issue.missingField (some d.name) field) ++
          (d.compileIssues.run c).1 = [] := h
    obtain ⟨hfront, hcompile⟩ := List.append_eq_nil_iff.1 hparts
    obtain ⟨hseen, hmissing⟩ := List.append_eq_nil_iff.1 hfront
    have hgives : ∃ rule, d.compile.Gives rule := by
      cases hrun : ((ExceptT.run d.compile).run c).1 with
      | ok rule => exact ⟨rule, d.compile_cacheFree.gives hrun⟩
      | error cause =>
        rw [compileIssues, StateT.run_bind] at hcompile
        generalize (ExceptT.run d.compile).run c = ended at hrun hcompile
        obtain ⟨_, c'⟩ := ended
        obtain rfl := hrun
        cases hcompile
    refine ⟨⟨by simpa using hblank, List.map_eq_nil_iff.1 hmissing, hgives⟩, fun hmem => ?_⟩
    rw [if_pos hmem] at hseen
    cases hseen

end RuleDefinition

namespace RuleTable

/-- The names of the rules of a table, set by set. -/
def ruleNames (sets : List RuleSetDefinition) : List String :=
  sets.flatMap fun s => s.rules.map RuleDefinition.name

/-- Rules without issues are valid, and their names are new and different. -/
theorem valid_of_rulesIssues {seen : List String} {ds : List RuleDefinition} {c : PatternCache}
    (h : ((rulesIssues seen ds).run c).1.1 = []) (hseen : seen.Nodup) :
    (∀ d ∈ ds, d.Valid) ∧
      ((rulesIssues seen ds).run c).1.2 = (ds.map RuleDefinition.name).reverse ++ seen ∧
      ((ds.map RuleDefinition.name).reverse ++ seen).Nodup := by
  induction ds generalizing seen c with
  | nil => exact ⟨by simp, rfl, hseen⟩
  | cons d ds ih =>
    have hparts : ((d.issues seen).run c).1 ++
        ((rulesIssues (d.taken seen) ds).run ((d.issues seen).run c).2).1.1 = [] := h
    obtain ⟨hhere, hlater⟩ := List.append_eq_nil_iff.1 hparts
    obtain ⟨hvalid, hnew⟩ := RuleDefinition.valid_of_issues hhere
    have htaken : d.taken seen = d.name :: seen := by
      rw [RuleDefinition.taken, if_neg (by simp [hvalid.named])]
    rw [htaken] at hlater
    obtain ⟨hvalids, htakens, hnodup⟩ := ih hlater (List.nodup_cons.2 ⟨hnew, hseen⟩)
    have hmove : ((d :: ds).map RuleDefinition.name).reverse ++ seen =
        (ds.map RuleDefinition.name).reverse ++ d.name :: seen := by simp
    refine ⟨List.forall_mem_cons.2 ⟨hvalid, hvalids⟩, ?_, by rwa [hmove]⟩
    rw [hmove, ← htakens, ← htaken]
    rfl

theorem valid_of_setsIssues {seen : List String} {sets : List RuleSetDefinition} {c : PatternCache}
    (h : ((setsIssues seen sets).run c).1 = []) (hseen : seen.Nodup) :
    (∀ s ∈ sets, ∀ d ∈ s.rules, d.Valid) ∧ ((ruleNames sets).reverse ++ seen).Nodup := by
  induction sets generalizing seen c with
  | nil => exact ⟨by simp, hseen⟩
  | cons s sets ih =>
    have hparts : setIssues s ++ ((rulesIssues seen s.rules).run c).1.1 ++
        ((setsIssues ((rulesIssues seen s.rules).run c).1.2 sets).run
          ((rulesIssues seen s.rules).run c).2).1 = [] := h
    obtain ⟨hfront, hlater⟩ := List.append_eq_nil_iff.1 hparts
    obtain ⟨-, hrules⟩ := List.append_eq_nil_iff.1 hfront
    obtain ⟨hvalid, htaken, hnodup⟩ := valid_of_rulesIssues hrules hseen
    rw [htaken] at hlater
    obtain ⟨hvalids, hnodups⟩ := ih hlater hnodup
    refine ⟨List.forall_mem_cons.2 ⟨hvalid, hvalids⟩, ?_⟩
    have hmove : (ruleNames (s :: sets)).reverse ++ seen =
        (ruleNames sets).reverse ++ ((s.rules.map RuleDefinition.name).reverse ++ seen) := by
      simp [ruleNames]
    rwa [hmove]

/-- The rule sets are the declared ones. -/
def Describes (t : RuleTable) (sets : List RuleSet) : Prop :=
  List.Forall₂ (fun (d : RuleSetDefinition) (s : RuleSet) =>
    s.name = d.name ∧ List.Forall₂ RuleDefinition.Describes d.rules s.rules) t.sets sets

/-- **The sets and rules that are described have the declared names,** in the declared order. -/
theorem Describes.outline_eq {t : RuleTable} {sets : List RuleSet} (h : t.Describes sets) :
    (sets.map fun s => (s.name, s.rules.map Rule.name)) =
      t.sets.map fun d => (d.name, d.rules.map RuleDefinition.name) := by
  have hrules : ∀ {ds : List RuleDefinition} {rules : List Rule},
      List.Forall₂ RuleDefinition.Describes ds rules →
        rules.map Rule.name = ds.map RuleDefinition.name := by
    intro ds rules hds
    induction hds with
    | nil => rfl
    | cons hd _ ih => rw [List.map_cons, List.map_cons, hd.name_eq, ih]
  unfold Describes at h
  generalize t.sets = ds at h
  induction h with
  | nil => rfl
  | cons hset _ ih => rw [List.map_cons, List.map_cons, hset.1, hrules hset.2, ih]

/-- A table without issues has valid rules with different names. -/
theorem valid_of_issues {t : RuleTable} {c : PatternCache} (h : (t.issues.run c).1 = []) :
    (∀ s ∈ t.sets, ∀ d ∈ s.rules, d.Valid) ∧ (ruleNames t.sets).Nodup := by
  have hparts : (if t.sets.isEmpty then [Issue.noRuleSets] else []) ++
      ((setsIssues [] t.sets).run c).1 = [] := h
  obtain ⟨hvalid, hnodup⟩ := valid_of_setsIssues (List.append_eq_nil_iff.1 hparts).2 .nil
  rw [List.append_nil, List.nodup_reverse] at hnodup
  exact ⟨hvalid, hnodup⟩

/-- **A table without issues compiles to what it declares,** with any cache. -/
theorem compile_of_issues {t : RuleTable} {c : PatternCache} (h : (t.issues.run c).1 = []) :
    ∃ sets, t.compile.Gives sets ∧ t.Describes sets := by
  obtain ⟨hvalid, -⟩ := valid_of_issues h
  exact exists_compile_gives fun d hd r hr => (hvalid d hd r hr).exists_describes

end RuleTable
end LiteralPatch
