import LiteralPatch.Proofs.Attempts
import LiteralPatch.Proofs.Table.Valid
import LiteralPatch.Table.Load

/-!
# Validating and compiling agree

Validation compiles every rule and goes on after a failure; compilation stops at the first one.  Both go
through the rules in the same order and both use the cache, each with what it finds there.  The cache does
not matter, since every compilation ends in the same way with any (`Compiling.Ends`), so what is left are
two ways to look through one list of rules for those that fail: for all of them, or for the first
(`RuleTable.validation_agrees`).

A rule without a name is not compiled when it is validated.  So the two agree on tables without issues,
and on failures wherever all rules are named.
-/

namespace LiteralPatch

/-! ## How compiling a rule and a table ends -/

namespace RuleDefinition

/-- How compiling the rule ends. -/
def ending (d : RuleDefinition) : Except RuleError Rule :=
  ((ExceptT.run d.compile).run PatternCache.empty).1

theorem compile_ends (d : RuleDefinition) : d.compile.Ends d.ending := by
  obtain ⟨result, hresult⟩ := d.compile_cacheFree
  intro c
  rw [hresult c, ending, hresult]

/-- Why the rule does not compile. -/
def failure? (d : RuleDefinition) : Option RuleError := causeOf? d.ending

theorem failure?_of_ends {d : RuleDefinition} {result : Except RuleError Rule}
    (h : d.compile.Ends result) : d.failure? = causeOf? result := by
  rw [failure?, ending, h]

theorem compile_ends_of_failure? {d : RuleDefinition} {cause : RuleError}
    (h : d.failure? = some cause) : d.compile.Ends (.error cause) := by
  rw [← causeOf?_eq_some_iff.1 h]
  exact d.compile_ends

theorem exists_ends_of_failure? {d : RuleDefinition} (h : d.failure? = none) :
    ∃ rule, d.compile.Ends (.ok rule) := by
  have hends := d.compile_ends
  rw [failure?] at h
  cases hending : d.ending with
  | ok rule =>
    rw [hending] at hends
    exact ⟨rule, hends⟩
  | error cause =>
    rw [hending] at h
    cases h

end RuleDefinition

namespace RuleTable

variable {t : RuleTable}

/-- How compiling the table ends: as compiling its rules does, one after the other. -/
def ending (t : RuleTable) : Except RuleError (List RuleSet) :=
  t.sets.mapM fun s => do
    pure ⟨s.name, ← s.rules.mapM RuleDefinition.ending⟩

theorem compile_ends (t : RuleTable) : t.compile.Ends t.ending := by
  refine Compiling.ends_mapM (fun s => ?_) t.sets
  refine (Compiling.ends_mapM RuleDefinition.compile_ends s.rules).bind fun rules => ?_
  exact (Compiling.gives_pure (⟨s.name, rules⟩ : RuleSet)).ends

/-- The rules of a table in the order of their declarations. -/
def rules (t : RuleTable) : List RuleDefinition := t.sets.flatMap RuleSetDefinition.rules

/-- **A table fails to compile as the first of its rules that fails.** -/
theorem causeOf?_ending (t : RuleTable) :
    causeOf? t.ending = t.rules.findSome? RuleDefinition.failure? := by
  have hset : ∀ s : RuleSetDefinition,
      causeOf? (do pure (⟨s.name, ← s.rules.mapM RuleDefinition.ending⟩ : RuleSet)) =
        s.rules.findSome? RuleDefinition.failure? := by
    intro s
    rw [show RuleDefinition.failure? = fun d => causeOf? d.ending from rfl, ← causeOf?_mapM]
    cases s.rules.mapM RuleDefinition.ending with
    | error cause => rfl
    | ok rules => rfl
  -- a search is the head of what is found, and heads are what is known of a flattened list
  calc causeOf? t.ending
      = t.sets.findSome? fun s => s.rules.findSome? RuleDefinition.failure? := by
        rw [ending, causeOf?_mapM, funext hset]
    _ = t.sets.findSome? fun s => (s.rules.filterMap RuleDefinition.failure?).head? := by
        simp only [List.head?_filterMap]
    _ = t.rules.findSome? RuleDefinition.failure? := by
        rw [← List.head?_flatMap, ← List.filterMap_flatMap, List.head?_filterMap, rules]

end RuleTable

/-! ## The first issue about a rule that does not compile -/

/-- The rule that does not compile, and why. -/
def Issue.invalid? : Issue → Option (String × RuleError)
  | invalidRule rule cause => some (rule, cause)
  | _ => none

theorem Issue.invalid?_eq_some_iff {issue : Issue} {rule : String} {cause : RuleError} :
    issue.invalid? = some (rule, cause) ↔ issue = .invalidRule rule cause := by
  cases issue <;> simp [invalid?]

namespace RuleDefinition

/-- What is reported of a rule that does not compile: its name and the cause. -/
def invalid? (d : RuleDefinition) : Option (String × RuleError) :=
  d.failure?.map fun cause => (d.name, cause)

theorem compileIssues_fst (d : RuleDefinition) (c : PatternCache) :
    (d.compileIssues.run c).1 = (d.failure?.map (Issue.invalidRule d.name)).toList := by
  have hfst := d.compile_ends c
  rw [compileIssues, StateT.run_bind, failure?, ← hfst]
  generalize (ExceptT.run d.compile).run c = ended
  obtain ⟨result, c'⟩ := ended
  cases result with
  | ok rule => rfl
  | error cause => rfl

/-- A rule with a name is reported as invalid exactly if it does not compile. -/
theorem findSome?_issues {d : RuleDefinition} (hnamed : Text.isBlank d.name = false)
    (seen : List String) (c : PatternCache) :
    ((d.issues seen).run c).1.findSome? Issue.invalid? = d.invalid? := by
  have hparts : ((d.issues seen).run c).1 =
      (if d.name ∈ seen then [Issue.duplicateRule d.name] else []) ++
        (d.missingFields.map fun field => Issue.missingField (some d.name) field) ++
          (d.compileIssues.run c).1 := by
    rw [issues, if_neg (by simp [hnamed])]
    rfl
  have hrepeated : (if d.name ∈ seen then [Issue.duplicateRule d.name] else []).findSome?
      Issue.invalid? = none := by
    split <;> rfl
  have hmissing : (d.missingFields.map fun field =>
      Issue.missingField (some d.name) field).findSome? Issue.invalid? = none := by
    rw [List.findSome?_eq_none_iff]
    intro issue hissue
    obtain ⟨field, -, rfl⟩ := List.mem_map.1 hissue
    rfl
  rw [hparts, List.findSome?_append, List.findSome?_append, hrepeated, hmissing, compileIssues_fst,
    invalid?]
  cases d.failure? with
  | none => rfl
  | some cause => rfl

end RuleDefinition

namespace RuleTable

variable {t : RuleTable}

theorem findSome?_rulesIssues {ds : List RuleDefinition}
    (hnamed : ∀ d ∈ ds, Text.isBlank d.name = false) (seen : List String) (c : PatternCache) :
    ((rulesIssues seen ds).run c).1.1.findSome? Issue.invalid? =
      ds.findSome? RuleDefinition.invalid? := by
  induction ds generalizing seen c with
  | nil => rfl
  | cons d ds ih =>
    obtain ⟨hd, hds⟩ := List.forall_mem_cons.1 hnamed
    have hparts : ((rulesIssues seen (d :: ds)).run c).1.1 = ((d.issues seen).run c).1 ++
        ((rulesIssues (d.taken seen) ds).run ((d.issues seen).run c).2).1.1 := rfl
    rw [hparts, List.findSome?_append, RuleDefinition.findSome?_issues hd, ih hds, List.findSome?_cons]
    cases d.invalid? with
    | none => rfl
    | some found => rfl

theorem findSome?_setsIssues {sets : List RuleSetDefinition}
    (hnamed : ∀ d ∈ sets.flatMap RuleSetDefinition.rules, Text.isBlank d.name = false)
    (seen : List String) (c : PatternCache) :
    ((setsIssues seen sets).run c).1.findSome? Issue.invalid? =
      (sets.flatMap RuleSetDefinition.rules).findSome? RuleDefinition.invalid? := by
  induction sets generalizing seen c with
  | nil => rfl
  | cons s sets ih =>
    rw [List.flatMap_cons] at hnamed ⊢
    obtain ⟨hs, hsets⟩ := List.forall_mem_append.1 hnamed
    have hparts : ((setsIssues seen (s :: sets)).run c).1 =
        setIssues s ++ ((rulesIssues seen s.rules).run c).1.1 ++
          ((setsIssues ((rulesIssues seen s.rules).run c).1.2 sets).run
            ((rulesIssues seen s.rules).run c).2).1 := rfl
    have hset : (setIssues s).findSome? Issue.invalid? = none := by
      unfold setIssues
      split <;> split <;> rfl
    rw [hparts, List.findSome?_append, List.findSome?_append, hset, findSome?_rulesIssues hs,
      ih hsets, List.findSome?_append, Option.none_or]

/-- **The first rule that is reported as invalid is the first that does not compile.** -/
theorem findSome?_issues (hnamed : ∀ d ∈ t.rules, Text.isBlank d.name = false) (c : PatternCache) :
    (t.issues.run c).1.findSome? Issue.invalid? = t.rules.findSome? RuleDefinition.invalid? := by
  have hparts : (t.issues.run c).1 =
      (if t.sets.isEmpty then [Issue.noRuleSets] else []) ++ ((setsIssues [] t.sets).run c).1 := rfl
  have hempty : (if t.sets.isEmpty then [Issue.noRuleSets] else []).findSome? Issue.invalid? = none := by
    split <;> rfl
  rw [hparts, List.findSome?_append, hempty, Option.none_or, findSome?_setsIssues hnamed]
  rfl

/-! ## Tables that are loaded -/

/-- Every table that this loading gives, with any cache, has been found without issues. -/
def LoadsValid (m : Loading RuleTable) : Prop :=
  ∀ c t, ((ExceptT.run m).run c).1 = .ok t → ∃ d : PatternCache, (t.issues.run d).1 = []

theorem loadsValid_throw (e : LoadError) : LoadsValid (throw e) :=
  fun _ _ h => nomatch h

theorem loadsValid_validated (path : Option Path) (t : RuleTable) : LoadsValid (validated path t) := by
  intro c loaded hok
  have hlooked : (ExceptT.run (liftM t.issues : Loading (List Issue))).run c =
      (.ok (t.issues.run c).1, (t.issues.run c).2) := rfl
  rw [validated, ExceptT.run_bind, StateT.run_bind, hlooked] at hok
  cases hissues : (t.issues.run c).1 with
  | nil =>
    rw [hissues] at hok
    obtain rfl := Except.ok.inj hok
    exact ⟨c, hissues⟩
  | cons issue issues =>
    rw [hissues] at hok
    cases hok

theorem loadsValid_ofText (path : Option Path) (text : String) : LoadsValid (ofText path text) := by
  unfold ofText
  split
  · exact loadsValid_throw _
  · exact loadsValid_validated path _

theorem loadsValid_ofDirectory (fs : FileSystem) (directory : Path) :
    LoadsValid (ofDirectory fs directory) := by
  unfold ofDirectory
  split
  · split
    · exact loadsValid_throw _
    · generalize List.mapM (ofFile fs) _ = read
      cases read with
      | error e => exact loadsValid_throw e
      | ok tables => exact loadsValid_validated (some directory) (merge tables)
  · exact loadsValid_throw _

theorem loadsValid_ofPath (fs : FileSystem) (path : Path) : LoadsValid (ofPath fs path) := by
  unfold ofPath
  split
  · exact loadsValid_ofDirectory fs path
  · split
    · exact loadsValid_throw _
    · exact loadsValid_ofText (some path) _

theorem loadsValid_ofProfile (name : String) : LoadsValid (ofProfile name) := by
  unfold ofProfile
  split
  · exact loadsValid_validated none _
  · exact loadsValid_throw _

/-! ## Agreement -/

/-- Where a table may come from. -/
inductive Origin where
  | text (text : String)
  | path (fs : FileSystem) (path : Path)
  | directory (fs : FileSystem) (path : Path)
  | profile (name : String)

/-- Loads the table. -/
def Origin.load : Origin → Loading RuleTable
  | text t => ofText none t
  | path fs p => ofPath fs p
  | directory fs p => ofDirectory fs p
  | profile name => ofProfile name

theorem Origin.loadsValid (o : Origin) : LoadsValid o.load := by
  cases o with
  | text t => exact loadsValid_ofText none t
  | path fs p => exact loadsValid_ofPath fs p
  | directory fs p => exact loadsValid_ofDirectory fs p
  | profile name => exact loadsValid_ofProfile name

/-- The rule is the first of the table that does not compile, and this is why. -/
structure FirstFailure (t : RuleTable) (d : RuleDefinition) (cause : RuleError) : Prop where
  fails : d.compile.Ends (.error cause)
  first : ∃ before after, t.rules = before ++ d :: after ∧
    ∀ b ∈ before, ∃ rule, b.compile.Ends (.ok rule)

theorem compile_eq_error_iff {c : PatternCache} {cause : RuleError} :
    ((ExceptT.run t.compile).run c).1 = .error cause ↔
      t.rules.findSome? RuleDefinition.failure? = some cause := by
  rw [t.compile_ends c, ← causeOf?_eq_some_iff, causeOf?_ending]

theorem firstFailure_of_compile {c : PatternCache} {cause : RuleError}
    (h : ((ExceptT.run t.compile).run c).1 = .error cause) : ∃ d, t.FirstFailure d cause := by
  rw [compile_eq_error_iff, List.findSome?_eq_some_iff] at h
  obtain ⟨before, d, after, hrules, hd, hbefore⟩ := h
  exact ⟨d, RuleDefinition.compile_ends_of_failure? hd, before, after, hrules,
    fun b hb => RuleDefinition.exists_ends_of_failure? (hbefore b hb)⟩

theorem FirstFailure.findSome?_issues {d : RuleDefinition} {cause : RuleError}
    (h : t.FirstFailure d cause) (c : PatternCache)
    (hnamed : ∀ d ∈ t.rules, Text.isBlank d.name = false) :
    (t.issues.run c).1.findSome? Issue.invalid? = some (d.name, cause) := by
  obtain ⟨hfails, before, after, hrules, hbefore⟩ := h
  rw [RuleTable.findSome?_issues hnamed, List.findSome?_eq_some_iff]
  refine ⟨before, d, after, hrules, ?_, fun b hb => ?_⟩
  · rw [RuleDefinition.invalid?, RuleDefinition.failure?_of_ends hfails]
    rfl
  · obtain ⟨rule, hrule⟩ := hbefore b hb
    rw [RuleDefinition.invalid?, RuleDefinition.failure?_of_ends hrule]
    rfl

/-- A table without issues compiles, to the declared names in the declared order. -/
theorem exists_ends_of_issues {c : PatternCache} (h : (t.issues.run c).1 = []) :
    ∃ sets, t.compile.Ends (.ok sets) ∧ (sets.map fun s => (s.name, s.rules.map Rule.name)) =
      t.sets.map fun d => (d.name, d.rules.map RuleDefinition.name) := by
  obtain ⟨sets, hgives, hdescribes⟩ := compile_of_issues h
  exact ⟨sets, hgives.ends, hdescribes.outline_eq⟩

/-- Compilation fails exactly if a rule is reported as invalid, whatever is in the cache before either. -/
theorem exists_error_iff (hnamed : ∀ d ∈ t.rules, Text.isBlank d.name = false) (c c' : PatternCache) :
    (∃ cause, ((ExceptT.run t.compile).run c).1 = .error cause) ↔
      ∃ rule cause, Issue.invalidRule rule cause ∈ (t.issues.run c').1 := by
  constructor
  · rintro ⟨cause, hcause⟩
    obtain ⟨d, hd⟩ := firstFailure_of_compile hcause
    obtain ⟨issue, hissue, hinvalid⟩ := List.exists_of_findSome?_eq_some (hd.findSome?_issues c' hnamed)
    rw [Issue.invalid?_eq_some_iff] at hinvalid
    exact ⟨d.name, cause, hinvalid ▸ hissue⟩
  · rintro ⟨rule, cause, hissue⟩
    have hreported : (t.rules.findSome? RuleDefinition.invalid?).isSome := by
      rw [← findSome?_issues hnamed c', List.findSome?_isSome_iff]
      exact ⟨_, hissue, rfl⟩
    obtain ⟨d, hd, hinvalid⟩ := List.findSome?_isSome_iff.1 hreported
    rw [RuleDefinition.invalid?, Option.isSome_map] at hinvalid
    -- this rule need not be the first that fails, but there is a first one
    have hfails := List.findSome?_isSome_iff.2 ⟨d, hd, hinvalid⟩
    obtain ⟨first, hfirst⟩ := Option.isSome_iff_exists.1 hfails
    exact ⟨first, compile_eq_error_iff.2 hfirst⟩

/-- **Validation and compilation agree,** whatever patterns are in the cache before either.

A table without issues compiles, to the declared names in the declared order, and so does every table
that is loaded.  If all rules are named, compilation fails exactly if validation reports an invalid rule,
and the first one it reports is the rule that compilation failed on, with the same cause. -/
theorem validation_agrees (t : RuleTable) :
    (∀ c, (t.issues.run c).1 = [] → ∃ sets, t.compile.Ends (.ok sets) ∧
      (sets.map fun s => (s.name, s.rules.map Rule.name)) =
        t.sets.map fun d => (d.name, d.rules.map RuleDefinition.name)) ∧
    (∀ (o : Origin) c, ((ExceptT.run o.load).run c).1 = .ok t → ∃ sets, t.compile.Ends (.ok sets)) ∧
    ((∀ d ∈ t.rules, Text.isBlank d.name = false) → ∀ c c',
      ((∃ cause, ((ExceptT.run t.compile).run c).1 = .error cause) ↔
        ∃ rule cause, Issue.invalidRule rule cause ∈ (t.issues.run c').1) ∧
      ∀ cause, ((ExceptT.run t.compile).run c).1 = .error cause → ∃ d, t.FirstFailure d cause ∧
        (t.issues.run c').1.findSome? Issue.invalid? = some (d.name, cause)) := by
  refine ⟨fun c hissues => exists_ends_of_issues hissues, fun o c hload => ?_,
    fun hnamed c c' => ⟨exists_error_iff hnamed c c', fun cause hcause => ?_⟩⟩
  · obtain ⟨d, hissues⟩ := o.loadsValid c t hload
    obtain ⟨sets, hends, -⟩ := exists_ends_of_issues hissues
    exact ⟨sets, hends⟩
  · obtain ⟨d, hd⟩ := firstFailure_of_compile hcause
    exact ⟨d, hd, hd.findSome?_issues c' hnamed⟩

/-- A table with one rule. -/
def oneLevel : RuleTable :=
  ⟨⟨"", none, none⟩, [⟨"levels", [.value "level" "level:(?P<value>[0-9])" [] "9" none false]⟩]⟩

/-- A text that declares it. -/
def oneLevelText : String :=
  "[[rule_sets]]\nname = 'levels'\n" ++
    "[[rule_sets.rules]]\nkind = 'value'\nname = 'level'\n" ++
    "primary = 'level:(?P<value>[0-9])'\nreplacement = '9'\n"

/-- A table with a flag that is switched to what it was, and a pattern that captures nothing behind it. -/
def idleFlag : RuleTable :=
  ⟨⟨"flags", none, none⟩, [⟨"flags", [
    .value "level" "level:(?P<value>[0-9])" [] "9" none false,
    .flag "beta" "beta" "enabled" true true .entry,
    .value "limit" "limit:[0-9]" [] "9" none false]⟩]⟩

/-- The first table compiles, as declared and as loaded; compiling the other fails at the flag. -/
theorem validation_agrees_idleFlag :
    (∃ sets, oneLevel.compile.Ends (.ok sets) ∧
      (sets.map fun s => (s.name, s.rules.map Rule.name)) = [("levels", ["level"])]) ∧
    ((ExceptT.run (Origin.text oneLevelText).load).run PatternCache.empty).1 = .ok oneLevel ∧
    (∃ sets, oneLevel.compile.Ends (.ok sets)) ∧
    (∃ d, idleFlag.FirstFailure d (.noOpFlag "beta" true) ∧
      (idleFlag.issues.run PatternCache.empty).1.findSome? Issue.invalid? =
        some (d.name, .noOpFlag "beta" true)) := by
  have hissues : (oneLevel.issues.run PatternCache.empty).1 = [] := by decide +kernel
  have hload : ((ExceptT.run (Origin.text oneLevelText).load).run PatternCache.empty).1 =
      .ok oneLevel := by decide +kernel
  have hnamed : ∀ d ∈ idleFlag.rules, Text.isBlank d.name = false := by decide +kernel
  have hfails : causeOf? ((ExceptT.run idleFlag.compile).run PatternCache.empty).1 =
      some (.noOpFlag "beta" true) := by decide +kernel
  obtain ⟨hcompiles, hloaded, -⟩ := oneLevel.validation_agrees
  obtain ⟨-, -, hagrees⟩ := idleFlag.validation_agrees
  exact ⟨hcompiles _ hissues, hload, hloaded _ _ hload,
    (hagrees hnamed PatternCache.empty PatternCache.empty).2 _ (causeOf?_eq_some_iff.1 hfails)⟩

end RuleTable
end LiteralPatch
