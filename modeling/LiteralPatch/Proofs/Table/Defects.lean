import LiteralPatch.Proofs.Table.Failures
import LiteralPatch.Proofs.Text.Front

/-!
# Validation reports each defect once

Validation asks a list of things of a table: of the table itself, of each set and of each rule
(`RuleTable.Condition`).  What it reports are the conditions that are violated, each by one issue of its own
(`RuleTable.issues_eq_defects`), so several defects neither hide nor repeat each other.  There is one
exception: of a rule without a name nothing is asked but the name.

Two things are threaded through validation, the cache and the names that are taken.  The first does not matter.
Of the second only this is used: a name that is not blank is taken exactly if a rule in front of this one has it
(`RuleTable.Taken`).  So what is reported of a rule depends on the rules in front of it, and the list of all
issues is made of lists for numbered sets and rules.
-/

namespace LiteralPatch

/-! ## Blank texts -/

namespace Text

theorem trimLeft_eq_nil_iff {cs : List Char} : trimLeft cs = [] ↔ ∀ c ∈ cs, Unicode.isWhite c = true :=
  List.dropWhile_eq_nil_iff

/-- A text is blank exactly if nothing of it is left without the white space at its ends. -/
theorem isBlank_iff {s : String} : isBlank s = true ↔ trimmed s = "" := by
  have htrim : trim s.toList = [] ↔ ∀ c ∈ s.toList, Unicode.isWhite c = true := by
    rw [trim, List.reverse_eq_nil_iff, trimLeft_eq_nil_iff]
    simp only [List.mem_reverse]
    constructor
    · intro h
      rw [← trimLeft_eq_nil_iff]
      by_contra hne
      -- what is left begins with a character that is no white space
      have hfront : Front Unicode.isWhite s.toList (s.toList.takeWhile Unicode.isWhite)
        (trimLeft s.toList) := Front.iff.2 ⟨rfl, rfl⟩
      obtain ⟨c, cs, hcs⟩ := List.exists_cons_of_ne_nil hne
      have hwhite := h c (hcs ▸ List.mem_cons_self)
      rw [hfront.stops c (hcs ▸ rfl)] at hwhite
      cases hwhite
    · exact fun h c hc => h c ((List.dropWhile_sublist _).subset hc)
  rw [isBlank, List.all_eq_true, ← htrim, trimmed, ← String.ofList_nil, String.ofList_inj]

end Text

/-! ## Numbered lists -/

section Tagged

variable {α κ κ' ι : Type} {key : Nat → κ → κ'} {f : α × Nat → List (κ × ι)}

/-- The entries of all members, with keys that tell the number of the member as well. -/
def tagged (key : Nat → κ → κ') (f : α × Nat → List (κ × ι)) (n : Nat) (as : List α) : List (κ' × ι) :=
  (as.zipIdx n).flatMap fun p => (f p).map fun e => (key p.2 e.1, e.2)

@[simp] theorem tagged_nil {n : Nat} : tagged key f n [] = [] := rfl

theorem tagged_cons {n : Nat} {a : α} {as : List α} :
    tagged key f n (a :: as) = (f (a, n)).map (fun e => (key n e.1, e.2)) ++ tagged key f (n + 1) as := rfl

theorem tagged_append {n : Nat} {as bs : List α} :
    tagged key f n (as ++ bs) = tagged key f n as ++ tagged key f (n + as.length) bs := by
  rw [tagged, List.zipIdx_append, List.flatMap_append]
  rfl

theorem mem_tagged {as : List α} {k : κ'} {x : ι} :
    (k, x) ∈ tagged key f 0 as ↔ ∃ n a k', as[n]? = some a ∧ (k', x) ∈ f (a, n) ∧ key n k' = k := by
  simp only [tagged, List.mem_flatMap, List.mem_map, Prod.exists, Prod.mk.injEq,
    List.mk_mem_zipIdx_iff_getElem?]
  constructor
  · rintro ⟨a, n, ha, k', x, hx, rfl, rfl⟩
    exact ⟨n, a, k', ha, hx, rfl⟩
  · rintro ⟨n, a, k', ha, hx, rfl⟩
    exact ⟨a, n, ha, k', x, hx, rfl, rfl⟩

theorem exists_key_of_mem_tagged {n : Nat} {as : List α} {k : κ'}
    (hk : k ∈ (tagged key f n as).map Prod.fst) : ∃ m k', k = key m k' := by
  simp only [tagged, List.map_flatMap, List.mem_flatMap, List.mem_map] at hk
  obtain ⟨p, -, -, ⟨e, -, rfl⟩, rfl⟩ := hk
  exact ⟨_, _, rfl⟩

/-- Keys that tell the number are different if the keys of each member are. -/
theorem nodup_tagged (hkey : ∀ m n k k', key m k = key n k' → m = n ∧ k = k')
    (hf : ∀ p, ((f p).map Prod.fst).Nodup) (n : Nat) (as : List α) :
    ((tagged key f n as).map Prod.fst).Nodup := by
  have hkeys (p : α × Nat) : ((f p).map fun e => (key p.2 e.1, e.2)).map Prod.fst =
      ((f p).map Prod.fst).map (key p.2) := by
    rw [List.map_map, List.map_map]
    rfl
  rw [tagged, List.map_flatMap, funext hkeys, List.nodup_flatMap]
  refine ⟨fun p _ => (hf p).map fun k k' h => (hkey _ _ _ _ h).2, ?_⟩
  have hnumbers : (as.zipIdx n).Pairwise fun p q => p.2 ≠ q.2 := by
    refine List.pairwise_map.1 ?_
    rw [List.zipIdx_map_snd]
    exact List.nodup_range'
  refine hnumbers.imp fun hne => ?_
  intro k hk hk'
  obtain ⟨a, -, rfl⟩ := List.mem_map.1 hk
  obtain ⟨b, -, hb⟩ := List.mem_map.1 hk'
  exact hne (hkey _ _ _ _ hb).1.symm

end Tagged

/-! ## What is asked of a table -/

namespace RuleDefinition

/-- The rule leaves the field open: it is blank, or for a replacement empty. -/
inductive Lacks : RuleDefinition → String → Prop where
  | primary {name primary replacement : String} {fallbacks : List String} {guard : Option Guard} {ic : Bool} :
      Text.trimmed primary = "" → Lacks (.value name primary fallbacks replacement guard ic) "primary"
  | replacement {name primary : String} {fallbacks : List String} {guard : Option Guard} {ic : Bool} :
      Lacks (.value name primary fallbacks "" guard ic) "replacement"
  | marker {name marker key : String} {old new : Bool} {scope : FlagScope} :
      Text.trimmed marker = "" → Lacks (.flag name marker key old new scope) "marker"
  | key {name marker key : String} {old new : Bool} {scope : FlagScope} :
      Text.trimmed key = "" → Lacks (.flag name marker key old new scope) "key"

theorem mem_missingFields {d : RuleDefinition} {field : String} :
    field ∈ d.missingFields ↔ d.Lacks field := by
  cases d with
  | value name primary fallbacks replacement guard ic =>
    simp only [missingFields, Text.isBlank_iff, List.mem_append, List.mem_ite_nil_right,
      List.mem_singleton, String.isEmpty_iff]
    constructor
    · rintro (⟨hblank, rfl⟩ | ⟨rfl, rfl⟩)
      · exact .primary hblank
      · exact .replacement
    · rintro (hblank | _)
      · exact .inl ⟨hblank, rfl⟩
      · exact .inr ⟨rfl, rfl⟩
  | flag name marker key old new scope =>
    simp only [missingFields, Text.isBlank_iff, List.mem_append, List.mem_ite_nil_right,
      List.mem_singleton]
    constructor
    · rintro (⟨hblank, rfl⟩ | ⟨hblank, rfl⟩)
      · exact .marker hblank
      · exact .key hblank
    · rintro (_ | _ | hblank | hblank)
      · exact .inl ⟨hblank, rfl⟩
      · exact .inr ⟨hblank, rfl⟩

theorem nodup_missingFields (d : RuleDefinition) : d.missingFields.Nodup := by
  cases d <;> dsimp only [missingFields] <;> split_ifs <;> decide

end RuleDefinition

namespace RuleTable

/-- What is asked of a set. -/
inductive SetCondition where
  | named
  | filled
deriving DecidableEq, Repr

/-- What is asked of a rule. -/
inductive RuleCondition where
  | named
  /-- No rule in front of it has its name. -/
  | unused
  | filled (field : String)
  | compiles
deriving DecidableEq, Repr

/-- What is asked of a table, with the number of the set or of the rule in it.  Rules are numbered through all
sets. -/
inductive Condition where
  | someSet
  | ofSet (i : Nat) (condition : SetCondition)
  | ofRule (n : Nat) (condition : RuleCondition)
deriving DecidableEq, Repr

/-- The set violates the condition, and the issue says so. -/
inductive SetDefect (s : RuleSetDefinition) : SetCondition → Issue → Prop where
  | named : Text.trimmed s.name = "" → SetDefect s .named (.missingField none "rule_sets.name")
  | filled : s.rules = [] → SetDefect s .filled (.emptyRuleSet s.name)

/-- The rule behind these others violates the condition, and the issue says so. -/
inductive RuleDefect (before : List RuleDefinition) (d : RuleDefinition) : RuleCondition → Issue → Prop where
  | named : Text.trimmed d.name = "" → RuleDefect before d .named (.missingField none "name")
  | unused : Text.trimmed d.name ≠ "" → (∃ b ∈ before, b.name = d.name) →
      RuleDefect before d .unused (.duplicateRule d.name)
  | filled {field : String} : Text.trimmed d.name ≠ "" → d.Lacks field →
      RuleDefect before d (.filled field) (.missingField (some d.name) field)
  | compiles {cause : RuleError} : Text.trimmed d.name ≠ "" → d.Fails cause →
      RuleDefect before d .compiles (.invalidRule d.name cause)

/-- The table violates the condition, and the issue says so. -/
inductive Defect (t : RuleTable) : Condition → Issue → Prop where
  | someSet : t.sets = [] → Defect t .someSet .noRuleSets
  | ofSet {i : Nat} {s : RuleSetDefinition} {condition : SetCondition} {issue : Issue} :
      t.sets[i]? = some s → SetDefect s condition issue → Defect t (.ofSet i condition) issue
  | ofRule {n : Nat} {d : RuleDefinition} {condition : RuleCondition} {issue : Issue} :
      t.rules[n]? = some d → RuleDefect (t.rules.take n) d condition issue →
        Defect t (.ofRule n condition) issue

/-! ## The defects in the order of the table -/

/-- The defects of a set itself. -/
def setDefects (p : RuleSetDefinition × Nat) : List (SetCondition × Issue) :=
  (if Text.isBlank p.1.name then [(.named, .missingField none "rule_sets.name")] else []) ++
    if p.1.rules.isEmpty then [(.filled, .emptyRuleSet p.1.name)] else []

/-- The defects of a numbered rule among all rules. -/
def ruleDefects (rules : List RuleDefinition) (p : RuleDefinition × Nat) : List (RuleCondition × Issue) :=
  if Text.isBlank p.1.name then [(.named, .missingField none "name")]
  else
    (if p.1.name ∈ (rules.take p.2).map RuleDefinition.name then
      [(.unused, .duplicateRule p.1.name)] else []) ++
    p.1.missingFields.map (fun field => (.filled field, .missingField (some p.1.name) field)) ++
    (p.1.failure?.map fun cause => (.compiles, .invalidRule p.1.name cause)).toList

/-- The defects of sets from a place in the table on: of each set, and then of its rules. -/
def setsDefects (rules : List RuleDefinition) : Nat → Nat → List RuleSetDefinition → List (Condition × Issue)
  | _, _, [] => []
  | i, n, s :: sets =>
    (setDefects (s, i)).map (fun e => (.ofSet i e.1, e.2)) ++
      tagged .ofRule (ruleDefects rules) n s.rules ++ setsDefects rules (i + 1) (n + s.rules.length) sets

/-- The defects of a table. -/
def defects (t : RuleTable) : List (Condition × Issue) :=
  (if t.sets.isEmpty then [(.someSet, .noRuleSets)] else []) ++ setsDefects t.rules 0 0 t.sets

theorem mem_setDefects {s : RuleSetDefinition} {i : Nat} {condition : SetCondition} {issue : Issue} :
    (condition, issue) ∈ setDefects (s, i) ↔ SetDefect s condition issue := by
  simp only [setDefects, Text.isBlank_iff, List.mem_append, List.mem_ite_nil_right, List.mem_singleton,
    List.isEmpty_iff, Prod.mk.injEq]
  constructor
  · rintro (⟨hblank, rfl, rfl⟩ | ⟨hempty, rfl, rfl⟩)
    · exact .named hblank
    · exact .filled hempty
  · rintro (hblank | hempty)
    · exact .inl ⟨hblank, rfl, rfl⟩
    · exact .inr ⟨hempty, rfl, rfl⟩

theorem mem_ruleDefects {rules : List RuleDefinition} {d : RuleDefinition} {n : Nat}
    {condition : RuleCondition} {issue : Issue} :
    (condition, issue) ∈ ruleDefects rules (d, n) ↔ RuleDefect (rules.take n) d condition issue := by
  unfold ruleDefects
  by_cases hblank : Text.isBlank d.name = true
  · rw [if_pos hblank, List.mem_singleton, Prod.mk.injEq]
    have htrimmed := Text.isBlank_iff.1 hblank
    constructor
    · rintro ⟨rfl, rfl⟩
      exact .named htrimmed
    · rintro (_ | hnamed | hnamed | hnamed)
      · exact ⟨rfl, rfl⟩
      · exact absurd htrimmed hnamed
      · exact absurd htrimmed hnamed
      · exact absurd htrimmed hnamed
  · have hnamed := mt Text.isBlank_iff.2 hblank
    rw [if_neg hblank]
    simp only [List.mem_append, List.mem_ite_nil_right, List.mem_singleton, List.mem_map, Option.mem_toList,
      Option.map_eq_some_iff, RuleDefinition.mem_missingFields, RuleDefinition.failure?_eq_some_iff,
      Prod.mk.injEq]
    constructor
    · rintro ((⟨hmem, rfl, rfl⟩ | ⟨field, hlacks, rfl, rfl⟩) | ⟨cause, hfails, rfl, rfl⟩)
      · exact .unused hnamed hmem
      · exact .filled hnamed hlacks
      · exact .compiles hnamed hfails
    · rintro (htrimmed | ⟨-, hmem⟩ | ⟨-, hlacks⟩ | ⟨-, hfails⟩)
      · exact absurd htrimmed hnamed
      · exact .inl (.inl ⟨hmem, rfl, rfl⟩)
      · exact .inl (.inr ⟨_, hlacks, rfl, rfl⟩)
      · exact .inr ⟨_, hfails, rfl, rfl⟩

theorem nodup_setDefects (p : RuleSetDefinition × Nat) : ((setDefects p).map Prod.fst).Nodup := by
  unfold setDefects
  split <;> split <;> simp

theorem nodup_ruleDefects (rules : List RuleDefinition) (p : RuleDefinition × Nat) :
    ((ruleDefects rules p).map Prod.fst).Nodup := by
  unfold ruleDefects
  split
  · simp
  · have hfields : (p.1.missingFields.map RuleCondition.filled).Nodup :=
      (RuleDefinition.nodup_missingFields p.1).map fun _ _ h => RuleCondition.filled.inj h
    cases p.1.failure? <;> split <;> simp [hfields, Function.comp_def, List.nodup_append]

/-- Sets and rules in turn are all sets and all rules. -/
theorem setsDefects_perm (rules : List RuleDefinition) (i n : Nat) (sets : List RuleSetDefinition) :
    (setsDefects rules i n sets).Perm (tagged .ofSet setDefects i sets ++
      tagged .ofRule (ruleDefects rules) n (sets.flatMap RuleSetDefinition.rules)) := by
  induction sets generalizing i n with
  | nil => exact .nil
  | cons s sets ih =>
    rw [setsDefects, List.flatMap_cons, tagged_cons, tagged_append, List.append_assoc, List.append_assoc]
    exact .append_left _ (((ih (i + 1) _).append_left _).trans (List.perm_append_comm_assoc _ _ _))

/-- The defects of a table, of all sets first and then of all rules. -/
theorem defects_perm (t : RuleTable) : t.defects.Perm
    ((if t.sets.isEmpty then [(.someSet, .noRuleSets)] else []) ++ (tagged .ofSet setDefects 0 t.sets ++
      tagged .ofRule (ruleDefects t.rules) 0 t.rules)) :=
  .append_left _ (setsDefects_perm t.rules 0 0 t.sets)

/-- **What is listed are the defects of the table.** -/
theorem mem_defects {t : RuleTable} {condition : Condition} {issue : Issue} :
    (condition, issue) ∈ t.defects ↔ t.Defect condition issue := by
  rw [t.defects_perm.mem_iff]
  simp only [List.mem_append, List.mem_ite_nil_right, List.mem_singleton, List.isEmpty_iff, mem_tagged,
    mem_setDefects, mem_ruleDefects, Prod.mk.injEq]
  constructor
  · rintro (⟨hempty, rfl, rfl⟩ | ⟨i, s, k, hs, hdefect, rfl⟩ | ⟨n, d, k, hd, hdefect, rfl⟩)
    · exact .someSet hempty
    · exact .ofSet hs hdefect
    · exact .ofRule hd hdefect
  · rintro (hempty | ⟨hs, hdefect⟩ | ⟨hd, hdefect⟩)
    · exact .inl ⟨hempty, rfl, rfl⟩
    · exact .inr (.inl ⟨_, _, _, hs, hdefect, rfl⟩)
    · exact .inr (.inr ⟨_, _, _, hd, hdefect, rfl⟩)

/-- **No condition is listed twice.** -/
theorem nodup_defects (t : RuleTable) : (t.defects.map Prod.fst).Nodup := by
  have hset : ((tagged Condition.ofSet setDefects 0 t.sets).map Prod.fst).Nodup :=
    nodup_tagged (by simp) nodup_setDefects 0 t.sets
  have hrule : ((tagged Condition.ofRule (ruleDefects t.rules) 0 t.rules).map Prod.fst).Nodup :=
    nodup_tagged (by simp) (nodup_ruleDefects t.rules) 0 t.rules
  rw [(t.defects_perm.map Prod.fst).nodup_iff, List.map_append, List.map_append, List.nodup_append,
    List.nodup_append]
  refine ⟨by split <;> simp, ⟨hset, hrule, fun k hk k' hk' heq => ?_⟩, fun k hk k' hk' heq => ?_⟩
  · obtain ⟨i, c, rfl⟩ := exists_key_of_mem_tagged hk
    obtain ⟨n, c', rfl⟩ := exists_key_of_mem_tagged hk'
    cases heq
  · obtain ⟨-, rfl⟩ : t.sets.isEmpty = true ∧ k = .someSet := by simpa using hk
    rcases List.mem_append.1 hk' with hk' | hk'
    · obtain ⟨i, c, rfl⟩ := exists_key_of_mem_tagged hk'
      cases heq
    · obtain ⟨n, c, rfl⟩ := exists_key_of_mem_tagged hk'
      cases heq

/-! ## What validation reports -/

/-- The names that are taken are those of these rules, apart from blank ones. -/
def Taken (before : List RuleDefinition) (seen : List String) : Prop :=
  ∀ name, Text.isBlank name = false → (name ∈ seen ↔ name ∈ before.map RuleDefinition.name)

theorem Taken.snoc {before : List RuleDefinition} {seen : List String} (h : Taken before seen)
    (d : RuleDefinition) : Taken (before ++ [d]) (d.taken seen) := by
  intro name hname
  rw [RuleDefinition.taken, List.map_append, List.mem_append, ← h name hname]
  split
  · next hblank =>
    have hne : name ≠ d.name := by
      rintro rfl
      exact Bool.false_ne_true (hname.symm.trans hblank)
    simp [hne]
  · simp [or_comm]

/-- The issues of a rule are its defects, where the names of the rules in front of it are taken. -/
theorem issues_fst {rules before : List RuleDefinition} {d : RuleDefinition} {seen : List String}
    (htaken : Taken before seen) (hbefore : rules.take before.length = before) (c : PatternCache) :
    ((d.issues seen).run c).1 = (ruleDefects rules (d, before.length)).map Prod.snd := by
  unfold RuleDefinition.issues ruleDefects
  by_cases hblank : Text.isBlank d.name = true
  · rw [if_pos hblank, if_pos hblank]
    rfl
  · rw [if_neg hblank, if_neg hblank, hbefore]
    simp only [htaken d.name (Bool.eq_false_iff.2 hblank)]
    have hparts : ∀ repeated missing : List Issue,
        ((do pure (repeated ++ missing ++ (← d.compileIssues)) : StateM PatternCache (List Issue)).run c).1 =
          repeated ++ missing ++ (d.compileIssues.run c).1 := fun _ _ => rfl
    rw [hparts, RuleDefinition.compileIssues_fst]
    cases d.failure? <;> split <;> simp [Function.comp_def]

/-- The issues of rules are their defects, and behind them their names are taken too. -/
theorem rulesIssues_fst {rules before ds after : List RuleDefinition} {seen : List String}
    (hrules : rules = before ++ ds ++ after) (htaken : Taken before seen) (c : PatternCache) :
    ((rulesIssues seen ds).run c).1.1 =
        (tagged Condition.ofRule (ruleDefects rules) before.length ds).map Prod.snd ∧
      Taken (before ++ ds) ((rulesIssues seen ds).run c).1.2 := by
  induction ds generalizing before seen c with
  | nil =>
    rw [List.append_nil]
    exact ⟨rfl, htaken⟩
  | cons d ds ih =>
    have hbefore : rules.take before.length = before := by
      rw [hrules, List.append_assoc, List.take_left]
    have hbehind : rules = (before ++ [d]) ++ ds ++ after := by simp [hrules]
    obtain ⟨hlater, htaken'⟩ := ih hbehind (htaken.snoc d) ((d.issues seen).run c).2
    constructor
    · calc ((rulesIssues seen (d :: ds)).run c).1.1
          = ((d.issues seen).run c).1 ++
              ((rulesIssues (d.taken seen) ds).run ((d.issues seen).run c).2).1.1 := rfl
        _ = _ := by
          rw [hlater, issues_fst htaken hbefore, tagged_cons, List.map_append, List.length_append,
            List.length_singleton, List.map_map]
          rfl
    · rw [List.append_cons]
      exact htaken'

theorem setIssues_eq (s : RuleSetDefinition) (i : Nat) :
    setIssues s = (setDefects (s, i)).map Prod.snd := by
  unfold setIssues setDefects
  split <;> split <;> rfl

/-- The issues of sets are their defects and those of their rules. -/
theorem setsIssues_fst {rules before after : List RuleDefinition} {sets : List RuleSetDefinition}
    {seen : List String} (hrules : rules = before ++ sets.flatMap RuleSetDefinition.rules ++ after)
    (htaken : Taken before seen) (i : Nat) (c : PatternCache) :
    ((setsIssues seen sets).run c).1 = (setsDefects rules i before.length sets).map Prod.snd := by
  induction sets generalizing before seen i c with
  | nil => rfl
  | cons s sets ih =>
    have hfirst : rules = before ++ s.rules ++ (sets.flatMap RuleSetDefinition.rules ++ after) := by
      simp [hrules]
    have hbehind : rules = (before ++ s.rules) ++ sets.flatMap RuleSetDefinition.rules ++ after := by
      simp [hrules]
    obtain ⟨hinside, htaken'⟩ := rulesIssues_fst hfirst htaken c
    have hlater := ih hbehind htaken' (i + 1) ((rulesIssues seen s.rules).run c).2
    calc ((setsIssues seen (s :: sets)).run c).1
        = setIssues s ++ ((rulesIssues seen s.rules).run c).1.1 ++
            ((setsIssues ((rulesIssues seen s.rules).run c).1.2 sets).run
              ((rulesIssues seen s.rules).run c).2).1 := rfl
      _ = _ := by
        rw [hinside, hlater, setIssues_eq s i, setsDefects, List.map_append, List.map_append,
          List.length_append, List.map_map]
        rfl

/-- **Validation reports the defects of a table,** whatever is in the cache. -/
theorem issues_eq_defects (t : RuleTable) (c : PatternCache) :
    (t.issues.run c).1 = t.defects.map Prod.snd := by
  have hrules : t.rules = [] ++ t.sets.flatMap RuleSetDefinition.rules ++ [] := by simp [rules]
  have htaken : Taken [] [] := fun _ _ => by simp
  have hsets := setsIssues_fst hrules htaken 0 c
  calc (t.issues.run c).1
      = (if t.sets.isEmpty then [Issue.noRuleSets] else []) ++ ((setsIssues [] t.sets).run c).1 := rfl
    _ = t.defects.map Prod.snd := by
      rw [hsets, defects, List.map_append]
      split <;> rfl

end RuleTable
end LiteralPatch
