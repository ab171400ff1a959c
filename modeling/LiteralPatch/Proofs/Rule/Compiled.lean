import LiteralPatch.Proofs.Attempts
import LiteralPatch.Proofs.Pattern.Cached
import LiteralPatch.Proofs.Pattern.Reading
import LiteralPatch.Proofs.Rule.Captured
import LiteralPatch.Table.Definition

/-!
# What a declared pattern compiles to

Compilation goes through the cache of patterns, but does not depend on it: an entry is what compiling its
key gives.  `Compiling.Gives m a` says that a compilation gives `a` whatever the cache is, and it goes
through the combinators as one would expect.

A pattern that is read as parts around one capture gives a value pattern with these parts around the value
(`ValuePattern.exists_frames`).
-/

namespace LiteralPatch

/-! ## Compiling through the cache -/

/-- The compilation gives `a`, whatever patterns are in the cache. -/
def Compiling.Gives {α : Type} (m : Compiling α) (a : α) : Prop :=
  ∀ c : PatternCache, ∃ c', (ExceptT.run m).run c = (.ok a, c')

namespace Compiling

variable {α β : Type}

theorem gives_pure (a : α) : Gives (pure a) a := fun c => ⟨c, rfl⟩

/-- A compilation gives one result only. -/
theorem Gives.unique {m : Compiling α} {a b : α} (ha : Gives m a) (hb : Gives m b) : a = b := by
  obtain ⟨c, hc⟩ := ha PatternCache.empty
  obtain ⟨d, hd⟩ := hb PatternCache.empty
  rw [hc] at hd
  exact Except.ok.inj (Prod.mk.inj hd).1

theorem Gives.bind {m : Compiling α} {f : α → Compiling β} {a : α} {b : β} (hm : Gives m a)
    (hf : Gives (f a) b) : Gives (m >>= f) b := by
  intro c
  obtain ⟨c₁, h₁⟩ := hm c
  obtain ⟨c₂, h₂⟩ := hf c₁
  refine ⟨c₂, ?_⟩
  rw [ExceptT.run_bind, StateT.run_bind, h₁]
  exact h₂

/-- What the cache returns for a key is the pattern of the key. -/
theorem gives_fetch (k : PatternKey) :
    Gives (modifyGet fun c : PatternCache => c.fetch k) k.compile := by
  intro c
  refine ⟨(c.fetch k).2, ?_⟩
  rw [← c.fetch_fst k]
  rfl

theorem gives_mapM {f : α → Compiling β} {as : List α} {bs : List β}
    (h : List.Forall₂ (fun a b => Gives (f a) b) as bs) : Gives (as.mapM f) bs := by
  induction h with
  | nil => exact gives_pure []
  | cons hab _ ih =>
    rw [List.mapM_cons]
    exact hab.bind (ih.bind (gives_pure _))

end Compiling

namespace ValuePattern

open Pattern Pattern.Reader

theorem compile_gives {rule source : String} {ic : Bool} {p : Pattern} {group : Nat}
    (hp : Pattern.compile source ic = .ok p) (hgroup : p.captureNamed valueGroup = some group) :
    (compile rule source ic).Gives ⟨p, group⟩ := by
  have hcompile : PatternKey.compile ⟨source, ic⟩ = .ok p := hp
  have hof : ofPattern rule p = .ok ⟨p, group⟩ := by rw [ofPattern, hgroup]
  refine (Compiling.gives_fetch ⟨source, ic⟩).bind ?_
  rw [hcompile]
  show Compiling.Gives (MonadExcept.ofExcept (ofPattern rule p)) _
  rw [hof]
  exact Compiling.gives_pure _

section Around

variable {ic : Bool} {pre value post : List Char} {ps vs qs : List Part}

/-- **A pattern that is read as parts around a capture frames its values by these parts,** if it compiles. -/
theorem frames_of_compile {source : String}
    (hsource : source.toList = pre ++ opening ++ value ++ ')' :: post)
    (hps : Reads ic pre ps) (hvs : Reads ic value vs) (hqs : Reads ic post qs)
    (hplain : AllPlain (ps ++ vs ++ qs)) {p : ValuePattern}
    (hp : Pattern.compile source ic = .ok p.pattern)
    (hgroup : p.pattern.captureNamed valueGroup = some p.group) :
    p.Frames (ps.flatMap Part.factors) (.chain (vs.flatMap Part.factors))
      (qs.flatMap Part.factors) := by
  rw [Pattern.compile, hsource, read_around hps hvs hqs hplain] at hp
  split at hp
  · cases hp
  have hpattern := Except.ok.inj hp
  rw [← hpattern] at hgroup
  have hmem : ∀ parts : List Part, (∀ part ∈ parts, part ∈ ps ++ vs ++ qs) →
      ∀ e ∈ parts.flatMap Part.factors, e.captures = [] := by
    intro parts hparts e he
    obtain ⟨part, hpart, he⟩ := List.mem_flatMap.1 he
    exact (hplain part (hparts part hpart)).captures e he
  have hproductive : ∀ parts : List Part, (∀ part ∈ parts, part ∈ ps ++ vs ++ qs) →
      ∀ e ∈ parts.flatMap Part.factors, e.productive = true := by
    intro parts hparts e he
    obtain ⟨part, hpart, he⟩ := List.mem_flatMap.1 he
    exact (hplain part (hparts part hpart)).productive e he
  have hps : ∀ part ∈ ps, part ∈ ps ++ vs ++ qs := fun part h =>
    List.mem_append_left _ (List.mem_append_left _ h)
  have hvs : ∀ part ∈ vs, part ∈ ps ++ vs ++ qs := fun part h =>
    List.mem_append_left _ (List.mem_append_right _ h)
  have hqs : ∀ part ∈ qs, part ∈ ps ++ vs ++ qs := fun part h => List.mem_append_right _ h
  refine ⟨?_, (Option.some.inj hgroup).symm, hmem ps hps, Expr.captures_chain (hmem vs hvs),
    hmem qs hqs, ?_⟩
  · rw [← hpattern]
    exact congrArg (fun es => Program.ofExpr (.chain es)) (flatMap_factors_around ps vs qs)
  · refine Expr.productive_chain fun e he => ?_
    rcases List.mem_append.1 he with he | he
    · exact hproductive ps hps e he
    · rcases List.mem_cons.1 he with rfl | he
      · exact Expr.productive_chain (hproductive vs hvs)
      · exact hproductive qs hqs e he

/-- **Such a pattern compiles,** unless it is long. -/
theorem exists_frames (source : String)
    (hsource : source.toList = pre ++ opening ++ value ++ ')' :: post)
    (hps : Reads ic pre ps) (hvs : Reads ic value vs) (hqs : Reads ic post qs)
    (hplain : AllPlain (ps ++ vs ++ qs)) (hlength : (ps ++ vs ++ qs).length ≤ 2000) :
    ∃ p : ValuePattern, (∀ rule, (compile rule source ic).Gives p) ∧
      p.Frames (ps.flatMap Part.factors) (.chain (vs.flatMap Part.factors))
        (qs.flatMap Part.factors) := by
  have hcompile : Pattern.compile source ic =
      .ok ⟨source, ic, .ofExpr (.chain ((around ps vs qs).flatMap Part.factors)),
        [("value".toList, 1)]⟩ := by
    rw [Pattern.compile, hsource, read_around hps hvs hqs hplain,
      if_neg (Nat.not_lt.2 (weight_around_le hplain hlength))]
    rfl
  exact ⟨⟨_, 1⟩, fun rule => compile_gives hcompile rfl,
    frames_of_compile hsource hps hvs hqs hplain hcompile rfl⟩

end Around

end ValuePattern

/-- Different literals make a flag rule of their pattern. -/
theorem FlagRule.compile_gives {name marker key : String} {old new : Bool} {scope : FlagScope}
    {p : ValuePattern} (hne : old ≠ new)
    (hp : (ValuePattern.compile name (scope.pattern marker key old) true).Gives p) :
    (FlagRule.compile name marker key old new scope).Gives ⟨name, new, p⟩ := by
  rw [FlagRule.compile, if_neg hne]
  beta_reduce
  refine hp.bind ?_
  exact Compiling.gives_pure (⟨name, new, p⟩ : FlagRule)

namespace RuleDefinition

theorem compile_value_gives {name primary replacement : String} {fallbacks : List String}
    {guard : Option Guard} {ic : Bool} {p : ValuePattern} {ps : List ValuePattern}
    (hp : (ValuePattern.compile name primary ic).Gives p)
    (hps : List.Forall₂ (fun source p => (ValuePattern.compile name source ic).Gives p) fallbacks ps) :
    (value name primary fallbacks replacement guard ic).compile.Gives
      (.value ⟨name, p, ps, replacement, guard⟩) := by
  have hrule : (ValueRule.compile name primary fallbacks replacement guard ic).Gives
      ⟨name, p, ps, replacement, guard⟩ := by
    refine hp.bind ?_
    refine (Compiling.gives_mapM hps).bind ?_
    exact Compiling.gives_pure (⟨name, p, ps, replacement, guard⟩ : ValueRule)
  exact hrule.bind (Compiling.gives_pure _)

theorem compile_flag_gives {name marker key : String} {old new : Bool} {scope : FlagScope}
    {p : ValuePattern} (hne : old ≠ new)
    (hp : (ValuePattern.compile name (scope.pattern marker key old) true).Gives p) :
    (flag name marker key old new scope).compile.Gives (.flag ⟨name, new, p⟩) :=
  (FlagRule.compile_gives hne hp).bind (Compiling.gives_pure _)

end RuleDefinition

theorem RuleTable.compile_gives {t : RuleTable} {sets : List RuleSet}
    (h : List.Forall₂ (fun (d : RuleSetDefinition) (s : RuleSet) =>
      List.Forall₂ (fun (r : RuleDefinition) (rule : Rule) => r.compile.Gives rule) d.rules s.rules ∧
        s.name = d.name) t.sets sets) : t.compile.Gives sets := by
  refine Compiling.gives_mapM (h.imp fun d s hds => ?_)
  obtain ⟨hrules, hname⟩ := hds
  have hs : s = ⟨d.name, s.rules⟩ := by rw [← hname]
  rw [hs]
  exact (Compiling.gives_mapM hrules).bind (Compiling.gives_pure _)

/-- **A table compiles if its rules do,** to sets with their names and with the rules that they compile to. -/
theorem RuleTable.exists_compile_gives {t : RuleTable} {Q : RuleDefinition → Rule → Prop}
    (h : ∀ d ∈ t.sets, ∀ r ∈ d.rules, ∃ rule, r.compile.Gives rule ∧ Q r rule) :
    ∃ sets, t.compile.Gives sets ∧
      List.Forall₂ (fun (d : RuleSetDefinition) (s : RuleSet) =>
        s.name = d.name ∧ List.Forall₂ Q d.rules s.rules) t.sets sets := by
  have hset : ∀ d ∈ t.sets, ∃ s : RuleSet,
      (List.Forall₂ (fun (r : RuleDefinition) (rule : Rule) => r.compile.Gives rule) d.rules s.rules ∧
        s.name = d.name) ∧ List.Forall₂ Q d.rules s.rules := by
    intro d hd
    obtain ⟨rules, hrules⟩ := exists_forall₂_of_forall (h d hd)
    exact ⟨⟨d.name, rules⟩, ⟨hrules.imp fun _ _ => And.left, rfl⟩, hrules.imp fun _ _ => And.right⟩
  obtain ⟨sets, hsets⟩ := exists_forall₂_of_forall hset
  exact ⟨sets, compile_gives (hsets.imp fun _ _ => And.left), hsets.imp fun _ _ h => ⟨h.1.2, h.2⟩⟩

end LiteralPatch
