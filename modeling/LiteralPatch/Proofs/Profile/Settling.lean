import LiteralPatch.Proofs.Profile.Lockstep

/-!
# The value rules settle in one pass

After its own changes a value rule finds nothing any more, and no later rule makes it find something again
(`Rule.Settles`).  Its patterns capture the two sides of the same tiles before and after changes, so it
consults the same pattern, and each value is either what it was or a word that has just been brought in.  A
value that was wanted has been replaced, and no word that is brought in is wanted where the pattern may
capture it (`valueRule_settles`).  So after one pass all limits and levels that are found have been raised
(`numberRules_settle`).

This is not so for flags and gates: their patterns may overlook a literal behind another one, and find it
once that has been replaced.
-/

namespace LiteralPatch

open Text Unicode Pattern Cursor Profile

/-- A rule that finds nothing after changes among which are its own, if it has any. -/
def Rule.Settles (rule : Rule) : Prop :=
  ∀ text out chs, Rewrites RecastsWord [] text.toList chs out.toList →
    (∀ ch ∈ rule.find text, ∃ ch' ∈ chs, ch'.span = ch.span) → rule.find out = []

/-! ## The pass -/

/-- A rule that settles finds nothing behind its own place on a trail. -/
theorem Trail.find_eq_nil {steps : List (String × Rule)} {text out : String} {stages : List Stage}
    (h : Trail steps text stages out) (hsteps : ∀ step ∈ steps, step.2.RecastsWords) {rule : Rule}
    (hsettles : rule.Settles) (hfound : rule ∈ steps.map Prod.snd ∨ rule.find text = []) :
    rule.find out = [] := by
  induction h with
  | done => exact hfound.resolve_left List.not_mem_nil
  | pass happly _ ih =>
    refine ih (List.forall_mem_cons.1 hsteps).2 ?_
    rcases hfound with hmem | hnil
    · rcases List.mem_cons.1 hmem with rfl | hmem
      · exact .inr (Rule.apply_eq_none_iff.1 happly)
      · exact .inl hmem
    · exact .inr hnil
  | change happly _ ih =>
    obtain ⟨hrecasts, hrest⟩ := List.forall_mem_cons.1 hsteps
    obtain ⟨rfl, -, -⟩ := Rule.apply_eq_some happly
    have hsettled := hsettles _ _ _ (hrecasts.rewrites happly)
    refine ih hrest ?_
    rcases hfound with hmem | hnil
    · rcases List.mem_cons.1 hmem with rfl | hmem
      · exact .inr (hsettled fun ch hch => ⟨ch, hch, rfl⟩)
      · exact .inl hmem
    · exact .inr (hsettled fun ch hch => by rw [hnil] at hch; cases hch)

/-- **After a pass, a rule that settles finds nothing.** -/
theorem find_eq_nil_of_patch {sets : List RuleSet} {text : String} {p : Patched}
    (hrules : ∀ s ∈ sets, ∀ rule ∈ s.rules, rule.RecastsWords) (h : patch sets text = .ok p)
    {s : RuleSet} (hs : s ∈ sets) {rule : Rule} (hrule : rule ∈ s.rules) (hsettles : rule.Settles) :
    rule.find p.text = [] := by
  obtain ⟨stages, htrail, -⟩ := patch_eq_ok_iff.1 h
  have hmem : (s.name, rule) ∈ steps sets := List.mem_flatMap.2 ⟨s, hs, List.mem_map_of_mem hrule⟩
  exact htrail.find_eq_nil (forall_steps hrules) hsettles (.inl (List.mem_map_of_mem hmem))

/-! ## What a value rule captures before and after -/

namespace ValueRule

variable {r : ValueRule} {text out : String} {R : ValueCapture → ValueCapture → Prop}

/-- If every pattern captures corresponding values in two texts, the rule consults the same pattern. -/
theorem locate_forall₂
    (h : ∀ p ∈ r.primary :: r.fallbacks, List.Forall₂ R (p.findValues text) (p.findValues out)) :
    List.Forall₂ R (r.locate text).2 (r.locate out).2 := by
  have hfallback : ∀ (ps : List ValuePattern) (place : Nat),
      (∀ p ∈ ps, List.Forall₂ R (p.findValues text) (p.findValues out)) →
      List.Forall₂ R (firstFallback text place ps).2 (firstFallback out place ps).2 := by
    intro ps
    induction ps with
    | nil => exact fun _ _ => .nil
    | cons p ps ih =>
      intro place hps
      have hp := hps p List.mem_cons_self
      rw [firstFallback, firstFallback]
      cases hfound : p.findValues text with
      | nil =>
        rw [hfound, List.forall₂_nil_left_iff] at hp
        rw [hp]
        exact ih _ fun q hq => hps q (List.mem_cons_of_mem p hq)
      | cons v vs =>
        rw [hfound, List.forall₂_cons_left_iff] at hp
        obtain ⟨v', vs', hv, hvs, hp⟩ := hp
        rw [hp]
        exact .cons hv hvs
  have hprimary := h r.primary List.mem_cons_self
  rw [locate, locate]
  cases hfound : r.primary.findValues text with
  | nil =>
    rw [hfound, List.forall₂_nil_left_iff] at hprimary
    rw [hprimary]
    exact hfallback _ _ fun q hq => h q (List.mem_cons_of_mem _ hq)
  | cons v vs =>
    rw [hfound, List.forall₂_cons_left_iff] at hprimary
    obtain ⟨v', vs', hv, hvs, hprimary⟩ := hprimary
    rw [hprimary]
    exact .cons hv hvs

/-- A value that is wanted is found, at its span. -/
theorem mem_find {v : ValueCapture} (hv : v ∈ (r.locate text).2) (hwants : r.wants v.value = true) :
    ∃ ch ∈ r.find text, ch.span = v.span :=
  ⟨_, List.mem_map_of_mem (List.mem_filter.2 ⟨hv, hwants⟩), rfl⟩

theorem find_eq_nil (h : ∀ v ∈ (r.locate text).2, r.wants v.value = false) : r.find text = [] := by
  have hnone : (r.locate text).2.filter (fun v => r.wants v.value) = [] :=
    List.filter_eq_nil_iff.2 fun v hv => by simp [h v hv]
  show ((r.locate text).2.filter fun c => r.wants c.value).map _ = []
  rw [hnone, List.map_nil]

end ValueRule

namespace Profile

variable {ts as bs ms : List Tile}

/-- Tiles either keep all characters or there is a swapped word among them. -/
theorem keeps_or_swap (ms : List Tile) : (∃ cs : List Char, ms = cs.map .keep) ∨
    ∃ as v w h bs, ms = as ++ .swap v w h :: bs := by
  induction ms with
  | nil => exact .inl ⟨[], rfl⟩
  | cons t ms ih =>
    cases t with
    | swap v w h => exact .inr ⟨[], v, w, h, ms, rfl⟩
    | keep c =>
      rcases ih with ⟨cs, rfl⟩ | ⟨as, v, w, h, bs, rfl⟩
      · exact .inl ⟨c :: cs, rfl⟩
      · exact .inr ⟨.keep c :: as, v, w, h, bs, rfl⟩

/-- Tiles whose old side belongs to one word keep all characters or are one swapped word. -/
theorem Parted.keeps_or_single (hts : Parted [] (as ++ (ms ++ bs)))
    (hword : ∀ c ∈ oldText ms, isWord c = true) :
    (∃ cs : List Char, ms = cs.map .keep) ∨ ∃ v w h, ms = [.swap v w h] := by
  rcases keeps_or_swap ms with hkeeps | ⟨xs, v, w, h, ys, rfl⟩
  · exact .inl hkeeps
  · have hsplit : as ++ (xs ++ .swap v w h :: ys ++ bs) = as ++ xs ++ .swap v w h :: (ys ++ bs) := by simp
    rw [hsplit] at hts
    obtain ⟨⟨hbefore, -⟩, hafter, -⟩ := hts.edges
    refine .inr ⟨v, w, h, ?_⟩
    have hxs : xs = [] := by
      rcases List.eq_nil_or_concat xs with rfl | ⟨xs, t, rfl⟩
      · rfl
      · rw [List.concat_eq_append, ← List.append_assoc, oldText_append, oldText_cons, oldText_nil,
          List.append_nil, isWordAt_getLast?_of_kind t.old_ne_nil fun c hc => hword c (by simp [hc])]
          at hbefore
        cases hbefore
    have hys : ys = [] := by
      cases ys with
      | nil => rfl
      | cons t ys =>
        have hhead := isWordAt_eq_false_iff.2 hafter
        rw [List.cons_append, oldText_cons,
          isWordAt_head?_of_kind t.old_ne_nil fun c hc => hword c (by simp [hc])] at hhead
        cases hhead
    rw [hxs, hys, List.nil_append]

/-- The place of a tile is known from the old text before it. -/
theorem eq_of_width_eq {as' bs' : List Tile} (h : as ++ bs = as' ++ bs')
    (hwidth : width (oldText as) = width (oldText as')) : as = as' := by
  obtain ⟨xs, rfl⟩ := exists_between h (Nat.le_of_eq hwidth)
  cases xs with
  | nil => rw [List.append_nil]
  | cons t xs =>
    have hpos := width_pos t.old_ne_nil
    simp only [oldText_append, oldText_cons, width_append] at hwidth
    omega

/-- What a captured value may be, wherever it stands. -/
structure Admits (value : Expr) (r : ValueRule) : Prop where
  isWord : ∀ l w x, value.Spells l w x → ∀ c ∈ w, Unicode.isWord c = true
  nullable : value.nullable = false
  wants : ∀ v w, Substituted v w → ∀ l x, value.Spells l w x → r.wants (String.ofList w) = false

variable {r : ValueRule} {text out : String} {chs : List Change}

/-- A value that is not wanted, or has been replaced, is not wanted afterwards. -/
theorem not_wanted_of_twin {value : Expr} (hadmits : Admits value r) (hts : Parted [] ts)
    (htiles : ∀ ch ∈ chs, ∃ as v w h bs, ts = as ++ .swap v w h :: bs ∧
      ch.span.start = width (oldText as))
    {v v' : ValueCapture} (htwin : CaptureTwin ts v v')
    (hv : ∃ l w x, value.Spells l w x ∧ v.value = String.ofList w)
    (hv' : ∃ l w x, value.Spells l w x ∧ v'.value = String.ofList w)
    (hfound : r.wants v.value = true → ∃ ch ∈ chs, ch.span = v.span) : r.wants v'.value = false := by
  obtain ⟨as, ms, bs, rfl, hstart, -, hold, hnew⟩ := htwin
  obtain ⟨l, w, x, hspells, hw⟩ := hv
  obtain ⟨l', w', x', hspells', hw'⟩ := hv'
  obtain rfl : oldText ms = w := String.ofList_injective (hold.symm.trans hw)
  obtain rfl : newText ms = w' := String.ofList_injective (hnew.symm.trans hw')
  rcases hts.keeps_or_single (hadmits.isWord _ _ _ hspells) with ⟨cs, rfl⟩ | ⟨v₁, w₁, h, rfl⟩
  · rw [hnew, newText_keeps]
    rw [hold, oldText_keeps] at hfound
    refine Bool.eq_false_iff.2 fun hwants => ?_
    obtain ⟨ch, hch, hspan⟩ := hfound hwants
    obtain ⟨as', v₁, w₁, h, bs', hsplit, hstart'⟩ := htiles ch hch
    rw [hspan, hstart] at hstart'
    obtain rfl := eq_of_width_eq hsplit hstart'
    -- the value begins with a character that is kept, and with a swapped word
    have hrest := List.append_cancel_left hsplit
    cases cs with
    | nil => exact absurd rfl (hspells.ne_nil hadmits.nullable)
    | cons c cs => cases hrest
  · rw [hnew]
    simp only [newText_cons, newText_nil, List.append_nil, Tile.new] at hspells' ⊢
    exact hadmits.wants v₁ w₁ h _ _ hspells'

/-- Every value that is found is spelled by the expression for it. -/
theorem spells_of_mem {p : ValuePattern} {pre post : List Expr} {value : Expr}
    (h : p.Frames pre value post) {v : ValueCapture} (hv : v ∈ p.findValues text) :
    ∃ l w x, value.Spells l w x ∧ v.value = String.ofList w := by
  have hplaced := h.findValues_placed text
  generalize p.findValues text = vs at hplaced hv
  generalize ([] : List Char) = l, text.toList = cs at hplaced
  induction hplaced with
  | none => cases hv
  | next hframed _ hvalue _ ih =>
    rcases List.mem_cons.1 hv with rfl | hv
    · obtain ⟨_, _, _, _, -, -, -, hspells, -⟩ := hframed
      exact ⟨_, _, _, hspells, hvalue⟩
    · exact ih hv

/-- **A value rule settles** if its patterns are neutral and no word that is brought in is wanted where one of
them may capture it. -/
theorem valueRule_settles {value : Expr} (hadmits : Admits value r)
    (hpatterns : ∀ p ∈ r.primary :: r.fallbacks, ∃ pre post, p.Frames pre value post ∧
      ∀ ts, Parted [] ts → Neutral ts p) : (Rule.value r).Settles := by
  intro text out chs hrewrites hfound
  obtain ⟨ts, hold, hnew, hts, htiles⟩ := hrewrites.exists_tiles
  simp only [List.nil_append] at htiles
  have hboth : List.Forall₂ (fun v v' => (r.wants v.value = true → ∃ ch ∈ chs, ch.span = v.span) →
      r.wants v'.value = false) (r.locate text).2 (r.locate out).2 := by
    refine ValueRule.locate_forall₂ fun p hp => ?_
    obtain ⟨pre, post, hframes, hneutral⟩ := hpatterns p hp
    have htwins := (hneutral ts hts).findValues_twins hts hframes hadmits.nullable hold hnew
    refine forall₂_imp_of_mem htwins fun v hv v' hv' htwin hwanted => ?_
    exact not_wanted_of_twin hadmits hts htiles htwin (spells_of_mem hframes hv)
      (spells_of_mem hframes hv') hwanted
  refine ValueRule.find_eq_nil (forall_of_forall₂ hboth fun v hv v' h => h fun hwants => ?_)
  obtain ⟨ch, hch, hspan⟩ := ValueRule.mem_find hv hwants
  obtain ⟨ch', hch', hspan'⟩ := hfound ch hch
  exact ⟨ch', hch', hspan'.trans hspan⟩

/-! ## The two rules -/

/-- A limit that is brought in is not wanted again, and nothing else that is brought in is a limit. -/
theorem admits_digits {p : ValuePattern} {ps : List ValuePattern} {name : String} :
    Admits Expr.digits ⟨name, p, ps, "200000", some (.lessThan 200000)⟩ where
  isWord _ _ _ h c hc := isWord_digit ((Expr.spells_digits.1 h).2 c hc)
  nullable := rfl
  wants v w h l x hw := by
    have hdigits := Expr.spells_digits.1 hw
    cases h with
    | limit =>
      rw [ValueRule.wants, String.ofList_toList, bne_self_eq_false, Bool.false_and]
    | level => exact absurd hdigits.1.1 (by decide)
    | unlock => exact (digit_of_literal (by decide) rfl hdigits.2).elim
    | lock => exact (digit_of_literal (by decide) rfl hdigits.2).elim
    | lift => exact (digit_of_literal (by decide) rfl hdigits.2).elim

theorem admits_level {p : ValuePattern} {ps : List ValuePattern} {name : String} :
    Admits Expr.level ⟨name, p, ps, "2", some (.oneOf ["0", "1"])⟩ where
  isWord _ _ _ h c hc := isWord_level ((spells_level.1 h).2 c hc)
  nullable := rfl
  wants v w h l x hw := by
    have hlength := (spells_level.1 hw).1
    cases h with
    | level => rw [ValueRule.wants, String.ofList_toList, bne_self_eq_false, Bool.false_and]
    | _ => exact absurd hlength (by decide)

/-- **The token limit is raised once and for all.** -/
theorem settles_tokenLimit : ∃ rule, tokenLimit.compile.Gives rule ∧ rule.Settles := by
  obtain ⟨p, hp, hframes⟩ := exists_frames_limit
  obtain ⟨q, hq, hframes'⟩ := exists_frames_return
  refine ⟨_, RuleDefinition.compile_value_gives (hp _) (.cons (hq _) .nil), ?_⟩
  refine valueRule_settles admits_digits fun x hx => ?_
  rcases List.mem_cons.1 hx with rfl | hx
  · exact ⟨_, _, hframes, fun ts hts => neutral_limit hts hframes⟩
  · obtain rfl := List.mem_singleton.1 hx
    exact ⟨_, _, hframes', fun ts hts => neutral_return hts hframes'⟩

/-- **The thinking level is raised once and for all.** -/
theorem settles_thinkingLevel : ∃ rule, thinkingLevel.compile.Gives rule ∧ rule.Settles := by
  obtain ⟨p, hp, hframes⟩ := exists_frames_level
  refine ⟨_, RuleDefinition.compile_value_gives (hp _) .nil, ?_⟩
  refine valueRule_settles admits_level fun x hx => ?_
  obtain rfl := List.mem_singleton.1 hx
  exact ⟨_, _, hframes, fun ts hts => neutral_level hts hframes⟩

/-- The rules for numbers. -/
def numberRules : List RuleDefinition := [tokenLimit, thinkingLevel]

theorem settles_of_mem {d : RuleDefinition} (hd : d ∈ numberRules) {rule : Rule}
    (h : d.compile.Gives rule) : rule.Settles := by
  have hsettles : ∀ d ∈ numberRules, ∃ rule, d.compile.Gives rule ∧ rule.Settles :=
    List.forall_mem_cons.2 ⟨settles_tokenLimit, List.forall_mem_singleton.2 settles_thinkingLevel⟩
  obtain ⟨rule', hgives, hsettled⟩ := hsettles d hd
  rwa [h.unique hgives]

theorem exists_numberRule {p : Profile} (hp : p ∈ all) :
    ∀ d ∈ numberRules, ∃ s ∈ p.table.sets, d ∈ s.rules := by
  simp only [all, List.mem_cons, List.not_mem_nil, or_false] at hp
  rcases hp with rfl | rfl
  · simp [numberRules, model, sets]
  · simp [numberRules, family, sets]

/-- **After a pass over a built-in profile, the limits and levels of a text are raised:** the rules for them
find nothing any more. -/
theorem numberRules_settle {p : Profile} (hp : p ∈ all) :
    ∃ sets, p.table.compile.Gives sets ∧ ∀ d ∈ numberRules, ∃ s ∈ sets, ∃ rule ∈ s.rules,
      d.compile.Gives rule ∧ ∀ text q, patch sets text = .ok q → rule.find q.text = [] := by
  have hrules : ∀ d ∈ p.table.sets, ∀ r ∈ d.rules,
      ∃ rule, r.compile.Gives rule ∧ r.compile.Gives rule ∧ rule.RecastsWords := by
    intro d hd r hr
    obtain ⟨rule, hgives, hrecasts⟩ := compiles_profile hp d hd r hr
    exact ⟨rule, hgives, hgives, hrecasts⟩
  obtain ⟨sets, hgives, hsets⟩ := RuleTable.exists_compile_gives hrules
  have hrecasts : ∀ s ∈ sets, ∀ rule ∈ s.rules, rule.RecastsWords :=
    forall_of_forall₂ hsets fun _ _ _ hset => forall_of_forall₂ hset.2 fun _ _ _ h => h.2
  have hfound : ∀ d ∈ p.table.sets, ∀ r ∈ d.rules, ∃ s ∈ sets, ∃ rule ∈ s.rules, r.compile.Gives rule :=
    forall_of_forall₂ hsets.flip fun s hs _ hset =>
      forall_of_forall₂ hset.2.flip fun rule hrule _ h => ⟨s, hs, rule, hrule, h.1⟩
  refine ⟨sets, hgives, fun d hd => ?_⟩
  obtain ⟨set, hset, hmem⟩ := exists_numberRule hp d hd
  obtain ⟨s, hs, rule, hrule, hcompile⟩ := hfound set hset d hmem
  refine ⟨s, hs, rule, hrule, hcompile, fun text q hpatch => ?_⟩
  exact find_eq_nil_of_patch hrecasts hpatch hs hrule (settles_of_mem hd hcompile)

end Profile
end LiteralPatch
