import LiteralPatch.Proofs.Profile.Patterns
import LiteralPatch.Proofs.Profile.Traces
import LiteralPatch.Proofs.Rule.Guarded
import Mathlib.Data.List.TakeWhile

/-!
# Built-in rules replace whole words

What a built-in rule captures is a word of the text from its beginning to its end, and the text before it
is what `Recasts` asks for.  Word edges in the patterns give the first, where there are any; elsewhere it is a
blank, a colon or the end of a statement.  The second is the key of a flag or the `return` of a gate.

`compile_recasts` says this of both profiles, and `profiles_substitute_words` says what it means for a text:
patching never fails, keeps all separators, and rewrites words in five ways only.
-/

namespace LiteralPatch

open Text Unicode Pattern

namespace Profile

variable {l a v c : List Char}

/-! ## Whole words -/

theorem isWordAt_eq_false_iff {x : Option Char} :
    Assertion.isWordAt true x = false ↔ ∀ y ∈ x, isWord y = false := by
  cases x <;> simp [Assertion.isWordAt]

theorem isWordAt_getLast?_append (hne : v ≠ []) (hv : ∀ x ∈ v, isWord x = true) :
    Assertion.isWordAt true (a ++ v).getLast? = true := by
  rw [List.getLast?_append_of_ne_nil a hne, List.getLast?_eq_some_getLast hne]
  exact hv _ (List.getLast_mem hne)

theorem isWordAt_head?_append (hne : v ≠ []) (hv : ∀ x ∈ v, isWord x = true) :
    Assertion.isWordAt true (v ++ c).head? = true := by
  cases v with
  | nil => exact absurd rfl hne
  | cons x v => exact hv x List.mem_cons_self

/-- Between word edges stands a whole word. -/
theorem wholeWord_of_edges (hne : v ≠ []) (hv : ∀ x ∈ v, isWord x = true)
    (hbefore : Assertion.isWordAt true a.getLast? ≠ Assertion.isWordAt true (v ++ c).head?)
    (hafter : Assertion.isWordAt true (a ++ v).getLast? ≠ Assertion.isWordAt true c.head?) :
    WholeWord a v c := by
  rw [isWordAt_head?_append hne hv] at hbefore
  rw [isWordAt_getLast?_append hne hv] at hafter
  exact ⟨hne, hv, isWordAt_eq_false_iff.1 (Bool.eq_false_iff.2 hbefore),
    isWordAt_eq_false_iff.1 (Bool.eq_false_iff.2 hafter.symm)⟩

/-- A word edge at the end of what stands in front. -/
theorem edge_before {es : List Expr} {u r : List Char}
    (h : (Expr.chain (es ++ [Expr.edge])).Spells l u r) :
    Assertion.isWordAt true (l ++ u).getLast? ≠ Assertion.isWordAt true r.head? := by
  obtain ⟨x, y, rfl, -, hy⟩ := Expr.spells_chain_append.1 h
  obtain ⟨rfl, hedge⟩ := Expr.spells_edge.1 (Expr.spells_chain_singleton.1 hy)
  simpa using hedge

/-- A word edge at the beginning of what stands behind. -/
theorem edge_after {es : List Expr} {u r : List Char}
    (h : (Expr.chain (Expr.edge :: es)).Spells l u r) :
    Assertion.isWordAt true l.getLast? ≠ Assertion.isWordAt true (u ++ r).head? := by
  obtain ⟨x, y, rfl, hx, -⟩ := Expr.spells_chain_cons.1 h
  obtain ⟨rfl, hedge⟩ := Expr.spells_edge.1 hx
  simpa using hedge

/-! ## What stands before a literal -/

theorem isWord_digit {x : Char} (h : digit.has x = true) : isWord x = true := by
  have hall : (digitRanges.all fun r => wordRanges.any fun q => q.1.ble r.1 && r.2.ble q.2) = true := by
    decide +kernel
  obtain ⟨r, hr, hx⟩ := List.any_eq_true.1 h
  obtain ⟨q, hq, hrq⟩ := List.any_eq_true.1 (List.all_eq_true.1 hall r hr)
  refine List.any_eq_true.2 ⟨q, hq, ?_⟩
  simp only [Bool.and_eq_true, decide_eq_true_eq, Nat.ble_eq] at hx hrq ⊢
  omega

/-- Behind a key and a colon the runs are keyed. -/
theorem keyed_of_leadsUp {key : String} {keys : List String} {t : List Char} (hkey : key ∈ keys)
    (hne : key.toList ≠ []) (hletters : key.toList ⊆ letters)
    (h : FlagScope.KeyLeadsUp key.toList t) :
    Keyed keys (wordRuns (l ++ t)).reverse ∧ ∀ x ∈ (l ++ t).getLast?, isWord x = false := by
  obtain ⟨k, w, w', rfl, hk, hw, hw'⟩ := h
  have hkne : k ≠ [] := by
    rintro rfl
    exact hne (List.eq_nil_of_length_eq_zero hk.length_eq.symm)
  have hkword := isWord_of_sameText hletters hk
  have hsep : ∀ x ∈ '"' :: (w ++ ':' :: w'), isWord x = false := by
    intro x hx
    simp only [List.mem_cons, List.mem_append] at hx
    rcases hx with rfl | hx | rfl | hx
    · decide +kernel
    · exact isWord_eq_false_of_isWhite (hw x hx)
    · decide +kernel
    · exact isWord_eq_false_of_isWhite (hw' x hx)
  have hwhole : WholeWord (l ++ ['"']) k ('"' :: (w ++ ':' :: w')) := by
    refine ⟨hkne, hkword, getLast?_of_not_isWord (List.cons_ne_nil _ _) ?_, ?_⟩
    · decide +kernel
    · intro x hx
      obtain rfl := Option.some.inj hx
      decide +kernel
  have htext : l ++ '"' :: (k ++ '"' :: (w ++ ':' :: w')) =
      l ++ ['"'] ++ k ++ '"' :: (w ++ ':' :: w') := by simp
  constructor
  · rw [htext, hwhole.wordRuns_eq, wordRuns_of_forall (List.cons_ne_nil _ _) hsep]
    refine ⟨'"' :: (w ++ ':' :: w'), k, (wordRuns (l ++ ['"'])).reverse, by simp, by simp, key, hkey, hk⟩
  · rw [htext]
    exact getLast?_of_not_isWord (List.cons_ne_nil _ _) hsep

/-- A word at the end of a text ends its last run. -/
theorem exists_wordRuns_append {w : List Char} (hne : w ≠ []) (hw : ∀ x ∈ w, isWord x = true) :
    ∃ rs u, wordRuns (l ++ w) = rs ++ [u ++ w] := by
  -- what stands before the last word of `l`, and that word
  obtain ⟨x, u, rfl, hu, hx⟩ : ∃ x u, l = x ++ u ∧ (∀ y ∈ u, isWord y = true) ∧
      ∀ y ∈ x.getLast?, isWord y = false := by
    refine ⟨(l.reverse.dropWhile isWord).reverse, (l.reverse.takeWhile isWord).reverse, ?_, ?_, ?_⟩
    · rw [← List.reverse_append, List.takeWhile_append_dropWhile, List.reverse_reverse]
    · exact fun y hy => List.mem_takeWhile_imp (List.mem_reverse.1 hy)
    · intro y hy
      have hhead := List.head?_dropWhile_not isWord l.reverse
      rw [List.getLast?_reverse, Option.mem_def] at hy
      rwa [hy] at hhead
  have hwhole : WholeWord x (u ++ w) [] := by
    refine ⟨by simp [hne], ?_, hx, fun y hy => nomatch hy⟩
    intro y hy
    rcases List.mem_append.1 hy with hy | hy
    · exact hu y hy
    · exact hw y hy
  refine ⟨wordRuns x, u, ?_⟩
  have hruns := hwhole.wordRuns_eq
  rwa [List.append_nil, ← List.append_assoc] at hruns

/-- Behind `return` and a blank the runs say so. -/
theorem returned_of_leadsUp {t b : List Char} (ht : SameText t "return".toList) (hne : b ≠ [])
    (hb : ∀ x ∈ b, isWhite x = true) : Returned (wordRuns (l ++ t ++ b)).reverse := by
  have htne : t ≠ [] := by
    rintro rfl
    cases ht
  have htword := isWord_of_sameText (by decide) ht
  have hblank : ∀ x ∈ b, isWord x = false := fun x hx => isWord_eq_false_of_isWhite (hb x hx)
  have hdivided : Divided (l ++ t) b := by
    intro x hx y hy
    rw [List.getLast?_append_of_ne_nil l htne] at hx
    rw [htword x (List.mem_of_mem_getLast? hx), hblank y (List.mem_of_mem_head? hy)]
    exact Bool.false_ne_true.symm
  obtain ⟨rs, u, hrs⟩ := exists_wordRuns_append (l := l) htne htword
  rw [wordRuns_append hdivided, wordRuns_of_forall hne hblank, hrs]
  exact ⟨b, u ++ t, rs.reverse, by simp, hb, u, t, rfl, ht⟩

/-! ## The rules of the profiles -/

/-- A value rule recasts words if every value that one of its patterns frames, and that it wants, may
become the replacement. -/
theorem valueRule_recastsWords {r : ValueRule}
    (h : ∀ p ∈ r.primary :: r.fallbacks, ∃ pre value post, p.Frames pre value post ∧
      ∀ a v c, ValuePattern.Framed pre value post a v c → r.wants (String.ofList v) = true →
        RecastsWord a v r.replacement.toList c) :
    (Rule.value r).RecastsWords := by
  intro text
  -- every pattern that may be chosen gives changes of the kind
  have hpattern : ∀ p ∈ r.primary :: r.fallbacks, ∀ source, ∃ out,
      Rewrites RecastsWord [] text.toList
        (((p.findValues text).filter fun c => r.wants c.value).map fun c =>
          ⟨c.value, r.replacement, c.span, source⟩) out := by
    intro p hp source
    obtain ⟨pre, value, post, hframe, hrecasts⟩ := h p hp
    have hplaced := ((hframe.findValues_placed text).filter r.wants).mono
      (Q := fun a v c => RecastsWord a v r.replacement.toList c) fun a v c h =>
        hrecasts a v c h.1 h.2
    obtain ⟨out, hout⟩ := hplaced.exists_rewrites (fun a v c h => h.1.ne_nil) r.replacement source
    refine ⟨out, hout.mono ?_⟩
    rintro a v n c ⟨h, rfl⟩
    exact h
  show ∃ out, Rewrites RecastsWord [] text.toList (r.find text) out
  obtain ⟨p, hp, source, h | h⟩ := r.exists_locate text
  · rw [ValueRule.find, h]
    exact hpattern p hp source
  · rw [ValueRule.find, h]
    exact ⟨_, .none⟩

/-- The declaration compiles to a rule that recasts words. -/
def CompilesToRecasting (d : RuleDefinition) : Prop :=
  ∃ rule, d.compile.Gives rule ∧ rule.RecastsWords

/-- Three to six digits below the limit may become the limit. -/
theorem recastsWord_limit {r : ValueRule} (hreplacement : r.replacement = "200000")
    (hguard : r.guard = some (.lessThan raisedLimit)) (hlength : 3 ≤ v.length ∧ v.length ≤ 6)
    (hdigits : ∀ x ∈ v, digit.has x = true) (hwants : r.wants (String.ofList v) = true)
    (hwhole : WholeWord a v c) : RecastsWord a v r.replacement.toList c := by
  obtain ⟨n, hlt, hn⟩ := ValueRule.below_of_wants hguard hwants
  have hsign : v.head? ≠ some '+' := fun hhead =>
    absurd (hdigits '+' (List.mem_of_mem_head? hhead)) (by decide +kernel)
  rw [String.toList_ofList, decimal_iff_of_head?_ne_plus hsign] at hn
  have hvalue : Pattern.decimalValue v = n := calc
    Pattern.decimalValue v = 0 * 10 ^ v.length + placeValue v := foldl_digitValue 0 v
    _ = n := by rw [Nat.zero_mul, Nat.zero_add, hn.value]
  rw [hreplacement]
  exact ⟨hwhole, .limit hn.isDigit hlength (hvalue ▸ hlt)⟩

theorem compiles_tokenLimit : CompilesToRecasting tokenLimit := by
  obtain ⟨p, hp, hframes⟩ := exists_frames_limit
  obtain ⟨q, hq, hframes'⟩ := exists_frames_return
  refine ⟨_, RuleDefinition.compile_value_gives (hp _) (.cons (hq _) .nil), ?_⟩
  refine valueRule_recastsWords fun x hx => ?_
  rcases List.mem_cons.1 hx with rfl | hx
  · refine ⟨limitLead, Expr.digits, limitTrail, hframes, ?_⟩
    rintro a v c ⟨l, u, w, r, rfl, rfl, hu, hv, hw⟩ hwants
    obtain ⟨hlength, hdigits⟩ := Expr.spells_digits.1 hv
    have hne : v ≠ [] := by
      rintro rfl
      simp at hlength
    have hbefore := edge_before hu
    rw [List.append_assoc] at hbefore
    exact recastsWord_limit rfl rfl hlength hdigits hwants
      (wholeWord_of_edges hne (fun x hx => isWord_digit (hdigits x hx)) hbefore (edge_after hw))
  · obtain rfl := List.mem_singleton.1 hx
    refine ⟨returnLead, Expr.digits, returnTrail, hframes', ?_⟩
    rintro a v c ⟨l, u, w, r, rfl, rfl, hu, hv, hw⟩ hwants
    obtain ⟨hlength, hdigits⟩ := Expr.spells_digits.1 hv
    have hne : v ≠ [] := by
      rintro rfl
      simp at hlength
    -- a blank in front, a blank or the end of the statement behind
    obtain ⟨y, b, rfl, -, hblank⟩ := Expr.spells_chain_append.1 hu
    obtain ⟨hbne, hb⟩ := Expr.spells_someBlanks.1 hblank
    obtain ⟨b', z, rfl, hb', hz⟩ := Expr.spells_chain_append.1 hw
    obtain ⟨d, rfl, hd⟩ := Expr.spells_set.1 (Expr.spells_chain_singleton.1 hz)
    rw [Expr.spells_chain_singleton, Expr.spells_blanks] at hb'
    have hd : isWord d = false := by
      simp only [CharSet.has, CharSet.contains, List.any_cons, List.any_nil, Bool.or_false,
        Bool.or_eq_true, Bool.and_eq_true, decide_eq_true_eq] at hd
      have hcode : d.toNat = 0x3B ∨ d.toNat = 0x7D := by omega
      rcases hcode with h | h
      · rw [isWord, CharSet.has, h]
        decide +kernel
      · rw [isWord, CharSet.has, h]
        decide +kernel
    refine recastsWord_limit rfl rfl hlength hdigits hwants
      ⟨hne, fun x hx => isWord_digit (hdigits x hx), ?_, ?_⟩
    · rw [← List.append_assoc]
      exact getLast?_of_not_isWord hbne fun x hx => isWord_eq_false_of_isWhite (hb x hx)
    · intro x hx
      cases b' with
      | nil =>
        obtain rfl := Option.some.inj hx
        exact hd
      | cons x' b' =>
        obtain rfl := Option.some.inj hx
        exact isWord_eq_false_of_isWhite (hb' x' List.mem_cons_self)

theorem compiles_thinkingLevel : CompilesToRecasting thinkingLevel := by
  obtain ⟨p, hp, hframes⟩ := exists_frames_level
  refine ⟨_, RuleDefinition.compile_value_gives (hp _) .nil, ?_⟩
  refine valueRule_recastsWords fun x hx => ?_
  obtain rfl := List.mem_singleton.1 hx
  refine ⟨levelLead, Expr.level, levelTrail, hframes, ?_⟩
  rintro a v c ⟨l, u, w, r, rfl, rfl, hu, hv, hw⟩ hwants
  obtain ⟨d, rfl, hd⟩ := Expr.spells_set.1 hv
  have hbefore := edge_before hu
  rw [List.append_assoc] at hbefore
  rw [ValueRule.wants, Bool.and_eq_true] at hwants
  have hallowed : String.ofList [d] ∈ ["0", "1"] := by simpa [Guard.allows] using hwants.2
  have hcases : [d] = ['0'] ∨ [d] = ['1'] := by
    rw [List.mem_cons, List.mem_singleton] at hallowed
    rcases hallowed with h | h
    · exact .inl (String.ofList_injective h)
    · exact .inr (String.ofList_injective h)
  have hword : ∀ x ∈ [d], isWord x = true := by
    rcases hcases with h | h
    · rw [h]
      decide +kernel
    · rw [h]
      decide +kernel
  exact ⟨wholeWord_of_edges (List.cons_ne_nil d []) hword hbefore (edge_after hw), .level hcases⟩

/-- The words and literals of the gates. -/
def gates : List (String × String) :=
  [("subscription", "false"), ("isPro", "null"), ("rateLimit", "false"), ("usageLimit", "false")]

theorem compiles_gate (name : String) {g : String × String} (hg : g ∈ gates) :
    CompilesToRecasting (gate name g.1 g.2) := by
  have hplain : ∀ g ∈ gates, (∀ x ∈ g.1.toList, x ∉ metaCharacters) ∧
      (∀ x ∈ g.2.toList, x ∉ metaCharacters) ∧ (g.2 = "false" ∨ g.2 = "null") := by decide
  have hlength : ∀ g ∈ gates, g.1.toList.length + g.2.toList.length ≤ 1900 := by decide
  obtain ⟨hword, hliteral, hcases⟩ := hplain g hg
  obtain ⟨p, hp, hframes⟩ := exists_frames_gate hword hliteral (hlength g hg)
  refine ⟨_, RuleDefinition.compile_value_gives (hp _) .nil, ?_⟩
  refine valueRule_recastsWords fun x hx => ?_
  obtain rfl := List.mem_singleton.1 hx
  refine ⟨_, _, _, hframes, ?_⟩
  rintro a v c ⟨l, u, w, r, rfl, rfl, hu, hv, hw⟩ -
  obtain ⟨_, _, _, _, _, _, _, t, b, rfl, -, -, -, -, -, -, -, ht, hbne, hb⟩ := spells_gateLead.1 hu
  rw [Expr.spells_text_folded] at hv
  have hletters : g.2.toList ⊆ letters := by rcases hcases with h | h <;> rw [h] <;> decide
  have hne : v ≠ [] := by
    rintro rfl
    rcases hcases with h | h <;> rw [h] at hv <;> cases hv
  have hv' := isWord_of_sameText hletters hv
  have hafter := edge_after hw
  rw [isWordAt_getLast?_append hne hv'] at hafter
  simp only [← List.append_assoc, ← List.cons_append] at *
  refine ⟨⟨hne, hv', ?_, isWordAt_eq_false_iff.1 (Bool.eq_false_iff.2 hafter.symm)⟩, .lift ?_ ?_⟩
  · exact getLast?_of_not_isWord hbne fun x hx => isWord_eq_false_of_isWhite (hb x hx)
  · exact returned_of_leadsUp ht hbne hb
  · rcases hcases with h | h
    · rw [h] at hv
      exact .inl hv
    · rw [h] at hv
      exact .inr hv

/-- A flag is switched in the direction of its key, and its marker and key are not too long. -/
def Switches : RuleDefinition → Prop
  | .value .. => False
  | .flag _ marker key old new _ =>
    ((old = false ∧ new = true ∧ key ∈ openKeys) ∨ (old = true ∧ new = false ∧ key ∈ shutKeys)) ∧
      marker.toList.length + key.toList.length ≤ 1900

instance (d : RuleDefinition) : Decidable (Switches d) := by
  cases d <;> unfold Switches <;> infer_instance

theorem compiles_of_switches {d : RuleDefinition} (h : Switches d) : CompilesToRecasting d := by
  cases d with
  | value => exact h.elim
  | flag name marker key old new scope =>
    obtain ⟨hdirection, hlength⟩ := h
    have hnew : new = !old := by
      rcases hdirection with ⟨rfl, rfl, -⟩ | ⟨rfl, rfl, -⟩ <;> rfl
    obtain ⟨p, hp, hframes⟩ := scope.exists_frames marker key old hlength
    refine ⟨_, RuleDefinition.compile_flag_gives (by rw [hnew]; cases old <;> decide) (hp _), ?_⟩
    have hkeys : ∀ k ∈ openKeys ++ shutKeys, k.toList ≠ [] ∧ k.toList ⊆ letters := by decide
    obtain ⟨hne, hletters⟩ := hkeys key (by
      rcases hdirection with ⟨-, -, hk⟩ | ⟨-, -, hk⟩
      · exact List.mem_append_left _ hk
      · exact List.mem_append_right _ hk)
    intro text
    have hplaced := (hframes.findValues_placed text).mono
      (Q := fun a v c => RecastsWord a v (FlagScope.literalText new).toList c) ?_
    · obtain ⟨out, hout⟩ := hplaced.exists_rewrites (fun a v c h => h.1.ne_nil)
        (FlagScope.literalText new) .primary
      refine ⟨out, hout.mono ?_⟩
      rintro a v n c ⟨h, rfl⟩
      exact h
    · intro a v c hframed
      obtain ⟨⟨l, u, rfl, hu⟩, hv, hafter⟩ := FlagScope.framed_iff_occurs.1 hframed
      obtain ⟨x, t, rfl, ht⟩ := hu.keyLeadsUp
      obtain ⟨hliteral, hliterals⟩ := FlagScope.literalText_letters old
      have hvne : v ≠ [] := by
        rintro rfl
        exact hliteral (List.eq_nil_of_length_eq_zero hv.length_eq.symm)
      rw [← List.append_assoc]
      rcases hdirection with ⟨rfl, rfl, hk⟩ | ⟨rfl, rfl, hk⟩
      · obtain ⟨hkeyed, hbefore⟩ := keyed_of_leadsUp (l := l ++ x) hk hne hletters ht
        exact ⟨⟨hvne, isWord_of_sameText hliterals hv, hbefore, hafter⟩, .unlock hkeyed hv⟩
      · obtain ⟨hkeyed, hbefore⟩ := keyed_of_leadsUp (l := l ++ x) hk hne hletters ht
        exact ⟨⟨hvne, isWord_of_sameText hliterals hv, hbefore, hafter⟩, .lock hkeyed hv⟩

/-! ## The profiles -/

theorem switches_flags : ∀ marker ∈ ["claude-4", "claude"],
    ∀ d ∈ modelFlags marker ++ (productFlags marker).take 2, Switches d := by
  decide

/-- The kinds of rules that a table has: the two value rules, flags and gates. -/
def Known (d : RuleDefinition) : Prop :=
  d = tokenLimit ∨ d = thinkingLevel ∨ Switches d ∨ ∃ name, ∃ g ∈ gates, d = gate name g.1 g.2

theorem known_sets (marker : String) (hmarker : marker ∈ ["claude-4", "claude"])
    {more : List RuleDefinition} (hmore : ∀ d ∈ more, Known d) :
    ∀ s ∈ sets marker more, ∀ d ∈ s.rules, Known d := by
  have hflags := switches_flags marker hmarker
  intro s hs d hd
  simp only [sets, List.mem_cons, List.not_mem_nil, or_false] at hs
  rcases hs with rfl | rfl | rfl | rfl
  · exact .inl (List.mem_singleton.1 hd)
  · exact .inr (.inl (List.mem_singleton.1 hd))
  · exact .inr (.inr (.inl (hflags d (List.mem_append_left _ hd))))
  · rcases List.mem_append.1 hd with hd | hd
    · simp only [productFlags, List.mem_cons, List.not_mem_nil, or_false] at hd
      rcases hd with rfl | rfl | rfl | rfl
      · exact .inr (.inr (.inl (hflags _ (List.mem_append_right _ (by simp [productFlags])))))
      · exact .inr (.inr (.inl (hflags _ (List.mem_append_right _ (by simp [productFlags])))))
      · exact .inr (.inr (.inr ⟨_, ("subscription", "false"), by decide, rfl⟩))
      · exact .inr (.inr (.inr ⟨_, ("isPro", "null"), by decide, rfl⟩))
    · exact hmore d hd

/-- **Every rule of a profile is of a known kind.** -/
theorem known_profile {p : Profile} (hp : p ∈ all) : ∀ s ∈ p.table.sets, ∀ d ∈ s.rules, Known d := by
  simp only [all, List.mem_cons, List.not_mem_nil, or_false] at hp
  rcases hp with rfl | rfl
  · exact known_sets "claude-4" (by decide) (fun d hd => nomatch hd)
  · refine known_sets "claude" (by decide) fun d hd => ?_
    simp only [quotaGates, List.mem_cons, List.not_mem_nil, or_false] at hd
    rcases hd with rfl | rfl
    · exact .inr (.inr (.inr ⟨_, ("rateLimit", "false"), by decide, rfl⟩))
    · exact .inr (.inr (.inr ⟨_, ("usageLimit", "false"), by decide, rfl⟩))

theorem compiles_profile {p : Profile} (hp : p ∈ all) :
    ∀ s ∈ p.table.sets, ∀ d ∈ s.rules, CompilesToRecasting d := by
  intro s hs d hd
  rcases known_profile hp s hs d hd with rfl | rfl | hswitches | ⟨name, g, hg, rfl⟩
  · exact compiles_tokenLimit
  · exact compiles_thinkingLevel
  · exact compiles_of_switches hswitches
  · exact compiles_gate name hg

/-- **Both profiles compile, to rules that recast words.** -/
theorem compile_recasts {p : Profile} (hp : p ∈ all) : ∃ ruleSets : List RuleSet,
    p.table.compile.Gives ruleSets ∧ ∀ s ∈ ruleSets, ∀ rule ∈ s.rules, rule.RecastsWords := by
  obtain ⟨ruleSets, hgives, hsets⟩ := RuleTable.exists_compile_gives (compiles_profile hp)
  exact ⟨ruleSets, hgives, forall_of_forall₂ hsets fun _ _ _ hset =>
    forall_of_forall₂ hset.2 fun _ _ _ h => h⟩

/-! ## What becomes of a text -/

/-- What the built-in rules may put in place of a word. -/
inductive Substituted : List Char → List Char → Prop where
  | limit {v : List Char} (hdigits : ∀ x ∈ v, isDigit x = true)
    (hlength : 3 ≤ v.length ∧ v.length ≤ 6) (hvalue : decimalValue v < 200000) :
    Substituted v "200000".toList
  | level {v : List Char} (h : v = ['0'] ∨ v = ['1']) : Substituted v "2".toList
  | unlock {v : List Char} (h : SameText v "false".toList) : Substituted v "true".toList
  | lock {v : List Char} (h : SameText v "true".toList) : Substituted v "false".toList
  | lift {v : List Char} (h : SameText v "null".toList) : Substituted v "true".toList

/-- A run that is kept, or a word in place of another. -/
def KeptOrSubstituted (v w : List Char) : Prop :=
  v = w ∨ (∀ x ∈ v, isWord x = true) ∧ (∀ x ∈ w, isWord x = true) ∧ Substituted v w

theorem isWord_of_isDigit {x : Char} (h : isDigit x = true) : isWord x = true := by
  refine isWord_digit (List.any_eq_true.2 ⟨(0x30, 0x39), List.mem_cons_self, ?_⟩)
  simp only [isDigit, Bool.and_eq_true, decide_eq_true_eq] at h ⊢
  exact ⟨Char.le_def.1 h.1, Char.le_def.1 h.2⟩

theorem Recasts.keptOrSubstituted {before : List (List Char)} {v w : List Char}
    (h : Recasts before v w) : KeptOrSubstituted v w := by
  have hw := (newWords_isWord w h.mem_newWords).2
  refine .inr ?_
  cases h with
  | limit hdigits hlength hvalue =>
    exact ⟨fun x hx => isWord_of_isDigit (hdigits x hx), hw, .limit hdigits hlength hvalue⟩
  | level h =>
    refine ⟨fun x hx => isWord_of_isDigit ?_, hw, .level h⟩
    rcases h with rfl | rfl
    · obtain rfl := List.mem_singleton.1 hx
      rfl
    · obtain rfl := List.mem_singleton.1 hx
      rfl
  | unlock _ h => exact ⟨isWord_of_sameText (by decide) h, hw, .unlock h⟩
  | lock _ h => exact ⟨isWord_of_sameText (by decide) h, hw, .lock h⟩
  | lift _ h =>
    rcases h with h | h
    · exact ⟨isWord_of_sameText (by decide) h, hw, .unlock h⟩
    · exact ⟨isWord_of_sameText (by decide) h, hw, .lift h⟩

theorem Recast.forall₂ {b xs ys : List (List Char)} (h : Recast b xs ys) :
    List.Forall₂ KeptOrSubstituted xs ys := by
  induction h with
  | nil => exact .nil
  | keep _ ih => exact .cons (.inl rfl) ih
  | swap hxy _ ih => exact .cons hxy.keptOrSubstituted ih

end Profile

open Profile in
/-- **The built-in profiles substitute whole words only.**  Patching never fails; the separators of the
text stay, in number and order, and so do its words, but for small limits, thinking levels and literals;
and the text is what it was exactly if no change is reported. -/
theorem profiles_substitute_words (p : Profile) (hp : p ∈ Profile.all) (cache : PatternCache) :
    ∃ ruleSets cache', (ExceptT.run p.table.compile).run cache = (.ok ruleSets, cache') ∧
      ∀ text, ∃ u applied, patch ruleSets text = .ok ⟨u, applied⟩ ∧
        List.Forall₂ KeptOrSubstituted (wordRuns text.toList) (wordRuns u.toList) ∧
        (u = text ↔ applied = []) := by
  obtain ⟨ruleSets, hgives, hrecasts⟩ := compile_recasts hp
  obtain ⟨cache', hcompile⟩ := hgives cache
  refine ⟨ruleSets, cache', hcompile, fun text => ?_⟩
  obtain ⟨⟨u, applied⟩, hpatch, hrecast⟩ := patch_recast hrecasts text
  exact ⟨u, applied, hpatch, hrecast.recast.forall₂, hrecast.applied_iff⟩

open Profile in
/-- The profile for a single model is one of them. -/
theorem profiles_substitute_words_model :
    Profile.model ∈ Profile.all ∧
      ∃ ruleSets cache', (ExceptT.run Profile.model.table.compile).run PatternCache.empty =
          (.ok ruleSets, cache') ∧
        ∀ text, ∃ u applied, patch ruleSets text = .ok ⟨u, applied⟩ ∧
          List.Forall₂ KeptOrSubstituted (wordRuns text.toList) (wordRuns u.toList) ∧
          (u = text ↔ applied = []) :=
  ⟨List.mem_cons_self, profiles_substitute_words Profile.model List.mem_cons_self PatternCache.empty⟩

end LiteralPatch
