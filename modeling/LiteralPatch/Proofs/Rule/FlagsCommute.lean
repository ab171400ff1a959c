import LiteralPatch.Proofs.Profile.Merging
import LiteralPatch.Proofs.Profile.Settling
import LiteralPatch.Proofs.Rule.FlagNeutral

/-!
# Flag rules with different keys commute

A match of a flag rule runs from a marker to a literal, and all that lies in between may be switched by
another rule, the flags of another key above all.  Nothing comes of that.  A text in which another key's
literals have been switched reads the same to the pattern (`FlagScope.neutral_of_swapsBehind`), so after the
other rule a flag rule finds the flags that it would have found before (`FlagScope.find_after`).

So both orders make the same changes, and to make them one after the other is to make them together
(`Walk.merge`): two flag rules with different keys may be applied in any order (`FlagScope.result_comm`).
-/

namespace LiteralPatch

open Pattern Pattern.Expr Profile Text Unicode

/-- What is replaced, and what by. -/
def Change.values (ch : Change) : String × String := (ch.oldValue, ch.newValue)

/-- What a rule makes of a text; if it finds nothing, the text stays as it is. -/
def Rule.result (rule : Rule) (text : String) : Except ApplyError Application :=
  (rule.apply text).map fun made => made.getD ⟨text, []⟩

theorem Rewrites.result_eq {P : List Char → List Char → List Char → List Char → Prop} {rule : Rule}
    {text : String} {out : List Char} (h : Rewrites P [] text.toList (rule.find text) out) :
    rule.result text = .ok ⟨String.ofList out, rule.find text⟩ := by
  have hedits := h.applyAll
  rw [Rule.result, Rule.apply]
  cases hfind : rule.find text with
  | nil =>
    rw [hfind] at h
    generalize hr : text.toList = r at h
    cases h with
    | none => rw [← hr, String.ofList_toList]; rfl
  | cons ch chs =>
    rw [hfind] at hedits
    simp only [hedits]
    rfl

/-- Corresponding changes replace the same by the same. -/
theorem Profile.values_eq_of_twins {ts : List Tile} {chs chs' : List Change}
    (h : List.Forall₂ (ChangeTwin ts) chs chs') : chs'.map Change.values = chs.map Change.values := by
  induction h with
  | nil => rfl
  | cons htwin _ ih =>
    obtain ⟨_, _, _, -, -, -, hold, hold', hnew⟩ := htwin
    rw [List.map_cons, List.map_cons, ih, Change.values, Change.values, hold, hold', hnew]

namespace FlagScope

/-- A text without quotes, colons and white space. -/
def Bare (t : List Char) : Prop := ∀ c ∈ t, c ≠ '"' ∧ isSeparator c = false

instance (t : List Char) : Decidable (Bare t) :=
  inferInstanceAs (Decidable (∀ c ∈ t, c ≠ '"' ∧ isSeparator c = false))

theorem Bare.isSeparator_eq {t : List Char} (h : Bare t) : ∀ c ∈ t, isSeparator c = false :=
  fun c hc => (h c hc).2

theorem Bare.quote_notMem {t : List Char} (h : Bare t) : '"' ∉ t :=
  fun hmem => (h _ hmem).1 rfl

section Switched

variable {scope : FlagScope} {m k a v c : List Char} {old new : Bool}

theorem Occurs.keyEnds (h : scope.Occurs m k old a v c) : KeyEnds k a := by
  obtain ⟨l, u, rfl, hu⟩ := h.leadsUp
  obtain ⟨x, t, rfl, ht⟩ := hu.keyLeadsUp
  exact ⟨l ++ x, t, (List.append_assoc l x t).symm, ht⟩

theorem Occurs.substituted (h : scope.Occurs m k old a v c) (hne : old ≠ new) :
    Substituted v (literalText new).toList := by
  have hliteral := h.literal_eq
  cases old <;> cases new
  · exact absurd rfl hne
  · exact .unlock hliteral
  · exact .lock hliteral
  · exact absurd rfl hne

/-- A literal that occurs behind one key is not one that is swapped behind another. -/
theorem Occurs.keeps {ts as ms bs : List Tile} {key' : List Char} (hts : Parted [] ts)
    (hsplit : ts = as ++ (ms ++ bs)) (hswaps : SwapsBehind key' ts)
    (hdiffer : ∀ l, KeyEnds k l → ¬ KeyEnds key' l) (h : scope.Occurs m k old (oldText as) (oldText ms) c) :
    ∃ cs : List Char, ms = cs.map .keep := by
  have hparted := hts
  rw [hsplit] at hparted
  rcases hparted.keeps_or_single h.wholeWord.isWord with hkeeps | ⟨v, w, hvw, rfl⟩
  · exact hkeeps
  · exact absurd (hswaps as v w hvw bs hsplit) (hdiffer _ h.keyEnds)

end Switched

section Pair

variable {scope₁ scope₂ : FlagScope} {name₁ name₂ marker₁ marker₂ key₁ key₂ : String}
  {old₁ new₁ old₂ new₂ : Bool} {rule₁ rule₂ : Rule}

/-- Where literals have been switched behind another key, a flag rule makes the same changes as before. -/
theorem find_twins
    (h₂ : (RuleDefinition.flag name₂ marker₂ key₂ old₂ new₂ scope₂).compile.Gives rule₂)
    (hmarker : Bare marker₂.toList) (hkey : Bare key₂.toList) {key' : List Char}
    (hdiffer : ∀ l, KeyEnds key₂.toList l → ¬ KeyEnds key' l) {ts : List Tile} (hts : Parted [] ts)
    (hswaps : SwapsBehind key' ts) {text out : String} (htext : oldText ts = text.toList)
    (hout : newText ts = out.toList) :
    List.Forall₂ (ChangeTwin ts) (rule₂.find text) (rule₂.find out) := by
  obtain ⟨p, rfl, -, hframes⟩ := exists_frames_of_gives h₂
  have hneutral := neutral_of_swapsBehind hframes hts hswaps hdiffer hmarker.isSeparator_eq hkey.isSeparator_eq
  have htwins := hneutral.findValues_twins hts hframes (literal_nullable old₂) htext hout
  have hplaced := hframes.findValues_placed text
  rw [Rule.find, FlagRule.find, FlagRule.find, List.forall₂_map_left_iff, List.forall₂_map_right_iff]
  refine forall₂_imp_of_mem htwins fun v hv v' _ htwin => ?_
  obtain ⟨a, b, c, hsplit, hspan, hvalue, hframed⟩ := hplaced.exists_of_mem v hv
  obtain ⟨as, ms, bs, hms, hstart, hstart', hold, hnew⟩ := htwin
  -- the value that is captured is the old side of the tiles
  obtain rfl : oldText ms = b := String.ofList_injective (hold.symm.trans hvalue)
  rw [hspan] at hstart
  have heq : a ++ (oldText ms ++ c) = oldText as ++ (oldText ms ++ oldText bs) := by
    rw [← List.append_assoc, ← hsplit, List.nil_append, ← htext, hms, oldText_append, oldText_append]
  obtain ⟨rfl, -⟩ := append_inj_of_width heq hstart
  obtain ⟨cs, rfl⟩ := (framed_iff_occurs.1 hframed).keeps hts hms hswaps hdiffer
  rw [oldText_keeps] at hold hspan
  rw [newText_keeps] at hnew
  exact ⟨as, cs, bs, hms, hspan, hstart', hold, hnew, rfl⟩

/-- **A flag rule finds what it found before, after a rule for another key.** -/
theorem find_after
    (h₁ : (RuleDefinition.flag name₁ marker₁ key₁ old₁ new₁ scope₁).compile.Gives rule₁)
    (h₂ : (RuleDefinition.flag name₂ marker₂ key₂ old₂ new₂ scope₂).compile.Gives rule₂)
    (hmarker : Bare marker₂.toList) (hkey : Bare key₂.toList)
    (hdiffer : ∀ l, KeyEnds key₂.toList l → ¬ KeyEnds key₁.toList l) (text : String) :
    ∃ mid out both, rule₁.result text = .ok ⟨mid, rule₁.find text⟩ ∧
      rule₂.result mid = .ok ⟨out, rule₂.find mid⟩ ∧
      (rule₂.find mid).map Change.values = (rule₂.find text).map Change.values ∧
      Walk [] text.toList both out.toList ∧ (both.map Rule.edit).Perm
        ((rule₁.find text).map Rule.edit ++ (rule₂.find text).map Rule.edit) := by
  obtain ⟨mid, hmid⟩ := exists_rewrites h₁ text
  obtain ⟨out, hout⟩ := exists_rewrites h₂ (String.ofList mid)
  obtain ⟨-, -, hne, -⟩ := exists_frames_of_gives h₁
  have hsubstituted : ∀ a v w c, scope₁.Occurs marker₁.toList key₁.toList old₁ a v c ∧
      w = (literalText new₁).toList → Substituted v w := by
    rintro a v w c ⟨hoccurs, rfl⟩
    exact hoccurs.substituted hne
  obtain ⟨ts, hold, rfl, hswapped, hchanges⟩ := hmid.exists_tiles_of hsubstituted
  have hts : Parted [] ts := hswapped.parted fun _ _ _ _ hword => hword.1.wholeWord
  have hswaps : SwapsBehind key₁.toList ts := by
    rintro as v w h bs rfl
    exact hswapped.of_split.1.keyEnds
  have htwins : List.Forall₂ (ChangeTwin ([] ++ ts)) (rule₂.find text)
      (rule₂.find (String.ofList (newText ts))) :=
    find_twins h₂ hmarker hkey hdiffer hts hswaps hold (String.toList_ofList).symm
  have hlater : Walk (newText []) (newText ts) (rule₂.find (String.ofList (newText ts))) out := by
    simpa using hout.walk
  obtain ⟨both, hperm, hwalk⟩ := Walk.merge htwins hlater
  refine ⟨_, String.ofList out, both, hmid.result_eq, hout.result_eq, values_eq_of_twins htwins, ?_, ?_⟩
  · simpa [hold] using hwalk
  · rw [hchanges, ← List.map_append]
    exact hperm.map Rule.edit

/-- **Flag rules with different keys may be applied in any order.** -/
theorem result_comm
    (h₁ : (RuleDefinition.flag name₁ marker₁ key₁ old₁ new₁ scope₁).compile.Gives rule₁)
    (h₂ : (RuleDefinition.flag name₂ marker₂ key₂ old₂ new₂ scope₂).compile.Gives rule₂)
    (hmarker₁ : Bare marker₁.toList) (hkey₁ : Bare key₁.toList) (hmarker₂ : Bare marker₂.toList)
    (hkey₂ : Bare key₂.toList) (hkeys : ¬ SameText key₁.toList key₂.toList) (text : String) :
    ∃ a₁ b₂ a₂ b₁ : Application,
      (rule₁.result text = .ok a₁ ∧ rule₂.result a₁.text = .ok b₂) ∧
      (rule₂.result text = .ok a₂ ∧ rule₁.result a₂.text = .ok b₁) ∧
      b₂.text = b₁.text ∧ a₁.changes.map Change.values = b₁.changes.map Change.values ∧
      a₂.changes.map Change.values = b₂.changes.map Change.values := by
  have hdiffer : ∀ l, KeyEnds key₂.toList l → ¬ KeyEnds key₁.toList l := fun l hl hl' =>
    hkeys (hl'.sameText hl hkey₁.quote_notMem hkey₂.quote_notMem)
  have hdiffer' : ∀ l, KeyEnds key₁.toList l → ¬ KeyEnds key₂.toList l := fun l hl hl' =>
    hdiffer l hl' hl
  obtain ⟨mid₁, out₂, both, hfirst, hsecond, hvalues, hwalk, hperm⟩ :=
    find_after h₁ h₂ hmarker₂ hkey₂ hdiffer text
  obtain ⟨mid₂, out₁, both', hfirst', hsecond', hvalues', hwalk', hperm'⟩ :=
    find_after h₂ h₁ hmarker₁ hkey₁ hdiffer' text
  refine ⟨_, _, _, _, ⟨hfirst, hsecond⟩, ⟨hfirst', hsecond'⟩, ?_, hvalues'.symm, hvalues.symm⟩
  have hboth := hperm.trans (List.perm_append_comm.trans hperm'.symm)
  refine String.toList_inj.1 (hwalk.eq_of_perm hwalk' hboth fun e he => ?_)
  rw [hperm.mem_iff, List.mem_append] at he
  rcases he with he | he
  · obtain ⟨ch, hch, rfl⟩ := List.mem_map.1 he
    exact (neverEmpty_of_gives h₁).start_lt_stop text ch hch
  · obtain ⟨ch, hch, rfl⟩ := List.mem_map.1 he
    exact (neverEmpty_of_gives h₂).start_lt_stop text ch hch

end Pair

/-- One object, in which the way from the marker to the flag of one rule crosses that of the other. -/
def crossedFlags : String := "\x7b\"m\":1,\"n\":2,\"j\":TRUE,\"k\":false\x7d"

/-- A rule for the last flag. -/
def switchOn : RuleDefinition := .flag "on" "n" "k" false true .entry

/-- A rule for the flag in front of it. -/
def switchOff : RuleDefinition := .flag "off" "m" "j" true false .object

theorem occurs_switchOn : FlagScope.entry.Occurs "n".toList "k".toList false
    "\x7b\"m\":1,\"n\":2,\"j\":TRUE,\"k\":".toList "false".toList "\x7d".toList where
  leadsUp := ⟨"\x7b\"m\":1,".toList, "\"n\":2,\"j\":TRUE,\"k\":".toList, rfl, ['n'], [],
    ":2,\"j\":TRUE,".toList, "\"k\":".toList, rfl, rfl, by simp, by decide, ['k'], [], [], rfl, rfl,
    by simp, by simp⟩
  literal_eq := rfl
  after := by
    rintro _ ⟨⟩
    decide +kernel

theorem occurs_switchOff : FlagScope.object.Occurs "m".toList "j".toList true
    "\x7b\"m\":1,\"n\":2,\"j\":".toList "TRUE".toList ",\"k\":false\x7d".toList where
  leadsUp := ⟨[], "\x7b\"m\":1,\"n\":2,\"j\":".toList, rfl, [], ['m'],
    "\":1,\"n\":2,".toList, "\"j\":".toList, rfl, by simp, rfl, by decide, ['j'], [], [], rfl, rfl,
    by simp, by simp⟩
  literal_eq := rfl
  after := by
    rintro _ ⟨⟩
    decide +kernel

/-- Both rules find a flag there, and their order does not matter. -/
theorem result_comm_crossedFlags :
    ∃ on off, (switchOn.compile.Gives on ∧ switchOff.compile.Gives off) ∧
      (on.find crossedFlags ≠ [] ∧ off.find crossedFlags ≠ []) ∧
      ∃ a₁ b₂ a₂ b₁ : Application,
        (on.result crossedFlags = .ok a₁ ∧ off.result a₁.text = .ok b₂) ∧
        (off.result crossedFlags = .ok a₂ ∧ on.result a₂.text = .ok b₁) ∧
        b₂.text = b₁.text ∧ a₁.changes.map Change.values = b₁.changes.map Change.values ∧
        a₂.changes.map Change.values = b₂.changes.map Change.values := by
  obtain ⟨on, hon⟩ : ∃ rule, switchOn.compile.Gives rule := exists_gives (by decide) (by decide)
  obtain ⟨off, hoff⟩ : ∃ rule, switchOff.compile.Gives rule := exists_gives (by decide) (by decide)
  refine ⟨on, off, ⟨hon, hoff⟩, ⟨fun hnil => ?_, fun hnil => ?_⟩, ?_⟩
  · exact (find_eq_nil_iff hon crossedFlags).1 hnil _ _ _ rfl occurs_switchOn
  · exact (find_eq_nil_iff hoff crossedFlags).1 hnil _ _ _ rfl occurs_switchOff
  · exact result_comm hon hoff (by decide +kernel) (by decide +kernel) (by decide +kernel)
      (by decide +kernel) (by decide +kernel) crossedFlags

end FlagScope
end LiteralPatch
