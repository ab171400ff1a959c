import LiteralPatch.Proofs.Profile.Lockstep
import LiteralPatch.Proofs.Rule.FlagFound

/-!
# Flags with another key

Where literals behind one key have been switched, the pattern of a flag with another key captures the same
literals as before (`FlagScope.neutral_of_swapsBehind`).

In the gaps of the pattern a switched literal does no harm: a gap runs over all letters, and what comes behind
it is a quote.  Two pieces are left in which a letter counts, and in front of both of them the text is known.
The marker and the key stand behind a quote, while a switched literal stands behind a colon or a blank.  And
the literal itself stands behind its key; but a text cannot end in two keys (`FlagScope.KeyEnds.sameText`).
So what has been switched is looked at as a part of a gap only.
-/

namespace LiteralPatch

open Pattern Pattern.Expr Pattern.Reader Profile Unicode

namespace Unicode

/-- What may stand between a key and its literal. -/
def isSeparator (c : Char) : Bool := c == ':' || isWhite c

theorem whiteSpace_untouched : (foldRuns.all fun r => whiteSpace.untouched r) = true := by
  decide +kernel

/-- A separator is equal up to case to itself only. -/
theorem eq_of_sameFold_separator {c d : Char} (hd : isSeparator d = true) (h : SameFold c d) : c = d := by
  rw [isSeparator, Bool.or_eq_true, beq_iff_eq] at hd
  rcases hd with rfl | hd
  · exact (sameFold_punctuation (by decide)).1 h
  · exact CharSet.eq_of_sameFold (List.all_eq_true.1 whiteSpace_untouched) hd h

theorem isSeparator_of_sameFold {c d : Char} (h : SameFold c d) (hd : isSeparator d = false) :
    isSeparator c = false := by
  refine Bool.eq_false_iff.2 fun hc => ?_
  rw [← eq_of_sameFold_separator hc h.symm, hd] at hc
  cases hc

/-- A text that is equal up to case to one without separators has none. -/
theorem isSeparator_of_sameText {u cs : List Char} (h : SameText u cs)
    (hcs : ∀ c ∈ cs, isSeparator c = false) : ∀ c ∈ u, isSeparator c = false :=
  h.forall_mem (fun _ _ => isSeparator_of_sameFold) hcs

/-- A text that is equal up to case to one without quotes has none. -/
theorem quote_notMem_of_sameText {u cs : List Char} (h : SameText u cs) (hcs : '"' ∉ cs) : '"' ∉ u := by
  have hquote : ∀ c d, SameFold c d → d ≠ '"' → c ≠ '"' := by
    rintro _ d hfold hd rfl
    exact hd ((sameFold_punctuation (by decide)).1 hfold.symm)
  exact fun hmem => h.forall_mem hquote (fun d hd heq => hcs (heq ▸ hd)) _ hmem rfl

end Unicode

namespace FlagScope

/-! ## What stands in front -/

/-- The text ends with a quote and the characters behind it. -/
def Quoted (cs l : List Char) : Prop :=
  ∃ x u, l = x ++ '"' :: u ∧ SameText u cs

/-- The text ends with the quoted key, and blanks behind it. -/
def QuotedKeyEnds (key l : List Char) : Prop :=
  ∃ x k w, l = x ++ '"' :: (k ++ '"' :: w) ∧ SameText k key ∧ ∀ c ∈ w, isWhite c = true

/-- The text ends with the key, a colon and blanks. -/
def KeyEnds (key l : List Char) : Prop :=
  ∃ x t, l = x ++ t ∧ KeyLeadsUp key t

variable {scope : FlagScope} {key key' cs ds l : List Char}

/-- A text ends with one key only, if keys have no quotes. -/
theorem KeyEnds.sameText (h : KeyEnds key l) (h' : KeyEnds key' l) (hkey : '"' ∉ key)
    (hkey' : '"' ∉ key') : SameText key key' := by
  obtain ⟨x, t, rfl, ht⟩ := h
  obtain ⟨x', t', heq, ht'⟩ := h'
  obtain ⟨k, k', -, -, -, hk, hk', hends⟩ := ht.fronts ht' heq
  obtain ⟨-, rfl⟩ := append_cons_inj_of_notMem_right hends (quote_notMem_of_sameText hk hkey)
    (quote_notMem_of_sameText hk' hkey')
  exact hk.symm.trans hk'

/-- Behind a key stands a separator. -/
theorem KeyEnds.getLast? (h : KeyEnds key l) : ∃ c ∈ l.getLast?, isSeparator c = true := by
  obtain ⟨x, _, rfl, k, w, w', rfl, -, -, hw'⟩ := h
  have hall : ∀ c ∈ ':' :: w', isSeparator c = true := by
    refine List.forall_mem_cons.2 ⟨by decide +kernel, fun c hc => ?_⟩
    rw [isSeparator, hw' c hc, Bool.or_true]
  refine ⟨(':' :: w').getLast (List.cons_ne_nil _ _), ?_, hall _ (List.getLast_mem _)⟩
  rw [Option.mem_def, ← List.getLast?_eq_some_getLast (List.cons_ne_nil _ _)]
  simp [List.getLast?_append, List.getLast?_cons]

/-- A text within quotes that has no separators is not a place behind a key. -/
theorem Quoted.not_keyEnds (h : Quoted cs l) (hcs : ∀ c ∈ cs, isSeparator c = false) :
    ¬ KeyEnds key l := by
  intro hkey
  obtain ⟨c, hc, hsep⟩ := hkey.getLast?
  obtain ⟨x, u, rfl, hu⟩ := h
  have hall : ∀ c ∈ '"' :: u, isSeparator c = false :=
    List.forall_mem_cons.2 ⟨by decide +kernel, isSeparator_of_sameText hu hcs⟩
  rw [List.getLast?_append_of_ne_nil _ (List.cons_ne_nil _ _)] at hc
  rw [hall c (List.mem_of_getLast? hc)] at hsep
  cases hsep

/-! ## The pieces of a flag -/

/-- Every swapped word stands behind the key. -/
def SwapsBehind (key : List Char) (ts : List Tile) : Prop :=
  ∀ as v w h bs, ts = as ++ .swap v w h :: bs → KeyEnds key (oldText as)

section Pieces

variable {ts : List Tile} {g : Goal} {Q Q' : List Char → Prop} {x : Char}

theorem has_literal {c d : Char} : ((initialFlags true).literal c).has d = true ↔ SameFold d c :=
  CharSet.has_ofCharFolded

theorem chain_text_cons {c : Char} : (chain (text true (c :: cs))).first g =
    (Expr.set ((initialFlags true).literal c)).first ((chain (text true cs)).first g) :=
  Expr.first_chain_cons

/-- The characters by which the pieces of the pattern are set apart. -/
def signs : List Char := ['"', ':', '\x7b']

theorem signs_punctuation : ∀ x ∈ signs, x ∈ punctuation := by decide

theorem isWord_of_mem_signs : ∀ x ∈ signs, isWord x = false := by decide +kernel

theorem has_literal_of_mem_signs (hx : x ∈ signs) {d : Char} :
    ((initialFlags true).literal x).has d = true ↔ d = x := by
  rw [has_literal, sameFold_punctuation (signs_punctuation x hx)]

/-- The signs do not belong to words. -/
theorem not_has_of_isWord (hx : x ∈ signs) {d : Char} (hd : isWord d = true) :
    ((initialFlags true).literal x).has d = false := by
  refine Bool.eq_false_iff.2 fun hhas => ?_
  rw [(has_literal_of_mem_signs hx).1 hhas, isWord_of_mem_signs x hx] at hd
  cases hd

theorem stuck_sign (hx : x ∈ signs) : Stuck ((chain (text true (x :: cs))).first g) := by
  rw [chain_text_cons]
  exact stuck_set fun d hd => not_has_of_isWord hx hd

theorem agreesBehind_sign (hx : x ∈ signs) (hstep : ∀ l, Q l → Q' (l ++ [x]))
    (hg : AgreesBehind ts Q' g) : AgreesBehind ts Q ((chain (text true [x])).first g) := by
  rw [chain_text_cons]
  refine agreesBehind_set hg (fun l c hl hc => ?_) (.inr fun c v hbland => ?_)
  · rw [(has_literal_of_mem_signs hx).1 hc]
    exact hstep l hl
  · exact not_has_of_isWord hx (hbland.isWord c List.mem_cons_self)

theorem agrees_sign (hx : x ∈ signs) (hg : Agrees ts false g) :
    Agrees ts false ((chain (text true [x])).first g) := by
  have hall : AgreesBehind ts (fun _ => True) g := hg.behind
  exact (agreesBehind_sign hx (fun _ _ => trivial) hall).agrees

theorem agreesBehind_blanks (hts : Parted [] ts) (hstep : ∀ l c, Q l → isWhite c = true → Q (l ++ [c]))
    (hg : AgreesBehind ts Q g) : AgreesBehind ts Q (Expr.blanks.first g) :=
  agreesBehind_star hts (.inl fun _ hc => has_whiteSpace_of_isWord hc) hstep hg

/-- A text behind a quote, in which nothing is swapped. -/
theorem agreesBehind_quoted (hswaps : SwapsBehind key ts) (hcs : ∀ c ∈ ds ++ cs, isSeparator c = false)
    (hg : AgreesBehind ts (Quoted (ds ++ cs)) g) :
    AgreesBehind ts (Quoted ds) ((chain (text true cs)).first g) := by
  -- along the text, with `ds` for what has been passed since the quote
  induction cs generalizing ds with
  | nil => rwa [List.append_nil] at hg
  | cons c cs ih =>
    have hmove : ds ++ c :: cs = ds ++ [c] ++ cs := by simp
    rw [hmove] at hcs hg
    rw [chain_text_cons]
    refine agreesBehind_set (ih hcs hg) ?_ (.inl fun as v w h bs hsplit hquoted => ?_)
    · rintro _ d ⟨x, u, rfl, hu⟩ hd
      refine ⟨x, u ++ [d], by simp, hu.append ?_⟩
      exact sameText_cons.2 ⟨d, [], rfl, has_literal.1 hd, rfl⟩
    · refine hquoted.not_keyEnds (fun c hc => hcs c ?_) (hswaps as v w h bs hsplit)
      simp [hc]

/-- A quoted text, in which nothing is swapped. -/
theorem agrees_quoted (hswaps : SwapsBehind key ts) (hcs : ∀ c ∈ cs, isSeparator c = false)
    (hg : AgreesBehind ts (Quoted cs) g) :
    Agrees ts false ((chain (text true ['"'])).first ((chain (text true cs)).first g)) := by
  have hquoted : AgreesBehind ts (Quoted []) ((chain (text true cs)).first g) :=
    agreesBehind_quoted hswaps (by simpa using hcs) hg
  exact (agreesBehind_sign (by decide) (fun l _ => ⟨l, [], rfl, rfl⟩) hquoted).agrees

/-- A gap in front of something that does not begin within words. -/
theorem agrees_gap (hts : Parted [] ts) (hx : x ∈ ['"', ':', '\x7d']) (hstuck : Stuck g)
    (hg : Agrees ts false g) : Agrees ts false ((chain [Expr.without x true]).first g) := by
  have hword : ∀ x ∈ ['"', ':', '\x7d'], isWord x = false := by decide +kernel
  exact agrees_without hts (hword x hx) hstuck hg

/-- A key with its colon. -/
theorem agrees_key (hts : Parted [] ts) (hswaps : SwapsBehind key' ts)
    (hkey : ∀ c ∈ key, isSeparator c = false) (hg : AgreesBehind ts (KeyEnds key) g) :
    Agrees ts false ((chain ((keyParts key).flatMap Part.factors)).first g) := by
  simp only [factors_keyParts, Expr.first_chain_append]
  -- from the colon back to the quote, each piece with what stands in front of it
  have hblanks : AgreesBehind ts (KeyEnds key) (Expr.blanks.first g) := by
    refine agreesBehind_blanks hts ?_ hg
    rintro _ c ⟨x, _, rfl, k, w, w', rfl, hk, hw, hw'⟩ hc
    refine ⟨x, _, List.append_assoc _ _ _, k, w, w' ++ [c], by simp, hk, hw, ?_⟩
    exact List.forall_mem_append.2 ⟨hw', List.forall_mem_singleton.2 hc⟩
  have hcolon : AgreesBehind ts (QuotedKeyEnds key)
      ((chain (text true [':'])).first (Expr.blanks.first g)) := by
    refine agreesBehind_sign (by decide) ?_ hblanks
    rintro _ ⟨x, k, w, rfl, hk, hw⟩
    exact ⟨x, _, List.append_assoc _ _ _, k, w, [], by simp, hk, hw, by simp⟩
  have hmore : AgreesBehind ts (QuotedKeyEnds key)
      (Expr.blanks.first ((chain (text true [':'])).first (Expr.blanks.first g))) := by
    refine agreesBehind_blanks hts ?_ hcolon
    rintro _ c ⟨x, k, w, rfl, hk, hw⟩ hc
    refine ⟨x, k, w ++ [c], by simp, hk, ?_⟩
    exact List.forall_mem_append.2 ⟨hw, List.forall_mem_singleton.2 hc⟩
  refine agrees_quoted hswaps hkey (agreesBehind_sign (by decide) ?_ hmore)
  rintro _ ⟨x, k, rfl, hk⟩
  exact ⟨x, k, [], by simp, hk, by simp⟩

theorem stuck_key : Stuck ((chain ((keyParts key).flatMap Part.factors)).first g) := by
  simp only [factors_keyParts, Expr.first_chain_append]
  exact stuck_sign (by decide)

/-- **What is in front of the literal of a flag,** where words are swapped behind another key. -/
theorem agrees_factors {marker : List Char} (hts : Parted [] ts) (hswaps : SwapsBehind key' ts)
    (hmarker : ∀ c ∈ marker, isSeparator c = false) (hkey : ∀ c ∈ key, isSeparator c = false)
    (hg : AgreesBehind ts (KeyEnds key) g) :
    Agrees ts false ((chain (scope.factors marker key)).first g) := by
  have hbehind : Agrees ts false
      ((chain [Expr.without '\x7d' true]).first ((chain ((keyParts key).flatMap Part.factors)).first g)) :=
    agrees_gap hts (by decide) stuck_key (agrees_key hts hswaps hkey hg)
  cases scope with
  | entry =>
    simp only [factors_entry, Expr.first_chain_append]
    have hquote := agrees_sign (x := '"') (by decide) hbehind
    have hrest := agrees_gap hts (x := '"') (by decide) (stuck_sign (by decide)) hquote
    exact agrees_quoted hswaps hmarker hrest.behind
  | keyedObject =>
    simp only [factors_keyedObject, Expr.first_chain_append]
    have hbrace := agrees_sign (x := '\x7b') (by decide) hbehind
    have hcolon := agrees_sign (x := ':') (by decide) (agrees_blanks hts hbrace)
    have hgap := agrees_gap hts (x := ':') (by decide) (stuck_sign (by decide)) hcolon
    have hquote := agrees_sign (x := '"') (by decide) hgap
    have hrest := agrees_gap hts (x := '"') (by decide) (stuck_sign (by decide)) hquote
    exact agrees_quoted hswaps hmarker hrest.behind
  | object =>
    simp only [factors_object, Expr.first_chain_append]
    have hrest := agrees_quoted hswaps hmarker hbehind.behind
    exact agrees_sign (by decide) (agrees_gap hts (by decide) (stuck_sign (by decide)) hrest)

theorem stuck_factors {marker : List Char} : Stuck ((chain (scope.factors marker key)).first g) := by
  cases scope <;>
    simp only [factors_entry, factors_keyedObject, factors_object, Expr.first_chain_append] <;>
    exact stuck_sign (by decide)

/-- Letters behind a letter. -/
theorem agrees_letters (hts : Parted [] ts) (hcs : cs ⊆ letters) (hg : Agrees ts false g) :
    Agrees ts true ((chain (text true cs)).first g) := by
  induction cs with
  | nil => exact hg.mono
  | cons c cs ih =>
    obtain ⟨hc, hrest⟩ := List.cons_subset.1 hcs
    rw [chain_text_cons]
    exact agrees_set hts (ih hrest) (fun _ d hd => isWord_of_sameFold hc (has_literal.1 hd)) (.inl rfl)

/-- Letters at a place at which nothing is swapped. -/
theorem agreesBehind_letters (hts : Parted [] ts)
    (hclear : ∀ as v w h bs, ts = as ++ .swap v w h :: bs → ¬ Q (oldText as)) (hcs : cs ⊆ letters)
    (hg : Agrees ts false g) : AgreesBehind ts Q ((chain (text true cs)).first g) := by
  cases cs with
  | nil => exact hg.behind
  | cons c cs =>
    obtain ⟨hc, hrest⟩ := List.cons_subset.1 hcs
    rw [chain_text_cons]
    -- behind the first letter the text is within a word, and there nothing is swapped
    refine agreesBehind_set (agrees_iff.1 (agrees_letters hts hrest hg)) (fun l d _ hd _ => ?_) (.inl hclear)
    rw [List.getLast?_concat]
    exact isWord_of_sameFold hc (has_literal.1 hd)

end Pieces

/-! ## The patterns -/

/-- **What is switched behind one key does not matter to flags with another key.** -/
theorem neutral_of_swapsBehind {marker : List Char} {literal : Bool} {p : ValuePattern} {ts : List Tile}
    (hframes : p.Frames (scope.factors marker key) (chain (text true (literalText literal).toList)) [edge])
    (hts : Parted [] ts) (hswaps : SwapsBehind key' ts) (hdiffer : ∀ l, KeyEnds key l → ¬ KeyEnds key' l)
    (hmarker : ∀ c ∈ marker, isSeparator c = false) (hkey : ∀ c ∈ key, isSeparator c = false) :
    Neutral ts p := by
  have hend : Agrees ts false (closing 1 ((chain [edge]).first (closing 0 Goal.success))) :=
    (agrees_edge agrees_end).closing
  have hliteral := agreesBehind_group (i := 1) (agreesBehind_letters hts
    (fun as v w h bs hsplit hends => hdiffer _ hends (hswaps as v w h bs hsplit))
    (literalText_letters literal).2 hend)
  refine neutral_of_frames hframes ?_ ?_
  · rw [Expr.first_chain_append, Expr.first_chain_cons]
    exact agrees_factors hts hswaps hmarker hkey hliteral
  · rw [Expr.first_chain_append]
    exact stuck_factors

end FlagScope
end LiteralPatch
