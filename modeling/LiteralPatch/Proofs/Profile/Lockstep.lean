import LiteralPatch.Proofs.Profile.Twins

/-!
# A scan of both texts

A pattern that gives the same at corresponding places and does not match from within a swapped word
(`Neutral`) is scanned in lockstep over both texts: either both scans pass a tile or both find a match, which
ends at corresponding places.  So the captures correspond one by one (`Neutral.findValues_twins`); each is
the old and the new side of the same tiles.

The patterns of the value rules are of this kind (`neutral_limit`, `neutral_return`, `neutral_level`).  Their
pieces are gone through from the last to the first.
-/

namespace LiteralPatch

open Text Unicode Pattern Cursor

namespace ValuePattern

/-- The match at a position as a goal. -/
def goal (p : ValuePattern) : Goal := fun here _ => p.pattern.program.matchAt here

variable {p : ValuePattern} {l v r : List Char} {vs : List ValueCapture}

theorem Swept.of_none {c : Char} (h : p.Swept l (c :: r) vs)
    (hnone : p.pattern.program.matchAt (between l (c :: r)) = none) : p.Swept (l ++ [c]) r vs := by
  generalize htext : c :: r = text at h
  cases h with
  | done => cases htext
  | pass _ hrest =>
    obtain ⟨rfl, rfl⟩ := List.cons.inj htext
    exact hrest
  | found h =>
    rw [← htext, hnone] at h
    cases h

theorem Swept.of_end (h : p.Swept l [] vs)
    (hnone : p.pattern.program.matchAt (between l []) = none) : vs = [] := by
  generalize htext : ([] : List Char) = text at h
  cases h with
  | done => rfl
  | pass => cases htext
  | found h =>
    rw [← htext, hnone] at h
    cases h

theorem Swept.of_some {marks : List Mark} {there : Cursor} (h : p.Swept l r vs)
    (hmatch : p.pattern.program.matchAt (between l r) = some (marks, there)) :
    ∃ w x v vs', r = w ++ x ∧ there = between (l ++ w) x ∧ w ≠ [] ∧
      p.captureOf (l ++ r) marks = some v ∧ p.Swept (l ++ w) x vs' ∧ vs = v :: vs' := by
  cases h with
  | done hnone =>
    rw [hnone] at hmatch
    cases hmatch
  | pass hnone =>
    rw [hnone] at hmatch
    cases hmatch
  | found h hw hv hrest =>
    rw [h] at hmatch
    obtain ⟨rfl, rfl⟩ := Prod.mk.inj (Option.some.inj hmatch)
    exact ⟨_, _, _, _, rfl, rfl, hw, hv, hrest, rfl⟩

/-- A stretch from which the pattern does not match is passed. -/
theorem Swept.over (h : p.Swept l (v ++ r) vs)
    (hnone : ∀ x q, v = x ++ q → q ≠ [] →
      p.pattern.program.matchAt (between (l ++ x) (q ++ r)) = none) : p.Swept (l ++ v) r vs := by
  induction v generalizing l with
  | nil => rwa [List.append_nil]
  | cons c v ih =>
    have hfirst := hnone [] (c :: v) rfl (List.cons_ne_nil c v)
    rw [List.append_nil] at hfirst
    have hrest := ih (h.of_none hfirst) fun x q hv hq => by
      simpa using hnone (c :: x) q (by rw [hv]; rfl) hq
    rwa [List.append_assoc] at hrest

end ValuePattern

namespace Profile

/-! ## Captures at corresponding places -/

/-- The captures are the two sides of the same tiles. -/
def CaptureTwin (ts : List Tile) (v v' : ValueCapture) : Prop :=
  ∃ as ms bs, ts = as ++ (ms ++ bs) ∧ v.span.start = width (oldText as) ∧
    v'.span.start = width (newText as) ∧ v.value = String.ofList (oldText ms) ∧
    v'.value = String.ofList (newText ms)

section Scan

variable {ts as bs : List Tile} {p : ValuePattern}

theorem slot_twin {ms ms' : List Mark} (h : List.Forall₂ (MarkTwin ts) ms ms') {i a a' : Nat}
    (ha : Program.slot? ms i = some a) (ha' : Program.slot? ms' i = some a') :
    ∃ as bs, ts = as ++ bs ∧ a = width (oldText as) ∧ a' = width (newText as) := by
  induction h with
  | nil => cases ha
  | @cons m m' ms ms' hm _ ih =>
    obtain ⟨j, n⟩ := m
    obtain ⟨j', n'⟩ := m'
    obtain ⟨rfl, hplace⟩ := hm
    simp only [Program.slot?, List.lookup_cons] at ha ha' ih
    cases hij : i == j with
    | true =>
      rw [hij] at ha ha'
      obtain rfl := Option.some.inj ha
      obtain rfl := Option.some.inj ha'
      exact hplace
    | false =>
      rw [hij] at ha ha'
      exact ih ha ha'

theorem group_eq_some {ms : List Mark} {i a b : Nat} (h : Program.group? ms i = some (a, b)) :
    Program.slot? ms (2 * i) = some a ∧ Program.slot? ms (2 * i + 1) = some b := by
  unfold Program.group? at h
  split at h
  · next ha hb =>
    obtain ⟨rfl, rfl⟩ := Prod.mk.inj (Option.some.inj h)
    exact ⟨ha, hb⟩
  · cases h

theorem slice_append (a b c : List Char) :
    Text.slice? (a ++ (b ++ c)) (width a) (width (a ++ b)) = some b :=
  Text.slice?_eq_some_iff.2 ⟨a, c, by simp, rfl, (width_append a b).symm⟩

/-- Corresponding marks give corresponding captures. -/
theorem capture_twin {ms ms' : List Mark} (h : List.Forall₂ (MarkTwin ts) ms ms') {v v' : ValueCapture}
    (hv : p.captureOf (oldText ts) ms = some v) (hv' : p.captureOf (newText ts) ms' = some v') :
    CaptureTwin ts v v' := by
  obtain ⟨-, hgroup, hslice⟩ := ValuePattern.captureOf_eq_some hv
  obtain ⟨-, hgroup', hslice'⟩ := ValuePattern.captureOf_eq_some hv'
  obtain ⟨hstart, hstop⟩ := group_eq_some hgroup
  obtain ⟨hstart', hstop'⟩ := group_eq_some hgroup'
  obtain ⟨as, bs, rfl, ha, ha'⟩ := slot_twin h hstart hstart'
  obtain ⟨as', bs', hts, hb, hb'⟩ := slot_twin h hstop hstop'
  have hle : width (oldText as) ≤ width (oldText as') := by
    obtain ⟨_, _, -, hleft, hright⟩ := Text.slice?_eq_some_iff.1 hslice
    omega
  obtain ⟨ts, rfl⟩ := exists_between hts hle
  obtain rfl : bs = ts ++ bs' := List.append_cancel_left (hts.trans (List.append_assoc as ts bs'))
  refine ⟨as, ts, bs', rfl, ha, ha', ?_, ?_⟩
  · rw [ha, hb] at hslice
    simp only [oldText_append, slice_append, Option.some.injEq] at hslice
    rw [hslice, String.ofList_toList]
  · rw [ha', hb'] at hslice'
    simp only [newText_append, slice_append, Option.some.injEq] at hslice'
    rw [hslice', String.ofList_toList]

/-- The pattern gives the same at corresponding places and does not match from within a bland word. -/
structure Neutral (ts : List Tile) (p : ValuePattern) : Prop where
  agrees : Agrees ts false p.goal
  stuck : Stuck p.goal

/-- The place where a match ends, as a place between tiles. -/
theorem eq_of_between {l w x : List Char} {as bs as' bs' : List Tile} {text : List Tile → List Char}
    (happend : ∀ as bs, text (as ++ bs) = text as ++ text bs) (hsplit : as ++ bs = as' ++ bs')
    (hl : l = text as) (hx : text bs = w ++ x) (hthere : between (l ++ w) x = between (text as') (text bs')) :
    l ++ w = text as' ∧ x = text bs' := by
  have hrest : x = text bs' := congrArg Cursor.rest hthere
  have hwhole : l ++ w ++ text bs' = text as' ++ text bs' := by
    rw [← happend, ← hsplit, happend, hx, hl, hrest, List.append_assoc]
  exact ⟨List.append_cancel_right hwhole, hrest⟩

theorem Neutral.swept_twins (h : Neutral ts p) (hts : Parted [] ts) (n : Nat) {vs vs' : List ValueCapture}
    (hsplit : ts = as ++ bs) (hn : (oldText bs).length ≤ n) (hold : p.Swept (oldText as) (oldText bs) vs)
    (hnew : p.Swept (newText as) (newText bs) vs') : List.Forall₂ (CaptureTwin ts) vs vs' := by
  induction n using Nat.strongRecOn generalizing as bs vs vs' with
  | ind n ih =>
    subst hsplit
    have hmatch := h.agrees.at [] [] .nil
    simp only [ValuePattern.goal] at hmatch
    generalize hfound : p.pattern.program.matchAt (between (oldText as) (oldText bs)) = found at hmatch
    generalize hfound' : p.pattern.program.matchAt (between (newText as) (newText bs)) = found'
      at hmatch
    cases hmatch with
    | none =>
      cases bs with
      | nil =>
        obtain rfl := hold.of_end hfound
        obtain rfl := hnew.of_end hfound'
        exact .nil
      | cons t bs =>
        -- both scans pass the tile
        have hpass : p.Swept (oldText (as ++ [t])) (oldText bs) vs ∧
            p.Swept (newText (as ++ [t])) (newText bs) vs' := by
          simp only [oldText_append, newText_append, oldText_cons, newText_cons, oldText_nil,
            newText_nil, List.append_nil]
          cases t with
          | keep c => exact ⟨hold.of_none (r := oldText bs) hfound, hnew.of_none (r := newText bs) hfound'⟩
          | swap v w hvw =>
            obtain ⟨-, hedge, hedge'⟩ := hts.edges
            refine ⟨hold.over (v := v) fun x q hx hq => ?_, hnew.over (v := w) fun x q hx hq => ?_⟩
            · by_cases hxnil : x = []
              · subst hxnil hx
                rwa [List.append_nil]
              · exact h.stuck _ x q _ [] (hx ▸ hvw.bland.1) hxnil hq hedge
            · by_cases hxnil : x = []
              · subst hxnil hx
                rwa [List.append_nil]
              · exact h.stuck _ x q _ [] (hx ▸ hvw.bland.2) hxnil hq hedge'
        have hpos := List.length_pos_iff.2 t.old_ne_nil
        rw [oldText_cons, List.length_append] at hn
        exact ih (oldText bs).length (by omega) (by simp) (Nat.le_refl _) hpass.1 hpass.2
    | @some s s' hsuccess =>
      obtain ⟨marks, there⟩ := s
      obtain ⟨marks', there'⟩ := s'
      obtain ⟨hmarks, as', bs', hsplit, hthere, hthere'⟩ := hsuccess
      obtain ⟨w, x, v, vs, hx, rfl, hw, hv, hrest, rfl⟩ := hold.of_some hfound
      obtain ⟨w', x', v', vs', hx', rfl, -, hv', hrest', rfl⟩ := hnew.of_some hfound'
      obtain ⟨hl, rfl⟩ := eq_of_between (fun _ _ => oldText_append) hsplit rfl hx hthere
      obtain ⟨hl', rfl⟩ := eq_of_between (fun _ _ => newText_append) hsplit rfl hx' hthere'
      rw [hl] at hrest
      rw [hl'] at hrest'
      rw [← oldText_append] at hv
      rw [← newText_append] at hv'
      have hpos := List.length_pos_iff.2 hw
      rw [hx, List.length_append] at hn
      exact .cons (capture_twin hmarks hv hv')
        (ih (oldText bs').length (by omega) hsplit (Nat.le_refl _) hrest hrest')

/-- **A neutral pattern captures the two sides of the same tiles.** -/
theorem Neutral.findValues_twins (h : Neutral ts p) (hts : Parted [] ts) {pre post : List Expr}
    {value : Expr} (hframes : p.Frames pre value post) (hvalue : value.nullable = false)
    {text out : String} (htext : oldText ts = text.toList) (hout : newText ts = out.toList) :
    List.Forall₂ (CaptureTwin ts) (p.findValues text) (p.findValues out) := by
  have hold := hframes.findValues_swept hvalue text
  have hnew := hframes.findValues_swept hvalue out
  rw [← htext] at hold
  rw [← hout] at hnew
  have hsplit : ts = [] ++ ts := rfl
  exact h.swept_twins hts _ hsplit (Nat.le_refl _) hold hnew

end Scan

/-! ## The pieces of the value patterns -/

section Pieces

variable {ts : List Tile} {g : Goal} {inWord greedy : Bool} {x : Char}

theorem has_whiteSpace_of_isWord {c : Char} (hc : isWord c = true) : whiteSpace.has c = false := by
  refine Bool.eq_false_iff.2 fun hwhite => ?_
  rw [isWord_eq_false_of_isWhite hwhite] at hc
  cases hc

theorem agrees_without (hts : Parted [] ts) (hx : isWord x = false) (hstuck : Stuck g)
    (hg : Agrees ts false g) : Agrees ts inWord ((Expr.without x greedy).first g) := by
  refine agrees_star hts (.inr ⟨fun c hc => ?_, hstuck⟩) hg
  rw [CharSet.has_complement, Bool.not_eq_true', Bool.eq_false_iff, ne_eq, CharSet.has_ofChar]
  rintro rfl
  rw [hx] at hc
  cases hc

theorem agrees_blanks (hts : Parted [] ts) (hg : Agrees ts false g) :
    Agrees ts inWord (Expr.blanks.first g) :=
  agrees_star hts (.inl fun _ hc => has_whiteSpace_of_isWord hc) hg

theorem agrees_someBlanks (hts : Parted [] ts) (hg : Agrees ts false g) :
    Agrees ts inWord (Expr.someBlanks.first g) := by
  have hmore : Agrees ts false (Expr.blanks.first g) := agrees_blanks hts hg
  refine agrees_set hts hmore (fun h => nomatch h) (.inr fun c _ hbland => ?_)
  exact has_whiteSpace_of_isWord (hbland.isWord c List.mem_cons_self)

theorem stuck_blanks (hg : Stuck g) : Stuck (Expr.blanks.first g) := by
  intro l p q r ms hbland hp hq hr
  cases q with
  | nil => exact absurd rfl hq
  | cons c q =>
    have hc := has_whiteSpace_of_isWord (hbland.isWord c (by simp))
    have hnone := hg l p (c :: q) r ms hbland hp hq hr
    rw [List.cons_append] at hnone ⊢
    rw [← hnone]
    exact rounds_set_of_not hc

/-- The end of a statement does not belong to a word. -/
theorem has_stop_of_isWord {c : Char} (hc : isWord c = true) :
    (⟨[(0x3B, 0x3B), (0x7D, 0x7D)]⟩ : CharSet).has c = false := by
  refine Bool.eq_false_iff.2 fun hstop => ?_
  simp only [CharSet.has, CharSet.contains, List.any_cons, List.any_nil, Bool.or_false,
    Bool.or_eq_true, Bool.and_eq_true, decide_eq_true_eq] at hstop
  have hcode : c.toNat = 0x3B ∨ c.toNat = 0x7D := by omega
  rw [isWord, CharSet.has] at hc
  rcases hcode with h | h
  · rw [h] at hc
    exact absurd hc (by decide +kernel)
  · rw [h] at hc
    exact absurd hc (by decide +kernel)

theorem agrees_stop (hts : Parted [] ts) (hg : Agrees ts false g) :
    Agrees ts inWord (Expr.stop.first g) :=
  agrees_set hts hg (fun h => nomatch h)
    (.inr fun c _ hbland => has_stop_of_isWord (hbland.isWord c List.mem_cons_self))

theorem stuck_stop : Stuck (Expr.stop.first g) :=
  stuck_set fun _ hc => has_stop_of_isWord hc

/-! ## The values -/

/-- No literal begins with a digit. -/
theorem digit_of_literal {v w : List Char} (hw : w ∈ literals)
    (h : SameText v w) : ¬ ∀ c ∈ v, digit.has c = true := by
  have hall : (['f', 't', 'n'].all fun d => (orbit d.toNat).all fun n => !digit.contains n) = true := by
    decide +kernel
  obtain ⟨c, u, rfl, d, hd, hfold⟩ := exists_head_of_literal hw h
  intro hdigits
  have hnot := List.all_eq_true.1 (List.all_eq_true.1 hall d hd) c.toNat (mem_orbit.2 hfold)
  have hc : digit.contains c.toNat = true := hdigits c List.mem_cons_self
  rw [hc] at hnot
  cases hnot

theorem has_digit_of_isDigit {c : Char} (h : isDigit c = true) : digit.has c = true := by
  refine List.any_eq_true.2 ⟨(0x30, 0x39), List.mem_cons_self, ?_⟩
  simp only [isDigit, Bool.and_eq_true, decide_eq_true_eq] at h ⊢
  exact ⟨Char.le_def.1 h.1, Char.le_def.1 h.2⟩

/-- Three to six digits take the place of such only. -/
theorem digits_swap {v w : List Char} (h : Substituted v w) :
    ((3 ≤ v.length ∧ v.length ≤ 6) ∧ ∀ c ∈ v, digit.has c = true) ↔
      (3 ≤ w.length ∧ w.length ≤ 6) ∧ ∀ c ∈ w, digit.has c = true := by
  have hliteral : ∀ {u u' : List Char},
      u ∈ literals → SameText v u →
      u' ∈ literals → SameText w u' →
      (((3 ≤ v.length ∧ v.length ≤ 6) ∧ ∀ c ∈ v, digit.has c = true) ↔
        (3 ≤ w.length ∧ w.length ≤ 6) ∧ ∀ c ∈ w, digit.has c = true) := by
    intro u u' hu hv hu' hw
    exact ⟨fun hd => absurd hd.2 (digit_of_literal hu hv), fun hd => absurd hd.2 (digit_of_literal hu' hw)⟩
  cases h with
  | limit hdigits hlength =>
    refine ⟨fun _ => ⟨by decide, ?_⟩, fun _ => ⟨hlength, fun c hc => has_digit_of_isDigit (hdigits c hc)⟩⟩
    decide +kernel
  | level h =>
    refine ⟨fun hv => ?_, fun hw => absurd hw.1.1 (by decide)⟩
    rcases h with rfl | rfl <;> exact absurd hv.1.1 (by decide)
  | unlock h => exact hliteral (by decide) h (by decide) rfl
  | lock h => exact hliteral (by decide) h (by decide) rfl
  | lift h => exact hliteral (by decide) h (by decide) rfl

theorem spells_level {l w r : List Char} : Expr.level.Spells l w r ↔
    w.length = 1 ∧ ∀ c ∈ w, (⟨[(0x30, 0x32)]⟩ : CharSet).has c = true := by
  rw [Expr.level, Expr.spells_set]
  constructor
  · rintro ⟨c, rfl, hc⟩
    simpa using hc
  · rintro ⟨hlength, hw⟩
    obtain ⟨c, rfl⟩ := List.length_eq_one_iff.1 hlength
    exact ⟨c, rfl, hw c List.mem_cons_self⟩

/-- A level takes the place of a level only. -/
theorem level_swap {v w : List Char} (h : Substituted v w) :
    (v.length = 1 ∧ ∀ c ∈ v, (⟨[(0x30, 0x32)]⟩ : CharSet).has c = true) ↔
      w.length = 1 ∧ ∀ c ∈ w, (⟨[(0x30, 0x32)]⟩ : CharSet).has c = true := by
  cases h with
  | limit _ hlength =>
    exact ⟨fun hv => absurd hlength.1 (by omega), fun hw => absurd hw.1 (by decide)⟩
  | level h =>
    refine ⟨fun _ => by decide, fun _ => ?_⟩
    rcases h with rfl | rfl <;> decide
  | unlock h => exact ⟨fun hv => absurd (h.length_eq.symm.trans hv.1) (by decide), fun hw => absurd hw.1 (by decide)⟩
  | lock h => exact ⟨fun hv => absurd (h.length_eq.symm.trans hv.1) (by decide), fun hw => absurd hw.1 (by decide)⟩
  | lift h => exact ⟨fun hv => absurd (h.length_eq.symm.trans hv.1) (by decide), fun hw => absurd hw.1 (by decide)⟩

theorem agrees_digits (hts : Parted [] ts) (hstuck : Stuck g) (hg : Agrees ts false g) :
    Agrees ts false (Expr.digits.first g) := by
  refine agrees_word (fun _ _ _ => Expr.spells_digits) (fun w hw c hc => isWord_digit (hw.2 c hc))
    rfl rfl rfl (fun v w h => digits_swap h) hts hstuck hg fun as c bs hsplit => ?_
  -- behind the first digit only digits of the same word are looked at
  have hdigit : ∀ {g : Goal}, Agrees ts true g → Agrees ts true ((Expr.set digit).first g) :=
    fun h => agrees_set hts h (fun _ _ hc => isWord_digit hc) (.inl rfl)
  have hlast : Agrees ts true ((Expr.atMost true (.set digit) 2).first g) :=
    agrees_opt (hdigit (agrees_opt (hdigit (agrees_opt (hdigit hg.mono) hg.mono)) hg.mono)) hg.mono
  have hrest := hdigit (hdigit hlast)
  refine agreesAt_set_keep fun hc => hrest _ _ (by rw [hsplit]; simp) fun _ => ?_
  rw [oldText_append, oldText_cons, Tile.old, oldText_nil, List.append_nil, List.getLast?_concat]
  exact isWord_digit hc

theorem isWord_level {c : Char} (hc : (⟨[(0x30, 0x32)]⟩ : CharSet).has c = true) : isWord c = true := by
  refine isWord_digit (List.any_eq_true.2 ⟨(0x30, 0x39), List.mem_cons_self, ?_⟩)
  simp only [CharSet.has, CharSet.contains, List.any_cons, List.any_nil, Bool.or_false,
    Bool.and_eq_true, decide_eq_true_eq] at hc ⊢
  omega

theorem agrees_level (hts : Parted [] ts) (hstuck : Stuck g) (hg : Agrees ts false g) :
    Agrees ts false (Expr.level.first g) := by
  refine agrees_word (fun _ _ _ => spells_level) (fun w hw c hc => isWord_level (hw.2 c hc))
    rfl rfl rfl (fun v w h => level_swap h) hts hstuck hg fun as c bs hsplit => ?_
  refine agreesAt_set_keep fun _ => hg _ _ (by rw [hsplit]; simp) fun h => nomatch h

/-! ## The patterns -/

theorem neutral_of_frames {p : ValuePattern} {pre post : List Expr} {value : Expr}
    (hframes : p.Frames pre value post)
    (hagrees : Agrees ts false
      ((Expr.chain (pre ++ .group 1 value :: post)).first (closing 0 Goal.success)))
    (hstuck : Stuck ((Expr.chain (pre ++ .group 1 value :: post)).first (closing 0 Goal.success))) :
    Neutral ts p := by
  have hgoal : ∀ here ms, p.goal here ms =
      (Expr.group 0 (.chain (pre ++ .group 1 value :: post))).first Goal.success here [] := by
    intro here ms
    rw [ValuePattern.goal, hframes.program_eq, matchAt_eq_first hframes.productive]
  constructor
  · rintro as bs rfl hword ms ms' -
    rw [hgoal, hgoal]
    exact agrees_group hagrees as bs rfl hword [] [] .nil
  · intro l p q r ms hbland hp hq hr
    rw [hgoal]
    exact stuck_group hstuck l p q r [] hbland hp hq hr

theorem first_chain_nil : (Expr.chain []).first g = g := rfl

/-- The end of a pattern. -/
theorem agrees_end : Agrees ts false (closing 0 Goal.success) := agrees_success.closing

theorem isWord_excluded : ∀ x ∈ [')', '\x7d'], isWord x = false := by decide +kernel

theorem neutral_return {p : ValuePattern} (hts : Parted [] ts)
    (hframes : p.Frames returnLead Expr.digits returnTrail) : Neutral ts p := by
  refine neutral_of_frames hframes ?_ ?_
  · simp only [returnLead, returnTrail, Expr.first_chain_append, Expr.first_chain_cons,
      first_chain_nil, List.append_assoc, List.cons_append, List.nil_append]
    have htrail : Agrees ts false (Expr.blanks.first (Expr.stop.first (closing 0 Goal.success))) :=
      agrees_blanks hts (agrees_stop hts agrees_end)
    have hvalue := agrees_group (i := 1) (agrees_digits hts (stuck_blanks stuck_stop).closing htrail.closing)
    exact agrees_edge (agrees_text hts (by decide +kernel) (agrees_someBlanks hts hvalue))
  · simp only [returnLead, returnTrail, Expr.first_chain_append, Expr.first_chain_cons,
      first_chain_nil, List.append_assoc, List.cons_append, List.nil_append]
    exact stuck_edge

/-- The literal texts of the value patterns. -/
def valueTexts : List (List Char) :=
  ["async getEffectiveTokenLimit".toList, "getModeThinkingLevel".toList, "if".toList, "return".toList,
    ['('], [')'], ['\x7b'], ['\x7d']]

/-- No word of them begins as a bland word does, and none of them stands across the end of one. -/
theorem valueTexts_foreign : ∀ cs ∈ valueTexts, clears false cs = true ∧ foreign cs = true := by
  decide +kernel

variable {cs : List Char}

theorem agrees_valueText (hts : Parted [] ts) (hcs : cs ∈ valueTexts) (hg : Agrees ts false g) :
    Agrees ts false ((Expr.chain (Expr.text false cs)).first g) :=
  agrees_text hts (valueTexts_foreign cs hcs).1 hg

/-- A stretch and the text behind it. -/
theorem agrees_until (hts : Parted [] ts) (hx : x ∈ [')', '\x7d']) (hcs : cs ∈ valueTexts)
    (hg : Agrees ts false g) :
    Agrees ts false ((Expr.without x greedy).first ((Expr.chain (Expr.text false cs)).first g)) :=
  agrees_without hts (isWord_excluded x hx) (stuck_text (valueTexts_foreign cs hcs).2)
    (agrees_valueText hts hcs hg)

/-- A list in parentheses, and the brace behind it. -/
theorem agrees_parentheses (hts : Parted [] ts) (hg : Agrees ts false g) :
    Agrees ts false ((Expr.chain (Expr.text false ['('])).first ((Expr.without ')' true).first
      ((Expr.chain (Expr.text false [')'])).first (Expr.blanks.first
        ((Expr.chain (Expr.text false ['\x7b'])).first g))))) := by
  have hbrace : Agrees ts false (Expr.blanks.first
      ((Expr.chain (Expr.text false ['\x7b'])).first g)) :=
    agrees_blanks hts (agrees_valueText hts (by decide) hg)
  exact agrees_valueText hts (by decide) (agrees_until hts (by decide) (by decide) hbrace)

/-- A stretch up to `return`, and a value between word edges somewhere behind it. -/
theorem agrees_returned {e : Expr}
    (he : ∀ {g : Goal}, Stuck g → Agrees ts false g → Agrees ts false (e.first g))
    (hts : Parted [] ts) (hg : Agrees ts false g) :
    Agrees ts false ((Expr.without '\x7d' false).first
      ((Expr.chain (Expr.text false "return".toList)).first
        ((Expr.without '\x7d' false).first (Expr.edge.first ((Expr.group 1 e).first
          (Expr.edge.first ((Expr.without '\x7d' false).first
            ((Expr.chain (Expr.text false ['\x7d'])).first g)))))))) := by
  have hbehind : Agrees ts false (Expr.edge.first ((Expr.without '\x7d' false).first
      ((Expr.chain (Expr.text false ['\x7d'])).first g))) :=
    agrees_edge (agrees_until hts (by decide) (by decide) hg)
  have hvalue := agrees_group (i := 1) (he stuck_edge.closing hbehind.closing)
  exact agrees_until hts (by decide) (by decide)
    (agrees_without hts (isWord_excluded _ (by decide)) stuck_edge (agrees_edge hvalue))

theorem neutral_limit {p : ValuePattern} (hts : Parted [] ts)
    (hframes : p.Frames limitLead Expr.digits limitTrail) : Neutral ts p := by
  refine neutral_of_frames hframes ?_ ?_
  · simp only [limitLead, limitTrail, Expr.first_chain_append, Expr.first_chain_cons,
      List.append_assoc, List.cons_append, List.nil_append]
    have hclose : Agrees ts false ((Expr.without '\x7d' false).first
        ((Expr.chain (Expr.text false ['\x7d'])).first (closing 0 Goal.success))) :=
      agrees_until hts (by decide) (by decide) agrees_end
    have hreturn := agrees_returned (fun hstuck hg => agrees_digits hts hstuck hg) hts hclose
    exact agrees_valueText hts (by decide) (agrees_parentheses hts (agrees_until hts (by decide)
      (by decide) (agrees_blanks hts (agrees_parentheses hts hreturn))))
  · simp only [limitLead, Expr.first_chain_append, List.append_assoc]
    exact stuck_text (valueTexts_foreign _ (by decide)).2

theorem neutral_level {p : ValuePattern} (hts : Parted [] ts)
    (hframes : p.Frames levelLead Expr.level levelTrail) : Neutral ts p := by
  refine neutral_of_frames hframes ?_ ?_
  · simp only [levelLead, levelTrail, Expr.first_chain_append, Expr.first_chain_cons,
      List.append_assoc, List.cons_append, List.nil_append]
    have hreturn := agrees_returned (fun hstuck hg => agrees_level hts hstuck hg) hts agrees_end
    exact agrees_valueText hts (by decide) (agrees_parentheses hts hreturn)
  · simp only [levelLead, Expr.first_chain_append, List.append_assoc]
    exact stuck_text (valueTexts_foreign _ (by decide)).2

end Pieces
end Profile
end LiteralPatch
