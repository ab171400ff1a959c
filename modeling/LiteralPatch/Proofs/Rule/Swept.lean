import LiteralPatch.Proofs.Rule.Captured

/-!
# Nothing is overlooked

A scan tries every position that no match covers.  `Swept p l r vs` says that the captures `vs` come from
going over the text `r` behind `l` in this way: a character is passed only where the pattern does not
match, and a match that is found is passed as a whole.  For a pattern whose matches consume something, this
is what `findValues` does (`Frames.findValues_swept`).

So a pattern finds nothing exactly if no value stands in the surroundings that it describes
(`Frames.findValues_eq_nil_iff`).  It may well find fewer values than there are: a match passes whatever it
covers.
-/

namespace LiteralPatch

open Pattern Cursor

namespace ValuePattern

/-- The captures of a scan of the text `r` behind `l` that tries every position outside matches. -/
inductive Swept (p : ValuePattern) : List Char → List Char → List ValueCapture → Prop where
  | done {l : List Char} (hnone : p.pattern.program.matchAt (between l []) = none) : Swept p l [] []
  | pass {l r : List Char} {c : Char} {vs : List ValueCapture}
    (hnone : p.pattern.program.matchAt (between l (c :: r)) = none)
    (hrest : Swept p (l ++ [c]) r vs) : Swept p l (c :: r) vs
  | found {l w r : List Char} {marks : List Mark} {v : ValueCapture} {vs : List ValueCapture}
    (h : p.pattern.program.matchAt (between l (w ++ r)) = some (marks, between (l ++ w) r))
    (hw : w ≠ []) (hv : p.captureOf (l ++ (w ++ r)) marks = some v)
    (hrest : Swept p (l ++ w) r vs) : Swept p l (w ++ r) (v :: vs)

variable {p : ValuePattern} {pre post : List Expr} {value : Expr} {l r : List Char}
  {vs : List ValueCapture}

/-- What the marks of a capture say. -/
theorem captureOf_eq_some {text : List Char} {marks : List Mark} {v : ValueCapture}
    (h : p.captureOf text marks = some v) :
    Program.group? marks 0 = some (v.whole.start, v.whole.stop) ∧
      Program.group? marks p.group = some (v.span.start, v.span.stop) ∧
      Text.slice? text v.span.start v.span.stop = some v.value.toList := by
  simp only [captureOf, Option.bind_eq_bind, Option.bind_eq_some_iff, Option.pure_def,
    Option.some.injEq] at h
  obtain ⟨whole, hwhole, span, hspan, cs, hcs, rfl⟩ := h
  exact ⟨hwhole, hspan, by simpa using hcs⟩

/-- The positions in front of the leftmost match are passed. -/
theorem Swept.of_findFrom {found : Program.Success}
    (h : p.pattern.program.findFrom r (between l r) = some found) :
    ∃ g x, r = g ++ x ∧ p.pattern.program.matchAt (between (l ++ g) x) = some found ∧
      ∀ vs, Swept p (l ++ g) x vs → Swept p l r vs := by
  induction r generalizing l with
  | nil =>
    rw [Program.findFrom] at h
    split at h
    · next hmatch =>
      rw [h] at hmatch
      exact ⟨[], [], rfl, by rwa [List.append_nil], fun vs hvs => by rwa [List.append_nil] at hvs⟩
    · cases h
  | cons c r ih =>
    rw [Program.findFrom] at h
    split at h
    · next hmatch =>
      rw [h] at hmatch
      exact ⟨[], c :: r, rfl, by rwa [List.append_nil], fun vs hvs => by rwa [List.append_nil] at hvs⟩
    · next hnone =>
      rw [past_between] at h
      obtain ⟨g, x, rfl, hmatch, hpass⟩ := ih h
      rw [List.append_assoc, List.singleton_append] at hmatch hpass
      exact ⟨c :: g, x, rfl, hmatch, fun vs hvs => .pass hnone (hpass vs hvs)⟩

/-- Without a match, every position is passed. -/
theorem Swept.of_findFrom_none (h : p.pattern.program.findFrom r (between l r) = none) :
    Swept p l r [] := by
  induction r generalizing l with
  | nil =>
    rw [Program.findFrom] at h
    split at h
    · cases h
    · next hnone => exact .done hnone
  | cons c r ih =>
    rw [Program.findFrom] at h
    split at h
    · cases h
    · next hnone =>
      rw [past_between] at h
      exact .pass hnone (ih h)

theorem Swept.matchAt_eq_none (h : Swept p l r []) (g x : List Char) (hr : r = g ++ x) :
    p.pattern.program.matchAt (between (l ++ g) x) = none := by
  generalize hvs : ([] : List ValueCapture) = vs at h
  induction h generalizing g with
  | done hnone =>
    obtain ⟨rfl, rfl⟩ := List.append_eq_nil_iff.1 hr.symm
    rwa [List.append_nil]
  | pass hnone _ ih =>
    cases g with
    | nil =>
      subst hr
      rwa [List.append_nil]
    | cons d g =>
      obtain ⟨rfl, rfl⟩ := List.cons.inj hr
      rw [← List.singleton_append, ← List.append_assoc]
      exact ih g rfl hvs
  | found => cases hvs

/-- A match is not empty if the value is not. -/
theorem Frames.captureOf_advances (h : p.Frames pre value post) (hvalue : value.nullable = false)
    {marks : List Mark} {there : Cursor}
    (hmatch : p.pattern.program.matchAt (between l r) = some (marks, there)) :
    ∃ w x v, r = w ++ x ∧ there = between (l ++ w) x ∧ w ≠ [] ∧ p.captureOf (l ++ r) marks = some v ∧
      Program.group? marks 0 ≠ some (there.offset, there.offset) := by
  obtain ⟨a, b, c, x, rfl, rfl, ⟨_, _, _, _, _, _, _, hb, _⟩, hcapture⟩ := h.captureOf hmatch
  have hne := hb.ne_nil hvalue
  refine ⟨a ++ b ++ c, x, _, rfl, by simp, by simp [hne], hcapture, ?_⟩
  rw [(captureOf_eq_some hcapture).1]
  intro heq
  have hwidth : Text.width l = Text.width (l ++ a ++ b ++ c) := congrArg Prod.fst (Option.some.inj heq)
  have hpos : 0 < Text.width b := by
    cases b with
    | nil => exact absurd rfl hne
    | cons d b => exact Nat.lt_of_lt_of_le d.utf8Size_pos (Nat.le_add_right _ _)
  simp only [Text.width_append] at hwidth
  omega

theorem Frames.findAllFrom_swept (h : p.Frames pre value post) (hvalue : value.nullable = false)
    {text : List Char} (fuel : Nat) (lastEnd : Option Nat) (htext : l ++ r = text)
    (hfuel : r.length < fuel) : Swept p l r
      ((p.pattern.program.findAllFrom fuel (between l r) lastEnd).filterMap (p.captureOf text)) := by
  induction fuel generalizing l r lastEnd with
  | zero => exact absurd hfuel (Nat.not_lt_zero _)
  | succ fuel ih =>
    rw [Program.findAllFrom]
    split
    · next hnone => exact .of_findFrom_none hnone
    · next marks there hfound =>
      obtain ⟨g, x, rfl, hmatch, hpass⟩ := Swept.of_findFrom hfound
      obtain ⟨w, y, v, rfl, rfl, hw, hv, hgroup⟩ := h.captureOf_advances hvalue hmatch
      have hwhole : l ++ g ++ (w ++ y) = text := by simpa using htext
      have hpos := List.length_pos_iff.2 hw
      simp only [List.length_append] at hfuel
      rw [if_neg fun h => hgroup h.1]
      refine hpass _ ?_
      rw [List.filterMap_cons_some (by rwa [hwhole] at hv)]
      exact .found hmatch hw hv (ih _ (by simpa using hwhole) (by omega))

/-- **A scan tries every position that no match covers.** -/
theorem Frames.findValues_swept (h : p.Frames pre value post) (hvalue : value.nullable = false)
    (text : String) : Swept p [] text.toList (p.findValues text) :=
  h.findAllFrom_swept hvalue _ none rfl (by omega)

/-- A pattern matches where one of its values begins to be framed. -/
theorem Frames.isSome_matchAt (h : p.Frames pre value post) {u b v : List Char}
    (hu : (Expr.chain pre).Spells l u (b ++ v ++ r)) (hb : value.Spells (l ++ u) b (v ++ r))
    (hv : (Expr.chain post).Spells (l ++ u ++ b) v r) :
    (p.pattern.program.matchAt (between l (u ++ b ++ v ++ r))).isSome = true := by
  have hspells : (Expr.group 0 (.chain (pre ++ .group 1 value :: post))).Spells l (u ++ b ++ v) r := by
    refine .group (Expr.spells_chain_append.2 ⟨u, b ++ v, by simp, hu, ?_⟩)
    exact Expr.spells_chain_cons.2 ⟨b, v, rfl, .group hb, hv⟩
  rw [h.program_eq, matchAt_eq_first h.productive]
  exact hspells.isSome_first h.productive fun _ _ => rfl

/-- **A pattern finds nothing exactly if nothing stands in the surroundings that it describes.** -/
theorem Frames.findValues_eq_nil_iff (h : p.Frames pre value post) (hvalue : value.nullable = false)
    (text : String) : p.findValues text = [] ↔
      ∀ a b c, text.toList = a ++ b ++ c → ¬ Framed pre value post a b c := by
  constructor
  · rintro hnil a b c htext ⟨l, u, v, r, rfl, rfl, hu, hb, hv⟩
    have hswept := h.findValues_swept hvalue text
    rw [hnil] at hswept
    have hnone := hswept.matchAt_eq_none l (u ++ b ++ v ++ r) (by simpa using htext)
    have hsome := h.isSome_matchAt hu hb hv
    rw [List.nil_append] at hnone
    rw [hnone] at hsome
    cases hsome
  · intro hnone
    have hplaced := h.findValues_placed text
    generalize p.findValues text = vs at hplaced
    generalize hcs : text.toList = cs at hplaced
    cases hplaced with
    | none => rfl
    | @next _ a b c _ _ hframed =>
      rw [List.nil_append] at hframed
      exact absurd hframed (hnone a b c hcs)

end ValuePattern
end LiteralPatch
