import LiteralPatch.Proofs.Profile.Tiles

/-!
# Two batches of changes, one after the other

When a batch of changes has been made and a second one is made in the new text, both can be told as one batch
of the old text, provided that the second one is of places that the first one has kept (`ChangeTwin`).  The
merged batch holds the changes of both, and its walk along the old text leads to where the two walks lead one
after the other (`Walk.merge`).

What a batch leads to does not depend on the order in which its changes are listed (`Walk.eq_of_perm`).  So
two batches that can be merged in both orders lead to one text.
-/

namespace LiteralPatch

open Text Unicode

namespace Walk

variable {l r r' out out' a : List Char} {chs chs' : List Change}

/-- A walk that begins further back copies what stands in between. -/
theorem shift (h : Walk (l ++ a) r chs r') : Walk l (a ++ r) chs (a ++ r') := by
  generalize hstart : l ++ a = start at h
  cases h with
  | none => exact .none
  | @next _ a' b c c' ch chs hspan hold hrest =>
    subst hstart
    have hnext : Walk l (a ++ a' ++ b ++ c) (ch :: chs) (a ++ a' ++ ch.newValue.toList ++ c') :=
      .next (by simpa using hspan) hold (by simpa using hrest)
    simpa using hnext

/-- **What a batch leads to does not depend on the order of its changes,** if none is of an empty text. -/
theorem eq_of_perm {text : List Char} (h : Walk [] text chs out) (h' : Walk [] text chs' out')
    (hperm : (chs.map Rule.edit).Perm (chs'.map Rule.edit))
    (hpos : ∀ e ∈ chs.map Rule.edit, e.span.start < e.span.stop) : out = out' := by
  have hsorted : ∀ {chs out}, Walk [] text chs out →
      (∀ e ∈ chs.map Rule.edit, e.span.start < e.span.stop) →
      (chs.map Rule.edit).Pairwise fun a b => a.span.start < b.span.start := by
    intro chs out hwalk hchs
    refine List.pairwise_map.2 (hwalk.pairwise.imp_of_mem fun ha _ hab => ?_)
    exact Nat.lt_of_lt_of_le (hchs _ (List.mem_map_of_mem ha)) hab
  have hedits : chs.map Rule.edit = chs'.map Rule.edit := by
    refine hperm.eq_of_pairwise ?_ (hsorted h hpos) (hsorted h' fun e he => hpos e (hperm.mem_iff.2 he))
    exact fun a b _ _ hab hba => absurd hab (Nat.lt_asymm hba)
  have hout := h.spliceAll
  rw [hedits, h'.spliceAll] at hout
  exact (Except.ok.inj hout).symm

end Walk

namespace Profile

variable {as bs ts : List Tile} {l r r' : List Char} {chs chs' : List Change}

/-- A walk makes the changes of the tiles, and goes on behind them. -/
theorem walk_changesOf (h : Walk (l ++ oldText as) r chs r') :
    Walk l (oldText as ++ r) (changesOf l as ++ chs) (newText as ++ r') := by
  induction as generalizing l with
  | nil => simpa [changesOf] using h
  | cons t as ih =>
    cases t with
    | keep c =>
      have hrest : Walk (l ++ [c]) (oldText as ++ r) (changesOf (l ++ [c]) as ++ chs) (newText as ++ r') :=
        ih (by simpa [Tile.old] using h)
      exact hrest.shift
    | swap v w hvw =>
      have hrest : Walk (l ++ v) (oldText as ++ r) (changesOf (l ++ v) as ++ chs) (newText as ++ r') :=
        ih (by simpa [Tile.old] using h)
      have hnext : Walk l ([] ++ v ++ (oldText as ++ r))
          (⟨String.ofList v, String.ofList w, ⟨width l, width (l ++ v)⟩, .primary⟩ ::
            (changesOf (l ++ v) as ++ chs)) ([] ++ (String.ofList w).toList ++ (newText as ++ r')) :=
        .next (by simp) rfl (by simpa using hrest)
      simpa [Tile.old, Tile.new, changesOf] using hnext

/-- Where one place is not before another in the new text, there are tiles in between. -/
theorem exists_between_new {as' bs' : List Tile} (h : as ++ bs = as' ++ bs')
    (hle : width (newText as) ≤ width (newText as')) : ∃ ms, as' = as ++ ms :=
  exists_between_of Tile.new_ne_nil h hle

/-- The changes put the same text in place of the same characters of both texts. -/
def ChangeTwin (ts : List Tile) (ch ch' : Change) : Prop :=
  ∃ as cs bs, ts = as ++ (cs.map .keep ++ bs) ∧
    ch.span = ⟨width (oldText as), width (oldText as ++ cs)⟩ ∧ ch'.span.start = width (newText as) ∧
    ch.oldValue = String.ofList cs ∧ ch'.oldValue = String.ofList cs ∧ ch.newValue = ch'.newValue

end Profile

open Profile

/-- **Changes of the new text that are of kept places can be made together with those that led to it.** -/
theorem Walk.merge {as bs : List Tile} {chs chs' : List Change} {out : List Char}
    (htwins : List.Forall₂ (ChangeTwin (as ++ bs)) chs chs') (h : Walk (newText as) (newText bs) chs' out) :
    ∃ both, both.Perm (changesOf (oldText as) bs ++ chs) ∧ Walk (oldText as) (oldText bs) both out := by
  generalize hts : as ++ bs = ts at htwins
  induction htwins generalizing as bs out with
  | nil =>
    generalize hr : newText bs = r at h
    cases h with
    | none =>
      have hwalk : Walk (oldText as) (oldText bs ++ []) (changesOf (oldText as) bs ++ []) (newText bs ++ []) :=
        walk_changesOf .none
      simp only [List.append_nil, hr] at hwalk
      exact ⟨changesOf (oldText as) bs, by simp, hwalk⟩
  | @cons ch ch' chs chs' htwin _ ih =>
    obtain ⟨as', cs, bs', hsplit, hspan, hstart, hold, hold', hnew⟩ := htwin
    generalize hr : newText bs = r at h
    cases h with
    | @next _ a b c c' _ _ hspan' hvalue hrest =>
      obtain rfl : b = cs := String.ofList_injective (hvalue.symm.trans hold')
      rw [hspan'] at hstart
      -- the tiles in front of the change are those of the text that the walk copies
      have hle : width (newText as) ≤ width (newText as') := by
        rw [← hstart, width_append]
        exact Nat.le_add_right _ _
      obtain ⟨xs, rfl⟩ := exists_between_new (hts.trans hsplit) hle
      obtain rfl : bs = xs ++ (b.map .keep ++ bs') :=
        List.append_cancel_left ((hts.trans hsplit).trans (List.append_assoc _ _ _))
      simp only [newText_append, newText_keeps, List.append_assoc] at hr hstart
      obtain ⟨hcopied, hbehind⟩ := append_inj_of_width hr (by simp only [width_append] at hstart; omega)
      obtain rfl := hcopied
      obtain rfl := List.append_cancel_left hbehind
      have hbs : as ++ xs ++ b.map .keep ++ bs' = ts := by rw [hsplit]; simp
      obtain ⟨both, hperm, hwalk⟩ := ih (by simpa using hrest) hbs
      simp only [oldText_append, oldText_keeps] at hperm hwalk hspan
      refine ⟨changesOf (oldText as) xs ++ ch :: both, ?_, ?_⟩
      · rw [changesOf_append, changesOf_append, changesOf_keeps, oldText_keeps, List.nil_append,
          List.append_assoc]
        exact ((hperm.cons ch).trans List.perm_middle.symm).append_left _
      · have hnext : Walk (oldText as ++ oldText xs) ([] ++ b ++ oldText bs') (ch :: both)
            ([] ++ ch.newValue.toList ++ c') :=
          .next (by simpa using hspan) hold (by simpa using hwalk)
        rw [hnew] at hnext
        simpa using walk_changesOf hnext

end LiteralPatch
