import LiteralPatch.Proofs.Edit.Splicing

/-!
# Which batches are refused for an overlap

Edits are sorted by their starts before neighbours are compared, so one would expect that the listing
order does not matter.  It does where two edits have one start.  Sorting keeps the listing order of such
edits, and the one that is listed first is taken for the later one in the text; if it is an insertion and the
other one replaces something, the other one ends behind it, and the batch is refused although the spans only
touch.  Listed the other way round, the same two edits are accepted.

`Clash a b` says that the check refuses `a` listed before `b`.  A batch of valid edits is refused exactly if
two of its edits clash (`applyAll_overlap_iff`).  So overlapping spans are always found, in any order, and
without insertions nothing else is (`applyAll_overlap_iff_of_replacements`).

The sort is by pairs of an edit and its place in the list (`exists_order`).  A statement about two such pairs
that does not mind their order goes over from the sorted list to the given one, and so all that is left to
compare are two pairs.
-/

namespace LiteralPatch
namespace Edit

variable {a b : Edit} {es : List Edit}

/-- The edit puts something in and takes nothing out. -/
def IsInsertion (e : Edit) : Prop := e.span.start = e.span.stop

/-- With `a` listed before `b`, the check for overlaps refuses the two: their spans overlap, or `b` replaces
something just where `a` inserts. -/
def Clash (a b : Edit) : Prop :=
  a.span.Overlap b.span ∨ a.span.start = b.span.start ∧ a.IsInsertion ∧ ¬ b.IsInsertion

/-- Two edits that are not insertions clash only if they overlap. -/
theorem clash_iff_overlap (ha : ¬ a.IsInsertion) : Clash a b ↔ a.span.Overlap b.span :=
  or_iff_left fun h => ha h.2.1

/-! ## Two edits with their places -/

/-- Two edits with their places in the list do not clash, whichever of them comes first in it. -/
def Apart (x y : Edit × Nat) : Prop :=
  (x.2 < y.2 → ¬ Clash x.1 y.1) ∧ (y.2 < x.2 → ¬ Clash y.1 x.1)

theorem Apart.symm {x y : Edit × Nat} (h : Apart x y) : Apart y x := And.comm.1 h

/-- **In the order of the text, the first of two edits ends before the second begins exactly if they do not
clash.** -/
theorem Precedes.stop_le_iff {x y : Edit × Nat} (h : Precedes x y) (hplace : x.2 ≠ y.2)
    (hx : x.1.span.start ≤ x.1.span.stop) (hy : y.1.span.start ≤ y.1.span.stop) :
    x.1.span.stop ≤ y.1.span.start ↔ Apart x y := by
  unfold Apart Clash Span.Overlap IsInsertion
  rcases h with hstart | ⟨hstart, hlisted⟩
  · -- different starts: only an overlap can be found, whatever the places are
    rcases Nat.lt_or_gt_of_ne hplace with hlt | hlt
    · omega
    · omega
  · -- one start: the second edit is listed first
    omega

/-- A statement about the members of a list with their places, earlier ones first. -/
theorem pairwise_zipIdx_apart : es.zipIdx.Pairwise Apart ↔ es.Pairwise fun a b => ¬ Clash a b := by
  have hplaces : es.zipIdx.Pairwise fun x y => x.2 < y.2 := by
    rw [← List.pairwise_map (f := Prod.snd) (R := (· < ·)), List.zipIdx_map_snd]
    exact List.pairwise_lt_range'
  have hfst : (es.Pairwise fun a b => ¬ Clash a b) ↔
      es.zipIdx.Pairwise fun x y => ¬ Clash x.1 y.1 := by
    rw [← List.pairwise_map (f := Prod.fst) (R := fun a b => ¬ Clash a b), List.zipIdx_map_fst]
  rw [hfst]
  constructor
  · exact fun h => (h.and hplaces).imp fun hxy => hxy.1.1 hxy.2
  · exact fun h => (h.and hplaces).imp fun hxy =>
      ⟨fun _ => hxy.1, fun hlt => absurd hlt (Nat.lt_asymm hxy.2)⟩

/-! ## Batches -/

/-- **Comparing neighbours finds every clash,** and nothing else. -/
theorem overlap?_descending_eq_none_iff (hle : ∀ e ∈ es, e.span.start ≤ e.span.stop) :
    overlap? (descending es) = none ↔ es.Pairwise fun a b => ¬ Clash a b := by
  obtain ⟨order, hperm, hprecedes, horder⟩ := exists_order es
  have hplaces : order.Pairwise fun x y => x.2 ≠ y.2 := by
    have hnodup : (order.map Prod.snd).Nodup := by
      rw [(hperm.map Prod.snd).nodup_iff, List.zipIdx_map_snd]
      exact List.nodup_range'
    exact List.pairwise_map.1 hnodup
  have hmem : ∀ x ∈ order, x.1.span.start ≤ x.1.span.stop := fun x hx =>
    hle x.1 (List.fst_mem_of_mem_zipIdx (hperm.mem_iff.1 hx))
  calc overlap? (descending es) = none
      ↔ (descending es).Pairwise fun later earlier => earlier.span.stop ≤ later.span.start :=
        ⟨fun h => pairwise_of_overlap? h fun e he => hle e (List.mem_mergeSort.1 he), overlap?_eq_none⟩
    _ ↔ order.Pairwise fun x y => x.1.span.stop ≤ y.1.span.start := by
        rw [← List.pairwise_reverse, ← horder, List.pairwise_map]
    _ ↔ order.Pairwise Apart := by
        have hstep : ∀ x ∈ order, ∀ y ∈ order, Precedes x y ∧ x.2 ≠ y.2 →
            (x.1.span.stop ≤ y.1.span.start ↔ Apart x y) := fun x hx y hy h =>
          h.1.stop_le_iff h.2 (hmem x hx) (hmem y hy)
        have hboth := hprecedes.and hplaces
        constructor
        · intro h
          exact (h.and hboth).imp_of_mem fun hx hy hxy => (hstep _ hx _ hy hxy.2).1 hxy.1
        · intro h
          exact (h.and hboth).imp_of_mem fun hx hy hxy => (hstep _ hx _ hy hxy.2).2 hxy.1
    _ ↔ es.zipIdx.Pairwise Apart := hperm.pairwise_iff Apart.symm
    _ ↔ es.Pairwise fun a b => ¬ Clash a b := pairwise_zipIdx_apart

/-- Valid edits can only be refused for an overlap of neighbours. -/
theorem applyAll_eq_of_valid {text : String} (hvalid : ∀ e ∈ es, e.validate text.toList = .ok ()) :
    (overlap? (descending es) = none ∧ ∃ out, applyAll text es = .ok out) ∨
      ∃ s t, overlap? (descending es) = some (s, t) ∧ applyAll text es = .error (.overlap s t) := by
  cases hover : overlap? (descending es) with
  | none =>
    have hchecked : Checked text.toList es := ⟨hvalid, hover⟩
    obtain ⟨made, -, hmade⟩ := hchecked.exists_rebuild
    exact .inl ⟨rfl, String.ofList made, applyAll_eq_ok_iff.2 ⟨hchecked, by rwa [String.toList_ofList]⟩⟩
  | some spans =>
    refine .inr ⟨spans.1, spans.2, rfl, ?_⟩
    simp only [applyAll, forM_validate_eq_ok_iff.2 hvalid, hover]
    rfl

/-- **A batch of valid edits is refused for an overlap exactly if two of its edits clash,** and made
otherwise. -/
theorem applyAll_overlap_iff {text : String} (hvalid : ∀ e ∈ es, e.validate text.toList = .ok ()) :
    ((∃ s t, applyAll text es = .error (.overlap s t)) ↔ ¬ es.Pairwise fun a b => ¬ Clash a b) ∧
      ((∃ out, applyAll text es = .ok out) ↔ es.Pairwise fun a b => ¬ Clash a b) := by
  rw [← overlap?_descending_eq_none_iff fun e he => start_le_stop_of_validate (hvalid e he)]
  rcases applyAll_eq_of_valid hvalid with ⟨hnone, out, hout⟩ | ⟨s, t, hsome, herror⟩
  · simp [hnone, hout]
  · simp [hsome, herror]

/-- Of two edits the one that starts later goes first, and at a tie the one that is listed first. -/
theorem descending_pair (a b : Edit) :
    descending [a, b] = if b.span.start ≤ a.span.start then [a, b] else [b, a] := by
  simp [descending, List.mergeSort, List.merge]

/-- An insertion where something is replaced is refused, or accepted if it is listed behind. -/
example :
    applyAll "abcdef" [⟨⟨3, 3⟩, "X", .exact ""⟩, ⟨⟨3, 5⟩, "YZ", .exact "de"⟩] =
        .error (.overlap ⟨3, 5⟩ ⟨3, 3⟩) ∧
      applyAll "abcdef" [⟨⟨3, 5⟩, "YZ", .exact "de"⟩, ⟨⟨3, 3⟩, "X", .exact ""⟩] = .ok "abcXYZf" := by
  constructor
  · rw [applyAll, descending_pair]
    rfl
  · rw [applyAll, descending_pair]
    rfl

/-- **Overlapping spans are refused, in whatever order they are listed.** -/
theorem applyAll_overlap_of_overlap {text : String}
    (hvalid : ∀ e ∈ es, e.validate text.toList = .ok ())
    (hover : ¬ es.Pairwise fun a b => ¬ a.span.Overlap b.span) :
    ∃ s t, applyAll text es = .error (.overlap s t) :=
  (applyAll_overlap_iff hvalid).1.2 fun h => hover (h.imp fun hab hspans => hab (.inl hspans))

/-- **Without insertions the check is exact,** so the listing order does not matter. -/
theorem applyAll_overlap_iff_of_replacements {text : String}
    (hvalid : ∀ e ∈ es, e.validate text.toList = .ok ()) (hreplace : ∀ e ∈ es, ¬ e.IsInsertion) :
    ((∃ s t, applyAll text es = .error (.overlap s t)) ↔
        ¬ es.Pairwise fun a b => ¬ a.span.Overlap b.span) ∧
      ∀ fs : List Edit, fs.Perm es →
        ((∃ out, applyAll text fs = .ok out) ↔ ∃ out, applyAll text es = .ok out) := by
  have hclash : ∀ fs : List Edit, (∀ e ∈ fs, ¬ e.IsInsertion) →
      ((fs.Pairwise fun a b => ¬ Clash a b) ↔ fs.Pairwise fun a b => ¬ a.span.Overlap b.span) := by
    intro fs hfs
    exact List.Pairwise.iff_of_mem fun ha _ => not_congr (clash_iff_overlap (hfs _ ha))
  refine ⟨by rw [(applyAll_overlap_iff hvalid).1, hclash es hreplace], fun fs hperm => ?_⟩
  have hvalid' : ∀ e ∈ fs, e.validate text.toList = .ok () :=
    fun e he => hvalid e (hperm.mem_iff.1 he)
  have hreplace' : ∀ e ∈ fs, ¬ e.IsInsertion := fun e he => hreplace e (hperm.mem_iff.1 he)
  rw [(applyAll_overlap_iff hvalid).2, (applyAll_overlap_iff hvalid').2, hclash es hreplace,
    hclash fs hreplace']
  exact hperm.pairwise_iff fun h => (not_congr Span.overlap_comm).1 h

end Edit
end LiteralPatch
