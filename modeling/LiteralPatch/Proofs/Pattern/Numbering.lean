import LiteralPatch.Proofs.Attempts
import LiteralPatch.Pattern.Reader

/-!
# Captures are numbered from one

The number 0 stands for the whole match, and a search notes its two ends under the slots 0 and 1.  So the
whole match can be read off the marks only if no capture of the pattern has that number.  The reader counts
the captures that it opens and starts from one; whatever it does with an expression afterwards, repeating it
or lifting what branches have in common, adds no capture (`mem_captures_repeated`, `mem_captures_alternation`).

What a step of the reader keeps is `Reader.Numbered`, about everything that has been read so far, and the
pattern that is read has it (`zero_notMem_captures`).
-/

namespace LiteralPatch
namespace Pattern

/-! ## Building expressions adds no captures -/

namespace Expr

variable {i : Nat} {e f : Expr} {es : List Expr} {branches : List (List Expr)}

theorem mem_captures_chain (h : i ∈ (chain es).captures) : ∃ e ∈ es, i ∈ e.captures := by
  induction es with
  | nil => cases h
  | cons e es ih =>
    cases es with
    | nil => exact ⟨e, List.mem_cons_self, h⟩
    | cons f es =>
      rcases List.mem_append.1 h with he | hes
      · exact ⟨e, List.mem_cons_self, he⟩
      · obtain ⟨x, hx, hi⟩ := ih hes
        exact ⟨x, List.mem_cons_of_mem e hx, hi⟩

theorem mem_captures_choice (h : i ∈ (choice es).captures) : ∃ e ∈ es, i ∈ e.captures := by
  induction es with
  | nil => cases h
  | cons e es ih =>
    cases es with
    | nil => exact ⟨e, List.mem_cons_self, h⟩
    | cons f es =>
      rcases List.mem_append.1 h with he | hes
      · exact ⟨e, List.mem_cons_self, he⟩
      · obtain ⟨x, hx, hi⟩ := ih hes
        exact ⟨x, List.mem_cons_of_mem e hx, hi⟩

theorem mem_captures_times {n : Nat} (h : i ∈ (times n e f).captures) :
    i ∈ e.captures ∨ i ∈ f.captures := by
  induction n with
  | zero => exact .inr h
  | succ n ih =>
    rcases List.mem_append.1 h with he | hrest
    · exact .inl he
    · exact ih hrest

theorem mem_captures_atMost {greedy : Bool} {n : Nat} (h : i ∈ (atMost greedy e n).captures) :
    i ∈ e.captures := by
  induction n with
  | zero => exact h
  | succ n ih => exact (List.mem_append.1 h).elim id ih

theorem mem_captures_spellOut {min : Nat} {max : Option Nat} {greedy : Bool}
    (h : i ∈ (spellOut min max greedy e).captures) : i ∈ e.captures := by
  unfold spellOut at h
  split at h
  · exact h
  · exact (mem_captures_times h).elim id id
  · cases h
  · exact mem_captures_atMost h
  · split at h
    · exact (mem_captures_times h).elim id id
    · exact (mem_captures_times h).elim id mem_captures_atMost

theorem mem_captures_repeated {min : Nat} {max : Option Nat} {greedy : Bool}
    (h : i ∈ (repeated min max greedy e).captures) : i ∈ e.captures := by
  unfold repeated at h
  split at h
  · exact mem_captures_spellOut h
  · exact mem_captures_spellOut h

theorem mem_captures_join (h : i ∈ (join branches).captures) :
    ∃ b ∈ branches, ∃ e ∈ b, i ∈ e.captures := by
  unfold join at h
  split at h
  · cases h
  · obtain ⟨e, he, hi⟩ := mem_captures_choice h
    obtain ⟨b, hb, rfl⟩ := List.mem_map.1 he
    exact ⟨b, hb, mem_captures_chain hi⟩

/-- An alternation has the captures of its branches only. -/
theorem mem_captures_alternation (he : e ∈ alternation branches) (hi : i ∈ e.captures) :
    ∃ b ∈ branches, ∃ f ∈ b, i ∈ f.captures := by
  unfold alternation at he
  split at he
  · obtain rfl := List.mem_singleton.1 he
    cases hi
  · exact ⟨_, List.mem_cons_self, e, he, hi⟩
  · rcases List.mem_append.1 he with he | he
    · exact ⟨_, List.mem_cons_self, e, List.mem_of_mem_take he, hi⟩
    · -- the rest of each branch, behind what all of them share
      obtain rfl := List.mem_singleton.1 he
      obtain ⟨rest, hrest, f, hf, hi⟩ := mem_captures_join hi
      obtain ⟨b, hb, rfl⟩ := List.mem_map.1 hrest
      exact ⟨b, hb, f, List.mem_of_mem_drop hf, hi⟩

end Expr

/-! ## What the reader has read -/

/-- No capture in these factors has the number of the whole match. -/
def Numbered (factors : List Expr) : Prop := ∀ e ∈ factors, 0 ∉ e.captures

theorem numbered_singleton {e : Expr} : Numbered [e] ↔ 0 ∉ e.captures := List.forall_mem_singleton

/-- An item, once repeated, has the captures that it had before. -/
theorem Numbered.chain {factors : List Expr} (h : Numbered factors) : 0 ∉ (Expr.chain factors).captures := by
  intro hzero
  obtain ⟨e, he, hi⟩ := Expr.mem_captures_chain hzero
  exact h e he hi

/-- What has been read around an open group, and the number of the group. -/
structure OpenGroup.Numbered (g : OpenGroup) : Prop where
  parts : ∀ p ∈ g.parts, Pattern.Numbered p.factors
  branches : ∀ b ∈ g.branches, Pattern.Numbered b.factors
  capture : ∀ i ∈ g.capture, i ≠ 0

/-- Nothing that has been read has a capture with the number 0. -/
structure Reader.Numbered (r : Reader) : Prop where
  parts : ∀ p ∈ r.parts, Pattern.Numbered p.factors
  branches : ∀ b ∈ r.branches, Pattern.Numbered b.factors
  groups : ∀ g ∈ r.groups, g.Numbered

theorem numbered_ofParts {parts : List Part} (h : ∀ p ∈ parts, Numbered p.factors) :
    Numbered (Branch.ofParts parts).factors := by
  intro e he
  obtain ⟨p, hp, hep⟩ := List.mem_flatMap.1 he
  exact h p (List.mem_reverse.1 hp) e hep

theorem numbered_alternation {branches : List Branch} (h : ∀ b ∈ branches, Numbered b.factors) :
    Numbered (Branch.alternation branches).factors := by
  unfold Branch.alternation
  split
  · exact h _ List.mem_cons_self
  · intro e he hzero
    obtain ⟨fs, hfs, f, hf, hi⟩ := Expr.mem_captures_alternation he hzero
    obtain ⟨b, hb, rfl⟩ := List.mem_map.1 hfs
    exact h b hb f hf hi

namespace Reader

variable {r r' : Reader} {c : Char} {cs rest : List Char}

/-- A step that has succeeded ends with the reader that it gives. -/
theorem eq_of_ok (h : (Except.ok (r, cs) : Except Fault (Reader × List Char)) = .ok (r', rest)) : r = r' :=
  congrArg Prod.fst (Except.ok.inj h)

theorem numbered_start (flags : Flags) : (start flags).Numbered :=
  ⟨fun _ hp => (nomatch hp), fun _ hb => (nomatch hb), fun _ hg => (nomatch hg)⟩

theorem Numbered.push (h : r.Numbered) {p : Part} (hp : Pattern.Numbered p.factors) :
    (r.push p).Numbered :=
  ⟨List.forall_mem_cons.2 ⟨hp, h.parts⟩, h.branches, h.groups⟩

theorem Numbered.nextBranch (h : r.Numbered) : r.nextBranch.Numbered :=
  ⟨fun _ hp => (nomatch hp), List.forall_mem_cons.2 ⟨numbered_ofParts h.parts, h.branches⟩, h.groups⟩

theorem Numbered.body (h : r.Numbered) : Pattern.Numbered r.body.factors := by
  refine numbered_alternation fun b hb => ?_
  rcases List.mem_cons.1 (List.mem_reverse.1 hb) with rfl | hb
  · exact numbered_ofParts h.parts
  · exact h.branches b hb

theorem Numbered.openGroup (h : r.Numbered) (inner : Flags) {capture : Option Nat}
    (hcapture : ∀ i ∈ capture, i ≠ 0) : (r.openGroup inner capture).Numbered :=
  ⟨fun _ hp => (nomatch hp), fun _ hb => (nomatch hb),
    List.forall_mem_cons.2 ⟨⟨h.parts, h.branches, hcapture⟩, h.groups⟩⟩

/-- The number of a capture that is opened is one more than the number of those before. -/
theorem Numbered.openCapture (h : r.Numbered) : r.openCapture.Numbered := by
  have hcapture : ∀ i ∈ some (r.captures + 1), i ≠ 0 := by simp
  have hgroup := h.openGroup r.flags hcapture
  exact ⟨hgroup.parts, hgroup.branches, hgroup.groups⟩

theorem Numbered.closeGroup (h : r.Numbered) (hclose : r.closeGroup = .ok r') : r'.Numbered := by
  unfold Reader.closeGroup at hclose
  split at hclose
  · cases hclose
  · next g groups hgroups =>
    obtain ⟨hg, hrest⟩ := List.forall_mem_cons.1 (hgroups ▸ h.groups)
    obtain rfl := Except.ok.inj hclose
    refine ⟨List.forall_mem_cons.2 ⟨?_, hg.parts⟩, hg.branches, hrest⟩
    split
    · next i hi =>
      refine numbered_singleton.2 fun hzero => ?_
      rcases List.mem_cons.1 hzero with hzero | hzero
      · exact hg.capture i hi hzero.symm
      · exact h.body.chain hzero
    · exact h.body

theorem Numbered.repeatLast (h : r.Numbered) {min : Nat} {max : Option Nat} {greedy : Bool}
    (hrepeat : r.repeatLast min max greedy = .ok r') : r'.Numbered := by
  unfold Reader.repeatLast at hrepeat
  split at hrepeat
  · next fs depth weight parts hparts =>
    obtain ⟨hlast, hrest⟩ := List.forall_mem_cons.1 (hparts ▸ h.parts)
    dsimp only at hrepeat
    split at hrepeat
    · cases hrepeat
    · obtain rfl := Except.ok.inj hrepeat
      refine ⟨List.forall_mem_cons.2 ⟨?_, hrest⟩, h.branches, h.groups⟩
      show Pattern.Numbered (ite _ _ _)
      split
      · exact hlast
      · split
        · exact fun e he => nomatch he
        · exact numbered_singleton.2 fun hzero => hlast.chain (Expr.mem_captures_repeated hzero)
  · cases hrepeat

theorem Numbered.readGroup (h : r.Numbered) (hread : r.readGroup cs = .ok (r', rest)) : r'.Numbered := by
  unfold Reader.readGroup at hread
  split at hread
  · cases hread
  · cases hread
  · cases hread
  · cases hread
  · obtain ⟨⟨name, tail⟩, -, hread⟩ := bind_eq_ok_iff.1 hread
    obtain rfl := eq_of_ok hread
    exact ⟨h.openCapture.parts, h.openCapture.branches, h.openCapture.groups⟩
  · obtain ⟨⟨name, tail⟩, -, hread⟩ := bind_eq_ok_iff.1 hread
    obtain rfl := eq_of_ok hread
    exact ⟨h.openCapture.parts, h.openCapture.branches, h.openCapture.groups⟩
  · cases hread
  · obtain ⟨⟨⟨flags, any, close⟩, tail⟩, -, hread⟩ := bind_eq_ok_iff.1 hread
    dsimp only at hread
    split at hread
    · obtain rfl := eq_of_ok hread
      exact h.openGroup flags (by simp)
    · split at hread
      · obtain rfl := eq_of_ok hread
        exact ⟨List.forall_mem_cons.2 ⟨fun e he => (nomatch he), h.parts⟩, h.branches, h.groups⟩
      · cases hread
  · obtain rfl := eq_of_ok hread
    exact h.openCapture

/-- An atom is a set or an assertion, and captures nothing. -/
theorem numbered_atom {flags : Flags} {atom : Atom} {e : Expr} (h : ofAtom flags atom = .ok e) :
    Pattern.Numbered (Part.atom e).factors := by
  have hfree : e.captures = [] := by
    unfold ofAtom at h
    split at h
    · split at h
      · cases h
      · rw [← Except.ok.inj h]
        rfl
    · rw [← Except.ok.inj h]
      rfl
    · rw [← Except.ok.inj h]
      rfl
  have hfactors : (Part.atom e).factors = [e] := by cases e <;> rfl
  rw [hfactors, numbered_singleton, hfree]
  exact fun hzero => nomatch hzero

/-- **A step of the reader adds no capture with the number 0.** -/
theorem Numbered.step (h : r.Numbered) (hstep : r.step c cs = .ok (r', rest)) : r'.Numbered := by
  have hset : ∀ (s : CharSet) (depth : Nat), Pattern.Numbered (Part.ofSet s depth).factors :=
    fun s depth => numbered_singleton.2 fun hzero => nomatch hzero
  have hlook : ∀ a, Pattern.Numbered (Part.atom (.look a)).factors :=
    fun a => numbered_singleton.2 fun hzero => nomatch hzero
  unfold Reader.step at hstep
  dsimp only at hstep
  split at hstep
  · exact h.readGroup hstep
  · obtain ⟨r₁, hclose, hstep⟩ := bind_eq_ok_iff.1 hstep
    obtain rfl := eq_of_ok hstep
    exact h.closeGroup hclose
  · obtain rfl := eq_of_ok hstep
    exact h.nextBranch
  · obtain ⟨⟨v, tail⟩, -, hstep⟩ := bind_eq_ok_iff.1 hstep
    obtain rfl := eq_of_ok hstep
    exact h.push (hset _ _)
  · obtain ⟨r₁, hrepeat, hstep⟩ := bind_eq_ok_iff.1 hstep
    obtain rfl := eq_of_ok hstep
    exact h.repeatLast hrepeat
  · obtain ⟨r₁, hrepeat, hstep⟩ := bind_eq_ok_iff.1 hstep
    obtain rfl := eq_of_ok hstep
    exact h.repeatLast hrepeat
  · obtain ⟨r₁, hrepeat, hstep⟩ := bind_eq_ok_iff.1 hstep
    obtain rfl := eq_of_ok hstep
    exact h.repeatLast hrepeat
  · obtain ⟨⟨⟨min, max⟩, tail⟩, -, hstep⟩ := bind_eq_ok_iff.1 hstep
    obtain ⟨r₁, hrepeat, hstep⟩ := bind_eq_ok_iff.1 hstep
    obtain rfl := eq_of_ok hstep
    exact h.repeatLast hrepeat
  · obtain ⟨⟨atom, tail⟩, -, hstep⟩ := bind_eq_ok_iff.1 hstep
    obtain ⟨e, hatom, hstep⟩ := bind_eq_ok_iff.1 hstep
    obtain rfl := eq_of_ok hstep
    exact h.push (numbered_atom hatom)
  · split at hstep
    · obtain rfl := eq_of_ok hstep
      exact h.push (hset _ _)
    · cases hstep
  · obtain rfl := eq_of_ok hstep
    exact h.push (hlook _)
  · obtain rfl := eq_of_ok hstep
    exact h.push (hlook _)
  · obtain ⟨e, hatom, hstep⟩ := bind_eq_ok_iff.1 hstep
    obtain rfl := eq_of_ok hstep
    exact h.push (numbered_atom hatom)

/-- A whole text adds none. -/
theorem Numbered.run (h : r.Numbered) {n : Nat} (hrun : Reader.run n r cs = .ok r') : r'.Numbered := by
  induction n generalizing r cs with
  | zero =>
    unfold Reader.run at hrun
    split at hrun
    · exact Except.ok.inj hrun ▸ h
    · cases hrun
    · next heq _ => cases heq
  | succ n ih =>
    unfold Reader.run at hrun
    split at hrun
    · exact Except.ok.inj hrun ▸ h
    · cases hrun
    · next n' c tail heq _ =>
      obtain rfl := Nat.succ.inj heq
      obtain ⟨⟨r₁, rest⟩, hstep, hrun⟩ := bind_eq_ok_iff.1 hrun
      exact ih (h.step hstep) hrun

end Reader

/-- **No capture of a pattern has the number of the whole match,** and so no named one has. -/
theorem zero_notMem_captures {flags : Flags} {text : List Char} {source : Source}
    (h : read flags text = .ok source) :
    0 ∉ source.expr.captures ∧ ∀ name ∈ source.names, name.2 ≠ 0 := by
  unfold read at h
  obtain ⟨r, hrun, h⟩ := bind_eq_ok_iff.1 h
  have hbody := ((Reader.numbered_start flags).run hrun).body.chain
  dsimp only at h
  split at h
  · cases h
  split at h
  · cases h
  split at h
  · cases h
  obtain rfl := Except.ok.inj h
  refine ⟨hbody, fun name hname hzero => hbody ?_⟩
  have hmem : name.2 ∈ (Expr.chain r.body.factors).captures := of_decide_eq_true (List.mem_filter.1 hname).2
  rwa [hzero] at hmem

end Pattern
end LiteralPatch
