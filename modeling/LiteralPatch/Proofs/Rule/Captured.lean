import LiteralPatch.Proofs.Pattern.First
import LiteralPatch.Rule.Capture

/-!
# Where captured values stand

The values that a pattern finds in a text stand one behind the other: `Placed P l r cs` goes over the
text `r` behind `l`, from one value to the next, and says of each that it is what stands at its span and
that `P` holds of what stands before it, of the value and of what stands behind it.

For a pattern of the usual form, one capture group between expressions without any (`Frames`), the
surroundings of every value are spelled by these expressions (`findValues_placed`).
-/

namespace LiteralPatch

open Pattern Cursor

namespace Pattern.Program

/-- The place at which a search finds something. -/
theorem findFrom_eq_some {p : Program} {l r : List Char} {found : Success}
    (h : p.findFrom r (between l r) = some found) :
    ∃ g x, r = g ++ x ∧ p.matchAt (between (l ++ g) x) = some found := by
  induction r generalizing l with
  | nil =>
    refine ⟨[], [], rfl, ?_⟩
    rw [findFrom] at h
    split at h
    · next hmatch => rw [List.append_nil, hmatch, h]
    · cases h
  | cons c r ih =>
    rw [findFrom] at h
    split at h
    · next hmatch => exact ⟨[], c :: r, rfl, by rw [List.append_nil, hmatch, h]⟩
    · simp only [past_between] at h
      obtain ⟨g, x, rfl, hmatch⟩ := ih h
      exact ⟨c :: g, x, rfl, by simpa using hmatch⟩

/-- The matches listed stand one behind the other in the text `r` behind `l`. -/
inductive Scanned (p : Program) : List Char → List Char → List (List Mark) → Prop where
  | done {l r : List Char} : Scanned p l r []
  | found {l g w r : List Char} {marks : List Mark} {rest : List (List Mark)}
    (h : p.matchAt (between (l ++ g) (w ++ r)) = some (marks, between (l ++ g ++ w) r))
    (hrest : Scanned p (l ++ g ++ w) r rest) : Scanned p l (g ++ w ++ r) (marks :: rest)

theorem Scanned.behind {p : Program} {l r : List Char} {c : Char} {ms : List (List Mark)}
    (h : Scanned p (l ++ [c]) r ms) : Scanned p l (c :: r) ms := by
  cases h with
  | done => exact .done
  | @found l g w r marks rest h hrest =>
    have hmove : l ++ [c] ++ g = l ++ (c :: g) := by simp
    rw [hmove] at h hrest
    exact .found (g := c :: g) h hrest

theorem findAllFrom_scanned (e : Expr) (fuel : Nat) (l r : List Char) (lastEnd : Option Nat) :
    Scanned (ofExpr e) l r ((ofExpr e).findAllFrom fuel (between l r) lastEnd) := by
  induction fuel generalizing l r lastEnd with
  | zero => exact .done
  | succ fuel ih =>
    rw [findAllFrom]
    split
    · exact .done
    · next marks there hfound =>
      obtain ⟨g, x, rfl, hmatch⟩ := findFrom_eq_some hfound
      obtain ⟨ms, hmatches, -⟩ := matches_of_matchAt hmatch
      obtain ⟨w, y, rfl, rfl, -⟩ := hmatches.exists_spells rfl
      split
      · split
        · exact .done
        · next next hnext =>
          -- an empty match right behind the last one is passed over
          cases hr : g ++ (w ++ y) with
          | nil =>
            rw [stepOn, between_rest, hr] at hnext
            cases hnext
          | cons c r =>
            rw [stepOn, between_rest, hr] at hnext
            obtain rfl := Option.some.inj hnext
            rw [past_between]
            exact (ih (l ++ [c]) r none).behind
      · rw [← List.append_assoc]
        exact .found hmatch (ih _ y _)

theorem findAll_scanned (e : Expr) (text : List Char) :
    Scanned (ofExpr e) [] text ((ofExpr e).findAll text) := by
  rw [findAll, start_eq_between]
  exact findAllFrom_scanned e _ [] text none

end Pattern.Program

/-- The captures stand one behind the other in the text `r` behind `l`, and `P` holds of what stands
before each, of its value and of what stands behind it. -/
inductive Placed (P : List Char → List Char → List Char → Prop) :
    List Char → List Char → List ValueCapture → Prop where
  | none {l r : List Char} : Placed P l r []
  | next {l a b c : List Char} {v : ValueCapture} {vs : List ValueCapture}
    (h : P (l ++ a) b c) (hspan : v.span = ⟨Text.width (l ++ a), Text.width (l ++ a ++ b)⟩)
    (hvalue : v.value = String.ofList b) (hrest : Placed P (l ++ a ++ b) c vs) :
    Placed P l (a ++ b ++ c) (v :: vs)

section Placed

variable {P Q : List Char → List Char → List Char → Prop} {l r x : List Char}
  {vs : List ValueCapture}

/-- What stands behind a longer text stands behind a shorter one. -/
theorem Placed.behind (h : Placed P (l ++ x) r vs) : Placed P l (x ++ r) vs := by
  cases h with
  | none => exact .none
  | @next l a b c v vs h hspan hvalue hrest =>
    rw [List.append_assoc] at h hspan hrest
    rw [List.append_assoc, ← List.append_assoc, ← List.append_assoc]
    exact .next h (by rw [hspan, List.append_assoc]) hvalue (by simpa using hrest)

theorem Placed.mono (h : Placed P l r vs) (hPQ : ∀ a b c, P a b c → Q a b c) :
    Placed Q l r vs := by
  induction h with
  | none => exact .none
  | next h hspan hvalue _ ih => exact .next (hPQ _ _ _ h) hspan hvalue ih

/-- The captures whose value passes a test. -/
theorem Placed.filter (h : Placed P l r vs) (test : String → Bool) :
    Placed (fun a b c => P a b c ∧ test (String.ofList b) = true) l r
      (vs.filter fun v => test v.value) := by
  induction h with
  | none => exact .none
  | @next l a b c v vs h hspan hvalue _ ih =>
    by_cases htest : test v.value = true
    · rw [List.filter_cons, if_pos htest]
      exact .next ⟨h, by rwa [← hvalue]⟩ hspan hvalue ih
    · rw [List.filter_cons, if_neg htest]
      rw [List.append_assoc l a b] at ih
      exact ih.behind

/-- Every capture stands where its span says, in surroundings of the kind. -/
theorem Placed.exists_of_mem (h : Placed P l r vs) :
    ∀ v ∈ vs, ∃ a b c, l ++ r = a ++ b ++ c ∧ v.span = ⟨Text.width a, Text.width (a ++ b)⟩ ∧
      v.value = String.ofList b ∧ P a b c := by
  induction h with
  | none => exact fun _ hv => nomatch hv
  | @next l a b c v vs h hspan hvalue _ ih =>
    refine List.forall_mem_cons.2 ⟨⟨l ++ a, b, c, by simp, hspan, hvalue, h⟩, fun w hw => ?_⟩
    obtain ⟨a', b', c', htext, hrest⟩ := ih w hw
    exact ⟨a', b', c', by rw [← htext]; simp, hrest⟩

end Placed

namespace ValuePattern

/-- The pattern is an expression for the value, as group 1, between expressions without groups. -/
structure Frames (p : ValuePattern) (pre : List Expr) (value : Expr) (post : List Expr) :
    Prop where
  program_eq : p.pattern.program = Program.ofExpr (.chain (pre ++ .group 1 value :: post))
  group_eq : p.group = 1
  pre_captures : ∀ e ∈ pre, e.captures = []
  value_captures : value.captures = []
  post_captures : ∀ e ∈ post, e.captures = []
  productive : (Expr.chain (pre ++ .group 1 value :: post)).productive = true

/-- Between `a` and `c` stands a value `b` with the surroundings that the expressions ask for. -/
def Framed (pre : List Expr) (value : Expr) (post : List Expr) (a b c : List Char) : Prop :=
  ∃ l u v r, a = l ++ u ∧ c = v ++ r ∧ (Expr.chain pre).Spells l u (b ++ v ++ r) ∧
    value.Spells (l ++ u) b (v ++ r) ∧ (Expr.chain post).Spells (l ++ u ++ b) v r

variable {p : ValuePattern} {pre post : List Expr} {value : Expr}

/-- One match of such a pattern, and the capture that its marks describe. -/
theorem Frames.captureOf (h : p.Frames pre value post) {l x : List Char} {marks : List Mark}
    {there : Cursor} (hmatch : p.pattern.program.matchAt (between l x) = some (marks, there)) :
    ∃ a b c r, x = a ++ b ++ c ++ r ∧ there = between (l ++ a ++ b ++ c) r ∧
      Framed pre value post (l ++ a) b (c ++ r) ∧
      p.captureOf (l ++ x) marks =
        some ⟨⟨Text.width l, Text.width (l ++ a ++ b ++ c)⟩,
          ⟨Text.width (l ++ a), Text.width (l ++ a ++ b)⟩, String.ofList b⟩ := by
  rw [h.program_eq] at hmatch
  obtain ⟨ms, hmatches, rfl⟩ := matches_of_matchAt hmatch
  obtain ⟨a, b, c, r, rfl, ha, hb, hc, rfl, rfl⟩ :=
    hmatches.exists_capture h.pre_captures h.value_captures h.post_captures
  refine ⟨a, b, c, r, rfl, rfl, ⟨l, a, c, r, rfl, rfl, ha, hb, hc⟩, ?_⟩
  have hslice : Text.slice? (l ++ (a ++ b ++ c ++ r)) (Text.width (l ++ a))
      (Text.width (l ++ a ++ b)) = some b :=
    Text.slice?_eq_some_iff.2 ⟨l ++ a, c ++ r, by simp, rfl, (Text.width_append _ _).symm⟩
  have hwhole : Program.group? ((1, (between (l ++ a ++ b ++ c) r).offset) ::
      (3, Text.width (l ++ a ++ b)) :: (2, Text.width (l ++ a)) ::
        [(0, (between l (a ++ b ++ c ++ r)).offset)]) 0 =
      some (Text.width l, Text.width (l ++ a ++ b ++ c)) := rfl
  have hvalue : Program.group? ((1, (between (l ++ a ++ b ++ c) r).offset) ::
      (3, Text.width (l ++ a ++ b)) :: (2, Text.width (l ++ a)) ::
        [(0, (between l (a ++ b ++ c ++ r)).offset)]) 1 =
      some (Text.width (l ++ a), Text.width (l ++ a ++ b)) := rfl
  rw [ValuePattern.captureOf, h.group_eq, hwhole, hvalue]
  simp only [Option.bind_eq_bind, Option.bind_some, hslice]
  rfl

/-- The captures of the matches of a scan. -/
theorem Frames.placed_of_scanned (h : p.Frames pre value post) {l r : List Char}
    {found : List (List Mark)} (hs : p.pattern.program.Scanned l r found) :
    Placed (Framed pre value post) l r (found.filterMap (p.captureOf (l ++ r))) := by
  generalize htext : l ++ r = text
  induction hs with
  | done => exact .none
  | @found l g w r marks rest hmatch hs ih =>
    obtain ⟨a, b, c, x, hw, hthere, hframed, hcapture⟩ := h.captureOf hmatch
    have hwhole : l ++ g ++ (w ++ r) = text := by simpa using htext
    rw [hwhole] at hcapture
    rw [List.filterMap_cons_some hcapture]
    -- the match ends where the surroundings of its value end
    have hr : r = x := congrArg Cursor.rest hthere
    subst hr
    obtain rfl : w = a ++ b ++ c := List.append_cancel_right hw
    have hbehind := ih (by simpa using htext)
    rw [show l ++ g ++ (a ++ b ++ c) = l ++ (g ++ a) ++ b ++ c by simp] at hbehind
    rw [show l ++ g ++ a = l ++ (g ++ a) by simp] at hframed ⊢
    rw [show g ++ (a ++ b ++ c) ++ r = (g ++ a) ++ b ++ (c ++ r) by simp]
    exact .next hframed rfl rfl hbehind.behind

/-- **Every value that is found stands in the surroundings that the pattern describes.** -/
theorem Frames.findValues_placed (h : p.Frames pre value post) (text : String) :
    Placed (Framed pre value post) [] text.toList (p.findValues text) := by
  have hs : p.pattern.program.Scanned [] text.toList (p.pattern.program.findAll text.toList) := by
    rw [h.program_eq]
    exact Program.findAll_scanned _ _
  exact h.placed_of_scanned hs

end ValuePattern
end LiteralPatch
