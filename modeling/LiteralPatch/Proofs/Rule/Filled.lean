import LiteralPatch.Proofs.Rule.Found

/-!
# Groups that always capture something

`Expr.bodies i e` are the expressions inside the capture groups of `e` with the number `i`; a counted
repetition spells a group out several times, so there may be many.  If none of them can match the empty text
(`Expr.Fills`), no capture of that group is empty, however often the group is passed in a match
(`ValuePattern.NeverEmpty.start_lt_stop`).

The marks of a group are set in pairs, but a pair may be read while the next round has begun it anew.  What
every part of a match keeps is said by `Renewed`: the two offsets that count are either those of before, or
both new, in order, and not behind the place reached.
-/

namespace LiteralPatch

open Pattern Cursor

namespace Pattern

namespace Expr

/-- The expressions inside the capture groups with this number. -/
def bodies (i : Nat) : Expr → List Expr
  | empty | set _ | look _ => []
  | group j e => if j = i then e :: e.bodies i else e.bodies i
  | seq e f | alt e f => e.bodies i ++ f.bodies i
  | opt _ e | plus _ e | star _ e => e.bodies i

/-- No capture group with this number can match the empty text. -/
def Fills (i : Nat) (e : Expr) : Prop :=
  ∀ f ∈ e.bodies i, ∀ l r, ¬ f.Spells l [] r

variable {i : Nat} {e f : Expr} {es : List Expr}

theorem bodies_eq_nil (h : e.captures = []) : e.bodies i = [] := by
  induction e with
  | group => cases h
  | seq e f ihe ihf =>
    obtain ⟨he, hf⟩ := List.append_eq_nil_iff.1 h
    rw [bodies, ihe he, ihf hf, List.append_nil]
  | alt e f ihe ihf =>
    obtain ⟨he, hf⟩ := List.append_eq_nil_iff.1 h
    rw [bodies, ihe he, ihf hf, List.append_nil]
  | opt g e ih => exact ih h
  | plus g e ih => exact ih h
  | star g e ih => exact ih h
  | _ => rfl

theorem bodies_chain : (chain es).bodies i = es.flatMap (bodies i) := by
  induction es with
  | nil => rfl
  | cons e es ih =>
    cases es with
    | nil => exact (List.append_nil _).symm
    | cons f es =>
      rw [List.flatMap_cons, ← ih]
      rfl

/-! ## The marks of a group -/

/-- The offsets of group `i` are as before, or both have been set anew, in order and up to `stop`. -/
def Renewed (i : Nat) (ms ms' : List Mark) (stop : Nat) : Prop :=
  (Program.slot? ms' (2 * i) = Program.slot? ms (2 * i) ∧
      Program.slot? ms' (2 * i + 1) = Program.slot? ms (2 * i + 1)) ∨
    ∃ a b, Program.slot? ms' (2 * i) = some a ∧ Program.slot? ms' (2 * i + 1) = some b ∧
      a < b ∧ b ≤ stop

theorem Renewed.refl (i : Nat) (ms : List Mark) (stop : Nat) : Renewed i ms ms stop :=
  .inl ⟨rfl, rfl⟩

theorem Renewed.trans {ms ms' ms'' : List Mark} {mid stop : Nat} (h : Renewed i ms ms' mid)
    (h' : Renewed i ms' ms'' stop) (hle : mid ≤ stop) : Renewed i ms ms'' stop := by
  rcases h' with ⟨hstart, hstop⟩ | hnew
  · unfold Renewed
    rw [hstart, hstop]
    rcases h with hsame | ⟨a, b, ha, hb, hab, hbound⟩
    · exact .inl hsame
    · exact .inr ⟨a, b, ha, hb, hab, Nat.le_trans hbound hle⟩
  · exact .inr hnew

theorem slot?_cons_of_ne {slot n : Nat} {ms : List Mark} {slot' : Nat} (h : slot' ≠ slot) :
    Program.slot? ((slot, n) :: ms) slot' = Program.slot? ms slot' := by
  rw [Program.slot?, List.lookup_cons, beq_false_of_ne h]
  rfl

theorem slot?_cons_self {slot n : Nat} {ms : List Mark} :
    Program.slot? ((slot, n) :: ms) slot = some n := by
  rw [Program.slot?, List.lookup_cons, beq_self_eq_true]

/-- A group with another number leaves the offsets alone. -/
theorem Renewed.group_of_ne {j start stop : Nat} {ms ms' : List Mark} (hj : j ≠ i)
    (h : Renewed i ((2 * j, start) :: ms) ms' stop) :
    Renewed i ms ((2 * j + 1, stop) :: ms') stop := by
  unfold Renewed at h ⊢
  rw [slot?_cons_of_ne (by omega), slot?_cons_of_ne (by omega)] at h
  rw [slot?_cons_of_ne (by omega), slot?_cons_of_ne (by omega)]
  exact h

/-- A group with this number that has matched something sets them anew. -/
theorem Renewed.group {start stop : Nat} {ms ms' : List Mark} (hlt : start < stop)
    (h : Renewed i ((2 * i, start) :: ms) ms' stop) :
    Renewed i ms ((2 * i + 1, stop) :: ms') stop := by
  refine .inr ?_
  rw [slot?_cons_of_ne (by omega), slot?_cons_self]
  rcases h with ⟨hstart, -⟩ | ⟨a, b, ha, -, hab, hbound⟩
  · rw [slot?_cons_self] at hstart
    exact ⟨start, stop, hstart, rfl, hlt, Nat.le_refl _⟩
  · exact ⟨a, stop, ha, rfl, by omega, Nat.le_refl _⟩

/-- **A match sets the offsets of a group that always captures something in order,** or not at all. -/
theorem Matches.renewed {here there : Cursor} {ms ms' : List Mark} (h : e.Matches here ms there ms')
    (hfills : e.Fills i) {l x : List Char} (hhere : here = between l x) :
    Renewed i ms ms' there.offset := by
  -- two matches one behind the other
  have hjoin : ∀ {e f : Expr} {here mid there : Cursor} {ms ms' ms'' : List Mark} {l x : List Char},
      e.Matches here ms mid ms' → f.Matches mid ms' there ms'' → here = between l x →
      Renewed i ms ms' mid.offset →
      ((∃ l x, mid = between l x) → Renewed i ms' ms'' there.offset) →
      Renewed i ms ms'' there.offset := by
    intro e f here mid there ms ms' ms'' l x he hf hhere hfirst hlater
    obtain ⟨w, r, -, hmid, -⟩ := he.exists_spells hhere
    exact hfirst.trans (hlater ⟨_, _, hmid⟩) hf.offset_le
  induction h generalizing l x with
  | @group j e here there ms ms' h ih =>
    by_cases hj : j = i
    · subst hj
      rw [Fills, bodies, if_pos rfl] at hfills
      obtain ⟨hbody, hinner⟩ := List.forall_mem_cons.1 hfills
      obtain ⟨w, r, -, hthere, hw⟩ := h.exists_spells hhere
      have hne : w ≠ [] := by
        rintro rfl
        exact hbody l r hw
      refine Renewed.group ?_ (ih hinner hhere)
      have hpos := Text.width_pos hne
      rw [hhere, hthere, between_offset, between_offset, Text.width_append]
      omega
    · rw [Fills, bodies, if_neg hj] at hfills
      exact (ih hfills hhere).group_of_ne hj
  | seq he hf ihe ihf =>
    obtain ⟨hleft, hright⟩ := List.forall_mem_append.1 hfills
    exact hjoin he hf hhere (ihe hleft hhere) fun ⟨_, _, hmid⟩ => ihf hright hmid
  | altLeft _ ih => exact ih (List.forall_mem_append.1 hfills).1 hhere
  | altRight _ ih => exact ih (List.forall_mem_append.1 hfills).2 hhere
  | optSome _ ih => exact ih hfills hhere
  | plusOne _ ih => exact ih hfills hhere
  | plusMore h more ih ihmore =>
    exact hjoin h more hhere (ih hfills hhere) fun ⟨_, _, hmid⟩ => ihmore hfills hmid
  | starMore h more ih ihmore =>
    exact hjoin h more hhere (ih hfills hhere) fun ⟨_, _, hmid⟩ => ihmore hfills hmid
  | _ => exact .refl i _ _

end Expr

/-- Every match listed in a scan begins somewhere in the text. -/
theorem Program.Scanned.exists_matchAt {p : Program} {l r : List Char} {found : List (List Mark)}
    (h : p.Scanned l r found) :
    ∀ marks ∈ found, ∃ l x there, p.matchAt (between l x) = some (marks, there) := by
  induction h with
  | done => exact fun _ hmem => nomatch hmem
  | found hmatch _ ih => exact List.forall_mem_cons.2 ⟨⟨_, _, _, hmatch⟩, ih⟩

end Pattern

namespace ValuePattern

variable {p : ValuePattern} {pre post : List Expr} {value : Expr}

/-- The value group of the pattern cannot match the empty text.  The whole match counts as group 0. -/
def NeverEmpty (p : ValuePattern) : Prop :=
  ∃ e, p.pattern.program = Program.ofExpr e ∧ (Expr.group 0 e).Fills p.group

/-- **Such a pattern finds no empty value.** -/
theorem NeverEmpty.start_lt_stop (h : p.NeverEmpty) (text : String) :
    ∀ v ∈ p.findValues text, v.span.start < v.span.stop := by
  obtain ⟨e, hprogram, hfills⟩ := h
  intro v hv
  obtain ⟨marks, hmarks, hcapture⟩ := List.mem_filterMap.1 hv
  rw [hprogram] at hmarks
  obtain ⟨l, x, there, hmatch⟩ := (Program.findAll_scanned e _).exists_matchAt marks hmarks
  obtain ⟨ms, hmatches, rfl⟩ := matches_of_matchAt hmatch
  have hwhole : (Expr.group 0 e).Matches (between l x) [] there ((1, there.offset) :: ms) :=
    .group hmatches
  obtain ⟨-, hgroup, -⟩ := captureOf_eq_some hcapture
  unfold Program.group? at hgroup
  rcases hwhole.renewed hfills rfl with ⟨hsame, -⟩ | ⟨a, b, ha, hb, hab, -⟩
  · rw [hsame] at hgroup
    cases hgroup
  · rw [ha, hb] at hgroup
    obtain ⟨rfl, rfl⟩ := Prod.mk.inj (Option.some.inj hgroup)
    exact hab

/-- A pattern of the usual form, with a value that is not empty. -/
theorem Frames.neverEmpty (h : p.Frames pre value post) (hvalue : value.nullable = false) :
    p.NeverEmpty := by
  refine ⟨_, h.program_eq, ?_⟩
  have hfree : ∀ es : List Expr, (∀ e ∈ es, e.captures = []) → es.flatMap (Expr.bodies 1) = [] :=
    fun es hes => List.flatMap_eq_nil_iff.2 fun e he => Expr.bodies_eq_nil (hes e he)
  have hbodies : (Expr.group 0 (.chain (pre ++ .group 1 value :: post))).bodies 1 = [value] := by
    show (Expr.chain (pre ++ .group 1 value :: post)).bodies 1 = [value]
    rw [Expr.bodies_chain, List.flatMap_append, List.flatMap_cons, hfree pre h.pre_captures,
      hfree post h.post_captures, Expr.bodies, if_pos rfl, Expr.bodies_eq_nil h.value_captures]
    rfl
  rw [h.group_eq, Expr.Fills, hbodies]
  intro f hf l r hempty
  obtain rfl := List.mem_singleton.1 hf
  exact hempty.ne_nil hvalue rfl

end ValuePattern
end LiteralPatch
