import LiteralPatch.Proofs.Pattern.Pieces
import LiteralPatch.Proofs.Rule.Compiled

/-!
# Where a flag stands

The pattern of a flag is generated from a marker and a key, which may hold anything.  Read, it is the
parts of `FlagScope.parts`; and what these spell is said by `FlagScope.LeadsUp` in terms of text alone: a
quote, the marker up to case, a stretch without this or that character, and so on up to the literal.

So a flag is found exactly where it stands (`framed_iff_occurs`): behind a text that leads up to it, with
no word character behind the literal.
-/

namespace LiteralPatch

open Pattern Pattern.Reader Pattern.Expr Unicode

/-- Where a pattern for a literal finds a value: behind what leads up to it, with no word character
behind. -/
theorem ValuePattern.framed_literal_iff {pre : List Expr} {leadsUp : List Char → Prop}
    {literal : List Char} (hspells : ∀ l u r, (chain pre).Spells l u r ↔ leadsUp u)
    (hne : literal ≠ []) (hletters : literal ⊆ letters) {a v c : List Char} :
    ValuePattern.Framed pre (.chain (text true literal)) [edge] a v c ↔
      (∃ l u, a = l ++ u ∧ leadsUp u) ∧ SameText v literal ∧ ∀ x ∈ c.head?, isWord x = false := by
  have hlast : ∀ a v : List Char, SameText v literal →
      Assertion.isWordAt true (a ++ v).getLast? = true := by
    intro a v hv
    have hvne : v ≠ [] := by
      rintro rfl
      exact hne (List.eq_nil_of_length_eq_zero hv.length_eq.symm)
    rw [List.getLast?_append_of_ne_nil a hvne, List.getLast?_eq_some_getLast hvne]
    exact isWord_of_sameText hletters hv _ (List.getLast_mem hvne)
  have hafter : ∀ c : List Char, Assertion.isWordAt true c.head? = false ↔
      ∀ x ∈ c.head?, isWord x = false := by
    intro c
    cases c <;> simp [Assertion.isWordAt]
  constructor
  · rintro ⟨l, u, e, r, rfl, rfl, hu, hv, he⟩
    rw [spells_text_folded] at hv
    rw [spells_chain_singleton, spells_edge, hlast _ v hv] at he
    obtain ⟨rfl, hedge⟩ := he
    exact ⟨⟨l, u, rfl, (hspells _ _ _).1 hu⟩, hv, (hafter _).1 (Bool.eq_false_iff.2 (Ne.symm hedge))⟩
  · rintro ⟨⟨l, u, rfl, hu⟩, hv, hc⟩
    refine ⟨l, u, [], c, rfl, rfl, (hspells _ _ _).2 hu, spells_text_folded.2 hv, ?_⟩
    rw [spells_chain_singleton, spells_edge, hlast _ v hv, (hafter c).2 hc]
    exact ⟨rfl, Bool.false_ne_true.symm⟩

namespace FlagScope

/-! ## The shape of a flag -/

/-- The quoted key and the colon in front of a literal. -/
def KeyLeadsUp (key : List Char) (u : List Char) : Prop :=
  ∃ k w w', u = '"' :: (k ++ '"' :: (w ++ ':' :: w')) ∧ SameText k key ∧
    (∀ c ∈ w, isWhite c = true) ∧ ∀ c ∈ w', isWhite c = true

theorem not_isWhite_colon : isWhite ':' = false := by decide +kernel

theorem not_isWhite_quote : isWhite '"' = false := by decide +kernel

/-- Of two divisions of a text at a character, both at the last one, one is the other. -/
theorem append_cons_inj_of_notMem_right {x₁ x₂ z₁ z₂ : List Char} {a : Char}
    (h : x₁ ++ a :: z₁ = x₂ ++ a :: z₂) (h₁ : a ∉ z₁) (h₂ : a ∉ z₂) : x₁ = x₂ ∧ z₁ = z₂ := by
  rcases List.append_eq_append_iff.1 h with ⟨y, rfl, hy⟩ | ⟨y, rfl, hy⟩
  · cases y with
    | nil => exact ⟨(List.append_nil _).symm, (List.cons.inj hy).2⟩
    | cons b y =>
      obtain ⟨-, rfl⟩ := List.cons.inj hy
      exact absurd (by simp) h₁
  · cases y with
    | nil => exact ⟨List.append_nil _, (List.cons.inj hy).2.symm⟩
    | cons b y =>
      obtain ⟨-, rfl⟩ := List.cons.inj hy
      exact absurd (by simp) h₂

/-- **Behind the key, what leads up to a flag is given by the text,** whatever the keys are. -/
theorem KeyLeadsUp.fronts {key key' x x' t t' : List Char} (h : KeyLeadsUp key t)
    (h' : KeyLeadsUp key' t') (heq : x ++ t = x' ++ t') :
    ∃ k k' u, t = '"' :: (k ++ '"' :: u) ∧ t' = '"' :: (k' ++ '"' :: u) ∧ SameText k key ∧
      SameText k' key' ∧ x ++ '"' :: k = x' ++ '"' :: k' := by
  obtain ⟨k, w, b, rfl, hk, hw, hb⟩ := h
  obtain ⟨k', w', b', rfl, hk', hw', hb'⟩ := h'
  have hnot : ∀ {y : Char} {z : List Char}, isWhite y = false → (∀ c ∈ z, isWhite c = true) → y ∉ z :=
    fun hy hz hmem => Bool.false_ne_true (hy.symm.trans (hz _ hmem))
  have hends : (x ++ '"' :: (k ++ '"' :: w)) ++ ':' :: b = (x' ++ '"' :: (k' ++ '"' :: w')) ++ ':' :: b' := by
    simpa using heq
  obtain ⟨hcolon, rfl⟩ :=
    append_cons_inj_of_notMem_right hends (hnot not_isWhite_colon hb) (hnot not_isWhite_colon hb')
  have hends' : (x ++ '"' :: k) ++ '"' :: w = (x' ++ '"' :: k') ++ '"' :: w' := by simpa using hcolon
  obtain ⟨hquote, rfl⟩ :=
    append_cons_inj_of_notMem_right hends' (hnot not_isWhite_quote hw) (hnot not_isWhite_quote hw')
  exact ⟨k, k', w ++ ':' :: b, rfl, rfl, hk, hk', hquote⟩

/-- A text ends in one way only with a given key. -/
theorem KeyLeadsUp.cancel {key x x' t t' : List Char} (h : KeyLeadsUp key t) (h' : KeyLeadsUp key t')
    (heq : x ++ t = x' ++ t') : x = x' ∧ t = t' := by
  obtain ⟨k, k', u, rfl, rfl, hk, hk', hends⟩ := h.fronts h' heq
  obtain ⟨hx, hquoted⟩ := List.append_inj' hends (by simp [hk.length_eq, hk'.length_eq])
  exact ⟨hx, by rw [← List.cons_append, hquoted, List.cons_append]⟩

/-- The text `u` leads up to the literal of a flag. -/
def LeadsUp (scope : FlagScope) (marker key : List Char) (u : List Char) : Prop :=
  match scope with
  | .entry => ∃ m s g t, u = '"' :: (m ++ (s ++ '"' :: (g ++ t))) ∧ SameText m marker ∧
      '"' ∉ s ∧ '\x7d' ∉ g ∧ KeyLeadsUp key t
  | .keyedObject => ∃ m s g w g' t,
      u = '"' :: (m ++ (s ++ '"' :: (g ++ ':' :: (w ++ '\x7b' :: (g' ++ t))))) ∧
      SameText m marker ∧ '"' ∉ s ∧ ':' ∉ g ∧ (∀ c ∈ w, isWhite c = true) ∧ '\x7d' ∉ g' ∧
      KeyLeadsUp key t
  | .object => ∃ g m g' t, u = '\x7b' :: (g ++ '"' :: (m ++ (g' ++ t))) ∧ '\x7d' ∉ g ∧
      SameText m marker ∧ '\x7d' ∉ g' ∧ KeyLeadsUp key t

/-- What leads up to a flag ends with its key. -/
theorem LeadsUp.keyLeadsUp {scope : FlagScope} {marker key u : List Char}
    (h : scope.LeadsUp marker key u) : ∃ x t, u = x ++ t ∧ KeyLeadsUp key t := by
  cases scope with
  | entry =>
    obtain ⟨m, s, g, t, rfl, -, -, -, ht⟩ := h
    exact ⟨'"' :: (m ++ (s ++ '"' :: g)), t, by simp, ht⟩
  | keyedObject =>
    obtain ⟨m, s, g, w, g', t, rfl, -, -, -, -, -, ht⟩ := h
    exact ⟨'"' :: (m ++ (s ++ '"' :: (g ++ ':' :: (w ++ '\x7b' :: g')))), t, by simp, ht⟩
  | object =>
    obtain ⟨g, m, g', t, rfl, -, -, -, ht⟩ := h
    exact ⟨'\x7b' :: (g ++ '"' :: (m ++ g')), t, by simp, ht⟩

/-- Between `a` and `c` stands the literal `v` of a flag. -/
structure Occurs (scope : FlagScope) (marker key : List Char) (literal : Bool)
    (a v c : List Char) : Prop where
  leadsUp : ∃ l u, a = l ++ u ∧ scope.LeadsUp marker key u
  literal_eq : SameText v (literalText literal).toList
  after : ∀ x ∈ c.head?, isWord x = false

/-! ## The pattern as parts -/

def keyParts (key : List Char) : List Part :=
  textParts true ['"'] ++ textParts true key ++ textParts true ['"'] ++ [blanksPart] ++
    textParts true [':'] ++ [blanksPart]

/-- The parts of the pattern in front of the literal. -/
def parts (scope : FlagScope) (marker key : List Char) : List Part :=
  match scope with
  | .entry => textParts true ['"'] ++ textParts true marker ++ [withoutPart '"' true] ++
      textParts true ['"'] ++ [withoutPart '\x7d' true] ++ keyParts key
  | .keyedObject => textParts true ['"'] ++ textParts true marker ++ [withoutPart '"' true] ++
      textParts true ['"'] ++ [withoutPart ':' true] ++ textParts true [':'] ++ [blanksPart] ++
      textParts true ['\x7b'] ++ [withoutPart '\x7d' true] ++ keyParts key
  | .object => textParts true ['\x7b'] ++ [withoutPart '\x7d' true] ++ textParts true ['"'] ++
      textParts true marker ++ [withoutPart '\x7d' true] ++ keyParts key

/-- The factors of the pattern in front of the literal. -/
def factors (scope : FlagScope) (marker key : List Char) : List Expr :=
  (scope.parts marker key).flatMap Part.factors

/-- The text of the pattern in front of the literal. -/
def lead (scope : FlagScope) (marker : List Char) : List Char :=
  match scope with
  | .entry => ['"'] ++ escaped marker ++ "[^\"]*\"[^\x7d]*".toList
  | .keyedObject => ['"'] ++ escaped marker ++ "[^\"]*\"[^:]*:\\s*\\\x7b[^\x7d]*".toList
  | .object => "\\\x7b[^\x7d]*\"".toList ++ escaped marker ++ "[^\x7d]*".toList

theorem reads_quote : Reads true ['"'] (textParts true ['"']) :=
  reads_plain _ _ (by decide)

theorem reads_colon : Reads true [':'] (textParts true [':']) :=
  reads_plain _ _ (by decide)

theorem reads_brace : Reads true ['\\', '\x7b'] (textParts true ['\x7b']) :=
  reads_escaped _ (by decide)

theorem reads_key (key : List Char) :
    Reads true (['"'] ++ escaped key ++ "\"\\s*:\\s*".toList) (keyParts key) := by
  have h := ((((reads_quote.append (reads_escaped_text _ key) (fresh_escaped key)).append reads_quote
    rfl).append reads_blanks rfl).append reads_colon rfl).append reads_blanks rfl
  simpa [keyParts, textParts] using h

theorem reads_lead (scope : FlagScope) (marker key : List Char) :
    Reads true (scope.lead marker ++ (['"'] ++ escaped key ++ "\"\\s*:\\s*".toList))
      (scope.parts marker key) := by
  have hmarker := reads_escaped_text true marker
  have hfresh := fresh_escaped marker
  have hkey := reads_key key
  cases scope with
  | entry =>
    have h := ((((reads_quote.append hmarker hfresh).append (reads_without _ (x := '"') (by decide))
      rfl).append reads_quote rfl).append (reads_without _ (x := '\x7d') (by decide)) rfl).append
      hkey rfl
    unfold lead parts
    simpa [textParts] using h
  | keyedObject =>
    have h := ((((((((reads_quote.append hmarker hfresh).append (reads_without _ (x := '"') (by decide))
      rfl).append reads_quote rfl).append (reads_without _ (x := ':') (by decide)) rfl).append
      reads_colon rfl).append reads_blanks rfl).append reads_brace rfl).append
      (reads_without _ (x := '\x7d') (by decide)) rfl).append hkey rfl
    unfold lead parts
    simpa [textParts] using h
  | object =>
    have h := ((((reads_brace.append (reads_without _ (x := '\x7d') (by decide)) rfl).append reads_quote
      rfl).append hmarker hfresh).append (reads_without _ (x := '\x7d') (by decide)) rfl).append
      hkey rfl
    unfold lead parts
    simpa [textParts] using h

/-- The literal as parts. -/
def literalParts (literal : Bool) : List Part := textParts true (literalText literal).toList

theorem reads_literal (literal : Bool) :
    Reads true (literalText literal).toList (literalParts literal) := by
  cases literal <;> exact reads_plain _ _ (by decide)

theorem toList_pattern (scope : FlagScope) (marker key : String) (literal : Bool) :
    (scope.pattern marker key literal).toList =
      (scope.lead marker.toList ++
        (['"'] ++ escaped key.toList ++ "\"\\s*:\\s*".toList)) ++ opening ++
        (literalText literal).toList ++ ')' :: ['\\', 'b'] := by
  unfold pattern lead tail opening
  cases scope <;> simp

theorem allPlain_parts (scope : FlagScope) (marker key : List Char) (literal : Bool) :
    AllPlain (scope.parts marker key ++ literalParts literal ++ [edgePart]) := by
  cases scope <;> simp [parts, keyParts, literalParts]

theorem length_parts_le (scope : FlagScope) (marker key : List Char) (literal : Bool) :
    (scope.parts marker key ++ literalParts literal ++ [edgePart]).length ≤
      marker.length + key.length + 20 := by
  have hliteral : (literalText literal).toList.length ≤ 5 := by cases literal <;> decide
  cases scope <;>
    simp only [parts, keyParts, literalParts, textParts, List.length_append, List.length_map,
      List.length_cons, List.length_nil] <;>
    omega

/-- **A flag rule's pattern compiles for every marker and key,** unless they are very long. -/
theorem exists_frames (scope : FlagScope) (marker key : String) (literal : Bool)
    (hlength : marker.toList.length + key.toList.length ≤ 1900) :
    ∃ p : ValuePattern,
      (∀ rule, (ValuePattern.compile rule (scope.pattern marker key literal) true).Gives p) ∧
      p.Frames (scope.factors marker.toList key.toList)
        (.chain (text true (literalText literal).toList)) [edge] := by
  have hparts := length_parts_le scope marker.toList key.toList literal
  have h := ValuePattern.exists_frames _ (toList_pattern scope marker key literal)
    (reads_lead scope marker.toList key.toList) (reads_literal literal) reads_edge
    (allPlain_parts scope marker.toList key.toList literal) (by omega)
  rwa [literalParts, factors_textParts] at h

/-- **A flag rule's pattern frames its values for every marker and key,** if it compiles. -/
theorem frames_of_compile {scope : FlagScope} {marker key : String} {literal : Bool} {p : ValuePattern}
    (hp : Pattern.compile (scope.pattern marker key literal) true = .ok p.pattern)
    (hgroup : p.pattern.captureNamed valueGroup = some p.group) :
    p.Frames (scope.factors marker.toList key.toList)
      (.chain (text true (literalText literal).toList)) [edge] := by
  have h := ValuePattern.frames_of_compile (toList_pattern scope marker key literal)
    (reads_lead scope marker.toList key.toList) (reads_literal literal) reads_edge
    (allPlain_parts scope marker.toList key.toList literal) hp hgroup
  rwa [literalParts, factors_textParts] at h

/-! ## What the pattern spells -/

variable {l u r : List Char}

theorem factors_keyParts (key : List Char) :
    (keyParts key).flatMap Part.factors = text true ['"'] ++ (text true key ++
      (text true ['"'] ++ ([blanks] ++ (text true [':'] ++ [blanks])))) := by
  simp [keyParts]

theorem factors_entry (marker key : List Char) :
    factors .entry marker key = text true ['"'] ++ (text true marker ++
      ([without '"' true] ++ (text true ['"'] ++ ([without '\x7d' true] ++
        (keyParts key).flatMap Part.factors)))) := by
  simp [factors, parts]

theorem factors_keyedObject (marker key : List Char) :
    factors .keyedObject marker key = text true ['"'] ++ (text true marker ++
      ([without '"' true] ++ (text true ['"'] ++ ([without ':' true] ++ (text true [':'] ++
        ([blanks] ++ (text true ['\x7b'] ++ ([without '\x7d' true] ++
          (keyParts key).flatMap Part.factors)))))))) := by
  simp [factors, parts]

theorem factors_object (marker key : List Char) :
    factors .object marker key = text true ['\x7b'] ++ ([without '\x7d' true] ++
      (text true ['"'] ++ (text true marker ++ ([without '\x7d' true] ++
        (keyParts key).flatMap Part.factors)))) := by
  simp [factors, parts]

theorem spells_key {key : List Char} :
    (chain ((keyParts key).flatMap Part.factors)).Spells l u r ↔ KeyLeadsUp key u := by
  rw [factors_keyParts, spells_punctuation_cons (by decide)]
  simp only [spells_text_folded, spells_punctuation_cons (show '"' ∈ punctuation by decide),
    spells_punctuation_cons (show ':' ∈ punctuation by decide), spells_chain_append,
    spells_chain_singleton, spells_blanks, KeyLeadsUp]
  constructor
  · rintro ⟨v, rfl, k, x, rfl, hk, y, rfl, w, z, rfl, hw, w', rfl, hw'⟩
    exact ⟨k, w, w', rfl, hk, hw, hw'⟩
  · rintro ⟨k, w, w', rfl, hk, hw, hw'⟩
    exact ⟨_, rfl, k, _, rfl, hk, _, rfl, w, _, rfl, hw, w', rfl, hw'⟩

/-- **The factors in front of the literal spell what leads up to it.** -/
theorem spells_factors {scope : FlagScope} {marker key : List Char} :
    (chain (scope.factors marker key)).Spells l u r ↔ scope.LeadsUp marker key u := by
  cases scope with
  | entry =>
    rw [factors_entry, spells_punctuation_cons (by decide)]
    simp only [spells_text_folded, spells_punctuation_cons (show '"' ∈ punctuation by decide),
      spells_chain_append, spells_chain_singleton, spells_without, spells_key, LeadsUp]
    constructor
    · rintro ⟨v, rfl, m, x, rfl, hm, s, y, rfl, hs, z, rfl, g, t, rfl, hg, ht⟩
      exact ⟨m, s, g, t, rfl, hm, hs, hg, ht⟩
    · rintro ⟨m, s, g, t, rfl, hm, hs, hg, ht⟩
      exact ⟨_, rfl, m, _, rfl, hm, s, _, rfl, hs, _, rfl, g, t, rfl, hg, ht⟩
  | keyedObject =>
    rw [factors_keyedObject, spells_punctuation_cons (by decide)]
    simp only [spells_text_folded, spells_punctuation_cons (show '"' ∈ punctuation by decide),
      spells_punctuation_cons (show ':' ∈ punctuation by decide),
      spells_punctuation_cons (show '\x7b' ∈ punctuation by decide),
      spells_chain_append, spells_chain_singleton, spells_without, spells_blanks, spells_key, LeadsUp]
    constructor
    · rintro ⟨v, rfl, m, x, rfl, hm, s, y, rfl, hs, z, rfl, g, t, rfl, hg, t', rfl, w, t'', rfl, hw,
        t₃, rfl, g', t₄, rfl, hg', ht⟩
      exact ⟨m, s, g, w, g', t₄, rfl, hm, hs, hg, hw, hg', ht⟩
    · rintro ⟨m, s, g, w, g', t, rfl, hm, hs, hg, hw, hg', ht⟩
      exact ⟨_, rfl, m, _, rfl, hm, s, _, rfl, hs, _, rfl, g, _, rfl, hg, _, rfl, w, _, rfl, hw, _,
        rfl, g', t, rfl, hg', ht⟩
  | object =>
    rw [factors_object, spells_punctuation_cons (by decide)]
    simp only [spells_text_folded, spells_punctuation_cons (show '"' ∈ punctuation by decide),
      spells_chain_append, spells_chain_singleton, spells_without, spells_key, LeadsUp]
    constructor
    · rintro ⟨v, rfl, g, x, rfl, hg, y, rfl, m, z, rfl, hm, g', t, rfl, hg', ht⟩
      exact ⟨g, m, g', t, rfl, hg, hm, hg', ht⟩
    · rintro ⟨g, m, g', t, rfl, hg, hm, hg', ht⟩
      exact ⟨_, rfl, g, _, rfl, hg, _, rfl, m, _, rfl, hm, g', t, rfl, hg', ht⟩

/-- The letters of a boolean literal. -/
theorem literalText_letters (literal : Bool) :
    (literalText literal).toList ≠ [] ∧ (literalText literal).toList ⊆ letters := by
  cases literal <;> decide

/-- **A flag is found exactly where it stands.** -/
theorem framed_iff_occurs {scope : FlagScope} {marker key : List Char} {literal : Bool}
    {a v c : List Char} :
    ValuePattern.Framed (scope.factors marker key)
        (.chain (text true (literalText literal).toList)) [edge] a v c ↔
      scope.Occurs marker key literal a v c := by
  obtain ⟨hne, hletters⟩ := literalText_letters literal
  rw [ValuePattern.framed_literal_iff (fun _ _ _ => spells_factors) hne hletters]
  exact ⟨fun ⟨h, hv, hc⟩ => ⟨h, hv, hc⟩, fun h => ⟨h.leadsUp, h.literal_eq, h.after⟩⟩

end FlagScope
end LiteralPatch
