import LiteralPatch.Proofs.Rule.FlagShape
import LiteralPatch.Profile

/-!
# The patterns of the built-in value rules

Besides flags, a built-in profile has rules for the token limit, for the thinking level, and for what a
condition on a word returns.  Here their patterns are read, once, as expressions around the value; the
gates are one family with the word and the literal as parameters.
-/

namespace LiteralPatch

namespace Pattern

open Unicode

namespace Expr

variable {l w r : List Char} {s : CharSet} {greedy : Bool}

theorem spells_times_set {n : Nat} {tail : Expr} : (times n (.set s) tail).Spells l w r ↔
    ∃ u v, w = u ++ v ∧ u.length = n ∧ (∀ c ∈ u, s.has c = true) ∧ tail.Spells (l ++ u) v r := by
  induction n generalizing l w with
  | zero =>
    constructor
    · intro h
      exact ⟨[], w, rfl, rfl, by simp, by rwa [List.append_nil]⟩
    · rintro ⟨u, v, rfl, hu, -, h⟩
      obtain rfl := List.eq_nil_of_length_eq_zero hu
      rwa [List.append_nil] at h
  | succ n ih =>
    rw [times, spells_seq]
    constructor
    · rintro ⟨x, y, rfl, hx, hy⟩
      obtain ⟨c, rfl, hc⟩ := spells_set.1 hx
      obtain ⟨u, v, rfl, rfl, hu, hv⟩ := ih.1 hy
      exact ⟨c :: u, v, rfl, rfl, by simpa [hc] using hu, by simpa using hv⟩
    · rintro ⟨u, v, rfl, hlength, hu, hv⟩
      cases u with
      | nil => cases hlength
      | cons c u =>
        have hc := hu c List.mem_cons_self
        refine ⟨[c], u ++ v, rfl, .set hc, ih.2 ⟨u, v, rfl, by simpa using hlength, ?_, ?_⟩⟩
        · exact fun d hd => hu d (List.mem_cons_of_mem c hd)
        · simpa using hv

theorem spells_atMost_set {n : Nat} : (atMost greedy (.set s) n).Spells l w r ↔
    w.length ≤ n + 1 ∧ ∀ c ∈ w, s.has c = true := by
  induction n generalizing l w with
  | zero =>
    rw [atMost, spells_opt, spells_set]
    constructor
    · rintro (rfl | ⟨c, rfl, hc⟩)
      · simp
      · simpa using hc
    · rintro ⟨hlength, hw⟩
      match w, hlength with
      | [], _ => exact .inl rfl
      | [c], _ => exact .inr ⟨c, rfl, hw c List.mem_cons_self⟩
  | succ n ih =>
    rw [atMost, spells_opt, spells_seq]
    constructor
    · rintro (rfl | ⟨u, v, rfl, hu, hv⟩)
      · simp
      · obtain ⟨c, rfl, hc⟩ := spells_set.1 hu
        obtain ⟨hlength, hv⟩ := ih.1 hv
        exact ⟨by simpa using hlength, by simpa [hc] using hv⟩
    · rintro ⟨hlength, hw⟩
      cases w with
      | nil => exact .inl rfl
      | cons c w =>
        refine .inr ⟨[c], w, rfl, .set (hw c List.mem_cons_self), ih.2 ⟨?_, ?_⟩⟩
        · simpa using hlength
        · exact fun d hd => hw d (List.mem_cons_of_mem c hd)

theorem chain_singleton (e : Expr) : chain [e] = e := rfl

/-- Three to six digits. -/
def digits : Expr := repeated 3 (some 6) true (.set digit)

theorem spells_digits : digits.Spells l w r ↔
    (3 ≤ w.length ∧ w.length ≤ 6) ∧ ∀ c ∈ w, digit.has c = true := by
  show (times 3 (.set digit) (atMost true (.set digit) 2)).Spells l w r ↔ _
  simp only [spells_times_set, spells_atMost_set]
  constructor
  · rintro ⟨u, v, rfl, hu, hdu, hv, hdv⟩
    rw [List.length_append]
    refine ⟨⟨by omega, by omega⟩, fun c hc => ?_⟩
    rcases List.mem_append.1 hc with hc | hc
    · exact hdu c hc
    · exact hdv c hc
  · rintro ⟨⟨hmin, hmax⟩, hw⟩
    refine ⟨w.take 3, w.drop 3, (List.take_append_drop 3 w).symm, ?_, ?_, ?_, ?_⟩
    · rw [List.length_take]
      omega
    · exact fun c hc => hw c (List.mem_of_mem_take hc)
    · rw [List.length_drop]
      omega
    · exact fun c hc => hw c (List.mem_of_mem_drop hc)

/-- A thinking level. -/
def level : Expr := .set ⟨[(0x30, 0x32)]⟩

/-- The end of a statement. -/
def stop : Expr := .set ⟨[(0x3B, 0x3B), (0x7D, 0x7D)]⟩

end Expr

namespace Reader

variable {ic : Bool}

def digitsPart : Part :=
  .item [Expr.digits] 1 (Part.repeatedWeight 3 (some 6) (Part.setWeight digit))

def levelPart : Part := .ofSet ⟨[(0x30, 0x32)]⟩ 2

def stopPart : Part := .ofSet ⟨[(0x3B, 0x3B), (0x7D, 0x7D)]⟩ 2

@[simp] theorem factors_digitsPart : digitsPart.factors = [Expr.digits] := rfl

@[simp] theorem factors_levelPart : levelPart.factors = [Expr.level] := rfl

@[simp] theorem factors_stopPart : stopPart.factors = [Expr.stop] := rfl

@[simp] theorem plain_digitsPart : Plain digitsPart :=
  ⟨by decide, by decide, by decide, by decide⟩

@[simp] theorem plain_levelPart : Plain levelPart :=
  ⟨by decide, by decide, by decide, by decide⟩

@[simp] theorem plain_stopPart : Plain stopPart :=
  ⟨by decide, by decide, by decide, by decide⟩

theorem reads_digits : Reads ic ['\\', 'd', '\x7b', '3', ',', '6', '\x7d'] [digitsPart] := by
  refine ⟨2, by decide, fun n r rest hr hrest => ?_⟩
  have hdigit : r.step '\\' ('d' :: '\x7b' :: '3' :: ',' :: '6' :: '\x7d' :: rest) =
      .ok (r.pushAll [.ofSet digit 0], '\x7b' :: '3' :: ',' :: '6' :: '\x7d' :: rest) := by
    rw [step, hr]
    cases ic <;> rfl
  have hrepeat : (r.pushAll [.ofSet digit 0]).repeatLast 3 (some 6) true =
      .ok (r.pushAll [digitsPart]) := by
    obtain ⟨flags, branches, parts, groups, captures, names⟩ := r
    obtain rfl : flags = initialFlags ic := hr
    cases ic <;> rfl
  have hcount : (r.pushAll [.ofSet digit 0]).step '\x7b' ('3' :: ',' :: '6' :: '\x7d' :: rest) =
      .ok (r.pushAll [digitsPart], rest) := by
    have hverbose : r.flags.verbose = false := by rw [hr]; rfl
    show (readBounds r.flags.verbose ('3' :: ',' :: '6' :: '\x7d' :: rest)).bind (fun q =>
      ((r.pushAll [.ofSet digit 0]).repeatLast q.1.1 q.1.2
        (readLazy (skip r.flags.verbose q.2)).1).bind fun r' =>
          .ok (r', (readLazy (skip r.flags.verbose q.2)).2)) = _
    rw [hverbose]
    show ((r.pushAll [.ofSet digit 0]).repeatLast 3 (some 6) (readLazy rest).1).bind
      (fun r' => .ok (r', (readLazy rest).2)) = _
    rw [readLazy_of_fresh hrest, hrepeat]
    rfl
  exact (run_succ hr hdigit (n + 1)).trans
    (run_succ (r := r.pushAll [.ofSet digit 0]) hr hcount n)

theorem reads_level : Reads false ['[', '0', '1', '2', ']'] [levelPart] := by
  refine reads_of_step fun r rest hr _ => ?_
  rw [step, hr]
  rfl

theorem reads_stop : Reads false ['[', ';', '\x7d', ']'] [stopPart] := by
  refine reads_of_step fun r rest hr _ => ?_
  rw [step, hr]
  rfl

end Reader
end Pattern

namespace Profile

open Pattern Pattern.Reader Pattern.Expr

/-! ## The token limit -/

/-- The expressions in front of the token limit. -/
def limitLead : List Expr :=
  text false "async getEffectiveTokenLimit".toList ++ text false ['('] ++ [without ')' true] ++ text false [')'] ++
    [blanks] ++ text false ['\x7b'] ++ [without '\x7d' false] ++ text false "if".toList ++ [blanks] ++
    text false ['('] ++ [without ')' true] ++ text false [')'] ++ [blanks] ++ text false ['\x7b'] ++
    [without '\x7d' false] ++ text false "return".toList ++ [without '\x7d' false] ++ [edge]

/-- The expressions behind the token limit. -/
def limitTrail : List Expr :=
  [edge] ++ [without '\x7d' false] ++ text false ['\x7d'] ++ [without '\x7d' false] ++
    text false ['\x7d']

/-- The text of the pattern for the token limit. -/
def limitPattern : String :=
  "async getEffectiveTokenLimit\\([^)]*\\)\\s*\\\x7b[^\x7d]*?if\\s*\\([^)]*\\)\\s*\\\x7b[^\x7d]*?" ++
    "return[^\x7d]*?\\b(?P<value>\\d\x7b3,6\x7d)\\b[^\x7d]*?\\\x7d[^\x7d]*?\\\x7d"

theorem exists_frames_limit : ∃ p : ValuePattern,
    (∀ rule, (ValuePattern.compile rule limitPattern false).Gives p) ∧
      p.Frames limitLead digits limitTrail := by
  have hname := reads_plain false "async getEffectiveTokenLimit".toList (by decide)
  have hopen := reads_escaped false (c := '(') (by decide)
  have hclose := reads_escaped false (c := ')') (by decide)
  have hbrace := reads_escaped false (c := '\x7b') (by decide)
  have hend := reads_escaped false (c := '\x7d') (by decide)
  have hif := reads_plain false "if".toList (by decide)
  have hreturn := reads_plain false "return".toList (by decide)
  have hinside := reads_without false (x := ')') (by decide)
  have hgap := reads_without_lazy false (x := '\x7d') (by decide)
  have hlead := ((((((((((((((((hname.append hopen rfl).append hinside rfl).append hclose rfl).append
    reads_blanks rfl).append hbrace rfl).append hgap rfl).append hif rfl).append reads_blanks rfl).append
    hopen rfl).append hinside rfl).append hclose rfl).append reads_blanks rfl).append hbrace rfl).append
    hgap rfl).append hreturn rfl).append hgap rfl).append reads_edge rfl
  have htrail := (((reads_edge.append hgap rfl).append hend rfl).append hgap rfl).append hend rfl
  have h := ValuePattern.exists_frames limitPattern (by unfold limitPattern opening; simp)
    hlead reads_digits htrail (by simp) (by simp [textParts])
  simpa [limitLead, limitTrail, chain_singleton] using h

/-- The expressions in front of a number that is returned. -/
def returnLead : List Expr := [edge] ++ text false "return".toList ++ [someBlanks]

/-- The expressions behind a number that ends a statement. -/
def returnTrail : List Expr := [blanks] ++ [stop]

/-- The text of the fallback pattern for the token limit. -/
def returnPattern : String := "\\breturn\\s+(?P<value>\\d\x7b3,6\x7d)\\s*[;\x7d]"

theorem exists_frames_return : ∃ p : ValuePattern,
    (∀ rule, (ValuePattern.compile rule returnPattern false).Gives p) ∧
      p.Frames returnLead digits returnTrail := by
  have hreturn := reads_plain false "return".toList (by decide)
  have hlead := (reads_edge.append hreturn rfl).append reads_someBlanks rfl
  have htrail := reads_blanks.append reads_stop rfl
  have h := ValuePattern.exists_frames returnPattern
    (by unfold returnPattern opening; simp) hlead reads_digits htrail
    (by simp) (by simp [textParts])
  simpa [returnLead, returnTrail, chain_singleton] using h

/-! ## The thinking level -/

/-- The expressions in front of the thinking level. -/
def levelLead : List Expr :=
  text false "getModeThinkingLevel".toList ++ text false ['('] ++ [without ')' true] ++
    text false [')'] ++ [blanks] ++ text false ['\x7b'] ++ [without '\x7d' false] ++
    text false "return".toList ++ [without '\x7d' false] ++ [edge]

/-- The expressions behind the thinking level. -/
def levelTrail : List Expr := [edge] ++ [without '\x7d' false] ++ text false ['\x7d']

/-- The text of the pattern for the thinking level. -/
def levelPattern : String :=
  "getModeThinkingLevel\\([^)]*\\)\\s*\\\x7b[^\x7d]*?" ++
    "return[^\x7d]*?\\b(?P<value>[012])\\b[^\x7d]*?\\\x7d"

theorem exists_frames_level : ∃ p : ValuePattern,
    (∀ rule, (ValuePattern.compile rule levelPattern false).Gives p) ∧
      p.Frames levelLead level levelTrail := by
  have hname := reads_plain false "getModeThinkingLevel".toList (by decide)
  have hopen := reads_escaped false (c := '(') (by decide)
  have hclose := reads_escaped false (c := ')') (by decide)
  have hbrace := reads_escaped false (c := '\x7b') (by decide)
  have hend := reads_escaped false (c := '\x7d') (by decide)
  have hreturn := reads_plain false "return".toList (by decide)
  have hinside := reads_without false (x := ')') (by decide)
  have hgap := reads_without_lazy false (x := '\x7d') (by decide)
  have hlead := ((((((((hname.append hopen rfl).append hinside rfl).append hclose rfl).append
    reads_blanks rfl).append hbrace rfl).append hgap rfl).append hreturn rfl).append hgap rfl).append
    reads_edge rfl
  have htrail := (reads_edge.append hgap rfl).append hend rfl
  have h := ValuePattern.exists_frames levelPattern (by unfold levelPattern opening; simp)
    hlead reads_level htrail (by simp) (by simp [textParts])
  simpa [levelLead, levelTrail, chain_singleton] using h

/-! ## Gates -/

/-- The parts in front of what a condition on the word returns. -/
def gateParts (word : List Char) : List Part :=
  textParts true "if".toList ++ [blanksPart] ++ textParts true ['('] ++ [withoutPart ')' true] ++
    textParts true word ++ [withoutPart ')' true] ++ textParts true [')'] ++
    [withoutPart '\x7b' true] ++ textParts true ['\x7b'] ++ [withoutPart '\x7d' false] ++
    textParts true "return".toList ++ [someBlanksPart]

/-- The expressions in front of what a condition on the word returns. -/
def gateLead (word : List Char) : List Expr := (gateParts word).flatMap Part.factors

/-- The text in front of what a condition on the word returns, up to case. -/
def GateLeadsUp (word : List Char) (u : List Char) : Prop :=
  ∃ k w g x g' h h' t b, u = k ++ (w ++ '(' :: (g ++ (x ++ (g' ++ ')' :: (h ++ '\x7b' ::
    (h' ++ (t ++ b))))))) ∧ Unicode.SameText k "if".toList ∧ (∀ c ∈ w, Unicode.isWhite c = true) ∧
    ')' ∉ g ∧ Unicode.SameText x word ∧ ')' ∉ g' ∧ '\x7b' ∉ h ∧ '\x7d' ∉ h' ∧
    Unicode.SameText t "return".toList ∧ b ≠ [] ∧ ∀ c ∈ b, Unicode.isWhite c = true

theorem spells_gateLead {word l u r : List Char} :
    (chain (gateLead word)).Spells l u r ↔ GateLeadsUp word u := by
  have hfactors : gateLead word = text true "if".toList ++ ([blanks] ++ (text true ['('] ++
      ([without ')' true] ++ (text true word ++ ([without ')' true] ++ (text true [')'] ++
        ([without '\x7b' true] ++ (text true ['\x7b'] ++ ([without '\x7d' false] ++
          (text true "return".toList ++ [someBlanks])))))))))) := by
    simp [gateLead, gateParts]
  rw [hfactors]
  simp only [spells_text_folded, spells_punctuation_cons (show '(' ∈ Unicode.punctuation by decide),
    spells_punctuation_cons (show ')' ∈ Unicode.punctuation by decide),
    spells_punctuation_cons (show '\x7b' ∈ Unicode.punctuation by decide), spells_chain_append,
    spells_chain_singleton, spells_without, spells_blanks, spells_someBlanks, GateLeadsUp]
  constructor
  · rintro ⟨k, _, rfl, hk, w, _, rfl, hw, _, rfl, g, _, rfl, hg, x, _, rfl, hx, g', _, rfl, hg', _, rfl,
      h, _, rfl, hh, _, rfl, h', _, rfl, hh', t, b, rfl, ht, hb⟩
    exact ⟨k, w, g, x, g', h, h', t, b, rfl, hk, hw, hg, hx, hg', hh, hh', ht, hb⟩
  · rintro ⟨k, w, g, x, g', h, h', t, b, rfl, hk, hw, hg, hx, hg', hh, hh', ht, hb⟩
    exact ⟨k, _, rfl, hk, w, _, rfl, hw, _, rfl, g, _, rfl, hg, x, _, rfl, hx, g', _, rfl, hg', _, rfl,
      h, _, rfl, hh, _, rfl, h', _, rfl, hh', t, b, rfl, ht, hb⟩

/-- Between `a` and `c` stands the literal `v` that a condition on the word returns. -/
structure Gated (word literal : List Char) (a v c : List Char) : Prop where
  leadsUp : ∃ l u, a = l ++ u ∧ GateLeadsUp word u
  literal_eq : Unicode.SameText v literal
  after : ∀ x ∈ c.head?, Unicode.isWord x = false

/-- **A gate is found exactly where it stands.** -/
theorem framed_iff_gated {word literal : List Char} (hne : literal ≠ [])
    (hletters : literal ⊆ Unicode.letters) {a v c : List Char} :
    ValuePattern.Framed (gateLead word) (.chain (text true literal)) [edge] a v c ↔
      Gated word literal a v c := by
  rw [ValuePattern.framed_literal_iff (fun _ _ _ => spells_gateLead) hne hletters]
  exact ⟨fun ⟨h, hv, hc⟩ => ⟨h, hv, hc⟩, fun h => ⟨h.leadsUp, h.literal_eq, h.after⟩⟩

/-- **A gate's pattern compiles,** for a word and a literal without special characters. -/
theorem exists_frames_gate {word literal : String} (hword : ∀ c ∈ word.toList, c ∉ metaCharacters)
    (hliteral : ∀ c ∈ literal.toList, c ∉ metaCharacters)
    (hlength : word.toList.length + literal.toList.length ≤ 1900) :
    ∃ p : ValuePattern,
      (∀ rule, (ValuePattern.compile rule (gatePattern word literal) true).Gives p) ∧
      p.Frames (gateLead word.toList) (.chain (text true literal.toList)) [edge] := by
  have hif := reads_plain true "if".toList (by decide)
  have hopen := reads_escaped true (c := '(') (by decide)
  have hinside := reads_without true (x := ')') (by decide)
  have hclose := reads_escaped true (c := ')') (by decide)
  have hover := reads_without true (x := '\x7b') (by decide)
  have hbrace := reads_escaped true (c := '\x7b') (by decide)
  have hgap := reads_without_lazy true (x := '\x7d') (by decide)
  have hreturn := reads_plain true "return".toList (by decide)
  have hfresh : fresh word.toList = true := by
    cases hcs : word.toList with
    | nil => rfl
    | cons c cs =>
      have hc := hword c (by rw [hcs]; exact List.mem_cons_self)
      unfold fresh
      split <;> simp_all [metaCharacters]
  have hlead := ((((((((((hif.append reads_blanks rfl).append hopen rfl).append hinside rfl).append
    (reads_plain _ _ hword) hfresh).append hinside rfl).append hclose rfl).append hover rfl).append hbrace
    rfl).append hgap rfl).append hreturn rfl).append reads_someBlanks rfl
  have hplain : AllPlain (gateParts word.toList ++ textParts true literal.toList ++ [edgePart]) := by
    simp [gateParts]
  have hparts : (gateParts word.toList ++ textParts true literal.toList ++ [edgePart]).length ≤
      word.toList.length + literal.toList.length + 20 := by
    simp [gateParts, textParts]
    omega
  have h := ValuePattern.exists_frames (gatePattern word literal)
    (by unfold gatePattern opening; simp) hlead (reads_plain _ _ hliteral) reads_edge hplain (Nat.le_trans hparts (by omega))
  rwa [factors_textParts] at h

end Profile
end LiteralPatch
