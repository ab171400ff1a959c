import LiteralPatch.Proofs.Pattern.Numbering
import LiteralPatch.Proofs.Rule.Applied
import LiteralPatch.Proofs.Rule.Successive

/-!
# Captures are in order, apart and in place

Everything that rules do with captures rests on where these stand: that a value is the text at its span, that
its match encloses it, and that no match reaches into the next.  This holds of every pattern that is accepted,
in either case mode (`ValuePattern.findValues_orderly`).

Nothing is assumed about the form of the pattern.  Matches may be empty, but no two of them are the same; a
group may be passed in several rounds, and one round counts; and a match is left out only if the group took
no part in it, never because its offsets would not fit the text.
-/

namespace LiteralPatch

open Pattern Cursor

namespace ValuePattern

/-- The captures are in place: each value is the text at its span, within its match, and the matches stand one
behind the other. -/
structure Orderly (text : String) (found : List ValueCapture) : Prop where
  whole_fits : ∀ v ∈ found, v.whole.fits text.toList = true
  span_fits : ∀ v ∈ found, v.span.fits text.toList = true
  within : ∀ v ∈ found, v.whole.start ≤ v.span.start ∧ v.span.start ≤ v.span.stop ∧
    v.span.stop ≤ v.whole.stop
  value_eq : ∀ v ∈ found, v.span.slice? text.toList = some v.value.toList
  /-- No match reaches into a later one, and no two are at one place. -/
  wholes : found.Pairwise fun v w => v.whole.stop ≤ w.whole.start ∧ v.whole ≠ w.whole
  spans : found.Pairwise fun v w => v.span.start ≤ w.span.start ∧ v.span.stop ≤ w.span.start

variable {p : ValuePattern} {e : Expr}

/-- A group that is marked in a match is captured. -/
theorem captureOf_parts {marks : List Mark} {l a b c x : List Char}
    (hwhole : Program.group? marks 0 = some (Text.width l, Text.width (l ++ (a ++ b ++ c))))
    (hgroup : Program.group? marks p.group = some (Text.width (l ++ a), Text.width (l ++ a ++ b))) :
    p.captureOf (l ++ (a ++ b ++ c ++ x)) marks =
      some ⟨⟨Text.width l, Text.width (l ++ (a ++ b ++ c))⟩,
        ⟨Text.width (l ++ a), Text.width (l ++ a ++ b)⟩, String.ofList b⟩ := by
  have hslice : Text.slice? (l ++ (a ++ b ++ c ++ x)) (Text.width (l ++ a)) (Text.width (l ++ a ++ b)) =
      some b :=
    Text.slice?_eq_some_iff.2 ⟨l ++ a, c ++ x, by simp, rfl, (Text.width_append _ _).symm⟩
  rw [captureOf, hwhole, hgroup]
  simp only [Option.bind_eq_bind, Option.bind_some, hslice]
  rfl

/-- **The capture of a match,** if the group took part: a part of the match, at the place of the match. -/
theorem captureOf_cases (hzero : 0 ∉ e.captures) (hgroup : p.group ≠ 0) {text : List Char}
    {last : Option Nat} {marks : List Mark} (h : Lies e [] text last marks) :
    (Program.group? marks p.group = none ∧ p.captureOf text marks = none) ∨
      ∃ l a b c x, text = l ++ (a ++ b ++ c ++ x) ∧
        p.captureOf text marks = some ⟨⟨Text.width l, Text.width (l ++ (a ++ b ++ c))⟩,
          ⟨Text.width (l ++ a), Text.width (l ++ a ++ b)⟩, String.ofList b⟩ := by
  obtain ⟨g, w, x, rfl, hmatch, -⟩ := h
  obtain ⟨w', r, heq, -, hwhole, hgroups⟩ := groups_of_matchAt hzero hmatch
  have hwhole' := group?_zero hzero hmatch
  rw [List.nil_append] at *
  rcases hgroups p.group hgroup with hnone | ⟨a, b, c, rfl, hsome⟩
  · refine .inl ⟨hnone, ?_⟩
    rw [captureOf, hwhole, hnone]
    rfl
  · obtain rfl : w = a ++ b ++ c := by
      rw [hwhole] at hwhole'
      have hwidth := congrArg Prod.snd (Option.some.inj hwhole')
      simp only [Text.width_append g] at hwidth
      exact (Text.append_inj_of_width heq (by omega)).1
    exact .inr ⟨g, a, b, c, x, by simp, by
      rw [List.append_assoc g]
      exact captureOf_parts hwhole hsome⟩

/-- The captures of matches that lie one behind the other are in place. -/
theorem orderly_of_laid (hzero : 0 ∉ e.captures) (hgroup : p.group ≠ 0) {text : String}
    {ms : List (List Mark)} (hlies : ∀ m ∈ ms, Lies e [] text.toList none m) (hbehind : ms.Pairwise Behind) :
    Orderly text (ms.filterMap (p.captureOf text.toList)) := by
  have hplace : ∀ v ∈ ms.filterMap (p.captureOf text.toList), ∃ l a b c x,
      text.toList = l ++ (a ++ b ++ c ++ x) ∧ v = ⟨⟨Text.width l, Text.width (l ++ (a ++ b ++ c))⟩,
        ⟨Text.width (l ++ a), Text.width (l ++ a ++ b)⟩, String.ofList b⟩ := by
    intro v hv
    obtain ⟨m, hm, hcapture⟩ := List.mem_filterMap.1 hv
    rcases captureOf_cases hzero hgroup (hlies m hm) with ⟨-, hnone⟩ | ⟨l, a, b, c, x, htext, hsome⟩
    · cases hnone.symm.trans hcapture
    · exact ⟨l, a, b, c, x, htext, (Option.some.inj (hsome.symm.trans hcapture)).symm⟩
  have hwithin : ∀ v ∈ ms.filterMap (p.captureOf text.toList), v.whole.start ≤ v.span.start ∧
      v.span.start ≤ v.span.stop ∧ v.span.stop ≤ v.whole.stop := by
    intro v hv
    obtain ⟨l, a, b, c, x, -, rfl⟩ := hplace v hv
    simp only [Text.width_append]
    omega
  have hwholes : (ms.filterMap (p.captureOf text.toList)).Pairwise fun v w =>
      v.whole.stop ≤ w.whole.start ∧ v.whole.stop < w.whole.stop := by
    refine hbehind.filterMap _ fun m m' hmm' v hv w hw => ?_
    exact hmm' _ _ _ _ (captureOf_eq_some hv).1 (captureOf_eq_some hw).1
  constructor
  case whole_fits =>
    intro v hv
    obtain ⟨l, a, b, c, x, htext, rfl⟩ := hplace v hv
    exact Span.fits_iff.2 ⟨l, a ++ b ++ c, x, by simp [htext], rfl⟩
  case span_fits =>
    intro v hv
    obtain ⟨l, a, b, c, x, htext, rfl⟩ := hplace v hv
    exact Span.fits_iff.2 ⟨l ++ a, b, c ++ x, by simp [htext], rfl⟩
  case within => exact hwithin
  case value_eq =>
    intro v hv
    obtain ⟨l, a, b, c, x, htext, rfl⟩ := hplace v hv
    have hparts := Span.slice?_parts (l ++ a) b (c ++ x)
    rw [String.toList_ofList, htext]
    simpa using hparts
  case wholes =>
    refine hwholes.imp fun {v w} ⟨hapart, hlt⟩ => ⟨hapart, fun heq => ?_⟩
    rw [heq] at hlt
    exact Nat.lt_irrefl _ hlt
  case spans =>
    refine hwholes.imp_of_mem fun {v w} hv hw ⟨hapart, _⟩ => ?_
    have hfirst := hwithin v hv
    have hlater := hwithin w hw
    omega

/-- A pattern that is accepted comes from an expression whose captures are numbered from one. -/
theorem Of.exists_numbered {source : String} {ic : Bool} (h : Of source ic p) :
    ∃ e, p.pattern.program = Program.ofExpr e ∧ 0 ∉ e.captures ∧ p.group ≠ 0 := by
  have hcompile := h.compile_eq
  rw [Pattern.compile] at hcompile
  obtain ⟨read, hread, hcompile⟩ := bind_eq_ok_iff.1 hcompile
  have hpattern := Except.ok.inj hcompile
  obtain ⟨hzero, hnames⟩ := zero_notMem_captures hread
  refine ⟨read.expr, by rw [← hpattern], hzero, ?_⟩
  have hgroup := h.group_eq
  rw [← hpattern, Pattern.captureNamed] at hgroup
  obtain ⟨before, after, heq, -⟩ := List.lookup_eq_some_iff.1 hgroup
  have heq : read.names = before ++ (valueGroup.toList, p.group) :: after := heq
  exact hnames (valueGroup.toList, p.group) (by simp [heq])

/-- **Every pattern that is accepted finds captures in order, apart and in place,** in either case mode and in
every text.  Every match in which the group took part gives a capture, and the search goes through the whole
text. -/
theorem findValues_orderly {rule source : String} {ignoreCase : Bool} {c : PatternCache}
    (h : ((ExceptT.run (compile rule source ignoreCase)).run c).1 = .ok p) (text : String) :
    Orderly text (p.findValues text) ∧
      (∀ marks ∈ p.pattern.program.findAll text.toList, p.captureOf text.toList marks = none ↔
        Program.group? marks p.group = none) ∧
      p.pattern.program.Exhausts text.toList := by
  obtain ⟨e, hp, hzero, hgroup⟩ := (compile_ensures rule source ignoreCase c p h).exists_numbered
  obtain ⟨hlies, hbehind⟩ := (Program.findAll_successive hzero text.toList).laid hzero rfl
  rw [findValues, hp]
  refine ⟨orderly_of_laid hzero hgroup hlies hbehind, fun marks hmarks => ?_, ?_⟩
  · rcases captureOf_cases hzero hgroup (hlies marks hmarks) with
      ⟨hnone, hcapture⟩ | ⟨l, a, b, c, x, -, hcapture⟩
    · exact iff_of_true hcapture hnone
    · rw [hcapture]
      exact iff_of_false (by simp) (by rw [(captureOf_eq_some hcapture).2.1]; simp)
  · exact Program.findAll_exhausts hzero text.toList

/-- Rounds of a loop that end with one that captures nothing, and empty matches between characters of several
bytes. -/
theorem findValues_orderly_rounds :
    ∃ p, ((ExceptT.run (compile "rounds" "(?:(?P<value>[0-9]*)|b)+|x" false)).run PatternCache.empty).1 =
        .ok p ∧
      p.findValues "→12b3x→" = [⟨⟨0, 0⟩, ⟨0, 0⟩, ""⟩, ⟨⟨3, 7⟩, ⟨6, 7⟩, "3"⟩, ⟨⟨8, 8⟩, ⟨8, 8⟩, ""⟩,
        ⟨⟨11, 11⟩, ⟨11, 11⟩, ""⟩] ∧
      Orderly "→12b3x→" (p.findValues "→12b3x→") ∧
      (∀ marks ∈ p.pattern.program.findAll "→12b3x→".toList,
        p.captureOf "→12b3x→".toList marks = none ↔ Program.group? marks p.group = none) ∧
      p.pattern.program.Exhausts "→12b3x→".toList := by
  have hrun : ((ExceptT.run (compile "rounds" "(?:(?P<value>[0-9]*)|b)+|x" false)).run
      PatternCache.empty).1.map (fun p => p.findValues "→12b3x→") =
        .ok [⟨⟨0, 0⟩, ⟨0, 0⟩, ""⟩, ⟨⟨3, 7⟩, ⟨6, 7⟩, "3"⟩, ⟨⟨8, 8⟩, ⟨8, 8⟩, ""⟩,
          ⟨⟨11, 11⟩, ⟨11, 11⟩, ""⟩] := by
    decide +kernel
  obtain ⟨p, hgives, hfind⟩ := (compile_cacheFree _ _ _).exists_gives hrun
  have hcompile := hgives.ends PatternCache.empty
  exact ⟨p, hcompile, hfind, findValues_orderly hcompile _⟩

end ValuePattern
end LiteralPatch
