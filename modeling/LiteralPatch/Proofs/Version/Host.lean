import LiteralPatch.Proofs.Version.Strict
import LiteralPatch.Version.Requirement

/-!
# Versions as hosts report them

A report is taken apart in front of the reader: the first word without its mark is a core, up to the first
sign, and a rest (`Reported`).  The reader only pads the core with zeros and reads the whole strictly, so what
it takes follows from `Version.read_eq_ok_iff`.  A text that is cut at its first sign is cut in one way, hence
the padded core is the three numbers of the version and the rest is what stands behind them; and since each
zero is a segment of its own, the segments of the core are the first numbers of the three.

The pre-release and the build metadata may hold hyphens, but only behind the first sign, where the cut no
longer looks for them.
-/

namespace LiteralPatch

open Text Unicode

namespace Version

/-! ## The core and the rest of a report -/

/-- The token is the word without one mark in front. -/
def Unmarked (word token : List Char) : Prop :=
  word = 'v' :: token ∨ word = token ∧ token.head? ≠ some 'v'

theorem unmarked_iff {word token : List Char} : Unmarked word token ↔ dropMark word = token := by
  unfold dropMark Unmarked
  split
  · next cs =>
    constructor
    · rintro (heq | ⟨rfl, hhead⟩)
      · exact (List.cons.inj heq).2
      · exact absurd rfl hhead
    · exact fun heq => .inl (congrArg _ heq)
  · next hmark =>
    constructor
    · rintro (heq | ⟨heq, -⟩)
      · exact absurd heq (hmark token)
      · exact heq
    · rintro rfl
      exact .inr ⟨rfl, fun hhead => hmark _ (List.eq_cons_of_mem_head? hhead)⟩

/-- The core and the rest of a report: of its first word, without the mark, what stands in front of the first
hyphen or plus sign, and what follows from there. -/
inductive Reported (raw core rest : List Char) : Prop where
  | intro (blanks word more token : List Char)
      (blank : Front isWhite raw blanks (word ++ more))
      (wording : Front (fun c => !isWhite c) (word ++ more) word more)
      (marking : Unmarked word token)
      (cut : Front (fun c => !endsCore c) token core rest)

variable {raw core rest : List Char}

theorem reported_iff : Reported raw core rest ↔
    (dropMark (firstWord raw)).takeWhile (fun c => !endsCore c) = core ∧
      (dropMark (firstWord raw)).dropWhile (fun c => !endsCore c) = rest := by
  rw [← Front.iff]
  constructor
  · rintro ⟨blanks, word, more, token, hblank, hword, hmark, hcut⟩
    rw [firstWord, trimLeft, hblank.dropWhile_eq, hword.takeWhile_eq, unmarked_iff.1 hmark]
    exact hcut
  · intro hcut
    have hword : Front (fun c => !isWhite c) (trimLeft raw) (firstWord raw)
        ((trimLeft raw).dropWhile fun c => !isWhite c) := Front.iff.2 ⟨rfl, rfl⟩
    have hblank : Front isWhite raw (raw.takeWhile isWhite) (trimLeft raw) := Front.iff.2 ⟨rfl, rfl⟩
    rw [hword.append_eq] at hblank
    exact ⟨_, _, _, _, hblank, hword.append_eq ▸ hword, unmarked_iff.2 rfl, hcut⟩

theorem exists_reported (raw : List Char) : ∃ core rest, Reported raw core rest :=
  ⟨_, _, reported_iff.2 ⟨rfl, rfl⟩⟩

/-- **A report has one core and one rest.** -/
theorem Reported.unique {core' rest' : List Char} (h : Reported raw core rest)
    (h' : Reported raw core' rest') : core' = core ∧ rest' = rest := by
  obtain ⟨rfl, rfl⟩ := reported_iff.1 h
  obtain ⟨rfl, rfl⟩ := reported_iff.1 h'
  exact ⟨rfl, rfl⟩

theorem Reported.normalForm_eq (h : Reported raw core rest) : normalForm raw = padCore core ++ rest := by
  obtain ⟨rfl, rfl⟩ := reported_iff.1 h
  rfl

theorem Reported.not_endsCore (h : Reported raw core rest) : ∀ c ∈ core, endsCore c = false := by
  obtain ⟨_, _, _, _, _, _, _, hcut⟩ := h
  exact fun c hc => by simpa using hcut.holds c hc

theorem Reported.stops (h : Reported raw core rest) : ∀ c ∈ rest.head?, endsCore c = true := by
  obtain ⟨_, _, _, _, _, _, _, hcut⟩ := h
  exact fun c hc => by simpa using hcut.stops c hc

/-! ## Loose versions -/

/-- The numbers with dots between them. -/
def dotted (ns : List Nat) : List Char := ['.'].intercalate (ns.map numeral)

/-- The core of a loose version: one number, two or three, each of 64 bits. -/
structure IsCore (core : List Char) (ns : List Nat) : Prop where
  ne_nil : ns ≠ []
  length_le : ns.length ≤ 3
  lt_wordLimit : ∀ n ∈ ns, n < wordLimit
  eq_dotted : core = dotted ns

/-- What may follow the core: a pre-release behind a hyphen and build metadata behind a plus sign, either or
both of them or none. -/
structure IsSuffix (rest : List Char) (pre : Prerelease) (build : List String) : Prop where
  pre_valid : ∀ i ∈ pre, i.Valid
  build_valid : ∀ s ∈ build, IsSegment s.toList
  eq_written : rest = written '-' (pre.map Identifier.text) ++ written '+' build

/-- The triple of a version. -/
def triple (v : Version) : List Nat := [v.major, v.minor, v.patch]

/-- The core and the rest are those of the version, in which the numbers that are missing are zeros. -/
def Loose (core rest : List Char) (v : Version) : Prop :=
  ∃ ns, IsCore core ns ∧ v.triple = ns ++ List.replicate (3 - ns.length) 0 ∧ IsSuffix rest v.pre v.build

theorem text_eq_dotted (v : Version) :
    v.text.toList = dotted v.triple ++ (written '-' (v.pre.map Identifier.text) ++ written '+' v.build) := by
  simp [toList_text, dotted, triple, List.intercalate_cons_of_ne_nil]

/-! ## Signs -/

theorem not_endsCore_of_isDigit {c : Char} (hc : isDigit c = true) : endsCore c = false := by
  rw [endsCore, Bool.or_eq_false_iff]
  constructor <;> refine beq_false_of_ne ?_ <;> rintro rfl <;> exact absurd hc (by decide)

/-- What stands between the dots is a digit. -/
theorem mem_dotted {ns : List Nat} {c : Char} (hc : c ∈ dotted ns) : c = '.' ∨ isDigit c = true := by
  rcases mem_of_mem_intercalate hc with hdot | ⟨s, hs, hmem⟩
  · exact .inl (List.mem_singleton.1 hdot)
  · obtain ⟨n, -, rfl⟩ := List.mem_map.1 hs
    exact .inr (isDigit_of_mem_numeral c hmem)

theorem not_endsCore_of_mem_dotted {ns : List Nat} : ∀ c ∈ dotted ns, endsCore c = false := by
  intro c hc
  rcases mem_dotted hc with rfl | hdigit
  · rfl
  · exact not_endsCore_of_isDigit hdigit

theorem endsCore_of_mem_head?_written {pre build : List String} :
    ∀ c ∈ (written '-' pre ++ written '+' build).head?, endsCore c = true := by
  intro c hc
  obtain rfl | rfl := eq_signs_of_mem_head? c hc <;> rfl

/-- A text is cut at its first sign in one way. -/
theorem cut_unique {a b a' b' : List Char} (ha : ∀ c ∈ a, endsCore c = false)
    (ha' : ∀ c ∈ a', endsCore c = false) (hb : ∀ c ∈ b.head?, endsCore c = true)
    (hb' : ∀ c ∈ b'.head?, endsCore c = true) : a ++ b = a' ++ b' ↔ a = a' ∧ b = b' := by
  constructor
  · intro heq
    have hfront : Front (fun c => !endsCore c) (a ++ b) a b :=
      ⟨rfl, fun c hc => by simp [ha c hc], fun c hc => by simp [hb c hc]⟩
    have hfront' : Front (fun c => !endsCore c) (a ++ b) a' b' :=
      ⟨heq, fun c hc => by simp [ha' c hc], fun c hc => by simp [hb' c hc]⟩
    exact ⟨hfront.takeWhile_eq.symm.trans hfront'.takeWhile_eq,
      hfront.dropWhile_eq.symm.trans hfront'.dropWhile_eq⟩
  · rintro ⟨rfl, rfl⟩
    rfl

/-! ## Padding -/

/-- Each zero that is added is a segment of its own. -/
theorem splitOn_append_zeros (cs : List Char) (k : Nat) :
    (cs ++ (List.replicate k ['.', '0']).flatten).splitOn '.' = cs.splitOn '.' ++ List.replicate k ['0'] := by
  induction k generalizing cs with
  | zero => simp
  | succ k ih =>
    have hzero : ['0'].splitOn '.' = [['0']] := rfl
    calc (cs ++ (List.replicate (k + 1) ['.', '0']).flatten).splitOn '.'
        = cs.splitOn '.' ++ (['0'] ++ (List.replicate k ['.', '0']).flatten).splitOn '.' := by
          rw [← List.splitOn_append_cons_self, List.replicate_succ, List.flatten_cons]
          rfl
      _ = cs.splitOn '.' ++ List.replicate (k + 1) ['0'] := by
          rw [ih, hzero, List.replicate_succ]
          rfl

/-- There is a segment in front of each dot and one behind the last. -/
theorem length_splitOn (cs : List Char) : (cs.splitOn '.').length = cs.count '.' + 1 := by
  induction cs with
  | nil => rfl
  | cons c cs ih =>
    rw [List.splitOn_cons_eq_if_modifyHead, List.count_cons]
    split
    · rw [List.length_cons, ih]
    · rw [List.length_modifyHead, ih]

theorem splitOn_padCore (core : List Char) :
    (padCore core).splitOn '.' =
      core.splitOn '.' ++ List.replicate (3 - (core.splitOn '.').length) ['0'] := by
  rw [padCore, splitOn_append_zeros, length_splitOn]
  congr 2
  omega

theorem numeral_injective : Function.Injective numeral :=
  Function.LeftInverse.injective valueOf_numeral

theorem splitOn_dotted {ns : List Nat} (hne : ns ≠ []) : (dotted ns).splitOn '.' = ns.map numeral := by
  refine List.splitOn_intercalate '.' (fun s hs hdot => ?_) (by simpa using hne)
  obtain ⟨n, -, rfl⟩ := List.mem_map.1 hs
  exact absurd (isDigit_of_mem_numeral '.' hdot) (by decide)

theorem eq_dotted_iff {cs : List Char} {ns : List Nat} (hne : ns ≠ []) :
    cs = dotted ns ↔ cs.splitOn '.' = ns.map numeral := by
  constructor
  · rintro rfl
    exact splitOn_dotted hne
  · intro hsplit
    rw [dotted, ← hsplit, List.intercalate_splitOn]

/-- **A core that is padded to three numbers holds the first of them,** and the others are zeros. -/
theorem padCore_eq_dotted_iff {ms : List Nat} (hlength : ms.length = 3) :
    padCore core = dotted ms ↔
      ∃ ns, ns ≠ [] ∧ ns.length ≤ 3 ∧ core = dotted ns ∧ ms = ns ++ List.replicate (3 - ns.length) 0 := by
  have hms : ms ≠ [] := by
    rintro rfl
    cases hlength
  have hzeros (k : Nat) : (List.replicate k 0).map numeral = List.replicate k ['0'] := List.map_replicate
  rw [eq_dotted_iff hms, splitOn_padCore, List.append_eq_map_iff]
  constructor
  · rintro ⟨ns, zeros, rfl, hns, hzero⟩
    have hne : ns ≠ [] := by
      rintro rfl
      exact List.splitOn_ne_nil '.' core hns.symm
    rw [← hns, List.length_map, ← hzeros] at hzero
    rw [List.length_append] at hlength
    exact ⟨ns, hne, by omega, (eq_dotted_iff hne).2 hns.symm,
      congrArg _ (List.map_injective_iff.2 numeral_injective hzero)⟩
  · rintro ⟨ns, hne, -, hcore, rfl⟩
    have hsplit := (eq_dotted_iff hne).1 hcore
    exact ⟨ns, _, rfl, hsplit.symm, by rw [hsplit, List.length_map, hzeros]⟩

theorem mem_padCore {c : Char} (hc : c ∈ padCore core) : c ∈ core ∨ c = '.' ∨ c = '0' := by
  rw [padCore, List.mem_append, List.mem_flatten] at hc
  refine hc.imp id ?_
  rintro ⟨part, hpart, hmem⟩
  rw [(List.mem_replicate.1 hpart).2] at hmem
  simpa using hmem

theorem Reported.not_endsCore_padCore (h : Reported raw core rest) :
    ∀ c ∈ padCore core, endsCore c = false := by
  intro c hc
  rcases mem_padCore hc with hmem | rfl | rfl
  · exact h.not_endsCore c hmem
  · rfl
  · rfl

/-! ## What is read -/

/-- The numbers of a loose version, with zeros behind them, have 64 bits. -/
theorem lt_wordLimit_of_append {ns ms : List Nat} {k : Nat} (hms : ms = ns ++ List.replicate k 0) :
    (∀ m ∈ ms, m < wordLimit) ↔ ∀ n ∈ ns, n < wordLimit := by
  subst hms
  rw [List.forall_mem_append]
  refine and_iff_left fun n hn => ?_
  rw [(List.mem_replicate.1 hn).2]
  decide

theorem valid_iff {v : Version} : v.Valid ↔
    (∀ n ∈ v.triple, n < wordLimit) ∧ (∀ i ∈ v.pre, i.Valid) ∧ ∀ s ∈ v.build, IsSegment s.toList := by
  constructor
  · rintro ⟨hmajor, hminor, hpatch, hpre, hbuild⟩
    exact ⟨by simp [triple, hmajor, hminor, hpatch], hpre, hbuild⟩
  · rintro ⟨htriple, hpre, hbuild⟩
    exact ⟨htriple _ (by simp [triple]), htriple _ (by simp [triple]), htriple _ (by simp [triple]),
      hpre, hbuild⟩

/-- **A report is read as a version exactly if its core and its rest are written so,** however loosely. -/
theorem Reported.readHost_eq_ok_iff {v : Version} (h : Reported raw core rest) :
    readHost raw = .ok v ↔ Loose core rest v := by
  rw [readHost, read_eq_ok_iff, h.normalForm_eq, text_eq_dotted,
    cut_unique h.not_endsCore_padCore not_endsCore_of_mem_dotted h.stops endsCore_of_mem_head?_written,
    padCore_eq_dotted_iff rfl, valid_iff]
  constructor
  · rintro ⟨⟨hlt, hpre, hbuild⟩, ⟨ns, hne, hle, hcore, htriple⟩, hrest⟩
    exact ⟨ns, ⟨hne, hle, (lt_wordLimit_of_append htriple).1 hlt, hcore⟩, htriple, ⟨hpre, hbuild, hrest⟩⟩
  · rintro ⟨ns, hns, htriple, hsuffix⟩
    exact ⟨⟨(lt_wordLimit_of_append htriple).2 hns.lt_wordLimit, hsuffix.pre_valid, hsuffix.build_valid⟩,
      ⟨ns, hns.ne_nil, hns.length_le, hns.eq_dotted, htriple⟩, hsuffix.eq_written⟩

theorem ofHost_eq_ok_iff {report : String} {v : Version} :
    ofHost report = .ok v ↔ readHost report.toList = .ok v := by
  unfold ofHost
  cases readHost report.toList <;> simp [Except.mapError]

/-! ## The text of a version as a report -/

/-- No visible ASCII character is white space. -/
theorem not_isWhite_of_visible {c : Char} (hlow : 0x21 ≤ c.toNat) (hhigh : c.toNat ≤ 0x7E) :
    isWhite c = false := by
  simp [isWhite, CharSet.has, CharSet.contains, whiteSpace, whiteSpaceRanges]
  omega

theorem visible_of_isIdentifier {c : Char} (hc : isIdentifier c = true) :
    0x21 ≤ c.toNat ∧ c.toNat ≤ 0x7E := by
  have hbounds : ((48 ≤ c.toNat ∧ c.toNat ≤ 57 ∨ 97 ≤ c.toNat ∧ c.toNat ≤ 122) ∨
      65 ≤ c.toNat ∧ c.toNat ≤ 90) ∨ c = '-' := by
    simpa [isIdentifier, isDigit, Char.le_def, UInt32.le_iff_toNat_le] using hc
  rcases hbounds with h | rfl
  · omega
  · decide

theorem not_isWhite_of_isDotted {c : Char} (hc : isDotted c = true) : isWhite c = false := by
  rw [isDotted, Bool.or_eq_true] at hc
  rcases hc with hc | hdot
  · exact not_isWhite_of_visible (visible_of_isIdentifier hc).1 (visible_of_isIdentifier hc).2
  · rw [eq_of_beq hdot]
    rfl

theorem TakesText.not_isWhite_of_mem_written {α : Type} {read : List Char → Except Fault α}
    {text : α → String} {Valid : α → Prop} (h : TakesText read text Valid) {sign : Char} {as : List α}
    (hsign : isWhite sign = false) (hvalid : ∀ a ∈ as, Valid a) :
    ∀ c ∈ written sign (as.map text), isWhite c = false := by
  unfold written
  split
  · exact fun c hc => nomatch hc
  · rw [List.map_map, List.forall_mem_cons]
    exact ⟨hsign, fun c hc => not_isWhite_of_isDotted (h.isDotted_of_mem hvalid c hc)⟩

/-- No white space stands in the text of a version. -/
theorem Valid.not_isWhite {v : Version} (hv : v.Valid) : ∀ c ∈ v.text.toList, isWhite c = false := by
  rw [text_eq_dotted, List.forall_mem_append, List.forall_mem_append]
  refine ⟨fun c hc => ?_, takesText_identifier.not_isWhite_of_mem_written rfl hv.pre, ?_⟩
  · rcases mem_dotted hc with rfl | hdigit
    · rfl
    · exact not_isWhite_of_isDotted (by rw [isDotted, isIdentifier_of_isDigit hdigit, Bool.true_or])
  · simpa using takesText_build.not_isWhite_of_mem_written rfl hv.build

/-- The text of a version begins with a digit. -/
theorem exists_digit_of_text (v : Version) :
    ∃ d cs, v.text.toList = d :: cs ∧ isDigit d = true := by
  obtain ⟨d, ds, hds⟩ := List.exists_cons_of_ne_nil (numeral_ne_nil v.major)
  exact ⟨d, _, by rw [toList_text, hds]; rfl, isDigit_of_mem_numeral d (hds ▸ List.mem_cons_self)⟩

/-- A valid version is written as its own loose version. -/
theorem Valid.loose {v : Version} (hv : v.Valid) :
    Loose (dotted v.triple) (written '-' (v.pre.map Identifier.text) ++ written '+' v.build) v :=
  ⟨v.triple, ⟨List.cons_ne_nil _ _, Nat.le_refl 3, (valid_iff.1 hv).1, rfl⟩, (List.append_nil _).symm,
    ⟨hv.pre, hv.build, rfl⟩⟩

/-- **The text of a version is what is reported by a report that begins with it,** with a mark or without one. -/
theorem Valid.reported {v : Version} (hv : v.Valid) {blanks mark more : List Char}
    (hblanks : ∀ c ∈ blanks, isWhite c = true) (hmark : mark = [] ∨ mark = ['v'])
    (hmore : ∀ c ∈ more.head?, isWhite c = true) :
    Reported (blanks ++ mark ++ v.text.toList ++ more) (dotted v.triple)
      (written '-' (v.pre.map Identifier.text) ++ written '+' v.build) := by
  obtain ⟨d, cs, htext, hdigit⟩ := exists_digit_of_text v
  have hword : ∀ c ∈ mark ++ v.text.toList, isWhite c = false := by
    rw [List.forall_mem_append]
    refine ⟨fun c hc => ?_, hv.not_isWhite⟩
    rcases hmark with rfl | rfl
    · cases hc
    · obtain rfl := List.mem_singleton.1 hc
      rfl
  have hunmarked : Unmarked (mark ++ v.text.toList) v.text.toList := by
    rcases hmark with rfl | rfl
    · refine .inr ⟨List.nil_append _, ?_⟩
      rw [htext]
      rintro ⟨⟩
      exact absurd hdigit (by decide)
    · exact .inl rfl
  refine ⟨blanks, mark ++ v.text.toList, more, v.text.toList, ⟨?_, hblanks, ?_⟩, ⟨rfl, ?_, ?_⟩,
    hunmarked, ⟨text_eq_dotted v, ?_, ?_⟩⟩
  · simp only [List.append_assoc]
  · intro c hc
    refine hword c (List.mem_of_mem_head? ?_)
    rwa [List.head?_append_of_ne_nil _ (by rw [htext]; simp)] at hc
  · exact fun c hc => by simp [hword c hc]
  · exact fun c hc => by simp [hmore c hc]
  · exact fun c hc => by simp [not_endsCore_of_mem_dotted c hc]
  · exact fun c hc => by simp [endsCore_of_mem_head?_written c hc]

/-- **Exactly the loose versions are read as versions**: of every report, the core and the rest decide whether
it is a version and which.  In particular the text of a version is read as that version, whatever white space
stands in front of it, with a mark or without one, and whatever words follow. -/
theorem ofHost_reads_loose :
    (∀ report : String, ∃ core rest, Reported report.toList core rest ∧
      (∀ core' rest', Reported report.toList core' rest' → core' = core ∧ rest' = rest) ∧
      ∀ v, ofHost report = .ok v ↔ Loose core rest v) ∧
    ∀ (v : Version) (blanks mark more : String), v.Valid → (∀ c ∈ blanks.toList, isWhite c = true) →
      mark = "" ∨ mark = "v" → (∀ c ∈ more.toList.head?, isWhite c = true) →
      ofHost (blanks ++ mark ++ v.text ++ more) = .ok v := by
  constructor
  · intro report
    obtain ⟨core, rest, h⟩ := exists_reported report.toList
    exact ⟨core, rest, h, fun core' rest' h' => h.unique h', fun v => by
      rw [ofHost_eq_ok_iff, h.readHost_eq_ok_iff]⟩
  · intro v blanks mark more hv hblanks hmark hmore
    have hmark' : mark.toList = [] ∨ mark.toList = ['v'] := by
      rcases hmark with rfl | rfl
      · exact .inl rfl
      · exact .inr rfl
    rw [ofHost_eq_ok_iff]
    simp only [String.toList_append]
    exact (hv.reported hblanks hmark' hmore).readHost_eq_ok_iff.2 hv.loose

/-- A pre-release with a hyphen in its build metadata, reported with a mark and a word behind it. -/
theorem ofHost_reads_marked :
    ofHost ("  " ++ "v" ++ text ⟨1, 20, 0, [.name "rc", .number 4], ["a-b"]⟩ ++ " (user setup)") =
      .ok ⟨1, 20, 0, [.name "rc", .number 4], ["a-b"]⟩ := by
  have hname : IsSegment "rc".toList ∧ ∃ c ∈ "rc".toList, isDigit c = false := by
    refine ⟨⟨?_, ?_⟩, 'r', ?_, rfl⟩ <;> decide
  have hbuild : IsSegment "a-b".toList := by
    constructor <;> decide
  have hvalid : Valid ⟨1, 20, 0, [.name "rc", .number 4], ["a-b"]⟩ :=
    ⟨by decide, by decide, by decide, by simpa [Identifier.Valid] using hname, by simpa using hbuild⟩
  have hmore : ∀ c ∈ " (user setup)".toList.head?, isWhite c = true := by
    intro c hc
    obtain rfl : ' ' = c := Option.some.inj hc
    decide
  exact ofHost_reads_loose.2 _ "  " "v" " (user setup)" hvalid (by decide) (.inr rfl) hmore

end Version
end LiteralPatch
