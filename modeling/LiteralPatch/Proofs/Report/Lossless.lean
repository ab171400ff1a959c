import LiteralPatch.Report.Json
import LiteralPatch.Proofs.Attempts
import LiteralPatch.Proofs.Json.Layout

/-!
# The report in JSON keeps everything

Reading a report back is looking up its fields by their names.  A name is looked up only where it is the name of
one field, so the order of the fields does not matter, nor which of two fields of one name a reader prefers.

What is read is the outcome that was written (`Outcome.ofJson?_of_toJson`).  Writing fails only for a backup from
before 1970, since times are written as natural numbers (`Outcome.exists_toJson_iff`).
-/

namespace LiteralPatch

/-! ## Looking values up -/

namespace Json

/-- The value of the one field that has the name. -/
def field? (name : String) : Json → Option Json
  | object fs =>
    match fs.filter fun f => f.1 == name with
    | [(_, v)] => some v
    | _ => none
  | _ => none

def text? : Json → Option String
  | string s => some s
  | _ => none

def natural? : Json → Option Nat
  | number n => some n
  | _ => none

def truth? : Json → Option Bool
  | boolean b => some b
  | _ => none

def items? : Json → Option (List Json)
  | array vs => some vs
  | _ => none

end Json

/-! ## Reading a report by field -/

def Time.ofJson? (v : Json) : Option Time := do
  let seconds ← (← v.field? "secs_since_epoch").natural?
  let nanos ← (← v.field? "nanos_since_epoch").natural?
  pure ⟨seconds, nanos⟩

def Span.ofJson? (v : Json) : Option Span := do
  let start ← (← v.field? "start").natural?
  let stop ← (← v.field? "end").natural?
  pure ⟨start, stop⟩

def MatchSource.ofJson? : Json → Option MatchSource
  | .string name => if name = "primary" then some .primary else none
  | v => do pure (.fallback (← (← v.field? "fallback").natural?))

def AppliedChange.ofJson? (v : Json) : Option AppliedChange := do
  let ruleSet ← (← v.field? "rule_set").text?
  let rule ← (← v.field? "rule").text?
  let oldValue ← (← v.field? "old_value").text?
  let newValue ← (← v.field? "new_value").text?
  let source ← MatchSource.ofJson? (← v.field? "source")
  let span ← Span.ofJson? (← v.field? "span")
  pure { ruleSet, rule, oldValue, newValue, source, span }

def Backup.ofJson? (v : Json) : Option Backup := do
  let source ← (← v.field? "original_path").text?
  let path ← (← v.field? "backup_path").text?
  let createdAt ← Time.ofJson? (← v.field? "created_at")
  let reused ← (← v.field? "reused").truth?
  pure { source := ⟨source⟩, path := ⟨path⟩, createdAt, reused }

def Status.ofName? (name : String) : Option Status :=
  [Status.written, .unchanged, .dryRun].find? fun s => s.name = name

/-- A backup, or the absence of one. -/
def Outcome.backupOfJson? : Json → Option (Option Backup)
  | .null => some none
  | v => (Backup.ofJson? v).map some

def Outcome.ofJson? (v : Json) : Option Outcome := do
  let target ← (← v.field? "target").text?
  let status ← Status.ofName? (← (← v.field? "status").text?)
  let applied ← (← (← v.field? "applied").items?).mapM AppliedChange.ofJson?
  let backup ← backupOfJson? (← v.field? "backup")
  pure { target := ⟨target⟩, status, applied, backup }

/-! ## What is read is what was written -/

theorem ok_eq_ok_iff {v w : Json} : (pure w : Except JsonError Json) = .ok v ↔ v = w :=
  ⟨fun h => (Except.ok.inj h).symm, fun h => congrArg Except.ok h.symm⟩

theorem Time.toJson_eq_ok_iff {t : Time} {v : Json} : t.toJson = .ok v ↔ 0 ≤ t.seconds ∧
    v = .object [("secs_since_epoch", .number t.seconds.toNat), ("nanos_since_epoch", .number t.nanos)] := by
  unfold toJson
  split
  · next h => simp [h, eq_comm]
  · next h => simp [h]

theorem Time.ofJson?_of_toJson {t : Time} {v : Json} (h : t.toJson = .ok v) : ofJson? v = some t := by
  obtain ⟨hseconds, rfl⟩ := toJson_eq_ok_iff.1 h
  simp [ofJson?, Json.field?, Json.natural?, Int.toNat_of_nonneg hseconds]

@[simp] theorem Span.ofJson?_toJson (s : Span) : ofJson? s.toJson = some s := by
  simp [ofJson?, toJson, Json.field?, Json.natural?]

@[simp] theorem MatchSource.ofJson?_toJson (s : MatchSource) : ofJson? s.toJson = some s := by
  cases s <;> simp [ofJson?, toJson, Json.field?, Json.natural?]

@[simp] theorem AppliedChange.ofJson?_toJson (c : AppliedChange) : ofJson? c.toJson = some c := by
  simp [ofJson?, toJson, Json.field?, Json.text?]

/-- A list is read back in order, if its items are. -/
theorem mapM_map_eq_some {α : Type} {write : α → Json} {read : Json → Option α}
    (h : ∀ a, read (write a) = some a) (as : List α) : (as.map write).mapM read = some as := by
  induction as with
  | nil => rfl
  | cons a as ih =>
    rw [List.map_cons, List.mapM_cons, h, ih]
    rfl

theorem Backup.toJson_eq_ok_iff {b : Backup} {v : Json} : b.toJson = .ok v ↔ ∃ time, b.createdAt.toJson = .ok time ∧
    v = .object [("original_path", .string b.source.text), ("backup_path", .string b.path.text),
      ("created_at", time), ("reused", .boolean b.reused)] := by
  refine bind_eq_ok_iff.trans (exists_congr fun time => and_congr_right fun _ => ?_)
  exact ok_eq_ok_iff

theorem Backup.ofJson?_of_toJson {b : Backup} {v : Json} (h : b.toJson = .ok v) : ofJson? v = some b := by
  obtain ⟨time, htime, rfl⟩ := toJson_eq_ok_iff.1 h
  simp [ofJson?, Json.field?, Json.text?, Json.truth?, Time.ofJson?_of_toJson htime]

@[simp] theorem Status.ofName?_name (s : Status) : ofName? s.name = some s := by
  cases s <;> decide

namespace Outcome

/-- The form of a backup, or of its absence. -/
def BackupForm (backup : Option Backup) (v : Json) : Prop :=
  match backup with
  | some b => b.toJson = .ok v
  | none => v = .null

theorem toJson_eq_ok_iff {o : Outcome} {v : Json} : o.toJson = .ok v ↔ ∃ backup, BackupForm o.backup backup ∧
    v = .object [("target", .string o.target.text), ("status", .string o.status.name),
      ("applied", .array (o.applied.map AppliedChange.toJson)), ("backup", backup)] := by
  unfold toJson
  cases o.backup with
  | none => simp [BackupForm, ok_eq_ok_iff]
  | some b =>
    refine bind_eq_ok_iff.trans (exists_congr fun backup => and_congr_right fun _ => ?_)
    exact ok_eq_ok_iff

theorem backupOfJson?_of_form {backup : Option Backup} {v : Json} (h : BackupForm backup v) :
    backupOfJson? v = some backup := by
  cases backup with
  | none =>
    obtain rfl : v = .null := h
    rfl
  | some b =>
    have hread := Backup.ofJson?_of_toJson h
    obtain ⟨time, -, rfl⟩ := Backup.toJson_eq_ok_iff.1 h
    rw [backupOfJson?, hread, Option.map_some]
    exact fun hnull => nomatch hnull

/-- **An outcome is read back from its form.** -/
theorem ofJson?_of_toJson {o : Outcome} {v : Json} (h : o.toJson = .ok v) : ofJson? v = some o := by
  obtain ⟨backup, hbackup, rfl⟩ := toJson_eq_ok_iff.1 h
  have happlied := mapM_map_eq_some AppliedChange.ofJson?_toJson o.applied
  simp [ofJson?, Json.field?, Json.text?, Json.items?, backupOfJson?_of_form hbackup, happlied]

/-- Writing fails only for a backup from before 1970. -/
theorem exists_toJson_iff {o : Outcome} :
    (∃ v, o.toJson = .ok v) ↔ ∀ b ∈ o.backup, 0 ≤ b.createdAt.seconds := by
  simp only [toJson_eq_ok_iff]
  cases o.backup with
  | none => simp [BackupForm]
  | some b => simp [BackupForm, Backup.toJson_eq_ok_iff, Time.toJson_eq_ok_iff]

end Outcome

/-! ## How deep a report is nested -/

namespace Json

@[simp] theorem within_array {d : Nat} {vs : List Json} : (array vs).Within (d + 1) ↔ ∀ v ∈ vs, v.Within d :=
  Iff.rfl

@[simp] theorem within_object {d : Nat} {fs : List (String × Json)} :
    (object fs).Within (d + 1) ↔ ∀ f ∈ fs, f.2.Within d :=
  Iff.rfl

@[simp] theorem within_null {d : Nat} : null.Within (d + 1) := trivial

@[simp] theorem within_boolean {d : Nat} {b : Bool} : (boolean b).Within (d + 1) := trivial

@[simp] theorem within_number {d n : Nat} : (number n).Within (d + 1) := trivial

@[simp] theorem within_string {d : Nat} {s : String} : (string s).Within (d + 1) := trivial

end Json

theorem AppliedChange.within_toJson (c : AppliedChange) : c.toJson.Within 3 := by
  have hsource : c.source.toJson.Within 2 := by
    cases c.source <;> simp [MatchSource.toJson]
  simp [toJson, Span.toJson, hsource]

theorem Backup.within_of_toJson {b : Backup} {v : Json} (h : b.toJson = .ok v) : v.Within 4 := by
  obtain ⟨time, htime, rfl⟩ := toJson_eq_ok_iff.1 h
  obtain ⟨-, rfl⟩ := Time.toJson_eq_ok_iff.1 htime
  simp

/-- From the outside in: the outcome, its changes, a change, the span, an offset. -/
theorem Outcome.within_of_toJson {o : Outcome} {v : Json} (h : o.toJson = .ok v) : v.Within 5 := by
  obtain ⟨backup, hbackup, rfl⟩ := toJson_eq_ok_iff.1 h
  have hwithin : backup.Within 4 := by
    cases hb : o.backup with
    | none =>
      rw [hb] at hbackup
      obtain rfl : backup = .null := hbackup
      simp
    | some b =>
      rw [hb] at hbackup
      exact Backup.within_of_toJson hbackup
  simp [hwithin, AppliedChange.within_toJson]

/-! ## Texts -/

namespace Outcome

variable {o : Outcome} {text : String}

theorem jsonText_eq_ok_iff : o.jsonText = .ok text ↔ ∃ v, o.toJson = .ok v ∧ v.pretty = text := by
  unfold jsonText
  cases o.toJson <;> simp [Except.map]

/-- **The report in JSON loses nothing**: every outcome, whatever its texts hold, has a text if its backup is not
from before 1970.  The text is JSON of one value, a reader finds that value, and its fields give back the outcome;
so the text is the text of no other outcome. -/
theorem jsonText_lossless (o : Outcome) (h : ∀ b ∈ o.backup, 0 ≤ b.createdAt.seconds) :
    ∃ text v, o.jsonText = .ok text ∧ Json.IsText text v ∧ (∀ w, Json.IsText text w → w = v) ∧
      Json.parse text = some v ∧ ofJson? v = some o ∧
      ∀ o' : Outcome, o'.jsonText = .ok text → o' = o := by
  obtain ⟨v, hv⟩ := exists_toJson_iff.2 h
  have hjson := Json.isText_pretty v
  refine ⟨v.pretty, v, jsonText_eq_ok_iff.2 ⟨v, hv, rfl⟩, hjson, fun w hw => hw.unique hjson,
    Json.parse_pretty (within_of_toJson hv) (by decide), ofJson?_of_toJson hv, fun o' htext => ?_⟩
  obtain ⟨v', hv', hpretty⟩ := jsonText_eq_ok_iff.1 htext
  obtain rfl := Json.pretty_injective hpretty
  exact Option.some.inj ((ofJson?_of_toJson hv').symm.trans (ofJson?_of_toJson hv))

/-- A report with quotes, a backslash, a line break and a control character in its texts. -/
theorem jsonText_lossless_escapes :
    ∃ text v, jsonText ⟨⟨"a\"b\\c"⟩, .written,
        [⟨"set", "rule\n", "é", "\x01", .fallback 2, ⟨3, 5⟩⟩, ⟨"", "", "", "", .primary, ⟨0, 0⟩⟩],
        some ⟨⟨"a"⟩, ⟨"a.backup"⟩, ⟨0, 7⟩, true⟩⟩ = .ok text ∧
      Json.parse text = some v ∧
      ofJson? v = some ⟨⟨"a\"b\\c"⟩, .written,
        [⟨"set", "rule\n", "é", "\x01", .fallback 2, ⟨3, 5⟩⟩, ⟨"", "", "", "", .primary, ⟨0, 0⟩⟩],
        some ⟨⟨"a"⟩, ⟨"a.backup"⟩, ⟨0, 7⟩, true⟩⟩ := by
  obtain ⟨text, v, htext, -, -, hparse, hread, -⟩ := jsonText_lossless ⟨⟨"a\"b\\c"⟩, .written,
    [⟨"set", "rule\n", "é", "\x01", .fallback 2, ⟨3, 5⟩⟩, ⟨"", "", "", "", .primary, ⟨0, 0⟩⟩],
    some ⟨⟨"a"⟩, ⟨"a.backup"⟩, ⟨0, 7⟩, true⟩⟩ (by simp)
  exact ⟨text, v, htext, hparse, hread⟩

end Outcome
end LiteralPatch
