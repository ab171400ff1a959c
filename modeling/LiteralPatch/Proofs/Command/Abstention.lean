import LiteralPatch.Command.Line
import LiteralPatch.Proofs.Attempts
import LiteralPatch.Proofs.Command.Arguments
import LiteralPatch.Proofs.Run.Prediction

/-!
# Commands that leave the files alone

Only two commands write, and neither does so before everything that may forbid it has been settled.  The
order is that of `Apply.plan`: the target, the table, the host version, the rules, and after them the
answer to the question.  A command that is stopped at one of these places has written nothing, and in
particular no backup (`perform_files`).

A host version and a requirement are looked at only together.  A table without a requirement takes any
host version, be it a version or not (`Version.satisfies_eq_error`), and where no host version is given,
nobody reads what the table requires.  So there an application goes on, and writes
(`perform_writes_unread`).
-/

namespace LiteralPatch

/-- **What stops at a version**: there is a requirement, and the version or the requirement cannot be
read. -/
theorem Version.satisfies_eq_error {raw : String} {requirement : Option String} :
    (∃ fault, Version.satisfies raw requirement = .error fault) ↔
      ∃ text, requirement.map Text.trimmed = some text ∧ text ≠ "" ∧
        ((∃ fault, Version.readHost raw.toList = .error fault) ∨
          ∃ fault, Requirement.read text.toList = .error fault) := by
  unfold Version.satisfies
  split
  · next hnone => simp [hnone]
  · next hblank => simp [hblank]
  · next text hne hsome =>
    have hnonblank : text ≠ "" := fun heq => hne heq
    cases hraw : Version.readHost raw.toList with
    | error fault =>
      simp [hsome, hnonblank, Version.ofHost, hraw, Except.mapError, bind, Except.bind]
    | ok v =>
      cases hread : Requirement.read text.toList with
      | error fault =>
        simp [hsome, hnonblank, Version.ofHost, hraw, hread, Except.mapError, bind, Except.bind]
      | ok r =>
        simp [hsome, hread, Version.ofHost, hraw, Except.mapError, bind, Except.bind, pure,
          Except.pure]

namespace Command

variable {e : Environment} {fs : FileSystem} {now : Time} {o : ApplyOptions}

/-! ## What stops an application before it asks -/

/-- Why rules are not applied, whatever the answer would be. -/
inductive Refused (e : Environment) (fs : FileSystem) (o : ApplyOptions) : Prop where
  | noFile : fs.isFile (resolveTarget e o.file) = false → Refused e fs o
  /-- The table is not found, not read, or not valid. -/
  | notLoaded (f : Failure) : (loadTable e fs o.source).result = .error f → Refused e fs o
  | notCompiled (f : Failure) :
      (loadTable e fs o.source >>= compileTable).result = .error f → Refused e fs o
  /-- A host version is given, the table requires something of it that is not blank, and one of the two
  cannot be read. -/
  | notRead (t : RuleTable) (version requirement : String) :
      (loadTable e fs o.source).result = .ok t → o.hostVersion = some version →
      t.metadata.versionRange.map Text.trimmed = some requirement → requirement ≠ "" →
      ((∃ fault, Version.readHost version.toList = .error fault) ∨
        ∃ fault, Requirement.read requirement.toList = .error fault) → Refused e fs o
  /-- A host version is given, and it does not satisfy what the table requires. -/
  | notSatisfied (t : RuleTable) (version : String) :
      (loadTable e fs o.source).result = .ok t → o.hostVersion = some version →
      Version.satisfies version t.metadata.versionRange = .ok false → Refused e fs o

/-- The gate fails at a version that is not read, or that does not satisfy the requirement. -/
theorem Apply.checkHost_eq_error {t : RuleTable} {version : String}
    (h : Version.satisfies version t.metadata.versionRange ≠ .ok true) :
    ∃ f, Apply.checkHost t (some version) = .error f := by
  rw [Apply.checkHost]
  split
  · exact ⟨_, rfl⟩
  · next htrue => exact absurd htrue h
  · exact ⟨_, rfl⟩

/-- Work goes on with what the work before it gave, and with the cache that it left. -/
theorem Work.bind_run {α β : Type} (w : Work α) (k : α → Work β) (c : PatternCache) :
    (w >>= k).run.run c =
      match w.run.run c with
      | (.ok a, d) => (k a).run.run d
      | (.error f, d) => (.error f, d) := by
  show (ExceptT.run (w >>= k)).run c = _
  rw [ExceptT.run_bind, StateT.run_bind]
  obtain ⟨result, d⟩ := w.run.run c
  cases result with
  | ok a => rfl
  | error f => rfl

theorem Work.ofExcept_run {α : Type} (r : Except Failure α) (c : PatternCache) :
    (MonadExcept.ofExcept r : Work α).run.run c = (r, c) := by
  cases r with
  | ok a => rfl
  | error f => rfl

/-- **An application that is refused has no plan.** -/
theorem Refused.plan (h : Refused e fs o) : ∃ f, Apply.plan e fs o = .error f := by
  rw [Apply.plan]
  by_cases hfile : fs.isFile (resolveTarget e o.file)
  · rw [if_pos hfile]
    -- what loading gives, and the cache it leaves to the rules
    obtain ⟨loaded, cache, hload⟩ :
        ∃ loaded cache, (loadTable e fs o.source).run.run PatternCache.empty = (loaded, cache) :=
      ⟨_, _, rfl⟩
    have hresult : (loadTable e fs o.source).result = loaded := by rw [Work.result, hload]
    rw [Work.result, Work.bind_run, hload]
    cases loaded with
    | error f => exact ⟨f, rfl⟩
    | ok t =>
      simp only [Work.bind_run, Work.ofExcept_run]
      cases hgate : Apply.checkHost t o.hostVersion with
      | error f => exact ⟨f, rfl⟩
      | ok _ =>
        -- the gate is passed, so only the rules are left to fail
        have hpassed : ∀ version, o.hostVersion = some version →
            Version.satisfies version t.metadata.versionRange = .ok true := by
          intro version hversion
          by_contra hne
          obtain ⟨f, herror⟩ := Apply.checkHost_eq_error hne
          rw [hversion, herror] at hgate
          cases hgate
        cases h with
        | noFile hno => rw [hfile] at hno; cases hno
        | notLoaded f herror => rw [hresult] at herror; cases herror
        | notCompiled f herror =>
          rw [Work.result, Work.bind_run, hload] at herror
          simp only at herror ⊢
          generalize (compileTable t).run.run cache = compiled at herror ⊢
          obtain ⟨result, after⟩ := compiled
          obtain rfl : result = .error f := herror
          exact ⟨f, rfl⟩
        | notRead t' version requirement hok hversion hrequired hne hunread =>
          obtain rfl : t = t' := Except.ok.inj (hresult.symm.trans hok)
          obtain ⟨fault, herror⟩ := Version.satisfies_eq_error.2 ⟨requirement, hrequired, hne, hunread⟩
          rw [hpassed version hversion] at herror
          cases herror
        | notSatisfied t' version hok hversion hfalse =>
          obtain rfl : t = t' := Except.ok.inj (hresult.symm.trans hok)
          rw [hpassed version hversion] at hfalse
          cases hfalse
  · rw [if_neg hfile]
    exact ⟨_, rfl⟩

/-! ## What leaves the files alone -/

/-- The requests that must not write, if `answer` is what is said to the question. -/
inductive Abstains (e : Environment) (fs : FileSystem) (answer : String) : Request → Prop where
  | check (file : Option Path) (source : RuleSource) : Abstains e fs answer (.check file source)
  | list (source : RuleSource) : Abstains e fs answer (.list source)
  | dryRun (o : ApplyOptions) : o.dryRun = true → Abstains e fs answer (.apply o)
  | refused (o : ApplyOptions) : Refused e fs o → Abstains e fs answer (.apply o)
  /-- Nobody has consented to the rules beforehand, and nobody does now. -/
  | unconfirmed (o : ApplyOptions) : o.yes = false →
      Text.lowerAscii (Text.trimmed answer) ∉ ["y", "yes"] → Abstains e fs answer (.apply o)
  | unrestored (file : Option Path) : Text.lowerAscii (Text.trimmed answer) ∉ ["y", "yes"] →
      Abstains e fs answer (.restore file false)

/-- With `--dry-run` among the arguments, whatever is asked for must not write. -/
theorem abstains_of_dryRun {arguments : List String} (h : "--dry-run" ∈ arguments) {answer : String} :
    ∀ request, readArguments [] arguments = .ok request → Abstains e fs answer request := by
  intro request hread
  obtain ⟨o, rfl, hdry⟩ := dryRun_of_readArguments hread h
  exact .dryRun o hdry

theorem isConsent_eq_false {answer : String}
    (h : Text.lowerAscii (Text.trimmed answer) ∉ ["y", "yes"]) : isConsent answer = false := by
  simpa [isConsent] using h

/-- Without consent, a dialogue ends with the files it began with. -/
theorem withConsent_files {p : Paint} {out answer : String} {goOn : Unit → Reply}
    (h : Text.lowerAscii (Text.trimmed answer) ∉ ["y", "yes"]) :
    ((withConsent p fs out goOn).finish answer).files = fs := by
  rw [withConsent, Dialogue.finish]
  simp only [isConsent_eq_false h, Bool.false_eq_true, if_false]
  rfl

/-- The report about a run adds nothing to the files. -/
theorem Apply.report_files (p : Paint) (fs : FileSystem) (plan : Plan) (options : ApplyOptions)
    (outcome : Outcome) (before : Option String) (out : String) :
    (Apply.report p fs plan options outcome before out).files = fs := by
  rw [Apply.report]
  split
  · split
    · rfl
    · rfl
  · split
    · rfl
    · rfl

/-- What an application leaves is what its run leaves. -/
theorem Apply.proceed_files (p : Paint) (fs : FileSystem) (now : Time) (plan : Plan)
    (o : ApplyOptions) (out : String) :
    (Apply.proceed p fs now plan o out).files = fs ∨
      (Apply.proceed p fs now plan o out).files =
        (run fs plan.sets plan.target (Apply.runOptions o) now).2 := by
  rw [Apply.proceed]
  cases Apply.textBefore fs plan o.diff with
  | error f => exact .inl rfl
  | ok before =>
    refine .inr ?_
    obtain ⟨ended, after⟩ := run fs plan.sets plan.target (Apply.runOptions o) now
    cases ended with
    | error cause => rfl
    | ok outcome => exact Apply.report_files p after plan o outcome before out

/-- A plan that is only looked at leaves the files alone, and asks for nothing. -/
theorem Apply.dryRun_files (plan : Plan) (hdry : o.dryRun = true) {answer out : String} :
    ((if o.dryRun ∨ o.yes then Dialogue.done (Apply.proceed e.paint fs now plan o out)
      else withConsent e.paint fs out fun _ => Apply.proceed e.paint fs now plan o "").finish
        answer).files = fs := by
  rw [if_pos (.inl hdry), Dialogue.finish]
  obtain hsame | hrun := Apply.proceed_files e.paint fs now plan o out
  · exact hsame
  · rw [hrun, Apply.runOptions, hdry]
    exact Run.dryRun_snd fs plan.sets plan.target _ _ now

/-- **An application that is a dry run, is refused or is not consented to leaves the files alone.** -/
theorem apply_files {answer : String} (h : Abstains e fs answer (.apply o)) :
    ((apply e fs now o).finish answer).files = fs := by
  rw [apply]
  cases hplan : Apply.plan e fs o with
  | error f => rfl
  | ok plan =>
    cases h with
    | refused _ hrefused =>
      obtain ⟨f, herror⟩ := hrefused.plan
      rw [hplan] at herror
      cases herror
    | dryRun _ hdry => exact Apply.dryRun_files plan hdry
    | unconfirmed _ hyes hanswer =>
      by_cases hdry : o.dryRun = true
      · exact Apply.dryRun_files plan hdry
      · simp only [hyes, hdry, Bool.false_eq_true, or_self, if_false]
        exact withConsent_files hanswer

/-- A check leaves the files alone. -/
theorem check_files (file : Option Path) (source : RuleSource) :
    (check e fs now file source).files = fs := by
  rw [check]
  split
  · rfl
  · next t sets _ =>
    have hrun := Run.dryRun_snd fs sets (resolveTarget e file) false .preserve now
    split
    · next heq => rw [heq] at hrun; exact hrun
    · next heq => rw [heq] at hrun; exact hrun

/-- So does showing the rules. -/
theorem list_files (source : RuleSource) : (list e fs source).files = fs := by
  rw [list]
  split
  · rfl
  · rfl

/-- So does a backup that is not consented to be put back. -/
theorem restore_files (file : Option Path) {answer : String}
    (h : Text.lowerAscii (Text.trimmed answer) ∉ ["y", "yes"]) :
    ((restore e fs now file false).finish answer).files = fs := by
  rw [restore]
  by_cases hbackup : fs.isFile (Backup.pathFor (resolveTarget e file))
  · simp only [hbackup, if_true, Bool.false_eq_true, if_false]
    exact withConsent_files h
  · simp only [hbackup, Bool.false_eq_true, if_false]
    rfl

end Command

/-- **Commands that must not write do not write.**  Every file keeps its bytes, its mode and its time of
writing, and none is made or removed. -/
theorem perform_files (e : Command.Environment) (fs : FileSystem) (now : Time) (input : String)
    (arguments : List String)
    (h : ∀ request, Command.readArguments [] arguments = .ok request →
      Command.Abstains e fs (Command.firstLine input) request) :
    (Command.perform e fs now input arguments).files = fs := by
  rw [Command.perform, Command.start]
  cases hread : Command.readArguments [] arguments with
  | error halt =>
    cases halt with
    | fault f => rfl
    | help topic => rfl
    | version => rfl
  | ok request =>
    have habstains := h request hread
    cases request with
    | apply o => exact Command.apply_files habstains
    | check file source => exact Command.check_files file source
    | list source => exact Command.list_files source
    | restore file yes =>
      cases habstains with
      | unrestored _ hanswer => exact Command.restore_files file hanswer

/-- A text of two characters, and rules for the second of them.  The table says `metadata` about itself,
besides its name. -/
def Command.twoFiles (metadata : String) : FileSystem :=
  ⟨[(["a.js"], .file ⟨"x1".toUTF8, 0o644, ⟨0, 0⟩⟩),
    (["r.toml"], .file ⟨("meta=\x7bname='t'" ++ metadata ++ "\x7d\nrule_sets=[\x7bname='s',rules=[" ++
      "\x7bkind='value',name='x',primary='x(?P<value>1)',replacement='9'\x7d]\x7d]").toUTF8, 0o644, ⟨0, 0⟩⟩)],
    []⟩

/-- Only the first line answers: a consent on the second one comes too late.  And consent given beforehand
does not help against a version that cannot be read, if one is required. -/
theorem perform_files_declined :
    (Command.readArguments [] ["apply", "--file", "/a.js", "-d"] =
        .ok (.apply ⟨some ⟨"/a.js"⟩, .profile "claude-4", false, false, none, false, false, true, false⟩) ∧
      Text.lowerAscii (Text.trimmed (Command.firstLine "no\ny\n")) ∉ ["y", "yes"] ∧
      (Command.perform ⟨[], false⟩ (Command.twoFiles "") ⟨1, 0⟩ "no\ny\n"
        ["apply", "--file", "/a.js", "-d"]).files = Command.twoFiles "") ∧
    Command.readArguments [] ["apply", "-yfa.js", "--rules", "r.toml", "--host-version", "bad"] =
        .ok (.apply ⟨some ⟨"a.js"⟩, .path ⟨"r.toml"⟩, false, false, some "bad", true, false, false, false⟩) ∧
      (Command.loadTable ⟨[], false⟩ (Command.twoFiles ",version_range='1'") (.path ⟨"r.toml"⟩)).result =
        .ok ⟨⟨"t", none, some "1"⟩, [⟨"s", [.value "x" "x(?P<value>1)" [] "9" none false]⟩]⟩ ∧
      (∃ fault, Version.readHost "bad".toList = .error fault) ∧
      (Command.perform ⟨[], false⟩ (Command.twoFiles ",version_range='1'") ⟨1, 0⟩ ""
        ["apply", "-yfa.js", "--rules", "r.toml", "--host-version", "bad"]).files =
          Command.twoFiles ",version_range='1'" := by
  have hread : Command.readArguments [] ["apply", "--file", "/a.js", "-d"] =
      .ok (.apply ⟨some ⟨"/a.js"⟩, .profile "claude-4", false, false, none, false, false, true,
        false⟩) := rfl
  have hanswer : Text.lowerAscii (Text.trimmed (Command.firstLine "no\ny\n")) ∉ ["y", "yes"] := by
    decide
  have hread' : Command.readArguments [] ["apply", "-yfa.js", "--rules", "r.toml", "--host-version", "bad"] =
      .ok (.apply ⟨some ⟨"a.js"⟩, .path ⟨"r.toml"⟩, false, false, some "bad", true, false, false,
        false⟩) := rfl
  have hload : (Command.loadTable ⟨[], false⟩ (Command.twoFiles ",version_range='1'")
      (.path ⟨"r.toml"⟩)).result =
        .ok ⟨⟨"t", none, some "1"⟩, [⟨"s", [.value "x" "x(?P<value>1)" [] "9" none false]⟩]⟩ :=
    toOption_eq_some_iff.1 (by decide +kernel)
  have hunread : ∃ fault, Version.readHost "bad".toList = .error fault := ⟨_, rfl⟩
  refine ⟨⟨hread, hanswer, perform_files _ _ _ _ _ ?_⟩, hread', hload, hunread,
    perform_files _ _ _ _ _ ?_⟩
  · intro request hrequest
    obtain rfl := Except.ok.inj (hread.symm.trans hrequest)
    exact .unconfirmed _ rfl hanswer
  · intro request hrequest
    obtain rfl := Except.ok.inj (hread'.symm.trans hrequest)
    exact .refused _ (.notRead _ "bad" "1" hload rfl rfl (by decide) (.inl hunread))

/-- **What cannot be read stops nothing where it is not looked at.**  The same version is no obstacle to a
table that requires none, and a requirement that cannot be read is none to an application without a
version: both write. -/
theorem perform_writes_unread :
    (∃ fault, Version.readHost "bad".toList = .error fault) ∧
      (Command.perform ⟨[], false⟩ (Command.twoFiles "") ⟨1, 0⟩ ""
        ["apply", "-yfa.js", "--rules", "r.toml", "--host-version", "bad"]).files ≠ Command.twoFiles "" ∧
    (∃ fault, Requirement.read "bad".toList = .error fault) ∧
      (Command.perform ⟨[], false⟩ (Command.twoFiles ",version_range='bad'") ⟨1, 0⟩ ""
        ["apply", "-yfa.js", "--rules", "r.toml"]).files ≠ Command.twoFiles ",version_range='bad'" := by
  -- in both runs the text is another one afterwards
  have hkept : ∀ metadata, ((Command.twoFiles metadata).file? ⟨"a.js"⟩).map (·.bytes.data.toList) =
      some "x1".toUTF8.data.toList := fun _ => rfl
  have hversion : ((Command.perform ⟨[], false⟩ (Command.twoFiles "") ⟨1, 0⟩ ""
      ["apply", "-yfa.js", "--rules", "r.toml", "--host-version", "bad"]).files.file? ⟨"a.js"⟩).map
        (·.bytes.data.toList) = some "x9".toUTF8.data.toList := by decide +kernel
  have hrequirement : ((Command.perform ⟨[], false⟩ (Command.twoFiles ",version_range='bad'") ⟨1, 0⟩ ""
      ["apply", "-yfa.js", "--rules", "r.toml"]).files.file? ⟨"a.js"⟩).map
        (·.bytes.data.toList) = some "x9".toUTF8.data.toList := by decide +kernel
  refine ⟨⟨_, rfl⟩, fun heq => ?_, ⟨_, rfl⟩, fun heq => ?_⟩
  · rw [heq, hkept] at hversion
    exact absurd hversion (by decide +kernel)
  · rw [heq, hkept] at hrequirement
    exact absurd hrequirement (by decide +kernel)

end LiteralPatch
