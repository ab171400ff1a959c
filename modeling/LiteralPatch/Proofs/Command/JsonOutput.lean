import LiteralPatch.Command.Line

/-!
# What is written for programs

An application that reports in JSON writes no banner, no changes and no summary, so that what it writes
can be read as one JSON text.  The question, though, goes to the same channel.  So the output is the JSON
text alone exactly if nobody is asked: in a dry run, or with consent given beforehand
(`perform_json_alone_iff`).
-/

namespace LiteralPatch
namespace Command

variable {e : Environment} {fs : FileSystem} {now : Time} {o : ApplyOptions}

/-- The text is the JSON form of what the run of an application came to. -/
def OutcomeText (e : Environment) (fs : FileSystem) (now : Time) (o : ApplyOptions) (text : String) :
    Prop :=
  ∃ plan outcome, Apply.plan e fs o = .ok plan ∧
    (run fs plan.sets plan.target (Apply.runOptions o) now).1 = .ok outcome ∧
      outcome.jsonText = .ok text

/-- What an application with JSON output writes if it succeeds, where `answer` is what is said to the
question. -/
inductive WritesJson (e : Environment) (fs : FileSystem) (now : Time) (o : ApplyOptions)
    (answer : String) : String → Prop where
  | unasked (text : String) : o.dryRun ∨ o.yes → OutcomeText e fs now o text →
      WritesJson e fs now o answer (line text)
  | asked (text : String) : ¬(o.dryRun ∨ o.yes) → isConsent answer → OutcomeText e fs now o text →
      WritesJson e fs now o answer (question ++ line text)
  | declined : ¬(o.dryRun ∨ o.yes) → ¬isConsent answer →
      WritesJson e fs now o answer (question ++ cancelled e.paint)

/-- A run that is reported in JSON adds its outcome to what has been written, and nothing else. -/
theorem Apply.proceed_json {p : Paint} {plan : Plan} {out : String} (hjson : o.json = true)
    (hcode : (Apply.proceed p fs now plan o out).code = 0) :
    ∃ outcome text, (run fs plan.sets plan.target (Apply.runOptions o) now).1 = .ok outcome ∧
      outcome.jsonText = .ok text ∧ (Apply.proceed p fs now plan o out).out = out ++ line text := by
  unfold Apply.proceed at hcode ⊢
  cases hbefore : Apply.textBefore fs plan o.diff with
  | error f =>
    rw [hbefore] at hcode
    cases hcode
  | ok before =>
    rw [hbefore] at hcode
    generalize run fs plan.sets plan.target (Apply.runOptions o) now = ended at hcode ⊢
    obtain ⟨result, after⟩ := ended
    cases result with
    | error cause => cases hcode
    | ok outcome =>
      simp only [Apply.report, hjson, if_true] at hcode ⊢
      cases htext : outcome.jsonText with
      | error cause =>
        rw [htext] at hcode
        cases hcode
      | ok text => exact ⟨outcome, text, rfl, htext, rfl⟩

/-- **An application with JSON output that succeeds writes its outcome,** behind the question if it asks,
or else that it was declined. -/
theorem apply_json {answer : String} (hjson : o.json = true)
    (hcode : ((apply e fs now o).finish answer).code = 0) :
    WritesJson e fs now o answer ((apply e fs now o).finish answer).out := by
  unfold apply at hcode ⊢
  cases hplan : Apply.plan e fs o with
  | error f =>
    rw [hplan] at hcode
    cases hcode
  | ok plan =>
    simp only [hplan, hjson, if_true] at hcode ⊢
    by_cases hsettled : o.dryRun ∨ o.yes
    · rw [if_pos hsettled] at hcode ⊢
      obtain ⟨outcome, text, hrun, htext, hout⟩ := Apply.proceed_json hjson hcode
      rw [Dialogue.finish, hout, String.empty_append]
      exact .unasked text hsettled ⟨plan, outcome, hplan, hrun, htext⟩
    · rw [if_neg hsettled] at hcode ⊢
      simp only [withConsent, Dialogue.finish, String.empty_append] at hcode ⊢
      by_cases hconsent : isConsent answer
      · rw [if_pos hconsent] at hcode ⊢
        obtain ⟨outcome, text, hrun, htext, hout⟩ := Apply.proceed_json hjson hcode
        rw [hout, String.empty_append]
        exact .asked text hsettled hconsent ⟨plan, outcome, hplan, hrun, htext⟩
      · rw [if_neg hconsent]
        exact .declined hsettled hconsent

end Command

open Command

/-- **JSON output stands alone exactly if nobody is asked.**  Of an application that succeeds and is not
declined, the output is the outcome in JSON, on lines of its own, behind the question unless the run is a
dry one or consent was given beforehand. -/
theorem perform_json_alone_iff {e : Environment} {fs : FileSystem} {now : Time} {input : String}
    {arguments : List String} {o : ApplyOptions} (hread : readArguments [] arguments = .ok (.apply o))
    (hjson : o.json = true) (hcode : (perform e fs now input arguments).code = 0)
    (hruns : o.dryRun ∨ o.yes ∨ isConsent (firstLine input)) :
    ∃ text, OutcomeText e fs now o text ∧
      (perform e fs now input arguments).out =
        (if o.dryRun ∨ o.yes then "" else question) ++ line text ∧
      ((perform e fs now input arguments).out = line text ↔ o.dryRun ∨ o.yes) := by
  have hstart : perform e fs now input arguments = (apply e fs now o).finish (firstLine input) := by
    rw [perform, start, hread]
    rfl
  rw [hstart] at hcode ⊢
  have hwrites := apply_json hjson hcode
  generalize ((apply e fs now o).finish (firstLine input)).out = out at hwrites ⊢
  cases hwrites with
  | unasked text hsettled htext =>
    refine ⟨text, htext, ?_, iff_of_true rfl hsettled⟩
    rw [if_pos hsettled, String.empty_append]
  | asked text hsettled hconsent htext =>
    refine ⟨text, htext, by rw [if_neg hsettled], iff_of_false (fun heq => ?_) hsettled⟩
    have hlength := congrArg String.length heq
    rw [String.length_append] at hlength
    have hquestion : 0 < question.length := by decide
    omega
  | declined hsettled hconsent => exact ((or_assoc.2 hruns).elim hsettled hconsent).elim

end LiteralPatch
