import LiteralPatch.Proofs.Patch.Trail
import LiteralPatch.Proofs.Rule.Applied
import LiteralPatch.Proofs.Rule.Rewriting
import Mathlib.Data.List.SplitBy

/-!
# A pass can be taken back

The record of a pass is enough to undo it.  Each rule has a name of its own, so the changes of one stage are
a run of the record, as long as it can be; the runs are undone from the last one to the first.  Inside a run
the places of the new values are those of the old ones, moved by what the changes in front of them have
added (`takenBack`).

Going back is a walk like going forth.  It is even an easier one: a table that is valid brings in no empty
value, so the changes that go back are never at one place, and are made (`Walk.takenBack`).
-/

namespace LiteralPatch

/-! ## Undoing a record -/

namespace AppliedChange

/-- By how many bytes a change lengthens the text. -/
def growth (c : AppliedChange) : Int :=
  Text.width c.newValue.toList - Text.width c.oldValue.toList

/-- The changes that put the old values of a run back, where `shift` is what the changes in front of the run
have added. -/
def takenBack : Int → List AppliedChange → List Change
  | _, [] => []
  | shift, c :: rest =>
    let start := (c.span.start + shift).toNat
    ⟨c.newValue, c.oldValue, ⟨start, start + Text.width c.newValue.toList⟩, c.source⟩ ::
      takenBack (shift + c.growth) rest

/-- Whether two changes are recorded for the same rule. -/
def sameRule (c d : AppliedChange) : Bool :=
  c.ruleSet == d.ruleSet && c.rule == d.rule

/-- Puts the old values of one run back. -/
def undoRun (text : String) (run : List AppliedChange) : Except EditError String :=
  Edit.applyAll text ((takenBack 0 run).map Rule.edit)

/-- Undoes the runs of a record, the last one first. -/
def undo (text : String) (applied : List AppliedChange) : Except EditError String :=
  (applied.splitBy sameRule).reverse.foldlM undoRun text

end AppliedChange

open AppliedChange

/-- **The way back is a walk too,** over the text behind `l'` instead of `l`. -/
theorem Walk.takenBack {l l' r r' : List Char} {chs : List Change} {shift : Int}
    (h : Walk l r chs r') (hnew : ∀ ch ∈ chs, ch.newValue ≠ "")
    (hshift : (Text.width l' : Int) = Text.width l + shift) (ruleSet rule : String) :
    Rewrites (fun _ _ _ _ => True) l' r'
      (takenBack shift (chs.map (ofChange ruleSet rule))) r := by
  induction h generalizing l' shift with
  | none => exact .none
  | @next l a b c c' ch chs hspan hold hrest ih =>
    obtain rfl : b = ch.oldValue.toList := by rw [hold, String.toList_ofList]
    have hne : ch.newValue.toList ≠ [] := by
      intro hnil
      exact hnew ch List.mem_cons_self (String.toList_inj.1 hnil)
    have hla := Text.width_append l a
    have hla' := Text.width_append l' a
    have hlab := Text.width_append (l ++ a) ch.oldValue.toList
    have hlab' := Text.width_append (l' ++ a) ch.newValue.toList
    -- the new value begins where the old one did, moved by what has been added so far
    have hstart : ((ch.span.start : Int) + shift).toNat = Text.width (l' ++ a) := by
      rw [hspan]
      simp only
      omega
    have hgrowth : (ofChange ruleSet rule ch).growth =
        (Text.width ch.newValue.toList : Int) - Text.width ch.oldValue.toList := rfl
    have hmoved : (Text.width (l' ++ a ++ ch.newValue.toList) : Int) =
        Text.width (l ++ a ++ ch.oldValue.toList) + (shift + (ofChange ruleSet rule ch).growth) := by
      omega
    have hrest' := ih (fun x hx => hnew x (List.mem_cons_of_mem ch hx)) hmoved
    refine .next trivial hne ?_ String.ofList_toList.symm hrest'
    simp only [ofChange, hstart, hlab']

/-! ## What a stage promises -/

/-- Wherever the rule finds something, its changes stand one behind the other, and all of them bring in the
same text, which is not empty. -/
def Rule.Uniform (rule : Rule) : Prop :=
  ∃ new : String, new ≠ "" ∧ ∀ text, (∀ ch ∈ rule.find text, ch.newValue = new) ∧
    ∃ out, Walk [] text.toList (rule.find text) out

/-- **A valid declaration describes a uniform rule.** -/
theorem RuleDefinition.Describes.uniform {d : RuleDefinition} {rule : Rule} (h : d.Describes rule)
    (hcomplete : d.missingFields = []) : rule.Uniform := by
  have hwalk := h.exists_walk
  cases h with
  | @value name primary replacement fallbacks guard ic p ps hp hps =>
    have hreplacement : replacement ≠ "" := by
      rintro rfl
      simp [missingFields] at hcomplete
    refine ⟨replacement, hreplacement, fun text => ⟨fun ch hch => ?_, hwalk text⟩⟩
    obtain ⟨_, -, rfl⟩ := List.mem_map.1 hch
    rfl
  | @flag name marker key old new scope p hne hp =>
    have hliteral : FlagScope.literalText new ≠ "" := by cases new <;> decide
    refine ⟨FlagScope.literalText new, hliteral, fun text => ⟨fun ch hch => ?_, hwalk text⟩⟩
    obtain ⟨_, -, rfl⟩ := List.mem_map.1 hch
    rfl

namespace Stage

/-- The changes of the stage can be found in both texts, and be undone. -/
structure Reversible (s : Stage) : Prop where
  changed : s.report ≠ []
  /-- The old values stand where the report says, in the text that the rule was given. -/
  reads_old : ∀ c ∈ s.report, c.span.slice? s.given.toList = some c.oldValue.toList
  /-- The new values stand at the moved places, in the text that the rule left. -/
  reads_new : ∀ c ∈ takenBack 0 s.report, c.span.slice? s.result.toList = some c.oldValue.toList
  undo : undoRun s.result s.report = .ok s.given

/-- **Every stage of a uniform rule is reversible.** -/
theorem reversible {rule : Rule} (hrule : rule.Uniform) {ruleSet given next : String}
    {changes : List Change} (h : rule.apply given = .ok (some ⟨next, changes⟩)) :
    Reversible ⟨ruleSet, rule.name, given, changes, next⟩ := by
  obtain ⟨new, hne, huniform⟩ := hrule
  obtain ⟨rfl, hchanged, hedits⟩ := Rule.apply_eq_some h
  obtain ⟨hnew, out, hwalk⟩ := huniform given
  obtain rfl : next.toList = out := hwalk.eq_of_applyAll hnew hedits
  have hback : Rewrites (fun _ _ _ _ => True) [] next.toList
      (takenBack 0 ((rule.find given).map (ofChange ruleSet rule.name))) given.toList :=
    hwalk.takenBack (fun ch hch => by rwa [hnew ch hch]) rfl ruleSet rule.name
  refine ⟨?_, ?_, ?_, ?_⟩
  · simpa [report] using hchanged
  · intro c hc
    obtain ⟨ch, hch, rfl⟩ := List.mem_map.1 hc
    exact hwalk.slice? ch hch
  · exact hback.walk.slice?
  · exact hback.applyAll.trans (by rw [String.ofList_toList])

end Stage

/-! ## From the record to the stages -/

namespace Trail

variable {steps : List (String × Rule)} {text out : String} {stages : List Stage}

/-- **The runs of a record are the reports of the stages,** if every rule has a name of its own. -/
theorem splitBy_report (h : Trail steps text stages out)
    (hnames : (steps.map fun s => s.2.name).Nodup) (hstages : ∀ s ∈ stages, s.Reversible) :
    (stages.flatMap Stage.report).splitBy sameRule = stages.map Stage.report := by
  rw [List.flatMap_def]
  refine List.splitBy_flatten ?_ ?_ ?_
  · intro hmem
    obtain ⟨s, hs, hnil⟩ := List.mem_map.1 hmem
    exact (hstages s hs).changed hnil
  · intro run hrun
    obtain ⟨s, -, rfl⟩ := List.mem_map.1 hrun
    refine List.Pairwise.isChain (List.pairwise_of_forall_mem_list fun c hc d hd => ?_)
    obtain ⟨hset, hrule⟩ := Stage.mem_report hc
    obtain ⟨hset', hrule'⟩ := Stage.mem_report hd
    simp [sameRule, hset, hset', hrule, hrule']
  · have hdistinct : stages.Pairwise fun s t => s.rule ≠ t.rule :=
      List.pairwise_map.1 (hnames.sublist h.sublist)
    refine List.Pairwise.isChain (List.pairwise_map.2 (hdistinct.imp_of_mem ?_))
    intro s t hs ht hne
    refine ⟨(hstages s hs).changed, (hstages t ht).changed, ?_⟩
    obtain ⟨-, hrule⟩ := Stage.mem_report (List.getLast_mem (hstages s hs).changed)
    obtain ⟨-, hrule'⟩ := Stage.mem_report (List.head_mem (hstages t ht).changed)
    simp [sameRule, hrule, hrule', hne]

/-- Undoing the stages from the last one to the first leads back. -/
theorem undo_stages (h : Trail steps text stages out) (hstages : ∀ s ∈ stages, s.Reversible) :
    (stages.map Stage.report).reverse.foldlM undoRun out = .ok text := by
  induction h with
  | done => rfl
  | pass _ _ ih => exact ih hstages
  | change _ _ ih =>
    obtain ⟨hstage, hrest⟩ := List.forall_mem_cons.1 hstages
    rw [List.map_cons, List.reverse_cons, List.foldlM_append, ih hrest]
    show [_].foldlM undoRun _ = _
    rw [List.foldlM_cons, hstage.undo]
    rfl

end Trail

/-- The rules of a pass have the declared names. -/
theorem RuleTable.Describes.names_eq {t : RuleTable} {sets : List RuleSet} (h : t.Describes sets) :
    ((steps sets).map fun s => s.2.name) = RuleTable.ruleNames t.sets := by
  calc ((steps sets).map fun s => s.2.name)
      = (sets.map fun s => (s.name, s.rules.map Rule.name)).flatMap Prod.snd := by
        simp [steps, List.map_flatMap, List.flatMap_map, Function.comp_def]
    _ = RuleTable.ruleNames t.sets := by
        rw [h.outline_eq, List.flatMap_map]
        rfl

/-- **A pass can be undone with its result and its record alone.**  The runs of the record belong to the
rules that changed something: each of them finds its old values in the text it was given, and its new ones,
moved, in the text it left. -/
theorem patch_undo {t : RuleTable} {cache : PatternCache} (hvalid : (t.issues.run cache).1 = []) :
    ∃ sets, t.compile.Gives sets ∧ ∀ text out applied, patch sets text = .ok ⟨out, applied⟩ →
      (∃ stages, Trail (steps sets) text stages out ∧
        applied.splitBy sameRule = stages.map Stage.report ∧ ∀ s ∈ stages, s.Reversible) ∧
      undo out applied = .ok text := by
  obtain ⟨hvalids, hnames⟩ := RuleTable.valid_of_issues hvalid
  obtain ⟨sets, hcompile, hdescribes⟩ := RuleTable.compile_of_issues hvalid
  refine ⟨sets, hcompile, fun text out applied hpatch => ?_⟩
  obtain ⟨stages, htrail, rfl⟩ := patch_eq_ok_iff.1 hpatch
  have huniform : ∀ step ∈ steps sets, step.2.Uniform :=
    forall_steps <| forall_of_forall₂ hdescribes fun d hd s hset =>
      forall_of_forall₂ hset.2 fun r hr rule hrule => hrule.uniform (hvalids d hd r hr).complete
  have hstages : ∀ s ∈ stages, s.Reversible :=
    htrail.forall_stages fun step hstep given next changes h => Stage.reversible (huniform step hstep) h
  have hruns := htrail.splitBy_report (by rwa [hdescribes.names_eq]) hstages
  refine ⟨⟨stages, htrail, hruns, hstages⟩, ?_⟩
  rw [undo, hruns]
  exact htrail.undo_stages hstages

/-- Two rules, one of which works on what the other has left. -/
def twoRules : RuleTable :=
  ⟨⟨"two rules", none, none⟩, [⟨"letters", [
    .value "a to b" "x(?P<value>a*)" [] "b" none false,
    .value "b to more" "(?P<value>b)" [] "ccc" none false]⟩]⟩

/-- The two changes of a pass of both, which are at one place, taken back. -/
theorem patch_undo_twoRules :
    ∃ sets, twoRules.compile.Gives sets ∧
      patch sets "xaz" = .ok ⟨"xcccz",
        [⟨"letters", "a to b", "a", "b", .primary, ⟨1, 2⟩⟩,
          ⟨"letters", "b to more", "b", "ccc", .primary, ⟨1, 2⟩⟩]⟩ ∧
      undo "xcccz" [⟨"letters", "a to b", "a", "b", .primary, ⟨1, 2⟩⟩,
        ⟨"letters", "b to more", "b", "ccc", .primary, ⟨1, 2⟩⟩] = .ok "xaz" := by
  have hvalid : (twoRules.issues.run PatternCache.empty).1 = [] := by decide +kernel
  obtain ⟨sets, hgives, hundo⟩ := patch_undo hvalid
  have hpatch : (((ExceptT.run twoRules.compile).run PatternCache.empty).1.map
      fun sets => patch sets "xaz") = .ok (.ok ⟨"xcccz",
        [⟨"letters", "a to b", "a", "b", .primary, ⟨1, 2⟩⟩,
          ⟨"letters", "b to more", "b", "ccc", .primary, ⟨1, 2⟩⟩]⟩) := by
    decide +kernel
  obtain ⟨cache, hrun⟩ := hgives PatternCache.empty
  rw [hrun] at hpatch
  have hpatch := Except.ok.inj hpatch
  exact ⟨sets, hgives, hpatch, (hundo _ _ _ hpatch).2⟩

end LiteralPatch
