import LiteralPatch.Diff.Script

/-!
# Scripts in their usual form

A script often may be shifted without changing what it does: an insertion whose last line equals the line
before it can as well be made one line earlier.  Every run is pushed up as far as it goes, which brings it
together with runs of its kind, and then down again.  Deletions are pushed first, then insertions.

A run is looked at together with the runs before it, nearest first, and the runs after it.
-/

namespace LiteralPatch
namespace Diff

namespace Op

/-- Where the run ends in the old sequence. -/
def oldStop (o : Op) : Nat :=
  match o.kind with
  | .insert => o.old
  | _ => o.old + o.length

/-- Where the run ends in the new sequence. -/
def newStop (o : Op) : Nat :=
  match o.kind with
  | .delete => o.new
  | _ => o.new + o.length

end Op

/-- A run between the runs before it, nearest first, and those after it. -/
structure Focus where
  before : List Op
  here : Op
  after : List Op

namespace Focus

/-- Adds `n` equal lines in front of what follows. -/
def pushAfter (equal : Op) (n : Nat) (after : List Op) : List Op :=
  match after with
  | next :: rest =>
    if next.kind = .equal then ⟨.equal, next.old - n, next.new - n, next.length + n⟩ :: rest
    else equal :: after
  | [] => [equal]

/-- Adds `n` equal lines behind what comes before. -/
def pushBefore (equal : Op) (n : Nat) (before : List Op) : List Op :=
  match before with
  | prev :: rest =>
    if prev.kind = .equal then { prev with length := prev.length + n } :: rest else equal :: before
  | [] => [equal]

/-- One step upwards, if there is one. -/
def stepUp (a b : Array String) (f : Focus) : Option Focus :=
  match f.before with
  | [] => none
  | prev :: before =>
    if prev.kind = .equal then
      let n := commonEnd a b prev.old prev.oldStop f.here.new f.here.newStop
      if 0 < n then
        let equal : Op := ⟨.equal, prev.oldStop - n, f.here.newStop - n, n⟩
        let left := { prev with length := prev.length - n }
        some ⟨if left.length = 0 then before else left :: before,
          { f.here with old := f.here.old - n, new := f.here.new - n }, pushAfter equal n f.after⟩
      else if prev.length = 0 then some ⟨before, f.here, f.after⟩
      else none
    else if prev.kind = f.here.kind then
      some ⟨before, { prev with length := prev.length + f.here.length }, f.after⟩
    else some ⟨before, f.here, prev :: f.after⟩

/-- One step downwards, if there is one. -/
def stepDown (a b : Array String) (f : Focus) : Option Focus :=
  match f.after with
  | [] => none
  | next :: after =>
    if next.kind = .equal then
      let n := commonStart a b next.old next.oldStop f.here.new f.here.newStop
      if 0 < n then
        let equal : Op := ⟨.equal, next.old, f.here.new, n⟩
        let right : Op := ⟨.equal, next.old + n, next.new + n, next.length - n⟩
        some ⟨pushBefore equal n f.before,
          { f.here with old := f.here.old + n, new := f.here.new + n },
          if right.length = 0 then after else right :: after⟩
      else if next.length = 0 then some ⟨f.before, f.here, after⟩
      else none
    else if next.kind = f.here.kind then
      some ⟨f.before, { f.here with length := f.here.length + next.length }, after⟩
    else some ⟨next :: f.before, f.here, after⟩

/-- Takes at most `fuel` steps. -/
def steps (step : Focus → Option Focus) : Nat → Focus → Focus
  | 0, f => f
  | fuel + 1, f =>
    match step f with
    | some next => steps step fuel next
    | none => f

end Focus

/-- Pushes every run of a kind up and down again; `fuel` bounds the runs and the steps of each. -/
def slideKind (a b : Array String) (kind : Kind) (bound : Nat) : Nat → List Op → List Op → List Op
  | 0, before, after => before.reverse ++ after
  | _, before, [] => before.reverse
  | fuel + 1, before, here :: after =>
    if here.kind = kind then
      let up := Focus.steps (Focus.stepUp a b) bound ⟨before, here, after⟩
      let down := Focus.steps (Focus.stepDown a b) bound up
      slideKind a b kind bound fuel (down.here :: down.before) down.after
    else slideKind a b kind bound fuel (here :: before) after

/-- The script in its usual form. -/
def slide (a b : Array String) (ops : List Op) : List Op :=
  let bound := 2 * (a.size + b.size + ops.length) + 2
  let deleted := slideKind a b .delete bound bound [] ops
  slideKind a b .insert bound bound [] deleted

end Diff
end LiteralPatch
