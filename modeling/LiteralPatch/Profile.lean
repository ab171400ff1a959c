import LiteralPatch.Table.Definition
import LiteralPatch.Text.Similarity
import LiteralPatch.Text.Words

/-!
# Built-in profiles

Two tables of rules come with the program, one for a single model and one for its whole family.  They
have the same sets of rules: the token limit, the thinking level, what is available, and product flags;
the table of the family also lifts quota checks.  They differ in the markers of their flags.

The tables are given here as data; `Profile.documents` has the texts that declare them.

A profile is found by its name, up to ASCII case.  A name that is not found may be close to one that
exists.
-/

namespace LiteralPatch

/-- A table under a name. -/
structure Profile where
  name : String
  table : RuleTable
deriving DecidableEq, Repr

namespace Profile

/-! ## The rules -/

def tokenLimit : RuleDefinition :=
  .value "token-limit"
    ("async getEffectiveTokenLimit\\([^)]*\\)\\s*\\\x7b[^\x7d]*?if\\s*\\([^)]*\\)\\s*\\\x7b[^\x7d]*?" ++
      "return[^\x7d]*?\\b(?P<value>\\d\x7b3,6\x7d)\\b[^\x7d]*?\\\x7d[^\x7d]*?\\\x7d")
    ["\\breturn\\s+(?P<value>\\d\x7b3,6\x7d)\\s*[;\x7d]"]
    "200000" (some (.lessThan 200000)) false

def thinkingLevel : RuleDefinition :=
  .value "thinking-level"
    ("getModeThinkingLevel\\([^)]*\\)\\s*\\\x7b[^\x7d]*?" ++
      "return[^\x7d]*?\\b(?P<value>[012])\\b[^\x7d]*?\\\x7d")
    [] "2" (some (.oneOf ["0", "1"])) false

/-- What a condition on a word returns when it holds. -/
def gatePattern (word literal : String) : String :=
  "if\\s*\\([^)]*" ++ word ++ "[^)]*\\)[^\x7b]*\\\x7b[^\x7d]*?return\\s+(?P<value>" ++ literal ++ ")\\b"

/-- Lets a check on a word succeed. -/
def gate (name word literal : String) : RuleDefinition :=
  .value name (gatePattern word literal) [] "true" none true

/-- The flags of a model. -/
def modelFlags (marker : String) : List RuleDefinition := [
  .flag "available" marker "available" false true .keyedObject,
  .flag "enabled" marker "enabled" false true .entry,
  .flag "requires-pro" marker "requiresPro" true false .entry,
  .flag "visible" marker "visible" false true .entry,
  .flag "beta" "claude" "beta" true false .entry]

/-- The flags and checks of the product. -/
def productFlags (marker : String) : List RuleDefinition := [
  .flag "disabled" marker "disabled" true false .object,
  .flag "hidden" marker "hidden" true false .object,
  gate "subscription-gate" "subscription" "false",
  gate "pro-gate" "isPro" "null"]

/-- The checks of quotas. -/
def quotaGates : List RuleDefinition := [
  gate "rate-limit-gate" "rateLimit" "false",
  gate "usage-limit-gate" "usageLimit" "false"]

/-! ## The tables -/

/-- The sets of rules for a marker, with further product flags. -/
def sets (marker : String) (more : List RuleDefinition) : List RuleSetDefinition := [
  ⟨"token-limit", [tokenLimit]⟩,
  ⟨"thinking-level", [thinkingLevel]⟩,
  ⟨"model-availability", modelFlags marker⟩,
  ⟨"product-flags", productFlags marker ++ more⟩]

/-- The host versions that the tables are made for. -/
def hostVersions : String := ">=1.2.0"

/-- The table for a single model. -/
def model : Profile :=
  ⟨"claude-4",
    ⟨⟨"claude-4",
      some ("Raise the Claude 4 token limit, force the highest thinking level, " ++
        "unlock Claude 4 model flags"),
      some hostVersions⟩, sets "claude-4" []⟩⟩

/-- The table for the whole family. -/
def family : Profile :=
  ⟨"claude",
    ⟨⟨"claude",
      some ("Raise the Claude token limit, force the highest thinking level, " ++
        "unlock every Claude model flag, lift rate and usage limit checks"),
      some hostVersions⟩, sets "claude" quotaGates⟩⟩

/-- All profiles. -/
def all : List Profile := [model, family]

/-- The profile that is used when none is named. -/
def default : Profile := model

/-! ## Finding one -/

def availableNames : List String := all.map Profile.name

/-- The profile with a name. -/
def find? (name : String) : Option Profile :=
  all.find? fun p => Text.lowerAscii p.name == Text.lowerAscii name

/-- The similarity from which on a name is suggested. -/
def closeEnough : Float := 0.8

/-- The name closest to a given one, if any is close enough; of equally close ones the later. -/
def closest (name : String) : Option String :=
  let scored := availableNames.map fun known =>
    (known, Text.Similarity.jaroWinkler (Text.lowerAscii name).toList known.toList)
  let best := (scored.filter fun s => closeEnough ≤ s.2).foldl
    (fun best s =>
      match best with
      | some b => if b.2 ≤ s.2 then some s else some b
      | none => some s) none
  best.map Prod.fst

end Profile
end LiteralPatch
