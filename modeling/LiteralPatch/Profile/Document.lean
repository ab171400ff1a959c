import LiteralPatch.Profile

/-!
# The documents of the profiles

A profile is written down as any table is: in a text.  The two texts have the same parts in the same order,
with a head of their own, and with the line of the marker in every flag.  The family has its quota checks
behind the rest.

The parts are given as their lines.  A line that is not the same in both texts is a parameter, as it stands.
-/

namespace LiteralPatch
namespace Profile

/-- The text of some lines, each with its end. -/
def unlines (lines : List String) : String := String.join (lines.map fun l => l ++ "\n")

/-! ## The parts -/

/-- What the table says about itself, with a remark on top. -/
def headLines (remark name description : String) : List String := [
  remark,
  "# (workbench.desktop.main.js, 1.2.x series).",
  "#",
  "# Rule sets run top to bottom. Each rule's output feeds the next rule.",
  "",
  "[meta]",
  name,
  description,
  "version_range = \">=1.2.0\"",
  ""]

def numberLines : List String := [
  "[[rule_sets]]",
  "name = \"token-limit\"",
  "",
  "[[rule_sets.rules]]",
  "kind = \"value\"",
  "name = \"token-limit\"",
  "primary = '''async getEffectiveTokenLimit\\([^)]*\\)\\s*\\\x7b[^\x7d]*?if\\s*\\([^)]*\\)\\s*\\\x7b[^\x7d]*?return[^\x7d]*?\\b(?P<value>\\d\x7b3,6\x7d)\\b[^\x7d]*?\\\x7d[^\x7d]*?\\\x7d'''",
  "fallbacks = ['''\\breturn\\s+(?P<value>\\d\x7b3,6\x7d)\\s*[;\x7d]''']",
  "replacement = \"200000\"",
  "guard = \x7b type = \"less-than\", value = 200000 \x7d",
  "",
  "[[rule_sets]]",
  "name = \"thinking-level\"",
  "",
  "[[rule_sets.rules]]",
  "kind = \"value\"",
  "name = \"thinking-level\"",
  "primary = '''getModeThinkingLevel\\([^)]*\\)\\s*\\\x7b[^\x7d]*?return[^\x7d]*?\\b(?P<value>[012])\\b[^\x7d]*?\\\x7d'''",
  "replacement = \"2\"",
  "guard = \x7b type = \"one-of\", values = [\"0\", \"1\"] \x7d",
  ""]

/-- The flags of a model; `remarks` stand in front of the last of them. -/
def modelFlagLines (marker : String) (remarks : List String) : List String := [
  "[[rule_sets]]",
  "name = \"model-availability\"",
  "",
  "[[rule_sets.rules]]",
  "kind = \"flag\"",
  "name = \"available\"",
  marker,
  "key = \"available\"",
  "from = false",
  "to = true",
  "scope = \"keyed-object\"",
  "",
  "[[rule_sets.rules]]",
  "kind = \"flag\"",
  "name = \"enabled\"",
  marker,
  "key = \"enabled\"",
  "from = false",
  "to = true",
  "",
  "[[rule_sets.rules]]",
  "kind = \"flag\"",
  "name = \"requires-pro\"",
  marker,
  "key = \"requiresPro\"",
  "from = true",
  "to = false",
  "",
  "[[rule_sets.rules]]",
  "kind = \"flag\"",
  "name = \"visible\"",
  marker,
  "key = \"visible\"",
  "from = false",
  "to = true",
  ""] ++ remarks ++ [
  "[[rule_sets.rules]]",
  "kind = \"flag\"",
  "name = \"beta\"",
  "marker = \"claude\"",
  "key = \"beta\"",
  "from = true",
  "to = false",
  ""]

def productFlagLines (marker : String) : List String := [
  "[[rule_sets]]",
  "name = \"product-flags\"",
  "",
  "[[rule_sets.rules]]",
  "kind = \"flag\"",
  "name = \"disabled\"",
  marker,
  "key = \"disabled\"",
  "from = true",
  "to = false",
  "scope = \"object\"",
  "",
  "[[rule_sets.rules]]",
  "kind = \"flag\"",
  "name = \"hidden\"",
  marker,
  "key = \"hidden\"",
  "from = true",
  "to = false",
  "scope = \"object\"",
  ""]

/-- A check on a word, with the line of its pattern. -/
def gateLines (name primary : String) : List String := [
  "[[rule_sets.rules]]",
  "kind = \"value\"",
  name,
  primary,
  "replacement = \"true\"",
  "case_insensitive = true"]

def productGateLines : List String :=
  gateLines "name = \"subscription-gate\""
    "primary = '''if\\s*\\([^)]*subscription[^)]*\\)[^\x7b]*\\\x7b[^\x7d]*?return\\s+(?P<value>false)\\b'''" ++
  [""] ++
  gateLines "name = \"pro-gate\""
    "primary = '''if\\s*\\([^)]*isPro[^)]*\\)[^\x7b]*\\\x7b[^\x7d]*?return\\s+(?P<value>null)\\b'''"

def quotaGateLines : List String :=
  ["", "# Family-wide quota checks; the claude-4 table leaves these alone"] ++
  gateLines "name = \"rate-limit-gate\""
    "primary = '''if\\s*\\([^)]*rateLimit[^)]*\\)[^\x7b]*\\\x7b[^\x7d]*?return\\s+(?P<value>false)\\b'''" ++
  [""] ++
  gateLines "name = \"usage-limit-gate\""
    "primary = '''if\\s*\\([^)]*usageLimit[^)]*\\)[^\x7b]*\\\x7b[^\x7d]*?return\\s+(?P<value>false)\\b'''"

/-! ## The documents -/

def modelLines : List String :=
  headLines "# Claude 4 Sonnet profile for the editor workbench bundle" "name = \"claude-4\""
    "description = \"Raise the Claude 4 token limit, force the highest thinking level, unlock Claude 4 model flags\"" ++
  numberLines ++
  modelFlagLines "marker = \"claude-4\"" ["# Beta gating is shared across the whole family"] ++
  productFlagLines "marker = \"claude-4\"" ++ productGateLines

def familyLines : List String :=
  headLines "# Claude family profile (3.7 and later) for the editor workbench bundle" "name = \"claude\""
    "description = \"Raise the Claude token limit, force the highest thinking level, unlock every Claude model flag, lift rate and usage limit checks\"" ++
  numberLines ++ modelFlagLines "marker = \"claude\"" [] ++ productFlagLines "marker = \"claude\"" ++
  productGateLines ++ quotaGateLines

/-- The profiles, with the texts they are written down in. -/
def documents : List (Profile × String) :=
  [(model, unlines modelLines), (family, unlines familyLines)]

/-- The text of the profile with a name. -/
def document? (name : String) : Option String :=
  (documents.find? fun d => Text.lowerAscii d.1.name == Text.lowerAscii name).map Prod.snd

end Profile
end LiteralPatch
