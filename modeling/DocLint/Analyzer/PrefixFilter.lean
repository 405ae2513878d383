import DocLint.Analyzer
import DocLint.Text.Ascii

/-!
# Filtering the rules of an analyzer

Rules of the tool are dropped by the beginning of their names: a rule is dropped when its name begins
with something denied and with nothing allowed.
-/

namespace DocLint

set_option autoImplicit false

/-- Beginnings of names that are allowed or denied. -/
structure PrefixFilter where
  allow : List String
  deny : List String
  deriving DecidableEq, Repr

namespace PrefixFilter

/-- What is denied unless configured otherwise: tools that are set up for whole projects. -/
def defaultDeny : List String :=
  ["jsdoc/", "n/", "regexp/", "unicorn/"]

/-- The filter that is used unless configured otherwise. -/
def standard : PrefixFilter :=
  ⟨[], defaultDeny⟩

/-- Whether a rule is kept. -/
def allows (f : PrefixFilter) (name : String) : Bool :=
  !f.deny.any (Text.startsWith name) || f.allow.any (Text.startsWith name)

/-- Drops rules from a configuration. -/
def apply (f : PrefixFilter) (config : AnalyzerConfig) : AnalyzerConfig :=
  { config with rules := config.rules.filter fun m => f.allows m.1 }

@[simp] theorem apply_rest (f : PrefixFilter) (config : AnalyzerConfig) :
    (f.apply config).rest = config.rest := rfl

theorem mem_apply_rules (f : PrefixFilter) (config : AnalyzerConfig) (m : String × Json) :
    m ∈ (f.apply config).rules ↔ m ∈ config.rules ∧ f.allows m.1 = true := by
  simp [apply]

end PrefixFilter

end DocLint
