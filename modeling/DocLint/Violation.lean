import DocLint.Json.Basic
import DocLint.Severity

/-!
# Violations

A rule reports a line with some detail. The report becomes a violation when it is stamped with the
identity of the rule and the severity that is configured for it.
-/

namespace DocLint

set_option autoImplicit false

/-- What a rule reports of a line. -/
structure Report where
  /-- The number of the line, counted from one. -/
  line : Nat
  detail : Option String
  /-- Text near the problem, usually the line itself. -/
  context : Option String
  deriving DecidableEq, Repr

/-- A problem that was found by a rule. -/
structure Violation where
  /-- The primary name of the rule. -/
  ruleName : String
  ruleNames : List String
  description : String
  /-- Where the rule is documented. -/
  information : Option String
  line : Nat
  detail : Option String
  context : Option String
  severity : Severity
  deriving DecidableEq, Repr

namespace Violation

/-- What two violations have in common when one of them is a duplicate of the other. -/
abbrev Key := String × Nat × Option String

/-- The rule, line and detail of a violation. -/
def key (v : Violation) : Key :=
  (v.ruleName, v.line, v.detail)

/-- Whether `v` may stand before `w`: by line first, then by the name of the rule. -/
def before (v w : Violation) : Bool :=
  v.line < w.line || (v.line == w.line && !Text.bytesLt w.ruleName v.ruleName)

/-- The members of a violation in the order in which they are written. What is absent is left out. -/
def members (v : Violation) : List (String × Json) :=
  [("rule_name", .string v.ruleName),
    ("rule_names", .array (v.ruleNames.map .string)),
    ("rule_description", .string v.description)] ++
  (v.information.map fun s => ("rule_information", Json.string s)).toList ++
  [("line_number", Json.ofNat v.line)] ++
  (v.detail.map fun s => ("detail", Json.string s)).toList ++
  (v.context.map fun s => ("context", Json.string s)).toList ++
  [("severity", .string v.severity.name)]

end Violation

end DocLint
