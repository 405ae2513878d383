import DocLint.Rule.Error
import DocLint.Violation

/-!
# Results

The result of linting one document: its violations, the rules that failed, and which rules ran.
-/

namespace DocLint

set_option autoImplicit false

/-- The result of linting a document. -/
structure LintResult where
  /-- The name of the document. -/
  name : String
  violations : List Violation
  failures : List RuleFailure
  /-- The primary names of the rules that ran, if that is recorded. -/
  timings : List String
  deriving DecidableEq, Repr

namespace LintResult

def hasViolations (r : LintResult) : Bool :=
  !r.violations.isEmpty

/-- Whether some violation is an error. -/
def hasErrors (r : LintResult) : Bool :=
  r.violations.any fun v => v.severity = .error

/-- Whether nothing was found and no rule failed. -/
def isClean (r : LintResult) : Bool :=
  r.violations.isEmpty && r.failures.isEmpty

end LintResult

end DocLint
