import DocLint.Analyzer

/-!
# Failures of rules

A rule that fails does not stop the others: its error is listed beside the violations.
-/

namespace DocLint

set_option autoImplicit false

/-- What went wrong with a rule. -/
inductive RuleError where
  /-- Its options are malformed, or its parser is missing. -/
  | config (message : String)
  | execution (message : String)
  /-- A tool outside of the linter failed. -/
  | external (message : String)
  /-- The rule broke off. -/
  | panic (message : String)
  /-- It reported a line that the document does not have. -/
  | invalidLine (line lineCount : Nat)
  deriving DecidableEq, Repr

namespace RuleError

/-- The text of an error. -/
def message : RuleError → String
  | config m => "invalid configuration: " ++ m
  | execution m => "execution failed: " ++ m
  | external m => "external analyzer failed: " ++ m
  | panic m => "rule panicked: " ++ m
  | invalidLine line lineCount =>
    "reported line " ++ toString line ++ " outside of document with " ++ toString lineCount ++ " lines"

/-- The error of a rule whose analyzer failed. -/
def ofAnalyzer (e : AnalyzerError) : RuleError :=
  .external e.message

/-- The error of a rule that broke off, with a text if it left one. -/
def ofPanic (message : Option String) : RuleError :=
  .panic (message.getD "unknown panic")

end RuleError

structure RuleFailure where
  /-- The primary name of the rule. -/
  rule : String
  error : RuleError
  deriving DecidableEq, Repr

end DocLint
