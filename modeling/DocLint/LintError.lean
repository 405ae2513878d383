import DocLint.Parser

/-!
# Errors of the linter

What keeps the linter from doing its work, as opposed to a rule that fails.
-/

namespace DocLint

set_option autoImplicit false

/-- Why the linter gave up. -/
inductive LintError where
  /-- The configuration is invalid. -/
  | config (message : String)
  /-- A file cannot be read. -/
  | file (message : String)
  /-- A source has no tokens. -/
  | parse (cause : ParseError)
  | io (message : String)
  | internal (message : String)
  deriving DecidableEq, Repr

/-- The text of an error. -/
def LintError.message : LintError → String
  | config m => "Configuration error: " ++ m
  | file m => "File error: " ++ m
  | parse e => "Parse error: " ++ e.message
  | io m => "I/O error: " ++ m
  | internal m => "Internal error: " ++ m

end DocLint
