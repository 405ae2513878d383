/-!
# Severities

A violation is an error or a warning; the configuration says which, rule by rule.
-/

namespace DocLint

set_option autoImplicit false

/-- The severity of a violation. -/
inductive Severity where
  | error
  | warning
  deriving DecidableEq, Repr

namespace Severity

def name : Severity → String
  | error => "error"
  | warning => "warning"

def ofName? (s : String) : Option Severity :=
  if s == "error" then some error
  else if s == "warning" then some warning
  else none

/-- What is said of a name that no severity has. -/
def unknownMessage (s : String) : String :=
  "unknown severity '" ++ s ++ "'"

/-- The names of all severities. -/
def choices : List (String × Severity) :=
  [("error", error), ("warning", warning)]

theorem ofName?_name (s : Severity) : ofName? s.name = some s := by
  cases s <;> decide

end Severity

end DocLint
