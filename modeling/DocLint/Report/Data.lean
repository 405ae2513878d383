import DocLint.Json.Printer
import DocLint.Pass.Result

/-!
# Reports as data

A result is an object whose members stand in a fixed order. Empty lists of failures and timings are left
out.
-/

namespace DocLint.Report

set_option autoImplicit false

def failureData (f : RuleFailure) : Json :=
  .object [("rule", .string f.rule), ("error", .string f.error.message)]

/-- A rule that ran as data. -/
def timingData (rule : String) : Json :=
  .object [("rule", .string rule), ("elapsed_ms", Json.ofNat 0)]

/-- A member with a list, unless that is empty. -/
def listMember {α : Type} (key : String) (f : α → Json) (l : List α) : List (String × Json) :=
  if l.isEmpty then [] else [(key, .array (l.map f))]

def resultData (r : LintResult) : Json :=
  .object ([("name", .string r.name),
    ("violations", .array (r.violations.map fun v => .object v.members))] ++
    listMember "failures" failureData r.failures ++ listMember "timings" timingData r.timings)

def dataText (results : List LintResult) : String :=
  (Json.array (results.map resultData)).pretty

end DocLint.Report
