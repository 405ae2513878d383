import DocLint.Pass.Result

/-!
# Reports as text

One line for every violation, then a summary. What went wrong with rules is said apart from that.
-/

namespace DocLint.Report

set_option autoImplicit false

/-- The line of a violation. Without a detail the description of the rule stands for it. -/
def violationLine (name : String) (v : Violation) : String :=
  name ++ ":" ++ toString v.line ++ " " ++ "/".intercalate v.ruleNames ++ " " ++
    v.detail.getD v.description ++
    (if v.severity = .warning then " (warning)" else "") ++
    (match v.context with
      | some c => " [Context: \"" ++ c ++ "\"]"
      | none => "")

def violationLines (r : LintResult) : List String :=
  r.violations.map (violationLine r.name)

/-- The lines about the rules that failed. -/
def failureLines (r : LintResult) : List String :=
  r.failures.map fun f => r.name ++ ": rule '" ++ f.rule ++ "' failed: " ++ f.error.message

/-- The number of violations. -/
def issueCount (results : List LintResult) : Nat :=
  (results.flatMap LintResult.violations).length

/-- The number of violations that are warnings. -/
def warningCount (results : List LintResult) : Nat :=
  ((results.flatMap LintResult.violations).filter fun v => v.severity = .warning).length

/-- The number of violations that are errors. -/
def errorCount (results : List LintResult) : Nat :=
  issueCount results - warningCount results

/-- The line that counts files and violations. -/
def summaryLine (results : List LintResult) : String :=
  "Checked " ++ toString results.length ++ " files, found " ++ toString (issueCount results) ++
    " issues (" ++ toString (errorCount results) ++ " errors, " ++
    toString (warningCount results) ++ " warnings)"

/-! ## Timings

The library knows which rules ran. It does not measure time, so every duration is zero. -/

/-- A text filled up with a character to a width. -/
def pad (width : Nat) (fill : Char) (s : String) : String :=
  s ++ String.ofList (List.replicate (width - s.length) fill)

/-- A row of the table. -/
def timingRow (rule duration : String) : String :=
  pad 30 ' ' rule ++ " | " ++ pad 15 ' ' duration

/-- The rule between the parts of the table. -/
def timingRuler : String :=
  pad 30 '-' "" ++ "-+-" ++ pad 15 '-' "" ++ "-+-" ++ pad 10 '-' ""

/-- The names of the rules that ran, sorted, each once. -/
def timedRules (results : List LintResult) : List String :=
  ((results.flatMap LintResult.timings).eraseDups).mergeSort fun a b => !Text.bytesLt b a

/-- The lines of the table; none if no rule ran. -/
def timingLines (results : List LintResult) : List String :=
  match timedRules results with
  | [] => []
  | rules =>
    ["", "Performance Timings:", timingRow "Rule" "Duration" ++ " | " ++ pad 10 ' ' "%", timingRuler] ++
      rules.map (fun rule => timingRow rule "0ns" ++ " | " ++ pad 10 ' ' "0.0" ++ "%") ++
      [timingRuler, timingRow "Total" "0ns"]

def textLines (results : List LintResult) (timings : Bool) : List String :=
  results.flatMap violationLines ++ ["", summaryLine results] ++
    (if timings then timingLines results else [])

end DocLint.Report
