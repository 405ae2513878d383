import DocLint.Rule.Descriptor
import DocLint.Rule.Error
import DocLint.Violation

/-!
# Reporters

A reporter takes the reports of one rule on one document. It turns a report on a line of the document
into a violation, and any other report into a defect of the rule.
-/

namespace DocLint

set_option autoImplicit false

/-- A reporter, with what it has been told so far. -/
structure Reporter where
  descriptor : Descriptor
  severity : Severity
  /-- The number of lines of the document. -/
  lineCount : Nat
  violations : List Violation
  defects : List RuleError
  deriving Repr

namespace Reporter

/-- A reporter that has not been told anything. -/
def new (descriptor : Descriptor) (severity : Severity) (lineCount : Nat) : Reporter :=
  ⟨descriptor, severity, lineCount, [], []⟩

/-- Whether a line is one of the document. -/
def accepts (r : Reporter) (line : Nat) : Bool :=
  1 ≤ line && line ≤ r.lineCount

/-- The violation that a report stands for. -/
def stamp (descriptor : Descriptor) (severity : Severity) (report : Report) : Violation where
  ruleName := descriptor.name
  ruleNames := descriptor.names
  description := descriptor.description
  information := descriptor.information
  line := report.line
  detail := report.detail
  context := report.context
  severity

/-- Takes a report. -/
def report (r : Reporter) (report : Report) : Reporter :=
  if r.accepts report.line then
    { r with violations := r.violations ++ [stamp r.descriptor r.severity report] }
  else
    { r with defects := r.defects ++ [.invalidLine report.line r.lineCount] }

/-- Takes reports in order. -/
def reportAll (r : Reporter) (reports : List Report) : Reporter :=
  reports.foldl Reporter.report r

@[simp] theorem reportAll_nil (r : Reporter) : r.reportAll [] = r := rfl

@[simp] theorem reportAll_cons (r : Reporter) (x : Report) (rest : List Report) :
    r.reportAll (x :: rest) = (r.report x).reportAll rest := rfl

theorem reportAll_append (r : Reporter) (a b : List Report) :
    r.reportAll (a ++ b) = (r.reportAll a).reportAll b :=
  List.foldl_append

/-- A reporter keeps the reports on lines of the document as violations and the others as defects, both in
the order in which they are made. -/
theorem reportAll_eq (r : Reporter) (reports : List Report) :
    r.reportAll reports = { r with
      violations := r.violations ++
        (reports.filter fun x => r.accepts x.line).map (stamp r.descriptor r.severity)
      defects := r.defects ++
        (reports.filter fun x => !r.accepts x.line).map fun x => .invalidLine x.line r.lineCount } := by
  induction reports generalizing r with
  | nil => simp
  | cons x rest ih =>
    have hsame (vs : List Violation) (ds : List RuleError) (line : Nat) :
        { r with violations := vs, defects := ds : Reporter }.accepts line = r.accepts line := rfl
    rw [reportAll_cons, ih, report]
    cases hx : r.accepts x.line
    · simp [hsame, hx]
    · simp [hsame, hx]

/-- Hands over what was collected, and begins anew. -/
def take (r : Reporter) : (List Violation × List RuleError) × Reporter :=
  ((r.violations, r.defects), { r with violations := [], defects := [] })

end Reporter

end DocLint
