import DocLint.Document
import DocLint.Rule.Error
import DocLint.Violation

/-!
# What a rule does

A rule is a function of its input, to a trace of what it does: its actions and how it ends. It reports, it
calls an analyzer, and it may pause between two actions to let other rules go on.
-/

namespace DocLint

set_option autoImplicit false

/-- What a rule is given. -/
structure RuleInput where
  document : Document
  /-- The options of the rule; `null` if there are none. -/
  options : Json
  deriving Repr

inductive Action where
  | report (r : Report)
  | call (c : AnalyzerCall)
  /-- Lets other rules go on. -/
  | pause
  deriving Repr

/-- How a rule ends. -/
inductive Outcome where
  | finished
  | failed (e : RuleError)
  /-- The rule broke off, with a text if it left one. -/
  | panicked (message : Option String)
  deriving DecidableEq, Repr

/-- The error of a rule that did not end well. -/
def Outcome.error? : Outcome → Option RuleError
  | finished => none
  | failed e => some e
  | panicked m => some (.ofPanic m)

/-- What a rule does on one document. -/
structure Trace where
  actions : List Action
  outcome : Outcome
  deriving Repr

namespace Trace

/-- A trace that does nothing and breaks off. -/
def panicking (message : Option String) : Trace :=
  ⟨[], .panicked message⟩

/-- A trace that makes some reports and ends well. -/
def ofReports (reports : List Report) : Trace :=
  ⟨reports.map .report, .finished⟩

/-- The reports among some actions. -/
def reportsOf : List Action → List Report
  | [] => []
  | .report r :: rest => r :: reportsOf rest
  | _ :: rest => reportsOf rest

@[simp] theorem reportsOf_nil : reportsOf [] = [] := rfl

@[simp] theorem reportsOf_report (r : Report) (rest : List Action) :
    reportsOf (.report r :: rest) = r :: reportsOf rest := rfl

@[simp] theorem reportsOf_call (c : AnalyzerCall) (rest : List Action) :
    reportsOf (.call c :: rest) = reportsOf rest := rfl

@[simp] theorem reportsOf_pause (rest : List Action) :
    reportsOf (.pause :: rest) = reportsOf rest := rfl

@[simp] theorem reportsOf_append (a b : List Action) :
    reportsOf (a ++ b) = reportsOf a ++ reportsOf b := by
  induction a with
  | nil => rfl
  | cons x rest ih => cases x <;> simp [ih]

@[simp] theorem reportsOf_map_report (reports : List Report) :
    reportsOf (reports.map .report) = reports := by
  induction reports with
  | nil => rfl
  | cons r rest ih => simp [ih]

/-- The calls among some actions. -/
def callsOf : List Action → List AnalyzerCall
  | [] => []
  | .call c :: rest => c :: callsOf rest
  | _ :: rest => callsOf rest

@[simp] theorem callsOf_nil : callsOf [] = [] := rfl

@[simp] theorem callsOf_report (r : Report) (rest : List Action) :
    callsOf (.report r :: rest) = callsOf rest := rfl

@[simp] theorem callsOf_call (c : AnalyzerCall) (rest : List Action) :
    callsOf (.call c :: rest) = c :: callsOf rest := rfl

@[simp] theorem callsOf_pause (rest : List Action) :
    callsOf (.pause :: rest) = callsOf rest := rfl

@[simp] theorem callsOf_append (a b : List Action) :
    callsOf (a ++ b) = callsOf a ++ callsOf b := by
  induction a with
  | nil => rfl
  | cons x rest ih => cases x <;> simp [ih]

def reports (t : Trace) : List Report :=
  reportsOf t.actions

def calls (t : Trace) : List AnalyzerCall :=
  callsOf t.actions

end Trace

end DocLint
