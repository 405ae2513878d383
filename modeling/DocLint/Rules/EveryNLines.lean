import DocLint.Json.Printer
import DocLint.Rule

/-!
# The rule `every-n-lines`

Every line is reported whose number is a multiple of the option `n`. Anything that is not a positive
integer counts as two.
-/

namespace DocLint.EveryNLines

set_option autoImplicit false

/-- The description of the rule. -/
def descriptor : Descriptor where
  names := ["every-n-lines"]
  description := "Rule that reports an error every N lines"
  tags := ["test"]
  information := none
  parser := .markdown
  asynchronous := false

/-- The period unless configured otherwise. -/
def defaultPeriod : Nat := 2

/-- The greatest period. -/
def maxPeriod : Nat := Nat.pow 2 64 - 1

/-- The period that a number stands for. -/
def periodOf? : JsonNumber → Option Nat
  | .integer n => if 0 < n then some n.toNat else none
  | .double x =>
    if x.negative then none
    else x.toNat?.bind fun n => if n = 0 then none else some (min n maxPeriod)

/-- The period under some options. -/
def period (options : Json) : Nat :=
  match options.member? "n" with
  | some (.number n) => (periodOf? n).getD defaultPeriod
  | _ => defaultPeriod

/-- Accepts an object and the absence of options. -/
def validate : Json → Verdict
  | .null => .accepted
  | .object _ => .accepted
  | v => .rejected (.config ("expected an options object, found " ++ v.compact))

def reportOf (line : Nat) : Report :=
  ⟨line, some ("Line number " ++ toString line), none⟩

def reports (n : Nat) (document : Document) : List Report :=
  (document.index.mapRecords fun _ i =>
    if (i + 1) % n = 0 then some (reportOf (i + 1)) else none).filterMap id

/-- What the rule does. -/
def run (input : RuleInput) : Trace :=
  .ofReports (reports (period input.options) input.document)

def rule : Except DefinitionError Rule :=
  Rule.define descriptor validate (.sync run)

end DocLint.EveryNLines
