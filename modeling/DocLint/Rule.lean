import DocLint.Rule.Descriptor
import DocLint.Rule.Trace

/-!
# Rules

A rule has a description, a check of its options and a function. A function that may wait is started
before it runs; it can already break off there.
-/

namespace DocLint

set_option autoImplicit false

/-- What a rule says of its options. -/
inductive Verdict where
  | accepted
  | rejected (e : RuleError)
  /-- The check broke off, with a text if it left one. -/
  | panicked (message : Option String)
  deriving DecidableEq, Repr

/-- How a function that may wait starts: what the call does at once, and what comes of it. -/
inductive Start where
  | started (atOnce : List Action) (t : Trace)
  /-- The call broke off before there was anything to wait for. -/
  | panicked (atOnce : List Action) (message : Option String)
  deriving Repr

inductive RuleFunction where
  /-- Runs to its end when it is called; its pauses mean nothing. -/
  | sync (run : RuleInput → Trace)
  /-- Goes on whenever it gets a turn. -/
  | async (start : RuleInput → Start)

namespace RuleFunction

/-- Whether a function may wait. -/
def isAsync : RuleFunction → Bool
  | sync _ => false
  | async _ => true

end RuleFunction

/-- A rule. Its description is valid and fits its function. -/
structure Rule where
  descriptor : Descriptor
  /-- Checks options before the rule is called. -/
  validate : Json → Verdict
  function : RuleFunction
  valid : descriptor.check = .ok ()
  fits : descriptor.asynchronous = function.isAsync

namespace Rule

/-- Defines a rule, if its description is valid and fits the function. -/
def define (descriptor : Descriptor) (validate : Json → Verdict) (function : RuleFunction) :
    Except DefinitionError Rule :=
  match hvalid : descriptor.check with
  | .error e => .error e
  | .ok () =>
    if hfits : descriptor.asynchronous = function.isAsync then
      .ok ⟨descriptor, validate, function, hvalid, hfits⟩
    else
      .error (.asyncMismatch descriptor.name descriptor.asynchronous)

/-- The primary name. -/
def name (r : Rule) : String :=
  r.descriptor.name

/-- The primary name is one of the names. -/
theorem name_mem_names (r : Rule) : r.name ∈ r.descriptor.names := by
  have hnames : r.descriptor.names ≠ [] := by
    intro hnil
    have hvalid := r.valid
    simp [Descriptor.check, hnil] at hvalid
  obtain ⟨n, rest, hcons⟩ := List.exists_cons_of_ne_nil hnames
  simp [name, Descriptor.name, hcons]

end Rule

end DocLint
