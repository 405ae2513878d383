import DocLint.RuleSet

/-!
# Registries

A registry holds rules in the order of their registration. Its index tells for every name of a rule, in
lower case, at which place the rule is. A registration that fails tells which name is taken, and leaves the
registry as it is.
-/

namespace DocLint

set_option autoImplicit false

/-- Rules with an index of their names. -/
structure Registry where
  rules : List Rule
  /-- The places of the rules, by their names in lower case. The first entry of a key counts. -/
  index : List (String × Nat)

namespace Registry

def empty : Registry :=
  ⟨[], []⟩

/-- The first of some names whose key is in the index or is the key of a name before it. -/
def firstTaken (reg : Registry) (earlier : List String) : List String → Option String
  | [] => none
  | n :: rest =>
    let key := Text.asciiLower n
    if (reg.index.lookup key).isSome || earlier.contains key then some n
    else reg.firstTaken (key :: earlier) rest

/-- Enters the names of the rule at a place. -/
def enter (index : List (String × Nat)) (place : Nat) (names : List String) : List (String × Nat) :=
  names.foldl (fun index n => (Text.asciiLower n, place) :: index) index

/-- Adds a rule at the end, with its names. -/
def add (reg : Registry) (rule : Rule) : Registry :=
  ⟨reg.rules ++ [rule], enter reg.index reg.rules.length rule.descriptor.names⟩

/-- Tries to register a rule. All names are checked before anything is added. -/
def register (reg : Registry) (rule : Rule) : Except DefinitionError Unit × Registry :=
  match reg.firstTaken [] rule.descriptor.names with
  | some name => (.error (.duplicateName name), reg)
  | none => (.ok (), reg.add rule)

/-- Tries to register rules one after the other, whatever becomes of those before. -/
def registerEach (reg : Registry) : List Rule → List (Except DefinitionError Unit) × Registry
  | [] => ([], reg)
  | rule :: rest =>
    let (outcome, reg) := reg.register rule
    let (outcomes, reg) := reg.registerEach rest
    (outcome :: outcomes, reg)

/-- The rule that has a name, in any case. -/
def get? (reg : Registry) (name : String) : Option Rule :=
  (reg.index.lookup (Text.asciiLower name)).bind fun place => reg.rules[place]?

/-- The number of rules. -/
def size (reg : Registry) : Nat :=
  reg.rules.length

/-- Whether there are no rules. -/
def isEmpty (reg : Registry) : Bool :=
  reg.rules.isEmpty

/-- The primary names of the rules. -/
def names (reg : Registry) : List String :=
  reg.rules.map Rule.name

end Registry

end DocLint
