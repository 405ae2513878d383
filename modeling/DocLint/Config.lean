import DocLint.Rule.Descriptor
import DocLint.Severity
import DocLint.Json.Basic

/-!
# Configurations

A configuration says which rules are enabled, with which severity and options. An entry is found under
a name or a tag of a rule, in any case of letters; the later keys of a rule override the earlier ones.
-/

namespace DocLint

set_option autoImplicit false

/-- The entry of a rule or a tag. -/
inductive RuleOption where
  | enabled (b : Bool)
  /-- A severity by its name, or `off`. -/
  | severity (s : String)
  | options (v : Json)
  deriving Repr

namespace RuleOption

/-- Whether the entry enables its rules. -/
def isEnabled : RuleOption → Bool
  | enabled b => b
  | severity s => s != "off"
  | options _ => true

/-- The severity that the entry names. -/
def severity? : RuleOption → Option Severity
  | severity s => Severity.ofName? s
  | _ => none

/-- The entry as it is written. -/
def value : RuleOption → Json
  | enabled b => .bool b
  | severity s => .string s
  | options v => v

/-- The entry that a value is. -/
def ofValue : Json → RuleOption
  | .bool b => enabled b
  | .string s => severity s
  | v => options v

end RuleOption

structure Config where
  /-- Whether a rule without an entry is enabled. -/
  enabledByDefault : Bool
  /-- The entries, each key once. -/
  options : List (String × RuleOption)
  /-- Patterns of the files that are looked at; all if there are none. -/
  includes : List String
  /-- Patterns of the files that are passed over. -/
  excludes : List String
  /-- Whether equal violations of one rule in one line are reported once. -/
  deduplicate : Bool
  /-- Whether it is recorded which rules ran. -/
  timings : Bool
  /-- The directory of the file from which the configuration was loaded. -/
  baseDir : Option String
  deriving Repr

/-- What a rule is told when it is enabled. -/
structure Settings where
  severity : Severity
  /-- The options; `null` if there are none. -/
  options : Json
  deriving Repr

/-- The settings of a rule that is enabled without further ado. -/
def Settings.standard : Settings :=
  ⟨.error, .null⟩

namespace Config

/-- The configuration that enables every rule. -/
def standard : Config :=
  ⟨true, [], [], [], false, false, none⟩

/-- The entry under a key: under the key itself, or else under one that differs in case only. -/
def option? (c : Config) (key : String) : Option RuleOption :=
  match c.options.lookup key with
  | some o => some o
  | none => (c.options.find? fun e => Text.eqIgnoreCase e.1 key).map (·.2)

/-- Settings after an entry. Disabling forgets what was set before. -/
def override (current : Option Settings) (o : RuleOption) : Option Settings :=
  if o.isEnabled then
    let base := current.getD .standard
    some {
      severity := o.severity?.getD base.severity
      options := match o with
        | .options v => v
        | _ => base.options }
  else
    none

/-- The settings of a rule, or none if it is disabled. -/
def resolve (c : Config) (d : Descriptor) : Option Settings :=
  (d.keys.filterMap c.option?).foldl override
    (if c.enabledByDefault then some .standard else none)

end Config

end DocLint
