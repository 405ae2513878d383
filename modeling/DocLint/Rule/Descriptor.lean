import DocLint.Parser
import DocLint.Text.Blank

/-!
# Descriptions of rules

A rule is described by its names, its tags and the parser whose tokens it reads. The first name is the
primary one. A description is valid when nothing in it is blank that has to be there.
-/

namespace DocLint

set_option autoImplicit false

structure Descriptor where
  names : List String
  description : String
  /-- Groups of rules that are configured together. -/
  tags : List String
  /-- Where the rule is documented. -/
  information : Option String
  parser : ParserKind
  /-- Whether the rule may wait while it runs. -/
  asynchronous : Bool
  deriving DecidableEq, Repr

/-- What is wrong with the definition of a rule, or why it cannot be registered. -/
inductive DefinitionError where
  | emptyNames
  | emptyName (index : Nat)
  | emptyDescription (rule : String)
  | emptyTags (rule : String)
  /-- The description says otherwise than the function whether the rule may wait. -/
  | asyncMismatch (rule : String) (declared : Bool)
  | duplicateName (name : String)
  deriving DecidableEq, Repr

/-- The text of an error. -/
def DefinitionError.message : DefinitionError → String
  | emptyNames => "rule must have at least one name"
  | emptyName index => "rule name at index " ++ toString index ++ " is empty"
  | emptyDescription rule => "rule '" ++ rule ++ "' has an empty description"
  | emptyTags rule => "rule '" ++ rule ++ "' must have at least one non-empty tag"
  | asyncMismatch rule declared =>
    "rule '" ++ rule ++ "' declares asynchronous=" ++ (if declared then "true" else "false") ++
      " but its function is " ++ (if declared then "synchronous" else "asynchronous")
  | duplicateName name => "rule name '" ++ name ++ "' is already registered"

namespace Descriptor

/-- The primary name. -/
def name (d : Descriptor) : String :=
  d.names.headD ""

/-- Whether a rule has a name, in any case. -/
def hasName (d : Descriptor) (name : String) : Bool :=
  d.names.any fun n => Text.eqIgnoreCase n name

/-- Finds what is wrong with a description. -/
def check (d : Descriptor) : Except DefinitionError Unit :=
  if d.names.isEmpty then .error .emptyNames
  else match d.names.findIdx? Text.isBlank with
    | some index => .error (.emptyName index)
    | none =>
      if Text.isBlank d.description then .error (.emptyDescription d.name)
      else if d.tags.isEmpty || d.tags.any Text.isBlank then .error (.emptyTags d.name)
      else .ok ()

/-- The keys under which a rule is configured, the later ones overriding: its tags, then its names. -/
def keys (d : Descriptor) : List String :=
  d.tags ++ d.names

end Descriptor

end DocLint
