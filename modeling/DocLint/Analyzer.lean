import DocLint.Json.Decode

/-!
# Analyzers of code

An analyzer is a tool outside of the linter that checks code. It resolves the configuration of a file,
and verifies a snippet under a configuration. All that the linter knows of it are its answers.
-/

namespace DocLint

set_option autoImplicit false

/-- Why an analyzer gave no answer. -/
inductive AnalyzerError where
  /-- The tool could not be started. -/
  | spawn (program cause : String)
  /-- The tool ran and reported a failure. -/
  | failed (program status stderr : String)
  /-- The output of the tool could not be understood. -/
  | invalidOutput (message : String)
  /-- Talking to the tool failed. -/
  | io (cause : String)
  deriving DecidableEq, Repr

/-- The text of an error. -/
def AnalyzerError.message : AnalyzerError → String
  | spawn program cause => "failed to run '" ++ program ++ "': " ++ cause
  | failed program status stderr => "'" ++ program ++ "' exited with " ++ status ++ ": " ++ stderr
  | invalidOutput m => "invalid analyzer output: " ++ m
  | io cause => "I/O error: " ++ cause

/-- The configuration that an analyzer resolved for a file. Only its rules are looked at; all other
settings are given back to the tool as they are. -/
structure AnalyzerConfig where
  /-- The settings of rules, sorted by their names. -/
  rules : List (String × Json)
  /-- All other settings, sorted by their names. -/
  rest : List (String × Json)
  deriving Repr

namespace AnalyzerConfig

/-- A configuration without settings. -/
def empty : AnalyzerConfig :=
  ⟨[], []⟩

/-- Sorts members by their names; of several with one name the last counts. -/
def sortMembers (members : List (String × Json)) : List (String × Json) :=
  members.foldl (fun sorted m => Json.insertMember m.1 m.2 sorted) []

/-- Decodes the members of a configuration, given those found so far. -/
def decodeMembers (rules : Option (List (String × Json))) (rest : List (String × Json)) :
    List (String × Reading) → Decode.Result AnalyzerConfig
  | [] => .ok ⟨sortMembers (rules.getD []), sortMembers rest⟩
  | (k, r) :: more =>
    if k == "rules" then
      if rules.isSome then
        .error "duplicate field `rules`"
      else do
        let found ← Decode.map Decode.json r
        decodeMembers (some found) rest more
    else do
      let v ← Decode.json r
      decodeMembers rules (rest ++ [(k, v)]) more

def decode : Reading → Decode.Result AnalyzerConfig
  | .object members fault => do
    let config ← decodeMembers none [] members
    Decode.ending fault
    return config
  | r => Decode.mismatch "struct AnalyzerConfig" r

/-- A configuration as one object. -/
def toJson (config : AnalyzerConfig) : Json :=
  .object (Json.insertMember "rules" (.object config.rules) config.rest)

end AnalyzerConfig

/-- What an analyzer found in a snippet. -/
structure AnalyzerMessage where
  /-- The line of the snippet, counted from one. -/
  line : Nat
  message : String
  /-- The rule of the tool, if the message comes from one. -/
  ruleId : Option String
  deriving DecidableEq, Repr

namespace AnalyzerMessage

/-- The form of a message in data, read from a text or not. -/
def shape (streamed : Bool) : Decode.Shape where
  record := "AnalyzerMessage"
  names := ["line", "message", "ruleId"]
  optional n := n == "ruleId"
  unknown := .ignore
  check n r :=
    if n == "line" then (Decode.unsigned r).map fun _ => ()
    else if n == "message" then (Decode.string r).map fun _ => ()
    else (Decode.option Decode.string r).map fun _ => ()
  streamed

def decode (streamed : Bool) (r : Reading) : Decode.Result AnalyzerMessage := do
  let fields ← Decode.fields (shape streamed) r
  let line ← Decode.required fields "line" Decode.unsigned
  let message ← Decode.required fields "message" Decode.string
  let ruleId ← Decode.defaulted fields "ruleId" (Decode.option Decode.string) none
  return ⟨line, message, ruleId⟩

end AnalyzerMessage

/-- A request to an analyzer. -/
inductive AnalyzerCall where
  /-- Asks for the configuration of a file. -/
  | resolve (file : String)
  /-- Asks what is wrong with a snippet. -/
  | verify (snippet : String) (config : AnalyzerConfig)
  deriving Repr

/-- An analyzer, given by its answers. -/
structure Analyzer where
  /-- The configuration of a file. -/
  resolve : String → Except AnalyzerError AnalyzerConfig
  /-- The findings in a snippet under a configuration. -/
  verify : String → AnalyzerConfig → Except AnalyzerError (List AnalyzerMessage)

end DocLint
