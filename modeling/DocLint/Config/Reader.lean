import DocLint.Config
import DocLint.Config.Form
import DocLint.Json.Decode
import DocLint.Jsonc.Value
import DocLint.LintError

/-!
# Reading configurations

A configuration is written in relaxed JSON. Its form is checked before it is decoded, so decoding does not
fail. A template is what a new configuration looks like.
-/

namespace DocLint.Config

set_option autoImplicit false

/-- Decodes the entry of a rule. -/
def decodeOption (r : Reading) : Decode.Result RuleOption :=
  (Decode.json r).map RuleOption.ofValue

/-- Forgets what was decoded. -/
def checked {α : Type} (result : Decode.Result α) : Decode.Result Unit :=
  result.map fun _ => ()

/-- The form of a configuration in data. -/
def shape : Decode.Shape where
  record := "LinterConfig"
  names := ["default", "options", "include", "exclude", "deduplicate", "timings"]
  optional _ := true
  unknown := .ignore
  check n r :=
    if n == "options" then checked (Decode.map decodeOption r)
    else if n == "include" || n == "exclude" then checked (Decode.list Decode.string r)
    else checked (Decode.bool r)
  streamed := false

def decode (r : Reading) : Decode.Result Config := do
  let fields ← Decode.fields shape r
  return {
    enabledByDefault := ← Decode.defaulted fields "default" Decode.bool true
    options := ← Decode.defaulted fields "options" (Decode.map decodeOption) []
    includes := ← Decode.defaulted fields "include" (Decode.list Decode.string) []
    excludes := ← Decode.defaulted fields "exclude" (Decode.list Decode.string) []
    deduplicate := ← Decode.defaulted fields "deduplicate" Decode.bool false
    timings := ← Decode.defaulted fields "timings" Decode.bool false
    baseDir := none }

/-- The configuration that a value is. -/
def ofJson (v : Json) : Decode.Result Config :=
  decode (Reading.ofJson v)

/-- Checks the form of a value and decodes it. -/
def ofValue (v : Json) : Except LintError Config :=
  match checkForm v with
  | .error e =>
    .error (.config ("Config validation failed: " ++ e.message ++ " at " ++ e.pointer))
  | .ok () => (ofJson v).mapError fun m => .config ("Invalid config: " ++ m)

def ofText (text : String) : Except LintError Config :=
  match Jsonc.parse text with
  | .error m => .error (.config ("Invalid JSON: " ++ m))
  | .ok v => ofValue (v.getD (.object []))

/-- The names of configuration files, the preferred one first. -/
def fileNames : List String :=
  [".marklint.jsonc", ".marklint.json"]

/-- A new configuration. -/
def template : String :=
  String.join ([
    "\x7b",
    "  // Enable every rule unless configured otherwise.",
    "  \"default\": true,",
    "  \"options\": \x7b",
    "    \"every-n-lines\": false,",
    "    \"lint-javascript\": \x7b",
    "      \"languages\": [\"js\", \"javascript\", \"jsx\", \"mjs\", \"cjs\"]",
    "    \x7d",
    "  \x7d,",
    "  \"include\": [\"**/*.md\"],",
    "  \"exclude\": [\"**/node_modules/**\", \"**/target/**\"],",
    "  \"deduplicate\": false,",
    "  \"timings\": false",
    "\x7d"].map (· ++ "\n"))

end DocLint.Config
