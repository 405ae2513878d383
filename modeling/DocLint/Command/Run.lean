import DocLint.Analyzer.Eslint
import DocLint.Command.Arguments
import DocLint.Linter
import DocLint.Report.Data
import DocLint.Report.Text
import DocLint.RuleSet
import DocLint.Rules.EveryNLines
import DocLint.Rules.LintJavascript

/-!
# Running commands

A command reads files and asks ESLint. What it prints, writes and ends with is its answer; carrying that out
is left to the caller. A command ends with zero, with one if errors were found or files could not be linted,
and with two if it could not do its work.
-/

namespace DocLint

set_option autoImplicit false

/-- The rules of the library, with an analyzer for code. -/
def RuleSet.builtin (analyzer : Analyzer) : Except DefinitionError RuleSet := do
  let everyNLines ← EveryNLines.rule
  let lintJavascript ← LintJavascript.rule analyzer
  RuleSet.empty.registerAll [everyNLines, lintJavascript]

/-- What a command has to say. -/
structure CommandResult where
  code : Nat
  stdout : List String
  stderr : List String
  /-- Files to be written, with their texts. -/
  writes : List (String × String)
  /-- The runs of ESLint that were made. -/
  eslintRuns : List ProgramRun
  deriving Repr

namespace CommandResult

/-- A command that could not do its work. -/
def fatal (message : String) : CommandResult :=
  ⟨2, [], ["Error: " ++ message], [], []⟩

/-- A command that only prints. -/
def printing (lines : List String) : CommandResult :=
  ⟨0, lines, [], [], []⟩

end CommandResult

/-- What a command is given by its surroundings. -/
structure Surroundings where
  files : FileSystem
  /-- Runs ESLint. -/
  runner : ProgramRunner

namespace Command

/-- The version of the program. -/
def versionLine : String :=
  "mdlint 0.1.0"

/-- How the program is used. -/
def usageLines : List String :=
  ["Usage: mdlint [OPTIONS] <COMMAND>", "",
    "Commands:",
    "  lint   Lint files",
    "  rules  List the available rules",
    "  init   Initialize configuration", "",
    "Options:",
    "  -c, --config <CONFIG>  Configuration file path",
    "  -v, --verbose          Enable verbose output",
    "  -h, --help             Print help",
    "  -V, --version          Print version"]

/-- The files that may hold the configuration. -/
def configPaths : Option String → List String
  | some path => [path]
  | none => Config.fileNames.map (Path.join ".")

/-- The configuration: from the given file, else from the file in the working directory, else the standard
one. -/
def loadConfig (fs : FileSystem) (path : Option String) : Except LintError Config :=
  match path.or (Config.find? fs ".") with
  | some path => Config.load fs path
  | none => .ok .standard

/-- ESLint as it is called under a configuration: from the directory of the configuration. -/
def eslintOf (config : Config) : Eslint :=
  { Eslint.standard with workingDir := config.baseDir }

/-- The rules of the library, with ESLint as their analyzer. -/
def rulesOf (runner : ProgramRunner) (config : Config) : Except DefinitionError RuleSet :=
  RuleSet.builtin ((eslintOf config).analyzer runner)

/-- The lines about files that could not be linted. -/
def fileFailureLines (failures : List (String × LintError)) : List String :=
  if failures.isEmpty then []
  else
    ["", toString failures.length ++ " file(s) failed to lint:"] ++
      failures.map fun f => "  " ++ f.1 ++ ": " ++ f.2.message

/-- What is printed of a batch, and what is said apart from that. -/
def reportBatch (batch : Batch) (format : ReportFormat) (timings : Bool) :
    List String × List String :=
  match format with
  | .json => ([Report.dataText batch.results], fileFailureLines batch.failures)
  | .text =>
    (Report.textLines batch.results timings,
      fileFailureLines batch.failures ++ batch.results.flatMap Report.failureLines)

/-- Whether a batch makes the command end with one. -/
def hasFailed (batch : Batch) : Bool :=
  batch.results.any LintResult.hasErrors || !batch.failures.isEmpty

/-- The result of a command that linted a batch. -/
def batchResult (eslint : Eslint) (format : ReportFormat) (timings : Bool) (batch : Batch) :
    CommandResult :=
  let (out, err) := reportBatch batch format timings
  ⟨if hasFailed batch then 1 else 0, out, err, [], batch.calls.map eslint.runOf⟩

/-- Lints the files that patterns select. -/
def runLint (s : Surroundings) (path : Option String) (patterns : List String) (format : ReportFormat)
    (timings : Bool) : CommandResult :=
  match loadConfig s.files path with
  | .error e => .fatal e.message
  | .ok config =>
    let config := { config with timings := config.timings || timings }
    match rulesOf s.runner config with
    | .error e => .fatal e.message
    | .ok set =>
      match Linter.ofRules set config with
      | .error e => .fatal e.message
      | .ok linter =>
        match linter.lintPatterns s.files patterns with
        | .error (.error e) => .fatal e.message
        | .error (.panicked m) => .fatal (RuleError.ofPanic m).message
        | .ok batch => batchResult (eslintOf config) format config.timings batch

/-- The lines about a rule. -/
def ruleLines (config : Config) (d : Descriptor) : List String :=
  let status := match config.resolve d with
    | some settings => settings.severity.name
    | none => "off"
  [("/".intercalate d.names) ++ " (" ++ status ++ ", " ++ d.parser.name ++ ", " ++
      (if d.asynchronous then "async" else "sync") ++ ") [" ++ ", ".intercalate d.tags ++ "]",
    "    " ++ d.description] ++
  (d.information.map ("    " ++ ·)).toList

/-- Lists the rules. -/
def runRules (s : Surroundings) (path : Option String) : CommandResult :=
  match loadConfig s.files path with
  | .error e => .fatal e.message
  | .ok config =>
    match rulesOf s.runner config with
    | .error e => .fatal e.message
    | .ok set => .printing (set.rules.flatMap fun r => ruleLines config r.descriptor)

/-- The file that a new configuration is written to. -/
def newConfigPath : String :=
  ".marklint.jsonc"

/-- Writes a new configuration. Without force nothing may be in its place. -/
def runInit (s : Surroundings) (force : Bool) : CommandResult :=
  if !force && s.files.occupied newConfigPath then
    .fatal "Config file already exists. Use --force to overwrite."
  else
    match s.files.writeFault newConfigPath with
    | some f => .fatal f.message
    | none => ⟨0, [], [], [(newConfigPath, Config.template)], []⟩

def run (s : Surroundings) (path : Option String) : Command → CommandResult
  | .lint patterns format timings => runLint s path patterns format timings
  | .rules => runRules s path
  | .init force => runInit s force

end Command

/-- Does what a command line asks for. -/
def runArguments (s : Surroundings) (arguments : List String) : CommandResult :=
  match Arguments.parse arguments with
  | .run command path => command.run s path
  | .version => .printing [Command.versionLine]
  | .help => .printing Command.usageLines
  | .invalid => .fatal "invalid command line; see --help"

end DocLint
