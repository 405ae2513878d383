import DocLint.Analyzer
import DocLint.Text.Blank

/-!
# ESLint

ESLint runs as a program of its own. It prints the configuration of a file, and it verifies a snippet that
it reads from its standard input under a configuration that is given to it in a file. What running the
program does is left open; only its output is looked at.
-/

namespace DocLint

set_option autoImplicit false

/-- How a program ended. -/
inductive ExitStatus where
  | code (n : Nat)
  | signal (n : Nat)
  deriving DecidableEq, Repr

namespace ExitStatus

def signalNames : List (Nat × String) :=
  [(1, "SIGHUP"), (2, "SIGINT"), (3, "SIGQUIT"), (4, "SIGILL"), (5, "SIGTRAP"), (6, "SIGABRT"),
    (7, "SIGBUS"), (8, "SIGFPE"), (9, "SIGKILL"), (10, "SIGUSR1"), (11, "SIGSEGV"), (12, "SIGUSR2"),
    (13, "SIGPIPE"), (14, "SIGALRM"), (15, "SIGTERM"), (16, "SIGSTKFLT"), (17, "SIGCHLD"),
    (18, "SIGCONT"), (19, "SIGSTOP"), (20, "SIGTSTP"), (21, "SIGTTIN"), (22, "SIGTTOU"), (23, "SIGURG"),
    (24, "SIGXCPU"), (25, "SIGXFSZ"), (26, "SIGVTALRM"), (27, "SIGPROF"), (28, "SIGWINCH"), (29, "SIGIO"),
    (30, "SIGPWR"), (31, "SIGSYS")]

def text : ExitStatus → String
  | code n => "exit status: " ++ toString n
  | signal n =>
    "signal: " ++ toString n ++ (match signalNames.lookup n with
      | some name => " (" ++ name ++ ")"
      | none => "")

/-- Whether a program ended with one of some codes. -/
def isCode (accepted : List Nat) : ExitStatus → Bool
  | code n => accepted.contains n
  | signal _ => false

end ExitStatus

/-- What a program left behind. -/
structure ProgramOutput where
  status : ExitStatus
  stdout : List UInt8
  stderr : List UInt8
  deriving Repr

/-- An argument of a program. -/
inductive Argument where
  | text (s : String)
  /-- The path of a file with the configuration. -/
  | configFile
  deriving DecidableEq, Repr

/-- One run of a program. -/
structure ProgramRun where
  program : String
  /-- The directory in which it runs, unless it is that of the caller. -/
  workingDir : Option String
  arguments : List Argument
  /-- What is in the file with the configuration. -/
  config : Option AnalyzerConfig
  stdin : String
  deriving Repr

/-- What runs programs: the output of a run, or why the program could not be started. -/
abbrev ProgramRunner := ProgramRun → Except String ProgramOutput

/-- How ESLint is called. -/
structure Eslint where
  program : String
  workingDir : Option String
  /-- The name under which ESLint sees a snippet. -/
  stdinFilename : String
  deriving DecidableEq, Repr

namespace Eslint

/-- ESLint as it is found among the programs. -/
def standard : Eslint :=
  ⟨"eslint", none, "snippet.js"⟩

/-- The environment in which ESLint runs, beside that of the caller. -/
def environment : List (String × String) :=
  [("ESLINT_USE_FLAT_CONFIG", "false")]

/-- The run that prints the configuration of a file. -/
def resolveRun (e : Eslint) (file : String) : ProgramRun where
  program := e.program
  workingDir := e.workingDir
  arguments := [.text "--print-config", .text file]
  config := none
  stdin := ""

def verifyRun (e : Eslint) (snippet : String) (config : AnalyzerConfig) : ProgramRun where
  program := e.program
  workingDir := e.workingDir
  arguments :=
    [.text "--no-eslintrc", .text "--config", .configFile, .text "--stdin", .text "--stdin-filename",
      .text e.stdinFilename, .text "--format", .text "json"]
  config := some config
  stdin := snippet

/-- The run for a request. -/
def runOf (e : Eslint) : AnalyzerCall → ProgramRun
  | .resolve file => e.resolveRun file
  | .verify snippet config => e.verifyRun snippet config

/-- Runs ESLint: its standard output, if it ended with one of some codes. -/
def stdout (e : Eslint) (runner : ProgramRunner) (accepted : List Nat) (run : ProgramRun) :
    Except AnalyzerError (List UInt8) :=
  match runner run with
  | .error cause => .error (.spawn e.program cause)
  | .ok output =>
    if output.status.isCode accepted then .ok output.stdout
    else
      .error (.failed e.program output.status.text (Text.trim (Text.textOfBytesLossy output.stderr)))

/-- Decodes what is asked for of a whole text. -/
def decodeText {α : Type} (want : Interest) (decode : Reading → Decode.Result α)
    (bytes : List UInt8) : Except AnalyzerError α :=
  let (r, after) := Reading.ofInput want (Text.decodeBytes bytes)
  match decode r, after with
  | .error m, _ => .error (.invalidOutput m)
  | .ok _, some f => .error (.invalidOutput f.message)
  | .ok v, none => .ok v

/-- The form of what ESLint reports of a file. -/
def reportShape : Decode.Shape where
  record := "FileReport"
  names := ["messages"]
  optional _ := true
  unknown := .ignore
  check _ r := (Decode.list (AnalyzerMessage.decode true) r).map fun _ => ()
  streamed := true

/-- Decodes what ESLint reports of a file: its messages. -/
def decodeReport (r : Reading) : Decode.Result (List AnalyzerMessage) := do
  let fields ← Decode.fields reportShape r
  Decode.defaulted fields "messages" (Decode.list (AnalyzerMessage.decode true)) []

/-- What is asked of the reports of files: the messages in them. -/
def reportsInterest : Interest :=
  .elements (.record [("messages", .elements (AnalyzerMessage.shape true).interest)])

/-- The configuration of a file. -/
def resolve (e : Eslint) (runner : ProgramRunner) (file : String) :
    Except AnalyzerError AnalyzerConfig := do
  let bytes ← e.stdout runner [0] (e.resolveRun file)
  decodeText .everything AnalyzerConfig.decode bytes

/-- The findings in a snippet. ESLint ends with one when it has found something. -/
def verify (e : Eslint) (runner : ProgramRunner) (snippet : String) (config : AnalyzerConfig) :
    Except AnalyzerError (List AnalyzerMessage) := do
  let bytes ← e.stdout runner [0, 1] (e.verifyRun snippet config)
  let reports ← decodeText reportsInterest (Decode.list decodeReport) bytes
  return reports.flatten

def analyzer (e : Eslint) (runner : ProgramRunner) : Analyzer where
  resolve := e.resolve runner
  verify := e.verify runner

end Eslint

end DocLint
