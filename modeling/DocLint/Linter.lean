import DocLint.Config.Reader
import DocLint.Files.Finder
import DocLint.Pass

/-!
# The linter

The linter holds the rules, the parsers and the configuration. It lints texts, files, and the files that
patterns select. A file that cannot be linted is listed beside the results and changes nothing for the
others.
-/

namespace DocLint

set_option autoImplicit false

structure Linter where
  rules : RuleSet
  config : Config
  parsers : List Parser
  finder : Finder

/-- The outcomes of some jobs, in the order of the jobs. The jobs may end in any order: `order` lists jobs
by their indices as they end, and the others end after those. -/
def gather {α β : Type} (order : List Nat) (work : α → β) (jobs : List α) : List β :=
  let slots : List (Option β) := order.foldl
    (fun slots k => match jobs[k]? with
      | some job => slots.set k (some (work job))
      | none => slots)
    (jobs.map fun _ => none)
  (jobs.zip slots).map fun (job, slot) => slot.getD (work job)

/-- The outcome of linting several files. -/
structure Batch where
  results : List LintResult
  /-- The files that could not be linted. -/
  failures : List (String × LintError)
  /-- The calls to analyzers, file by file. -/
  calls : List AnalyzerCall
  deriving Repr

namespace Batch

/-- A batch without files. -/
def empty : Batch :=
  ⟨[], [], []⟩

/-- Adds the outcome of a file before those of a batch. -/
def add (path : String) (outcome : Except PassStop PassRecord) (batch : Batch) :
    Except PassStop Batch :=
  match outcome with
  | .ok record =>
    .ok { batch with results := record.result :: batch.results, calls := record.calls ++ batch.calls }
  | .error (.error e) => .ok { batch with failures := (path, e) :: batch.failures }
  | .error (.panicked m) => .error (.panicked m)

/-- Sorts the outcomes of files into results and failures. -/
def ofOutcomes : List (String × Except PassStop PassRecord) → Except PassStop Batch
  | [] => .ok empty
  | (path, outcome) :: rest => do
    let batch ← ofOutcomes rest
    add path outcome batch

end Batch

namespace Linter

/-- A linter with some parsers. The patterns of the configuration have to be globs. -/
def ofParsers (rules : RuleSet) (config : Config) (parsers : List Parser) : Except LintError Linter := do
  let finder ← Finder.ofPatterns config.includes config.excludes
  return ⟨rules, config, parsers, finder⟩

/-- A linter with the parsers of the library. -/
def ofRules (rules : RuleSet) (config : Config) : Except LintError Linter :=
  ofParsers rules config Parser.builtin

def lintText (l : Linter) (name text : String) : Except PassStop PassRecord :=
  Pass.run l.config l.rules l.parsers name text

def lintFile (l : Linter) (fs : FileSystem) (path : String) : Except PassStop PassRecord := do
  let text ← (fs.readText path).mapError fun f =>
    .error (.file ("Failed to read " ++ path ++ ": " ++ f.message))
  l.lintText path text

/-- Lints files at the same time; `order` says in which order they are done. -/
def lintFilesWith (order : List Nat) (l : Linter) (fs : FileSystem) (paths : List String) :
    Except PassStop Batch :=
  Batch.ofOutcomes (paths.zip (gather order (l.lintFile fs) paths))

def lintFiles (l : Linter) (fs : FileSystem) (paths : List String) : Except PassStop Batch :=
  lintFilesWith [] l fs paths

/-- The directory below which files are sought. -/
def baseDir (l : Linter) : String :=
  l.config.baseDir.getD "."

/-- Lints the files that patterns select. -/
def lintPatterns (l : Linter) (fs : FileSystem) (patterns : List String) : Except PassStop Batch := do
  let paths ← (l.finder.discover fs patterns l.baseDir).mapError .error
  l.lintFiles fs paths

end Linter

namespace Config

def load (fs : FileSystem) (path : String) : Except LintError Config := do
  let text ← (fs.readText path).mapError fun f => .config ("Failed to read config: " ++ f.message)
  let config ← ofText text
  return { config with baseDir := (Path.parent? path).map fun p => if p == "" then "." else p }

/-- The configuration file of a directory, if it has one. -/
def find? (fs : FileSystem) (directory : String) : Option String :=
  (fileNames.map (Path.join directory)).find? fs.isFile

end Config

end DocLint
