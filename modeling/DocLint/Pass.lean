import DocLint.Config
import DocLint.LintError
import DocLint.Pass.Ledger
import DocLint.Pass.Result
import DocLint.RuleSet

/-!
# Passes

A pass lints one document. Every parser that an enabled rule needs reads the source once. Then the rules
are called in the order in which they are registered; those that may wait are left pending and run
together afterwards. At last the reports are merged and sorted. A rule that fails is listed beside the
violations and changes nothing for the others.
-/

namespace DocLint

set_option autoImplicit false

/-- Why a pass has no result. -/
inductive PassStop where
  | error (e : LintError)
  /-- The check of a rule's options broke off, and the pass with it. -/
  | panicked (message : Option String)
  deriving DecidableEq, Repr

/-- An enabled rule with its settings. -/
structure Invocation where
  rule : Rule
  settings : Settings

namespace Invocation

/-- The kind of parser that the rule needs. -/
def parser (inv : Invocation) : ParserKind :=
  inv.rule.descriptor.parser

end Invocation

namespace Pass

/-- The enabled rules in the order of their registration. -/
def invocations (config : Config) (rules : List Rule) : List Invocation :=
  rules.filterMap fun rule => (config.resolve rule.descriptor).map fun s => ⟨rule, s⟩

/-- The first parser of a kind. -/
def findParser (parsers : List Parser) (kind : ParserKind) : Option Parser :=
  parsers.find? fun p => p.kind = kind

/-- The parsers that the enabled rules need, in the order of their kinds. A kind without a parser is
passed over. -/
def neededParsers (parsers : List Parser) (invs : List Invocation) : List Parser :=
  [ParserKind.markdown, .text].filterMap fun kind =>
    if invs.any fun inv => inv.parser = kind then findParser parsers kind else none

/-- What the parsers make of a source. -/
def readAll (name source : String) : List Parser → Except LintError (List Document)
  | [] => .ok []
  | p :: rest => do
    let stream ← (p.parse source).mapError .parse
    let documents ← readAll name source rest
    return .ofSource name source stream :: documents

/-- The error of a rule whose parser is missing. -/
def missingParser (kind : ParserKind) : RuleError :=
  .config ("parser '" ++ kind.name ++ "' is not available")

/-- The number of lines of a source that has been parsed. -/
def lineBound (documents : List Document) (source : String) : Nat :=
  match documents with
  | document :: _ => document.lineCount
  | [] => (splitLines source).length

/-- Calls an enabled rule. -/
def call (documents : List Document) (lineCount : Nat) (l : Ledger) (inv : Invocation) :
    Except PassStop Ledger :=
  let place := l.reporters.length
  let l := l.enter (Reporter.new inv.rule.descriptor inv.settings.severity lineCount)
  match documents.find? fun d => d.parser = inv.parser with
  | none => .ok (l.refuse place (missingParser inv.parser))
  | some document =>
    match inv.rule.validate inv.settings.options with
    | .panicked m => .error (.panicked m)
    | .rejected e => .ok (l.refuse place e)
    | .accepted =>
      let input : RuleInput := ⟨document, inv.settings.options⟩
      match inv.rule.function with
      | .sync run => .ok ((l.actAll place (run input).actions).finish place (run input).outcome)
      | .async start =>
        match start input with
        | .started atOnce t =>
          .ok ((l.actAll place atOnce).suspend ⟨place, t.actions, t.outcome⟩)
        | .panicked atOnce m => .ok ((l.actAll place atOnce).finish place (.panicked m))

/-- Calls the enabled rules in order. -/
def callAll (documents : List Document) (lineCount : Nat) (invs : List Invocation) :
    Except PassStop Ledger :=
  invs.foldlM (call documents lineCount) .empty

/-- Keeps the first of the violations with one key. -/
def dedup (seen : List Violation.Key) : List Violation → List Violation
  | [] => []
  | v :: rest => if seen.contains v.key then dedup seen rest else v :: dedup (v.key :: seen) rest

/-- Puts violations in order, each once if so configured. -/
def arrange (config : Config) (all : List Violation) : List Violation :=
  (if config.deduplicate then dedup [] all else all).mergeSort Violation.before

def violations (config : Config) (l : Ledger) : List Violation :=
  arrange config (l.reporters.flatMap Reporter.violations)

/-- The reports in a ledger on lines that the document does not have, each with the place of its rule. -/
def defects (l : Ledger) : List (Nat × RuleError) :=
  l.reporters.zipIdx.flatMap fun (r, place) => r.defects.map fun e => (place, e)

/-- The failures in a ledger, in the order of the rules. -/
def failures (invs : List Invocation) (l : Ledger) : List RuleFailure :=
  ((l.errors ++ defects l).mergeSort fun a b => a.1 ≤ b.1).filterMap fun (place, e) =>
    (invs[place]?).map fun inv => ⟨inv.rule.name, e⟩

/-- The names of the rules that have ended, in the order of the rules. -/
def timings (config : Config) (invs : List Invocation) (l : Ledger) : List String :=
  if config.timings then
    (l.ended.mergeSort fun a b => a ≤ b).filterMap fun place =>
      (invs[place]?).map fun inv => inv.rule.name
  else
    []

/-- The result of a pass whose rules have all ended. -/
def conclude (config : Config) (name : String) (invs : List Invocation) (l : Ledger) : LintResult :=
  ⟨name, violations config l, failures invs l, timings config invs l⟩

end Pass

/-- What happened in a pass. -/
structure PassRecord where
  result : LintResult
  /-- The kinds of the parsers that read the source. -/
  parsed : List ParserKind
  /-- The calls to analyzers, in the order in which they were made. -/
  calls : List AnalyzerCall
  deriving Repr

namespace Pass

/-- Lints a document, with a schedule for the rules that wait. -/
def runWith (schedule : Ledger → List Nat) (config : Config) (rules : RuleSet)
    (parsers : List Parser) (name source : String) : Except PassStop PassRecord := do
  let invs := invocations config rules.rules
  let needed := neededParsers parsers invs
  let documents ← (readAll name source needed).mapError .error
  let called ← callAll documents (lineBound documents source) invs
  let done := (called.runTasks (schedule called)).join
  return {
    result := conclude config name invs done
    parsed := needed.map Parser.kind
    calls := done.calls }

/-- Lints a document. -/
def run (config : Config) (rules : RuleSet) (parsers : List Parser) (name source : String) :
    Except PassStop PassRecord :=
  runWith Ledger.roundRobin config rules parsers name source

end Pass

end DocLint
