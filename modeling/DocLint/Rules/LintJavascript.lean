import DocLint.Analyzer.PrefixFilter
import DocLint.Rule
import DocLint.Rules.Window

/-!
# The rule `lint-javascript`

Fences of code in the configured languages are verified by an analyzer, several at a time. What it finds
in a fence is reported on the lines of the document. An analyzer that fails makes the rule report nothing
for what it was asked.
-/

namespace DocLint.LintJavascript

set_option autoImplicit false

/-- The description of the rule. -/
def descriptor : Descriptor where
  names := ["lint-javascript"]
  description := "Rule that lints JavaScript code"
  tags := ["test", "lint", "javascript"]
  information := none
  parser := .markdown
  asynchronous := true

/-- The languages unless configured otherwise. -/
def defaultLanguages : List String :=
  ["js", "javascript", "jsx", "mjs", "cjs"]

/-- How many fences are verified at a time. -/
def maxInFlight : Nat := 4

/-- The options of the rule. -/
structure Options where
  languages : List String
  allow : Option (List String)
  deny : Option (List String)
  deriving DecidableEq, Repr

namespace Options

def texts : Reading → Decode.Result (List String) :=
  Decode.list Decode.string

/-- The form of the options in data. -/
def shape : Decode.Shape where
  record := "Options"
  names := ["languages", "allow_prefixes", "deny_prefixes"]
  optional _ := true
  unknown := .reject
  check n r :=
    if n == "languages" then (texts r).map fun _ => ()
    else (Decode.option texts r).map fun _ => ()
  streamed := false

def decode (r : Reading) : Decode.Result Options := do
  let fields ← Decode.fields shape r
  let languages ← Decode.defaulted fields "languages" texts defaultLanguages
  let allow ← Decode.defaulted fields "allow_prefixes" (Decode.option texts) none
  let deny ← Decode.defaulted fields "deny_prefixes" (Decode.option texts) none
  return ⟨languages, allow, deny⟩

/-- The options that a value is; `null` stands for none. -/
def ofJson : Json → Decode.Result Options
  | .null => decode (.object [] none)
  | v => decode (Reading.ofJson v)

/-- Which rules of the analyzer are kept. -/
def filter (o : Options) : PrefixFilter :=
  ⟨o.allow.getD [], o.deny.getD PrefixFilter.defaultDeny⟩

/-- Whether a token is in one of the languages. -/
def covers (o : Options) (t : Token) : Bool :=
  match t.language? with
  | some language => o.languages.any fun l => Text.eqIgnoreCase l language
  | none => false

end Options

/-- Checks the options. -/
def validate (options : Json) : Verdict :=
  match Options.ofJson options with
  | .ok _ => .accepted
  | .error m => .rejected (.config m)

/-- The fences that are verified, in the order of the document. -/
def fences (o : Options) (document : Document) : List Token :=
  (filterTokens document.tokens .fence id).filter o.covers

/-- The line of a finding in a fence. The first line of the code is the one after the fence's first. Lines are
words of 64 bits, so a sum that is too large for one begins again at zero. -/
def lineOf (fence : Token) (m : AnalyzerMessage) : Nat :=
  (fence.line + m.line) % UInt64.size

/-- The report of a finding in a fence. -/
def reportOf (document : Document) (fence : Token) (m : AnalyzerMessage) : Report :=
  let line := lineOf fence m
  ⟨line, some m.message, document.lineText? line⟩

/-- The reports of a fence. -/
def checkFence (analyzer : Analyzer) (document : Document) (config : AnalyzerConfig) (fence : Token) :
    List Report :=
  match analyzer.verify fence.content config with
  | .ok messages => messages.map (reportOf document fence)
  | .error _ => []

/-- What is done while fences are verified: a call when one is started, a pause before one ends. -/
def windowActions (fences : List Token) (config : AnalyzerConfig) : List Window.Event → List Action
  | [] => []
  | .started job :: rest =>
    ((fences[job]?).map fun fence => Action.call (.verify fence.content config)).toList ++
      windowActions fences config rest
  | .ended _ :: rest => .pause :: windowActions fences config rest

/-- The reports of the fences: in the order in which they were verified, then sorted by the places of the
fences. -/
def collectReports (check : Token → List Report) (fences : List Token) (ended : List Nat) :
    List Report :=
  let outcomes := ended.filterMap fun job => (fences[job]?).map fun fence => (job, check fence)
  (outcomes.mergeSort fun a b => a.1 ≤ b.1).flatMap (·.2)

/-- Verifies the fences; `order` says which of those in flight ends next. -/
def verifyAll (analyzer : Analyzer) (order : List Nat) (document : Document) (config : AnalyzerConfig)
    (fences : List Token) : List Action :=
  let check := checkFence analyzer document config
  windowActions fences config (Window.events maxInFlight order fences.length) ++
    (collectReports check fences (Window.endOrder maxInFlight order fences.length)).map .report

/-- What the rule does; `order` says which of the fences in flight ends next. -/
def runWith (order : List Nat) (analyzer : Analyzer) (input : RuleInput) : Trace :=
  match Options.ofJson input.options with
  | .error m => ⟨[], .failed (.config m)⟩
  | .ok options =>
    match fences options input.document with
    | [] => ⟨[], .finished⟩
    | found =>
      let asked : List Action := [.call (.resolve input.document.name), .pause]
      match analyzer.resolve input.document.name with
      | .error _ => ⟨asked, .finished⟩
      | .ok config =>
        let config := options.filter.apply config
        ⟨asked ++ verifyAll analyzer order input.document config found, .finished⟩

/-- The rule, with an analyzer for the code. -/
def rule (analyzer : Analyzer) : Except DefinitionError Rule :=
  Rule.define descriptor validate (.async fun input => .started [] (runWith [] analyzer input))

end DocLint.LintJavascript
