import DocLint.Command.Run
import DocLint.Proofs.Files.Filter
import DocLint.Proofs.Files.Place
import DocLint.Proofs.Linter
import DocLint.Proofs.Rules.Builtin
import DocLint.Proofs.Token.CodeType

/-!
# Whose configuration is printed

ESLint is told to print the configuration of a file by the path under which the file was found from the working
directory, but it runs in the directory of the configuration, which is already part of this path. So it looks at
the file that is linted only where both directories agree about the path: always if the directory of the
configuration is the working directory, or is given from the root.
-/

namespace DocLint

set_option autoImplicit false

open FileTree (place place_eq_place_iff)

/-- The directory in which a run takes place that a process in some directory starts. -/
def ProgramRun.directory (cwd : List String) (run : ProgramRun) : List String :=
  match run.workingDir with
  | some directory => place cwd directory
  | none => cwd

namespace Command

/-- The linter that a command line asks for. -/
def linterFor (s : Surroundings) (path : Option String) (timings : Bool) : Except String Linter := do
  let config ← (loadConfig s.files path).mapError LintError.message
  let config := { config with timings := config.timings || timings }
  let set ← (rulesOf s.runner config).mapError DefinitionError.message
  (Linter.ofRules set config).mapError LintError.message

/-- The runs of ESLint that are made while a file is linted. -/
def runsFor (s : Surroundings) (linter : Linter) (file : String) : List ProgramRun :=
  (linter.callsFor s.files file).map (eslintOf linter.config).runOf

variable {s : Surroundings} {path : Option String} {patterns files : List String} {timings : Bool}
  {linter : Linter}

theorem linterFor_eq_ok (h : linterFor s path timings = .ok linter) :
    ∃ config, loadConfig s.files path = .ok config ∧
      linter.config = { config with timings := config.timings || timings } ∧
      rulesOf s.runner linter.config = .ok linter.rules ∧
      Linter.ofRules linter.rules linter.config = .ok linter := by
  simp only [linterFor, bind_eq_ok_iff, mapError_eq_ok_iff] at h
  obtain ⟨config, hconfig, set, hset, hlinter⟩ := h
  have hmade := hlinter
  simp only [Linter.ofRules, Linter.ofParsers, bind_eq_ok_iff] at hmade
  obtain ⟨finder, -, hmade⟩ := hmade
  obtain rfl := Except.ok.inj hmade
  exact ⟨config, hconfig, rfl, hset, hlinter⟩

theorem rules_of_linterFor (h : linterFor s path timings = .ok linter) :
    linter.rules.rules = builtinRules ((eslintOf linter.config).analyzer s.runner) := by
  obtain ⟨config, -, -, hset, -⟩ := linterFor_eq_ok h
  obtain ⟨set, hbuiltin, hrules⟩ := exists_builtin ((eslintOf linter.config).analyzer s.runner)
  obtain rfl := Except.ok.inj (hset.symm.trans hbuiltin)
  exact hrules

theorem runLint_eq (hlinter : linterFor s path timings = .ok linter) (patterns : List String)
    (format : ReportFormat) :
    runLint s path patterns format timings =
      match linter.lintPatterns s.files patterns with
      | .error (.error e) => .fatal e.message
      | .error (.panicked m) => .fatal (RuleError.ofPanic m).message
      | .ok batch => batchResult (eslintOf linter.config) format linter.config.timings batch := by
  obtain ⟨config, hconfig, hsettings, hset, hmade⟩ := linterFor_eq_ok hlinter
  have htimings : linter.config.timings = (config.timings || timings) := by rw [hsettings]
  unfold runLint
  cases hbatch : linter.lintPatterns s.files patterns with
  | error stop => cases stop <;> simp only [hconfig, ← hsettings, hset, hmade, hbatch]
  | ok batch => simp only [hconfig, ← hsettings, hset, hmade, hbatch, htimings]

theorem eslintRuns_of_batch (hlinter : linterFor s path timings = .ok linter)
    (hfiles : linter.finder.discover s.files patterns linter.baseDir = .ok files) {batch : Batch}
    (hbatch : linter.lintPatterns s.files patterns = .ok batch) (format : ReportFormat) :
    (runLint s path patterns format timings).eslintRuns = files.flatMap (runsFor s linter) := by
  rw [runLint_eq hlinter, hbatch]
  simp only [batchResult, Linter.calls_lintPatterns hfiles hbatch, List.map_flatMap]
  rfl

/-- The command does not run ESLint but for the files that the patterns select. -/
theorem exists_file_of_mem_eslintRuns (hlinter : linterFor s path timings = .ok linter)
    (hfiles : linter.finder.discover s.files patterns linter.baseDir = .ok files) {format : ReportFormat}
    {run : ProgramRun} (hrun : run ∈ (runLint s path patterns format timings).eslintRuns) :
    ∃ file ∈ files, run ∈ runsFor s linter file := by
  cases hbatch : linter.lintPatterns s.files patterns with
  | error stop =>
    rw [runLint_eq hlinter, hbatch] at hrun
    cases stop <;> exact absurd hrun List.not_mem_nil
  | ok batch =>
    rw [eslintRuns_of_batch hlinter hfiles hbatch] at hrun
    exact List.mem_flatMap.mp hrun

/-- ESLint runs in the directory of the configuration, and prints no configuration but that of the path by which
the file was found. -/
theorem run_of_mem_runsFor (hlinter : linterFor s path timings = .ok linter) {file : String} {run : ProgramRun}
    (hrun : run ∈ runsFor s linter file) :
    run.workingDir = linter.config.baseDir ∧
      ∀ argument, run.arguments = [.text "--print-config", .text argument] → argument = file := by
  obtain ⟨c, hc, rfl⟩ := List.mem_map.mp hrun
  obtain ⟨rule, hrule, input, hname, hcall⟩ := Linter.exists_rule_of_mem_callsFor hc
  rw [rules_of_linterFor hlinter] at hrule
  rcases calls_of_builtinRules hrule hcall with rfl | ⟨snippet, config, rfl⟩
  · refine ⟨rfl, ?_⟩
    intro argument harguments
    have hsame : input.document.name = argument := by
      simpa [Eslint.runOf, Eslint.resolveRun] using harguments
    rw [← hsame, hname]
  · refine ⟨rfl, ?_⟩
    intro argument harguments
    simp [Eslint.runOf, Eslint.verifyRun] at harguments

/-- The configuration that ESLint prints is that of the file that is linted exactly if the path of the file is
given from the root or the directories in which ESLint and the command run agree above so many of their last
names as the path climbs. This is so if the directory of the configuration is the one in which the command runs,
or is given from the root. -/
theorem place_of_printed_iff (hlinter : linterFor s path timings = .ok linter)
    (hfiles : linter.finder.discover s.files patterns linter.baseDir = .ok files) (format : ReportFormat)
    (cwd : List String) :
    (∀ run ∈ (runLint s path patterns format timings).eslintRuns,
      ∃ file ∈ files, run ∈ runsFor s linter file) ∧
    ∀ file ∈ files, ∀ run ∈ runsFor s linter file, ∀ argument,
      run.arguments = [.text "--print-config", .text argument] →
      argument = file ∧ run.workingDir = linter.config.baseDir ∧
      (place (run.directory cwd) argument = place cwd file ↔
        Path.isAbsolute file = true ∨
          (run.directory cwd).rdrop (Path.course file).up = cwd.rdrop (Path.course file).up) ∧
      ((∀ base, linter.config.baseDir = some base → Path.isAbsolute base = true ∨ place cwd base = cwd) →
        place (run.directory cwd) argument = place cwd file) := by
  refine ⟨fun run hrun => exists_file_of_mem_eslintRuns hlinter hfiles hrun, ?_⟩
  intro file hfile run hrun argument harguments
  obtain ⟨hdirectory, hargument⟩ := run_of_mem_runsFor hlinter hrun
  obtain rfl := hargument argument harguments
  refine ⟨rfl, hdirectory, place_eq_place_iff, ?_⟩
  intro hbase
  unfold ProgramRun.directory
  rw [hdirectory]
  cases hnone : linter.config.baseDir with
  | none => rfl
  | some base =>
    rcases hbase base hnone with habsolute | hhere
    · have hbelow : linter.baseDir = base := by rw [Linter.baseDir, hnone, Option.getD_some]
      rw [hbelow] at hfiles
      exact place_eq_place_iff.mpr (.inl (Finder.isAbsolute_of_mem_discover hfiles habsolute hfile))
    · simp only [hhere]

section Directory
open Markdown (readDocument)

/-- A directory with a configuration that sets nothing, and a document with a fence. -/
def directoryBelow : FileTree :=
  .directory [("w", .directory [("sub", .directory [("c.json", .file [123, 125]),
    ("a.md", .file [96, 96, 96, 106, 115, 10, 120, 10, 96, 96, 96])])])]

/-- The directory is seen from the one above it, with an ESLint that finds nothing. -/
def fromAbove : Surroundings where
  files := directoryBelow.system ["w"]
  runner run := .ok ⟨.code 0, if run.config.isSome then [91, 93] else [123, 125], []⟩

def fencedDocument (name : String) : Document :=
  ⟨name, ["```js", "x", "```"], .markdown, [⟨.fence, 1, 3, ⟨0, 11⟩, "x", "js", []⟩]⟩

theorem readAll_fence (name : String) :
    Pass.readAll name "```js\nx\n```" [Parser.markdown] = .ok [fencedDocument name] := by
  have hread : readDocument "```js\nx\n```" =
      [⟨.code .fenced (some "js") none "x", some ⟨⟨1, 0⟩, ⟨3, 11⟩⟩, []⟩] :=
    readDocument_of_code rfl rfl
  have hcheck : checkSource "```js\nx\n```" = .ok () := by rfl
  have hparse : Parser.markdown.parse "```js\nx\n```" =
      .ok ⟨.markdown, [⟨.fence, 1, 3, ⟨0, 11⟩, "x", "js", []⟩]⟩ := by
    simp only [Parser.markdown, hcheck, hread, tokensOf]
    rfl
  simp only [Pass.readAll, hparse]
  rfl

theorem lintFile_fence {rules : RuleSet} {base file : String} {fs : FileSystem} {finder : Finder}
    {analyzer : Analyzer} (hrules : rules.rules = builtinRules analyzer)
    (hread : fs.readText file = .ok "```js\nx\n```") :
    ∃ record, .resolve file ∈ record.calls ∧
      Linter.lintFile ⟨rules, { Config.standard with baseDir := some base }, Parser.builtin, finder⟩ fs file =
        .ok record := by
  let config : Config := { Config.standard with baseDir := some base }
  let invs : List Invocation := (builtinRules analyzer).map fun r => ⟨r, .standard⟩
  have hinvs : Pass.invocations config rules.rules = invs := by
    rw [hrules]
    rfl
  have hdocuments : Pass.readAll file "```js\nx\n```" (Pass.neededParsers Parser.builtin invs) =
      .ok [fencedDocument file] := readAll_fence file
  obtain ⟨called, hcalled⟩ : ∃ l, Pass.callAll [fencedDocument file] 3 invs = .ok l := ⟨_, rfl⟩
  obtain ⟨record, hrun⟩ :
      ∃ record, Pass.run config rules Parser.builtin file "```js\nx\n```" = .ok record := by
    simp only [Pass.run, Pass.runWith, bind_eq_ok_iff, mapError_eq_ok_iff, hinvs, hdocuments, Except.ok.injEq,
      exists_eq_left']
    exact ⟨_, called, hcalled, rfl⟩
  refine ⟨record, ?_, by rw [Linter.lintFile, hread]; exact hrun⟩
  obtain ⟨documents, hread', hperm⟩ := Pass.calls_perm hrun
  rw [hinvs] at hread' hperm
  obtain rfl := Except.ok.inj (hdocuments.symm.trans hread')
  let options : LintJavascript.Options := ⟨LintJavascript.defaultLanguages, none, none⟩
  have hoptions : LintJavascript.Options.ofJson .null = .ok options := by rfl
  have hfences : LintJavascript.fences options (fencedDocument file) ≠ [] := by
    simp only [LintJavascript.fences_eq, fencedDocument, preorder, List.append_nil]
    exact List.cons_ne_nil _ _
  have hasked := LintJavascript.resolve_mem_calls [] analyzer hoptions hfences
  rw [hperm.mem_iff]
  exact List.mem_flatMap.mpr ⟨_, List.mem_cons_of_mem _ List.mem_cons_self, hasked⟩

/-- Seen from above, the document is found and ESLint is asked for its configuration. -/
theorem printed_fromAbove (path base file : String)
    (hconfig : loadConfig fromAbove.files (some path) = .ok { Config.standard with baseDir := some base })
    (hunnamed : Finder.unnamed fromAbove.files base ["a.md"] = [])
    (hnamed : Finder.named ⟨[], []⟩ fromAbove.files base ["a.md"] = [file])
    (hread : fromAbove.files.readText file = .ok "```js\nx\n```") :
    ∃ linter, linterFor fromAbove (some path) false = .ok linter ∧
      linter.finder.discover fromAbove.files ["a.md"] linter.baseDir = .ok [file] ∧
      ∃ run ∈ runsFor fromAbove linter file,
        run ∈ (runLint fromAbove (some path) ["a.md"] .text false).eslintRuns ∧
        run.workingDir = some base ∧ run.arguments = [.text "--print-config", .text file] := by
  let config : Config := { Config.standard with baseDir := some base }
  obtain ⟨set, hset, hrules⟩ := exists_builtin ((eslintOf config).analyzer fromAbove.runner)
  let linter : Linter := ⟨set, config, Parser.builtin, ⟨[], []⟩⟩
  have hlinter : linterFor fromAbove (some path) false = .ok linter := by
    simp only [linterFor, bind_eq_ok_iff, mapError_eq_ok_iff]
    exact ⟨config, hconfig, set, hset, rfl⟩
  have hfiles : linter.finder.discover fromAbove.files ["a.md"] linter.baseDir = .ok [file] := by
    have hglobs : Finder.readGlobs (Finder.unnamed fromAbove.files base ["a.md"]) = .ok [] := by
      rw [hunnamed]
      rfl
    have hdiscover : linter.finder.discover fromAbove.files ["a.md"] base = _ :=
      Finder.discover_of_readGlobs_nil hglobs
    have hsingle : Path.dedup ([file].mergeSort Path.le) = [file] := by simp [Path.dedup]
    rwa [hnamed, hsingle] at hdiscover
  obtain ⟨record, hcall, hlint⟩ : ∃ record, .resolve file ∈ record.calls ∧
      linter.lintFile fromAbove.files file = .ok record := lintFile_fence hrules hread
  have hbatch : linter.lintPatterns fromAbove.files ["a.md"] =
      .ok ⟨[record.result], [], record.calls ++ []⟩ := by
    refine bind_eq_ok_iff.mpr ⟨[file], mapError_eq_ok_iff.mpr hfiles, ?_⟩
    show Batch.ofOutcomes [(file, linter.lintFile fromAbove.files file)] = _
    rw [hlint]
    rfl
  have hrun : (eslintOf config).resolveRun file ∈ runsFor fromAbove linter file := by
    rw [runsFor, Linter.callsFor, hlint]
    exact List.mem_map_of_mem (f := (eslintOf config).runOf) hcall
  refine ⟨linter, hlinter, hfiles, _, hrun, ?_, rfl, rfl⟩
  rw [eslintRuns_of_batch hlinter hfiles hbatch]
  exact List.mem_flatMap.mpr ⟨file, List.mem_singleton_self file, hrun⟩

/-- With the configuration in a directory below, ESLint looks for the file further below. -/
theorem printed_below :
    ∃ linter, linterFor fromAbove (some "sub/c.json") false = .ok linter ∧
      linter.finder.discover fromAbove.files ["a.md"] linter.baseDir = .ok ["sub/a.md"] ∧
      ∃ run ∈ runsFor fromAbove linter "sub/a.md",
        run ∈ (runLint fromAbove (some "sub/c.json") ["a.md"] .text false).eslintRuns ∧
        run.arguments = [.text "--print-config", .text "sub/a.md"] ∧
        place ["w"] "sub/a.md" = ["w", "sub", "a.md"] ∧
        place (run.directory ["w"]) "sub/a.md" = ["w", "sub", "sub", "a.md"] := by
  obtain ⟨linter, hlinter, hfiles, run, hrun, hmade, hdirectory, harguments⟩ :=
    printed_fromAbove "sub/c.json" "sub" "sub/a.md" rfl (by decide +kernel) (by decide +kernel) rfl
  refine ⟨linter, hlinter, hfiles, run, hrun, hmade, harguments, by decide +kernel, ?_⟩
  rw [ProgramRun.directory, hdirectory]
  decide +kernel

/-- From the root, with the configuration as well, ESLint looks at the file. -/
theorem printed_fromRoot :
    ∃ linter, linterFor fromAbove (some "/w/sub/c.json") false = .ok linter ∧
      linter.finder.discover fromAbove.files ["a.md"] linter.baseDir = .ok ["/w/sub/a.md"] ∧
      ∃ run ∈ runsFor fromAbove linter "/w/sub/a.md",
        run ∈ (runLint fromAbove (some "/w/sub/c.json") ["a.md"] .text false).eslintRuns ∧
        run.arguments = [.text "--print-config", .text "/w/sub/a.md"] ∧
        place (run.directory ["w"]) "/w/sub/a.md" = place ["w"] "/w/sub/a.md" := by
  obtain ⟨linter, hlinter, hfiles, run, hrun, hmade, -, harguments⟩ :=
    printed_fromAbove "/w/sub/c.json" "/w/sub" "/w/sub/a.md" rfl (by decide +kernel) (by decide +kernel) rfl
  have hplaces := (place_of_printed_iff hlinter hfiles .text ["w"]).2 _ (List.mem_singleton_self _) run hrun _
    harguments
  exact ⟨linter, hlinter, hfiles, run, hrun, hmade, harguments, hplaces.2.2.1.mpr (.inl (by decide))⟩

end Directory

end Command

end DocLint
