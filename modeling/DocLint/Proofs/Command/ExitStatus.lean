import DocLint.Proofs.Command.PrintConfig

/-!
# What is printed of a batch, and what the command ends with

The entries of a batch are its violations with the documents they stand in: document by document, and of each
document in the order of its result. The text shows every entry once, the summary counts them, and the command
ends with one exactly if there is an entry that is an error or a file that could not be linted.
-/

namespace DocLint

set_option autoImplicit false

namespace Report

/-- The violations of some results with the names of their documents, in the order of the results. -/
def entries (results : List LintResult) : List (String × Violation) :=
  results.flatMap fun r => r.violations.map fun v => (r.name, v)

/-- The number of entries of a severity. -/
def countOf (severity : Severity) (results : List LintResult) : Nat :=
  (entries results).countP fun e => e.2.severity = severity

variable {results : List LintResult}

theorem map_snd_entries : (entries results).map Prod.snd = results.flatMap LintResult.violations := by
  simp only [entries, List.map_flatMap, List.map_map, Function.comp_def, List.map_id']

theorem length_entries : (entries results).length = issueCount results := by
  rw [issueCount, ← map_snd_entries, List.length_map]

theorem violationLines_eq :
    results.flatMap violationLines = (entries results).map fun e => violationLine e.1 e.2 := by
  simp only [entries, List.map_flatMap, List.map_map]
  rfl

theorem warningCount_eq : warningCount results = countOf .warning results := by
  rw [warningCount, ← map_snd_entries, ← List.countP_eq_length_filter, List.countP_map]
  rfl

/-- An entry is an error or a warning, and not both. -/
theorem countOf_error_add_countOf_warning (results : List LintResult) :
    countOf .error results + countOf .warning results = issueCount results := by
  have hother : ∀ v : Violation, (¬ v.severity = .error) ↔ v.severity = .warning := by
    intro v
    cases v.severity <;> simp
  rw [← length_entries, List.length_eq_countP_add_countP (l := entries results) fun e => e.2.severity = .error]
  simp only [countOf, decide_eq_true_eq, hother]

theorem errorCount_eq : errorCount results = countOf .error results := by
  have hsum := countOf_error_add_countOf_warning results
  rw [errorCount, warningCount_eq]
  omega

theorem summaryLine_eq :
    summaryLine results = "Checked " ++ toString results.length ++ " files, found " ++
      toString (entries results).length ++ " issues (" ++ toString (countOf .error results) ++ " errors, " ++
      toString (countOf .warning results) ++ " warnings)" := by
  rw [summaryLine, length_entries, errorCount_eq, warningCount_eq]

theorem mem_entries {name : String} {v : Violation} :
    (name, v) ∈ entries results ↔ ∃ r ∈ results, r.name = name ∧ v ∈ r.violations := by
  simp only [entries, List.mem_flatMap, List.mem_map, Prod.mk.injEq]
  constructor
  · rintro ⟨r, hr, v, hv, hname, rfl⟩
    exact ⟨r, hr, hname, hv⟩
  · rintro ⟨r, hr, hname, hv⟩
    exact ⟨r, hr, v, hv, hname, rfl⟩

theorem any_hasErrors_iff : results.any LintResult.hasErrors = true ↔ 0 < countOf .error results := by
  rw [countOf, List.countP_pos_iff, List.any_eq_true]
  simp only [LintResult.hasErrors, List.any_eq_true, decide_eq_true_eq, Prod.exists, mem_entries]
  constructor
  · rintro ⟨r, hr, v, hv, herror⟩
    exact ⟨r.name, v, ⟨r, hr, rfl, hv⟩, herror⟩
  · rintro ⟨_, v, ⟨r, hr, -, hv⟩, herror⟩
    exact ⟨r, hr, v, hv, herror⟩

theorem countOf_error_eq_zero_iff :
    countOf .error results = 0 ↔ ∀ e ∈ entries results, e.2.severity = .warning := by
  rw [countOf, List.countP_eq_zero]
  refine forall₂_congr fun e _ => ?_
  cases e.2.severity <;> simp

end Report

namespace Command
open Report (entries countOf)

theorem hasFailed_iff {batch : Batch} :
    hasFailed batch = true ↔ 0 < countOf .error batch.results ∨ batch.failures ≠ [] := by
  simp only [hasFailed, Bool.or_eq_true, Report.any_hasErrors_iff, Bool.not_eq_true', List.isEmpty_eq_false_iff]

theorem hasFailed_eq_false_iff {batch : Batch} :
    hasFailed batch = false ↔ (∀ e ∈ entries batch.results, e.2.severity = .warning) ∧ batch.failures = [] := by
  rw [← Bool.not_eq_true, hasFailed_iff, not_or, Nat.pos_iff_ne_zero, not_not, not_not,
    Report.countOf_error_eq_zero_iff]

theorem code_batchResult (eslint : Eslint) (format : ReportFormat) (timings : Bool) (batch : Batch) :
    (batchResult eslint format timings batch).code = if hasFailed batch then 1 else 0 := rfl

theorem code_batchResult_eq_zero_iff {eslint : Eslint} {format : ReportFormat} {timings : Bool} {batch : Batch} :
    (batchResult eslint format timings batch).code = 0 ↔ hasFailed batch = false := by
  rw [code_batchResult]
  cases hasFailed batch <;> decide

theorem runLint_eq_fatal {s : Surroundings} {path : Option String} {patterns : List String}
    {format : ReportFormat} {timings : Bool} {message : String}
    (h : linterFor s path timings = .error message) :
    runLint s path patterns format timings = .fatal message := by
  simp only [linterFor, bind_eq_error_iff, mapError_eq_error_iff, mapError_eq_ok_iff] at h
  obtain ⟨e, hconfig, rfl⟩ | ⟨config, hconfig, ⟨e, hset, rfl⟩ | ⟨set, hset, e, hlinter, rfl⟩⟩ := h
  · simp only [runLint, hconfig]
  · simp only [runLint, hconfig, hset]
  · simp only [runLint, hconfig, hset, hlinter]

/-- The command reports the batch of its linter, or could not do its work. -/
theorem runLint_cases (s : Surroundings) (path : Option String) (patterns : List String)
    (format : ReportFormat) (timings : Bool) :
    (∃ message, runLint s path patterns format timings = .fatal message) ∨
      ∃ linter batch, linterFor s path timings = .ok linter ∧
        linter.lintPatterns s.files patterns = .ok batch ∧
        runLint s path patterns format timings =
          batchResult (eslintOf linter.config) format linter.config.timings batch := by
  cases hlinter : linterFor s path timings with
  | error message => exact .inl ⟨message, runLint_eq_fatal hlinter⟩
  | ok linter =>
    have hrun := runLint_eq hlinter patterns format
    cases hbatch : linter.lintPatterns s.files patterns with
    | error stop =>
      rw [hbatch] at hrun
      cases stop with
      | error e => exact .inl ⟨_, hrun⟩
      | panicked m => exact .inl ⟨_, hrun⟩
    | ok batch =>
      rw [hbatch] at hrun
      exact .inr ⟨linter, batch, rfl, hbatch, hrun⟩

/-- Of a batch the text shows each entry once, in order, and a summary with the numbers of its entries, its errors
and its warnings. In every format the command ends with one exactly if there are errors or files that could not
be linted, and with zero if all entries are warnings, whichever rules have failed. -/
theorem output_agrees_with_code (timings : Bool) (batch : Batch) (eslint : Eslint) :
    (batchResult eslint .text timings batch).stdout =
        (entries batch.results).map (fun e => Report.violationLine e.1 e.2) ++
        ["", "Checked " ++ toString batch.results.length ++ " files, found " ++
          toString (entries batch.results).length ++ " issues (" ++
          toString (countOf .error batch.results) ++ " errors, " ++
          toString (countOf .warning batch.results) ++ " warnings)"] ++
        (if timings then Report.timingLines batch.results else []) ∧
      countOf .error batch.results + countOf .warning batch.results = (entries batch.results).length ∧
      Report.warningCount batch.results ≤ Report.issueCount batch.results ∧
      (∀ format,
        (batchResult eslint format timings batch).code =
            (if 0 < countOf .error batch.results ∨ batch.failures ≠ [] then 1 else 0) ∧
        ((batchResult eslint format timings batch).code = 0 ↔
          (∀ e ∈ entries batch.results, e.2.severity = .warning) ∧ batch.failures = [])) ∧
      ∀ s path patterns format asked,
        (∃ message, runLint s path patterns format asked = .fatal message) ∨
          ∃ linter b, linterFor s path asked = .ok linter ∧
            linter.lintPatterns s.files patterns = .ok b ∧
            runLint s path patterns format asked =
              batchResult (eslintOf linter.config) format linter.config.timings b := by
  have hsum := Report.countOf_error_add_countOf_warning batch.results
  refine ⟨?_, ?_, ?_, ?_, runLint_cases⟩
  · show Report.textLines batch.results timings = _
    rw [Report.textLines, Report.violationLines_eq, Report.summaryLine_eq]
  · rw [hsum, Report.length_entries]
  · rw [Report.warningCount_eq]
    omega
  · intro format
    constructor
    · simp only [code_batchResult, hasFailed_iff]
    · rw [code_batchResult_eq_zero_iff, hasFailed_eq_false_iff]

end Command

end DocLint
