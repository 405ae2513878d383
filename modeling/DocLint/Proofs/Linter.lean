import DocLint.Linter
import DocLint.Proofs.Pass.Calls

/-!
# The outcomes of files

A batch has what the files come to, sorted into results and failures, each in the order of the files. The calls to
analyzers that are made for a batch are those made for each of the files. Those for a file are made by rules that see
a document of the file's name.
-/

namespace DocLint

set_option autoImplicit false

section Gather
variable {α β : Type}

/-- The order in which jobs end makes no difference. -/
theorem gather_eq_map (order : List Nat) (work : α → β) (jobs : List α) :
    gather order work jobs = jobs.map work := by
  -- a slot is empty, or has the outcome of its job
  let Filled (job : α) (slot : Option β) : Prop := slot = none ∨ slot = some (work job)
  have hread {jobs : List α} {slots : List (Option β)} (h : List.Forall₂ Filled jobs slots) :
      ((jobs.zip slots).map fun entry => entry.2.getD (work entry.1)) = jobs.map work := by
    induction h with
    | nil => rfl
    | cons hfirst _ ih =>
      rw [List.zip_cons_cons, List.map_cons, List.map_cons, ih]
      rcases hfirst with rfl | rfl <;> rfl
  have hstart : List.Forall₂ Filled jobs (jobs.map fun _ => none) := by
    rw [List.forall₂_map_right_iff, List.forall₂_same]
    exact fun _ _ => .inl rfl
  apply hread
  generalize (jobs.map fun _ => none) = slots at hstart
  induction order generalizing slots with
  | nil => exact hstart
  | cons k rest ih =>
    apply ih
    dsimp only
    split
    · next job hjob =>
      apply forall₂_set hstart k
      intro a ha
      rw [Option.some.inj (ha.symm.trans hjob)]
      exact .inr rfl
    · exact hstart

end Gather

/-- The calls of a pass, if it came to a result. -/
def callsOfOutcome : Except PassStop PassRecord → List AnalyzerCall
  | .ok record => record.calls
  | .error _ => []

/-- The error that a pass has ended with. -/
def errorOf? {α : Type} : Except PassStop α → Option LintError
  | .error (.error e) => some e
  | _ => none

namespace Batch
variable {outcomes : List (String × Except PassStop PassRecord)}

/-- The outcomes of files, sorted in their order. -/
def sorted (outcomes : List (String × Except PassStop PassRecord)) : Batch where
  results := outcomes.filterMap fun o => o.2.toOption.map PassRecord.result
  failures := outcomes.filterMap fun o => (errorOf? o.2).map fun e => (o.1, e)
  calls := outcomes.flatMap fun o => callsOfOutcome o.2

theorem ofOutcomes_eq_sorted (h : ∀ o ∈ outcomes, ∀ m, o.2 ≠ .error (.panicked m)) :
    ofOutcomes outcomes = .ok (sorted outcomes) := by
  induction outcomes with
  | nil => rfl
  | cons first rest ih =>
    obtain ⟨path, outcome⟩ := first
    obtain ⟨hfirst, hrest⟩ := List.forall_mem_cons.mp h
    rw [ofOutcomes, ih hrest]
    match outcome with
    | .ok record => rfl
    | .error (.error e) => rfl
    | .error (.panicked m) => exact absurd rfl (hfirst m)

/-- There is a batch unless a pass broke off. -/
theorem not_panicked_of_ofOutcomes {batch : Batch} (h : ofOutcomes outcomes = .ok batch) :
    ∀ o ∈ outcomes, ∀ m, o.2 ≠ .error (.panicked m) := by
  induction outcomes generalizing batch with
  | nil => exact List.forall_mem_nil _
  | cons first rest ih =>
    obtain ⟨path, outcome⟩ := first
    obtain ⟨others, hothers, hadd⟩ := bind_eq_ok_iff.mp h
    refine List.forall_mem_cons.mpr ⟨?_, ih hothers⟩
    rintro m rfl
    cases hadd

theorem ofOutcomes_eq_ok_iff {batch : Batch} : ofOutcomes outcomes = .ok batch ↔
    (∀ o ∈ outcomes, ∀ m, o.2 ≠ .error (.panicked m)) ∧ batch = sorted outcomes := by
  constructor
  · intro h
    have hnone := not_panicked_of_ofOutcomes h
    rw [ofOutcomes_eq_sorted hnone] at h
    exact ⟨hnone, (Except.ok.inj h).symm⟩
  · rintro ⟨hnone, rfl⟩
    exact ofOutcomes_eq_sorted hnone

end Batch

namespace Linter
variable {l : Linter} {fs : FileSystem} {patterns files : List String}

/-- The calls that are made while a file is linted. -/
def callsFor (l : Linter) (fs : FileSystem) (file : String) : List AnalyzerCall :=
  callsOfOutcome (l.lintFile fs file)

/-- The calls for the files that patterns select are those for each of the files. -/
theorem calls_lintPatterns {batch : Batch} (hfiles : l.finder.discover fs patterns l.baseDir = .ok files)
    (hbatch : l.lintPatterns fs patterns = .ok batch) : batch.calls = files.flatMap (l.callsFor fs) := by
  simp only [lintPatterns, lintFiles, lintFilesWith, bind_eq_ok_iff, mapError_eq_ok_iff, hfiles,
    Except.ok.injEq, exists_eq_left', gather_eq_map] at hbatch
  obtain ⟨-, rfl⟩ := Batch.ofOutcomes_eq_ok_iff.mp hbatch
  rw [Batch.sorted, ← List.map_prod_left_eq_zip, List.flatMap_map]
  rfl

/-- A file is linted under the path by which it was found. -/
theorem exists_rule_of_mem_callsFor {file : String} {c : AnalyzerCall} (hc : c ∈ l.callsFor fs file) :
    ∃ rule ∈ l.rules.rules, ∃ input : RuleInput,
      input.document.name = file ∧ c ∈ (rule.trace input).calls := by
  unfold callsFor at hc
  cases hlint : l.lintFile fs file with
  | error stop =>
    rw [hlint] at hc
    exact absurd hc List.not_mem_nil
  | ok record =>
    rw [hlint] at hc
    simp only [lintFile, bind_eq_ok_iff, mapError_eq_ok_iff] at hlint
    obtain ⟨text, -, hrun⟩ := hlint
    obtain ⟨documents, hread, hperm⟩ := Pass.calls_perm hrun
    obtain ⟨inv, hinv, hcall⟩ := List.mem_flatMap.mp (hperm.mem_iff.mp hc)
    obtain ⟨rule, hrule, hsettings⟩ := List.mem_filterMap.mp hinv
    obtain ⟨settings, -, rfl⟩ := Option.map_eq_some_iff.mp hsettings
    unfold Invocation.calls at hcall
    split at hcall
    · exact absurd hcall List.not_mem_nil
    · next document hfind =>
      have hname := Pass.name_of_mem_readAll hread (List.mem_of_find?_eq_some hfind)
      split at hcall
      · exact ⟨rule, hrule, ⟨document, settings.options⟩, hname, hcall⟩
      all_goals exact absurd hcall List.not_mem_nil

end Linter

end DocLint
