import DocLint.Proofs.Linter.Stage
import DocLint.Proofs.Pass.Reordering

/-!
# Batches

A batch of files has every path once: among the results if the file can be linted, or else among the failures, each
in the order of the paths. That holds for every order in which the files are done. What is behind one of the paths
makes no difference for the others.
-/

namespace DocLint.Linter

set_option autoImplicit false

/-- What a batch of files has, however it comes about. -/
structure Lints (l : Linter) (fs : FileSystem) (paths : List String) (batch : Batch) : Prop where
  /-- Files may be done in any order. -/
  anyOrder : ∀ order, l.lintFilesWith order fs paths = .ok batch
  /-- So may their steps, as long as one of the files can go on. -/
  anyInterleaving : ∀ pool, Pool.Steps l fs (Pool.start paths) pool → (∀ next, ¬ Pool.Step l fs pool next) →
    pool.results = batch.results ∧ pool.failures = batch.failures
  results : batch.results = paths.filterMap fun path => (l.outcome fs path).toOption
  failures : batch.failures = paths.filterMap fun path => (errorOf? (l.outcome fs path)).map fun e => (path, e)
  eachOnce : (batch.results.map LintResult.name ++ batch.failures.map Prod.fst).Perm paths
  /-- With something else behind a path, be it unreadable, there is a batch with the same for the other paths. -/
  isolated : ∀ fs' : FileSystem, ∀ p, (∀ path ∈ paths, path ≠ p → fs'.readText path = fs.readText path) →
    (∀ m, l.lintFile fs' p ≠ .error (.panicked m)) →
    ∃ batch', l.lintFiles fs' paths = .ok batch' ∧
      (batch'.results.filter fun r => r.name != p) = (batch.results.filter fun r => r.name != p) ∧
      (batch'.failures.filter fun f => f.1 != p) = batch.failures.filter fun f => f.1 != p

section Keys
variable {α β : Type} {f : α → Option β} {key : β → α}

/-- What is made of each thing, if anything, tells the thing. -/
theorem map_key_filterMap (h : ∀ a b, f a = some b → key b = a) (as : List α) :
    (as.filterMap f).map key = as.filter fun a => (f a).isSome := by
  induction as with
  | nil => rfl
  | cons a rest ih =>
    cases hf : f a with
    | none => rw [List.filterMap_cons_none hf, ih, List.filter_cons_of_neg (by simp [hf])]
    | some b => rw [List.filterMap_cons_some hf, List.map_cons, ih, List.filter_cons_of_pos (by simp [hf]), h a b hf]

theorem filter_key_filterMap [BEq α] (h : ∀ a b, f a = some b → key b = a) (a₀ : α) (as : List α) :
    ((as.filterMap f).filter fun b => key b != a₀) = (as.filter fun a => a != a₀).filterMap f := by
  rw [List.filter_filterMap, List.filterMap_filter]
  apply List.filterMap_congr
  intro a _
  cases hf : f a with
  | none => simp
  | some b => simp [Option.filter, h a b hf]

end Keys

section Outcome
variable {l : Linter} {fs fs' : FileSystem} {path : String}

theorem toOption_outcome : (l.outcome fs path).toOption = (l.lintFile fs path).toOption.map PassRecord.result := by
  unfold outcome
  cases l.lintFile fs path <;> rfl

theorem errorOf?_outcome : errorOf? (l.outcome fs path) = errorOf? (l.lintFile fs path) := by
  unfold outcome
  cases l.lintFile fs path with
  | ok record => rfl
  | error stop => cases stop <;> rfl

/-- A result has the name of its file. -/
theorem name_of_outcome {result : LintResult} (h : l.outcome fs path = .ok result) : result.name = path := by
  cases hread : fs.readText path with
  | error f =>
    rw [outcome_of_unreadable hread] at h
    cases h
  | ok text =>
    rw [outcome_of_read hread, Pass.alone_eq_ok_iff] at h
    obtain ⟨_, _, -, -, rfl⟩ := h
    rfl

/-- The pass of a file breaks off only if the check of some rule's options does. -/
theorem breaks_of_lintFile {m : Option String} (h : l.lintFile fs path = .error (.panicked m)) :
    Pass.Breaks l.invocations m := by
  cases hread : fs.readText path with
  | error f =>
    rw [lintFile, hread] at h
    cases h
  | ok text =>
    rw [lintFile, hread] at h
    exact Pass.breaks_of_runWith h

theorem lintFile_congr (h : fs'.readText path = fs.readText path) : l.lintFile fs' path = l.lintFile fs path := by
  rw [lintFile, lintFile, h]

end Outcome

section Batch
variable {l : Linter} {fs : FileSystem} {paths : List String} {batch : Batch}

theorem lintFilesWith_eq_ok_iff {order : List Nat} : l.lintFilesWith order fs paths = .ok batch ↔
    (∀ path ∈ paths, ∀ m, l.lintFile fs path ≠ .error (.panicked m)) ∧
      batch = .sorted (paths.map fun path => (path, l.lintFile fs path)) := by
  rw [lintFilesWith, gather_eq_map, ← List.map_prod_left_eq_zip, Batch.ofOutcomes_eq_ok_iff, List.forall_mem_map]

theorem lintFiles_eq_ok_iff : l.lintFiles fs paths = .ok batch ↔
    (∀ path ∈ paths, ∀ m, l.lintFile fs path ≠ .error (.panicked m)) ∧
      batch = .sorted (paths.map fun path => (path, l.lintFile fs path)) :=
  lintFilesWith_eq_ok_iff

theorem results_of_lintFiles (h : l.lintFiles fs paths = .ok batch) :
    batch.results = paths.filterMap fun path => (l.outcome fs path).toOption := by
  obtain ⟨-, rfl⟩ := lintFiles_eq_ok_iff.mp h
  simp only [Batch.sorted, List.filterMap_map, Function.comp_def, toOption_outcome]

theorem failures_of_lintFiles (h : l.lintFiles fs paths = .ok batch) :
    batch.failures = paths.filterMap fun path => (errorOf? (l.outcome fs path)).map fun e => (path, e) := by
  obtain ⟨-, rfl⟩ := lintFiles_eq_ok_iff.mp h
  simp only [Batch.sorted, List.filterMap_map, Function.comp_def, errorOf?_outcome]

theorem name_of_toOption (path : String) (result : LintResult) (h : (l.outcome fs path).toOption = some result) :
    result.name = path := by
  cases houtcome : l.outcome fs path with
  | error stop =>
    rw [houtcome] at h
    cases h
  | ok result' =>
    rw [houtcome] at h
    cases h
    exact name_of_outcome houtcome

theorem path_of_errorOf? (path : String) (failure : String × LintError)
    (h : (errorOf? (l.outcome fs path)).map (fun e => (path, e)) = some failure) : failure.1 = path := by
  obtain ⟨e, -, rfl⟩ := Option.map_eq_some_iff.mp h
  rfl

/-- A pass that does not break off has a result or an error. -/
theorem isSome_errorOf? {path : String} (h : ∀ m, l.lintFile fs path ≠ .error (.panicked m)) :
    (errorOf? (l.outcome fs path)).isSome = !(l.outcome fs path).toOption.isSome := by
  rw [errorOf?_outcome, toOption_outcome]
  match hlint : l.lintFile fs path with
  | .ok record => rfl
  | .error (.error e) => rfl
  | .error (.panicked m) => exact absurd hlint (h m)

theorem each_once (h : l.lintFiles fs paths = .ok batch) :
    (batch.results.map LintResult.name ++ batch.failures.map Prod.fst).Perm paths := by
  obtain ⟨hnone, -⟩ := lintFiles_eq_ok_iff.mp h
  rw [results_of_lintFiles h, failures_of_lintFiles h, map_key_filterMap name_of_toOption,
    map_key_filterMap path_of_errorOf?]
  have hothers : (paths.filter fun path => ((errorOf? (l.outcome fs path)).map fun e => (path, e)).isSome) =
      paths.filter fun path => !(l.outcome fs path).toOption.isSome := by
    apply List.filter_congr
    intro path hpath
    rw [Option.isSome_map, isSome_errorOf? (hnone path hpath)]
  rw [hothers]
  exact List.filter_append_perm _ paths

theorem pool_of_stuck (h : l.lintFiles fs paths = .ok batch) {pool : Pool}
    (hsteps : Pool.Steps l fs (Pool.start paths) pool) (hstuck : ∀ next, ¬ Pool.Step l fs pool next) :
    pool.results = batch.results ∧ pool.failures = batch.failures := by
  rw [results_of_lintFiles h, failures_of_lintFiles h, Pool.eq_of_stuck hsteps hstuck]
  constructor
  · rw [Pool.results, List.filterMap_map]
    rfl
  · rw [Pool.failures, List.filterMap_map]
    rfl

/-- What is behind one path makes no difference for the others. -/
theorem exists_batch_of_same {fs' : FileSystem} {p : String} (h : l.lintFiles fs paths = .ok batch)
    (hsame : ∀ path ∈ paths, path ≠ p → fs'.readText path = fs.readText path)
    (hp : ∀ m, l.lintFile fs' p ≠ .error (.panicked m)) :
    ∃ batch', l.lintFiles fs' paths = .ok batch' ∧
      (batch'.results.filter fun r => r.name != p) = (batch.results.filter fun r => r.name != p) ∧
      (batch'.failures.filter fun f => f.1 != p) = batch.failures.filter fun f => f.1 != p := by
  obtain ⟨hnone, -⟩ := lintFiles_eq_ok_iff.mp h
  have hlint : ∀ path ∈ paths, path ≠ p → l.lintFile fs' path = l.lintFile fs path :=
    fun path hpath hne => lintFile_congr (hsame path hpath hne)
  have hnone' : ∀ path ∈ paths, ∀ m, l.lintFile fs' path ≠ .error (.panicked m) := by
    intro path hpath
    by_cases hne : path = p
    · rw [hne]
      exact hp
    · rw [hlint path hpath hne]
      exact hnone path hpath
  have h' := lintFiles_eq_ok_iff.mpr ⟨hnone', rfl⟩
  have houtcome : ∀ path ∈ paths.filter (fun path => path != p), l.outcome fs' path = l.outcome fs path := by
    intro path hpath
    obtain ⟨hmem, hne⟩ := List.mem_filter.mp hpath
    rw [outcome, outcome, hlint path hmem (bne_iff_ne.mp hne)]
  refine ⟨_, h', ?_, ?_⟩
  · rw [results_of_lintFiles h, results_of_lintFiles h', filter_key_filterMap name_of_toOption,
      filter_key_filterMap name_of_toOption]
    exact List.filterMap_congr fun path hpath => by rw [houtcome path hpath]
  · rw [failures_of_lintFiles h, failures_of_lintFiles h', filter_key_filterMap path_of_errorOf?,
      filter_key_filterMap path_of_errorOf?]
    exact List.filterMap_congr fun path hpath => by rw [houtcome path hpath]

/-- Files that are linted at the same time come to a batch unless the pass of one of them breaks off, and so they do
whenever no check of options does. No order of their steps goes on for ever, and each leads to this batch, which has
every path once, in the order of the paths. -/
theorem lintFiles_in_any_order (l : Linter) (fs : FileSystem) (paths : List String) :
    ((∃ batch, l.lintFiles fs paths = .ok batch) ↔
      ∀ path ∈ paths, ∀ m, l.lintFile fs path ≠ .error (.panicked m)) ∧
    ((∀ m, ¬ Pass.Breaks l.invocations m) → ∃ batch, l.lintFiles fs paths = .ok batch) ∧
    (WellFounded fun next pool => Pool.Step l fs pool next) ∧
    ∀ batch, l.lintFiles fs paths = .ok batch → Lints l fs paths batch := by
  have hexists : (∃ batch, l.lintFiles fs paths = .ok batch) ↔
      ∀ path ∈ paths, ∀ m, l.lintFile fs path ≠ .error (.panicked m) := by
    constructor
    · rintro ⟨batch, h⟩
      exact (lintFiles_eq_ok_iff.mp h).1
    · intro hnone
      exact ⟨_, lintFiles_eq_ok_iff.mpr ⟨hnone, rfl⟩⟩
  refine ⟨hexists, ?unbroken, Pool.wellFounded_step l fs, ?lints⟩
  case unbroken =>
    intro hnone
    rw [hexists]
    intro path _ m hpanicked
    exact hnone m (breaks_of_lintFile hpanicked)
  case lints =>
    intro batch h
    exact {
      anyOrder := fun order => lintFilesWith_eq_ok_iff.mpr (lintFiles_eq_ok_iff.mp h)
      anyInterleaving := fun pool hsteps hstuck => pool_of_stuck h hsteps hstuck
      results := results_of_lintFiles h
      failures := failures_of_lintFiles h
      eachOnce := each_once h
      isolated := fun fs' p hsame hp => exists_batch_of_same h hsame hp }

end Batch

/-- A file that can be read, and nothing else. -/
def oneFile : FileSystem where
  isFile path := path == "a.txt"
  occupied path := path == "a.txt"
  read path := if path == "a.txt" then .ok [120] else .error .notFound
  writeFault _ := none
  walk _ := []

def breakingLinter : Linter :=
  ⟨Pass.doublyBreakingRules, .standard, Parser.builtin, ⟨[], []⟩⟩

/-- Where a check breaks off there is no batch in any order of the files, so even a file that cannot be read, and
alone is a failure, is not listed. -/
theorem no_batch_of_breakingLinter :
    oneFile.readText "a.txt" = .ok "x" ∧
    (∃ e, breakingLinter.lintFile oneFile "b.txt" = .error (.error e)) ∧
    (∀ order batch, breakingLinter.lintFilesWith order oneFile ["a.txt", "b.txt"] ≠ .ok batch) ∧
    ¬ ∀ l fs paths, ∃ batch, Lints l fs paths batch := by
  have hread : oneFile.readText "a.txt" = .ok "x" := by rfl
  have hbreaks : breakingLinter.lintFile oneFile "a.txt" = .error (.panicked (some "boom")) := by
    rw [lintFile, hread]
    rfl
  have hnone (order : List Nat) (batch : Batch) :
      breakingLinter.lintFilesWith order oneFile ["a.txt", "b.txt"] ≠ .ok batch := by
    intro h
    exact (lintFilesWith_eq_ok_iff.mp h).1 "a.txt" List.mem_cons_self _ hbreaks
  refine ⟨hread, ⟨_, rfl⟩, hnone, ?_⟩
  intro hclaim
  obtain ⟨batch, hlints⟩ := hclaim breakingLinter oneFile ["a.txt", "b.txt"]
  exact hnone [] batch (hlints.anyOrder [])

end DocLint.Linter
