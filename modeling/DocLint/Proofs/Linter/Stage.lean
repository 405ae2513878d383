import DocLint.Proofs.Linter
import DocLint.Proofs.Pass.Interleaving
import Mathlib.Data.Prod.Lex
import Mathlib.Logic.Hydra

/-!
# Files that are linted at the same time

A file that is linted goes from stage to stage: it is read and parsed, the rules are called, those that wait take
their actions in any order, and a result is drawn up. Several files do so at the same time, each one as if it were
alone. So in whatever order their steps are taken, every file comes to its end, and to the same one.
-/

namespace DocLint

set_option autoImplicit false

/-- How far a file has come. -/
inductive Stage where
  | waiting
  | read (text : String)
  /-- Its rules are called, some of which are still to do. -/
  | calling (documents : List Document) (lineCount : Nat) (todo : List Invocation) (ledger : Ledger)
  /-- Every rule has been called, and some of them may wait. -/
  | running (ledger : Ledger)
  | ended (outcome : Except PassStop LintResult)

abbrev Pool := List (String × Stage)

namespace Linter

def invocations (l : Linter) : List Invocation :=
  Pass.invocations l.config l.rules.rules

/-- What the parsers that are needed make of a text. -/
def readDocuments (l : Linter) (path text : String) : Except LintError (List Document) :=
  Pass.readAll path text (Pass.neededParsers l.parsers l.invocations)

def unreadable (path : String) (f : FileFault) : PassStop :=
  .error (.file ("Failed to read " ++ path ++ ": " ++ f.message))

/-- What a file comes to when it is linted alone. -/
def outcome (l : Linter) (fs : FileSystem) (path : String) : Except PassStop LintResult :=
  (l.lintFile fs path).map PassRecord.result

section Outcome
variable {l : Linter} {fs : FileSystem} {path text : String} {documents : List Document}

theorem outcome_of_unreadable {f : FileFault} (h : fs.readText path = .error f) :
    l.outcome fs path = .error (unreadable path f) := by
  rw [outcome, lintFile, h]
  rfl

theorem outcome_of_read (h : fs.readText path = .ok text) :
    l.outcome fs path = Pass.alone l.config l.rules l.parsers path text := by
  rw [outcome, lintFile, h]
  exact Pass.runWith_result l.config l.rules l.parsers path text Ledger.roundRobin

theorem outcome_of_unparsable {e : LintError} (h : fs.readText path = .ok text)
    (hdocuments : l.readDocuments path text = .error e) : l.outcome fs path = .error (.error e) := by
  rw [outcome_of_read h, Pass.alone]
  unfold readDocuments invocations at hdocuments
  rw [hdocuments]
  rfl

theorem outcome_of_stopped {stop : PassStop} (h : fs.readText path = .ok text)
    (hdocuments : l.readDocuments path text = .ok documents)
    (hstopped : Pass.callAll documents (Pass.lineBound documents text) l.invocations = .error stop) :
    l.outcome fs path = .error stop := by
  rw [outcome_of_read h, ← Pass.runWith_eq_error_iff Ledger.roundRobin, Pass.runWith]
  unfold readDocuments invocations at hdocuments
  unfold invocations at hstopped
  rw [hdocuments]
  simp only [Except.mapError, bind, Except.bind, hstopped]

theorem outcome_of_idle {called ledger : Ledger} (h : fs.readText path = .ok text)
    (hdocuments : l.readDocuments path text = .ok documents)
    (hcalled : Pass.callAll documents (Pass.lineBound documents text) l.invocations = .ok called)
    (hsteps : called.Steps ledger) (hidle : ledger.Idle) :
    l.outcome fs path = .ok (Pass.conclude l.config path l.invocations ledger.join) := by
  rw [outcome_of_read h]
  exact (Pass.mayEnd_iff_alone _ _ _ _ _ _).mp (.intro hdocuments hcalled hsteps hidle)

end Outcome

end Linter

/-- If a task has actions left, it can take the next one. -/
theorem Ledger.exists_step {l : Ledger} (h : ¬ l.Idle) : ∃ l', l.Step l' := by
  simp only [Idle, not_forall] at h
  obtain ⟨⟨place, remaining, outcome⟩, ht, hremaining⟩ := h
  obtain ⟨k, hlt, hk⟩ := List.getElem_of_mem ht
  cases remaining with
  | nil => exact absurd rfl hremaining
  | cons a rest => exact ⟨_, .act (List.getElem?_eq_some_iff.mpr ⟨hlt, hk⟩)⟩

namespace Stage
variable {l : Linter} {fs : FileSystem} {path : String} {s s' : Stage}

/-- What a file does next. -/
inductive Step (l : Linter) (fs : FileSystem) (path : String) : Stage → Stage → Prop where
  | read {text : String} : fs.readText path = .ok text → Step l fs path .waiting (.read text)
  | unreadable {f : FileFault} : fs.readText path = .error f →
    Step l fs path .waiting (.ended (.error (Linter.unreadable path f)))
  | parse {text : String} {documents : List Document} : l.readDocuments path text = .ok documents →
    Step l fs path (.read text) (.calling documents (Pass.lineBound documents text) l.invocations .empty)
  | unparsable {text : String} {e : LintError} : l.readDocuments path text = .error e →
    Step l fs path (.read text) (.ended (.error (.error e)))
  | call {documents : List Document} {n : Nat} {inv : Invocation} {todo : List Invocation}
    {ledger ledger' : Ledger} : Pass.call documents n ledger inv = .ok ledger' →
    Step l fs path (.calling documents n (inv :: todo) ledger) (.calling documents n todo ledger')
  | stop {documents : List Document} {n : Nat} {inv : Invocation} {todo : List Invocation}
    {ledger : Ledger} {stop : PassStop} : Pass.call documents n ledger inv = .error stop →
    Step l fs path (.calling documents n (inv :: todo) ledger) (.ended (.error stop))
  | run {documents : List Document} {n : Nat} {ledger : Ledger} :
    Step l fs path (.calling documents n [] ledger) (.running ledger)
  | act {ledger ledger' : Ledger} : ledger.Step ledger' →
    Step l fs path (.running ledger) (.running ledger')
  | conclude {ledger : Ledger} : ledger.Idle →
    Step l fs path (.running ledger)
      (.ended (.ok (Pass.conclude l.config path l.invocations ledger.join)))

/-- A stage that a file can be at, whatever the others do: it has come there by what is behind its path. -/
inductive Sound (l : Linter) (fs : FileSystem) (path : String) : Stage → Prop where
  | waiting : Sound l fs path .waiting
  | read {text : String} : fs.readText path = .ok text → Sound l fs path (.read text)
  | calling {text : String} {documents : List Document} {called todo : List Invocation} {ledger : Ledger} :
    fs.readText path = .ok text → l.readDocuments path text = .ok documents → called ++ todo = l.invocations →
    called.foldlM (Pass.call documents (Pass.lineBound documents text)) .empty = .ok ledger →
    Sound l fs path (.calling documents (Pass.lineBound documents text) todo ledger)
  | running {text : String} {documents : List Document} {called ledger : Ledger} :
    fs.readText path = .ok text → l.readDocuments path text = .ok documents →
    Pass.callAll documents (Pass.lineBound documents text) l.invocations = .ok called → called.Steps ledger →
    Sound l fs path (.running ledger)
  | ended : Sound l fs path (.ended (l.outcome fs path))

theorem sound_ended {outcome : Except PassStop LintResult} (h : l.outcome fs path = outcome) :
    Sound l fs path (.ended outcome) :=
  h ▸ .ended

theorem outcome_of_sound {outcome : Except PassStop LintResult} (h : Sound l fs path (.ended outcome)) :
    outcome = l.outcome fs path := by
  cases h
  rfl

theorem Step.sound (h : Step l fs path s s') (hs : s.Sound l fs path) : s'.Sound l fs path := by
  cases h with
  | read hread => exact .read hread
  | unreadable hread => exact sound_ended (Linter.outcome_of_unreadable hread)
  | parse hdocuments =>
    cases hs with
    | read hread => exact .calling hread hdocuments (List.nil_append _) rfl
  | unparsable hdocuments =>
    cases hs with
    | read hread => exact sound_ended (Linter.outcome_of_unparsable hread hdocuments)
  | @call _ _ inv todo _ _ hcall =>
    cases hs with
    | @calling _ _ called _ _ hread hdocuments hsplit hcalled =>
      -- the rule goes over from those that are still to do to those that have been called
      have hmore : (called ++ [inv]) ++ todo = l.invocations := by
        rw [← hsplit, List.append_assoc, List.singleton_append]
      apply Sound.calling hread hdocuments hmore
      simp only [List.foldlM_append, hcalled, bind, Except.bind, List.foldlM_cons, hcall, List.foldlM_nil]
      rfl
  | stop hcall =>
    cases hs with
    | calling hread hdocuments hsplit hcalled =>
      refine sound_ended (Linter.outcome_of_stopped hread hdocuments ?_)
      rw [Pass.callAll, ← hsplit]
      simp only [List.foldlM_append, hcalled, bind, Except.bind, List.foldlM_cons, hcall]
  | run =>
    cases hs with
    | calling hread hdocuments hsplit hcalled =>
      rw [List.append_nil] at hsplit
      exact .running hread hdocuments (hsplit ▸ hcalled) .refl
  | act hstep =>
    cases hs with
    | running hread hdocuments hcalled hsteps => exact .running hread hdocuments hcalled (hsteps.tail hstep)
  | conclude hidle =>
    cases hs with
    | running hread hdocuments hcalled hsteps =>
      exact sound_ended (Linter.outcome_of_idle hread hdocuments hcalled hsteps hidle)

/-- A file that has not ended can go on. -/
theorem exists_step (hs : ∀ outcome, s ≠ .ended outcome) : ∃ s', Step l fs path s s' := by
  cases s with
  | waiting =>
    cases hread : fs.readText path with
    | ok text => exact ⟨_, .read hread⟩
    | error f => exact ⟨_, .unreadable hread⟩
  | read text =>
    cases hdocuments : l.readDocuments path text with
    | ok documents => exact ⟨_, .parse hdocuments⟩
    | error e => exact ⟨_, .unparsable hdocuments⟩
  | calling documents n todo ledger =>
    cases todo with
    | nil => exact ⟨_, .run⟩
    | cons inv todo =>
      cases hcall : Pass.call documents n ledger inv with
      | ok ledger' => exact ⟨_, .call hcall⟩
      | error stop => exact ⟨_, .stop hcall⟩
  | running ledger =>
    by_cases hidle : ledger.Idle
    · exact ⟨_, .conclude hidle⟩
    · obtain ⟨ledger', hstep⟩ := Ledger.exists_step hidle
      exact ⟨_, .act hstep⟩
  | ended outcome => exact absurd rfl (hs outcome)

/-- How much there is still to do: the stages and calls ahead, then the actions of the tasks that wait. -/
def rank (l : Linter) : Stage → Nat ×ₗ Nat
  | .waiting => toLex (l.invocations.length + 4, 0)
  | .read _ => toLex (l.invocations.length + 3, 0)
  | .calling _ _ todo _ => toLex (todo.length + 2, 0)
  | .running ledger => toLex (1, (ledger.pending.map fun t => t.remaining.length).sum)
  | .ended _ => toLex (0, 0)

theorem Step.rank_lt (h : Step l fs path s s') : s'.rank l < s.rank l := by
  cases h with
  | act hstep =>
    obtain ⟨before, place, a, rest, outcome, after, calls, hpending, rfl⟩ := hstep.exists_eq
    simp [rank, Prod.Lex.toLex_lt_toLex, hpending]
  | _ => simp [rank, Prod.Lex.toLex_lt_toLex]

end Stage

namespace Pool
variable {l : Linter} {fs : FileSystem} {pool pool' : Pool} {paths : List String}

def start (paths : List String) : Pool :=
  paths.map fun path => (path, .waiting)

inductive Step (l : Linter) (fs : FileSystem) : Pool → Pool → Prop where
  | file {before after : Pool} {path : String} {s s' : Stage} : s.Step l fs path s' →
    Step l fs (before ++ (path, s) :: after) (before ++ (path, s') :: after)

abbrev Steps (l : Linter) (fs : FileSystem) : Pool → Pool → Prop :=
  Relation.ReflTransGen (Step l fs)

def results (pool : Pool) : List LintResult :=
  pool.filterMap fun file =>
    match file.2 with
    | .ended outcome => outcome.toOption
    | _ => none

def failures (pool : Pool) : List (String × LintError) :=
  pool.filterMap fun file =>
    match file.2 with
    | .ended outcome => (errorOf? outcome).map fun e => (file.1, e)
    | _ => none

/-- The files are those that were given, and what each of them has come to is its own matter. -/
structure Sound (l : Linter) (fs : FileSystem) (paths : List String) (pool : Pool) : Prop where
  paths : pool.map Prod.fst = paths
  stages : ∀ file ∈ pool, file.2.Sound l fs file.1

theorem sound_start : Sound l fs paths (start paths) := by
  refine ⟨?_, ?_⟩
  · simp [start, Function.comp_def]
  · intro file hfile
    obtain ⟨path, -, rfl⟩ := List.mem_map.mp hfile
    exact .waiting

theorem Step.sound (h : Step l fs pool pool') (hpool : pool.Sound l fs paths) : pool'.Sound l fs paths := by
  obtain ⟨hpaths, hstages⟩ := hpool
  cases h with
  | file hstep =>
    rw [List.forall_mem_append, List.forall_mem_cons] at hstages
    obtain ⟨hbefore, hfile, hafter⟩ := hstages
    refine ⟨?_, ?_⟩
    · rw [← hpaths, List.map_append, List.map_append, List.map_cons, List.map_cons]
    · rw [List.forall_mem_append, List.forall_mem_cons]
      exact ⟨hbefore, hstep.sound hfile, hafter⟩

theorem sound_of_steps (h : Steps l fs (start paths) pool) : pool.Sound l fs paths := by
  induction h with
  | refl => exact sound_start
  | tail _ hstep ih => exact hstep.sound ih

/-- When no file can go on, all of them have ended. -/
theorem ended_of_stuck (h : ∀ next, ¬ Step l fs pool next) {file : String × Stage} (hfile : file ∈ pool) :
    ∃ outcome, file.2 = .ended outcome := by
  by_contra hno
  obtain ⟨before, after, rfl⟩ := List.append_of_mem hfile
  obtain ⟨s', hstep⟩ : ∃ s', Stage.Step l fs file.1 file.2 s' := Stage.exists_step (not_exists.mp hno)
  exact h _ (.file hstep)

/-- In the end every file has come to what it comes to alone. -/
theorem eq_of_stuck (hsteps : Steps l fs (start paths) pool) (h : ∀ next, ¬ Step l fs pool next) :
    pool = paths.map fun path => (path, .ended (l.outcome fs path)) := by
  obtain ⟨rfl, hstages⟩ := sound_of_steps hsteps
  rw [List.map_map]
  refine (List.map_id pool).symm.trans (List.map_congr_left fun file hfile => ?_)
  obtain ⟨outcome, hended⟩ := ended_of_stuck h hfile
  have hsound := hstages file hfile
  rw [hended] at hsound
  exact Prod.ext rfl (by simp [hended, Stage.outcome_of_sound hsound])

/-- No file goes on for ever. -/
theorem wellFounded_step (l : Linter) (fs : FileSystem) : WellFounded fun next pool => Step l fs pool next := by
  let ranks (pool : Pool) : Multiset (Nat ×ₗ Nat) := pool.map fun file => file.2.rank l
  have hranks : WellFounded (InvImage (Relation.CutExpand (· < ·)) ranks) :=
    InvImage.wf ranks (WellFounded.cutExpand wellFounded_lt)
  refine Subrelation.wf (fun {next pool} hstep => ?_) hranks
  cases hstep with
  | @file before after path s s' hstage =>
    -- the step replaces the rank of one file by a smaller one
    have hfile (s : Stage) : ranks (before ++ (path, s) :: after) = ranks (before ++ after) + {s.rank l} := by
      refine (Multiset.coe_eq_coe.mpr (List.Perm.map _ List.perm_middle)).trans ?_
      rw [List.map_cons, ← Multiset.cons_coe, ← Multiset.singleton_add, add_comm]
    rw [InvImage, hfile, hfile]
    exact Relation.cutExpand_add_single _ hstage.rank_lt

end Pool

end DocLint
