import DocLint.Rule
import DocLint.Rule.Reporter

/-!
# Ledgers

A ledger holds what the rules of a pass have done so far. Every enabled rule has a place in it, with a
reporter of its own. A rule that waits is a task; tasks take turns, and in a turn a task acts up to its
next pause. A schedule says whose turn it is; what a schedule leaves undone is done task by task.
-/

namespace DocLint

set_option autoImplicit false

/-- A rule that has been called and goes on later. -/
structure Task where
  /-- The place of the rule. -/
  place : Nat
  /-- The actions that are still to be done. -/
  remaining : List Action
  outcome : Outcome
  deriving Repr

/-- What the rules of a pass have done so far. -/
structure Ledger where
  /-- The reporters of the rules, by their places. -/
  reporters : List Reporter
  /-- The calls to analyzers. -/
  calls : List AnalyzerCall
  /-- Why rules were not called or did not end well, each with the place of the rule. -/
  errors : List (Nat × RuleError)
  /-- The places of the rules that have been called and have ended. -/
  ended : List Nat
  /-- The rules that wait, in the order in which they were called. -/
  pending : List Task
  deriving Repr

/-- Splits some actions at the first pause. -/
def splitAtPause : List Action → List Action × List Action
  | [] => ([], [])
  | .pause :: rest => ([], rest)
  | a :: rest =>
    let (now, later) := splitAtPause rest
    (a :: now, later)

/-- The number of turns that some actions take. -/
def turnsOf (actions : List Action) : Nat :=
  (actions.filter fun a => match a with
    | .pause => true
    | _ => false).length + 1

namespace Ledger

/-- The ledger without rules. -/
def empty : Ledger :=
  ⟨[], [], [], [], []⟩

/-- Enters a rule by its reporter. Its place is the number of the rules before it. -/
def enter (l : Ledger) (r : Reporter) : Ledger :=
  { l with reporters := l.reporters ++ [r] }

/-- Does an action of the rule at a place. -/
def act (l : Ledger) (place : Nat) : Action → Ledger
  | .report r => { l with reporters := l.reporters.modify place fun reporter => reporter.report r }
  | .call c => { l with calls := l.calls ++ [c] }
  | .pause => l

/-- Does some actions of the rule at a place. -/
def actAll (l : Ledger) (place : Nat) (actions : List Action) : Ledger :=
  actions.foldl (fun l a => l.act place a) l

/-- Notes why the rule at a place was not called. -/
def refuse (l : Ledger) (place : Nat) (e : RuleError) : Ledger :=
  { l with errors := l.errors ++ [(place, e)] }

/-- Notes how the rule at a place has ended. -/
def finish (l : Ledger) (place : Nat) (outcome : Outcome) : Ledger :=
  { l with
    ended := l.ended ++ [place]
    errors := l.errors ++ outcome.error?.toList.map fun e => (place, e) }

/-- Lets a rule wait. -/
def suspend (l : Ledger) (t : Task) : Ledger :=
  { l with pending := l.pending ++ [t] }

/-- Lets the task at an index of those that wait act up to its next pause. -/
def turn (l : Ledger) (k : Nat) : Ledger :=
  match l.pending[k]? with
  | none => l
  | some t =>
    let (now, later) := splitAtPause t.remaining
    { l.actAll t.place now with pending := l.pending.set k { t with remaining := later } }

/-- Lets every task act to its end, one after the other. -/
def complete (l : Ledger) : Ledger :=
  { l.pending.foldl (fun l t => l.actAll t.place t.remaining) l with
    pending := l.pending.map fun t => { t with remaining := [] } }

/-- Lets the tasks act to their ends. Each entry of the schedule gives a turn to the task at that index. -/
def runTasks (schedule : List Nat) (l : Ledger) : Ledger :=
  (schedule.foldl turn l).complete

/-- Notes how the tasks have ended, in the order in which they were called. -/
def join (l : Ledger) : Ledger :=
  l.pending.foldl (fun l t => l.finish t.place t.outcome) { l with pending := [] }

/-- The schedule in which all tasks take turns in order, until the last of them is done. -/
def roundRobin (l : Ledger) : List Nat :=
  let rounds := (l.pending.map fun t => turnsOf t.remaining).foldl max 0
  (List.replicate rounds (List.range l.pending.length)).flatten

end Ledger

end DocLint
