import DocLint.Pass

/-!
# Logs of passes

A logged pass does what a pass does, and notes what it runs that is not its own: parsers, checks of options and
functions of rules.
-/

namespace DocLint

set_option autoImplicit false

inductive Event where
  /-- A parser reads the source. -/
  | read (p : Parser)
  /-- A rule checks its options. -/
  | check (rule : Rule)
  /-- The function of a rule is called. -/
  | call (rule : Rule)

/-- A part of a pass, with the events in it. -/
structure Logged (α : Type) where
  events : List Event
  outcome : Except PassStop α

namespace Logged
variable {α β : Type}

def bind (x : Logged α) (f : α → Logged β) : Logged β :=
  match x.outcome with
  | .error stop => ⟨x.events, .error stop⟩
  | .ok a => ⟨x.events ++ (f a).events, (f a).outcome⟩

instance : Monad Logged where
  pure a := ⟨[], .ok a⟩
  bind := bind

/-- Runs something, and notes it. -/
def note (event : Event) (outcome : Except PassStop α) : Logged α :=
  ⟨[event], outcome⟩

def stop (reason : PassStop) : Logged α :=
  ⟨[], .error reason⟩

/-- The parsers that have read the source, in order. -/
def reads (x : Logged α) : List Parser :=
  x.events.filterMap fun
    | .read p => some p
    | .check _ | .call _ => none

@[simp] theorem events_pure (a : α) : (pure a : Logged α).events = [] := rfl

theorem outcome_bind (x : Logged α) (f : α → Logged β) :
    (x >>= f).outcome = x.outcome >>= fun a => (f a).outcome := by
  change (bind x f).outcome = _
  unfold bind
  cases x.outcome <;> rfl

theorem events_bind_of_ok {x : Logged α} {a : α} (h : x.outcome = .ok a) (f : α → Logged β) :
    (x >>= f).events = x.events ++ (f a).events := by
  change (bind x f).events = _
  unfold bind
  rw [h]

theorem events_bind_of_error {x : Logged α} {reason : PassStop} (h : x.outcome = .error reason)
    (f : α → Logged β) : (x >>= f).events = x.events := by
  change (bind x f).events = _
  unfold bind
  rw [h]

@[simp] theorem events_bind_pure (x : Logged α) (f : α → β) : (x >>= fun a => pure (f a)).events = x.events := by
  cases h : x.outcome with
  | error reason => exact events_bind_of_error h _
  | ok a => rw [events_bind_of_ok h, events_pure, List.append_nil]

end Logged

namespace Pass

/-- Reads a source with parsers, one after the other, up to the first one that rejects it. -/
def readLogged (name source : String) : List Parser → Logged (List Document)
  | [] => pure []
  | p :: rest => do
    let stream ← Logged.note (.read p) ((p.parse source).mapError fun e => .error (.parse e))
    let documents ← readLogged name source rest
    return .ofSource name source stream :: documents

/-- Calls an enabled rule. -/
def callLogged (documents : List Document) (lineCount : Nat) (l : Ledger) (inv : Invocation) :
    Logged Ledger :=
  let place := l.reporters.length
  let l := l.enter (Reporter.new inv.rule.descriptor inv.settings.severity lineCount)
  match documents.find? fun d => d.parser = inv.parser with
  | none => pure (l.refuse place (missingParser inv.parser))
  | some document => do
    match ← Logged.note (.check inv.rule) (.ok (inv.rule.validate inv.settings.options)) with
    | .panicked m => Logged.stop (.panicked m)
    | .rejected e => return l.refuse place e
    | .accepted =>
      let input : RuleInput := ⟨document, inv.settings.options⟩
      match inv.rule.function with
      | .sync run =>
        let t ← Logged.note (.call inv.rule) (.ok (run input))
        return (l.actAll place t.actions).finish place t.outcome
      | .async start =>
        match ← Logged.note (.call inv.rule) (.ok (start input)) with
        | .started atOnce t => return (l.actAll place atOnce).suspend ⟨place, t.actions, t.outcome⟩
        | .panicked atOnce m => return (l.actAll place atOnce).finish place (.panicked m)

/-- Lints a document, with a schedule for the rules that wait. -/
def runLogged (schedule : Ledger → List Nat) (config : Config) (rules : RuleSet) (parsers : List Parser)
    (name source : String) : Logged PassRecord := do
  let invs := invocations config rules.rules
  let needed := neededParsers parsers invs
  let documents ← readLogged name source needed
  let called ← invs.foldlM (callLogged documents (lineBound documents source)) .empty
  let done := (called.runTasks (schedule called)).join
  return {
    result := conclude config name invs done
    parsed := needed.map Parser.kind
    calls := done.calls }

end Pass

end DocLint
