/-!
# A window over jobs

Jobs are started in order, and at most so many are in flight at a time. Whenever one in flight ends, the
next one starts. In which order the jobs end is not up to the window: an order is given, and where it says
nothing the oldest job ends first.
-/

namespace DocLint

set_option autoImplicit false

/-- The jobs of a window, each known by its index. -/
structure Window where
  /-- Jobs that have not been started, in order. -/
  waiting : List Nat
  /-- Jobs that have been started and have not ended, the oldest first. -/
  inFlight : List Nat
  /-- Jobs that have ended, in the order of their ends. -/
  ended : List Nat
  deriving DecidableEq, Repr

namespace Window

/-- What happens to a job. -/
inductive Event where
  | started (job : Nat)
  | ended (job : Nat)
  deriving DecidableEq, Repr

/-- A window over so many jobs before any of them is started. -/
def new (jobs : Nat) : Window :=
  ⟨List.range jobs, [], []⟩

/-- Starts jobs as long as there is room. -/
def fill (limit : Nat) (w : Window) : List Event × Window :=
  let n := limit - w.inFlight.length
  let starting := w.waiting.take n
  (starting.map .started,
    { w with waiting := w.waiting.drop n, inFlight := w.inFlight ++ starting })

/-- Ends the job at an index of those in flight, or the oldest if there is none at that index. -/
def endJob (index : Nat) (w : Window) : List Event × Window :=
  let k := if index < w.inFlight.length then index else 0
  match w.inFlight[k]? with
  | some job =>
    ([.ended job], { w with inFlight := w.inFlight.eraseIdx k, ended := w.ended ++ [job] })
  | none => ([], w)

/-- Ends jobs in the given order until all have ended: each entry is an index of those in flight. Every
step ends one job, so their number bounds the steps. -/
def run (limit : Nat) (order : List Nat) : Nat → Window → List Event × Window
  | 0, w => ([], w)
  | fuel + 1, w =>
    let (starts, w) := w.fill limit
    let (ends, w) := w.endJob (order.headD 0)
    let (events, w) := run limit order.tail fuel w
    (starts ++ ends ++ events, w)

/-- The events of so many jobs. -/
def events (limit : Nat) (order : List Nat) (jobs : Nat) : List Event :=
  (run limit order jobs (new jobs)).1

/-- The jobs in the order of their ends. -/
def endOrder (limit : Nat) (order : List Nat) (jobs : Nat) : List Nat :=
  (run limit order jobs (new jobs)).2.ended

end Window

end DocLint
