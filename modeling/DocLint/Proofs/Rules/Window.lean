import DocLint.Rules.Window
import Mathlib.Data.List.Perm.Basic

/-!
# Runs of a window

A step of a window starts the first job that waits, if there is room, or ends any job in flight. Whatever the
steps are, the jobs started are the first ones, each once, and each has either ended or is in flight. The
window that is given an order is one of these runs, and it goes on until all jobs have ended.
-/

namespace DocLint.Window

set_option autoImplicit false

/-- One job starts or ends. -/
inductive Step (limit : Nat) : Window → Event → Window → Prop where
  | start {job : Nat} {waiting inFlight ended : List Nat} (hroom : inFlight.length < limit) :
      Step limit ⟨job :: waiting, inFlight, ended⟩ (.started job) ⟨waiting, inFlight ++ [job], ended⟩
  | finish {waiting before after ended : List Nat} {job : Nat} :
      Step limit ⟨waiting, before ++ job :: after, ended⟩ (.ended job)
        ⟨waiting, before ++ after, ended ++ [job]⟩

/-- Jobs start and end one after the other, with these events. -/
inductive Run (limit : Nat) (w : Window) : List Event → Window → Prop where
  | nil : Run limit w [] w
  | snoc {events : List Event} {w' w'' : Window} {e : Event} (hrun : Run limit w events w')
      (hstep : Step limit w' e w'') : Run limit w (events ++ [e]) w''

def HasEnded (w : Window) : Prop :=
  w.waiting = [] ∧ w.inFlight = []

/-- The jobs that are started by some events, in order. -/
def startedIn (events : List Event) : List Nat :=
  events.filterMap fun
    | .started job => some job
    | .ended _ => none

section Started
variable (events : List Event) (job : Nat)

@[simp] theorem startedIn_nil : startedIn [] = [] := rfl

@[simp] theorem startedIn_started :
    startedIn (events ++ [.started job]) = startedIn events ++ [job] := by
  simp [startedIn]

@[simp] theorem startedIn_ended : startedIn (events ++ [.ended job]) = startedIn events := by
  simp [startedIn]

end Started

/-- How a window stands after some events, when there were so many jobs to begin with. -/
structure Stands (limit jobs : Nat) (events : List Event) (w : Window) : Prop where
  /-- The jobs started so far are the first ones, in order; the others wait. -/
  inOrder : startedIn events ++ w.waiting = List.range jobs
  /-- Those that have been started are in flight or have ended. -/
  accounted : (w.inFlight ++ w.ended).Perm (startedIn events)
  bounded : w.inFlight.length ≤ limit

theorem stands_new (limit jobs : Nat) : Stands limit jobs [] (new jobs) :=
  ⟨rfl, .nil, Nat.zero_le _⟩

namespace Stands
variable {limit jobs : Nat} {events : List Event} {w w' : Window} {e : Event}

theorem step (h : Stands limit jobs events w) (hstep : Step limit w e w') :
    Stands limit jobs (events ++ [e]) w' := by
  obtain ⟨inOrder, accounted, bounded⟩ := h
  cases hstep with
  | start hroom =>
    refine ⟨?_, ?_, ?_⟩
    · simpa using inOrder
    · rw [startedIn_started, List.append_assoc]
      exact (List.perm_append_comm.append_left _).trans
        (by simpa using accounted.append_right _)
    · rw [List.length_append]
      exact hroom
  | @finish waiting before after ended job =>
    refine ⟨?_, ?_, ?_⟩
    · simpa using inOrder
    · rw [startedIn_ended]
      rw [← List.append_assoc]
      calc List.Perm (before ++ after ++ ended ++ [job]) (job :: (before ++ after ++ ended)) :=
            List.perm_append_singleton ..
        List.Perm _ (before ++ job :: after ++ ended) := List.perm_middle.symm.append_right ended
        List.Perm _ (startedIn events) := accounted
    · simp only [List.length_append, List.length_cons] at bounded ⊢
      omega

theorem startedIn_isPrefix (h : Stands limit jobs events w) : startedIn events <+: List.range jobs :=
  ⟨w.waiting, h.inOrder⟩

theorem startedIn_nodup (h : Stands limit jobs events w) : (startedIn events).Nodup :=
  List.nodup_range.sublist h.startedIn_isPrefix.sublist

theorem ended_perm (h : Stands limit jobs events w) (hend : w.HasEnded) :
    w.ended.Perm (List.range jobs) := by
  have hstarted := h.inOrder
  have haccounted := h.accounted
  rw [hend.1, List.append_nil] at hstarted
  rwa [hend.2, List.nil_append, hstarted] at haccounted

end Stands

namespace Run
variable {limit : Nat} {w w' w'' : Window} {events more : List Event}

theorem stands {jobs : Nat} (h : Run limit (new jobs) events w) : Stands limit jobs events w := by
  induction h with
  | nil => exact stands_new limit jobs
  | snoc _ hstep ih => exact ih.step hstep

theorem trans (h : Run limit w events w') (h' : Run limit w' more w'') :
    Run limit w (events ++ more) w'' := by
  induction h' with
  | nil => rwa [List.append_nil]
  | snoc _ hstep ih =>
    rw [← List.append_assoc]
    exact .snoc ih hstep

/-- What has happened at some time in a run is a run itself. -/
theorem of_isPrefix (h : Run limit w events w') (hpast : more <+: events) :
    ∃ w'', Run limit w more w'' := by
  induction h with
  | nil => exact ⟨w, by rw [List.prefix_nil.mp hpast]; exact .nil⟩
  | snoc hrun hstep ih =>
    rcases List.prefix_concat_iff.mp hpast with rfl | hpast
    · exact ⟨_, .snoc hrun hstep⟩
    · exact ih hpast

end Run

section Order
variable (limit : Nat)

theorem run_start (starting waiting inFlight ended : List Nat)
    (hroom : inFlight.length + starting.length ≤ limit) :
    Run limit ⟨starting ++ waiting, inFlight, ended⟩ (starting.map .started)
      ⟨waiting, inFlight ++ starting, ended⟩ := by
  induction starting generalizing inFlight with
  | nil =>
    rw [List.append_nil]
    exact .nil
  | cons job rest ih =>
    rw [List.length_cons] at hroom
    have hfirst : Run limit ⟨job :: (rest ++ waiting), inFlight, ended⟩ [.started job]
        ⟨rest ++ waiting, inFlight ++ [job], ended⟩ := .snoc .nil (.start (by omega))
    have hrest := ih (inFlight ++ [job]) (by rw [List.length_append, List.length_singleton]; omega)
    simpa using hfirst.trans hrest

theorem run_fill (w : Window) : Run limit w (w.fill limit).1 (w.fill limit).2 := by
  obtain ⟨waiting, inFlight, ended⟩ := w
  by_cases hroom : inFlight.length ≤ limit
  · have hstart := run_start limit (waiting.take (limit - inFlight.length))
      (waiting.drop (limit - inFlight.length)) inFlight ended (by rw [List.length_take]; omega)
    rw [List.take_append_drop] at hstart
    exact hstart
  · have hnone : limit - inFlight.length = 0 := by omega
    simp only [fill, hnone, List.take_zero, List.map_nil, List.drop_zero, List.append_nil]
    exact .nil

theorem run_endJob (index : Nat) (w : Window) : Run limit w (w.endJob index).1 (w.endJob index).2 := by
  obtain ⟨waiting, inFlight, ended⟩ := w
  simp only [endJob]
  generalize (if index < inFlight.length then index else 0) = k
  cases hjob : inFlight[k]? with
  | none => exact .nil
  | some job =>
    obtain ⟨hk, rfl⟩ := List.getElem?_eq_some_iff.mp hjob
    have hstep : Step limit ⟨waiting, inFlight.take k ++ inFlight[k] :: inFlight.drop (k + 1), ended⟩
        (.ended inFlight[k]) ⟨waiting, inFlight.take k ++ inFlight.drop (k + 1), ended ++ [inFlight[k]]⟩ :=
      .finish
    rw [List.getElem_cons_drop, List.take_append_drop, ← List.eraseIdx_eq_take_drop_succ] at hstep
    exact .snoc .nil hstep

/-- What the window does with an order is a run. -/
theorem run_run (order : List Nat) (fuel : Nat) (w : Window) :
    Run limit w (run limit order fuel w).1 (run limit order fuel w).2 := by
  induction fuel generalizing order w with
  | zero => exact .nil
  | succ fuel ih =>
    have hfill := run_fill limit w
    have hend := run_endJob limit (order.headD 0) (w.fill limit).2
    exact (hfill.trans hend).trans (ih order.tail _)

end Order

/-- The number of jobs that have not ended. -/
def left (w : Window) : Nat :=
  w.waiting.length + w.inFlight.length

theorem left_fill (limit : Nat) (w : Window) : (w.fill limit).2.left = w.left := by
  simp only [left, fill, List.length_append, List.length_drop, List.length_take]
  omega

theorem left_endJob (index : Nat) {w : Window} (h : w.inFlight ≠ []) :
    (w.endJob index).2.left + 1 = w.left := by
  have hlen : 0 < w.inFlight.length := List.length_pos_of_ne_nil h
  let k := if index < w.inFlight.length then index else 0
  have hk : k < w.inFlight.length := by
    simp only [k]
    split <;> omega
  have hend : w.endJob index =
      ([.ended w.inFlight[k]],
        { w with inFlight := w.inFlight.eraseIdx k, ended := w.ended ++ [w.inFlight[k]] }) := by
    simp only [endJob]
    rw [List.getElem?_eq_getElem hk]
  have hlength := List.length_eraseIdx_of_lt hk
  simp only [hend, left]
  omega

/-- As long as jobs are left, some job is in flight after the window has been filled. -/
theorem inFlight_fill_ne_nil {limit : Nat} (hlimit : 0 < limit) {w : Window} (h : 0 < w.left) :
    (w.fill limit).2.inFlight ≠ [] := by
  apply List.ne_nil_of_length_pos
  simp only [left] at h
  simp only [fill, List.length_append, List.length_take]
  omega

/-- With enough steps all jobs end. -/
theorem hasEnded_run {limit : Nat} (hlimit : 0 < limit) (order : List Nat) {fuel : Nat} {w : Window}
    (h : w.left ≤ fuel) : (run limit order fuel w).2.HasEnded := by
  induction fuel generalizing order w with
  | zero =>
    simp only [left, Nat.le_zero_eq, Nat.add_eq_zero_iff, List.length_eq_zero_iff] at h
    exact h
  | succ fuel ih =>
    have hfill := left_fill limit w
    have hnext : ((w.fill limit).2.endJob (order.headD 0)).2.left ≤ fuel := by
      by_cases hflight : (w.fill limit).2.inFlight = []
      · have hzero : ¬ 0 < w.left := fun hpos => inFlight_fill_ne_nil hlimit hpos hflight
        have hsame : (w.fill limit).2.endJob (order.headD 0) = ([], (w.fill limit).2) := by
          simp [endJob, hflight]
        simp only [hsame, hfill]
        omega
      · have hend := left_endJob (order.headD 0) hflight
        omega
    exact ih order.tail hnext

end DocLint.Window
