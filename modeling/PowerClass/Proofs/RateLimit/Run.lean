import Mathlib.Data.List.Induction
import PowerClass.RateLimit

/-!
# PowerClass.Proofs.RateLimit.Run

Runs of a rate limit. `checkAll` answers the events of a run; here each answer is kept with the
time of its event and with the window that it left, so that statements can speak of windows.

* `Decides`: the four ways in which an event can be decided, and `decides_decisionAt`: there are no
  others.
* `run`, `map_answer_run`: the decisions of a run, whose answers are those of `checkAll`.
* `run_induction`: what holds before the first event and is kept by each decision holds of all runs.
* `of_decisions_eq`: the part of a run before an event is the run of the events before it.
-/

namespace PowerClass
namespace RateLimit

/-- What was decided on an event: when it came, whether it opened a window, what it was answered,
and the window that it left. -/
structure Decision where
  time : Nat
  opened : Bool
  answer : Option Nat
  window : Window
  deriving DecidableEq

namespace Decision

def isAdmitted (d : Decision) : Bool :=
  d.answer.isSome

/-- The number of refused events that the answer tells of. -/
def told (d : Decision) : Nat :=
  d.answer.getD 0

end Decision

/-- The ways in which an event can be decided that finds a window. An event that opens a window is
told of the refusals in the window that it found, unless no event is ever admitted. -/
inductive Decides (limit : RateLimit) (window : Window) : Decision → Prop where
  | opens {now : Nat} : limit.opensWindow window now = true → 0 < limit.burst →
      Decides limit window ⟨now, true, some window.refused, ⟨some now, 1, 0⟩⟩
  | opensRefused {now : Nat} : limit.opensWindow window now = true → limit.burst = 0 →
      Decides limit window ⟨now, true, none, ⟨some now, 0, 1⟩⟩
  | admits {now : Nat} : limit.opensWindow window now = false → window.admitted < limit.burst →
      Decides limit window
        ⟨now, false, some 0, ⟨window.start, window.admitted + 1, window.refused⟩⟩
  | refuses {now : Nat} : limit.opensWindow window now = false → limit.burst ≤ window.admitted →
      Decides limit window ⟨now, false, none, ⟨window.start, window.admitted, window.refused + 1⟩⟩

variable (limit : RateLimit)

def decisionAt (window : Window) (now : Nat) : Decision :=
  ⟨now, limit.opensWindow window now, (limit.check window now).1, (limit.check window now).2⟩

theorem decides_decisionAt (window : Window) (now : Nat) :
    limit.Decides window (limit.decisionAt window now) := by
  cases ho : limit.opensWindow window now with
  | true =>
    by_cases hb : 0 < limit.burst
    · simpa [decisionAt, check, ho, hb] using Decides.opens ho hb
    · have hzero : limit.burst = 0 := Nat.eq_zero_of_not_pos hb
      simpa [decisionAt, check, ho, hzero] using Decides.opensRefused ho hzero
  | false =>
    by_cases hb : window.admitted < limit.burst
    · simpa [decisionAt, check, ho, hb] using Decides.admits ho hb
    · simpa [decisionAt, check, ho, hb] using Decides.refuses ho (Nat.le_of_not_lt hb)

/-- An event that opens no window comes less than an interval after the start of the window. -/
theorem start_of_not_opensWindow {window : Window} {now : Nat}
    (h : limit.opensWindow window now = false) :
    ∃ start, window.start = some start ∧ now - start < limit.interval := by
  unfold opensWindow at h
  cases hs : window.start with
  | none => simp [hs] at h
  | some start =>
    simp only [hs, decide_eq_false_iff_not, Nat.not_le] at h
    exact ⟨start, rfl, h⟩

theorem le_of_opensWindow {window : Window} {now start : Nat} (hs : window.start = some start)
    (h : limit.opensWindow window now = true) : limit.interval ≤ now - start := by
  simpa [opensWindow, hs] using h

/-! ## Runs -/

/-- The decisions on events at given times, the first of which finds a given window. -/
def decisions (window : Window) : List Nat → List Decision
  | [] => []
  | now :: rest =>
    limit.decisionAt window now :: decisions (limit.decisionAt window now).window rest

/-- The window that events leave. -/
def windowAfter (window : Window) : List Nat → Window
  | [] => window
  | now :: rest => windowAfter (limit.decisionAt window now).window rest

/-- The decisions on events at given times, from the start. -/
def run (times : List Nat) : List Decision :=
  limit.decisions .initial times

theorem map_answer_decisions (window : Window) (times : List Nat) :
    (limit.decisions window times).map Decision.answer = limit.checkAll window times := by
  induction times generalizing window with
  | nil => rfl
  | cons now rest ih =>
    rw [decisions, List.map_cons, ih]
    rfl

theorem map_answer_run (times : List Nat) :
    (limit.run times).map Decision.answer = limit.checkAll .initial times :=
  limit.map_answer_decisions .initial times

theorem map_time_decisions (window : Window) (times : List Nat) :
    (limit.decisions window times).map Decision.time = times := by
  induction times generalizing window with
  | nil => rfl
  | cons now rest ih =>
    rw [decisions, List.map_cons, ih]
    rfl

theorem map_time_run (times : List Nat) : (limit.run times).map Decision.time = times :=
  limit.map_time_decisions .initial times

theorem length_run (times : List Nat) : (limit.run times).length = times.length := by
  rw [← List.length_map Decision.time, map_time_run]

theorem decisions_concat (window : Window) (times : List Nat) (now : Nat) :
    limit.decisions window (times ++ [now]) =
      limit.decisions window times ++ [limit.decisionAt (limit.windowAfter window times) now] := by
  induction times generalizing window with
  | nil => rfl
  | cons first rest ih =>
    rw [List.cons_append, decisions, ih]
    rfl

theorem windowAfter_concat (window : Window) (times : List Nat) (now : Nat) :
    limit.windowAfter window (times ++ [now]) =
      (limit.decisionAt (limit.windowAfter window times) now).window := by
  induction times generalizing window with
  | nil => rfl
  | cons first rest ih =>
    rw [List.cons_append, windowAfter, ih]
    rfl

/-- What holds before the first event, and is kept by each decision, holds of every run and of the
window that it leaves. -/
theorem run_induction {P : List Decision → Window → Prop} (initial : P [] .initial)
    (step : ∀ past window d, P past window → limit.Decides window d → P (past ++ [d]) d.window)
    (times : List Nat) : P (limit.run times) (limit.windowAfter .initial times) := by
  induction times using List.reverseRecOn with
  | nil => exact initial
  | append_singleton times now ih =>
    rw [run, decisions_concat, windowAfter_concat]
    exact step _ _ _ ih (limit.decides_decisionAt _ now)

/-- The decisions of a run before a given one are those of the run of the events before. -/
theorem of_decisions_eq {window : Window} {times : List Nat} {past later : List Decision}
    {d : Decision} (h : limit.decisions window times = past ++ d :: later) :
    ∃ earlier, earlier ++ [d.time] <+: times ∧ limit.decisions window earlier = past ∧
      limit.Decides (limit.windowAfter window earlier) d := by
  induction past generalizing window times with
  | nil =>
    cases times with
    | nil => cases h
    | cons now rest =>
      obtain ⟨rfl, -⟩ := List.cons.inj h
      exact ⟨[], ⟨rest, rfl⟩, rfl, limit.decides_decisionAt window now⟩
  | cons first others ih =>
    cases times with
    | nil => cases h
    | cons now rest =>
      obtain ⟨rfl, hrest⟩ := List.cons.inj h
      obtain ⟨earlier, hprefix, rfl, hd⟩ := ih hrest
      exact ⟨now :: earlier, List.cons_prefix_cons.mpr ⟨rfl, hprefix⟩, rfl, hd⟩

theorem of_mem_run {times : List Nat} {d : Decision} (h : d ∈ limit.run times) :
    ∃ earlier, earlier ++ [d.time] <+: times ∧
      limit.Decides (limit.windowAfter .initial earlier) d := by
  obtain ⟨past, later, h⟩ := List.append_of_mem h
  obtain ⟨earlier, hprefix, -, hd⟩ := limit.of_decisions_eq h
  exact ⟨earlier, hprefix, hd⟩

end RateLimit
end PowerClass
