/-!
# PowerClass.RateLimit

A limit on how often something is reported: at most a burst of events in each window of time. A
window opens with the first event that comes an interval or more after the window before it was
opened, and that event learns how many were refused in that window.
-/

namespace PowerClass

/-- How many events are admitted, and for how long a window lasts. -/
structure RateLimit where
  interval : Nat
  burst : Nat
  deriving DecidableEq

namespace RateLimit

/-- The current window: when it was opened, how many events it admitted, how many it refused. -/
structure Window where
  start : Option Nat
  admitted : Nat
  refused : Nat
  deriving DecidableEq

/-- Before the first event. -/
def Window.initial : Window := ⟨none, 0, 0⟩

/-- Whether an event at a time opens a new window. A time before the start of the window counts as
its start. -/
def opensWindow (limit : RateLimit) (window : Window) (now : Nat) : Bool :=
  match window.start with
  | none => true
  | some start => limit.interval ≤ now - start

/-- Decides on an event at a time. An admitted event is told how many events were refused in the
window before its own, when it opened its own. -/
def check (limit : RateLimit) (window : Window) (now : Nat) : Option Nat × Window :=
  let fresh := limit.opensWindow window now
  let told := if fresh then window.refused else 0
  let current : Window := if fresh then ⟨some now, 0, 0⟩ else window
  if current.admitted < limit.burst then
    (some told, ⟨current.start, current.admitted + 1, current.refused⟩)
  else (none, ⟨current.start, current.admitted, current.refused + 1⟩)

/-- Decides on events at the given times, in order. -/
def checkAll (limit : RateLimit) (window : Window) : List Nat → List (Option Nat)
  | [] => []
  | now :: rest =>
    let (answer, window) := limit.check window now
    answer :: limit.checkAll window rest

end RateLimit
end PowerClass
