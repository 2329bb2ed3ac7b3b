import PowerClass.Duration
import PowerClass.Host
import PowerClass.Log.Filter
import PowerClass.Log.Notice
import PowerClass.RateLimit

/-!
# PowerClass.Log.Logger

A logger keeps the notices that its filter keeps and sends them to its destination. When the log is
off there is no logger. Readings that fail are logged at a limited rate, and the limit counts them
whether or not a logger keeps them.
-/

namespace PowerClass

/-- What of the log is kept, and where it goes. -/
structure Logger where
  filter : Filter
  destination : Destination
  deriving DecidableEq

namespace Logger

variable {m : Type → Type} [Monad m] [Host m]

def note (logger : Option Logger) (notice : Notice) : m Unit :=
  match logger with
  | none => pure ()
  | some logger =>
    if logger.filter.keeps notice.event then Host.log logger.destination notice.event else pure ()

/-- Logs notices in order. -/
def noteAll (logger : Option Logger) : List Notice → m Unit
  | [] => pure ()
  | notice :: rest => do
    note logger notice
    noteAll logger rest

/-- The limit on failed readings: ten in five seconds. -/
def failureLimit : RateLimit := ⟨5 * Duration.second, 10⟩

/-- Logs what is to be said of a property that was not read, where `window` is that of the limit on
failed readings. -/
def noteUnread (logger : Option Logger) (window : RateLimit.Window) (supply property : String)
    (error : AccessError) : m RateLimit.Window := do
  match error with
  | .noData =>
    note logger (.noData supply property)
    pure window
  | .deviceFailure _ =>
    match failureLimit.check window (← Host.now) with
    | (none, window) => pure window
    | (some suppressed, window) => do
      note logger (.readingFailed supply property error suppressed)
      pure window
  | _ => pure window

def noteReadings (logger : Option Logger) (registry : Registry) (supply : String)
    (window : RateLimit.Window) : List Reading → m RateLimit.Window
  | [] => pure window
  | ⟨_, .ok _⟩ :: rest => noteReadings logger registry supply window rest
  | ⟨id, .error e⟩ :: rest => do
    match registry.get? id with
    | none => noteReadings logger registry supply window rest
    | some d =>
      let window ← noteUnread logger window supply d.name e
      noteReadings logger registry supply window rest

end Logger
end PowerClass
