/-!
# PowerClass.Log.Level

The levels of log lines, and how much of a log is kept: nothing, or everything up to a level.
-/

namespace PowerClass

/-- The level of a log line, the gravest first. -/
inductive Level where
  | error
  | warn
  | info
  | debug
  | trace
  deriving DecidableEq

namespace Level

/-- The rank of a level. A greater one is of less weight. -/
def rank : Level → Nat
  | .error => 1
  | .warn => 2
  | .info => 3
  | .debug => 4
  | .trace => 5

def label : Level → String
  | .error => "ERROR"
  | .warn => "WARN"
  | .info => "INFO"
  | .debug => "DEBUG"
  | .trace => "TRACE"

end Level

/-- How much of a log is kept. -/
inductive Verbosity where
  | off
  | upTo (level : Level)
  deriving DecidableEq

namespace Verbosity

def keeps (verbosity : Verbosity) (level : Level) : Bool :=
  match verbosity with
  | .off => false
  | .upTo most => level.rank ≤ most.rank

def variants : List (String × Verbosity) :=
  [("off", .off), ("error", .upTo .error), ("warn", .upTo .warn), ("info", .upTo .info),
    ("debug", .upTo .debug), ("trace", .upTo .trace)]

def name : Verbosity → String
  | .off => "off"
  | .upTo level => level.label.toLower

/-- The verbosity that a name stands for in any case, warnings and errors for any other name. -/
def ofName (name : String) : Verbosity :=
  (variants.lookup name.toLower).getD (.upTo .warn)

end Verbosity
end PowerClass
