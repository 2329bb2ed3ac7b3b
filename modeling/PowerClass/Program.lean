import PowerClass.Command.Arguments
import PowerClass.Command.Run

/-!
# PowerClass.Program

The program: a command line is read and its command carried out, and the exit code says how that
went.
-/

namespace PowerClass

/-- How a run of the program ends. -/
inductive Outcome where
  | succeeded
  | failed (failure : Failure)
  | refused (error : ArgumentError)

def Outcome.exitCode : Outcome → Nat
  | .succeeded => 0
  | .failed _ => 1
  | .refused _ => 2

namespace Program

variable {m : Type → Type} [Monad m] [Host m]

def version : String := "supplyfs 0.3.0"

def usage : List String :=
  ["Inspect power supplies through the power_supply property model", "",
    "Usage: supplyfs [OPTIONS] [COMMAND]", "",
    "Commands:",
    "  list                            List power supplies (default)",
    "  props [-d DEVICE] [--json]      List registered properties, or the attributes of a supply",
    "  show DEVICE PROPERTY            Read one property attribute",
    "  store DEVICE PROPERTY VALUE     Write one property attribute",
    "  uevent DEVICE [--json]          Print the uevent environment of a supply",
    "  watch DEVICE [-s SAMPLES] [-i INTERVAL] [-c]",
    "                                  Emit snapshots as JSON at a fixed interval",
    "  config [--path] [--reset]       Show or reset configuration",
    "  help [COMMAND]                  Print this text", "",
    "Options:",
    "  --root ROOT                     Power supply class directory to read from",
    "  --fixture FIXTURE               Read supplies from a TOML fixture instead of sysfs",
    "  --extension SET                 Enable mtk-gauge, oppo or oppo-short-userspace",
    "  --log-level LEVEL               off, error, warn, info, debug or trace",
    "  --log-file                      Write logs to the runtime directory instead of stderr",
    "  -h, --help                      Print this text",
    "  -V, --version                   Print the version"]

def run (words : List String) : m Outcome := do
  match Arguments.read words with
  | .error (.fault e) => pure (.refused e)
  | .error .help => do
    Host.print (Output.lines usage)
    pure .succeeded
  | .error .version => do
    Host.print (Output.lines [version])
    pure .succeeded
  | .ok (options, command) => do
    match ← Command.run options command with
    | .error failure => pure (.failed failure)
    | .ok () => pure .succeeded

end Program
end PowerClass
