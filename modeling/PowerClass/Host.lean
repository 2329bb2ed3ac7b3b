import PowerClass.Disk
import PowerClass.Log.Event
import PowerClass.Surroundings

/-!
# PowerClass.Host

What a command needs of the world besides files: the account that it runs in, a place for its
output, a place for its log, and the time.
-/

namespace PowerClass

/-- Where log lines go: to the user, or to a file in a directory. -/
inductive Destination where
  | user
  | directory (path : Path)
  deriving DecidableEq

/-- The world of a command. Times and pauses are in nanoseconds; `warn` tells the user a line that
is no output. -/
class Host (m : Type → Type) extends Disk m where
  surroundings : m Surroundings
  print : String → m Unit
  warn : String → m Unit
  log : Destination → Event → m Unit
  timestamp : m String
  now : m Nat
  sleep : Nat → m Unit

variable {m : Type → Type} [Monad m]

instance {σ : Type} [Disk m] : Disk (StateT σ m) where
  readText path := StateT.lift (Disk.readText path)
  writeText path text := StateT.lift (Disk.writeText path text)
  status path := StateT.lift (Disk.status path)
  listDirectory path := StateT.lift (Disk.listDirectory path)
  makeDirectories path := StateT.lift (Disk.makeDirectories path)

instance {σ : Type} [Host m] : Host (StateT σ m) where
  surroundings := StateT.lift Host.surroundings
  print text := StateT.lift (Host.print text)
  warn text := StateT.lift (Host.warn text)
  log destination event := StateT.lift (Host.log destination event)
  timestamp := StateT.lift Host.timestamp
  now := StateT.lift Host.now
  sleep pause := StateT.lift (Host.sleep pause)

end PowerClass
