import PowerClass.Disk.Tree
import PowerClass.Host

/-!
# PowerClass.Host.Recorded

A world that is a plain value: a tree of files, an account, a clock that only pauses move, and a
record of all that commands printed and logged.
-/

namespace PowerClass

/-- A world and what it has seen. Lines are in order; `logged` are those that went to files. -/
structure Recorded where
  tree : Tree
  surroundings : Surroundings
  timestamp : String
  clock : Nat := 0
  output : String := ""
  messages : List String := []
  logged : List String := []

namespace Recorded

def onTree {α : Type} (change : StateM Tree α) : StateM Recorded α := fun world =>
  let (answer, tree) := change world.tree
  (answer, { world with tree })

instance : Disk (StateM Recorded) where
  readText path := onTree (Disk.readText path)
  writeText path text := onTree (Disk.writeText path text)
  status path := onTree (Disk.status path)
  listDirectory path := onTree (Disk.listDirectory path)
  makeDirectories path := onTree (Disk.makeDirectories path)

def record (world : Recorded) (event : Event) : Destination → Recorded
  | .user => { world with messages := world.messages ++ [event.line] }
  | .directory _ => { world with logged := world.logged ++ [event.line] }

instance : Host (StateM Recorded) where
  surroundings := fun world => (world.surroundings, world)
  print text := fun world => ((), { world with output := world.output ++ text })
  warn line := fun world => ((), { world with messages := world.messages ++ [line] })
  log destination event := fun world => ((), world.record event destination)
  timestamp := fun world => (world.timestamp, world)
  now := fun world => (world.clock, world)
  sleep pause := fun world => ((), { world with clock := world.clock + pause })

end Recorded
end PowerClass
