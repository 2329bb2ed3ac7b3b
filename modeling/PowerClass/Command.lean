import PowerClass.Disk.Path
import PowerClass.Extension

/-!
# PowerClass.Command

What the program can be asked to do, and the options that hold for whatever it does.
-/

namespace PowerClass

/-- One thing to do with supplies. A watch of zero samples has no end; its interval is in
nanoseconds. -/
inductive Task where
  | list
  | properties (device : Option String) (asJson : Bool)
  | showAttribute (device property : String)
  | storeAttribute (device property text : String)
  | uevent (device : String) (asJson : Bool)
  | watch (device : String) (samples interval : Nat) (isCompact : Bool)
  deriving DecidableEq

/-- One thing to do: a task on supplies, or something about the settings. -/
inductive Command where
  | task (task : Task)
  | settings (onlyPath reset : Bool)
  deriving DecidableEq

/-- The options of all commands. -/
structure Options where
  root : Option Path
  fixture : Option Path
  sets : List ExtensionSet
  logLevel : Option String
  logsToFile : Bool
  deriving DecidableEq

end PowerClass
