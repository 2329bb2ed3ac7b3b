import PowerClass.Disk.Error
import PowerClass.Disk.Path

/-!
# PowerClass.Disk

What a program does with files, over the effects of whoever holds them: the outside world, or a
tree of files that is a plain value.
-/

namespace PowerClass

/-- What a path leads to. -/
inductive FileKind where
  | regular
  | directory
  | special
  deriving DecidableEq

/-- What is known of a file without opening it. -/
structure FileStatus where
  kind : FileKind
  isWritable : Bool
  deriving DecidableEq

/-- Files over the effects of their holder. `status` answers none for what does not exist. -/
class Disk (m : Type → Type) where
  readText : Path → m (Except FileError String)
  writeText : Path → String → m (Except FileError Unit)
  status : Path → m (Option FileStatus)
  listDirectory : Path → m (Except FileError (List String))
  makeDirectories : Path → m (Except FileError Unit)

namespace Disk

variable {m : Type → Type} [Monad m] [Disk m]

def isDirectory (path : Path) : m Bool :=
  (fun found => found.any fun file => file.kind == .directory) <$> status path

def isFile (path : Path) : m Bool :=
  (fun found => found.any fun file => file.kind == .regular) <$> status path

def isWritable (path : Path) : m Bool :=
  (fun found => found.any fun file => file.isWritable) <$> status path

def isThere (path : Path) : m Bool :=
  (fun found => found.isSome) <$> status path

end Disk
end PowerClass
