import PowerClass.Settings
import PowerClass.Surroundings

/-!
# PowerClass.Settings.File

The file that the settings are read from and saved to.
-/

namespace PowerClass
namespace Settings

variable {m : Type → Type} [Monad m] [Disk m]

/-- Reads the settings of a file. A file that is missing or has no text leaves the default; a text
that stands for no settings gives none. -/
def load (file : Path) : m (Option Settings) := do
  if ← Disk.isThere file then
    match ← Disk.readText file with
    | .ok text => pure (ofText? text)
    | .error _ => pure (some default)
  else pure (some default)

/-- Saves the settings, in a directory that is made if it is missing. -/
def save (s : Settings) (surroundings : Surroundings) : m (Except FileError Unit) := do
  match ← Disk.makeDirectories surroundings.settingsDirectory with
  | .error e => pure (.error e)
  | .ok () => Disk.writeText surroundings.settingsFile s.toText

end Settings
end PowerClass
