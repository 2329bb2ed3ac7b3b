import PowerClass.Supply.Directory
import PowerClass.Supply.Simulated

/-!
# PowerClass.Source

Where supplies come from: the directories below a root, or the file of a fixture. Both give supplies
that are used in the same way; a simulated one keeps its state only as long as it is open.
-/

namespace PowerClass

/-- Where supplies come from. -/
inductive Source where
  | directories (root : Path)
  | fixture (path : Path)
  deriving DecidableEq

/-- Why a source does not give supplies. -/
inductive SourceError where
  | directory (error : Directory.OpenError)
  | unreadable (path : Path) (error : FileError)
  | invalid (path : Path) (error : FixtureError)
  | notFound (name : String) (path : Path)

namespace SourceError

/-- The messages of an error and of what caused it, outermost first. -/
def causes : SourceError → List String
  | .directory error => error.causes
  | .unreadable path error => ["failed to read fixture " ++ path.text, error.message]
  | .invalid path error => ("invalid fixture " ++ path.text) :: error.causes
  | .notFound name path => ["no power supply named `" ++ name ++ "` in " ++ path.text]

end SourceError

/-- A supply that was opened, with what it keeps at first. -/
inductive OpenSupply where
  | directory (directory : Directory)
  | simulated (simulated : Simulated) (state : SimulatedState)

namespace OpenSupply

variable {m : Type → Type} [Monad m] [Disk m]

def declaration : OpenSupply → Declaration
  | .directory d => d.declaration
  | .simulated s _ => s.declaration

/-- What the supply keeps in memory at first. A directory keeps nothing there. -/
def state : OpenSupply → SimulatedState
  | .directory _ => ⟨.empty, .empty⟩
  | .simulated _ state => state

def supply : OpenSupply → Supply (StateT SimulatedState m)
  | .directory d => d.supply.hoist fun act => StateT.lift act
  | .simulated s _ => s.supply.hoist fun act state => pure (act state)

end OpenSupply

namespace Source

variable {m : Type → Type} [Monad m] [Disk m]

def display : Source → String
  | .directories root => "Sysfs(" ++ root.quote ++ ")"
  | .fixture path => "Fixture(" ++ path.quote ++ ")"

def loadFixture (registry : Registry) (path : Path) :
    m (Except SourceError (List OpenSupply)) := do
  match ← Disk.readText path with
  | .error e => pure (.error (.unreadable path e))
  | .ok text =>
    match Simulated.load registry text with
    | .error e => pure (.error (.invalid path e))
    | .ok supplies => pure (.ok (supplies.map fun (s, state) => .simulated s state))

/-- Opens everything in a source, with the errors of directories that are no supply. -/
def survey (registry : Registry) :
    Source → m (Except SourceError (List (Except (Path × Directory.OpenError) OpenSupply)))
  | .directories root => do
    match ← Directory.survey registry root with
    | .error e => pure (.error (.directory e))
    | .ok opened =>
      pure (.ok (opened.map fun (path, result) =>
        (result.map OpenSupply.directory).mapError (path, ·)))
  | .fixture path => (fun result => result.map fun all => all.map .ok) <$> loadFixture registry path

def find (registry : Registry) (name : String) : Source → m (Except SourceError OpenSupply)
  | .directories root =>
    (fun result => (result.map OpenSupply.directory).mapError .directory) <$>
      Directory.find registry root name
  | .fixture path =>
    (fun
      | .error e => .error e
      | .ok all =>
        match all.find? fun s => s.declaration.name == name with
        | some s => .ok s
        | none => .error (.notFound name path)) <$> loadFixture registry path

end Source
end PowerClass
