import PowerClass.Attribute.Access

/-!
# PowerClass.Snapshot

A snapshot of a supply: its name and the text of each declared property that could be read, as keys
and values. Properties without data, or whose device is absent or busy, are left out; any other
failure ends the reading and is the answer.
-/

namespace PowerClass

/-- A buffer that is emptied to hold another text. -/
def Text.clear (_buffer : String) : String := ""

/-- Keys and values in order. The first key is `NAME`. -/
structure Snapshot where
  entries : List (String × String)
  deriving DecidableEq

/-- One property that was read for a snapshot. -/
structure Reading where
  id : PropertyId
  result : Except AccessError String

namespace Reading

def isFatal (reading : Reading) : Bool :=
  match reading.result with
  | .ok _ => false
  | .error e => !e.isSkippable

end Reading

namespace Snapshot

def key (registry : Registry) (id : PropertyId) : Except AccessError String :=
  match registry.get? id with
  | none => .error (.unknownProperty id)
  | some d => .ok d.name.toUpper

/-- The entries that readings give. A value ends before its first newline. -/
def entriesOf (registry : Registry) :
    List Reading → Except AccessError (List (String × String))
  | [] => .ok []
  | ⟨id, .ok text⟩ :: rest =>
    match key registry id with
    | .error e => .error e
    | .ok key => (entriesOf registry rest).map ((key, Text.firstLine text) :: ·)
  | ⟨_, .error e⟩ :: rest => if e.isSkippable then entriesOf registry rest else .error e

def ofReadings (registry : Registry) (name : String) (readings : List Reading) :
    Except AccessError Snapshot :=
  (entriesOf registry readings).map fun entries => ⟨("NAME", name) :: entries⟩

def get? (snapshot : Snapshot) (key : String) : Option String :=
  snapshot.entries.lookup key

def lines (snapshot : Snapshot) : List String :=
  snapshot.entries.map fun (key, value) => key ++ "=" ++ value

/-- The entries as one JSON object. Of two entries with one key the later gives the value. -/
def toObject (snapshot : Snapshot) : Json :=
  .ofFields (snapshot.entries.map fun (key, value) => (key, .str value))

def toJson (snapshot : Snapshot) : Json :=
  .obj [("entries",
    .arr (snapshot.entries.map fun (key, value) => .arr [.str key, .str value]))]

end Snapshot

namespace Supply

variable {m : Type → Type} [Monad m]

/-- Reads properties in order, up to the first that ends a snapshot. All readings go onto one
buffer, which is cleared before each of them. -/
def readAllOnto (supply : Supply m) (registry : Registry) (scratch : String) :
    List PropertyId → m (List Reading)
  | [] => pure []
  | id :: rest => do
    let (result, scratch) ← supply.readOnto registry id (Text.clear scratch)
    let reading : Reading := ⟨id, result.map fun () => scratch⟩
    if reading.isFatal then pure [reading]
    else (reading :: ·) <$> supply.readAllOnto registry scratch rest

/-- The readings of a snapshot, on a new buffer. -/
def readAll (supply : Supply m) (registry : Registry) (ids : List PropertyId) : m (List Reading) :=
  supply.readAllOnto registry "" ids

def snapshot (supply : Supply m) (registry : Registry) : m (Except AccessError Snapshot) :=
  Snapshot.ofReadings registry supply.declaration.name <$>
    supply.readAll registry supply.declaration.properties

end Supply
end PowerClass
