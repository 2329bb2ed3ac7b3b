import PowerClass.Attribute
import PowerClass.Settings
import PowerClass.Surroundings
import PowerClass.Uevent

/-!
# PowerClass.Command.Output

What commands print. A column has a least width in characters, and longer contents make it wider.
-/

namespace PowerClass
namespace Output

/-- Lines, each with its newline. -/
def lines (texts : List String) : String :=
  String.join (texts.map fun text => text ++ "\n")

def left (width : Nat) (text : String) : String :=
  text ++ String.ofList (List.replicate (width - text.length) ' ')

def right (width : Nat) (text : String) : String :=
  String.ofList (List.replicate (width - text.length) ' ') ++ text

def json (value : Json) : String :=
  value.pretty 0 ++ "\n"

def supplyRow (name type properties : String) : String :=
  left 20 name ++ " " ++ left 12 type ++ " " ++ properties

def supplies : List Declaration → String
  | [] => lines ["No power supplies found"]
  | declarations =>
    lines (supplyRow "NAME" "TYPE" "PROPERTIES" ::
      declarations.map fun d =>
        supplyRow d.name d.type.label (Decimal.ofNat d.properties.length))

def registry (r : Registry) : String :=
  lines (r.descriptors.map fun d =>
    right 3 (Decimal.ofNat d.id.index.toNat) ++ "  " ++ left 32 d.name ++ " " ++ d.kind.display)

def registryJson (r : Registry) : String :=
  json (.arr (r.descriptors.map Descriptor.toJson))

def attributes (all : List Attribute) : String :=
  lines (all.map fun a =>
    a.mode.symbolic ++ " " ++ left 32 a.descriptor.name ++ " " ++ a.descriptor.kind.display)

def attributesJson (all : List Attribute) : String :=
  json (.arr (all.map fun a =>
    .obj [("name", .str a.descriptor.name), ("kind", a.descriptor.kind.toJson),
      ("mode", .str a.mode.label), ("permissions", .str a.mode.octal)]))

def stored (device property : String) (size : Nat) : String :=
  lines [device ++ "/" ++ property ++ ": " ++ Decimal.ofNat size ++ " bytes written"]

def uevent (env : Uevent.Environment) : String :=
  lines env.vars

def snapshot (s : Snapshot) : String :=
  json s.toObject

/-- What a snapshot gives a sample: its properties, or why there are none. -/
def sampleField : Except AccessError Snapshot → String × Json
  | .ok s => ("properties", s.toObject)
  | .error e => ("error", .str e.message)

def sample (isCompact : Bool) (timestamp device : String)
    (result : Except AccessError Snapshot) : String :=
  let document : Json :=
    .obj [("timestamp", .str timestamp), ("supply", .str device), sampleField result]
  if isCompact then document.compact ++ "\n" else json document

/-- The size of the registry that the settings give, or why they give none. -/
def registrySummary : Except RegistryError Registry → String
  | .ok r =>
    "Registry: " ++ Decimal.ofNat r.size ++ " properties (" ++
      Decimal.ofNat Registry.standardSize ++ " standard, " ++
      Decimal.ofNat (r.size - Registry.standardSize) ++ " from extensions)"
  | .error e => "Registry: invalid extensions: invalid property extensions: " ++ e.message

def sets : String :=
  String.intercalate ", " (ExtensionSet.all.map fun set =>
    set.name ++ " (" ++ Decimal.ofNat set.properties.length ++ ")")

/-- The settings, where they are kept, and what follows from them. -/
def settings (surroundings : Surroundings) (s : Settings) : String :=
  lines ["Config file:   " ++ surroundings.settingsFile.text,
    "Log directory: " ++ surroundings.logDirectory.text, "", s.toText, registrySummary s.registry,
    "Extension sets: " ++ sets]

end Output
end PowerClass
