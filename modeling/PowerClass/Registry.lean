import PowerClass.Extension
import Std.Data.HashSet

/-!
# PowerClass.Registry

The catalogue of properties: the standard ones and then whatever was added, in the order in which
it was added. A registry is built once, from entries whose names are not empty, use only ASCII
letters, digits and the underscore, and do not repeat, and it never changes.
-/

namespace PowerClass

/-- Why a registry cannot be built. -/
inductive RegistryError where
  | duplicateName (name : String)
  | emptyName
  | invalidName (name : String)
  | unknownExtensionSet (name : String)
  | tooManyProperties (count : Nat)
  deriving DecidableEq

namespace RegistryError

def message : RegistryError → String
  | .duplicateName name => "duplicate property name `" ++ name ++ "`"
  | .emptyName => "property names must not be empty"
  | .invalidName name =>
    "invalid property name `" ++ name ++ "`: only ASCII letters, digits and `_` are allowed"
  | .unknownExtensionSet name => "unknown extension set `" ++ name ++ "`"
  | .tooManyProperties count => "registry is full (" ++ Decimal.ofNat count ++ " properties)"

end RegistryError

/-- What is added to the standard properties: a known set or a single property. -/
inductive Addition where
  | known (set : ExtensionSet)
  | single (extension : Extension)
  deriving DecidableEq

namespace Addition

def entries : Addition → List Entry
  | .known set => set.entries
  | .single extension => [extension.entry]

def named (name : String) : Except RegistryError Addition :=
  match ExtensionSet.ofName? name with
  | some set => .ok (.known set)
  | none => .error (.unknownExtensionSet name)

end Addition

/-- Registered properties, each at the position of its identifier. -/
structure Registry where
  descriptors : List Descriptor
  deriving DecidableEq

namespace Registry

/-- The most properties that a registry holds. -/
def capacity : Nat := 65535

def isNameChar (c : Char) : Bool :=
  c.isAlphanum || c == '_'

/-- The first entry at fault, where the names before the entries are known. -/
def firstFault? (seen : Std.HashSet String) : List Entry → Option RegistryError
  | [] => none
  | entry :: rest =>
    if entry.name.isEmpty then some .emptyName
    else if !entry.name.toList.all isNameChar then some (.invalidName entry.name)
    else if seen.contains entry.name then some (.duplicateName entry.name)
    else firstFault? (seen.insert entry.name) rest

/-- The fault of a list of entries, none when a registry can be built from them. -/
def fault? (entries : List Entry) : Option RegistryError :=
  if capacity < entries.length then some (.tooManyProperties entries.length)
  else firstFault? ∅ entries

def ofEntries (entries : List Entry) : Registry :=
  ⟨entries.mapIdx fun i entry => ⟨⟨UInt16.ofNat i⟩, entry.name, entry.kind⟩⟩

/-- The standard properties and nothing else. -/
def standard : Registry :=
  ofEntries standardEntries

/-- The number of standard properties, and so the first identifier of an addition. -/
def standardSize : Nat :=
  standardEntries.length

def build (additions : List Addition) : Except RegistryError Registry :=
  let entries := standardEntries ++ additions.flatMap Addition.entries
  match fault? entries with
  | some fault => .error fault
  | none => .ok (ofEntries entries)

def size (registry : Registry) : Nat :=
  registry.descriptors.length

def get? (registry : Registry) (id : PropertyId) : Option Descriptor :=
  registry.descriptors[id.index.toNat]?

def lookup? (registry : Registry) (name : String) : Option Descriptor :=
  registry.descriptors.find? fun d => d.name == name

end Registry
end PowerClass
