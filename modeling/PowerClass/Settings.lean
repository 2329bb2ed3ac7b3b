import PowerClass.Disk.Path
import PowerClass.Log.Level
import PowerClass.Registry
import PowerClass.Supply.Directory
import PowerClass.Toml.Writer

/-!
# PowerClass.Settings

What a user sets for all commands: where supplies are found, how much is logged, and what is added
to the standard properties. The settings are written as a TOML document in which every field may be
left out.
-/

namespace PowerClass

/-- The settings. The properties of the sets come before the single ones. -/
structure Settings where
  root : Path
  verbosity : Verbosity
  sets : List ExtensionSet
  extensions : List Extension
  deriving DecidableEq

/-- The property that a table describes, or an array of name and kind. The kind may be left out. -/
def Extension.ofToml? : Toml → Option Extension
  | .table fields => do
    let name ← (fields.lookup "name").bind Toml.text?
    let kind ← Toml.fieldOr fields "kind" .int (Toml.variant? ExtensionKind.variants)
    some ⟨name, kind⟩
  | .array (first :: rest) => do
    let name ← first.text?
    let kind ← Toml.itemOr rest 0 .int (Toml.variant? ExtensionKind.variants)
    some ⟨name, kind⟩
  | _ => none

def Extension.toToml (e : Extension) : Toml :=
  .table [("name", .string e.name), ("kind", .string e.kind.label)]

namespace Settings

/-- The settings when nothing is set. -/
def default : Settings := ⟨.ofString Directory.defaultRoot, .upTo .warn, [], []⟩

/-- The settings that the fields of a document describe. Other fields count for nothing. -/
def ofFields? (fields : List (String × Toml)) : Option Settings := do
  let root ← Toml.fieldOr fields "sysfs_root" default.root fun value =>
    value.text?.map Path.ofString
  let verbosity ← Toml.fieldOr fields "log_level" default.verbosity
    (Toml.variant? Verbosity.variants)
  let sets ← Toml.fieldOr fields "extensions" [] fun value => do
    (← value.items?).mapM (Toml.variant? ExtensionSet.variants)
  let extensions ← Toml.fieldOr fields "extension" [] fun value => do
    (← value.items?).mapM Extension.ofToml?
  some ⟨root, verbosity, sets, extensions⟩

def ofText? (text : String) : Option Settings :=
  (Toml.read? text).bind ofFields?

def toFields (s : Settings) : List (String × Toml) :=
  [("sysfs_root", .string s.root.text), ("log_level", .string s.verbosity.name),
    ("extensions", .array (s.sets.map fun set => .string set.name)),
    ("extension", .array (s.extensions.map Extension.toToml))]

def toText (s : Settings) : String :=
  Toml.Writer.document s.toFields

/-- The settings with a set at the end, unless they have it. -/
def enable (s : Settings) (set : ExtensionSet) : Settings :=
  if s.sets.contains set then s else { s with sets := s.sets ++ [set] }

/-- The settings with what a command asks for: another root, and more sets. -/
def merge (s : Settings) (root : Option Path) (sets : List ExtensionSet) : Settings :=
  sets.foldl enable { s with root := root.getD s.root }

def additions (s : Settings) : List Addition :=
  s.sets.map .known ++ s.extensions.map .single

def registry (s : Settings) : Except RegistryError Registry :=
  Registry.build s.additions

end Settings
end PowerClass
