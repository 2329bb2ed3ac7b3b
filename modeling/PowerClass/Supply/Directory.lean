import PowerClass.Disk
import PowerClass.Supply

/-!
# PowerClass.Supply.Directory

Supplies that are directories of a power supply class, such as `/sys/class/power_supply/BAT0`. Every
registered property with a file of its name is declared when the directory is opened; values are
read from those files and written back to them.
-/

namespace PowerClass

/-- An opened directory, its declaration, and the properties that had a file, as a map from their
identifiers whose entries are in increasing order. -/
structure Directory where
  path : Path
  declaration : Declaration
  descriptors : List Descriptor

namespace Directory

/-- Where supplies are found when nothing else is said. -/
def defaultRoot : String := "/sys/class/power_supply"

/-- Why a directory is no supply, or none is found. -/
inductive OpenError where
  | notSupply (path : Path)
  | invalid (path : Path) (error : DeclarationError)
  | notFound (name : String) (root : Path)
  | unlisted (root : Path) (error : FileError)

namespace OpenError

/-- The messages of an error and of what caused it, outermost first. -/
def causes : OpenError → List String
  | .notSupply path => ["not a supply directory: " ++ path.text]
  | .invalid path error => ["invalid supply at " ++ path.text, error.message]
  | .notFound name root => ["no power supply named `" ++ name ++ "` in " ++ root.text]
  | .unlisted root error => ["failed to list " ++ root.text, error.message]

end OpenError

variable {m : Type → Type} [Monad m] [Disk m]

/-- The type that the text of a `type` file names, unknown when it names none or there is no
text. -/
def typeOf : Except FileError String → SupplyType
  | .ok text => (SupplyType.ofLabel? text).getD .unknown
  | .error _ => .unknown

/-- The properties of a registry that have a file in the directory of a path. -/
def present (path : Path) : List Descriptor → m (List Descriptor)
  | [] => pure []
  | d :: rest => do
    if d.kind = .deviceType then present path rest
    else
      let found ← Disk.isFile (path.join d.name)
      let others ← present path rest
      pure (if found then d :: others else others)

def «open» (registry : Registry) (path : Path) : m (Except OpenError Directory) := do
  match path.fileName? with
  | none => pure (.error (.notSupply path))
  | some name => do
    let type := typeOf (← Disk.readText (path.join "type"))
    let descriptors ← present path registry.descriptors
    match Declaration.validate registry name type (descriptors.map Descriptor.id) with
    | .error e => pure (.error (.invalid path e))
    | .ok declaration => pure (.ok ⟨path, declaration, descriptors⟩)

def descriptor? (directory : Directory) (id : PropertyId) : Option Descriptor :=
  directory.descriptors.find? fun d => d.id = id

/-- The value that the text of a file stands for. The text of a text property is taken as it is,
without the newlines at its end. -/
def decode (kind : Kind) (text : String) : Except DeviceError Value :=
  match kind with
  | .text => .ok (.text (Text.dropNewlines text))
  | kind => (Codec.decode kind text).mapError .invalidValue

def get (directory : Directory) (id : PropertyId) : m (Except DeviceError Value) :=
  match directory.descriptor? id with
  | none => pure (.error .notSupported)
  | some d =>
    (fun
      | .error e => .error (.ofFile e)
      | .ok text => decode d.kind text) <$> Disk.readText (directory.path.join d.name)

/-- Writes a value to the file of its property, without a newline at the end. -/
def set (directory : Directory) (id : PropertyId) (value : Value) :
    m (Except DeviceError Unit) :=
  match directory.descriptor? id with
  | none => pure (.error .notSupported)
  | some d =>
    match Codec.encode d.kind value with
    | .error e => pure (.error (.invalidValue e))
    | .ok text =>
      (fun result => result.mapError .ofFile) <$>
        Disk.writeText (directory.path.join d.name) (Text.dropNewlines text)

def isWritable (directory : Directory) (id : PropertyId) : m Bool :=
  match directory.descriptor? id with
  | none => pure false
  | some d => Disk.isWritable (directory.path.join d.name)

def supply (directory : Directory) : Supply m where
  declaration := directory.declaration
  get := directory.get
  set := directory.set
  isWritable := directory.isWritable

def subdirectories (root : Path) : List String → m (List Path)
  | [] => pure []
  | name :: rest => do
    let found ← Disk.isDirectory (root.join name)
    let others ← subdirectories root rest
    pure (if found then root.join name :: others else others)

/-- Opens the directories of paths, with the errors of those that are no supply. -/
def openAll (registry : Registry) : List Path → m (List (Path × Except OpenError Directory))
  | [] => pure []
  | path :: rest => do
    let opened ← Directory.open registry path
    let others ← openAll registry rest
    pure ((path, opened) :: others)

def supplies (opened : List (Path × Except OpenError Directory)) : List Directory :=
  opened.filterMap fun (_, result) => result.toOption

/-- Opens every directory below a root, in the order of their names. -/
def survey (registry : Registry) (root : Path) :
    m (Except OpenError (List (Path × Except OpenError Directory))) := do
  match ← Disk.listDirectory root with
  | .error e => pure (.error (.unlisted root e))
  | .ok names =>
    let paths ← subdirectories root (names.mergeSort fun a b => a ≤ b)
    .ok <$> openAll registry paths

/-- The supplies below a root, in the order of their names. -/
def discover (registry : Registry) (root : Path) : m (Except OpenError (List Directory)) :=
  (fun result => result.map supplies) <$> survey registry root

def find (registry : Registry) (root : Path) (name : String) :
    m (Except OpenError Directory) := do
  if ← Disk.isDirectory (root.join name) then Directory.open registry (root.join name)
  else pure (.error (.notFound name root))

end Directory
end PowerClass
