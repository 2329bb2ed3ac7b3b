import PowerClass.Supply

/-!
# PowerClass.Attribute.Mode

How a supply exposes a registered property. The type of the supply is always readable; any other
property must be declared, and is writable only when the device says so.
-/

namespace PowerClass

/-- Whether, and how, a property is exposed. -/
inductive Mode where
  | hidden
  | readOnly
  | readWrite
  deriving DecidableEq

namespace Mode

def permissions : Mode → Nat
  | .hidden => 0
  | .readOnly => 0o444
  | .readWrite => 0o644

def octal (mode : Mode) : String :=
  String.ofList (Nat.toDigits 8 mode.permissions)

/-- The permission bits in the long form of a listing. -/
def symbolic : Mode → String
  | .hidden => "----------"
  | .readOnly => "-r--r--r--"
  | .readWrite => "-rw-r--r--"

def label : Mode → String
  | .hidden => "hidden"
  | .readOnly => "read_only"
  | .readWrite => "read_write"

def isVisible (mode : Mode) : Bool :=
  mode != .hidden

def isWritable (mode : Mode) : Bool :=
  mode == .readWrite

end Mode

def Supply.mode {m : Type → Type} [Monad m] (supply : Supply m) (d : Descriptor) : m Mode :=
  if d.kind = .deviceType then pure .readOnly
  else if supply.declaration.declares d.id then
    (fun writable => if writable then .readWrite else .readOnly) <$> supply.isWritable d.id
  else pure .hidden

end PowerClass
