import PowerClass.Registry
import PowerClass.Supply.Type

/-!
# PowerClass.Supply.Declaration

What a supply declares when it is registered: its name, its type and its properties. The properties
must be registered, must not repeat, and the supply's type is not among them, since every supply
shows it.
-/

namespace PowerClass

/-- Why a declaration is refused. -/
inductive DeclarationError where
  | duplicate (id : PropertyId)
  | unknownProperty (id : PropertyId)
  | deviceTypeDeclared (name : String)
  deriving DecidableEq

namespace DeclarationError

def message : DeclarationError → String
  | .duplicate id => "property " ++ id.display ++ " declared more than once"
  | .unknownProperty id => "property " ++ id.display ++ " is not in the registry"
  | .deviceTypeDeclared name =>
    "`" ++ name ++ "` is synthesized from the supply type and cannot be declared"

end DeclarationError

/-- The name, the type and the properties of a supply, the properties in declaration order. -/
structure Declaration where
  name : String
  type : SupplyType
  properties : List PropertyId
  deriving DecidableEq

namespace Declaration

/-- The first declared property at fault, where the properties before it are known. -/
def firstFault? (registry : Registry) (seen : List PropertyId) :
    List PropertyId → Option DeclarationError
  | [] => none
  | id :: rest =>
    match registry.get? id with
    | none => some (.unknownProperty id)
    | some d =>
      if d.kind = .deviceType then some (.deviceTypeDeclared d.name)
      else if id ∈ seen then some (.duplicate id)
      else firstFault? registry (id :: seen) rest

def validate (registry : Registry) (name : String) (type : SupplyType)
    (properties : List PropertyId) : Except DeclarationError Declaration :=
  match firstFault? registry [] properties with
  | some fault => .error fault
  | none => .ok ⟨name, type, properties⟩

def declares (d : Declaration) (id : PropertyId) : Bool :=
  d.properties.contains id

def toJson (d : Declaration) : Json :=
  .obj [("name", .str d.name), ("supply_type", d.type.toJson),
    ("properties", .arr (d.properties.map PropertyId.toJson))]

end Declaration
end PowerClass
