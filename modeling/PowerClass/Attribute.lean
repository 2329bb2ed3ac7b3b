import PowerClass.Attribute.Access
import PowerClass.Attribute.Mode

/-!
# PowerClass.Attribute

The attributes of one supply, by name: their list, their modes, and how they are shown and stored.
A property that the supply hides has no attribute, so its name answers like one that nobody knows.
-/

namespace PowerClass

/-- A property of a supply and how the supply exposes it. -/
structure Attribute where
  descriptor : Descriptor
  mode : Mode
  deriving DecidableEq

namespace Supply

variable {m : Type → Type} [Monad m]

/-- The visible attributes, in the order of the registry. -/
def attributes (supply : Supply m) (registry : Registry) : m (List Attribute) :=
  (fun attributes => attributes.filter fun a => a.mode.isVisible) <$>
    registry.descriptors.mapM fun d => (⟨d, ·⟩) <$> supply.mode d

/-- The mode of an attribute, hidden when no property has the name. -/
def attributeMode (supply : Supply m) (registry : Registry) (name : String) : m Mode :=
  match registry.lookup? name with
  | none => pure .hidden
  | some d => supply.mode d

def findAttribute (supply : Supply m) (registry : Registry) (name : String) :
    m (Except AccessError Attribute) :=
  match registry.lookup? name with
  | none => pure (.error (.unknownAttribute name))
  | some d =>
    (fun mode => if mode.isVisible then .ok ⟨d, mode⟩ else .error (.unknownAttribute name)) <$>
      supply.mode d

/-- The text of an attribute, one line with its newline. -/
def showAttribute (supply : Supply m) (registry : Registry) (name : String) :
    m (Except AccessError String) := do
  match ← supply.findAttribute registry name with
  | .error e => pure (.error e)
  | .ok a => supply.read registry a.descriptor.id

/-- Stores text in an attribute. The answer is the number of bytes taken, which is all of them. -/
def storeAttribute (supply : Supply m) (registry : Registry) (name text : String) :
    m (Except AccessError Nat) := do
  match ← supply.findAttribute registry name with
  | .error e => pure (.error e)
  | .ok a =>
    if a.mode.isWritable then
      (fun result => result.map fun () => text.utf8ByteSize) <$>
        supply.write registry a.descriptor.id text
    else pure (.error (.readOnly name))

end Supply
end PowerClass
