import PowerClass.Supply

/-!
# PowerClass.Attribute.Access

Reading and writing one property by its identifier, through the codec. A reading asks the device
once, or not at all for the supply's type; a writing decodes the text before the device is asked.
Neither looks at what the supply declared.
-/

namespace PowerClass
namespace Supply

variable {m : Type → Type} [Monad m]

/-- The value of a property. The supply's type comes from its declaration. -/
def fetch (supply : Supply m) (d : Descriptor) : m (Except DeviceError Value) :=
  match d.kind with
  | .deviceType => pure (.ok (.ordinal (Int32.ofNat supply.declaration.type.ordinal)))
  | _ => supply.get d.id

/-- Adds the text of what a device answered to a buffer. A value of the wrong variant is a failure
of the device. -/
def render (buffer : String) (kind : Kind) :
    Except DeviceError Value → Except AccessError Unit × String
  | .error e => (.error (.ofDevice e), buffer)
  | .ok value =>
    match Codec.encodeOnto buffer kind value with
    | (.ok (), text) => (.ok (), text)
    | (.error e, text) => (.error (.deviceFailure (.invalidValue e)), text)

def readOnto (supply : Supply m) (registry : Registry) (id : PropertyId) (buffer : String) :
    m (Except AccessError Unit × String) :=
  match registry.get? id with
  | none => pure (.error (.unknownProperty id), buffer)
  | some d => render buffer d.kind <$> supply.fetch d

/-- The text of a property, one line with its newline. -/
def read (supply : Supply m) (registry : Registry) (id : PropertyId) :
    m (Except AccessError String) :=
  (fun (result, text) => result.map fun () => text) <$> supply.readOnto registry id ""

def write (supply : Supply m) (registry : Registry) (id : PropertyId) (text : String) :
    m (Except AccessError Unit) :=
  match registry.get? id with
  | none => pure (.error (.unknownProperty id))
  | some d =>
    match Codec.decode d.kind text with
    | .error e => pure (.error (.invalidInput e))
    | .ok value => (fun result => result.mapError .ofDevice) <$> supply.set id value

end Supply
end PowerClass
