import PowerClass.PropertyMap
import PowerClass.Supply

/-!
# PowerClass.Supply.Scripted

A device that answers by a script: each property has an outcome, a value or an error, and a value
that is set becomes the outcome of its property unless the script makes the setter fail.
-/

namespace PowerClass

/-- What a scripted device answers next. -/
structure Script where
  outcomes : PropertyMap (Except DeviceError Value)
  setterError : Option DeviceError

namespace Script

/-- The getter: a property without an outcome has no data. -/
def get (id : PropertyId) : StateM Script (Except DeviceError Value) :=
  fun script => ((script.outcomes.get? id).getD (.error .noData), script)

/-- The setter: it fails as the script says, or the value becomes the outcome. -/
def set (id : PropertyId) (value : Value) : StateM Script (Except DeviceError Unit) :=
  fun script =>
    match script.setterError with
    | some error => (.error error, script)
    | none => (.ok (), { script with outcomes := script.outcomes.insert id (.ok value) })

def supply (declaration : Declaration) (writable : List PropertyId) : Supply (StateM Script) where
  declaration := declaration
  get := get
  set := set
  isWritable id := pure (writable.contains id)

end Script
end PowerClass
