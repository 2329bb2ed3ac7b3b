import PowerClass.Supply.Declaration
import PowerClass.Supply.Error

/-!
# PowerClass.Supply

The device side of a power supply: what it declared, a getter, a setter, and a predicate that says
which properties it lets be written. The monad is that of the device: a state that the device
keeps, the disk that it reads, or the outside world. `Supply.logged` is the same device with a log
of the calls that it receives.
-/

namespace PowerClass

/-- A power supply over the effects of its device. -/
structure Supply (m : Type → Type) where
  declaration : Declaration
  get : PropertyId → m (Except DeviceError Value)
  set : PropertyId → Value → m (Except DeviceError Unit)
  isWritable : PropertyId → m Bool

/-- A call of a device's getter or setter. -/
inductive Call where
  | get (id : PropertyId)
  | set (id : PropertyId) (value : Value)
  deriving DecidableEq

namespace Supply

variable {m : Type → Type} [Monad m]

/-- A device that only gives values: it has no setter, and nothing is writable. -/
def readOnly (declaration : Declaration) (get : PropertyId → m (Except DeviceError Value)) :
    Supply m where
  declaration := declaration
  get := get
  set _ _ := pure (.error .notSupported)
  isWritable _ := pure false

/-- The getter of a supply and nothing else of it. -/
def withoutSetter (supply : Supply m) : Supply m :=
  readOnly supply.declaration supply.get

/-- The device over other effects, among which `run` performs its own. -/
def hoist {n : Type → Type} (run : ∀ {α : Type}, m α → n α) (supply : Supply m) : Supply n where
  declaration := supply.declaration
  get id := run (supply.get id)
  set id value := run (supply.set id value)
  isWritable id := run (supply.isWritable id)

def logged (supply : Supply m) : Supply (StateT (List Call) m) where
  declaration := supply.declaration
  get id := do
    modify (· ++ [.get id])
    monadLift (supply.get id)
  set id value := do
    modify (· ++ [.set id value])
    monadLift (supply.set id value)
  isWritable id := monadLift (supply.isWritable id)

end Supply
end PowerClass
