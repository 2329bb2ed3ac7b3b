import PowerClass.PropertyMap
import PowerClass.Supply
import PowerClass.Supply.Fixture

/-!
# PowerClass.Supply.Simulated

Supplies in memory, set up by a fixture. A property holds a value, a fault, both or neither: a fault
answers before a value, and a value that is stored takes the fault away.
-/

namespace PowerClass

/-- Why a value of a fixture does not suit its property. -/
inductive FixtureValueError where
  | codec (error : CodecError)
  | wrongType (typeName : String) (kind : Kind)
  | tooLarge
  | tooSmall
  deriving DecidableEq

/-- Why a fixture is refused. -/
inductive FixtureError where
  | malformed
  | unknownProperty (supply property : String)
  | badValue (supply property : String) (error : FixtureValueError)
  | declaration (error : DeclarationError)
  deriving DecidableEq

namespace FixtureValueError

def message : FixtureValueError → String
  | .codec error => error.message
  | .wrongType typeName kind =>
    typeName ++ " is not valid for a " ++ kind.display ++ " property"
  | .tooLarge => "number too large to fit in target type"
  | .tooSmall => "number too small to fit in target type"

end FixtureValueError

namespace FixtureError

/-- The messages of an error and of what caused it, outermost first. -/
def causes : FixtureError → List String
  | .malformed => ["TOML parse error"]
  | .unknownProperty supply property =>
    [supply ++ ": unknown property `" ++ property ++ "`"]
  | .badValue supply property error =>
    [supply ++ ": bad value for `" ++ property ++ "`", error.message]
  | .declaration error => [error.message]

end FixtureError

/-- What a simulated supply keeps. -/
structure SimulatedState where
  values : PropertyMap Value
  faults : PropertyMap Fault
  deriving DecidableEq

/-- A simulated supply: its declaration, the names of the declared properties, and the properties
that may be written. -/
structure Simulated where
  declaration : Declaration
  names : PropertyMap String
  writable : List PropertyId
  deriving DecidableEq

namespace Simulated

/-- A number of 32 bits. -/
def int32 (n : Int) : Except FixtureValueError Int32 :=
  if 0x80000000 ≤ n then .error .tooLarge
  else if n < -0x80000000 then .error .tooSmall
  else .ok (Int32.ofInt n)

def value (kind : Kind) (raw : Toml) : Except FixtureValueError Value :=
  match kind, raw with
  | .text, .string text => .ok (.text text)
  | .int64, .integer n => .ok (.int64 (Int64.ofInt n))
  | .int32, .integer n => (int32 n).map .int
  | .enum _, .integer n => (int32 n).map .ordinal
  | .deviceType, .integer n => (int32 n).map .ordinal
  | kind, .string text => (Codec.decode kind text).mapError .codec
  | kind, raw => .error (.wrongType raw.typeName kind)

def lookup (registry : Registry) (supply name : String) : Except FixtureError Descriptor :=
  match registry.lookup? name with
  | some d => .ok d
  | none => .error (.unknownProperty supply name)

/-- The properties that a fixture names, in order. -/
def lookupAll (registry : Registry) (supply : String) :
    List String → Except FixtureError (List PropertyId)
  | [] => .ok []
  | name :: rest => do
    let d ← lookup registry supply name
    let ids ← lookupAll registry supply rest
    .ok (d.id :: ids)

def addValues (registry : Registry) (supply : String) (map : PropertyMap Value) :
    List (String × Toml) → Except FixtureError (PropertyMap Value)
  | [] => .ok map
  | (name, raw) :: rest => do
    let d ← lookup registry supply name
    match value d.kind raw with
    | .error e => .error (.badValue supply name e)
    | .ok value => addValues registry supply (map.insert d.id value) rest

def addFaults (registry : Registry) (supply : String) (map : PropertyMap Fault) :
    List (String × Fault) → Except FixtureError (PropertyMap Fault)
  | [] => .ok map
  | (name, fault) :: rest => do
    let d ← lookup registry supply name
    addFaults registry supply (map.insert d.id fault) rest

/-- The properties that have a value or a fault, in the order of the registry. -/
def mentioned (registry : Registry) (state : SimulatedState) : List PropertyId :=
  (registry.descriptors.map Descriptor.id).filter fun id =>
    (state.values.get? id).isSome || (state.faults.get? id).isSome

def namesOf (registry : Registry) (ids : List PropertyId) : PropertyMap String :=
  ⟨ids.filterMap fun id => (registry.get? id).map fun d => (id, d.name)⟩

/-- The supply of a fixture and what it keeps at first. A fixture that lists no properties declares
those that have a value or a fault. -/
def ofFixture (registry : Registry) (fixture : Fixture) :
    Except FixtureError (Simulated × SimulatedState) := do
  let values ← addValues registry fixture.name .empty fixture.values
  let faults ← addFaults registry fixture.name .empty fixture.errors
  let state : SimulatedState := ⟨values, faults⟩
  let properties ←
    match fixture.properties with
    | some names => lookupAll registry fixture.name names
    | none => .ok (mentioned registry state)
  let writable ← lookupAll registry fixture.name fixture.writable
  match Declaration.validate registry fixture.name fixture.type properties with
  | .error e => .error (.declaration e)
  | .ok declaration => .ok (⟨declaration, namesOf registry properties, writable⟩, state)

def ofFixtures (registry : Registry) (fixtures : List Fixture) :
    Except FixtureError (List (Simulated × SimulatedState)) :=
  fixtures.mapM (ofFixture registry)

def load (registry : Registry) (text : String) :
    Except FixtureError (List (Simulated × SimulatedState)) :=
  match Fixture.read? text with
  | none => .error .malformed
  | some fixtures => ofFixtures registry fixtures

def propertyName (simulated : Simulated) (id : PropertyId) : String :=
  (simulated.names.get? id).getD "?"

/-- The getter: a fault answers before a value. -/
def get (simulated : Simulated) (id : PropertyId) :
    StateM SimulatedState (Except DeviceError Value) :=
  fun state =>
    match state.faults.get? id with
    | some fault => (.error (fault.error (simulated.propertyName id)), state)
    | none =>
      match state.values.get? id with
      | some value => (.ok value, state)
      | none => (.error .noData, state)

/-- The setter: a writable property takes any value and loses its fault. -/
def set (simulated : Simulated) (id : PropertyId) (value : Value) :
    StateM SimulatedState (Except DeviceError Unit) :=
  fun state =>
    if simulated.writable.contains id then
      (.ok (), ⟨state.values.insert id value, state.faults.erase id⟩)
    else (.error .notSupported, state)

def supply (simulated : Simulated) : Supply (StateM SimulatedState) where
  declaration := simulated.declaration
  get := simulated.get
  set := simulated.set
  isWritable id := pure (simulated.writable.contains id)

end Simulated
end PowerClass
