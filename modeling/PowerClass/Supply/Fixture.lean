import PowerClass.Registry
import PowerClass.Supply.Error
import PowerClass.Supply.Type
import PowerClass.Toml.Reader

/-!
# PowerClass.Supply.Fixture

Fixtures: descriptions of simulated supplies, read from a TOML document with one table for each
supply under the header `[[supply]]`. This module reads the tables; names and values in them are
not yet compared with a registry.
-/

namespace PowerClass

/-- A failure that a fixture injects into the readings of a property. -/
inductive Fault where
  | noData
  | notPresent
  | busy
  | failure
  deriving DecidableEq

namespace Fault

def variants : List (String × Fault) :=
  [("no_data", .noData), ("not_present", .notPresent), ("busy", .busy), ("failure", .failure)]

def ofJson? : Json → Option Fault :=
  Json.variant? variants

def error (fault : Fault) (property : String) : DeviceError :=
  match fault with
  | .noData => .noData
  | .notPresent => .notPresent
  | .busy => .busy
  | .failure => .other ("simulated failure reading " ++ property)

end Fault

/-- The table of one simulated supply. Values are in the order of their names. -/
structure Fixture where
  name : String
  type : SupplyType := .unknown
  properties : Option (List String) := none
  writable : List String := []
  values : List (String × Toml) := []
  errors : List (String × Fault) := []

namespace Fixture

mutual

/-- Whether every integer in a value fits 64 bits. -/
def fits : Toml → Bool
  | .integer n => -0x8000000000000000 ≤ n && n < 0x8000000000000000
  | .array items => allFit items
  | .table fields => fieldsFit fields
  | _ => true

/-- Whether every integer in items fits 64 bits. -/
def allFit : List Toml → Bool
  | [] => true
  | item :: rest => fits item && allFit rest

/-- Whether every integer in fields fits 64 bits. -/
def fieldsFit : List (String × Toml) → Bool
  | [] => true
  | (_, value) :: rest => fits value && fieldsFit rest

end

/-- A table of values, in the order of names. -/
def values? (value : Toml) : Option (List (String × Toml)) := do
  let fields ← value.fields?
  guard (fieldsFit fields)
  some (fields.mergeSort fun a b => a.1 ≤ b.1)

def errors? (value : Toml) : Option (List (String × Fault)) := do
  let fields ← value.fields?
  fields.mapM fun (name, value) => (value.variant? Fault.variants).map (name, ·)

/-- The fixture of a supply: a table whose other fields count for nothing, or an array with the
same contents in order, of which at least the first three must be there. -/
def ofToml? : Toml → Option Fixture
  | .table fields => do
    let name ← (fields.lookup "name").bind Toml.text?
    let type ← Toml.fieldOr fields "type" .unknown (Toml.variant? SupplyType.variants)
    let properties ← Toml.fieldOr fields "properties" none fun value => value.texts?.map some
    let writable ← Toml.fieldOr fields "writeable" [] Toml.texts?
    let values ← Toml.fieldOr fields "values" [] values?
    let errors ← Toml.fieldOr fields "errors" [] errors?
    some ⟨name, type, properties, writable, values, errors⟩
  | .array (first :: second :: third :: rest) => do
    let name ← first.text?
    let type ← second.variant? SupplyType.variants
    let properties ← third.texts?
    let writable ← Toml.itemOr rest 0 [] Toml.texts?
    let values ← Toml.itemOr rest 1 [] values?
    let errors ← Toml.itemOr rest 2 [] errors?
    some ⟨name, type, some properties, writable, values, errors⟩
  | _ => none

/-- The fixtures of a document, in its order. -/
def read? (text : String) : Option (List Fixture) := do
  let document ← Toml.read? text
  let supplies ← Toml.fieldOr document "supply" [] Toml.items?
  supplies.mapM ofToml?

end Fixture
end PowerClass
