/-!
# PowerClass.Toml

The values of a TOML document. Floats and datetimes keep their literals.
-/

namespace PowerClass

/-- A TOML value. The fields of a table have different names. -/
inductive Toml where
  | string (text : String)
  | integer (n : Int)
  | float (literal : String)
  | boolean (value : Bool)
  | datetime (literal : String)
  | array (items : List Toml)
  | table (fields : List (String × Toml))

namespace Toml

def typeName : Toml → String
  | .string _ => "string"
  | .integer _ => "integer"
  | .float _ => "float"
  | .boolean _ => "boolean"
  | .datetime _ => "datetime"
  | .array _ => "array"
  | .table _ => "table"

def text? : Toml → Option String
  | .string text => some text
  | _ => none

def items? : Toml → Option (List Toml)
  | .array items => some items
  | _ => none

def fields? : Toml → Option (List (String × Toml))
  | .table fields => some fields
  | _ => none

def texts? (value : Toml) : Option (List String) := do
  let items ← value.items?
  items.mapM text?

/-- What a field holds, or the given value when the field is missing. -/
def fieldOr {α : Type} (fields : List (String × Toml)) (name : String) (missing : α)
    (read : Toml → Option α) : Option α :=
  match fields.lookup name with
  | none => some missing
  | some value => read value

/-- The item at a position, or the given value when there are fewer items. -/
def itemOr {α : Type} (items : List Toml) (i : Nat) (missing : α) (read : Toml → Option α) :
    Option α :=
  match items[i]? with
  | none => some missing
  | some value => read value

/-- A variant without content: its name, or a table whose only field has that name and holds an
empty array or table. -/
def variant? {α : Type} (names : List (String × α)) : Toml → Option α
  | .string name => names.lookup name
  | .table [(name, .array [])] => names.lookup name
  | .table [(name, .table [])] => names.lookup name
  | _ => none

end Toml
end PowerClass
